import SyntaxHandles.Constants.Table
import SyntaxHandles.Dynamic.Run
import SyntaxHandles.Location
import SyntaxHandles.Options.Index
import SyntaxHandles.Options.Parse
import SyntaxHandles.Registry.Run
import SyntaxHandles.Session.Run
import SyntaxHandles.Text.Utf8
import SyntaxHandles.Token
import SyntaxHandles.Traversal.Recursive
import SyntaxHandles.Proofs.Traversal.Matching
import SyntaxHandles.Proofs.Traversal.Relation
import SyntaxHandles.Proofs.Traversal.Trace
import SyntaxHandles.Proofs.Traversal.Refinement
import SyntaxHandles.Proofs.Traversal.Passing
import SyntaxHandles.Proofs.Native.Accounts
import SyntaxHandles.Proofs.Registry.Descending
import SyntaxHandles.Proofs.Registry.Issued
import SyntaxHandles.Proofs.Effect
import SyntaxHandles.Proofs.Session.Changes
import SyntaxHandles.Proofs.Session.Sound
import SyntaxHandles.Proofs.Session.Runs
import SyntaxHandles.Proofs.Session.Provenance
import SyntaxHandles.Proofs.Session.Lifetimes
import SyntaxHandles.Proofs.Session.Sessions
import SyntaxHandles.Proofs.Session.Moments
import SyntaxHandles.Proofs.Session.Sharing
import SyntaxHandles.Proofs.Session.IndexLifetime
import SyntaxHandles.Proofs.Session.Parsing
import SyntaxHandles.Proofs.Session.Tokens
import SyntaxHandles.Proofs.Session.Visiting
import SyntaxHandles.Proofs.Session.Questions
import SyntaxHandles.Proofs.Session.Stability
import SyntaxHandles.Proofs.Session.GivingBack
import SyntaxHandles.Proofs.Registry.Collection
import SyntaxHandles.Proofs.Registry.Reuse
import SyntaxHandles.Proofs.Registry.Lawful
import SyntaxHandles.Proofs.Registry.Recorded
import SyntaxHandles.Proofs.Registry.Kept
import SyntaxHandles.Proofs.Registry.Work
import SyntaxHandles.Proofs.Registry.Growth
import SyntaxHandles.Proofs.Registry.Holds
import SyntaxHandles.Proofs.Registry.Keeps
import SyntaxHandles.Proofs.Registry.Answers
import SyntaxHandles.Proofs.Registry.Released
import SyntaxHandles.Proofs.Registry.Calls
import SyntaxHandles.Proofs.Registry.Conflicts
import SyntaxHandles.Proofs.Registry.Reentry
import SyntaxHandles.Proofs.Registry.Rule
import SyntaxHandles.Proofs.Session.Unhindered
import SyntaxHandles.Proofs.Session.Scripts
import SyntaxHandles.Proofs.Dynamic.Program
import SyntaxHandles.Proofs.Dynamic.Course
import SyntaxHandles.Proofs.Dynamic.Fresh
import SyntaxHandles.Proofs.Dynamic.Follows
import SyntaxHandles.Proofs.Dynamic.Unseen
import SyntaxHandles.Proofs.Dynamic.Start
import SyntaxHandles.Proofs.Dynamic.Objects
import SyntaxHandles.Proofs.Dynamic.Blocks
import SyntaxHandles.Proofs.Dynamic.Calls
import SyntaxHandles.Proofs.Dynamic.Visits
import SyntaxHandles.Proofs.Dynamic.Raising
import SyntaxHandles.Proofs.Dynamic.Refinement
import SyntaxHandles.Proofs.Dynamic.Courses
import SyntaxHandles.Proofs.Dynamic.Outcomes
import SyntaxHandles.Proofs.Traversal.Endings
import SyntaxHandles.Proofs.Traversal.Places
import SyntaxHandles.Proofs.Traversal.Preorder
import SyntaxHandles.Proofs.Traversal.Exchanges
import SyntaxHandles.Proofs.Traversal.Returning
import SyntaxHandles.Proofs.Json.Gives
import SyntaxHandles.Proofs.Json.Grammar
import SyntaxHandles.Proofs.Json.Spelling
import SyntaxHandles.Proofs.Json.RoundTrip
import SyntaxHandles.Proofs.Json.Skipping
import SyntaxHandles.Proofs.Json.Layout
import SyntaxHandles.Proofs.Json.Document
import SyntaxHandles.Proofs.Json.Writing
import SyntaxHandles.Proofs.Registry.Frame
import SyntaxHandles.Proofs.Registry.Isolation
import SyntaxHandles.Proofs.Registry.Disposal
import SyntaxHandles.Proofs.Registry.RoundTrip
import SyntaxHandles.Proofs.Registry.Lookless
import SyntaxHandles.Proofs.Registry.Rounds
import SyntaxHandles.Proofs.Registry.Moves
import SyntaxHandles.Proofs.Registry.Serials
import SyntaxHandles.Proofs.Options.Layouts
import SyntaxHandles.Proofs.Options.Flags
import SyntaxHandles.Proofs.Messages
import SyntaxHandles.Proofs.Dynamic.Answers
