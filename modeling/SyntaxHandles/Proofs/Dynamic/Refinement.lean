import SyntaxHandles.Proofs.Dynamic.Blocks
import SyntaxHandles.Proofs.Dynamic.Calls
import SyntaxHandles.Proofs.Dynamic.Visits

-- What becomes of programs of a host is what becomes of their courses in the sessions.

namespace SyntaxHandles.Dynamic

open Scripting Telling
open SessionScript (Item)

section Programs

variable (library : Native.Library) (fuel : Nat) (base : Host)

theorem Literal.plain (literal : Literal) : literal.value.Plain := by
  cases literal with
  | nothing => exact .nothing
  | flag b => exact .flag b
  | int n => exact .int n 0
  | text s => exact .text s 0

theorem Act.follows (act : Act) :
    Follows Shows (act.byHost library fuel (speaker library fuel base))
      (act.bySession library) := by
  cases act with
  | write literal => exact .pure literal.plain.shows
  | copy object => exact follows_find object
  | createIndex exclude display => exact follows_createIndex library fuel _ exclude display
  | parse index file args flags => exact follows_parse library fuel _ index file args flags
  | root unit => exact follows_root library fuel _ unit
  | dispose handle => exact follows_dispose library fuel _ handle
  | askCursor query cursor => exact follows_askCursor library fuel _ query cursor
  | askType query type => exact follows_askType library fuel _ query type
  | tellDispose handle => exact follows_tellDispose library fuel _ handle
  | tellRoot unit => exact follows_tellRoot library fuel _ unit
  | isAlive handle => exact follows_isAlive library fuel _ handle
  | filename unit => exact follows_filename library fuel _ unit
  | isValid token => exact follows_isValid library fuel _ token
  | rawKind token => exact follows_rawKind library fuel _ token

-- By induction over the program, with the bodies of its blocks and the callbacks of its traversals.
theorem Program.follows (program : Program) :
    Follows Always (program.byHost library fuel (speaker library fuel base))
      (program.bySession library fuel) := by
  induction program with
  | done => exact .pure trivial
  | raise text => exact .throw (.raised (.key (Text.literal text))) rfl
  | act operation name next ih =>
      have h := follows_keep name (operation.follows library fuel base)
      rw [bySession, ← bind_assoc]
      exact h.bind fun _ _ _ => ih
  | choose name next ih =>
      refine (follows_known? name).bind fun value sight hk => ?_
      obtain ⟨rfl, -⟩ := hk
      exact ih (value.map Value.sight)
  | block object body next body_ih ih =>
      exact (follows_within library fuel _ object body_ih).bind fun _ _ _ => ih
  | attempt body catches handle next body_ih handle_ih ih =>
      exact (follows_handling library fuel base catches body_ih handle_ih).bind fun _ _ _ => ih
  | visit root child parent callback answer name next callback_ih ih =>
      have h := follows_keep name
        (follows_visiting library fuel root child parent answer callback_ih)
      rw [bySession, ← bind_assoc]
      exact h.bind fun _ _ _ => ih

end Programs

end SyntaxHandles.Dynamic
