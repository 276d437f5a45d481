import SyntaxHandles.Dynamic.Class
import SyntaxHandles.Fault
import SyntaxHandles.Text.Literal

-- Exceptions, as hosts catch them.

namespace SyntaxHandles.Dynamic

inductive Raised
  | fault (fault : Fault)
  -- A value that does not fit where it was given. The interface itself says why; what refuses
  -- values on its behalf does so in words of its own.
  | type (reason : Option String)
  -- A number that does not fit the width that was asked for.
  | overflow
  | noAttribute
  -- Something that a table does not have, in the words in which it shows itself.
  | key (text : String)
  | value (text : String)
  -- A place that a sequence does not have.
  | place
  -- Something that no table of the host knows.
  | unknown
  | zeroDivision
  -- Texts and bytes that an encoding cannot express.
  | unencodable
  | undecodable
  -- More than there is room for.
  | memory
  -- A value within itself, where an end is wanted.
  | endless
  deriving DecidableEq

namespace Raised

def ofFault : Fault → Class
  | .invalidArgument _ => .host "ValueError"
  | .invalidHandle .. => .invalidHandle
  | .parseFailed .. => .parseFailed
  | .resourceExhausted _ => .host "MemoryError"
  | .libraryUnavailable _ => .libraryUnavailable

def ofClass : Raised → Class
  | fault problem => ofFault problem
  | type _ => .host "TypeError"
  | overflow => .host "OverflowError"
  | noAttribute => .host "AttributeError"
  | key _ => .host "KeyError"
  | value _ => .host "ValueError"
  | place => .host "IndexError"
  | unknown => .host "LookupError"
  | zeroDivision => .host "ZeroDivisionError"
  | unencodable => .host "UnicodeEncodeError"
  | undecodable => .host "UnicodeDecodeError"
  | memory => .host "MemoryError"
  | endless => .host "RecursionError"

-- The text of the exception, as far as the interface or the host decides on it.
def message : Raised → Option String
  | fault problem => some problem.message
  | type reason => reason
  | key text | value text => some text
  | memory => some ""
  | _ => none

end Raised

end SyntaxHandles.Dynamic
