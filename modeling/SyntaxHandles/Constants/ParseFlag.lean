import SyntaxHandles.Constants.Constant

-- Bit flags of the parser. `none` stands for the empty set; each other flag has a bit of its own.

namespace SyntaxHandles

inductive ParseFlag
  | none
  | detailedPreprocessingRecord
  | incomplete
  | skipFunctionBodies
  | includeBriefCommentsInCodeCompletion
  | includeAttributedTypes
  deriving DecidableEq, Repr

instance : Constant ParseFlag where
  all := [
    .none, .detailedPreprocessingRecord, .incomplete, .skipFunctionBodies,
    .includeBriefCommentsInCodeCompletion, .includeAttributedTypes]
  name
    | .none => "None"
    | .detailedPreprocessingRecord => "DetailedPreprocessingRecord"
    | .incomplete => "Incomplete"
    | .skipFunctionBodies => "SkipFunctionBodies"
    | .includeBriefCommentsInCodeCompletion => "IncludeBriefCommentsInCodeCompletion"
    | .includeAttributedTypes => "IncludeAttributedTypes"
  raw
    | .none => 0
    | .detailedPreprocessingRecord => 1
    | .incomplete => 2
    | .skipFunctionBodies => 64
    | .includeBriefCommentsInCodeCompletion => 128
    | .includeAttributedTypes => 4096
  exported
    | .none => "CXTranslationUnit_None"
    | .detailedPreprocessingRecord => "CXTranslationUnit_DetailedPreprocessingRecord"
    | .incomplete => "CXTranslationUnit_Incomplete"
    | .skipFunctionBodies => "CXTranslationUnit_SkipFunctionBodies"
    | .includeBriefCommentsInCodeCompletion =>
      "CXTranslationUnit_IncludeBriefCommentsInCodeCompletion"
    | .includeAttributedTypes => "CXTranslationUnit_IncludeAttributedTypes"

namespace ParseFlag

def bits (flag : ParseFlag) : UInt32 :=
  UInt32.ofInt (Constant.raw flag)

-- The parser takes a set of flags as the union of their bits.
def mask (flags : List ParseFlag) : UInt32 :=
  flags.foldl (fun bits flag => bits ||| flag.bits) 0

end ParseFlag

end SyntaxHandles
