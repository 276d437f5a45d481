import SyntaxHandles.Constants.Constant

-- Whether a pointer type admits null, as far as its annotations say.

namespace SyntaxHandles

inductive Nullability
  | nonNull
  | nullable
  | unspecified
  | invalid
  deriving DecidableEq, Repr

instance : Constant Nullability where
  all := [.nonNull, .nullable, .unspecified, .invalid]
  name
    | .nonNull => "NonNull"
    | .nullable => "Nullable"
    | .unspecified => "Unspecified"
    | .invalid => "Invalid"
  raw
    | .nonNull => 0
    | .nullable => 1
    | .unspecified => 2
    | .invalid => 3
  exported
    | .nonNull => "CXTypeNullability_NonNull"
    | .nullable => "CXTypeNullability_Nullable"
    | .unspecified => "CXTypeNullability_Unspecified"
    | .invalid => "CXTypeNullability_Invalid"

namespace Nullability

-- Newer libraries report one more code, for a pointer that is null only on failure. Hosts see it
-- as nullable; any other code that is not a tag says nothing usable.
def ofReport (code : Int) : Nullability :=
  if code = 4 then .nullable else (Constant.ofRaw? code).getD .invalid

end Nullability

end SyntaxHandles
