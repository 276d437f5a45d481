import SyntaxHandles.Dynamic.Host

-- How values compare. A value judges about what it knows, and leaves the rest to the other side.

namespace SyntaxHandles.Dynamic

namespace Value

-- Tokens are the same if they name the same thing.
def sameTokens? : Value → Value → Option Bool
  | held _ _ (.cursor token), held _ _ (.cursor token') => some (CursorToken.same token token')
  | held _ _ (.type token), held _ _ (.type token') => some (TypeToken.same token token')
  | _, _ => none

def isToken : Value → Bool
  | held _ _ (.cursor _) | held _ _ (.type _) => true
  | _ => false

def isCollection : Value → Bool
  | view .keys .. | view .items .. | set _ => true
  | _ => false

-- Views know sets, but sets only know each other.
def knows : Value → Value → Bool
  | set _, set _ => true
  | set _, _ => false
  | a, b => a.isCollection && b.isCollection

-- Whether the class of a value compares its objects in its own way.
def comparesItself : Value → Bool
  | int .. | flag _ | float .. | complex .. | text .. | bytes .. | tuple .. | list _ | table _
  | mirror .. | union .. | generic .. | function _ | getter | bound .. | told .. => true
  | value => value.isToken || value.isCollection

end Value

namespace Host

variable (host : Host)

def containsAll (items : List Value) : List Value → Part Bool
  | [] => return true
  | item :: rest => do
    if ← host.contains item items then containsAll items rest else return false

-- Sequences are ordered by the first parts that differ.
def judgeItems (c : Comparison) : List Value → List Value → Part Value
  | [], [] => return .flag (c.holds (some .eq))
  | [], _ :: _ => return .flag (c.holds (some .lt))
  | _ :: _, [] => return .flag (c.holds (some .gt))
  | a :: as, b :: bs => do
    if ← host.isSame a b then judgeItems c as bs
    else if c.isOrder then host.compare c a b
    else return .flag (c = .unequal)

-- Tables are the same if they have the same under each key, whatever the order.
def sameEntries (others : List (Value × Value)) : List (Value × Value) → Part Bool
  | [] => return true
  | (key, value) :: rest => do
    match ← host.valueAt? others key with
    | none => return false
    | some other => if ← host.isSame other value then sameEntries others rest else return false

def judgeTables (c : Comparison) (a b : List (Value × Value)) : Part Value := do
  if c.isOrder then return .undecided
  let isEqual ← if a.length ≠ b.length then pure false else host.sameEntries b a
  return .flag (isEqual == (c = .equal))

def isWithin (items others : List Value) (isShortEnough : Bool) : Part Bool :=
  if isShortEnough then host.containsAll others items else return false

-- Collections are compared by what they have in common.
def judgeCollections (c : Comparison) (a b : List Value) : Part Bool := do
  match c with
  | .equal => host.isWithin a b (a.length = b.length)
  | .unequal => return !(← host.isWithin a b (a.length = b.length))
  | .less => host.isWithin a b (a.length < b.length)
  | .lessOrEqual => host.isWithin a b (a.length ≤ b.length)
  | .greater => host.isWithin b a (b.length < a.length)
  | .greaterOrEqual => host.isWithin b a (b.length ≤ a.length)

def judgeSame (c : Comparison) (isSame : Bool) : Part Value :=
  return if c.isOrder then .undecided else .flag (isSame == (c = .equal))

-- Numbers of two parts are the same as numbers of one part where the second part is nothing.
def judgeParts (c : Comparison) (x y : Float) (b : Value) : Value :=
  let isSame : Option Bool := match b with
    | .complex x' y' _ => some (x == x' && y == y')
    | b => ((Value.float x).order? b).map fun order => y == 0 && order = some .eq
  match isSame with
  | some isSame => if c.isOrder then .undecided else .flag (isSame == (c = .equal))
  | none => .undecided

-- How the class of a value compares it, unless the class was changed.
def judgeOwn (c : Comparison) (a b : Value) : Part Value := do
  if let some order := a.order? b then return .flag (c.holds order)
  match a, b with
  | .complex x y _, b => return judgeParts c x y b
  | .list m, .list n =>
    let as ← listAt m
    let bs ← listAt n
    if !c.isOrder && as.length ≠ bs.length then return .flag (c = .unequal)
    host.judgeItems c as bs
  | .tuple as _, .tuple bs _ => host.judgeItems c as bs
  | .table m, .table n => do host.judgeTables c (← tableAt m) (← tableAt n)
  | .mirror source _, b => do
    match source with
    | .table _ => host.compare c source b
    | source => host.compare c (← newTable (← mirrored source)) b
  | .union as _, .union bs _ => do
    judgeSame c (← host.isWithin as bs (as.length = bs.length))
  | .generic isSpread origin as _, .generic isSpread' origin' bs _ => do
    if isSpread ≠ isSpread' then return ← judgeSame c false
    let isSame ←
      if ← host.isSame origin origin' then host.isSame (.tuple as) (.tuple bs) else pure false
    judgeSame c isSame
  | a, b =>
    if a.knows b then
      return .flag (← host.judgeCollections c (← elementsOf a) (← elementsOf b))
    else if let some isSame := a.sameTokens? b then judgeSame c isSame
    else if a.ofClass = .functions && b.ofClass = .functions then judgeSame c (a.isSameFunction b)
    else return a.judgeIdentity c b

def negated (answer : Value) : Part Value := do
  match answer with
  | .undecided => return .undecided
  | answer => return .flag !(← host.truth answer)

def judgeEqual (a b : Value) : Part Value := do
  match ← overriding? a (Comparison.text .equal) with
  | some callee => host.tellOverriding a callee [b]
  | none => host.judgeOwn .equal a b

-- How a class compares its objects. What all classes have in common compares by identity, and
-- leaves it to the nearer class to say when values differ. Tokens ask both sides for that.
def judgeBy (giver : Class) (c : Comparison) (a b : Value) : Part Value := do
  if giver = .anything then
    match c with
    | .equal => return a.judgeIdentity c b
    | .unequal => host.negated (← host.judgeEqual a b)
    | _ => return .undecided
  else if c = .unequal && a.isToken then host.negated (← host.compare .equal a b)
  else host.judgeOwn c a b

def judge (c : Comparison) (a b : Value) : Part Value := do
  match ← overriding? a c.text with
  | some callee => host.tellOverriding a callee [b]
  | none => host.judgeBy (if a.comparesItself then a.ofClass else .anything) c a b

-- The side that is asked second is asked the other way round. Where nobody answers, values are the
-- same as themselves only, and have no order.
def compareValues (c : Comparison) (a b : Value) : Part Value := do
  match ← host.judge c a b with
  | .undecided =>
    match ← host.judge c.swapped b a with
    | .undecided =>
      if c.isOrder then refuse
      return .flag (a.isIdentical b == (c = .equal))
    | answer => return answer
  | answer => return answer

end Host

end SyntaxHandles.Dynamic
