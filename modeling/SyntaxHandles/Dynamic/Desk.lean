import SyntaxHandles.Dynamic.Interface
import SyntaxHandles.Dynamic.Raised
import SyntaxHandles.Scripting
import SyntaxHandles.Sequence.Ring

-- What a host keeps while it works with the interface: labels for values, what lists and tables
-- hold, what became of exceptions, and what was changed of classes.

namespace SyntaxHandles.Dynamic

open Scripting
open SessionScript (Item)

-- What an exception says of itself.
structure Account where
  ofClass : Class
  -- A tuple.
  arguments : Value
  cause : Value := .nothing
  context : Value := .nothing
  isContextSuppressed : Bool := false
  -- The table of what was attached, once somebody asked for it.
  attachments : Option Nat := none

-- What can be changed of a class.
structure Guise where
  name : Option String := none
  qualifiedName : Option String := none
  -- What the class has under names.
  entries : List (String × Value)

structure Desk where
  -- The name by which the host knows the interface.
  interface : String
  labels : List (String × Value) := []
  lists : List (Nat × List Value) := []
  tables : List (Nat × List (Value × Value)) := []
  sets : List (Nat × Sequence.Ring Value) := []
  accounts : List (Nat × Account) := []
  guises : List (Class × Guise) := []
  homes : List (Function × Value) := []
  -- The next identity.
  made : Nat := Interface.table + 1

abbrev Script := Scripting.Script Desk

-- What ends a step early. A script that uses a name without meaning is no affair of the interface.
inductive Problem
  | raised (raised : Raised)
  | noObject

-- A part of a step, which may end the step early.
abbrev Part := ExceptT Problem Script

def raise {α : Type} (raised : Raised) : Part α :=
  throw (.raised raised)

-- What does not fit is refused without words.
def refuse {α : Type} : Part α :=
  raise (.type none)

def orRaise {α : Type} : Except Raised α → Part α
  | .ok value => pure value
  | .error raised => raise raised

def orNoAttribute {α : Type} : Option α → Part α
  | some value => pure value
  | none => raise .noAttribute

def orRefuse {α : Type} : Option α → Part α
  | some value => pure value
  | none => refuse

def attempt {α : Type} (operation : Operation α) : Part α := do
  match ← (perform operation : Script _) with
  | .ok value => return value
  | .error fault => raise (.fault fault)

def ask {α : Type} (question : Desk → α) : Part α := do
  return question (← (desk : Script Desk))

def change (f : Desk → Desk) : Part Unit :=
  (modifyDesk f : Script Unit)

def find (label : String) : Part Value := do
  match ← ask (·.labels.lookup label) with
  | some value => return value
  | none => throw .noObject

def unlabel (label : String) : Script Unit :=
  modifyDesk fun desk => { desk with labels := desk.labels.filter (·.1 ≠ label) }

def giveLabel (label : Option String) (value : Value) : Script Unit :=
  match label with
  | none => return ()
  | some label => modifyDesk fun desk => { desk with labels := (label, value) :: desk.labels }

-- An identity that no object has yet.
def newIdentity : Script Nat := do
  let made := (← desk).made
  modifyDesk fun desk => { desk with made := made + 1 }
  return made

mutual

-- A value that can be told from all others from now on, and so can all that it holds.
def identified : Value → Script Value
  | .int n 0 => return .int n (← newIdentity)
  | .float x 0 => return .float x (← newIdentity)
  | .complex x y 0 => return .complex x y (← newIdentity)
  | .text s 0 => return .text s (← newIdentity)
  | .bytes given 0 => return .bytes given (← newIdentity)
  | .tuple items 0 => return .tuple (← allIdentified items) (← newIdentity)
  | .view aspect table 0 => return .view aspect table (← newIdentity)
  | .mirror source 0 => return .mirror source (← newIdentity)
  | .index n 0 => return .index n (← newIdentity)
  | .union members 0 => return .union members (← newIdentity)
  | .generic isSpread origin arguments 0 =>
    return .generic isSpread origin arguments (← newIdentity)
  | .told names giver name 0 => return .told names giver name (← newIdentity)
  | value => return value

def allIdentified : List Value → Script (List Value)
  | [] => return []
  | value :: values => do
    let value ← identified value
    return value :: (← allIdentified values)

end

def wrap (session : Nat) (item : Item) : Script Value := do
  return .held (← newIdentity) session item

-- Puts what is under a key in the place of what was there, or behind all others.
def replaceAt {κ α : Type} [BEq κ] (key : κ) (value : α) : List (κ × α) → List (κ × α)
  | [] => [(key, value)]
  | (other, old) :: rest =>
    if other == key then (other, value) :: rest else (other, old) :: replaceAt key value rest

def Desk.listAt (desk : Desk) (identity : Nat) : List Value :=
  (desk.lists.lookup identity).getD []

def Desk.tableAt (desk : Desk) (identity : Nat) : List (Value × Value) :=
  (desk.tables.lookup identity).getD []

def listAt (identity : Nat) : Part (List Value) :=
  ask (·.listAt identity)

-- What is in a list can be told from all else.
def setList (identity : Nat) (items : List Value) : Part Unit := do
  let items ← (allIdentified items : Script _)
  change fun desk => { desk with lists := replaceAt identity items desk.lists }

def newList (items : List Value) : Part Value := do
  let identity ← (newIdentity : Script Nat)
  let items ← (allIdentified items : Script _)
  change fun desk => { desk with lists := (identity, items) :: desk.lists }
  return .list identity

def tableAt (identity : Nat) : Part (List (Value × Value)) :=
  ask (·.tableAt identity)

def identifiedEntry (entry : Value × Value) : Script (Value × Value) := do
  let key ← identified entry.1
  return (key, ← identified entry.2)

def setTable (identity : Nat) (entries : List (Value × Value)) : Part Unit := do
  let entries ← (entries.mapM identifiedEntry : Script _)
  change fun desk => { desk with tables := replaceAt identity entries desk.tables }

def newTableAt (entries : List (Value × Value)) : Part Nat := do
  let identity ← (newIdentity : Script Nat)
  let entries ← (entries.mapM identifiedEntry : Script _)
  change fun desk => { desk with tables := (identity, entries) :: desk.tables }
  return identity

def newTable (entries : List (Value × Value)) : Part Value := do
  return .table (← newTableAt entries)

def ringAt (identity : Nat) : Part (Sequence.Ring Value) :=
  ask fun desk => (desk.sets.lookup identity).getD { }

-- What sits in a ring can be told from all else.
def setRing (identity : Nat) (ring : Sequence.Ring Value) : Part Unit := do
  let seats ← ring.seats.mapM fun
    | (place, some (number, item)) => do
      return (place, some (number, ← (identified item : Script Value)))
    | (place, none) => return (place, none)
  change fun desk => { desk with sets := replaceAt identity { ring with seats } desk.sets }

def Desk.account (desk : Desk) (identity : Nat) : Account :=
  (desk.accounts.lookup identity).getD { ofClass := .anyException, arguments := .tuple [] }

def accountOf (identity : Nat) : Part Account :=
  ask (·.account identity)

def changeAccount (identity : Nat) (f : Account → Account) : Part Unit :=
  change fun desk =>
    { desk with accounts :=
        (identity, f (desk.account identity)) :: desk.accounts.filter (·.1 ≠ identity) }

def classOf : Value → Part Class
  | .exception identity => return (← accountOf identity).ofClass
  | value => return value.ofClass

def makeException (c : Class) (arguments : List Value) : Part Value := do
  let identity ← (newIdentity : Script Nat)
  let arguments ← (identified (.tuple arguments) : Script Value)
  changeAccount identity fun _ => { ofClass := c, arguments }
  return .exception identity

-- The table of what was attached to an exception.
def attachmentsOf (identity : Nat) : Part Nat := do
  match (← accountOf identity).attachments with
  | some table => return table
  | none =>
    let table ← newTableAt []
    changeAccount identity fun account => { account with attachments := some table }
    return table

-- What a table has under a name.
def named? (name : String) (entries : List (Value × Value)) : Option Value :=
  (entries.find? fun
    | (.text key _, _) => key = name
    | _ => false).map Prod.snd

def attached? (identity : Nat) (name : String) : Part (Option Value) := do
  match (← accountOf identity).attachments with
  | some table => return named? name (← tableAt table)
  | none => return none

-- What is put anew under a name stays in its place.
def putNamed (table : Nat) (name : String) (value : Value) : Part Unit := do
  let entries ← tableAt table
  if (named? name entries).isSome then
    setTable table (entries.map fun
      | (.text key identity, old) => (.text key identity, if key = name then value else old)
      | entry => entry)
  else setTable table (entries ++ [(.text name, value)])

def removeNamed (table : Nat) (name : String) : Part Unit := do
  let entries ← tableAt table
  if (named? name entries).isNone then raise .noAttribute
  setTable table (entries.filter fun
    | (.text key _, _) => key ≠ name
    | _ => true)

-- Whatever a class has, but what was changed of it.
def Class.entry (c : Class) : Catalogue.Member → Value
  | .operation name => .feature c .operation name
  | .method name .. => .feature c .method name
  | .ofClass name .. => .feature c .ofClass name
  | .shared name .. => .bound c c name
  | .computed name _ => .feature c .computed name
  | .stored name _ => .feature c .stored name
  | .maker => .bound c c "__new__"
  | .documentation lines => Value.lines lines
  | .hashless => .nothing

-- What a class of the interface has to begin with.
def Class.entries (interface : String) (c : Class) : List (String × Value) :=
  let members := c.members.map fun member => (member.name, c.entry member)
  let own := [("__doc__", Value.lines c.documentation), ("__module__", .text (c.home interface))]
  if !c.isOwn then members
  else if c.isException then own ++ members
  else members ++ own

-- The desk of a script that begins.
def Desk.clear (interface : String) : Desk where
  interface
  guises := Class.all.map fun c => (c, { entries := c.entries interface })
  tables :=
    [(Interface.table, (Interface.entries interface).map fun (name, value) => (.text name, value))]

def Desk.guise (desk : Desk) (c : Class) : Guise :=
  (desk.guises.lookup c).getD { entries := c.entries desk.interface }

def guiseOf (c : Class) : Part Guise :=
  ask (·.guise c)

def changeGuise (c : Class) (f : Guise → Guise) : Part Unit :=
  change fun desk => { desk with guises := replaceAt c (f (desk.guise c)) desk.guises }

-- Classes can be given other names.
def nameOf (c : Class) : Part String := do
  return (← guiseOf c).name.getD c.name

def qualifiedNameOf (c : Class) : Part String := do
  return (← guiseOf c).qualifiedName.getD c.name

-- Where a function says that it belongs.
def functionHome (f : Function) : Part Value := do
  return (← ask (·.homes.lookup f)).getD (.text (← ask (·.interface)))

-- What a class itself has.
def ownOf? (c : Class) (name : String) : Part (Option Value) := do
  if c.isOwn then return (← guiseOf c).entries.lookup name
  else return (c.member? name).map c.entry

-- What the first of some classes has that has anything.
def lookUp? (name : String) : List Class → Part (Option Value)
  | [] => return none
  | c :: classes => do
    match ← ownOf? c name with
    | some value => return some value
    | none => lookUp? name classes

-- How a class is named on its own.
def titleOf (c : Class) : Part String := do
  return (← guiseOf c).name.getD c.title

end SyntaxHandles.Dynamic
