-- Rings of seats. An item sits where its number points to, or on one of the next seats; where these
-- are taken, what is left of the number says how to go on. A seat that was left counts as taken in
-- this search, but is then given away before the free one that was found. A ring is never taken by
-- more than three fifths.

namespace SyntaxHandles.Sequence

structure Ring (α : Type) where
  size : Nat := 8
  -- The seats that are taken, from the first to the last, and who still sits there.
  seats : List (Nat × Option (Nat × α)) := []

namespace Ring

variable {α : Type}

def numbered (ring : Ring α) : List (Nat × α) :=
  ring.seats.filterMap Prod.snd

def items (ring : Ring α) : List α :=
  ring.numbered.map Prod.snd

-- How many seats are tried next to the one that was pointed to, unless the ring ends before.
def neighbours : Nat := 9

-- The first free seat among some, and the last one before it that was left.
def search (state : Nat → Option Bool) (left : Option Nat) : List Nat → Option Nat × Option Nat
  | [] => (none, left)
  | place :: places =>
    match state place with
    | none => (some place, left)
    | some isLeft => search state (if isLeft then some place else left) places

-- Whether a seat is left or taken is only known of those that are not free.
def seatFrom (size : Nat) (state : Nat → Option Bool) : (fuel rest place : Nat) → Option Nat → Nat
  | 0, _, place, _ => place
  | fuel + 1, rest, place, left =>
    let reach := if place + neighbours < size then neighbours + 1 else 1
    match search state left (List.range' place reach) with
    | (some free, left) => left.getD free
    | (none, left) =>
      let rest := rest / 32
      seatFrom size state fuel rest ((place * 5 + 1 + rest) % size) left

-- Gives a seat to an item that is not there yet. What is left of a number is nothing before long,
-- and from then on all seats are tried.
def seat (ring : Ring α) (item : Nat × α) : Ring α :=
  let state place := (ring.seats.lookup place).map Option.isNone
  let place := seatFrom ring.size state (ring.size + 64) item.1 (item.1 % ring.size) none
  let (before, behind) := ring.seats.span fun (other, _) => other < place
  { ring with
    seats := before ++ (place, some item) :: behind.dropWhile fun (other, _) => other = place }

-- The smallest size that is larger than a number.
def sizeAbove (least : Nat) : (fuel size : Nat) → Nat
  | 0, size => size
  | fuel + 1, size => if least < size then size else sizeAbove least fuel (2 * size)

-- The same items in a ring of another size, with all other seats free.
def resized (ring : Ring α) (least : Nat) : Ring α :=
  ring.numbered.foldl seat { size := sizeAbove least least 8 }

def isFull (ring : Ring α) (more : Nat) : Bool :=
  (ring.size - 1) * 3 ≤ (ring.seats.length + more) * 5

def grown (ring : Ring α) : Ring α :=
  let used := ring.numbered.length
  ring.resized (if 50000 < used then 2 * used else 4 * used)

-- A ring only grows when it loses a free seat.
def add (ring : Ring α) (item : Nat × α) : Ring α :=
  let next := ring.seat item
  if ring.seats.length < next.seats.length && next.isFull 0 then next.grown else next

-- Makes room for more items at once.
def reserve (ring : Ring α) (more : Nat) : Ring α :=
  if ring.isFull more then ring.resized (2 * (ring.numbered.length + more)) else ring

-- All items leave for a new ring.
def copied (ring : Ring α) : Ring α :=
  let empty : Ring α := ({ } : Ring α).reserve ring.numbered.length
  if empty.size = ring.size && ring.seats.length = ring.numbered.length then ring
  else ring.numbered.foldl seat empty

-- The item at some place among the items leaves.
def leave (ring : Ring α) (place : Nat) : Ring α :=
  match (ring.seats.filter fun (_, item) => item.isSome)[place]? with
  | none => ring
  | some (taken, _) =>
    { ring with
      seats := ring.seats.map fun (other, item) =>
        (other, if other = taken then none else item) }

-- Seats are freed where more than a quarter of them is not in use.
def tidied (ring : Ring α) : Ring α :=
  if ring.seats.length - ring.numbered.length ≤ (ring.size - 1) / 4 then ring else ring.grown

end Ring

end SyntaxHandles.Sequence
