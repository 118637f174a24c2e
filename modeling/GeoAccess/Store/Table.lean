import GeoAccess.Event
import GeoAccess.Error

/-!
# Priority tables

Both rule stores keep their rules in a table keyed by identifier, in
ascending identifier order, and every rule carries a priority. Priorities are
kept unique: putting a rule at an occupied priority first moves the occupant
and everything after it down by one, so the relative order of the rules
already there never changes. Priorities are signed 64-bit numbers; a move
that would carry one past the largest fails before anything moves.

- `InsertPosition` says how a new rule's priority is read: as the priority
  itself, as an index from the start, or as a count of rules to stay after it.
- `Table.resolve` turns a requested priority into the one a new rule takes.
- `Table.shift` moves every rule at or after a priority, checking every
  moved priority first, in identifier order; `Table.makeRoom` frees one
  priority.
- `Committed` is what a successful write hands back: the store after it, its
  answer, and the change it announces.
-/

namespace GeoAccess

/-- How the priority of a rule being created is read. -/
inductive InsertPosition where
  /-- The priority itself. -/
  | fixed
  /-- A 0-based index into the ascending priorities: the rule takes the
  priority held there, or goes last past the end. -/
  | fromStart
  /-- A count of rules to stay after the new one: `0` appends, a count past
  the start puts the rule first. -/
  | fromEnd
  deriving DecidableEq, Repr

def InsertPosition.named : List (String × InsertPosition) :=
  [("Fixed", .fixed), ("FromStart", .fromStart), ("FromEnd", .fromEnd)]

namespace Priority

/-- The largest priority. -/
def top : Int := Int.pow 2 63 - 1

/-- The smallest priority. -/
def bottom : Int := -(Int.pow 2 63)

/-- One more than `p`, or `p` itself at the top. -/
def succSat (p : Int) : Int := if p < top then p + 1 else p

end Priority

/-- Values that carry a priority. -/
class Prioritized (α : Type) where
  priority : α → Int
  setPriority : α → Int → α

/-- Entries keyed by identifier, in ascending identifier order, with the last
identifier handed out. Identifiers are never handed out twice. -/
structure Table (α : Type) where
  lastId : Nat := 0
  entries : List (Nat × α) := []
  deriving Repr

/-- The answer of a successful write, the store after it, and the change it
announces, if any. -/
structure Committed (σ α : Type) where
  store : σ
  answer : α
  event : Option AclEvent

namespace Table

variable {α : Type}

/-- The entry of an identifier. -/
def get? (t : Table α) (id : Nat) : Option α := t.entries.lookup id

/-- The entries, in identifier order. -/
def values (t : Table α) : List α := t.entries.map (·.2)

/-- Puts an entry under an identifier into an ascending list, replacing the
entry there. -/
def putEntry (id : Nat) (a : α) : List (Nat × α) → List (Nat × α)
  | [] => [(id, a)]
  | (k, b) :: rest =>
    if id < k then (id, a) :: (k, b) :: rest
    else if id = k then (id, a) :: rest
    else (k, b) :: putEntry id a rest

/-- The table with an entry put under an identifier. -/
def put (t : Table α) (id : Nat) (a : α) : Table α :=
  { t with entries := putEntry id a t.entries }

/-- The table without the entry of an identifier. -/
def erase (t : Table α) (id : Nat) : Table α :=
  { t with entries := t.entries.filter (·.1 != id) }

/-- Whether an identifier has an entry. -/
def contains (t : Table α) (id : Nat) : Bool := t.entries.any (·.1 == id)

/-- The entry of an identifier changed by `f`. -/
def modify (t : Table α) (id : Nat) (f : α → α) : Table α :=
  { t with entries := t.entries.map fun (k, a) => if k = id then (k, f a) else (k, a) }

/-- Hands out the next identifier. -/
def nextId (t : Table α) : Nat × Table α := (t.lastId + 1, { t with lastId := t.lastId + 1 })

/-- The priority a new entry takes when `requested` (not negative) is read as
`position` says. An empty table puts either relative position at 0. -/
def resolve [Prioritized α] (t : Table α) (requested : Int) (position : InsertPosition) : Int :=
  match position with
  | .fixed => requested
  | _ =>
    let ps := (t.values.map Prioritized.priority).mergeSort (· ≤ ·)
    match ps.head?, ps.getLast? with
    | some first, some last =>
      let afterLast := Priority.succSat last
      let offset := requested.toNat
      match position with
      | .fromStart => ps[offset]?.getD afterLast
      | _ =>
        if offset = 0 then afterLast
        else if ps.length ≤ offset then first
        else ps[ps.length - offset]?.getD first
    | _, _ => 0

/-- The new priorities of the entries at or after `start`, other than
`exclude`, moved by `offset`, in identifier order; the first that leaves the
range of priorities is refused. -/
def shifted [Prioritized α] (start offset : Int) (exclude : Option Nat) :
    List (Nat × α) → Except StoreError (List (Nat × Int))
  | [] => .ok []
  | (k, a) :: rest =>
    let p := Prioritized.priority a
    if some k ≠ exclude ∧ start ≤ p then
      if Priority.bottom ≤ p + offset ∧ p + offset ≤ Priority.top then
        (shifted start offset exclude rest).map ((k, p + offset) :: ·)
      else .error (.validation ("shifting priority " ++ toString p ++ " by "
        ++ toString offset ++ " overflows"))
    else shifted start offset exclude rest

/-- Moves every entry at or after `start`, other than `exclude`, by `offset`;
nothing moves unless every moved priority stays in range. Returns the moved
identifiers, ascending. -/
def shift [Prioritized α] (t : Table α) (start offset : Int) (exclude : Option Nat) :
    Except StoreError (Table α × List Nat) := do
  let moves ← shifted start offset exclude t.entries
  let entries := t.entries.map fun (k, a) =>
    match moves.lookup k with
    | some p => (k, Prioritized.setPriority a p)
    | none => (k, a)
  return ({ t with entries }, moves.map (·.1))

/-- Frees `target` by moving it and every later entry, other than `exclude`,
down by one; nothing moves when no other entry holds `target`. -/
def makeRoom [Prioritized α] (t : Table α) (target : Int) (exclude : Option Nat) :
    Except StoreError (Table α) :=
  if t.entries.any fun (k, a) => some k ≠ exclude ∧ Prioritized.priority a = target then
    (t.shift target 1 exclude).map (·.1)
  else .ok t

/-- The entries holding a priority, in identifier order. -/
def atPriority [Prioritized α] (t : Table α) (p : Int) : List α :=
  t.values.filter (Prioritized.priority · = p)

/-- The entries from identifier `cursor` on that pass `keep`, in ascending
priority, ties in identifier order, at most `pageSize` of them. -/
def page [Prioritized α] (t : Table α) (keep : α → Bool) (cursor : Nat)
    (pageSize : Option Nat) : List α :=
  let listed := ((t.entries.filter (·.1 ≥ cursor)).map (·.2)).filter keep
  let sorted := listed.mergeSort fun a b => Prioritized.priority a ≤ Prioritized.priority b
  match pageSize with
  | some n => sorted.take n
  | none => sorted

end Table

end GeoAccess
