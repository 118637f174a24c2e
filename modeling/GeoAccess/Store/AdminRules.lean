import GeoAccess.Store.Table
import GeoAccess.Match

/-!
# The admin rule store

The admin rules, in a priority table, with the same priority discipline as
the data rules. The whole identifier, access included, is unique among all
admin rules; there is no payload to check. Changes are announced as events of
kind `admin_rule`.

A listing's filter is an admin request and has no address: `count` and
`findAll` both keep the rules that match it.
-/

namespace GeoAccess

instance : Prioritized AdminRule where
  priority r := r.priority
  setPriority r p := { r with priority := p }

/-- What a listing of admin rules asks for. -/
structure AdminRuleQuery where
  filter : Option AdminAccessRequest := none
  pageSize : Option Nat := none
  cursor : Option Nat := none
  deriving Repr

/-- The stored admin rules. -/
structure AdminRuleStore where
  table : Table AdminRule := {}
  deriving Repr

namespace AdminRuleStore

/-- The failure for an identifier that names no admin rule. -/
def notFound (id : Nat) : StoreError := .notFound ("admin rule " ++ toString id)

/-- Refuses a negative priority. -/
def checkPriority (p : Int) : Except StoreError Unit :=
  if p < 0 then .error (.validation ("negative priority is not allowed: " ++ toString p))
  else .ok ()

/-- Refuses an admin rule with the identifier of a stored one other than
`own`. -/
def checkDuplicates (s : AdminRuleStore) (r : AdminRule) (own : Option Nat) :
    Except StoreError Unit :=
  if s.table.entries.any fun (k, x) => some k ≠ own ∧ x.ident = r.ident then
    .error (.conflict ("an admin rule with the same identifier already exists: "
      ++ r.ident.render))
  else .ok ()

/-- The admin rule of an identifier, or the failure for its absence. -/
def get (s : AdminRuleStore) (id : Nat) : Except StoreError AdminRule :=
  match s.table.get? id with
  | some r => .ok r
  | none => .error (notFound id)

def findById (s : AdminRuleStore) (id : Nat) : Option AdminRule := s.table.get? id

def existsById (s : AdminRuleStore) (id : Nat) : Bool := s.table.contains id

/-- The admin rule holding a priority; two holding it break the store's
invariant. -/
def findOneByPriority (s : AdminRuleStore) (p : Int) : Except StoreError (Option AdminRule) :=
  match s.table.atPriority p with
  | [] => .ok none
  | [r] => .ok (some r)
  | _ => .error (.conflict ("multiple admin rules share priority " ++ toString p))

/-- How many admin rules there are, or how many match a request. -/
def count (s : AdminRuleStore) : Option AdminAccessRequest → Nat
  | none => s.table.entries.length
  | some q => (s.table.values.filter (·.matches q)).length

/-- The admin rules a query lists, in ascending priority, ties by identifier. -/
def findAll (s : AdminRuleStore) (query : AdminRuleQuery) : List AdminRule :=
  let keep : AdminRule → Bool := match query.filter with
    | some q => (·.matches q)
    | none => fun _ => true
  s.table.page keep (query.cursor.getD 0) query.pageSize

/-- Creates an admin rule: it must carry no identifier, a priority that is not
negative, and must not duplicate a stored one. -/
def create (s : AdminRuleStore) (r : AdminRule) (position : InsertPosition) :
    Except StoreError (Committed AdminRuleStore AdminRule) := do
  if r.id.isSome then throw (.validation "a new admin rule must not carry an id")
  checkPriority r.priority
  s.checkDuplicates r none
  let p := s.table.resolve r.priority position
  let table ← s.table.makeRoom p none
  let (id, table) := table.nextId
  let stored := { r with id := some id, priority := p }
  return { store := { table := table.put id stored }, answer := stored,
           event := some (AclEvent.created .adminRule id) }

/-- Replaces a stored admin rule by the one given, which carries its
identifier. A changed priority makes room there, the rule itself aside. -/
def save (s : AdminRuleStore) (r : AdminRule) :
    Except StoreError (Committed AdminRuleStore AdminRule) := do
  let some id := r.id | throw (.validation "a saved admin rule must carry an id")
  checkPriority r.priority
  let previous ← s.get id
  s.checkDuplicates r (some id)
  let table ← if previous.priority ≠ r.priority then s.table.makeRoom r.priority (some id)
    else pure s.table
  return { store := { table := table.put id r }, answer := r,
           event := some (AclEvent.updated .adminRule [id]) }

/-- Deletes an admin rule; tells whether there was one. -/
def delete (s : AdminRuleStore) (id : Nat) : Committed AdminRuleStore Bool :=
  if s.table.contains id then
    { store := { table := s.table.erase id }, answer := true,
      event := some (AclEvent.deleted .adminRule id) }
  else { store := s, answer := false, event := none }

/-- Moves every admin rule at or after `start` by a positive `offset`.
Answers how many moved, or `-1` when none did. -/
def shift (s : AdminRuleStore) (start offset : Int) :
    Except StoreError (Committed AdminRuleStore Int) := do
  if offset ≤ 0 then throw (.validation ("positive offset required, got " ++ toString offset))
  let (table, moved) ← s.table.shift start offset none
  match moved with
  | [] => return { store := s, answer := -1, event := none }
  | _ => return { store := { table }, answer := moved.length,
                  event := some (AclEvent.updated .adminRule moved) }

/-- Exchanges the priorities of two admin rules. -/
def swap (s : AdminRuleStore) (id1 id2 : Nat) :
    Except StoreError (Committed AdminRuleStore Unit) := do
  let p1 := (← s.get id1).priority
  let p2 := (← s.get id2).priority
  let table := (s.table.modify id1 fun r => { r with priority := p2 }).modify id2
    fun r => { r with priority := p1 }
  return { store := { table }, answer := (),
           event := some (AclEvent.updated .adminRule [id1, id2]) }

end AdminRuleStore

end GeoAccess
