import GeoAccess.Store.Table
import GeoAccess.Match

/-!
# The rule store

The data rules, in a priority table. Every write checks its input in a fixed
order and fails before it changes anything; a successful write announces one
change (`AclEvent` of kind `rule`), except a deletion of nothing and a shift
that moves nothing, which announce none.

Rules kept by the store satisfy:
- priorities are unique and not negative;
- among the rules that are not LIMIT, no two have the same identifier and
  grant (the address range compared in its canonical form);
- layer details live only on ALLOW rules that name a layer.

Reads: `findById`, `findOneByPriority`, `count` (by the structural dimensions,
ignoring the address entirely), `findAll` (every dimension, nothing for a
request whose address does not read), `findLayerDetails`.
-/

namespace GeoAccess

instance : Prioritized Rule where
  priority r := r.priority
  setPriority r p := { r with priority := p }

/-- What a listing of rules asks for. -/
structure RuleQuery where
  /-- Only the rules that apply to this request, address included. -/
  filter : Option AccessRequest := none
  pageSize : Option Nat := none
  /-- Only the rules whose identifier is at least this. -/
  cursor : Option Nat := none
  deriving Repr

/-- The stored data rules. -/
structure RuleStore where
  table : Table Rule := {}
  deriving Repr

namespace RuleStore

/-- The failure for an identifier that names no rule. -/
def notFound (id : Nat) : StoreError := .notFound ("rule " ++ toString id)

/-- Refuses a negative priority. -/
def checkPriority (p : Int) : Except StoreError Unit :=
  if p < 0 then .error (.validation ("negative priority is not allowed: " ++ toString p))
  else .ok ()

/-- Refuses layer details on a rule without a layer. -/
def checkPayload (r : Rule) : Except StoreError Unit :=
  if r.access.layerDetails.isSome && r.ident.layer.isNone then
    .error (.validation "layer details require a rule with a concrete layer")
  else .ok ()

/-- Refuses a rule that is not LIMIT and has the identifier and grant of a
stored rule other than `own`. -/
def checkDuplicates (s : RuleStore) (r : Rule) (own : Option Nat) : Except StoreError Unit :=
  if r.grant = .limit then .ok ()
  else if s.table.entries.any fun (k, x) => some k ≠ own ∧ x.identityKey = r.identityKey then
    .error (.conflict ("a rule with the same identifier already exists: " ++ r.ident.render
      ++ " " ++ r.grant.name))
  else .ok ()

/-- The rule of an identifier, or the failure for its absence. -/
def get (s : RuleStore) (id : Nat) : Except StoreError Rule :=
  match s.table.get? id with
  | some r => .ok r
  | none => .error (notFound id)

def findById (s : RuleStore) (id : Nat) : Option Rule := s.table.get? id

def existsById (s : RuleStore) (id : Nat) : Bool := s.table.contains id

/-- The rule holding a priority; two holding it break the store's invariant. -/
def findOneByPriority (s : RuleStore) (p : Int) : Except StoreError (Option Rule) :=
  match s.table.atPriority p with
  | [] => .ok none
  | [r] => .ok (some r)
  | _ => .error (.conflict ("multiple rules share priority " ++ toString p))

/-- How many rules there are, or how many match a request structurally. -/
def count (s : RuleStore) : Option AccessRequest → Nat
  | none => s.table.entries.length
  | some q => (s.table.values.filter (·.ident.matchesStructure q)).length

/-- The rules a query lists, in ascending priority, ties by identifier. -/
def findAll (s : RuleStore) (query : RuleQuery) : List Rule :=
  match query.filter with
  | some q =>
    if q.failsClosed then []
    else s.table.page (·.matches q) (query.cursor.getD 0) query.pageSize
  | none => s.table.page (fun _ => true) (query.cursor.getD 0) query.pageSize

/-- The layer details of a rule. -/
def findLayerDetails (s : RuleStore) (id : Nat) : Except StoreError (Option LayerDetails) :=
  (s.get id).map (·.access.layerDetails)

/-- Creates a rule: it must carry no identifier, a priority that is not
negative and a payload it may carry, and must not duplicate a stored rule.
Its priority is resolved from `position`, room is made there, and it gets the
next identifier. -/
def create (s : RuleStore) (r : Rule) (position : InsertPosition) :
    Except StoreError (Committed RuleStore Rule) := do
  if r.id.isSome then throw (.validation "a new rule must not carry an id")
  checkPriority r.priority
  checkPayload r
  s.checkDuplicates r none
  let p := s.table.resolve r.priority position
  let table ← s.table.makeRoom p none
  let (id, table) := table.nextId
  let stored := { r with id := some id, priority := p }
  return { store := { table := table.put id stored }, answer := stored,
           event := some (AclEvent.created .rule id) }

/-- Replaces a stored rule by the one given, which carries its identifier. A
changed priority makes room there, the rule itself aside. -/
def save (s : RuleStore) (r : Rule) : Except StoreError (Committed RuleStore Rule) := do
  let some id := r.id | throw (.validation "a saved rule must carry an id")
  checkPriority r.priority
  checkPayload r
  let previous ← s.get id
  s.checkDuplicates r (some id)
  let table ← if previous.priority ≠ r.priority then s.table.makeRoom r.priority (some id)
    else pure s.table
  return { store := { table := table.put id r }, answer := r,
           event := some (AclEvent.updated .rule [id]) }

/-- Deletes a rule; tells whether there was one. -/
def delete (s : RuleStore) (id : Nat) : Committed RuleStore Bool :=
  if s.table.contains id then
    { store := { table := s.table.erase id }, answer := true,
      event := some (AclEvent.deleted .rule id) }
  else { store := s, answer := false, event := none }

/-- Moves every rule at or after `start` by a positive `offset`. Answers how
many moved, or `-1` when none did. -/
def shift (s : RuleStore) (start offset : Int) : Except StoreError (Committed RuleStore Int) := do
  if offset ≤ 0 then throw (.validation ("positive offset required, got " ++ toString offset))
  let (table, moved) ← s.table.shift start offset none
  match moved with
  | [] => return { store := s, answer := -1, event := none }
  | _ => return { store := { table }, answer := moved.length,
                  event := some (AclEvent.updated .rule moved) }

/-- Exchanges the priorities of two rules. -/
def swap (s : RuleStore) (id1 id2 : Nat) : Except StoreError (Committed RuleStore Unit) := do
  let p1 := (← s.get id1).priority
  let p2 := (← s.get id2).priority
  let table := (s.table.modify id1 fun r => { r with priority := p2 }).modify id2
    fun r => { r with priority := p1 }
  return { store := { table }, answer := (), event := some (AclEvent.updated .rule [id1, id2]) }

/-- Replaces the styles of an ALLOW rule's layer details; the rule must name a
layer and have details. -/
def setAllowedStyles (s : RuleStore) (id : Nat) (styles : List String) :
    Except StoreError (Committed RuleStore Unit) := do
  let r ← s.get id
  if r.ident.layer.isNone then
    throw (.validation ("rule " ++ toString id ++ " has no layer; cannot set allowed styles"))
  match r.access with
  | .allow (some d) =>
    let r := { r with access := .allow (some { d with allowedStyles := TextSet.ofList styles }) }
    return { store := { table := s.table.put id r }, answer := (),
             event := some (AclEvent.updated .rule [id]) }
  | _ => throw (.validation ("rule " ++ toString id ++ " has no layer details"))

/-- Sets or clears the limits of a LIMIT rule; clearing on another rule
changes nothing but is still announced. -/
def setLimits (s : RuleStore) (id : Nat) (limits : Option RuleLimits) :
    Except StoreError (Committed RuleStore Unit) := do
  let r ← s.get id
  let r ← match r.access, limits with
    | .limit _, l => pure { r with access := .limit l }
    | _, some _ => throw (.validation ("rule " ++ toString id ++ " is not of LIMIT type"))
    | _, none => pure r
  return { store := { table := s.table.put id r }, answer := (),
           event := some (AclEvent.updated .rule [id]) }

/-- Sets or clears the layer details of an ALLOW rule; details need a rule
that names a layer, and clearing on another rule changes nothing but is still
announced. -/
def setLayerDetails (s : RuleStore) (id : Nat) (details : Option LayerDetails) :
    Except StoreError (Committed RuleStore Unit) := do
  let r ← s.get id
  if details.isSome && r.ident.layer.isNone then
    throw (.validation ("rule " ++ toString id ++ " does not refer to a fixed layer"))
  let r ← match r.access, details with
    | .allow _, d => pure { r with access := .allow d }
    | _, some _ => throw (.validation ("rule " ++ toString id ++ " is not of ALLOW type"))
    | _, none => pure r
  return { store := { table := s.table.put id r }, answer := (),
           event := some (AclEvent.updated .rule [id]) }

end RuleStore

end GeoAccess
