import GeoAccess.Data.Decode

/-!
# Change events

A store announces each change it makes as an event: which kind of rule
changed (data rule or admin rule), how it changed (created, updated,
deleted) and the identifiers of the rules concerned, as a set. Readers that
need the new state read it back from the store; a cache only needs to know
which of its answers may have become wrong.

- `EventType.invalidates` holds for updates and deletions: a creation cannot
  make an earlier answer wrong without also changing a rule that answer rests
  on.
- `AclEvent.make` collects the identifiers into a set; `created` and
  `deleted` concern one rule, `updated` any number.
-/

namespace GeoAccess

/-- How a rule changed. -/
inductive EventType where
  | created
  | updated
  | deleted
  deriving DecidableEq, Repr

namespace EventType

def name : EventType → String
  | .created => "CREATED"
  | .updated => "UPDATED"
  | .deleted => "DELETED"

def named : List (String × EventType) :=
  [("CREATED", .created), ("UPDATED", .updated), ("DELETED", .deleted)]

/-- Whether answers computed before the change may now be wrong. -/
def invalidates : EventType → Bool
  | .created => false
  | _ => true

end EventType

/-- Which store a change happened in. -/
inductive RuleKind where
  | rule
  | adminRule
  deriving DecidableEq, Repr

namespace RuleKind

def name : RuleKind → String
  | .rule => "rule"
  | .adminRule => "admin_rule"

def named : List (String × RuleKind) := [("rule", .rule), ("admin_rule", .adminRule)]

end RuleKind

/-- A change announced by a store. -/
structure AclEvent where
  kind : RuleKind
  eventType : EventType
  /-- A set, ascending. -/
  ruleIds : List Nat
  deriving DecidableEq, Repr

namespace AclEvent

/-- The event of a change of the given rules. -/
def make (k : RuleKind) (t : EventType) (ids : List Nat) : AclEvent :=
  { kind := k, eventType := t, ruleIds := OrdSet.ofList ids }

/-- A rule was created. -/
def created (k : RuleKind) (id : Nat) : AclEvent := make k .created [id]

/-- Rules were updated. -/
def updated (k : RuleKind) (ids : List Nat) : AclEvent := make k .updated ids

/-- A rule was deleted. -/
def deleted (k : RuleKind) (id : Nat) : AclEvent := make k .deleted [id]

/-- The object of an event. -/
def toJson (e : AclEvent) : Json :=
  .obj [("kind", .str e.kind.name), ("event_type", .str e.eventType.name),
    ("rule_ids", .arr (e.ruleIds.map Json.nat))]

end AclEvent

namespace Decode

/-- The tag of an event among its members: read where it stands, a second one
refused, its absence refused after the last member. -/
def eventKindOf : Option RuleKind → List (String × Datum) → Except DecodeError RuleKind
  | some k, [] => .ok k
  | none, [] => .error (.missingField "kind")
  | found, (k, v) :: rest =>
    if k = "kind" then
      if found.isSome then .error (.duplicateField "kind")
      else
        match variant RuleKind.named v with
        | .ok r => eventKindOf (some r) rest
        | .error e => .error e
    else eventKindOf found rest

/-- An event; the type and the identifiers are required. -/
def event (j : Datum) : Except DecodeError AclEvent := do
  let fields := textKeyed (← object "internally tagged enum AclEvent" j)
  let k ← eventKindOf none fields
  let (t, ids) ← members ["event_type", "rule_ids"]
    (fun (acc : Option EventType × Option (List Nat)) key v =>
      match key with
      | "event_type" => do return (some (← enumName EventType.named v), acc.2)
      | _ => do return (acc.1, some (← list u64 v)))
    (none, none) [] (byName (fields.filter (·.1 != "kind")))
  let t ← required "event_type" t
  let ids ← required "rule_ids" ids
  return AclEvent.make k t ids

end Decode

end GeoAccess
