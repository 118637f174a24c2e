import GeoAccess.Yaml.Read
import GeoAccess.Rule.Json
import GeoAccess.Admin.Rule
import GeoAccess.Store.Rules
import GeoAccess.Store.AdminRules
import GeoAccess.Host.Report

/-!
# Seed files

A seed file lists rules and admin rules in the shape the model writes them:

```
rules:
  - priority: 10
    rolename: EDITOR
    grant: ALLOW
admin_rules:
  - priority: 1
    username: alice
    access: ADMIN
```

Both lists may be absent, and other keys are passed over. A rule's own
fields (`id`, `external_id`, `name`, `description`, `priority`) are read
where they stand; its other members are kept as values and read afterwards
as its identifier and its grant with payload, so that their failures are
placed at the rule itself (`rules[0]: unknown variant ...`).

Seeding creates the rules, then the admin rules, in file order, each at its
own priority; the first refusal stops it, named by the entry's place and
identifier.
-/

namespace GeoAccess.Host

open Yaml

/-- The rules and admin rules of a seed file. -/
structure SeedFile where
  rules : List Rule := []
  adminRules : List AdminRule := []
  deriving Repr

/-- A record being read: its own fields so far, the names met, and the other
members kept as values. -/
structure Draft (α : Type) where
  own : α
  seen : List String := []
  rest : List (String × Datum) := []

/-- A failure of a member decoder, as a reader's message. -/
def decodeFailure (e : DecodeError) : YamlError := .msg e.message

/-- Reads one member of a rule-like record: a field of its own with `own`,
anything else as a value kept for later. -/
def draftStep {α : Type} (ownKeys : List String)
    (own : α → String → Document → Path → Reading → Except YamlError (α × Reading))
    (d : Document) (depth : Nat) (acc : Draft α) (k : String) (path : Path) (r : Reading) :
    Except YamlError (Draft α × Reading) :=
  if k ∈ ownKeys then
    if k ∈ acc.seen then .error (decodeFailure (.duplicateField k))
    else (own acc.own k d path r).map fun (a, r) => ({ acc with own := a, seen := k :: acc.seen }, r)
  else (readContent d depth path r).map fun (v, r) => ({ acc with rest := acc.rest ++ [(k, v)] }, r)

/-- Reads one of the fields every rule has. -/
def ownField {α : Type} (setId : α → Option Nat → α) (setExternal setName setDescription : α → Option String → α)
    (setPriority : α → Int → α) (a : α) (k : String) (d : Document) (path : Path) (r : Reading) :
    Except YamlError (α × Reading) :=
  match k with
  | "id" => (readOption readU64 d path r).map fun (v, r) => (setId a v, r)
  | "external_id" => (readOption (readStr "a string") d path r).map fun (v, r) => (setExternal a v, r)
  | "name" => (readOption (readStr "a string") d path r).map fun (v, r) => (setName a v, r)
  | "description" => (readOption (readStr "a string") d path r).map fun (v, r) => (setDescription a v, r)
  | _ => (readI64 d path r).map fun (v, r) => (setPriority a v, r)

/-- Reads a rule. -/
def readRule (d : Document) (depth : Nat) (path : Path) (r : Reading) :
    Except YamlError (Rule × Reading) :=
  let own := ownField (fun (x : Rule) v => { x with id := v }) (fun x v => { x with externalId := v })
    (fun x v => { x with name := v }) (fun x v => { x with description := v })
    (fun x v => { x with priority := v })
  let finish (acc : Draft Rule) : Except YamlError Rule :=
    match Decode.identifierOf acc.rest with
    | .error e => .error (decodeFailure e)
    | .ok ident =>
      match Decode.accessOf (acc.rest.filter (·.1 ∉ Decode.identifierKeys)) with
      | .error e => .error (decodeFailure e)
      | .ok access => .ok { acc.own with ident, access }
  readMap "struct Rule" depth ({ own := Rule.ofGrant .deny } : Draft Rule)
    (fun depth acc k p r => draftStep Decode.ownKeys own d depth acc k p r) finish d path r

/-- Reads an admin rule. -/
def readAdminRule (d : Document) (depth : Nat) (path : Path) (r : Reading) :
    Except YamlError (AdminRule × Reading) :=
  let own := ownField (fun (x : AdminRule) v => { x with id := v }) (fun x v => { x with externalId := v })
    (fun x v => { x with name := v }) (fun x v => { x with description := v })
    (fun x v => { x with priority := v })
  let finish (acc : Draft AdminRule) : Except YamlError AdminRule :=
    match Decode.adminIdentifierOf acc.rest with
    | .error e => .error (decodeFailure e)
    | .ok ident => .ok { acc.own with ident }
  readMap "struct AdminRule" depth ({ own := AdminRule.ofGrant .user } : Draft AdminRule)
    (fun depth acc k p r => draftStep Decode.ownKeys own d depth acc k p r) finish d path r

/-- Reads one member of a seed file. -/
def seedStep (d : Document) (depth : Nat) (acc : SeedFile × List String) (k : String) (path : Path)
    (r : Reading) : Except YamlError ((SeedFile × List String) × Reading) :=
  let (seed, seen) := acc
  match k with
  | "rules" =>
    if "rules" ∈ seen then .error (decodeFailure (.duplicateField "rules"))
    else (readSeq depth (readRule d) d path r).map fun (rules, r) =>
      (({ seed with rules }, "rules" :: seen), r)
  | "admin_rules" =>
    if "admin_rules" ∈ seen then .error (decodeFailure (.duplicateField "admin_rules"))
    else (readSeq depth (readAdminRule d) d path r).map fun (adminRules, r) =>
      (({ seed with adminRules }, "admin_rules" :: seen), r)
  | _ => (ignore d r).map fun r => (acc, r)

/-- Reads a seed file's document. -/
def readSeed (d : Document) : Except YamlError SeedFile :=
  (readMap "struct SeedFile" depthLimit (({} : SeedFile), ([] : List String))
    (fun depth acc k p r => seedStep d depth acc k p r) (fun acc => .ok acc.1) d .root {}).map (·.1)

/-- A seed file from its text. -/
def SeedFile.parse (text : String) : Except YamlError SeedFile := readSingle text readSeed

/-- Creates the rules in order, each at its own priority. -/
def seedRules (store : RuleStore) : Nat → List Rule → Except Report RuleStore
  | _, [] => .ok store
  | i, r :: rs =>
    match store.create r .fixed with
    | .ok c => seedRules c.store (i + 1) rs
    | .error e =>
      .error { chain := ["seed rule #" ++ toString i ++ " (" ++ r.ident.render ++ ")", e.message] }

/-- Creates the admin rules in order, each at its own priority. -/
def seedAdminRules (store : AdminRuleStore) : Nat → List AdminRule → Except Report AdminRuleStore
  | _, [] => .ok store
  | i, r :: rs =>
    match store.create r .fixed with
    | .ok c => seedAdminRules c.store (i + 1) rs
    | .error e =>
      .error { chain := ["seed admin rule #" ++ toString i ++ " (" ++ r.ident.render ++ ")", e.message] }

/-- Seeds empty stores: the rules, then the admin rules. -/
def SeedFile.apply (s : SeedFile) : Except Report (RuleStore × AdminRuleStore) := do
  let rules ← seedRules {} 0 s.rules
  let adminRules ← seedAdminRules {} 0 s.adminRules
  return (rules, adminRules)

end GeoAccess.Host
