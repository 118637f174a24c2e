import GeoAccess.Text.Quote

/-!
# Errors

The three families of failure, each a cause with its words in one function.

- `AuthzError`: a text that is no identifier, address range or grant, and a
  geometry collaborator that could not combine two areas.
- `StoreError`: a write that breaks a rule of the store, a conflict with a
  stored rule, an unknown identifier, or a failure of the store itself.
- `AuthorizationError`: what a query of the authorization service can meet,
  a store failure or an evaluation failure.

`message` is the sentence shown to a user, `nested` the nested form that
names the constructors (`Store(Validation("…"))`), and
`AuthorizationError.cause` the inner failure that a store failure wraps.
-/

namespace GeoAccess

/-- Failures of the access model itself. -/
inductive AuthzError where
  /-- The text (kept as given) is no rule identifier. -/
  | invalidId (raw : String)
  /-- The text is no address range. -/
  | invalidAddressRange (text : String)
  /-- The text names no grant. -/
  | invalidGrant (raw : String)
  /-- The geometry collaborator refused to combine two areas. -/
  | geometry (text : String)
  deriving DecidableEq, Repr

namespace AuthzError

/-- The constructor's name and its text. -/
def parts : AuthzError → String × String
  | .invalidId s => ("InvalidId", s)
  | .invalidAddressRange s => ("InvalidAddressRange", s)
  | .invalidGrant s => ("InvalidGrant", s)
  | .geometry s => ("Geometry", s)

/-- The name of the kind of failure. -/
def kind (e : AuthzError) : String := e.parts.1

/-- The sentence for a user. -/
def message : AuthzError → String
  | .invalidId s => "invalid id: " ++ s
  | .invalidAddressRange s => "invalid address range: " ++ s
  | .invalidGrant s => "invalid grant type: " ++ s
  | .geometry s => "geometry operation failed: " ++ s

/-- The constructor applied to its quoted text. -/
def nested (e : AuthzError) : String :=
  e.parts.1 ++ "(" ++ Text.quote e.parts.2 ++ ")"

/-- The failure of a kind, by the kind's name. -/
def ofKind? (kind text : String) : Option AuthzError :=
  match kind with
  | "InvalidId" => some (.invalidId text)
  | "InvalidAddressRange" => some (.invalidAddressRange text)
  | "InvalidGrant" => some (.invalidGrant text)
  | "Geometry" => some (.geometry text)
  | _ => none

end AuthzError

/-- Failures of a rule store. -/
inductive StoreError where
  /-- A write breaks a rule of the store. -/
  | validation (text : String)
  /-- A write collides with a stored rule. -/
  | conflict (text : String)
  /-- No stored rule has the identifier. -/
  | notFound (text : String)
  /-- The store itself failed. -/
  | unexpected (text : String)
  deriving DecidableEq, Repr

namespace StoreError

/-- The constructor's name and its text. -/
def parts : StoreError → String × String
  | .validation s => ("Validation", s)
  | .conflict s => ("Conflict", s)
  | .notFound s => ("NotFound", s)
  | .unexpected s => ("Unexpected", s)

/-- The name of the kind of failure. -/
def kind (e : StoreError) : String := e.parts.1

/-- The sentence for a user. -/
def message : StoreError → String
  | .validation s => "validation failed: " ++ s
  | .conflict s => "conflict: " ++ s
  | .notFound s => "not found: " ++ s
  | .unexpected s => "unexpected store failure: " ++ s

/-- The constructor applied to its quoted text. -/
def nested (e : StoreError) : String :=
  e.parts.1 ++ "(" ++ Text.quote e.parts.2 ++ ")"

/-- The failure of a kind, by the kind's name. -/
def ofKind? (kind text : String) : Option StoreError :=
  match kind with
  | "Validation" => some (.validation text)
  | "Conflict" => some (.conflict text)
  | "NotFound" => some (.notFound text)
  | "Unexpected" => some (.unexpected text)
  | _ => none

end StoreError

/-- Failures of an authorization query. -/
inductive AuthorizationError where
  /-- A rule store failed. -/
  | store (e : StoreError)
  /-- Evaluating the rules failed; it reads as the failure itself. -/
  | evaluation (e : AuthzError)
  deriving DecidableEq, Repr

namespace AuthorizationError

/-- The name of the kind of failure: that of the inner failure. -/
def kind : AuthorizationError → String
  | .store e => e.kind
  | .evaluation e => e.kind

/-- The sentence for a user. -/
def message : AuthorizationError → String
  | .store e => "rule store failure: " ++ e.message
  | .evaluation e => e.message

/-- The nested constructors with the inner text quoted. -/
def nested : AuthorizationError → String
  | .store e => "Store(" ++ e.nested ++ ")"
  | .evaluation e => "Evaluation(" ++ e.nested ++ ")"

/-- The failure that this one wraps, in words: a store failure wraps the store's
own; an evaluation failure stands for its inner failure, which wraps none. -/
def cause : AuthorizationError → Option String
  | .store e => some e.message
  | .evaluation _ => none

end AuthorizationError

end GeoAccess
