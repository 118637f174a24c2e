import GeoAccess.Error
import GeoAccess.Text.Ascii

/-!
# Grants and levels

The small enumerations of the access model.

- `Grant`: what a rule decides, ALLOW, DENY or LIMIT; read from a name in any
  ASCII case (`Grant.parse`).
- `AccessLevel`: how far an attribute may be used, ordered NONE < READ < WRITE
  by permissiveness.
- `SpatialFilter`: how an allowed area restricts a layer, INTERSECT or CLIP.
- `CatalogMode`: how a restricted layer shows in catalogs, ordered
  HIDE < MIXED < CHALLENGE by permissiveness.
-/

namespace GeoAccess

/-- What a rule decides. -/
inductive Grant where
  | allow
  | deny
  | limit
  deriving DecidableEq, Repr

namespace Grant

/-- The name of a grant. -/
def name : Grant → String
  | .allow => "ALLOW"
  | .deny => "DENY"
  | .limit => "LIMIT"

/-- The grants with their names, in declaration order. -/
def named : List (String × Grant) :=
  [("ALLOW", .allow), ("DENY", .deny), ("LIMIT", .limit)]

/-- Reads a grant name in any ASCII case; the failure keeps the text as given. -/
def parse (raw : String) : Except AuthzError Grant :=
  match Text.upperText raw with
  | "ALLOW" => .ok .allow
  | "DENY" => .ok .deny
  | "LIMIT" => .ok .limit
  | _ => .error (.invalidGrant raw)

example : parse "Allow" = .ok .allow := by rfl
example : parse "ALLOWED" = .error (.invalidGrant "ALLOWED") := by rfl

end Grant

/-- How far an attribute may be used, from least to most permissive. -/
inductive AccessLevel where
  | none
  | read
  | write
  deriving DecidableEq, Repr

namespace AccessLevel

/-- The position of a level in the order of permissiveness. -/
def rank : AccessLevel → Nat
  | .none => 0
  | .read => 1
  | .write => 2

/-- The more permissive of two levels. -/
def max (a b : AccessLevel) : AccessLevel :=
  if a.rank ≤ b.rank then b else a

/-- The name of a level. -/
def name : AccessLevel → String
  | .none => "NONE"
  | .read => "READ"
  | .write => "WRITE"

/-- The levels with their names. -/
def named : List (String × AccessLevel) :=
  [("NONE", .none), ("READ", .read), ("WRITE", .write)]

end AccessLevel

/-- How an allowed area restricts a layer. -/
inductive SpatialFilter where
  | intersect
  | clip
  deriving DecidableEq, Repr

namespace SpatialFilter

/-- The name of a spatial filter. -/
def name : SpatialFilter → String
  | .intersect => "INTERSECT"
  | .clip => "CLIP"

/-- The spatial filters with their names. -/
def named : List (String × SpatialFilter) :=
  [("INTERSECT", .intersect), ("CLIP", .clip)]

end SpatialFilter

/-- How a restricted layer shows in catalogs, from least to most permissive. -/
inductive CatalogMode where
  | hide
  | mixed
  | challenge
  deriving DecidableEq, Repr

namespace CatalogMode

/-- The position of a mode in the order of permissiveness. -/
def rank : CatalogMode → Nat
  | .hide => 0
  | .mixed => 1
  | .challenge => 2

/-- The less permissive of two modes. -/
def min (a b : CatalogMode) : CatalogMode :=
  if a.rank ≤ b.rank then a else b

/-- The more permissive of two modes. -/
def max (a b : CatalogMode) : CatalogMode :=
  if a.rank ≤ b.rank then b else a

/-- The name of a mode. -/
def name : CatalogMode → String
  | .hide => "HIDE"
  | .mixed => "MIXED"
  | .challenge => "CHALLENGE"

/-- The modes with their names. -/
def named : List (String × CatalogMode) :=
  [("HIDE", .hide), ("MIXED", .mixed), ("CHALLENGE", .challenge)]

end CatalogMode

end GeoAccess
