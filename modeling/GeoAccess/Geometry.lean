import GeoAccess.Error

/-!
# Geometries

Areas are carried as well-known text with an optional spatial reference
identifier and are never parsed here. When several rules restrict the same
layer, their areas are combined by a geometry engine supplied from outside:
intersection narrows (LIMIT rules), union widens (ALLOW rules).

- `Geometry.render` writes `SRID=<srid>;<wkt>`, or the text alone.
- `GeometryEngine.unsupported` refuses every combination; an answer that needs
  only one area never asks it.
- `GeometryEngine.symbolic` writes a combination as the text
  `INTERSECTION(a, b)` or `UNION(a, b)`, without a reference identifier.
-/

namespace GeoAccess

/-- An area as well-known text with an optional spatial reference identifier. -/
structure Geometry where
  srid : Option Nat := none
  wkt : String
  deriving DecidableEq, Repr

/-- The text of a geometry, with its reference identifier in front if it has
one. -/
def Geometry.render (g : Geometry) : String :=
  match g.srid with
  | some n => "SRID=" ++ toString n ++ ";" ++ g.wkt
  | none => g.wkt

/-- The operations that combine two areas. -/
structure GeometryEngine where
  /-- The area allowed by both. -/
  intersection : Geometry → Geometry → Except AuthzError Geometry
  /-- The area allowed by either. -/
  union : Geometry → Geometry → Except AuthzError Geometry

namespace GeometryEngine

/-- The engine of a host without a geometry library: it combines nothing. -/
def unsupported : GeometryEngine where
  intersection _ _ := .error (.geometry "no geometry engine configured for intersection")
  union _ _ := .error (.geometry "no geometry engine configured for union")

/-- An engine that writes each combination down as text. -/
def symbolic : GeometryEngine where
  intersection a b := .ok { wkt := "INTERSECTION(" ++ a.wkt ++ ", " ++ b.wkt ++ ")" }
  union a b := .ok { wkt := "UNION(" ++ a.wkt ++ ", " ++ b.wkt ++ ")" }

end GeometryEngine

end GeoAccess
