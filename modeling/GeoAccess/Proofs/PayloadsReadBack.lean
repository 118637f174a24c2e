import GeoAccess.Rule.Json
import GeoAccess.Proofs.MemberOrder
import Mathlib.Data.List.Basic

/-!
# Payloads read back

The objects a rule's payload is written as read back as the values written,
provided the values are ones the document form can carry (`WellFormed`): a
reference identifier of 32 bits, styles kept ascending without repeats.

Each record is read member by member (`Decode.members`). Its view
(`Geometry.parts`, `LayerAttribute.parts`, `LayerDetails.restrict`,
`RuleLimits.restrict`) is the record with only the members a predicate names;
the step lemmas say that reading one written member adds that member to the
view, and the `_keys` lemmas that the view of the members written is the
value itself. `members_obj` puts the two together:

* `Geometry.geometry_toJson`, `LayerAttribute.layerAttribute_toJson`;
* `LayerDetails.layerDetails_toJson`, `RuleLimits.ruleLimits_toJson`, and their
  optional forms `Decode.option_layerDetails`, `Decode.option_ruleLimits`.
-/

namespace GeoAccess

namespace Json

@[simp] theorem nonEmpty_eq_none {α : Type} {f : α → Json} {xs : List α} :
    nonEmpty f xs = none ↔ xs = [] := by
  cases xs <;> simp [nonEmpty]

theorem nonEmpty_eq_some {α : Type} {f : α → Json} {xs : List α} {j : Json} :
    nonEmpty f xs = some j ↔ xs ≠ [] ∧ j = .arr (xs.map f) := by
  cases xs <;> simp [nonEmpty, eq_comm]

/-- A list kept where it is written is the list itself. -/
theorem cond_nonEmpty_self {α : Type} (f : α → Json) (xs : List α) :
    (bif (nonEmpty f xs).isSome then xs else []) = xs := by
  cases xs <;> rfl

end Json

namespace Decode

@[simp] theorem accessLevel_name (l : AccessLevel) : enumName AccessLevel.named (.str l.name) = .ok l := by
  cases l <;> rfl

@[simp] theorem spatialFilter_name (f : SpatialFilter) : spatialFilter (.str f.name) = .ok f := by
  cases f <;> rfl

@[simp] theorem catalogMode_name (m : CatalogMode) : catalogMode (.str m.name) = .ok m := by
  cases m <;> rfl

end Decode

/-! ## Geometries -/

namespace Geometry

/-- A geometry whose reference identifier fits 32 bits. -/
def WellFormed (g : Geometry) : Prop := ∀ n ∈ g.srid, n < Nat.pow 2 32

/-- The members of `g` that `p` names, as the reader of a geometry holds them. -/
def parts (g : Geometry) (p : String → Bool) : Option Nat × Option String :=
  (if p "srid" then g.srid else none, if p "wkt" then some g.wkt else none)

theorem geometryStep_parts {g : Geometry} (hg : g.WellFormed) {fs : List (String × Json)}
    (hfs : g.toJson = .obj fs) {kv : String × Json} (hkv : kv ∈ fs) (p : String → Bool) :
    Decode.geometryStep (g.parts p) kv.1 (Datum.ofJson kv.2) = .ok (g.parts fun k => k == kv.1 || p k) := by
  obtain ⟨k, j⟩ := kv
  rw [mem_present hfs] at hkv
  simp only [List.mem_cons, Prod.mk.injEq, Option.some.injEq, List.not_mem_nil, or_false] at hkv
  rcases hkv with ⟨rfl, hj⟩ | ⟨rfl, rfl⟩
  · obtain ⟨n, hn, rfl⟩ := Option.map_eq_some_iff.mp hj.symm
    simp [parts, Decode.geometryStep, hn, Decode.u32_nat (hg n hn), Functor.map, Except.map]
  · simp [parts, Decode.geometryStep, Functor.map, Except.map]

theorem parts_keys {g : Geometry} {fs : List (String × Json)} (hfs : g.toJson = .obj fs) :
    g.parts (fun k => ["srid", "wkt"].contains k && (fs.map (·.1)).contains k) = (g.srid, some g.wkt) := by
  rw [present_keys_eq_lookup (by simp) (by simp) hfs]
  simp only [parts, ← Bool.cond_eq_ite]
  simp only [List.lookup_cons, String.reduceBEq, Option.join_some, Option.isSome_map, Option.isSome_some,
    cond_true, cond_isSome_self]

theorem geometry_toJson {g : Geometry} (hg : g.WellFormed) : Decode.geometry (Datum.ofJson g.toJson) = .ok g := by
  obtain ⟨fs, hfs⟩ : ∃ fs, g.toJson = .obj fs := ⟨_, rfl⟩
  have hinit : g.parts (fun _ => false) = (none, none) := rfl
  rw [hfs, Datum.ofJson_obj]
  simp only [Decode.geometry, Decode.object, bind, Except.bind]
  rw [members_obj hinit (nodup_present (by simp) hfs) (fun kv hkv _ p => geometryStep_parts hg hfs hkv p)
    (parts_keys hfs)]
  simp [Decode.required, pure, Except.pure]

end Geometry

theorem Decode.option_geometry {g : Geometry} (hg : g.WellFormed) :
    option geometry (Datum.ofJson g.toJson) = .ok (some g) := by
  rw [option_ofJson (by simp [Geometry.toJson]), Geometry.geometry_toJson hg]
  rfl

/-! ## Attributes -/

namespace LayerAttribute

/-- The members of `a` that `p` names, as the reader of an attribute holds them. -/
def parts (a : LayerAttribute) (p : String → Bool) : Decode.AttributeParts :=
  (if p "name" then some a.name else none, if p "data_type" then a.dataType else none,
    if p "access" then some a.access else none)

theorem attributeStep_parts {a : LayerAttribute} {fs : List (String × Json)}
    (hfs : a.toJson = .obj fs) {kv : String × Json} (hkv : kv ∈ fs) (p : String → Bool) :
    Decode.attributeStep (a.parts p) kv.1 (Datum.ofJson kv.2) = .ok (a.parts fun k => k == kv.1 || p k) := by
  obtain ⟨k, j⟩ := kv
  rw [mem_present hfs] at hkv
  simp only [List.mem_cons, Prod.mk.injEq, Option.some.injEq, List.not_mem_nil, or_false] at hkv
  rcases hkv with ⟨rfl, rfl⟩ | ⟨rfl, hj⟩ | ⟨rfl, rfl⟩
  · simp [parts, Decode.attributeStep, Functor.map, Except.map]
  · obtain ⟨s, hs, rfl⟩ := Option.map_eq_some_iff.mp hj.symm
    simp [parts, Decode.attributeStep, hs, Functor.map, Except.map]
  · simp [parts, Decode.attributeStep, Functor.map, Except.map]

theorem parts_keys {a : LayerAttribute} {fs : List (String × Json)} (hfs : a.toJson = .obj fs) :
    a.parts (fun k => Decode.attributeKeys.contains k && (fs.map (·.1)).contains k) =
      (some a.name, a.dataType, some a.access) := by
  rw [present_keys_eq_lookup (by simp) (by simp [Decode.attributeKeys]) hfs]
  simp only [parts, ← Bool.cond_eq_ite]
  simp only [List.lookup_cons, String.reduceBEq, Option.join_some, Option.isSome_map, Option.isSome_some,
    cond_true, cond_isSome_self]

theorem layerAttribute_toJson (a : LayerAttribute) : Decode.layerAttribute (Datum.ofJson a.toJson) = .ok a := by
  obtain ⟨fs, hfs⟩ : ∃ fs, a.toJson = .obj fs := ⟨_, rfl⟩
  have hinit : a.parts (fun _ => false) = (none, none, none) := rfl
  rw [hfs, Datum.ofJson_obj]
  simp only [Decode.layerAttribute, Decode.object, bind, Except.bind]
  rw [members_obj hinit (nodup_present (by simp) hfs) (fun kv hkv _ p => attributeStep_parts hfs hkv p)
    (parts_keys hfs)]
  simp [Decode.required, pure, Except.pure]

end LayerAttribute

/-! ## Layer details -/

namespace LayerDetails

/-- Layer details the document form carries: areas with 32-bit reference
identifiers, styles ascending without repeats. -/
structure WellFormed (d : LayerDetails) : Prop where
  area : ∀ g ∈ d.allowedArea, g.WellFormed
  styles : d.allowedStyles.Pairwise (· < ·)

/-- The members of `d` that `p` names, and nothing elsewhere. -/
def restrict (d : LayerDetails) (p : String → Bool) : LayerDetails where
  defaultStyle := if p "default_style" then d.defaultStyle else none
  cqlFilterRead := if p "cql_filter_read" then d.cqlFilterRead else none
  cqlFilterWrite := if p "cql_filter_write" then d.cqlFilterWrite else none
  allowedArea := if p "allowed_area" then d.allowedArea else none
  spatialFilter := if p "spatial_filter_type" then d.spatialFilter else none
  catalogMode := if p "catalog_mode" then d.catalogMode else none
  allowedStyles := if p "allowed_styles" then d.allowedStyles else []
  attributes := if p "attributes" then d.attributes else []

/-- Reading one member of written details adds it to the details read so
far: the area, the styles and the attributes through their own readers, the
styles as the set they already are, every other member as a text or a name. -/
theorem detailStep_restrict {d : LayerDetails} (hd : d.WellFormed) {fs : List (String × Json)}
    (hfs : d.toJson = .obj fs) {kv : String × Json} (hkv : kv ∈ fs) (p : String → Bool) :
    Decode.detailStep (d.restrict p) kv.1 (Datum.ofJson kv.2) = .ok (d.restrict fun k => k == kv.1 || p k) := by
  obtain ⟨k, j⟩ := kv
  rw [mem_present hfs] at hkv
  simp only [List.mem_cons, Prod.mk.injEq, List.not_mem_nil, or_false] at hkv
  rcases hkv with ⟨rfl, hj⟩ | ⟨rfl, hj⟩ | ⟨rfl, hj⟩ | ⟨rfl, hj⟩ | ⟨rfl, hj⟩ | ⟨rfl, hj⟩ | ⟨rfl, hj⟩ |
    ⟨rfl, hj⟩
  on_goal 8 =>
    obtain ⟨-, rfl⟩ := Json.nonEmpty_eq_some.mp hj.symm
    simp [restrict, Decode.detailStep, Decode.list_arr fun a _ => LayerAttribute.layerAttribute_toJson a,
      Functor.map, Except.map]
  on_goal 7 =>
    obtain ⟨-, rfl⟩ := Json.nonEmpty_eq_some.mp hj.symm
    simp [restrict, Decode.detailStep, Decode.textSet_strs, OrdSet.ofList_of_pairwise hd.styles,
      Functor.map, Except.map]
  on_goal 4 =>
    obtain ⟨g, hg, rfl⟩ := Option.map_eq_some_iff.mp hj.symm
    simp [restrict, Decode.detailStep, hg, Decode.option_geometry (hd.area g hg), Functor.map, Except.map]
  all_goals
    obtain ⟨x, hx, rfl⟩ := Option.map_eq_some_iff.mp hj.symm
    simp [restrict, Decode.detailStep, hx, Functor.map, Except.map]

theorem restrict_keys {d : LayerDetails} {fs : List (String × Json)} (hfs : d.toJson = .obj fs) :
    d.restrict (fun k => Decode.detailKeys.contains k && (fs.map (·.1)).contains k) = d := by
  rw [present_keys_eq_lookup (by simp) (by simp [Decode.detailKeys]) hfs]
  cases d
  simp only [restrict, ← Bool.cond_eq_ite]
  simp only [List.lookup_cons, String.reduceBEq, Option.join_some, Option.isSome_map,
    cond_isSome_self, Json.cond_nonEmpty_self]

theorem layerDetails_toJson {d : LayerDetails} (hd : d.WellFormed) :
    Decode.layerDetails (Datum.ofJson d.toJson) = .ok d := by
  obtain ⟨fs, hfs⟩ : ∃ fs, d.toJson = .obj fs := ⟨_, rfl⟩
  have hinit : d.restrict (fun _ => false) = {} := rfl
  rw [hfs, Datum.ofJson_obj]
  simp only [Decode.layerDetails, Decode.object, bind, Except.bind]
  exact members_obj hinit (nodup_present (by simp) hfs) (fun kv hkv _ p => detailStep_restrict hd hfs hkv p)
    (restrict_keys hfs)

end LayerDetails

theorem Decode.option_layerDetails {d : LayerDetails} (hd : d.WellFormed) :
    option layerDetails (Datum.ofJson d.toJson) = .ok (some d) := by
  rw [option_ofJson (by simp [LayerDetails.toJson]), LayerDetails.layerDetails_toJson hd]
  rfl

/-! ## Limits -/

namespace RuleLimits

/-- Limits the document form carries: an area with a 32-bit reference
identifier. -/
def WellFormed (l : RuleLimits) : Prop := ∀ g ∈ l.allowedArea, g.WellFormed

/-- The members of `l` that `p` names, and nothing elsewhere. -/
def restrict (l : RuleLimits) (p : String → Bool) : RuleLimits where
  allowedArea := if p "allowed_area" then l.allowedArea else none
  spatialFilter := if p "spatial_filter_type" then l.spatialFilter else none
  catalogMode := if p "catalog_mode" then l.catalogMode else none

theorem limitStep_restrict {l : RuleLimits} (hl : l.WellFormed) {fs : List (String × Json)}
    (hfs : l.toJson = .obj fs) {kv : String × Json} (hkv : kv ∈ fs) (p : String → Bool) :
    Decode.limitStep (l.restrict p) kv.1 (Datum.ofJson kv.2) = .ok (l.restrict fun k => k == kv.1 || p k) := by
  obtain ⟨k, j⟩ := kv
  rw [mem_present hfs] at hkv
  simp only [List.mem_cons, Prod.mk.injEq, List.not_mem_nil, or_false] at hkv
  rcases hkv with ⟨rfl, hj⟩ | ⟨rfl, hj⟩ | ⟨rfl, hj⟩
  · obtain ⟨g, hg, rfl⟩ := Option.map_eq_some_iff.mp hj.symm
    simp [restrict, Decode.limitStep, hg, Decode.option_geometry (hl g hg), Functor.map, Except.map]
  · obtain ⟨f, hf, rfl⟩ := Option.map_eq_some_iff.mp hj.symm
    simp [restrict, Decode.limitStep, hf, Functor.map, Except.map]
  · obtain ⟨m, hm, rfl⟩ := Option.map_eq_some_iff.mp hj.symm
    simp [restrict, Decode.limitStep, hm, Functor.map, Except.map]

theorem restrict_keys {l : RuleLimits} {fs : List (String × Json)} (hfs : l.toJson = .obj fs) :
    l.restrict (fun k => Decode.limitKeys.contains k && (fs.map (·.1)).contains k) = l := by
  rw [present_keys_eq_lookup (by simp) (by simp [Decode.limitKeys]) hfs]
  cases l
  simp only [restrict, ← Bool.cond_eq_ite]
  simp only [List.lookup_cons, String.reduceBEq, Option.join_some, Option.isSome_map,
    cond_isSome_self]

theorem ruleLimits_toJson {l : RuleLimits} (hl : l.WellFormed) :
    Decode.ruleLimits (Datum.ofJson l.toJson) = .ok l := by
  obtain ⟨fs, hfs⟩ : ∃ fs, l.toJson = .obj fs := ⟨_, rfl⟩
  have hinit : l.restrict (fun _ => false) = {} := rfl
  rw [hfs, Datum.ofJson_obj]
  simp only [Decode.ruleLimits, Decode.object, bind, Except.bind]
  exact members_obj hinit (nodup_present (by simp) hfs) (fun kv hkv _ p => limitStep_restrict hl hfs hkv p)
    (restrict_keys hfs)

end RuleLimits

theorem Decode.option_ruleLimits {l : RuleLimits} (hl : l.WellFormed) :
    option ruleLimits (Datum.ofJson l.toJson) = .ok (some l) := by
  rw [option_ofJson (by simp [RuleLimits.toJson]), RuleLimits.ruleLimits_toJson hl]
  rfl

end GeoAccess
