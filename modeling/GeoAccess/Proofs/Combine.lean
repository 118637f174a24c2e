import Mathlib
import GeoAccess.Proofs.Precedence

/-!
# How merged constraints combine

A decision on several matched rules combines their constraints field by
field, each field by a rule of its own. This module says what each of those
combinations gives, whatever rules the values come from:

* `combineLeft`: areas combined left to right, the first with the second, the
  result with the third and so on, the first refusal ending it;
  `foldAreas_eq_combineLeft` says that is how the merges combine areas.
* `foldl_narrowFilter`: spatial filters narrowed one by one give CLIP if one
  of them is CLIP, else INTERSECT if there is one at all.
* `leastMode_eq_some_iff`, `mostMode_eq_some_iff`: the catalog mode kept is
  the least, or the most, permissive one given.
* `levelMap_mergeAttributes`: the attribute map of several details gives each
  name the most permissive level it is given, one entry per name, names
  ascending (`LevelMap`).
* `mem_foldl_union`, `pairwise_foldl_union`: style sets joined into one set.
* `joinedFilter_orFilters`: a read or write filter is kept only when every
  detail has one, several joined as alternatives in order (`JoinedFilter`).
-/

namespace GeoAccess

/-! ## Lists of optional values -/

section MapM

variable {α β : Type} {f : α → Option β}

/-- Collecting optional values fails exactly when one is missing. -/
theorem mapM_option_eq_none {l : List α} : l.mapM f = none ↔ ∃ x ∈ l, f x = none := by
  induction l with
  | nil => simp
  | cons x xs ih =>
    rw [List.mapM_cons]
    cases hx : f x with
    | none => simp [hx]
    | some b =>
      have htail : (∃ y ∈ x :: xs, f y = none) ↔ ∃ y ∈ xs, f y = none := by simp [hx]
      rw [htail, ← ih]
      cases xs.mapM f <;> simp

/-- When every value is there, collecting them gives them all. -/
theorem mapM_option_of_isSome {l : List α} (h : ∀ x ∈ l, (f x).isSome) :
    l.mapM f = some (l.filterMap f) := by
  induction l with
  | nil => rfl
  | cons x xs ih =>
    obtain ⟨b, hb⟩ := Option.isSome_iff_exists.mp (h x List.mem_cons_self)
    simp [List.mapM_cons, hb, ih fun y hy => h y (List.mem_cons_of_mem x hy)]

theorem mapM_option_eq_some {l : List α} {l' : List β} (h : l.mapM f = some l') :
    (∀ x ∈ l, (f x).isSome) ∧ l' = l.filterMap f := by
  have hall : ∀ x ∈ l, (f x).isSome := fun x hx => by
    cases hfx : f x with
    | some _ => rfl
    | none => simp [mapM_option_eq_none.mpr ⟨x, hx, hfx⟩] at h
  rw [mapM_option_of_isSome hall, Option.some.injEq] at h
  exact ⟨hall, h.symm⟩

end MapM

/-! ## Areas -/

/-- Areas combined left to right by `combine`: none of no areas, else the
first combined with each next one in turn, the first refusal ending it. -/
def combineLeft (combine : Geometry → Geometry → Except AuthzError Geometry) :
    List Geometry → Except AuthzError (Option Geometry)
  | [] => .ok none
  | a :: as => some <$> as.foldlM combine a

theorem foldAreas_some (combine : Geometry → Geometry → Except AuthzError Geometry) (a : Geometry)
    (gs : List Geometry) : foldAreas combine (some a) gs = some <$> gs.foldlM combine a := by
  induction gs generalizing a with
  | nil => rfl
  | cons g gs ih =>
    simp only [foldAreas, List.foldlM_cons]
    cases combine a g with
    | ok m => exact ih m
    | error e => rfl

/-- The merges combine areas left to right. -/
theorem foldAreas_eq_combineLeft (combine : Geometry → Geometry → Except AuthzError Geometry)
    (gs : List Geometry) : foldAreas combine none gs = combineLeft combine gs := by
  cases gs with
  | nil => rfl
  | cons a gs => exact foldAreas_some combine a gs

/-! ## Spatial filters -/

/-- Narrowing spatial filters one by one gives CLIP as soon as one is CLIP,
and INTERSECT once there is any other. -/
theorem foldl_narrowFilter (fs : List SpatialFilter) (acc : Option SpatialFilter) :
    fs.foldl narrowFilter acc =
      if acc = some .clip ∨ .clip ∈ fs then some .clip
      else if acc = none ∧ fs = [] then none else some .intersect := by
  induction fs generalizing acc with
  | nil => rcases acc with _ | _ | _ <;> rfl
  | cons f fs ih =>
    rw [List.foldl_cons, ih]
    rcases acc with _ | _ | _ <;> cases f <;> simp [narrowFilter]

/-! ## Catalog modes and attribute levels -/

/-- A fold that keeps, of each two values, one that stands at or below both
ends at a value of the list that stands at or below all of it. -/
theorem foldl_select {α : Type} (le : α → α → Prop) (sel : α → α → α)
    (htrans : ∀ {a b c}, le a b → le b c → le a c)
    (hsel : ∀ a b, (sel a b = a ∨ sel a b = b) ∧ le (sel a b) a ∧ le (sel a b) b) (m : α) (ms : List α) :
    ms.foldl sel m ∈ m :: ms ∧ ∀ x ∈ m :: ms, le (ms.foldl sel m) x := by
  induction ms generalizing m with
  | nil =>
    refine ⟨List.mem_cons_self, fun x hx => ?_⟩
    obtain ⟨hm, hle, -⟩ := hsel m m
    rw [List.mem_singleton.mp hx]
    rcases hm with hm | hm <;> rw [hm] at hle <;> exact hle
  | cons y ys ih =>
    rw [List.foldl_cons]
    obtain ⟨hmem, hlow⟩ := ih (sel m y)
    obtain ⟨hpick, hm, hy⟩ := hsel m y
    refine ⟨?_, fun x hx => ?_⟩
    · rcases List.mem_cons.mp hmem with h | h
      · rcases hpick with hp | hp <;> rw [h, hp] <;> simp
      · exact List.mem_cons_of_mem _ (List.mem_cons_of_mem _ h)
    · have hfirst := hlow _ List.mem_cons_self
      rcases List.mem_cons.mp hx with rfl | hx
      · exact htrans hfirst hm
      rcases List.mem_cons.mp hx with rfl | hx
      · exact htrans hfirst hy
      · exact hlow x (List.mem_cons_of_mem _ hx)

theorem CatalogMode.rank_injective {a b : CatalogMode} (h : a.rank = b.rank) : a = b := by
  revert h
  cases a <;> cases b <;> decide

theorem AccessLevel.rank_injective {a b : AccessLevel} (h : a.rank = b.rank) : a = b := by
  revert h
  cases a <;> cases b <;> decide

theorem CatalogMode.min_select (a b : CatalogMode) :
    (a.min b = a ∨ a.min b = b) ∧ (a.min b).rank ≤ a.rank ∧ (a.min b).rank ≤ b.rank := by
  unfold CatalogMode.min
  split <;> simp only [true_or, or_true, true_and] <;> omega

theorem CatalogMode.max_select (a b : CatalogMode) :
    (a.max b = a ∨ a.max b = b) ∧ a.rank ≤ (a.max b).rank ∧ b.rank ≤ (a.max b).rank := by
  unfold CatalogMode.max
  split <;> simp only [true_or, or_true, true_and] <;> omega

/-- The catalog mode kept of several is the least permissive one; two least
modes have one rank, so they are one mode. -/
theorem leastMode_eq_some_iff {ms : List CatalogMode} {m : CatalogMode} :
    leastMode ms = some m ↔ m ∈ ms ∧ ∀ m' ∈ ms, m.rank ≤ m'.rank := by
  cases ms with
  | nil => simp [leastMode]
  | cons m₀ ms =>
    obtain ⟨hmem, hlow⟩ := foldl_select (fun a b => a.rank ≤ b.rank) CatalogMode.min
      Nat.le_trans CatalogMode.min_select m₀ ms
    simp only [leastMode, Option.some.injEq]
    constructor
    · rintro rfl
      exact ⟨hmem, hlow⟩
    · rintro ⟨hm, hle⟩
      exact CatalogMode.rank_injective (Nat.le_antisymm (hlow m hm) (hle _ hmem))

/-- The catalog mode kept of several is the most permissive one. -/
theorem mostMode_eq_some_iff {ms : List CatalogMode} {m : CatalogMode} :
    mostMode ms = some m ↔ m ∈ ms ∧ ∀ m' ∈ ms, m'.rank ≤ m.rank := by
  cases ms with
  | nil => simp [mostMode]
  | cons m₀ ms =>
    obtain ⟨hmem, hhigh⟩ := foldl_select (fun a b => b.rank ≤ a.rank) CatalogMode.max
      (fun hab hbc => Nat.le_trans hbc hab) CatalogMode.max_select m₀ ms
    simp only [mostMode, Option.some.injEq]
    constructor
    · rintro rfl
      exact ⟨hmem, hhigh⟩
    · rintro ⟨hm, hge⟩
      exact CatalogMode.rank_injective (Nat.le_antisymm (hge _ hmem) (hhigh m hm))

theorem AccessLevel.max_select (a b : AccessLevel) :
    (a.max b = a ∨ a.max b = b) ∧ a.rank ≤ (a.max b).rank ∧ b.rank ≤ (a.max b).rank := by
  unfold AccessLevel.max
  split <;> simp only [true_or, or_true, true_and] <;> omega

/-! ## Sets and maps of texts -/

namespace OrdSet

theorem pairwise_insert_text {s : String} {xs : List String} (h : xs.Pairwise (· < ·)) :
    (insert s xs).Pairwise (· < ·) :=
  pairwise_insert_of String.lt_trans
    (fun hab hne => ((lt_trichotomy _ _).resolve_left hab).resolve_left hne) h

theorem mem_union {α : Type} [LT α] [DecidableRel (α := α) (· < ·)] [DecidableEq α] {a b : List α}
    {x : α} : x ∈ union a b ↔ x ∈ a ∨ x ∈ b := by
  induction b with
  | nil => simp [union]
  | cons y ys ih =>
    simp only [union, List.foldr_cons] at ih ⊢
    rw [mem_insert, ih, List.mem_cons]
    tauto

theorem pairwise_union_text {a b : List String} (ha : a.Pairwise (· < ·)) :
    (union a b).Pairwise (· < ·) := by
  induction b with
  | nil => exact ha
  | cons y ys ih => exact pairwise_insert_text ih

end OrdSet

/-- Style sets joined one by one hold the styles of every set. -/
theorem mem_foldl_union (D : List LayerDetails) (acc : List String) (x : String) :
    x ∈ D.foldl (fun s d => OrdSet.union s d.allowedStyles) acc ↔
      x ∈ acc ∨ ∃ d ∈ D, x ∈ d.allowedStyles := by
  induction D generalizing acc with
  | nil => simp
  | cons d D ih =>
    rw [List.foldl_cons, ih, OrdSet.mem_union]
    simp only [List.mem_cons, exists_eq_or_imp]
    tauto

theorem pairwise_foldl_union (D : List LayerDetails) {acc : List String} (h : acc.Pairwise (· < ·)) :
    (D.foldl (fun s d => OrdSet.union s d.allowedStyles) acc).Pairwise (· < ·) := by
  induction D generalizing acc with
  | nil => exact h
  | cons d D ih => exact ih (OrdSet.pairwise_union_text h)

/-- Putting a level into an attribute map puts its name into the set of names. -/
theorem keys_insertLevel (name : String) (level : AccessLevel) (m : List (String × AccessLevel)) :
    (insertLevel name level m).map (·.1) = OrdSet.insert name (m.map (·.1)) := by
  fun_induction insertLevel name level m <;> simp_all [OrdSet.insert]

/-- What a level put into an attribute map with names ascending leaves there:
the other names as they were, and under its own name the level itself if the
name was not there, else the more permissive of the two. -/
theorem mem_insertLevel (name : String) (level : AccessLevel) {m : List (String × AccessLevel)}
    (hm : (m.map (·.1)).Pairwise (· < ·)) (n : String) (l : AccessLevel) :
    (n, l) ∈ insertLevel name level m ↔
      (n ≠ name ∧ (n, l) ∈ m) ∨
        (n = name ∧ ((∀ l₀, (name, l₀) ∉ m) ∧ l = level ∨ ∃ l₀, (name, l₀) ∈ m ∧ l = l₀.max level)) := by
  induction m with
  | nil => simp [insertLevel]
  | cons e rest ih =>
    obtain ⟨k, l₀⟩ := e
    simp only [List.map_cons, List.pairwise_cons, List.mem_map] at hm
    obtain ⟨habove, hrest⟩ := hm
    have hgt : ∀ p ∈ rest, k < p.1 := fun p hp => habove p.1 ⟨p, hp, rfl⟩
    simp only [insertLevel]
    split
    · rename_i hlt
      have hout : ∀ p ∈ rest, p.1 ≠ name := fun p hp => (String.lt_trans hlt (hgt p hp)).ne'
      have hk : k ≠ name := hlt.ne'
      simp only [List.mem_cons, Prod.mk.injEq]
      grind
    · split
      · rename_i hnlt heq
        subst heq
        have hout : ∀ p ∈ rest, p.1 ≠ name := fun p hp => (hgt p hp).ne'
        simp only [List.mem_cons, Prod.mk.injEq]
        grind
      · rename_i hnlt hne
        have hk : k ≠ name := Ne.symm hne
        rw [List.mem_cons, ih hrest]
        simp only [List.mem_cons, Prod.mk.injEq]
        grind

/-- `l` is the most permissive level the attributes `as` give the name `n`:
one of them gives it, and none gives more. -/
def TopLevel (as : List LayerAttribute) (n : String) (l : AccessLevel) : Prop :=
  (∃ a ∈ as, a.name = n ∧ a.access = l) ∧ ∀ a ∈ as, a.name = n → a.access.rank ≤ l.rank

namespace TopLevel

variable {as : List LayerAttribute} {n : String} {l l' : AccessLevel}

theorem unique (h : TopLevel as n l) (h' : TopLevel as n l') : l = l' := by
  obtain ⟨⟨a, ha, han, rfl⟩, hmax⟩ := h
  obtain ⟨⟨a', ha', han', rfl⟩, hmax'⟩ := h'
  exact AccessLevel.rank_injective (Nat.le_antisymm (hmax' a ha han) (hmax a' ha' han'))

/-- One more attribute of the name raises its level to the more permissive of
the two. -/
theorem append (h : TopLevel as n l) {a : LayerAttribute} (ha : a.name = n) :
    TopLevel (as ++ [a]) n (l.max a.access) := by
  obtain ⟨⟨b, hb, hbn, rfl⟩, hmax⟩ := h
  obtain ⟨hpick, hleb, hlea⟩ := AccessLevel.max_select b.access a.access
  refine ⟨?_, fun c hc hcn => ?_⟩
  · rcases hpick with hp | hp <;> rw [hp]
    · exact ⟨b, List.mem_append_left _ hb, hbn, rfl⟩
    · exact ⟨a, List.mem_append_right _ List.mem_cons_self, ha, rfl⟩
  · rcases List.mem_append.mp hc with hc | hc
    · exact Nat.le_trans (hmax c hc hcn) hleb
    · rw [List.mem_singleton.mp hc]
      exact hlea

/-- The first attribute of a name gives it its own level. -/
theorem first (hnone : ∀ b ∈ as, b.name ≠ n) {a : LayerAttribute} (ha : a.name = n) :
    TopLevel (as ++ [a]) n a.access := by
  refine ⟨⟨a, List.mem_append_right _ List.mem_cons_self, ha, rfl⟩, fun c hc hcn => ?_⟩
  rcases List.mem_append.mp hc with hc | hc
  · exact absurd hcn (hnone c hc)
  · rw [List.mem_singleton.mp hc]

theorem append_of_ne {a : LayerAttribute} (ha : a.name ≠ n) :
    TopLevel (as ++ [a]) n l ↔ TopLevel as n l := by
  simp only [TopLevel, List.mem_append, List.mem_singleton]
  constructor
  · rintro ⟨⟨b, hb | rfl, hbn, hbl⟩, hmax⟩
    · exact ⟨⟨b, hb, hbn, hbl⟩, fun c hc => hmax c (.inl hc)⟩
    · exact absurd hbn ha
  · rintro ⟨⟨b, hb, hbn, hbl⟩, hmax⟩
    refine ⟨⟨b, .inl hb, hbn, hbl⟩, fun c hc hcn => ?_⟩
    rcases hc with hc | rfl
    · exact hmax c hc hcn
    · exact absurd hcn ha

end TopLevel

/-- `m` gives each attribute name of `as` the most permissive level `as`
gives it, and holds nothing else: one entry per name, names ascending. -/
structure LevelMap (as : List LayerAttribute) (m : List (String × AccessLevel)) : Prop where
  sorted : (m.map (·.1)).Pairwise (· < ·)
  named : ∀ n, (∃ l, (n, l) ∈ m) ↔ ∃ a ∈ as, a.name = n
  mem : ∀ n l, (n, l) ∈ m ↔ TopLevel as n l

theorem LevelMap.nil : LevelMap [] [] :=
  ⟨List.Pairwise.nil, by simp, by simp [TopLevel]⟩

/-- Putting the level of one more attribute into the map of `as` gives the
map of `as` and that attribute. -/
theorem LevelMap.insert {as : List LayerAttribute} {m : List (String × AccessLevel)} (h : LevelMap as m)
    (a : LayerAttribute) : LevelMap (as ++ [a]) (insertLevel a.name a.access m) := by
  have hmem := mem_insertLevel a.name a.access h.sorted
  refine ⟨?_, fun n => ?_, fun n l => ?_⟩
  · rw [keys_insertLevel]
    exact OrdSet.pairwise_insert_text h.sorted
  · by_cases hn : n = a.name
    · subst hn
      refine iff_of_true ?_ ⟨a, List.mem_append_right _ List.mem_cons_self, rfl⟩
      by_cases hin : ∃ l₀, (a.name, l₀) ∈ m
      · obtain ⟨l₀, hl₀⟩ := hin
        exact ⟨l₀.max a.access, (hmem _ _).mpr (.inr ⟨rfl, .inr ⟨l₀, hl₀, rfl⟩⟩)⟩
      · exact ⟨a.access, (hmem _ _).mpr (.inr ⟨rfl, .inl ⟨fun l₀ h₀ => hin ⟨l₀, h₀⟩, rfl⟩⟩)⟩
    · simp only [hmem, hn, false_and, or_false, ne_eq, not_false_eq_true, true_and, h.named,
        List.mem_append, List.mem_singleton]
      grind
  · by_cases hn : n = a.name
    · subst hn
      rw [hmem]
      simp only [ne_eq, not_true_eq_false, false_and, true_and, false_or]
      by_cases hin : ∃ l₀, (a.name, l₀) ∈ m
      · obtain ⟨l₀, hl₀⟩ := hin
        have htop := (h.mem _ _).mp hl₀
        have hnot : ¬ ∀ l₁, (a.name, l₁) ∉ m := fun hall => hall l₀ hl₀
        simp only [hnot, false_and, false_or]
        constructor
        · rintro ⟨l₁, hl₁, rfl⟩
          rw [((h.mem _ _).mp hl₁).unique htop]
          exact htop.append rfl
        · intro hl
          exact ⟨l₀, hl₀, hl.unique (htop.append rfl)⟩
      · have hnone : ∀ b ∈ as, b.name ≠ a.name := fun b hb hbn =>
          hin ((h.named _).mpr ⟨b, hb, hbn⟩)
        have hall : ∀ l₁, (a.name, l₁) ∉ m := fun l₁ h₁ => hin ⟨l₁, h₁⟩
        have htop := TopLevel.first hnone (a := a) rfl
        simp only [hall, not_false_eq_true, implies_true, true_and, false_and, exists_false, or_false]
        exact ⟨fun hl => hl ▸ htop, fun hl => hl.unique htop⟩
    · rw [hmem, h.mem, TopLevel.append_of_ne (Ne.symm hn)]
      simp [hn]

theorem levelMap_foldl {pre : List LayerAttribute} {m : List (String × AccessLevel)} (h : LevelMap pre m)
    (as : List LayerAttribute) :
    LevelMap (pre ++ as) (as.foldl (fun m a => insertLevel a.name a.access m) m) := by
  induction as generalizing pre m with
  | nil => simpa using h
  | cons a as ih =>
    rw [List.foldl_cons, List.append_cons]
    exact ih (h.insert a)

/-- The attribute map of several details gives each attribute name the most
permissive level any of them gives it. -/
theorem levelMap_mergeAttributes (D : List LayerDetails) :
    LevelMap (D.flatMap (·.attributes)) (mergeAttributes D) := by
  simpa [mergeAttributes] using levelMap_foldl LevelMap.nil (D.flatMap (·.attributes))

/-! ## Read and write filters -/

/-- Filters as alternatives, in order: each in parentheses, joined by OR. -/
def alternatives : List String → String
  | [] => ""
  | [f] => "(" ++ f ++ ")"
  | f :: fs => "(" ++ f ++ ")" ++ " OR " ++ alternatives fs

theorem intercalate_parens (fs : List String) :
    " OR ".intercalate (fs.map fun f => "(" ++ f ++ ")") = alternatives fs := by
  induction fs with
  | nil => rfl
  | cons f fs ih =>
    cases fs with
    | nil => rfl
    | cons g gs =>
      simp only [List.map_cons] at ih ⊢
      rw [String.intercalate_cons_cons, ih]
      rfl

/-- `f` is the filter kept of the filters `fs` of several details: none when
one of them has none, a single one as it is, several as alternatives in
order. -/
structure JoinedFilter (fs : List (Option String)) (f : Option String) : Prop where
  lacking : none ∈ fs → f = none
  single : ∀ x, fs = [some x] → f = some x
  several : ∀ xs : List String, fs = xs.map some → 2 ≤ xs.length → f = some (alternatives xs)

theorem joinedFilter_orFilters (fs : List (Option String)) : JoinedFilter fs (orFilters fs) := by
  refine ⟨fun h => ?_, fun x h => ?_, fun xs h hlen => ?_⟩
  · have hnone : fs.mapM id = none := mapM_option_eq_none.mpr ⟨none, h, rfl⟩
    simp only [orFilters, hnone]
  · subst h
    rfl
  · subst h
    have hsome : (xs.map some).mapM id = some xs := by
      rw [mapM_option_of_isSome (by simp)]
      simp
    match xs, hlen with
    | x :: y :: zs, _ =>
      simp only [orFilters, hsome]
      rw [intercalate_parens]

end GeoAccess
