import GeoAccess.Data.Decode

/-!
# Reading a mapping in any order

`Decode.members` reads a mapping's entries one by one into a record. When each
known member sets its own part of the record, the record read depends only on
which members are there and not on their order. Write `view p` for the record
that has the parts named by `p` and nothing elsewhere: reading entries that
each name a member once, from `view p`, ends at the record with the part of
every known key added (`members_view`).

An object that `Json.present` writes holds the present members, each once,
sorted by key (`mem_present`, `nodup_present`, `mem_keys_of_iff`), so what a
reader makes of it is settled by its members alone (`members_obj`). The keys it
holds are those whose member is present, found by looking the key up among the
members (`present_keys_eq_lookup`, `known_contains_eq_lookup`).

The readers of values give back what was written: texts, whole numbers within
their width (`u64_nat`, `u32_nat`), sets kept ascending without repeats
(`textSet_strs`) and lists of values that read back one by one (`list_arr`).
-/

namespace GeoAccess

/-! ## JSON values as document values -/

namespace Datum

theorem ofJsonFields_eq (fs : List (String × Json)) :
    ofJsonFields fs = Decode.byName (fs.map fun kv => (kv.1, ofJson kv.2)) := by
  induction fs with
  | nil => rfl
  | cons kv fs ih => simp [ofJsonFields, Decode.byName, ih]

theorem ofJsonItems_eq (js : List Json) : ofJsonItems js = js.map ofJson := by
  induction js with
  | nil => rfl
  | cons j js ih => simp [ofJsonItems, ih]

@[simp] theorem ofJson_str (s : String) : ofJson (.str s) = .str s := by
  simp [ofJson]

theorem ofJson_obj (fs : List (String × Json)) :
    ofJson (.obj fs) = .map (Decode.byName (fs.map fun kv => (kv.1, ofJson kv.2))) := by
  simp [ofJson, ofJsonFields_eq]

theorem ofJson_arr (js : List Json) : ofJson (.arr js) = .seq (js.map ofJson) := by
  simp [ofJson, ofJsonItems_eq]

@[simp] theorem ofJson_nat (n : Nat) : ofJson (Json.nat n) = .nat n := by
  simp [Json.nat, ofJson, ofInt]

end Datum

/-- Entries keyed by texts keep their texts. -/
@[simp] theorem Decode.textKeyed_byName (fs : List (String × Datum)) :
    Decode.textKeyed (Decode.byName fs) = fs := by
  induction fs with
  | nil => rfl
  | cons kv fs ih =>
    simp only [Decode.textKeyed, Decode.byName, List.map_cons, List.filterMap_cons] at ih ⊢
    rw [ih]

/-! ## The members of a written object -/

section Present

variable {F : List (String × Option Json)} {fs : List (String × Json)}

/-- A written object holds exactly the present members. -/
theorem mem_present (h : Json.present F = .obj fs) {kv : String × Json} :
    kv ∈ fs ↔ (kv.1, some kv.2) ∈ F := by
  simp only [Json.present, Json.obj.injEq] at h
  subst h
  simp only [Json.sortFields, List.mem_mergeSort, List.mem_filterMap, Option.map_eq_some_iff]
  constructor
  · rintro ⟨⟨k, o⟩, hmem, j, ho, rfl⟩
    subst ho
    exact hmem
  · intro hmem
    exact ⟨_, hmem, kv.2, rfl, rfl⟩

/-- A key of entries that stand for the present members of a list, one key at
a time, is the key of a present member. -/
theorem mem_keys_of_iff {zs : List (String × Json)} {k : String} (h : ∀ j, (k, j) ∈ zs ↔ (k, some j) ∈ F) :
    k ∈ zs.map (·.1) ↔ ∃ j, (k, some j) ∈ F := by
  simp only [List.mem_map]
  constructor
  · rintro ⟨kv, hkv, rfl⟩
    exact ⟨kv.2, (h kv.2).mp hkv⟩
  · rintro ⟨j, hj⟩
    exact ⟨(k, j), (h j).mpr hj, rfl⟩

/-- Sorting only reorders the keys of the present members. -/
theorem keys_present (h : Json.present F = .obj fs) :
    (fs.map (·.1)).Perm ((F.filter (·.2.isSome)).map (·.1)) := by
  simp only [Json.present, Json.obj.injEq] at h
  subst h
  refine ((List.mergeSort_perm _ _).map _).trans ?_
  induction F with
  | nil => simp
  | cons kv F ih =>
    obtain ⟨k, o⟩ := kv
    cases o <;> simp [ih]

/-- A written object names each member at most once when its members have
distinct keys. -/
theorem nodup_present (hF : (F.map (·.1)).Nodup) (h : Json.present F = .obj fs) :
    (fs.map (·.1)).Nodup :=
  (keys_present h).nodup_iff.mpr ((List.filter_sublist.map _).nodup hF)

section Lookup

variable {M : List (String × Option Json)}

/-- Among members with distinct keys, looking a key up finds the member of
that key. -/
theorem lookup_eq_some_iff_mem (hM : (M.map (·.1)).Nodup) {k : String} {o : Option Json} :
    M.lookup k = some o ↔ (k, o) ∈ M := by
  constructor
  · intro hl
    obtain ⟨l₁, l₂, rfl, -⟩ := List.lookup_eq_some_iff.mp hl
    exact List.mem_append_right l₁ List.mem_cons_self
  · intro hk
    induction M with
    | nil => cases hk
    | cons kv M ih =>
      obtain ⟨k', o'⟩ := kv
      simp only [List.map_cons, List.nodup_cons] at hM
      rw [List.lookup_cons]
      rcases List.mem_cons.mp hk with heq | hk
      · obtain ⟨rfl, rfl⟩ := Prod.mk.inj heq
        rw [beq_self_eq_true]
      · have hne : k ≠ k' := fun heq => hM.1 (heq ▸ List.mem_map_of_mem hk)
        rw [beq_false_of_ne hne]
        exact ih hM.2 hk

theorem exists_mem_iff_lookup (hM : (M.map (·.1)).Nodup) {k : String} :
    (∃ j, (k, some j) ∈ M) ↔ (M.lookup k).join.isSome = true := by
  simp only [Option.isSome_iff_exists, Option.join_eq_some_iff, lookup_eq_some_iff_mem hM]

/-- When every member's key is known and the keys read are, among the known
ones, those of the present members, a key is known and read exactly when its
member is present. -/
theorem known_contains_eq_lookup {known ks : List String} (hM : (M.map (·.1)).Nodup)
    (hknown : ∀ kv ∈ M, kv.1 ∈ known) (hks : ∀ k ∈ known, k ∈ ks ↔ ∃ j, (k, some j) ∈ M) :
    (fun k => known.contains k && ks.contains k) = fun k => (M.lookup k).join.isSome := by
  funext k
  by_cases hk : k ∈ known
  · rw [Bool.eq_iff_iff, Bool.and_eq_true, List.contains_iff_mem, List.contains_iff_mem, hks k hk,
      exists_mem_iff_lookup hM]
    exact and_iff_right hk
  · have hcontains : known.contains k = false := by
      rw [Bool.eq_false_iff, Ne, List.contains_iff_mem]
      exact hk
    have hnone : M.lookup k = none :=
      List.lookup_eq_none_iff.mpr fun kv hkv => bne_iff_ne.mpr fun h => hk (h ▸ hknown kv hkv)
    rw [hcontains, hnone]
    rfl

/-- The keys of a written object are those of its present members. -/
theorem present_keys_eq_lookup {known : List String} (hF : (F.map (·.1)).Nodup)
    (hknown : ∀ kv ∈ F, kv.1 ∈ known) (h : Json.present F = .obj fs) :
    (fun k => known.contains k && (fs.map (·.1)).contains k) = fun k => (F.lookup k).join.isSome :=
  known_contains_eq_lookup hF hknown fun _ _ => mem_keys_of_iff fun _ => mem_present h

end Lookup

/-- An optional part kept where it is present is the part itself. -/
theorem cond_isSome_self {α : Type} (o : Option α) : (bif o.isSome then o else none) = o := by
  cases o <;> rfl

@[simp] theorem Json.present_ne_null (F : List (String × Option Json)) : Json.present F ≠ .null := by
  simp [Json.present]

@[simp] theorem Json.nat_ne_null (n : Nat) : Json.nat n ≠ .null := by
  simp [Json.nat]

end Present

/-! ## Reading members -/

section Members

variable {σ : Type} {known : List String} {step : σ → String → Datum → Except DecodeError σ}
  {view : (String → Bool) → σ}

/-- Reading entries with distinct keys, where a known key's entry adds that key
to the view it is read into: the record read has every known key of the
entries added, whatever their order. -/
theorem members_view {fs : List (String × Datum)} (hnodup : (fs.map (·.1)).Nodup)
    (hstep : ∀ kv ∈ fs, kv.1 ∈ known → ∀ p,
      step (view p) kv.1 kv.2 = .ok (view fun k => k == kv.1 || p k))
    (p : String → Bool) (seen : List String) (hseen : ∀ kv ∈ fs, kv.1 ∈ known → kv.1 ∉ seen) :
    Decode.members known step (view p) seen (Decode.byName fs) =
      .ok (view fun k => p k || known.contains k && (fs.map (·.1)).contains k) := by
  induction fs generalizing p seen with
  | nil => simp [Decode.members, Decode.byName]
  | cons kv fs ih =>
    obtain ⟨k, v⟩ := kv
    simp only [List.map_cons, List.nodup_cons] at hnodup
    have hstep' : ∀ kv ∈ fs, kv.1 ∈ known → ∀ p,
        step (view p) kv.1 kv.2 = .ok (view fun k => k == kv.1 || p k) :=
      fun kv' h => hstep kv' (List.mem_cons_of_mem _ h)
    rw [show Decode.byName ((k, v) :: fs) = (.str k, v) :: Decode.byName fs from rfl, Decode.members, Decode.fieldKey]
    by_cases hk : k ∈ known
    · simp only [hk, if_true, if_neg (hseen (k, v) List.mem_cons_self hk),
        hstep (k, v) List.mem_cons_self hk]
      rw [ih hnodup.2 hstep' _ _ ?_]
      · congr 2
        funext k'
        by_cases h : k' = k
        · simp [h, hk]
        · rw [Bool.eq_iff_iff]
          simp [h]
      · intro kv' h hk' hin
        rcases List.mem_cons.mp hin with heq | hin
        · exact hnodup.1 (heq ▸ List.mem_map_of_mem h)
        · exact hseen kv' (List.mem_cons_of_mem _ h) hk' hin
    · simp only [hk, if_false]
      rw [ih hnodup.2 hstep' _ _ fun kv' h => hseen kv' (List.mem_cons_of_mem _ h)]
      congr 2
      funext k'
      by_cases h : k' = k
      · simp [h, hk]
      · rw [Bool.eq_iff_iff]
        simp [h]

/-- Reading a JSON object with distinct keys, from the view of no key, ends at
the view of its known keys. -/
theorem members_obj {fs : List (String × Json)} {init r : σ} (hinit : view (fun _ => false) = init)
    (hnodup : (fs.map (·.1)).Nodup)
    (hstep : ∀ kv ∈ fs, kv.1 ∈ known → ∀ p,
      step (view p) kv.1 (Datum.ofJson kv.2) = .ok (view fun k => k == kv.1 || p k))
    (hr : view (fun k => known.contains k && (fs.map (·.1)).contains k) = r) :
    Decode.members known step init [] (Decode.byName (fs.map fun kv => (kv.1, Datum.ofJson kv.2))) =
      .ok r := by
  have hkeys : ((fs.map fun kv => (kv.1, Datum.ofJson kv.2)).map (·.1)) = fs.map (·.1) := by
    simp
  subst hinit hr
  rw [members_view (hkeys ▸ hnodup) _ _ _ (by simp), hkeys]
  · simp
  · simp only [List.mem_map]
    rintro _ ⟨kv, hkv, rfl⟩
    exact hstep kv hkv

end Members

/-! ## Values read back -/

namespace OrdSet

variable {α : Type} [LT α] [DecidableRel (α := α) (· < ·)] [DecidableEq α]

/-- A list already ascending without repeats is its own set. -/
theorem ofList_of_pairwise {xs : List α} (h : xs.Pairwise (· < ·)) : ofList xs = xs := by
  induction xs with
  | nil => rfl
  | cons x xs ih =>
    rw [List.pairwise_cons] at h
    simp only [ofList, List.foldr_cons] at ih ⊢
    rw [ih h.2]
    cases xs with
    | nil => rfl
    | cons y ys => simp [insert, h.1 y List.mem_cons_self]

end OrdSet

namespace Decode

/-- A value that is not `null` is no absent value. -/
theorem option_ofJson {α : Type} {d : Decoder α} {j : Json} (hj : j ≠ .null) :
    option d (Datum.ofJson j) = (d (Datum.ofJson j)).map some := by
  cases j with
  | null => exact absurd rfl hj
  | int i =>
    simp only [Datum.ofJson, Datum.ofInt]
    split <;> rfl
  | _ => rfl

@[simp] theorem option_str {α : Type} (d : Decoder α) (s : String) :
    option d (.str s) = (d (.str s)).map some := rfl

@[simp] theorem option_nat {α : Type} (d : Decoder α) (n : Nat) :
    option d (.nat n) = (d (.nat n)).map some := rfl

@[simp] theorem text_str (s : String) : text (.str s) = .ok s := rfl

/-- A whole number within the bounds reads back. -/
theorem integer_nat {lo hi : Int} {name : String} {n : Nat} (h : lo ≤ n ∧ n ≤ hi) :
    integer lo hi name (.nat n) = .ok n := by
  rw [integer, if_pos h]

theorem u64_nat {n : Nat} (hn : n < Nat.pow 2 64) : u64 (.nat n) = .ok n := by
  have hle : (n : Int) ≤ Int.pow 2 64 - 1 := by
    have : ((Nat.pow 2 64 : Nat) : Int) = Int.pow 2 64 := rfl
    omega
  rw [u64, integer_nat ⟨by omega, hle⟩]
  rfl

theorem u32_nat {n : Nat} (hn : n < Nat.pow 2 32) : u32 (.nat n) = .ok n := by
  have hle : (n : Int) ≤ Int.pow 2 32 - 1 := by
    have : ((Nat.pow 2 32 : Nat) : Int) = Int.pow 2 32 := rfl
    omega
  rw [u32, integer_nat ⟨by omega, hle⟩]
  rfl

/-- A list of values that each read back reads back. -/
theorem list_arr {α : Type} {d : Decoder α} {f : α → Json} {xs : List α}
    (h : ∀ x ∈ xs, d (Datum.ofJson (f x)) = .ok x) :
    list d (Datum.ofJson (.arr (xs.map f))) = .ok xs := by
  simp only [Datum.ofJson_arr, list, List.map_map]
  induction xs with
  | nil => rfl
  | cons x xs ih =>
    simp only [List.map_cons, List.mapM_cons, Function.comp_apply, h x List.mem_cons_self,
      ih fun y hy => h y (List.mem_cons_of_mem _ hy)]
    rfl

/-- Texts written as a list read back as their set. -/
theorem textSet_strs (xs : List String) :
    textSet (Datum.ofJson (.arr (xs.map .str))) = .ok (TextSet.ofList xs) := by
  rw [textSet, list_arr (d := text) fun _ _ => rfl]
  rfl

end Decode

end GeoAccess
