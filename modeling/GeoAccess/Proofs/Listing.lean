import GeoAccess.Proofs.Identity
import Mathlib.Data.List.InsertIdx

/-!
# The listing of a table, write by write

A table's listing is its entries in ascending priority (`Table.listing`, what
an unfiltered, unpaged query returns). In a valid table priorities are apart,
so the listing is the one list of its entries whose priorities strictly rise
(`listing_eq_of_mem_iff`), and each change of the table is a change of the
listing: room made at `p` with a new entry keeps every entry below `p` in
front and puts the new one right after them (`listing_insert`,
`listing_replace`), an erasure filters (`listing_erase`), a move keeps the
order (`listing_map_room`), a swap exchanges two entries in place
(`listing_swap`), and an entry put with its priority kept stays in place
(`listing_put`). Where a creation by relative position lands is counted by
`InsertPosition.index` (`countP_resolve`).
-/

namespace GeoAccess

open Prioritized LawfulPrioritized Table

/-! ## Strictly rising lists of priorities -/

/-- Below the `i`-th of strictly rising integers lie exactly `i` of them. -/
theorem countP_lt_getElem {l : List Int} (h : l.Pairwise (· < ·)) :
    ∀ i (hi : i < l.length), l.countP (· < l[i]) = i := by
  induction l with
  | nil => intro i hi; simp at hi
  | cons x xs ih =>
    intro i hi
    cases i with
    | zero =>
      have : xs.countP (· < x) = 0 := List.countP_eq_zero.mpr fun a ha => by
        have := List.rel_of_pairwise_cons h ha
        simp only [decide_eq_true_eq]; omega
      simp [this]
    | succ m =>
      have hm : m < xs.length := by simpa using hi
      have hx : x < xs[m] := List.rel_of_pairwise_cons h (List.getElem_mem hm)
      simp only [List.getElem_cons_succ, List.countP_cons, ih h.of_cons m hm]
      simp [hx]

theorem le_of_getLast? {l : List Int} (h : l.Pairwise (· < ·)) {last : Int} (hl : l.getLast? = some last) :
    ∀ q ∈ l, q ≤ last := by
  intro q hq
  obtain ⟨i, hi, rfl⟩ := List.getElem_of_mem hq
  have hlast : l[l.length - 1] = last := by
    rw [List.getLast?_eq_getElem?, List.getElem?_eq_getElem (by omega)] at hl
    exact Option.some.inj hl
  by_cases hil : i = l.length - 1
  · subst hil; exact Int.le_of_eq hlast
  · exact hlast ▸ Int.le_of_lt (List.pairwise_iff_getElem.mp h i _ hi (by omega) (by omega))

/-- Sorting integers commutes with reading them off: sorting `xs` by `f` and
reading `f` gives the sorted values of `f`. -/
theorem mergeSort_map {β : Type} (f : β → Int) (xs : List β) :
    (xs.map f).mergeSort (· ≤ ·) = (xs.mergeSort fun a b => f a ≤ f b).map f := by
  have hl := pairwise_mergeSort_key (fun p => p) (xs.map f)
  have hr := pairwise_mergeSort_key f xs
  refine List.Perm.eq_of_pairwise (fun a b _ _ hab hba => Int.le_antisymm hab hba) hl
    (List.pairwise_map.mpr hr) ?_
  exact (List.mergeSort_perm _ _).trans ((List.mergeSort_perm _ _).map f).symm

/-- One past the last of strictly rising integers lies above them all, when
that is in range. -/
theorem countP_lt_succSat {l : List Int} (h : l.Pairwise (· < ·)) {last : Int} (hl : l.getLast? = some last)
    (htop : ∀ q ∈ l, q = Priority.succSat last → Priority.succSat last + 1 ≤ Priority.top) :
    l.countP (· < Priority.succSat last) = l.length := by
  have hle := le_of_getLast? h hl
  have hlast : last ∈ l := List.mem_of_getLast? hl
  have hlt : last < Priority.top := by
    refine Int.lt_of_not_ge fun hge => ?_
    have hsat : Priority.succSat last = last := by unfold Priority.succSat; split <;> omega
    have := htop last hlast hsat.symm
    omega
  have hsucc : Priority.succSat last = last + 1 := by unfold Priority.succSat; simp [hlt]
  rw [hsucc, List.countP_eq_length]
  intro q hq
  have := hle q hq
  simpa using (by omega : q < last + 1)

theorem insertIdx_length_append {β : Type} (xs ys : List β) (a : β) :
    (xs ++ ys).insertIdx xs.length a = xs ++ a :: ys := by
  induction xs with
  | nil => rfl
  | cons x xs ih => simp [ih]

/-! ## Where a creation lands -/

/-- Where a creation asked for at `k` lands among `n` entries, `below` of
them under `k`: after those for a fixed priority, after the first `k` from the
start, before the last `k` from the end. -/
def InsertPosition.index : InsertPosition → (below n : Nat) → (k : Int) → Nat
  | .fixed, below, _, _ => below
  | .fromStart, _, n, k => min k.toNat n
  | .fromEnd, _, n, k => n - min k.toNat n

namespace Table

variable {α : Type} [Prioritized α]

/-- The entries in ascending priority. -/
def listing (t : Table α) : List α := t.values.mergeSort fun a b => priority a ≤ priority b

/-- Priorities strictly rise along the list. -/
def Rising (xs : List α) : Prop := xs.Pairwise fun a b => priority a < priority b

theorem mem_listing {t : Table α} {x : α} : x ∈ t.listing ↔ x ∈ t.values :=
  (List.mergeSort_perm _ _).mem_iff

/-- An unfiltered, unpaged page is the listing. -/
theorem page_all (t : Table α) : t.page (fun _ => true) 0 none = t.listing := by
  have hall : (t.entries.filter fun e => decide (e.1 ≥ 0)) = t.entries :=
    List.filter_eq_self.mpr fun _ _ => by simp
  have hkeep : (t.values.filter fun _ => true) = t.values := List.filter_eq_self.mpr fun _ _ => rfl
  simp only [page, hall]
  rw [← values, hkeep]
  rfl

theorem listing_pairwise_le (t : Table α) :
    t.listing.Pairwise fun a b => priority a ≤ priority b :=
  pairwise_mergeSort_key priority t.values

theorem Rising.nodup {xs : List α} (hx : Rising xs) : xs.Nodup :=
  hx.imp fun h he => Int.ne_of_lt h (congrArg priority he)

/-- Two lists whose priorities strictly rise and that hold the same values are
one list. -/
theorem Rising.eq_of_mem_iff {xs ys : List α} (hx : Rising xs) (hy : Rising ys)
    (h : ∀ a, a ∈ xs ↔ a ∈ ys) : xs = ys :=
  List.Perm.eq_of_pairwise (fun _ _ _ _ hab hba => absurd hba (Int.lt_asymm hab)) hx hy
    ((List.perm_ext_iff_of_nodup hx.nodup hy.nodup).mpr h)

/-- A list sorted by priority is its entries below `p`, then the others. -/
theorem Rising.split {xs : List α} (hx : Rising xs) (p : Int) :
    xs = xs.filter (priority · < p) ++ xs.filter (p ≤ priority ·) := by
  induction xs with
  | nil => rfl
  | cons x xs ih =>
    by_cases hxp : priority x < p
    · have hle : ¬p ≤ priority x := Int.not_le.mpr hxp
      simp only [List.filter_cons, hxp, hle, decide_true, decide_false, ↓reduceIte, List.cons_append]
      exact congrArg (x :: ·) (ih hx.of_cons)
    · have hup : ∀ y ∈ x :: xs, p ≤ priority y := by
        intro y hy
        rcases List.mem_cons.mp hy with rfl | hy
        · omega
        · have := List.rel_of_pairwise_cons hx hy
          omega
      rw [List.filter_eq_nil_iff.mpr fun y hy => by simpa using hup y hy,
        List.filter_eq_self.mpr fun y hy => by simpa using hup y hy, List.nil_append]

/-- Room made at `p` in a list sorted by priority, with an entry of priority
`p` put after those below it, leaves the priorities rising: the entries below
`p` stay in front, unmoved, and the others end above `p`. -/
theorem Rising.insertIdx_room {xs : List α} (hx : Rising xs) {p : Int} {g : α → α} (hg : RoomAt p g xs)
    {a : α} (ha : priority a = p) : Rising ((xs.map g).insertIdx (xs.countP (priority · < p)) a) := by
  have hsplit := hx.split p
  have hfix : (xs.filter (priority · < p)).map g = xs.filter (priority · < p) :=
    (List.map_congr_left fun x hx => hg.below x (List.mem_filter.mp hx).1
      (by simpa using (List.mem_filter.mp hx).2)).trans (List.map_id _)
  have hmap : xs.map g = xs.filter (priority · < p) ++ (xs.filter (p ≤ priority ·)).map g := by
    conv_lhs => rw [hsplit]
    rw [List.map_append, hfix]
  rw [List.countP_eq_length_filter, hmap, insertIdx_length_append]
  have hbelow : ∀ x ∈ xs.filter (priority · < p), priority x < p := fun x hx => by
    simpa using (List.mem_filter.mp hx).2
  have habove : ∀ y ∈ (xs.filter (p ≤ priority ·)).map g, p < priority y := by
    simp only [List.mem_map, List.mem_filter, decide_eq_true_eq]
    rintro _ ⟨x, ⟨hx, hpx⟩, rfl⟩
    exact hg.above x hx hpx
  refine List.pairwise_append.mpr ⟨hx.sublist List.filter_sublist, ?_, ?_⟩
  · refine List.pairwise_cons.mpr ⟨fun y hy => ha ▸ habove y hy, ?_⟩
    refine List.pairwise_map.mpr ((hx.sublist List.filter_sublist).imp_of_mem fun hx hy hxy => ?_)
    exact hg.order _ (List.mem_filter.mp hx).1 _ (List.mem_filter.mp hy).1 hxy
  · intro x hx y hy
    have := hbelow x hx
    rcases List.mem_cons.mp hy with rfl | hy
    · omega
    · have := habove y hy
      omega

theorem mem_insertIdx_room {xs : List α} {g : α → α} {p : Int} {a y : α} :
    y ∈ (xs.map g).insertIdx (xs.countP (priority · < p)) a ↔ y = a ∨ ∃ x ∈ xs, g x = y := by
  rw [List.mem_insertIdx (by simpa using List.countP_le_length), List.mem_map]

variable [LawfulPrioritized α]

theorem Valid.listing_rising {t : Table α} (hv : t.Valid) : Rising t.listing := by
  have hne : t.listing.Pairwise fun a b => priority a ≠ priority b :=
    hv.values_pairwise.perm (List.mergeSort_perm _ _).symm fun h he => h he.symm
  exact (t.listing_pairwise_le.and hne).imp fun ⟨hle, hne⟩ => by omega

/-- A list whose priorities strictly rise and that holds just the entries of a
valid table is its listing. -/
theorem listing_eq_of_mem_iff {t : Table α} (hv : t.Valid) {xs : List α} (hx : Rising xs)
    (hmem : ∀ x, x ∈ xs ↔ x ∈ t.values) : t.listing = xs :=
  hv.listing_rising.eq_of_mem_iff hx fun x => mem_listing.trans (hmem x).symm

/-- A creation: room made at `p` and the new entry last under the next
identifier. In the listing the new entry follows every entry below `p`. -/
theorem listing_insert {t : Table α} (hv : t.Valid) {p : Int} {g : α → α} (hg : RoomAt p g t.values)
    (hp : 0 ≤ p) {a : α} (ha : priority a = p) (hid : idOf a = some (t.lastId + 1)) :
    Table.listing { lastId := t.lastId + 1,
                    entries := t.entries.map (fun e => (e.1, g e.2)) ++ [(t.lastId + 1, a)] } =
      (t.listing.map g).insertIdx (t.listing.countP (priority · < p)) a := by
  have hvals : Table.values ({ lastId := t.lastId + 1,
                                entries := t.entries.map (fun e => (e.1, g e.2)) ++ [(t.lastId + 1, a)] } :
      Table α) = t.values.map g ++ [a] := by
    simp [values]
  refine listing_eq_of_mem_iff (hv.insert hg hp ha hid)
    (hv.listing_rising.insertIdx_room (hg.sub fun _ hx => mem_listing.mp hx) ha) fun y => ?_
  rw [hvals, mem_insertIdx_room, List.mem_append, List.mem_map, List.mem_singleton]
  simp only [mem_listing]
  exact or_comm

/-- A value of a valid table carrying the identifier of an entry is that
entry's. -/
theorem Valid.eq_of_idOf {t : Table α} (hv : t.Valid) {x a : α} {k : Nat} (hx : x ∈ t.values)
    (hk : (k, a) ∈ t.entries) (hid : idOf x = some k) : x = a := by
  obtain ⟨e, he, rfl⟩ := List.mem_map.mp hx
  have hek : e.1 = k := Option.some.inj ((hv.keyed e he).symm.trans hid)
  exact congrArg Prod.snd (hv.ascending.eq_of_key he hk hek)

theorem Valid.mem_others_iff {t : Table α} (hv : t.Valid) {k : Nat} {x : α} :
    x ∈ others k t ↔ x ∈ t.values ∧ idOf x ≠ some k := by
  simp only [others, values, List.mem_map, List.mem_filter, decide_eq_true_eq]
  constructor
  · rintro ⟨e, ⟨he, hk⟩, rfl⟩
    exact ⟨⟨e, he, rfl⟩, hv.keyed e he ▸ hk⟩
  · rintro ⟨⟨e, he, rfl⟩, hk⟩
    exact ⟨e, ⟨he, hv.keyed e he ▸ hk⟩, rfl⟩

/-- A replacement under `k`: room made at the new entry's priority with the
old entry aside. In the listing the old entry leaves and the new one follows
every other entry below its priority. -/
theorem listing_replace {t : Table α} (hv : t.Valid) {k : Nat} {old a : α} (hold : (k, old) ∈ t.entries)
    {g : α → α} (hg : RoomAt (priority a) g (others k t)) (hp : 0 ≤ priority a) (hid : idOf a = some k) :
    Table.listing { lastId := t.lastId,
                    entries := t.entries.map fun e => if e.1 = k then (k, a) else (e.1, g e.2) } =
      ((t.listing.filter (idOf · ≠ some k)).map g).insertIdx
        ((t.listing.filter (idOf · ≠ some k)).countP (priority · < priority a)) a := by
  have hS : ∀ x, x ∈ t.listing.filter (idOf · ≠ some k) ↔ x ∈ others k t := fun x => by
    rw [List.mem_filter, mem_listing, decide_eq_true_eq, hv.mem_others_iff]
  have hvals : Table.values ({ lastId := t.lastId,
                               entries := t.entries.map fun e => if e.1 = k then (k, a) else (e.1, g e.2) } :
      Table α) = t.entries.map fun e => if e.1 = k then a else g e.2 := by
    simp only [values, List.map_map]
    exact List.map_congr_left fun e _ => by by_cases hk : e.1 = k <;> simp [hk]
  refine listing_eq_of_mem_iff (hv.replace hg hp hid)
    (Rising.insertIdx_room (hv.listing_rising.sublist List.filter_sublist) (hg.sub fun x hx => (hS x).mp hx)
      rfl)
    fun y => ?_
  rw [hvals, mem_insertIdx_room, List.mem_map]
  constructor
  · rintro (rfl | ⟨x, hx, rfl⟩)
    · exact ⟨_, hold, if_pos rfl⟩
    · obtain ⟨e, he, hk, rfl⟩ : ∃ e ∈ t.entries, e.1 ≠ k ∧ e.2 = x := by
        simpa [others, and_assoc] using (hS x).mp hx
      exact ⟨e, he, if_neg hk⟩
  · rintro ⟨e, he, rfl⟩
    by_cases hk : e.1 = k
    · exact .inl (if_pos hk)
    · exact .inr ⟨e.2, (hS _).mpr (mem_others he hk), (if_neg hk).symm⟩

/-- An erasure: the entry leaves the listing. -/
theorem listing_erase {t : Table α} (hv : t.Valid) (k : Nat) :
    (t.erase k).listing = t.listing.filter (idOf · ≠ some k) := by
  have hvals : (t.erase k).values = others k t := by
    simp only [values, others, erase]
    congr 1
    exact List.filter_congr fun e _ => by by_cases h : e.1 = k <;> simp [h]
  refine listing_eq_of_mem_iff (hv.erase k) (hv.listing_rising.sublist List.filter_sublist) fun y => ?_
  rw [List.mem_filter, mem_listing, decide_eq_true_eq, hvals, hv.mem_others_iff]

/-- A move that makes room anywhere keeps the order of the listing. -/
theorem listing_map_room {t : Table α} (hv : t.Valid) {p : Int} {g : α → α} (hg : RoomAt p g t.values) :
    Table.listing { t with entries := t.entries.map fun e => (e.1, g e.2) } = t.listing.map g := by
  have hgS : RoomAt p g t.listing := hg.sub fun _ hx => mem_listing.mp hx
  refine listing_eq_of_mem_iff (hv.map_room hg)
    (List.pairwise_map.mpr (hv.listing_rising.imp_of_mem fun hx hy hxy => hgS.order _ hx _ hy hxy))
    fun y => ?_
  simp only [values, List.map_map, List.mem_map, mem_listing, Function.comp_apply]
  constructor
  · rintro ⟨_, ⟨e, he, rfl⟩, rfl⟩
    exact ⟨e, he, rfl⟩
  · rintro ⟨e, he, rfl⟩
    exact ⟨e.2, ⟨e, he, rfl⟩, rfl⟩

/-- A swap: the entries under `k₁` and `k₂` exchange their priorities, and so
their places in the listing. -/
theorem listing_swap {t : Table α} (hv : t.Valid) {k₁ k₂ : Nat} {a₁ a₂ : α} (h₁ : (k₁, a₁) ∈ t.entries)
    (h₂ : (k₂, a₂) ∈ t.entries) :
    ((t.modify k₁ (setPriority · (priority a₂))).modify k₂ (setPriority · (priority a₁))).listing =
      t.listing.map fun x => if idOf x = some k₁ then setPriority a₂ (priority a₁)
        else if idOf x = some k₂ then setPriority a₁ (priority a₂) else x := by
  have hid₁ : idOf a₁ = some k₁ := hv.keyed _ h₁
  have hid₂ : idOf a₂ = some k₂ := hv.keyed _ h₂
  have hprio : ∀ x ∈ t.values, priority (if idOf x = some k₁ then setPriority a₂ (priority a₁)
      else if idOf x = some k₂ then setPriority a₁ (priority a₂) else x) = priority x := by
    intro x hx
    by_cases hx₁ : idOf x = some k₁
    · obtain rfl := hv.eq_of_idOf hx h₁ hx₁
      simp [hx₁]
    · by_cases hx₂ : idOf x = some k₂
      · obtain rfl := hv.eq_of_idOf hx h₂ hx₂
        have hne : k₂ ≠ k₁ := fun h => hx₁ (hx₂.trans (congrArg some h))
        simp [hx₂, hne]
      · simp [hx₁, hx₂]
  have hvals : Table.values ((t.modify k₁ (setPriority · (priority a₂))).modify k₂
      (setPriority · (priority a₁))) = t.entries.map fun e => if e.1 = k₂ then setPriority e.2 (priority a₁)
        else if e.1 = k₁ then setPriority e.2 (priority a₂) else e.2 := by
    rw [swap_eq]
    simp only [values, List.map_map]
    exact List.map_congr_left fun e _ => by simp only [Function.comp_apply, apply_ite Prod.snd]
  refine listing_eq_of_mem_iff (hv.swap h₁ h₂) (List.pairwise_map.mpr
    (hv.listing_rising.imp_of_mem fun hx hy hxy => ?_)) fun y => ?_
  · rw [hprio _ (mem_listing.mp hx), hprio _ (mem_listing.mp hy)]
    exact hxy
  rw [hvals, List.mem_map, List.mem_map]
  constructor
  · rintro ⟨x, hx, rfl⟩
    obtain ⟨e, he, rfl⟩ := List.mem_map.mp (mem_listing.mp hx)
    have hk := hv.keyed e he
    by_cases e₁ : e.1 = k₁
    · exact ⟨(k₂, a₂), h₂, by simp [hk, e₁]⟩
    · by_cases e₂ : e.1 = k₂
      · have hne : k₁ ≠ k₂ := fun h => e₁ (e₂.trans h.symm)
        exact ⟨(k₁, a₁), h₁, by simp [hk, e₂, hne, Ne.symm hne]⟩
      · exact ⟨e, he, by simp [hk, e₁, e₂]⟩
  · rintro ⟨e, he, rfl⟩
    have hk := hv.keyed e he
    by_cases e₂ : e.1 = k₂
    · refine ⟨a₁, mem_listing.mpr (List.mem_map_of_mem h₁), ?_⟩
      simp [hid₁, hv.ascending.eq_of_key he h₂ e₂]
    · by_cases e₁ : e.1 = k₁
      · have hne : k₂ ≠ k₁ := fun h => e₂ (e₁.trans h.symm)
        refine ⟨a₂, mem_listing.mpr (List.mem_map_of_mem h₂), ?_⟩
        simp [hid₂, hne, Ne.symm hne, hv.ascending.eq_of_key he h₁ e₁]
      · exact ⟨e.2, mem_listing.mpr (List.mem_map_of_mem he), by simp [hk, e₁, e₂]⟩

/-- Putting an entry with the priority of the one it replaces: in the listing
it takes that one's place. -/
theorem listing_put {t : Table α} (hv : t.Valid) {k : Nat} {old a : α} (hold : t.get? k = some old)
    (hp : priority a = priority old) (hid : idOf a = idOf old) :
    (t.put k a).listing = t.listing.map fun x => if idOf x = some k then a else x := by
  have hmem := (get?_eq_some_iff hv.ascending).mp hold
  have hvals : (t.put k a).values = t.entries.map fun e => if e.1 = k then a else e.2 := by
    simp only [values, put]
    rw [putEntry_of_mem hv.ascending (List.mem_map.mpr ⟨_, hmem, rfl⟩), List.map_map]
    exact List.map_congr_left fun e _ => by by_cases hk : e.1 = k <;> simp [hk]
  have hprio : ∀ x ∈ t.values, priority (if idOf x = some k then a else x) = priority x := by
    intro x hx
    by_cases hxk : idOf x = some k
    · obtain rfl := hv.eq_of_idOf hx hmem hxk
      simp [hxk, hp]
    · simp [hxk]
  refine listing_eq_of_mem_iff (hv.update hold hp hid) (List.pairwise_map.mpr
    (hv.listing_rising.imp_of_mem fun hx hy hxy => ?_)) fun y => ?_
  · rw [hprio _ (mem_listing.mp hx), hprio _ (mem_listing.mp hy)]
    exact hxy
  rw [hvals, List.mem_map, List.mem_map]
  simp only [mem_listing]
  constructor
  · rintro ⟨x, hx, rfl⟩
    obtain ⟨e, he, rfl⟩ := List.mem_map.mp hx
    have hk := hv.keyed e he
    by_cases hek : e.1 = k
    · exact ⟨e, he, by simp [hek, hek ▸ hk]⟩
    · exact ⟨e, he, by simp [hek, hk]⟩
  · rintro ⟨e, he, rfl⟩
    have hk := hv.keyed e he
    refine ⟨e.2, List.mem_map_of_mem he, ?_⟩
    by_cases hek : e.1 = k
    · simp [hek, hek ▸ hk]
    · simp [hek, hk]

/-- Where a creation lands: as many entries lie below the resolved priority as
the position asks for, when room could be made there. -/
theorem countP_resolve {t : Table α} (hv : t.Valid) (k : Int) (pos : InsertPosition)
    (htop : ∀ x ∈ t.values, priority x = t.resolve k pos → t.resolve k pos + 1 ≤ Priority.top) :
    t.listing.countP (priority · < t.resolve k pos) =
      pos.index (t.listing.countP (priority · < k)) t.listing.length k := by
  have hQ : (t.listing.map priority).Pairwise (· < ·) := List.pairwise_map.mpr hv.listing_rising
  have hcount : ∀ v, t.listing.countP (priority · < v) = (t.listing.map priority).countP (· < v) :=
    fun v => by rw [List.countP_map]; rfl
  have hlen : t.listing.length = (t.listing.map priority).length := by simp
  have htop' : ∀ q ∈ t.listing.map priority, q = t.resolve k pos → t.resolve k pos + 1 ≤ Priority.top := by
    intro q hq hqe
    obtain ⟨x, hx, rfl⟩ := List.mem_map.mp hq
    exact htop x (mem_listing.mp hx) hqe
  have hps : (t.values.map priority).mergeSort (· ≤ ·) = t.listing.map priority := mergeSort_map priority t.values
  rw [hcount, hcount, hlen]
  cases pos with
  | fixed => rfl
  | fromStart =>
    simp only [resolve, hps] at htop' ⊢
    generalize t.listing.map priority = l at hQ htop' ⊢
    rcases l with _ | ⟨first, rest⟩
    · simp [InsertPosition.index]
    have hlc : (first :: rest).length = rest.length + 1 := rfl
    cases hl : (first :: rest).getLast? with
    | none => simp at hl
    | some last =>
      simp only [List.head?_cons, hl] at htop' ⊢
      by_cases hi : k.toNat < (first :: rest).length
      · simp only [List.getElem?_eq_getElem hi, Option.getD_some]
        rw [countP_lt_getElem hQ _ hi]
        simp [InsertPosition.index]
        omega
      · simp only [List.getElem?_eq_none (Nat.not_lt.mp hi), Option.getD_none] at htop' ⊢
        rw [countP_lt_succSat hQ hl htop']
        simp [InsertPosition.index]
        omega
  | fromEnd =>
    simp only [resolve, hps] at htop' ⊢
    generalize t.listing.map priority = l at hQ htop' ⊢
    rcases l with _ | ⟨first, rest⟩
    · simp [InsertPosition.index]
    have hlc : (first :: rest).length = rest.length + 1 := rfl
    cases hl : (first :: rest).getLast? with
    | none => simp at hl
    | some last =>
      simp only [List.head?_cons, hl] at htop' ⊢
      by_cases h0 : k.toNat = 0
      · simp only [h0, ↓reduceIte] at htop' ⊢
        rw [countP_lt_succSat hQ hl htop']
        simp [InsertPosition.index, h0]
      by_cases hn : (first :: rest).length ≤ k.toNat
      · simp only [h0, hn, ↓reduceIte]
        have := countP_lt_getElem hQ 0 (by simp)
        simp only [List.getElem_cons_zero] at this
        rw [this]
        simp [InsertPosition.index]
        omega
      · have hi : (first :: rest).length - k.toNat < (first :: rest).length := by omega
        simp only [h0, hn, ↓reduceIte, List.getElem?_eq_getElem hi, Option.getD_some]
        rw [countP_lt_getElem hQ _ hi]
        simp [InsertPosition.index]
        omega

end Table

end GeoAccess
