import GeoAccess.Store.Table

/-!
# Priority tables: what each change does

The stores change their tables in five ways: making room at a priority
(`makeRoom`), shifting every priority from a start on (`shift`), putting an
entry under an identifier (`put`), erasing one (`erase`) and changing one in
place (`modify`). This module states each of them once, as an equation on the
entries, so that the proofs about the stores never unfold the table's code.

* `putEntry_of_lt`, `putEntry_of_mem`: an identifier above all others goes
  last; a known one is replaced where it stands.
* `shift_ok`, `makeRoom_ok`: a successful shift or room-making changes
  priorities only, as `RoomAt` describes: entries below the start keep theirs,
  the others end above it, and the order of priorities is kept.
* `Valid`: identifiers ascending, none above the last one handed out, each
  carried by its entry; priorities not negative and each held by one entry.
  `Valid.insert`, `Valid.replace`, `Valid.erase`, `Valid.shift`, `Valid.swap`
  and `Valid.update` are the changes the stores make, each keeping it.
-/

namespace GeoAccess

open Prioritized

/-- Entries whose priority can be set: setting it sets exactly that and
changes nothing else, and an entry may carry its own identifier. -/
class LawfulPrioritized (α : Type) [Prioritized α] where
  /-- The identifier an entry carries. -/
  idOf : α → Option Nat
  priority_setPriority (a : α) (p : Int) : priority (setPriority a p) = p
  setPriority_setPriority (a : α) (p q : Int) : setPriority (setPriority a p) q = setPriority a q
  setPriority_priority (a : α) : setPriority a (priority a) = a
  idOf_setPriority (a : α) (p : Int) : idOf (setPriority a p) = idOf a

attribute [simp] LawfulPrioritized.priority_setPriority LawfulPrioritized.setPriority_setPriority
  LawfulPrioritized.setPriority_priority LawfulPrioritized.idOf_setPriority

open LawfulPrioritized

/-- Sorting by an integer key leaves the keys ascending. -/
theorem pairwise_mergeSort_key {β : Type} (f : β → Int) (xs : List β) :
    (xs.mergeSort fun a b => f a ≤ f b).Pairwise fun a b => f a ≤ f b :=
  (@List.pairwise_mergeSort β (fun a b => decide (f a ≤ f b))
    (fun a b c hab hbc => by simp only [decide_eq_true_eq] at *; omega)
    (fun a b => by simp only [Bool.or_eq_true, decide_eq_true_eq]; omega) xs).imp
    fun h => by simpa using h

namespace Table

section Entries

variable {α : Type}

/-! ## Entries by identifier -/

/-- Identifiers strictly ascending, as the table keeps them. -/
def Ascending (es : List (Nat × α)) : Prop := (es.map (·.1)).Pairwise (· < ·)

theorem Ascending.nodup {es : List (Nat × α)} (h : Ascending es) : (es.map (·.1)).Nodup :=
  h.imp Nat.ne_of_lt

theorem Ascending.tail {e : Nat × α} {es : List (Nat × α)} (h : Ascending (e :: es)) :
    Ascending es :=
  (List.pairwise_cons.mp h).2

theorem Ascending.lt_of_mem {e e' : Nat × α} {es : List (Nat × α)} (h : Ascending (e :: es))
    (he : e' ∈ es) : e.1 < e'.1 :=
  (List.pairwise_cons.mp h).1 e'.1 (List.mem_map_of_mem he)

/-- Two entries under one identifier are one entry. -/
theorem Ascending.eq_of_key {es : List (Nat × α)} (h : Ascending es) {e e' : Nat × α}
    (he : e ∈ es) (he' : e' ∈ es) (hk : e.1 = e'.1) : e = e' := by
  induction es with
  | nil => cases he
  | cons x xs ih =>
    rcases List.mem_cons.mp he with rfl | hx <;> rcases List.mem_cons.mp he' with rfl | hx'
    · rfl
    · exact absurd hk (Nat.ne_of_lt (h.lt_of_mem hx'))
    · exact absurd hk.symm (Nat.ne_of_lt (h.lt_of_mem hx))
    · exact ih h.tail hx hx'

/-- Looking an identifier up finds the entry under it. -/
theorem lookup_eq_some_iff {es : List (Nat × α)} (h : Ascending es) {k : Nat} {a : α} :
    es.lookup k = some a ↔ (k, a) ∈ es := by
  induction es with
  | nil => simp
  | cons e es ih =>
    obtain ⟨k', b⟩ := e
    rw [List.lookup_cons, List.mem_cons]
    by_cases hk : k = k'
    · subst hk
      simp only [BEq.rfl, Option.some.injEq, Prod.mk.injEq, true_and]
      constructor
      · rintro rfl; exact .inl rfl
      · rintro (rfl | hm)
        · rfl
        · exact absurd (h.lt_of_mem hm) (Nat.lt_irrefl _)
    · have hb : (k == k') = false := by simpa using hk
      simp only [hb, Prod.mk.injEq, hk, false_and, false_or]
      exact ih h.tail

/-- The entry of an identifier. -/
theorem get?_eq_some_iff {t : Table α} (h : Ascending t.entries) {k : Nat} {a : α} :
    t.get? k = some a ↔ (k, a) ∈ t.entries :=
  lookup_eq_some_iff h

/-- An identifier above all others goes last. -/
theorem putEntry_of_lt {id : Nat} {a : α} {es : List (Nat × α)} (h : ∀ e ∈ es, e.1 < id) :
    putEntry id a es = es ++ [(id, a)] := by
  induction es with
  | nil => rfl
  | cons e es ih =>
    obtain ⟨k, b⟩ := e
    have hk : k < id := h _ List.mem_cons_self
    simp only [putEntry, Nat.not_lt_of_gt hk, ↓reduceIte, Nat.ne_of_gt hk, List.cons_append]
    rw [ih fun e he => h e (List.mem_cons_of_mem _ he)]

/-- A known identifier is replaced where it stands. -/
theorem putEntry_of_mem {id : Nat} {a : α} {es : List (Nat × α)} (h : Ascending es)
    (hid : id ∈ es.map (·.1)) :
    putEntry id a es = es.map fun e => if e.1 = id then (id, a) else e := by
  induction es with
  | nil => cases hid
  | cons e es ih =>
    obtain ⟨k, b⟩ := e
    rcases List.mem_cons.mp hid with rfl | hid
    · have hrest : ∀ e ∈ es, e.1 ≠ id := fun e he => Nat.ne_of_gt (h.lt_of_mem he)
      simp only [putEntry, Nat.lt_irrefl, ↓reduceIte, List.map_cons]
      rw [List.map_congr_left fun e he => if_neg (hrest e he), List.map_id']
    · obtain ⟨e', he', rfl⟩ := List.mem_map.mp hid
      have hk : k < e'.1 := h.lt_of_mem he'
      simp only [putEntry, Nat.not_lt_of_gt hk, ↓reduceIte, Nat.ne_of_gt hk, Nat.ne_of_lt hk,
        List.map_cons]
      rw [ih h.tail (List.mem_map_of_mem he')]

/-- A table of entries looked up by identifier finds, for each entry, what
`f` says of it. -/
theorem lookup_filterMap {β : Type} {es : List (Nat × α)} (h : Ascending es) (f : Nat × α → Option β)
    {e : Nat × α} (he : e ∈ es) : (es.filterMap fun x => (f x).map (x.1, ·)).lookup e.1 = f e := by
  induction es with
  | nil => cases he
  | cons x xs ih =>
    have hrest : ∀ y ∈ xs, y.1 ≠ x.1 := fun y hy => Nat.ne_of_gt (h.lt_of_mem hy)
    rcases List.mem_cons.mp he with rfl | he
    · have hnone : (xs.filterMap fun x => (f x).map (x.1, ·)).lookup e.1 = none := by
        simp only [List.lookup_eq_none_iff, List.mem_filterMap]
        rintro _ ⟨y, hy, hfy⟩
        obtain ⟨b, -, rfl⟩ := Option.map_eq_some_iff.mp hfy
        simpa using (hrest y hy).symm
      cases hfe : f e with
      | none => simpa [List.filterMap_cons, hfe] using hnone
      | some b => simp [hfe]
    · have hne : (e.1 == x.1) = false := by simpa using Nat.ne_of_gt (h.lt_of_mem he)
      cases hfx : f x with
      | none => simpa [List.filterMap_cons, hfx] using ih h.tail he
      | some b => simpa [List.filterMap_cons, hfx, List.lookup_cons, hne] using ih h.tail he

/-- Changing entries without changing their identifiers keeps them ascending. -/
theorem Ascending.map {es : List (Nat × α)} (h : Ascending es) {f : Nat × α → Nat × α}
    (hf : ∀ e ∈ es, (f e).1 = e.1) : Ascending (es.map f) := by
  have hk : (es.map f).map (·.1) = es.map (·.1) := by
    rw [List.map_map]; exact List.map_congr_left fun e he => hf e he
  unfold Ascending
  rw [hk]
  exact h

/-- The entries other than the one under `k`. -/
def others (k : Nat) (t : Table α) : List α := (t.entries.filter fun e => some e.1 ≠ some k).map (·.2)

theorem mem_others {k : Nat} {t : Table α} {e : Nat × α} (he : e ∈ t.entries) (hk : e.1 ≠ k) :
    e.2 ∈ others k t :=
  List.mem_map.mpr ⟨e, List.mem_filter.mpr ⟨he, by simpa using hk⟩, rfl⟩

end Entries

/-! ## Moving priorities -/

section Moves

variable {α : Type} [Prioritized α]

/-- The priority an entry takes in a shift from `start` by `offset` that
leaves `exclude` aside, if it moves. -/
def newPriority (start offset : Int) (exclude : Option Nat) (e : Nat × α) : Option Int :=
  if some e.1 ≠ exclude ∧ start ≤ priority e.2 then some (priority e.2 + offset) else none

/-- An entry moved by `offset` if its priority is `start` or more. -/
def bump (start offset : Int) (a : α) : α :=
  if start ≤ priority a then setPriority a (priority a + offset) else a

/-- What a successful `shifted` computes: the new priority of each entry that
moves, every one of them at most the largest priority. -/
theorem shifted_ok {start offset : Int} {ex : Option Nat} {es : List (Nat × α)}
    {moves : List (Nat × Int)} (h : shifted start offset ex es = .ok moves) :
    moves = es.filterMap (fun e => (newPriority start offset ex e).map (e.1, ·)) ∧
      ∀ e ∈ es, some e.1 ≠ ex → start ≤ priority e.2 → priority e.2 + offset ≤ Priority.top := by
  induction es generalizing moves with
  | nil =>
    simp only [shifted, Except.ok.injEq] at h
    subst h
    simp
  | cons e es ih =>
    obtain ⟨k, a⟩ := e
    simp only [shifted] at h
    by_cases hm : some k ≠ ex ∧ start ≤ priority a
    · rw [if_pos hm] at h
      by_cases hr : Priority.bottom ≤ priority a + offset ∧ priority a + offset ≤ Priority.top
      · rw [if_pos hr] at h
        cases hs : shifted start offset ex es with
        | error err => simp [hs, Except.map] at h
        | ok ms =>
          simp only [hs, Except.map, Except.ok.injEq] at h
          obtain ⟨rfl, hin⟩ := ih hs
          refine ⟨?_, ?_⟩
          · simp [← h, newPriority, hm]
          · intro e he hk hp
            rcases List.mem_cons.mp he with rfl | he
            · exact hr.2
            · exact hin e he hk hp
      · rw [if_neg hr] at h
        cases h
    · rw [if_neg hm] at h
      obtain ⟨rfl, hin⟩ := ih h
      refine ⟨by simp [newPriority, hm], ?_⟩
      intro e he hk hp
      rcases List.mem_cons.mp he with rfl | he
      · exact absurd ⟨hk, hp⟩ hm
      · exact hin e he hk hp

/-- The identifiers of the entries that move. -/
theorem filterMap_newPriority_keys (start offset : Int) (ex : Option Nat) (es : List (Nat × α)) :
    (es.filterMap fun e => (newPriority start offset ex e).map (e.1, ·)).map (·.1) =
      (es.filter fun e => some e.1 ≠ ex ∧ start ≤ priority e.2).map (·.1) := by
  induction es with
  | nil => rfl
  | cons e es ih =>
    rw [List.filterMap_cons, List.filter_cons]
    by_cases hm : some e.1 ≠ ex ∧ start ≤ priority e.2
    · have hp : newPriority start offset ex e = some (priority e.2 + offset) := if_pos hm
      simp only [hp, Option.map_some, decide_eq_true hm, ↓reduceIte, List.map_cons, ih]
    · have hp : newPriority start offset ex e = none := if_neg hm
      simp only [hp, Option.map_none, decide_eq_false hm, Bool.false_eq_true, ↓reduceIte, ih]

/-- A successful shift keeps the identifiers and the last one handed out, sets
the new priority of each entry that moves, names the entries that moved, and
moves none past the largest priority. -/
theorem shift_ok {t t' : Table α} {start offset : Int} {ex : Option Nat} {moved : List Nat}
    (ht : Ascending t.entries) (h : t.shift start offset ex = .ok (t', moved)) :
    t'.lastId = t.lastId ∧
      t'.entries = t.entries.map (fun e => match newPriority start offset ex e with
        | some p => (e.1, setPriority e.2 p)
        | none => e) ∧
      moved = (t.entries.filter fun e => some e.1 ≠ ex ∧ start ≤ priority e.2).map (·.1) ∧
      ∀ e ∈ t.entries, some e.1 ≠ ex → start ≤ priority e.2 → priority e.2 + offset ≤ Priority.top := by
  simp only [Table.shift, bind, Except.bind, pure, Except.pure] at h
  split at h
  · cases h
  · rename_i moves hm
    simp only [Except.ok.injEq, Prod.mk.injEq] at h
    obtain ⟨rfl, rfl⟩ := h
    obtain ⟨rfl, hin⟩ := shifted_ok hm
    refine ⟨rfl, List.map_congr_left fun e he => ?_, filterMap_newPriority_keys .. , hin⟩
    obtain ⟨k, a⟩ := e
    have hl := lookup_filterMap ht (newPriority start offset ex) he
    cases hp : newPriority start offset ex (k, a) <;> simp only [hl, hp]

/-- What making room at priority `p` does, by the change `g`, to the entries it
may move: those below `p` keep their priority, the others end above `p`, no
priority goes down, the order of priorities is kept, and nothing but the
priority changes. -/
structure RoomAt (p : Int) (g : α → α) (xs : List α) : Prop where
  below : ∀ x ∈ xs, priority x < p → g x = x
  above : ∀ x ∈ xs, p ≤ priority x → p < priority (g x)
  up : ∀ x ∈ xs, priority x ≤ priority (g x)
  order : ∀ x ∈ xs, ∀ y ∈ xs, priority x < priority y → priority (g x) < priority (g y)
  same : ∀ x ∈ xs, setPriority (g x) 0 = setPriority x 0

theorem RoomAt.sub {p : Int} {g : α → α} {xs ys : List α} (h : RoomAt p g xs)
    (hs : ∀ y ∈ ys, y ∈ xs) : RoomAt p g ys where
  below y hy := h.below y (hs y hy)
  above y hy := h.above y (hs y hy)
  up y hy := h.up y (hs y hy)
  order x hx y hy := h.order x (hs x hx) y (hs y hy)
  same y hy := h.same y (hs y hy)

theorem priority_bump [LawfulPrioritized α] (start offset : Int) (a : α) :
    priority (bump start offset a) = if start ≤ priority a then priority a + offset else priority a := by
  unfold bump; split <;> simp

/-- Moving every entry from `start` on by a positive offset makes room at
`start`. -/
theorem RoomAt.bump [LawfulPrioritized α] {start offset : Int} (hoff : 0 < offset) (xs : List α) :
    RoomAt start (bump start offset) xs where
  below x _ hx := if_neg (Int.not_le.mpr hx)
  above x _ hx := by rw [priority_bump, if_pos hx]; omega
  up x _ := by rw [priority_bump]; split <;> omega
  order x _ y _ hxy := by rw [priority_bump, priority_bump]; split <;> split <;> omega
  same x _ := by unfold Table.bump; split <;> simp

/-- Where nobody holds `p`, leaving everything as it is makes room at `p`. -/
theorem RoomAt.id_of_free {p : Int} {xs : List α} (h : ∀ x ∈ xs, priority x ≠ p) :
    RoomAt p id xs where
  below _ _ _ := rfl
  above x hx hp := by have := h x hx; simp only [id_eq]; omega
  up _ _ := Int.le_refl _
  order _ _ _ _ hxy := hxy
  same _ _ := rfl

/-- A successful room-making at `target`, `exclude` aside: the other entries
change as `RoomAt target` says, and any of them at `target` could move up by
one. -/
theorem makeRoom_ok [LawfulPrioritized α] {t t' : Table α} {target : Int} {ex : Option Nat} (ht : Ascending t.entries)
    (h : t.makeRoom target ex = .ok t') :
    ∃ g : α → α,
      t' = { t with entries := t.entries.map fun e => if some e.1 = ex then e else (e.1, g e.2) } ∧
      RoomAt target g ((t.entries.filter fun e => some e.1 ≠ ex).map (·.2)) ∧
      ∀ e ∈ t.entries, some e.1 ≠ ex → priority e.2 = target → priority e.2 + 1 ≤ Priority.top := by
  unfold makeRoom at h
  split at h
  · cases hs : t.shift target 1 ex with
    | error err => simp [hs, Except.map] at h
    | ok r =>
      obtain ⟨t'', moved⟩ := r
      simp only [hs, Except.map, Except.ok.injEq] at h
      subst h
      obtain ⟨hid, hent, -, hin⟩ := shift_ok ht hs
      refine ⟨bump target 1, ?_, RoomAt.bump Int.one_pos _, fun e he hk hp => hin e he hk (Int.le_of_eq hp.symm)⟩
      obtain ⟨l, es⟩ := t''
      simp only at hid hent
      subst hid hent
      congr 1
      refine List.map_congr_left fun e _ => ?_
      by_cases h1 : some e.1 = ex <;> by_cases h2 : target ≤ priority e.2 <;>
        simp [newPriority, bump, h1, h2]
  · rename_i hfree
    simp only [Except.ok.injEq] at h
    subst h
    have hfree : ∀ e ∈ t.entries, some e.1 ≠ ex → priority e.2 ≠ target := by
      intro e he hk hp
      exact hfree (List.any_eq_true.mpr ⟨e, he, by simp [hk, hp]⟩)
    refine ⟨id, ?_, RoomAt.id_of_free ?_, fun e he hk hp => absurd hp (hfree e he hk)⟩
    · cases t
      simp only [id_eq, ite_self, List.map_id']
    · simp only [List.mem_map, List.mem_filter, decide_eq_true_eq]
      rintro _ ⟨e, ⟨he, hk⟩, rfl⟩
      exact hfree e he hk

theorem RoomAt.idOf_eq [LawfulPrioritized α] {p : Int} {g : α → α} {xs : List α} (h : RoomAt p g xs) {x : α}
    (hx : x ∈ xs) : idOf (g x) = idOf x := by
  rw [← idOf_setPriority (g x) 0, h.same x hx, idOf_setPriority]

/-- Nothing made room for ends at `p`. -/
theorem RoomAt.priority_ne {p : Int} {g : α → α} {xs : List α} (h : RoomAt p g xs) {x : α}
    (hx : x ∈ xs) : priority (g x) ≠ p := by
  by_cases hp : priority x < p
  · rw [h.below x hx hp]; exact Int.ne_of_lt hp
  · exact Int.ne_of_gt (h.above x hx (Int.not_lt.mp hp))

/-- Two entries that end with one priority started with one. -/
theorem RoomAt.eq_of_priority {p : Int} {g : α → α} {xs : List α} (h : RoomAt p g xs) {x y : α}
    (hx : x ∈ xs) (hy : y ∈ xs) (he : priority (g x) = priority (g y)) : priority x = priority y := by
  rcases Int.lt_trichotomy (priority x) (priority y) with hl | hq | hl
  · exact absurd he (Int.ne_of_lt (h.order x hx y hy hl))
  · exact hq
  · exact absurd he (Int.ne_of_gt (h.order y hy x hx hl))

/-- What a resolved priority is: the request itself, 0, or a stored priority
or one past it. -/
theorem resolve_cases (t : Table α) (k : Int) (pos : InsertPosition) :
    t.resolve k pos = k ∨ t.resolve k pos = 0 ∨
      ∃ p ∈ t.values.map priority, t.resolve k pos = p ∨ t.resolve k pos = Priority.succSat p := by
  have hps : ∀ p ∈ (t.values.map priority).mergeSort (· ≤ ·), p ∈ t.values.map priority :=
    fun p hp => (List.mergeSort_perm _ _).mem_iff.mp hp
  have hget : ∀ (i : Nat) (d : Int), ((((t.values.map priority).mergeSort (· ≤ ·))[i]?).getD d = d ∨
      ((((t.values.map priority).mergeSort (· ≤ ·))[i]?).getD d) ∈ t.values.map priority) := by
    intro i d
    cases h : ((t.values.map priority).mergeSort (· ≤ ·))[i]? with
    | none => exact .inl rfl
    | some p => exact .inr (hps p (List.mem_of_getElem? h))
  cases pos with
  | fixed => exact .inl rfl
  | fromStart =>
    simp only [resolve]
    split
    · rename_i hf hl
      rcases hget k.toNat (Priority.succSat _) with h | h
      · exact .inr (.inr ⟨_, hps _ (List.mem_of_getLast? hl), .inr h⟩)
      · exact .inr (.inr ⟨_, h, .inl rfl⟩)
    · exact .inr (.inl rfl)
  | fromEnd =>
    simp only [resolve]
    split
    · rename_i hf hl
      split
      · exact .inr (.inr ⟨_, hps _ (List.mem_of_getLast? hl), .inr rfl⟩)
      · split
        · exact .inr (.inr ⟨_, hps _ (List.mem_of_head? hf), .inl rfl⟩)
        · rcases hget (((t.values.map priority).mergeSort (· ≤ ·)).length - k.toNat) _ with h | h
          · exact .inr (.inr ⟨_, hps _ (List.mem_of_head? hf), .inl h⟩)
          · exact .inr (.inr ⟨_, h, .inl rfl⟩)
    · exact .inr (.inl rfl)

end Moves

/-! ## The table invariant -/

section Valid

variable {α : Type} [Prioritized α]

/-- What every table the stores reach satisfies. -/
structure Valid [LawfulPrioritized α] (t : Table α) : Prop where
  /-- Identifiers strictly ascending. -/
  ascending : Ascending t.entries
  /-- No identifier above the last one handed out. -/
  bounded : ∀ e ∈ t.entries, e.1 ≤ t.lastId
  /-- Each entry carries its identifier. -/
  keyed : ∀ e ∈ t.entries, idOf e.2 = some e.1
  /-- No priority is negative. -/
  nonneg : ∀ e ∈ t.entries, 0 ≤ priority e.2
  /-- Two entries holding one priority are one entry. -/
  distinct : ∀ e ∈ t.entries, ∀ e' ∈ t.entries, priority e.2 = priority e'.2 → e = e'

theorem valid_empty [LawfulPrioritized α] : (({} : Table α)).Valid :=
  ⟨List.Pairwise.nil, nofun, nofun, nofun, nofun⟩

/-- A change of entries keeps the priorities apart when two entries that end
with one priority have one identifier. -/
theorem distinct_map {es : List (Nat × α)} (h : Ascending es) {f : Nat × α → Nat × α}
    (hf : ∀ e ∈ es, ∀ e' ∈ es, priority (f e).2 = priority (f e').2 → e.1 = e'.1) :
    ∀ x ∈ es.map f, ∀ y ∈ es.map f, priority x.2 = priority y.2 → x = y := by
  simp only [List.mem_map]
  rintro _ ⟨e, he, rfl⟩ _ ⟨e', he', rfl⟩ hp
  rw [h.eq_of_key he he' (hf e he e' he' hp)]

variable [LawfulPrioritized α]

theorem Valid.nodup_keys {t : Table α} (hv : t.Valid) : (t.entries.map (·.1)).Nodup :=
  hv.ascending.nodup

/-- Changing priorities as room-making does keeps a table valid. -/
theorem Valid.map_room {t : Table α} (hv : t.Valid) {p : Int} {g : α → α} (hg : RoomAt p g t.values) :
    Table.Valid { t with entries := t.entries.map fun e => (e.1, g e.2) } where
  ascending := hv.ascending.map fun _ _ => rfl
  bounded := by
    simp only [List.mem_map]
    rintro _ ⟨e, he, rfl⟩
    exact hv.bounded e he
  keyed := by
    simp only [List.mem_map]
    rintro _ ⟨e, he, rfl⟩
    rw [hg.idOf_eq (List.mem_map_of_mem he), hv.keyed e he]
  nonneg := by
    simp only [List.mem_map]
    rintro _ ⟨e, he, rfl⟩
    exact Int.le_trans (hv.nonneg e he) (hg.up _ (List.mem_map_of_mem he))
  distinct := distinct_map hv.ascending fun e he e' he' hp => by
    rw [hv.distinct e he e' he' (hg.eq_of_priority (List.mem_map_of_mem he)
      (List.mem_map_of_mem he') hp)]

/-- The table a creation leaves: room made at `p` for no entry in particular,
and the new entry last under the next identifier. Any entry that held `p`
could move up by one. -/
theorem insert_eq {t t' : Table α} (hv : t.Valid) {p : Int} (hroom : t.makeRoom p none = .ok t')
    (a : α) : t'.lastId = t.lastId ∧ ∃ g, RoomAt p g t.values ∧
      (∀ x ∈ t.values, priority x = p → p + 1 ≤ Priority.top) ∧
      t'.nextId.2.put t'.nextId.1 a =
        { lastId := t.lastId + 1, entries := t.entries.map (fun e => (e.1, g e.2)) ++ [(t.lastId + 1, a)] } := by
  obtain ⟨g, rfl, hg, htop⟩ := makeRoom_ok hv.ascending hroom
  have hall : (t.entries.filter fun e => some e.1 ≠ none) = t.entries :=
    List.filter_eq_self.mpr fun _ _ => by simp
  rw [hall] at hg
  refine ⟨rfl, g, hg, ?_, ?_⟩
  · simp only [values, List.mem_map]
    rintro _ ⟨e, he, rfl⟩ hp
    exact hp ▸ htop e he (by simp) hp
  simp only [nextId, put, Option.some_ne_none, ↓reduceIte]
  rw [putEntry_of_lt]
  simp only [List.mem_map]
  rintro _ ⟨e, he, rfl⟩
  exact Nat.lt_succ_of_le (hv.bounded e he)

/-- The resolved priority of a request that is not negative is not negative:
it is the request itself, a priority held, one past the last, or 0. -/
theorem resolve_nonneg {t : Table α} (hv : t.Valid) {k : Int} (hk : 0 ≤ k) (pos : InsertPosition) :
    0 ≤ t.resolve k pos := by
  have hps : ∀ p ∈ t.values.map priority, 0 ≤ p := by
    intro p hp
    obtain ⟨x, hx, rfl⟩ := List.mem_map.mp hp
    obtain ⟨e, he, rfl⟩ := List.mem_map.mp hx
    exact hv.nonneg e he
  rcases resolve_cases t k pos with h | h | ⟨p, hp, h | h⟩
  · omega
  · omega
  · have := hps p hp
    omega
  · have := hps p hp
    rw [h]
    unfold Priority.succSat
    split <;> omega

/-- A creation keeps a table valid: the new entry carries the next identifier
and a priority room was made at, which is not negative. -/
theorem Valid.insert {t : Table α} (hv : t.Valid) {p : Int} {g : α → α} (hg : RoomAt p g t.values)
    (hp : 0 ≤ p) {a : α} (ha : priority a = p) (hid : idOf a = some (t.lastId + 1)) :
    Table.Valid { lastId := t.lastId + 1,
                  entries := t.entries.map (fun e => (e.1, g e.2)) ++ [(t.lastId + 1, a)] } := by
  have hm := hv.map_room hg
  refine ⟨?_, ?_, ?_, ?_, ?_⟩
  · unfold Ascending
    rw [List.map_append]
    refine List.pairwise_append.mpr ⟨hm.ascending, by simp, ?_⟩
    simp only [List.map_map, List.mem_map, List.map_cons, List.map_nil, List.mem_singleton]
    rintro _ ⟨e, he, rfl⟩ _ rfl
    exact Nat.lt_succ_of_le (hv.bounded e he)
  · simp only [List.mem_append, List.mem_singleton]
    rintro e (he | rfl)
    · exact Nat.le_succ_of_le (hm.bounded e he)
    · exact Nat.le_refl _
  · simp only [List.mem_append, List.mem_singleton]
    rintro e (he | rfl)
    · exact hm.keyed e he
    · exact hid
  · simp only [List.mem_append, List.mem_singleton]
    rintro e (he | rfl)
    · exact hm.nonneg e he
    · exact ha ▸ hp
  · have hnew : ∀ e ∈ t.entries.map (fun e => (e.1, g e.2)), priority e.2 ≠ p := by
      simp only [List.mem_map]
      rintro _ ⟨e, he, rfl⟩
      exact hg.priority_ne (List.mem_map_of_mem he)
    simp only [List.mem_append, List.mem_singleton]
    rintro e (he | rfl) e' (he' | rfl) hq
    · exact hm.distinct e he e' he' hq
    · exact absurd (hq.trans ha) (hnew e he)
    · exact absurd (hq.symm.trans ha) (hnew e' he')
    · rfl

/-- The table a replacement under `k` leaves: room made at the new priority
with the replaced entry aside, or nothing moved when its priority stays, and
the new entry in the old one's place. -/
theorem replace_eq {t t' : Table α} (hv : t.Valid) {k : Nat} {old a : α} (hold : (k, old) ∈ t.entries)
    (hroom : t' = t ∧ priority a = priority old ∨ t.makeRoom (priority a) (some k) = .ok t') :
    ∃ g, RoomAt (priority a) g (others k t) ∧
      t'.put k a = { lastId := t.lastId,
                     entries := t.entries.map fun e => if e.1 = k then (k, a) else (e.1, g e.2) } := by
  have hk : k ∈ t.entries.map (·.1) := List.mem_map.mpr ⟨_, hold, rfl⟩
  rcases hroom with ⟨rfl, hp⟩ | hroom
  · refine ⟨id, RoomAt.id_of_free ?_, ?_⟩
    · simp only [others, List.mem_map, List.mem_filter, decide_eq_true_eq]
      rintro _ ⟨e, ⟨he, hek⟩, rfl⟩ heq
      cases hv.distinct e he _ hold (heq.trans hp)
      exact hek rfl
    · simp only [put]
      rw [putEntry_of_mem hv.ascending hk]
      rfl
  · obtain ⟨g, rfl, hg, -⟩ := makeRoom_ok hv.ascending hroom
    refine ⟨g, hg, ?_⟩
    have hk' : k ∈ (t.entries.map fun e => if some e.1 = some k then e else (e.1, g e.2)).map (·.1) := by
      rw [List.map_map]
      exact List.mem_map.mpr ⟨_, hold, by simp⟩
    simp only [put]
    rw [putEntry_of_mem (hv.ascending.map fun e _ => by split <;> rfl) hk', List.map_map]
    congr 1
    refine List.map_congr_left fun e _ => ?_
    by_cases he : e.1 = k <;> simp [he]

/-- A replacement keeps a table valid: the new entry carries the identifier it
is put under and a priority room was made at, which is not negative. -/
theorem Valid.replace {t : Table α} (hv : t.Valid) {k : Nat} {a : α} {g : α → α} (hg : RoomAt (priority a) g (others k t)) (hp : 0 ≤ priority a)
    (hid : idOf a = some k) :
    Table.Valid { lastId := t.lastId,
                  entries := t.entries.map fun e => if e.1 = k then (k, a) else (e.1, g e.2) } where
  ascending := hv.ascending.map fun e _ => by by_cases he : e.1 = k <;> simp [he]
  bounded := by
    simp only [List.mem_map]
    rintro _ ⟨e, he, rfl⟩
    by_cases hek : e.1 = k
    · simp only [hek, ↓reduceIte]
      exact hek ▸ hv.bounded e he
    · simp only [hek, ↓reduceIte]
      exact hv.bounded e he
  keyed := by
    simp only [List.mem_map]
    rintro _ ⟨e, he, rfl⟩
    by_cases hek : e.1 = k
    · simp only [hek, ↓reduceIte, hid]
    · simp only [hek, ↓reduceIte, hg.idOf_eq (mem_others he hek), hv.keyed e he]
  nonneg := by
    simp only [List.mem_map]
    rintro _ ⟨e, he, rfl⟩
    by_cases hek : e.1 = k
    · simp only [hek, ↓reduceIte, hp]
    · simp only [hek, ↓reduceIte]
      exact Int.le_trans (hv.nonneg e he) (hg.up _ (mem_others he hek))
  distinct := distinct_map hv.ascending fun e he e' he' hq => by
    by_cases hek : e.1 = k <;> by_cases hek' : e'.1 = k <;> simp only [hek, hek', ↓reduceIte] at hq
    · exact hek.trans hek'.symm
    · exact absurd hq.symm (hg.priority_ne (mem_others he' hek'))
    · exact absurd hq (hg.priority_ne (mem_others he hek))
    · rw [hv.distinct e he e' he' (hg.eq_of_priority (mem_others he hek) (mem_others he' hek') hq)]

/-- Putting an entry in place of another with the same priority and
identifier keeps a table valid. -/
theorem Valid.update {t : Table α} (hv : t.Valid) {k : Nat} {old a : α} (hold : t.get? k = some old)
    (hp : priority a = priority old) (hid : idOf a = idOf old) : (t.put k a).Valid := by
  have hmem := (get?_eq_some_iff hv.ascending).mp hold
  obtain ⟨g, hg, ht⟩ := replace_eq hv hmem (.inl ⟨rfl, hp⟩)
  rw [ht]
  exact hv.replace hg (hp ▸ hv.nonneg _ hmem) (hid.trans (hv.keyed _ hmem))

/-- Two entries holding one priority are one entry, position for position. -/
theorem Valid.values_pairwise {t : Table α} (hv : t.Valid) :
    t.values.Pairwise fun a b => priority a ≠ priority b := by
  have hne : t.entries.Pairwise (· ≠ ·) :=
    hv.ascending.of_map (·.1) fun a b hab heq => Nat.lt_irrefl _ (heq ▸ hab)
  unfold values
  rw [List.pairwise_map]
  exact hne.imp_of_mem fun ha hb hab hp => hab (hv.distinct _ ha _ hb hp)

/-- An erasure keeps a table valid. -/
theorem Valid.erase {t : Table α} (hv : t.Valid) (k : Nat) : (t.erase k).Valid where
  ascending := hv.ascending.sublist ((List.filter_sublist).map _)
  bounded e he := hv.bounded e ((List.mem_filter.mp he).1)
  keyed e he := hv.keyed e ((List.mem_filter.mp he).1)
  nonneg e he := hv.nonneg e ((List.mem_filter.mp he).1)
  distinct e he e' he' := hv.distinct e ((List.mem_filter.mp he).1) e' ((List.mem_filter.mp he').1)

/-- A shift with no entry aside moves every entry from `start` on. -/
theorem shift_eq {t t' : Table α} (hv : t.Valid) {start offset : Int} {moved : List Nat}
    (h : t.shift start offset none = .ok (t', moved)) :
    t' = { t with entries := t.entries.map fun e => (e.1, bump start offset e.2) } ∧
      moved = (t.entries.filter fun e => start ≤ priority e.2).map (·.1) := by
  obtain ⟨hid, hent, hmoved, -⟩ := shift_ok hv.ascending h
  refine ⟨?_, by simpa using hmoved⟩
  obtain ⟨l, es⟩ := t'
  simp only at hid hent
  subst hid hent
  congr 1
  refine List.map_congr_left fun e _ => ?_
  by_cases hp : start ≤ priority e.2 <;> simp [newPriority, bump, hp]

/-- A shift by a positive offset keeps a table valid. -/
theorem Valid.shift {t t' : Table α} (hv : t.Valid) {start offset : Int} (hoff : 0 < offset)
    {moved : List Nat} (h : t.shift start offset none = .ok (t', moved)) : t'.Valid := by
  rw [(shift_eq hv h).1]
  exact hv.map_room (RoomAt.bump hoff _)

/-- The table a swap leaves: the entry under `k₂` takes the priority `p₁`, the
one under `k₁` the priority `p₂`. -/
theorem swap_eq (t : Table α) (k₁ k₂ : Nat) (p₁ p₂ : Int) :
    (t.modify k₁ (setPriority · p₂)).modify k₂ (setPriority · p₁) =
      { t with entries := t.entries.map fun e =>
          if e.1 = k₂ then (e.1, setPriority e.2 p₁)
          else if e.1 = k₁ then (e.1, setPriority e.2 p₂) else e } := by
  simp only [modify, List.map_map]
  congr 1
  refine List.map_congr_left fun e _ => ?_
  obtain ⟨k, a⟩ := e
  by_cases h₂ : k = k₂ <;> by_cases h₁ : k = k₁ <;> subst_vars <;> simp [*]

/-- Exchanging the priorities of two entries keeps a table valid. -/
theorem Valid.swap {t : Table α} (hv : t.Valid) {k₁ k₂ : Nat} {a₁ a₂ : α} (h₁ : (k₁, a₁) ∈ t.entries)
    (h₂ : (k₂, a₂) ∈ t.entries) :
    ((t.modify k₁ (setPriority · (priority a₂))).modify k₂ (setPriority · (priority a₁))).Valid := by
  rw [swap_eq]
  let src : Nat × α → Nat × α := fun e =>
    if e.1 = k₂ then (k₁, a₁) else if e.1 = k₁ then (k₂, a₂) else e
  have hsrc : ∀ e ∈ t.entries, src e ∈ t.entries := by
    intro e he
    simp only [src]
    split
    · exact h₁
    · split
      · exact h₂
      · exact he
  have hinj : ∀ e ∈ t.entries, ∀ e' ∈ t.entries, src e = src e' → e.1 = e'.1 := by
    intro e he e' he' hs
    simp only [src] at hs
    by_cases e₂ : e.1 = k₂ <;> by_cases e₁ : e.1 = k₁ <;> by_cases f₂ : e'.1 = k₂ <;>
      by_cases f₁ : e'.1 = k₁ <;> simp only [e₂, e₁, f₂, f₁, ↓reduceIte] at hs <;> grind
  have hprio : ∀ e : Nat × α, priority (if e.1 = k₂ then (e.1, setPriority e.2 (priority a₁))
      else if e.1 = k₁ then (e.1, setPriority e.2 (priority a₂)) else e).2 = priority (src e).2 := by
    intro e
    simp only [src]
    split <;> (try split) <;> simp
  refine ⟨hv.ascending.map fun e _ => by split <;> (try split) <;> rfl, ?_, ?_, ?_, ?_⟩
  · simp only [List.mem_map]
    rintro _ ⟨e, he, rfl⟩
    split <;> (try split) <;> exact hv.bounded e he
  · simp only [List.mem_map]
    rintro _ ⟨e, he, rfl⟩
    split <;> (try split) <;> simpa using hv.keyed e he
  · simp only [List.mem_map]
    rintro _ ⟨e, he, rfl⟩
    rw [hprio]
    exact hv.nonneg _ (hsrc e he)
  · refine distinct_map hv.ascending fun e he e' he' hq => hinj e he e' he' ?_
    rw [hprio, hprio] at hq
    exact hv.distinct _ (hsrc e he) _ (hsrc e' he') hq

end Valid

/-! ## Entries up to priority -/

section Bare

variable {α : Type} [Prioritized α]

/-- The entries with their priorities forgotten: what a change that only
moves priorities leaves as it was. -/
def bare (t : Table α) : List (Nat × α) := t.entries.map fun e => (e.1, setPriority e.2 0)

theorem mem_bare {t : Table α} {e : Nat × α} (he : e ∈ t.entries) :
    (e.1, setPriority e.2 0) ∈ t.bare :=
  List.mem_map_of_mem he

theorem mem_bare_of_get? {t : Table α} (ht : Ascending t.entries) {k : Nat} {a : α} (h : t.get? k = some a) :
    (k, setPriority a 0) ∈ t.bare :=
  mem_bare ((get?_eq_some_iff ht).mp h)

/-- Room-making moves priorities only. -/
theorem bare_map_room {t : Table α} {p : Int} {g : α → α} (hg : RoomAt p g t.values) :
    ({ t with entries := t.entries.map fun e => (e.1, g e.2) } : Table α).bare = t.bare := by
  simp only [bare, List.map_map]
  refine List.map_congr_left fun e he => ?_
  simp only [Function.comp_apply, hg.same e.2 (List.mem_map_of_mem he)]

/-- A creation adds its entry, last. -/
theorem bare_insert {t : Table α} {p : Int} {g : α → α} (hg : RoomAt p g t.values) (n : Nat) (a : α) :
    ({ lastId := n, entries := t.entries.map (fun e => (e.1, g e.2)) ++ [(n, a)] } : Table α).bare =
      t.bare ++ [(n, setPriority a 0)] := by
  have hmap := bare_map_room hg
  simp only [bare, List.map_append, List.map_cons, List.map_nil] at hmap ⊢
  rw [hmap]

/-- A replacement under `k` changes the entry there only. -/
theorem bare_replace {t : Table α} {k : Nat} {a : α} {g : α → α} (hg : RoomAt (priority a) g (others k t)) :
    ({ lastId := t.lastId,
       entries := t.entries.map fun e => if e.1 = k then (k, a) else (e.1, g e.2) } : Table α).bare =
      t.bare.map fun e => if e.1 = k then (k, setPriority a 0) else e := by
  simp only [bare, List.map_map]
  refine List.map_congr_left fun e he => ?_
  by_cases hk : e.1 = k
  · simp [hk]
  · simp [hk, hg.same e.2 (mem_others he hk)]

/-- Putting an entry under a stored identifier changes the entry there only. -/
theorem bare_put {t : Table α} (ht : Ascending t.entries) {k : Nat} {old : α} (hold : t.get? k = some old)
    (a : α) : (t.put k a).bare = t.bare.map fun e => if e.1 = k then (k, setPriority a 0) else e := by
  have hk : k ∈ t.entries.map (·.1) := List.mem_map.mpr ⟨_, (get?_eq_some_iff ht).mp hold, rfl⟩
  simp only [bare, put]
  rw [putEntry_of_mem ht hk, List.map_map, List.map_map]
  refine List.map_congr_left fun e _ => ?_
  by_cases he : e.1 = k <;> simp [he]

theorem bare_erase (t : Table α) (k : Nat) : (t.erase k).bare = t.bare.filter (·.1 != k) := by
  simp only [bare, erase, List.filter_map]
  rfl

/-- A swap moves priorities only. -/
theorem bare_swap [LawfulPrioritized α] (t : Table α) (k₁ k₂ : Nat) (p₁ p₂ : Int) :
    ((t.modify k₁ (setPriority · p₂)).modify k₂ (setPriority · p₁)).bare = t.bare := by
  rw [swap_eq]
  simp only [bare, List.map_map]
  refine List.map_congr_left fun e _ => ?_
  simp only [Function.comp_apply]
  split <;> (try split) <;> simp

end Bare

end Table

end GeoAccess
