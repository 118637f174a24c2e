/-!
# Ordered sets

Roles of a request, styles of a layer and identifiers of matched rules are
sets: their order and repeats do not matter. A set is kept as the list of its
members in ascending order without repeats, so that two equal sets are equal
lists and print the same.

- `OrdSet.insert` puts an element into its place, once.
- `OrdSet.ofList` is the set of a list's members.
- `OrdSet.union` joins two sets.
-/

namespace GeoAccess

namespace OrdSet

variable {α : Type} [LT α] [DecidableRel (α := α) (· < ·)] [DecidableEq α]

/-- Puts an element into an ascending list without repeats, keeping both
properties. -/
def insert (a : α) : List α → List α
  | [] => [a]
  | x :: xs => if a < x then a :: x :: xs else if a = x then x :: xs else x :: insert a xs

/-- The set of the members of a list. -/
def ofList (xs : List α) : List α :=
  xs.foldr insert []

/-- The members of either set. -/
def union (a b : List α) : List α :=
  b.foldr insert a

/-- A member of a set after inserting is the inserted element or an old member. -/
theorem mem_insert {a t : α} {xs : List α} : t ∈ insert a xs ↔ t = a ∨ t ∈ xs := by
  induction xs with
  | nil => simp [insert]
  | cons x xs ih =>
    simp only [insert]
    split
    · simp
    · split
      · subst_vars; simp
      · simp only [List.mem_cons, ih]; exact or_left_comm

/-- The set of a list has exactly the list's members. -/
theorem mem_ofList {t : α} {xs : List α} : t ∈ ofList xs ↔ t ∈ xs := by
  induction xs with
  | nil => simp [ofList]
  | cons x xs ih =>
    simp only [ofList, List.foldr_cons] at *
    rw [mem_insert, ih]
    simp

end OrdSet

/-- The set of a list of texts. -/
abbrev TextSet.ofList (xs : List String) : List String := OrdSet.ofList xs

example : TextSet.ofList ["r2", "r1", "r2"] = ["r1", "r2"] := by decide
example : OrdSet.ofList [5, 2, 5] = [2, 5] := by decide

end GeoAccess
