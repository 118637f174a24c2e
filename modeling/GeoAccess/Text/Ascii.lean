/-!
# ASCII case

Names of services, layers, workspaces and the like compare without regard to
the case of ASCII letters, and grant names are read in any ASCII case. Only
the 26 Latin letters fold: `Ä` and `ä` stay different, as do `ß` and `SS`.

- `upper` maps `a`–`z` to `A`–`Z` and keeps every other character.
- `eqFold` compares two texts character by character after that map.
-/

namespace GeoAccess.Text

/-- The ASCII capital of a letter `a`–`z`; any other character is kept. -/
def upper (c : Char) : Char :=
  if 'a' ≤ c ∧ c ≤ 'z' then Char.ofNat (c.toNat - 32) else c

/-- A text with its ASCII letters in capitals. -/
def upperText (s : String) : String :=
  String.ofList (s.toList.map upper)

/-- Two character lists agree up to the case of ASCII letters. -/
def eqFoldChars : List Char → List Char → Bool
  | [], [] => true
  | a :: as, b :: bs => upper a == upper b && eqFoldChars as bs
  | _, _ => false

/-- Two texts agree up to the case of ASCII letters. -/
def eqFold (a b : String) : Bool :=
  eqFoldChars a.toList b.toList

/-- A text agrees with itself up to case. -/
theorem eqFoldChars_refl (cs : List Char) : eqFoldChars cs cs = true := by
  induction cs with
  | nil => rfl
  | cons c cs ih => simp [eqFoldChars, ih]

/-- Agreement up to case is symmetric. -/
theorem eqFoldChars_comm (as bs : List Char) : eqFoldChars as bs = eqFoldChars bs as := by
  induction as generalizing bs with
  | nil => cases bs <;> rfl
  | cons a as ih =>
    cases bs with
    | nil => rfl
    | cons b bs => simp [eqFoldChars, ih, Bool.beq_comm]

end GeoAccess.Text
