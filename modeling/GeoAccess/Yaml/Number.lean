/-!
# What a plain scalar denotes

The markup's core schema reads an untagged plain scalar as null, a truth
value, an integer or a floating value, and as a text otherwise:

- null: empty, `~`, `null`, `Null`, `NULL`;
- truth values: `true`, `True`, `TRUE`, `false`, `False`, `FALSE`;
- integers: decimal with an optional sign, or `0x`, `0o`, `0b` with hex,
  octal or binary digits (a `-` may stand before the prefix); a decimal
  with a leading zero and only digits after it (`012`) is a text;
- floating values: decimal with a fraction or an exponent, `.inf`, `-.inf`
  and `.nan` in three spellings each; a finite decimal too large for 64-bit
  floating point is a text.

Integers are tried as unsigned 64-bit, negative 64-bit, unsigned 128-bit and
negative 128-bit, in that order; the first width that holds the value names
it.

A floating value is shown as the shortest decimal that reads back to the
same 64-bit value, written out without an exponent and always with a
decimal point (`1e3` shows as `1000.0`).
-/

namespace GeoAccess.Yaml

/-- A truth value of the core schema. -/
def parseBool : String → Option Bool
  | "true" | "True" | "TRUE" => some true
  | "false" | "False" | "FALSE" => some false
  | _ => none

/-- Whether a scalar is a spelling of null. -/
def isNullWord : String → Bool
  | "~" | "null" | "Null" | "NULL" => true
  | _ => false

/-- Drops one leading `+` or `-`. -/
def dropSign (s : String) : String :=
  if s.startsWith "+" || s.startsWith "-" then (s.drop 1).toString else s

/-- A run of digits with a leading zero, such as `012`: a text, not a number. -/
def digitsButNotNumber (s : String) : Bool :=
  let t := dropSign s
  t.length > 1 && t.startsWith "0" && (t.drop 1).all Char.isDigit

/-- The value of a digit in a radix up to 16. -/
def digitIn (radix : Nat) (c : Char) : Option Nat :=
  let v :=
    if '0' ≤ c && c ≤ '9' then c.toNat - '0'.toNat
    else if 'a' ≤ c && c ≤ 'z' then c.toNat - 'a'.toNat + 10
    else if 'A' ≤ c && c ≤ 'Z' then c.toNat - 'A'.toNat + 10
    else 36
  if v < radix then some v else none

/-- The value of a non-empty run of digits in a radix. -/
def digitsValue (radix : Nat) (cs : List Char) : Option Nat :=
  if cs.isEmpty then none
  else cs.foldlM (fun acc c => (digitIn radix c).map (acc * radix + ·)) 0

/-- An integer in a radix, with an optional `+` (or `-` when `signed`),
within `lo ..= hi`. -/
def fromRadix (radix : Nat) (signed : Bool) (lo hi : Int) (s : String) : Option Int :=
  let value : Option Int :=
    match s.toList with
    | ['+'] | ['-'] => none
    | '+' :: rest => (digitsValue radix rest).map Int.ofNat
    | '-' :: rest => if signed then (digitsValue radix rest).map (- Int.ofNat ·) else none
    | cs => (digitsValue radix cs).map Int.ofNat
  value.filter fun v => lo ≤ v && v ≤ hi

/-- Whether a text starts with a sign. -/
def startsWithSign (s : String) : Bool := s.startsWith "+" || s.startsWith "-"

/-- The text after a prefix, if the text has it. -/
def afterPrefix (s pfx : String) : Option String :=
  if s.startsWith pfx then some (s.drop pfx.length).toString else none

/-- A non-negative integer of at most `bits` bits: decimal, `0x`, `0o` or
`0b`, with an optional `+`. -/
def parseUnsigned (bits : Nat) (s : String) : Option Nat :=
  let u := if s.startsWith "+" then (s.drop 1).toString else s
  let radixed (pfx : String) (radix : Nat) : Option Nat :=
    match afterPrefix u pfx with
    | some rest =>
      if startsWithSign rest then none
      else (fromRadix radix false 0 (Int.pow 2 bits - 1) rest).map Int.toNat
    | none => none
  match radixed "0x" 16 with
  | some n => some n
  | none =>
    match radixed "0o" 8 with
    | some n => some n
    | none =>
      match radixed "0b" 2 with
      | some n => some n
      | none =>
        if startsWithSign u || digitsButNotNumber s then none
        else (fromRadix 10 false 0 (Int.pow 2 bits - 1) u).map Int.toNat

/-- A signed integer of at most `bits` bits written with `-`: `-0x`, `-0o`,
`-0b` or decimal. Non-negative decimals are accepted too. -/
def parseNegative (bits : Nat) (s : String) : Option Int :=
  let lo : Int := -(Int.pow 2 (bits - 1))
  let hi : Int := Int.pow 2 (bits - 1) - 1
  let radixed (pfx : String) (radix : Nat) : Option Int :=
    (afterPrefix s pfx).bind fun rest => fromRadix radix true lo hi ("-" ++ rest)
  match radixed "-0x" 16 with
  | some n => some n
  | none =>
    match radixed "-0o" 8 with
    | some n => some n
    | none =>
      match radixed "-0b" 2 with
      | some n => some n
      | none => if digitsButNotNumber s then none else fromRadix 10 true lo hi s

/-- A signed 64-bit integer as a signed field reads it: an optional `+`,
then any of the forms of `parseUnsigned` and `parseNegative`. -/
def parseSigned (s : String) : Option Int :=
  let lo : Int := -(Int.pow 2 63)
  let hi : Int := Int.pow 2 63 - 1
  if s.startsWith "+" && startsWithSign (s.drop 1).toString then none
  else
    let u := if s.startsWith "+" then (s.drop 1).toString else s
    let plain (pfx : String) (radix : Nat) : Option Int :=
      (afterPrefix u pfx).bind fun rest =>
        if startsWithSign rest then none else fromRadix radix true lo hi rest
    let negative (pfx : String) (radix : Nat) : Option Int :=
      (afterPrefix s pfx).bind fun rest => fromRadix radix true lo hi ("-" ++ rest)
    let tries := [plain "0x" 16, negative "-0x" 16, plain "0o" 8, negative "-0o" 8,
      plain "0b" 2, negative "-0b" 2]
    match tries.findSome? id with
    | some n => some n
    | none => if digitsButNotNumber s then none else fromRadix 10 true lo hi u

/-! ## Floating values -/

/-- A 64-bit floating value: `(-1)^neg × mant × 2^exp` when finite, with
`mant < 2^53`, and `exp = -1074` or `2^52 ≤ mant`. -/
inductive FloatValue where
  | finite (neg : Bool) (mant : Nat) (exp : Int)
  | infinity (neg : Bool)
  | nan
  deriving DecidableEq, Repr

/-- Compares `a × 2^p × 10^q` with `b × 2^r × 10^s`. -/
def cmpScaled (a : Nat) (p q : Int) (b : Nat) (r s : Int) : Ordering :=
  let p0 := min p r
  let q0 := min q s
  compare (a * Nat.pow 2 (p - p0).toNat * Nat.pow 10 (q - q0).toNat)
    (b * Nat.pow 2 (r - p0).toNat * Nat.pow 10 (s - q0).toNat)

/-- The number of decimal digits of a number (1 for 0). -/
def decimalLength (n : Nat) : Nat := (Nat.toDigits 10 n).length

/-- The nearest 64-bit value to `d × 10^x`, ties to an even mantissa, as a
mantissa and an exponent; `none` when it is too large. -/
def nearestBinary (d : Nat) (x : Int) : Option (Nat × Int) :=
  if d = 0 then some (0, -1074)
  else if (decimalLength d : Int) + x > 310 then none
  else if (decimalLength d : Int) + x < -400 then some (0, -1074)
  else
    let num := if x ≥ 0 then d * Nat.pow 10 x.toNat else d
    let den := if x ≥ 0 then 1 else Nat.pow 10 (-x).toNat
    let t0 : Int := (Nat.log2 num : Int) - (Nat.log2 den : Int)
    let atLeast (t : Int) : Bool :=
      if t ≥ 0 then num ≥ den * Nat.pow 2 t.toNat else num * Nat.pow 2 (-t).toNat ≥ den
    let t := if atLeast t0 then t0 else t0 - 1
    let e := max (t - 52) (-1074)
    let (qn, qd) := if e ≥ 0 then (num, den * Nat.pow 2 e.toNat) else (num * Nat.pow 2 (-e).toNat, den)
    let q := qn / qd
    let r := qn % qd
    let m := if 2 * r > qd || (2 * r == qd && q % 2 == 1) then q + 1 else q
    let (m, e) := if m == Nat.pow 2 53 then (Nat.pow 2 52, e + 1) else (m, e)
    if e > 971 then none else some (m, e)

/-- The pieces of a decimal numeral: sign, digits, exponent of the last
digit. -/
def decimalParts (s : String) : Option (Bool × Nat × Int) :=
  let cs := s.toList
  let (neg, cs) := match cs with
    | '+' :: rest => (false, rest)
    | '-' :: rest => (true, rest)
    | cs => (false, cs)
  let intPart := cs.takeWhile Char.isDigit
  let cs := cs.dropWhile Char.isDigit
  let (fracPart, cs) := match cs with
    | '.' :: rest => (rest.takeWhile Char.isDigit, rest.dropWhile Char.isDigit)
    | cs => ([], cs)
  if intPart.isEmpty && fracPart.isEmpty then none
  else
    let expPart : Option Int := match cs with
      | [] => some 0
      | e :: rest =>
        if e == 'e' || e == 'E' then
          let (eneg, ds) := match rest with
            | '+' :: ds => (false, ds)
            | '-' :: ds => (true, ds)
            | ds => (false, ds)
          if ds.isEmpty || !ds.all Char.isDigit then none
          else
            let v : Int := Int.ofNat (ds.foldl (fun acc c => acc * 10 + (c.toNat - '0'.toNat)) 0)
            some (if eneg then -v else v)
        else none
    expPart.map fun ex =>
      let digits := (intPart ++ fracPart).foldl (fun acc c => acc * 10 + (c.toNat - '0'.toNat)) 0
      (neg, digits, ex - fracPart.length)

/-- A decimal floating numeral as the standard reader takes it (an optional
sign, digits with an optional point, an optional exponent), when its value
is finite. -/
def readFinite (s : String) : Option FloatValue :=
  (decimalParts s).bind fun (neg, d, x) =>
    (nearestBinary d x).map fun (m, e) => .finite neg m e

/-- A floating value of the core schema: an optional `+`, `.inf` and `.nan`
in three spellings, or a finite decimal. -/
def parseFloat (s : String) : Option FloatValue :=
  let u := if s.startsWith "+" then (s.drop 1).toString else s
  if s.startsWith "+" && startsWithSign u then none
  else if u == ".inf" || u == ".Inf" || u == ".INF" then some (.infinity false)
  else if s == "-.inf" || s == "-.Inf" || s == "-.INF" then some (.infinity true)
  else if s == ".nan" || s == ".NaN" || s == ".NAN" then some .nan
  else readFinite u

/-- The power of ten just above a positive value `v × 2^e`: the `k` with
`10^(k-1) ≤ v × 2^e < 10^k`. -/
def decimalExponent (v : Nat) (e : Int) : Int :=
  let est : Int := ((Nat.log2 v : Int) + e) * 30103 / 100000 + 1
  let up (k : Int) : Int := if cmpScaled v e 0 1 0 k != .lt then k + 1 else k
  let down (k : Int) : Int := if cmpScaled v e 0 1 0 (k - 1) == .lt then k - 1 else k
  down (down (up (up est)))

/-- The shortest decimal `c × 10^j` that reads back to the finite positive
value `m × 2^e`; of two candidates of that length, the nearer, and the
larger on a tie. -/
def shortestDecimal (m : Nat) (e : Int) : Nat × Int :=
  let boundary := m == Nat.pow 2 52 && e > -1074
  let ex := e - 2
  let v := 4 * m
  let lo := v - (if boundary then 1 else 2)
  let hi := v + 2
  let inclusive := m % 2 == 0
  let k := decimalExponent v ex
  let inside (c : Nat) (j : Int) : Bool :=
    let a := cmpScaled c 0 j lo ex 0
    let b := cmpScaled c 0 j hi ex 0
    (a == .gt || (inclusive && a == .eq)) && (b == .lt || (inclusive && b == .eq))
  let attempt (n : Nat) : Option (Nat × Int) :=
    let j := k - n
    let num := v * Nat.pow 2 (max ex 0).toNat * Nat.pow 10 (max (-j) 0).toNat
    let den := Nat.pow 2 (max (-ex) 0).toNat * Nat.pow 10 (max j 0).toNat
    let cf := num / den
    let down := inside cf j
    let up := inside (cf + 1) j
    if up && (!down || cmpScaled (2 * v) ex 0 (2 * cf + 1) 0 j != .lt) then some (cf + 1, j)
    else if down then some (cf, j)
    else none
  match (List.range 17).findSome? (fun n => attempt (n + 1)) with
  | some r => r
  | none => (m, 0)

/-- Drops trailing zeros of `c × 10^j`. -/
def trimZeros : Nat → Nat → Int → Nat × Int
  | 0, c, j => (c, j)
  | fuel + 1, c, j => if c ≠ 0 && c % 10 = 0 then trimZeros fuel (c / 10) (j + 1) else (c, j)

/-- `c × 10^j` written out without an exponent. -/
def positional (c : Nat) (j : Int) : String :=
  let s := String.ofList (Nat.toDigits 10 c)
  let n : Int := s.length
  let k := j + n
  if k ≤ 0 then "0." ++ String.ofList (List.replicate (-k).toNat '0') ++ s
  else if k < n then (s.take k.toNat).toString ++ "." ++ (s.drop k.toNat).toString
  else s ++ String.ofList (List.replicate (k - n).toNat '0')

/-- A floating value as a failure shows it: the shortest decimal that reads
back, with `.0` added when it has no decimal point; `inf`, `-inf`, `NaN`. -/
def FloatValue.render : FloatValue → String
  | .infinity neg => if neg then "-inf" else "inf"
  | .nan => "NaN"
  | .finite neg m e =>
    let sign := if neg then "-" else ""
    let body :=
      if m = 0 then "0"
      else
        let (c, j) := shortestDecimal m e
        let (c, j) := trimZeros 20 c j
        positional c j
    sign ++ (if body.contains '.' then body else body ++ ".0")

end GeoAccess.Yaml
