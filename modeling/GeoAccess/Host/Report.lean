/-!
# Failure reports

A failure of the host program is a chain of messages, from the step that
failed outermost to the cause innermost: `load rules file: seed.yaml`, then
`parse rules yaml`, then what the reader found.

- `Report.inline` joins the chain with `: ` on one line.
- `Report.detailed` puts the outermost message first and lists the causes
  under `Caused by:`, numbered when there are several, each line indented.
-/

namespace GeoAccess.Host

/-- A failure as a chain of messages, outermost first. -/
structure Report where
  chain : List String
  deriving DecidableEq, Repr

namespace Report

/-- A failure of one message. -/
def single (m : String) : Report := { chain := [m] }

/-- The failure seen from an enclosing step. -/
def within (context : String) (r : Report) : Report := { chain := context :: r.chain }

/-- The chain on one line. -/
def inline (r : Report) : String := ": ".intercalate r.chain

/-- A number right-aligned in five columns. -/
def pad5 (n : Nat) : String :=
  let s := toString n
  String.ofList (List.replicate (5 - s.length) ' ') ++ s

/-- One cause, its lines indented under its number or under four blanks. -/
def cause (number : Option Nat) (text : String) : String :=
  let lines := text.splitOn "\n"
  let first := match number with
    | some n => pad5 n ++ ": "
    | none => "    "
  let rest := if number.isSome then "       " else "    "
  match lines with
  | [] => first
  | l :: ls => first ++ l ++ String.join (ls.map fun l => "\n" ++ rest ++ l)

/-- The chain with its causes listed below the outermost message. -/
def detailed (r : Report) : String :=
  match r.chain with
  | [] => ""
  | [m] => m
  | m :: causes =>
    let numbered := causes.length > 1
    let lines := (List.range causes.length).zip causes |>.map fun (i, c) =>
      cause (if numbered then some i else none) c
    m ++ "\n\nCaused by:\n" ++ "\n".intercalate lines

end Report

end GeoAccess.Host
