import SlackBridge.Text.Ascii
import SlackBridge.Text.Pieces

/-!
Tables of character properties.

A table is written as rows of hexadecimal numbers, several to a line: the rows between commas and
the numbers between blanks.
-/

namespace SlackBridge.Text

/-- The characters from `first` to `last`, with a value that they share. -/
structure CharRange where
  first : Nat
  last : Nat
  value : Nat
deriving DecidableEq, Repr

def CharRange.holds (r : CharRange) (c : Char) : Bool :=
  r.first ≤ c.toNat && c.toNat ≤ r.last

def hexNumber (digits : List Char) : Nat :=
  digits.foldl (fun n c => n * 16 + (hexValue? c).getD 0) 0

/-- The rows of a table. -/
def rows (lines : List String) : List (List Nat) :=
  lines.flatMap fun line =>
    (splitAtChar (· == ',') line.toList).map fun row => (splitAtChar (· == ' ') row).map hexNumber

/-- The rows of a table as ranges. A row without a value stands for the value 0. -/
def ranges (lines : List String) : List CharRange :=
  (rows lines).filterMap fun
    | [first, last] => some ⟨first, last, 0⟩
    | [first, last, value] => some ⟨first, last, value⟩
    | _ => none

/-- Whether some range of a table holds a character. -/
def holds (table : List CharRange) (c : Char) : Bool :=
  table.any (·.holds c)

/-- The value of a character in a table, and 0 if no range holds it. -/
def valueOf (table : List CharRange) (c : Char) : Nat :=
  ((table.find? (·.holds c)).map CharRange.value).getD 0

end SlackBridge.Text
