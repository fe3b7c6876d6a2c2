import SlackBridge.Text.Ascii

/-!
Decimal integers in text: an optional sign, then at least one digit, within a range.
-/

namespace SlackBridge.Text

/-- The value of a non-empty run of decimal digits. -/
def digits? (cs : List Char) : Option Nat :=
  if cs ≠ [] ∧ cs.all isAsciiDigit then
    some (cs.foldl (fun n c => n * 10 + (c.toNat - 48)) 0)
  else none

/-- A natural number up to `bound`, with an optional plus sign. -/
def natural? (bound : Nat) (s : String) : Option Nat :=
  let body := match s.toList with
    | '+' :: rest => rest
    | cs => cs
  (digits? body).filter (· ≤ bound)

/-- The largest value of an unsigned 64-bit number. -/
def maxWord : Nat := UInt64.size - 1

/-- An integer from `-2^63` to `2^63 - 1`, with an optional sign. -/
def integer? (s : String) : Option Int :=
  match s.toList with
  | '-' :: rest => ((digits? rest).filter (· ≤ 0x8000000000000000)).map fun n => -(n : Int)
  | '+' :: rest => ((digits? rest).filter (· < 0x8000000000000000)).map Int.ofNat
  | cs => ((digits? cs).filter (· < 0x8000000000000000)).map Int.ofNat

end SlackBridge.Text
