import SlackBridge.Text.Ascii

/-!
Numbers of a JSON document.

An integer without fraction and exponent between `-2^63` and `2^64 - 1` is kept exactly. Every
other numeral is a binary64: at most the first twenty digits count, as many as stay below `2^64`,
and the result is that significand times a power of ten, each step rounded to nearest. A numeral
beyond the range of binary64 is well formed but has no value.
-/

namespace SlackBridge.Json

inductive Number
  | integer (value : Int)
  | real (bits : UInt64)
deriving DecidableEq, Repr

namespace Number

/-- Appends digits to a significand as long as it stays below `2^64`, and counts them. -/
def fill (significand : Nat) : List Nat → Nat × Nat
  | [] => (significand, 0)
  | d :: rest =>
    if significand * 10 + d < 2 ^ 64 then
      let (filled, used) := fill (significand * 10 + d) rest
      (filled, used + 1)
    else (significand, 0)

/-- The product with a power of ten; nothing if it is too large for a binary64. -/
def scale? (x : Float) (exponent : Int) : Option Float :=
  if exponent.natAbs ≤ 308 then
    let power := Float.ofScientific 1 false exponent.natAbs
    if 0 ≤ exponent then
      if (x * power).isInf then none else some (x * power)
    else some (x / power)
  else if x == 0 then some x
  else if 0 ≤ exponent then none
  else scale? (x / Float.ofScientific 1 false 308) (exponent + 308)
termination_by exponent.natAbs
decreasing_by omega

/-- The binary64 of a sign, a significand and a decimal exponent. -/
def ofParts? (negative : Bool) (significand : Nat) (exponent : Int) : Option Number :=
  (scale? significand.toUInt64.toFloat exponent).map fun x =>
    .real (if negative then -x else x).toBits

/-- The value of a numeral given by its sign, the digits before and after the point, and the
exponent. -/
def ofDigits? (negative : Bool) (whole : List Nat) (fraction : List Nat) (exponent : Option Int) :
    Option Number :=
  let (head, used) := fill 0 whole
  if fraction.isEmpty && exponent.isNone && used == whole.length then
    if negative then
      if head == 0 || head > 0x8000000000000000 then ofParts? true head 0
      else some (.integer (-(head : Int)))
    else some (.integer head)
  else
    let (significand, kept) := fill head fraction
    ofParts? negative significand ((whole.length - used : Nat) - (kept : Int) + exponent.getD 0)

end Number

def digitValues (cs : List Char) : List Nat :=
  cs.map fun c => c.toNat - 48

/-- The exponent part of a numeral, if it has one. -/
def exponent? : List Char → Option (Option Int)
  | [] => some none
  | mark :: rest =>
    if mark = 'e' ∨ mark = 'E' then
      let (negative, digits) := match rest with
        | '+' :: ds => (false, ds)
        | '-' :: ds => (true, ds)
        | ds => (false, ds)
      if digits ≠ [] ∧ digits.all Text.isAsciiDigit then
        let n : Nat := (digitValues digits).foldl (fun n d => n * 10 + d) 0
        some (some (if negative then -(n : Int) else n))
      else none
    else none

/-- Reads a numeral: an optional minus sign, digits without a superfluous leading zero, an
optional fraction and an optional exponent. The inner option is its value. -/
def numeral? (text : List Char) : Option (Option Number) :=
  let (negative, body) := match text with
    | '-' :: rest => (true, rest)
    | cs => (false, cs)
  let whole := body.takeWhile Text.isAsciiDigit
  let rest := body.dropWhile Text.isAsciiDigit
  if whole = [] ∨ (whole.head? = some '0' ∧ whole.length > 1) then none
  else match rest with
    | '.' :: tail =>
      let fraction := tail.takeWhile Text.isAsciiDigit
      if fraction = [] then none
      else (exponent? (tail.dropWhile Text.isAsciiDigit)).map
        (Number.ofDigits? negative (digitValues whole) (digitValues fraction))
    | tail => (exponent? tail).map (Number.ofDigits? negative (digitValues whole) [])

end SlackBridge.Json
