/-!
Shortest decimals.

Among the decimals that a binary64 is the nearest binary64 to, `shortest` picks one with the
fewest digits and, of those, the nearest. All arithmetic is exact.
-/

namespace SlackBridge.Json.Decimal

/-- A positive binary64 as `significand * 2 ^ exponent`; `narrow` says that the next smaller one
is only half as far away as the next larger one. -/
structure Binary where
  significand : Nat
  exponent : Int
  narrow : Bool

def ofBits (bits : UInt64) : Binary :=
  let fraction := (bits &&& 0xfffffffffffff).toNat
  let biased := ((bits >>> 52) &&& 0x7ff).toNat
  if biased = 0 then ⟨fraction, -1074, false⟩
  else ⟨fraction + 0x10000000000000, (biased : Int) - 1075, fraction = 0 && biased > 1⟩

/-- The power of a base as a fraction. -/
def powerFraction (base : Nat) (exponent : Int) : Nat × Nat :=
  if 0 ≤ exponent then (Nat.pow base exponent.toNat, 1)
  else (1, Nat.pow base (-exponent).toNat)

/-- The least `p` from `start` on, within `fuel` steps, such that the fraction is below `10 ^ p`. -/
def pointFrom (num den : Nat) (start : Int) : Nat → Int
  | 0 => start
  | fuel + 1 =>
    let (a, b) := powerFraction 10 start
    if num * b < a * den then start else pointFrom num den (start + 1) fuel

/-- A decimal `0.d₁d₂… * 10 ^ point` with at most `digits` digits that lies between the two
bounds, all as multiples of `unit`; of two the one nearer to `value`. -/
def onGrid? (value low high : Nat) (closed : Bool) (unit : Nat × Nat) (point : Int)
    (digits : Nat) : Option Nat :=
  let (a, b) := powerFraction 10 (point - digits)
  let (u, v) := unit
  let step := a * v
  let scaled (x : Nat) := x * u * b
  let below := scaled value / step
  let inside (c : Nat) : Bool :=
    if closed then scaled low ≤ c * step && c * step ≤ scaled high
    else scaled low < c * step && c * step < scaled high
  let above := below + 1
  let nearer : Bool := scaled value - below * step ≤ above * step - scaled value
  if inside below && (nearer || !inside above) then some below
  else if inside above then some above
  else none

/-- The digits of a positive binary64 and the position of the point before which they start. -/
def shortest (x : Binary) : Nat × Int :=
  let unit := powerFraction 2 (x.exponent - 2)
  let value := 4 * x.significand
  let low := value - (if x.narrow then 1 else 2)
  let high := value + 2
  let point := pointFrom (value * unit.1) unit.2 (-330) 660
  let closed := x.significand % 2 = 0
  let found := (List.range 17).findSome? fun n =>
    (onGrid? value low high closed unit point (n + 1)).map fun c => (c, n + 1)
  match found with
  | some (c, n) => (c, point - n)
  | none => (0, 0)

/-- Drops trailing zeros into the exponent. -/
def stripZeros (c : Nat) (exponent : Int) : Nat → Nat × Int
  | 0 => (c, exponent)
  | fuel + 1 =>
    if c ≠ 0 ∧ c % 10 = 0 then stripZeros (c / 10) (exponent + 1) fuel else (c, exponent)

/-- The text of a binary64: positional from `1e-5` up to `1e16` and always with a fraction,
scientific outside. -/
def text (bits : UInt64) : List Char :=
  let sign := if bits >>> 63 = 1 then ['-'] else []
  let x := ofBits bits
  if x.significand = 0 then sign ++ ['0', '.', '0']
  else
    let (c, k) := let (c, k) := shortest x; stripZeros c k 20
    let digits := Nat.toDigits 10 c
    let point := k + digits.length
    let zeros (n : Int) := List.replicate n.toNat '0'
    let body :=
      if 0 ≤ k ∧ point ≤ 16 then digits ++ zeros k ++ ['.', '0']
      else if 0 < point ∧ point ≤ 16 then
        digits.take point.toNat ++ '.' :: digits.drop point.toNat
      else if -5 < point ∧ point ≤ 0 then '0' :: '.' :: zeros (-point) ++ digits
      else
        let tail := digits.drop 1
        digits.take 1 ++ (if tail.isEmpty then [] else '.' :: tail) ++ 'e' ::
          (toString (point - 1)).toList
    sign ++ body

end SlackBridge.Json.Decimal
