/-!
Punycode, which spells any label with letters, digits and hyphens.

The characters beyond ASCII are written in increasing order, each as the distance from the one
before it, in a mixed-radix notation whose thresholds adapt to the distances seen so far.
-/

namespace SlackBridge.Url.Punycode

def digitChar (d : Nat) : Char :=
  if d < 26 then Char.ofNat (97 + d) else Char.ofNat (22 + d)

def digitValue? (c : Char) : Option Nat :=
  let n := c.toNat
  if 97 ≤ n ∧ n ≤ 122 then some (n - 97)
  else if 65 ≤ n ∧ n ≤ 90 then some (n - 65)
  else if 48 ≤ n ∧ n ≤ 57 then some (n - 22)
  else none

/-- The threshold of the digit at position `k`, which counts in steps of 36. -/
def threshold (k bias : Nat) : Nat :=
  if k ≤ bias then 1 else if bias + 26 ≤ k then 26 else k - bias

theorem one_le_threshold (k bias : Nat) : 1 ≤ threshold k bias := by
  unfold threshold
  split
  · omega
  · split <;> omega

/-- Counts how often the distance has to be divided before it is small. -/
def adaptFrom (delta k : Nat) : Nat :=
  if 455 < delta then adaptFrom (delta / 35) (k + 36) else k + 36 * delta / (delta + 38)
termination_by delta

/-- The bias after a distance was written at `points` characters. -/
def adapt (delta points : Nat) (first : Bool) : Nat :=
  let scaled := if first then delta / 700 else delta / 2
  adaptFrom (scaled + scaled / points) 0

/-- The digits of a distance, the least significant first. -/
def writeDistance (q k bias : Nat) : List Char :=
  let t := threshold k bias
  if q < t then [digitChar q]
  else digitChar (t + (q - t) % (36 - t)) :: writeDistance ((q - t) / (36 - t)) (k + 36) bias
termination_by q
decreasing_by
  rename_i h
  have ht := one_le_threshold k bias
  have hd := Nat.div_le_self (q - threshold k bias) (36 - threshold k bias)
  omega

/-- The progress of writing a label: the code points written, the distance so far, the bias and
the digits. -/
structure Writing where
  written : Nat
  delta : Nat
  bias : Nat
  digits : List Char

/-- Writes every occurrence of the code point `m`. -/
def writePoint (basic m : Nat) (label : List Nat) (w : Writing) : Writing :=
  label.foldl (fun w c =>
    if c < m then { w with delta := w.delta + 1 }
    else if c = m then
      { written := w.written + 1
        delta := 0
        bias := adapt w.delta (w.written + 1) (w.written == basic)
        digits := w.digits ++ writeDistance w.delta 36 w.bias }
    else w) w

/-- Writes the remaining code points, each at least `n`, in increasing order. -/
def writePoints (basic : Nat) (label : List Nat) : List Nat → Nat → Writing → Writing
  | [], _, w => w
  | m :: rest, n, w =>
    let w := writePoint basic m label { w with delta := w.delta + (m - n) * (w.written + 1) }
    writePoints basic label rest (m + 1) { w with delta := w.delta + 1 }

def encode (label : List Char) : List Char :=
  let points := label.map Char.toNat
  let basic := label.filter fun c => c.toNat < 128
  let others := ((points.filter (128 ≤ ·)).mergeSort (· ≤ ·)).eraseDups
  let w := writePoints basic.length points others 128 ⟨basic.length, 0, 72, []⟩
  (if basic = [] then [] else basic ++ ['-']) ++ w.digits

/-- Reads one distance: its value and the remaining digits. -/
def readDistance (bias i weight k : Nat) : List Char → Option (Nat × List Char)
  | [] => none
  | c :: rest => do
    let d ← digitValue? c
    let i := i + d * weight
    if 2 ^ 32 ≤ i then none
    else
      let t := threshold k bias
      if d < t then return (i, rest) else readDistance bias i (weight * (36 - t)) (k + 36) rest

/-- Inserts the code points that the digits describe. The fuel bounds the number of digits. -/
def readPoints : (fuel : Nat) → (label : List Nat) → (n i bias : Nat) → List Char →
    Option (List Nat)
  | _, label, _, _, _, [] => some label
  | 0, _, _, _, _, _ => none
  | fuel + 1, label, n, i, bias, digits => do
    let (next, rest) ← readDistance bias i 1 36 digits
    let size := label.length + 1
    let point := n + next / size
    let place := next % size
    if point < 0x110000 then
      readPoints fuel (label.take place ++ point :: label.drop place) point (place + 1)
        (adapt (next - i) size (i == 0)) rest
    else none

/-- The label that a Punycode text spells. -/
def decode? (text : List Char) : Option (List Char) := do
  let afterHyphen := (text.reverse.takeWhile (· ≠ '-')).reverse
  let hasHyphen := afterHyphen.length < text.length
  let basic := if hasHyphen then text.take (text.length - afterHyphen.length - 1) else []
  let points ← readPoints text.length (basic.map Char.toNat) 128 0 72 afterHyphen
  if points.all (fun n => n < 0xd800 ∨ (0xe000 ≤ n ∧ n < 0x110000)) then
    return points.map Char.ofNat
  else none

end SlackBridge.Url.Punycode
