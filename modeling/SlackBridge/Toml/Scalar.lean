import SlackBridge.Text.Ascii
import SlackBridge.Text.Pieces
import SlackBridge.Toml.Value

/-!
Unquoted values in TOML: truth values, numbers, dates and times.
-/

namespace SlackBridge.Toml

open Text

/-- The digits of a number in which single underscores may stand between digits. -/
def joinedDigits? (isDigit : Char → Bool) (cs : List Char) : Option (List Char) :=
  let pieces := splitAtChar (· == '_') cs
  if pieces.all fun p => p ≠ [] && p.all isDigit then some pieces.flatten else none

/-- Digits without a leading zero. -/
def wholeDigits? (cs : List Char) : Option (List Char) :=
  (joinedDigits? isAsciiDigit cs).filter fun ds => ds.length == 1 || ds.head? != some '0'

def inBase (base : Nat) (digits : List Char) : Nat :=
  digits.foldl (fun n c => n * base + (hexValue? c).getD 0) 0

/-- The sign of a number and the rest. -/
def splitSign : List Char → Bool × List Char
  | '-' :: cs => (true, cs)
  | '+' :: cs => (false, cs)
  | cs => (false, cs)

/-- An integer of 64 bits, in decimal or, without a sign, in another base. -/
def integer? (cs : List Char) : Option Int :=
  let fit (n : Int) : Option Int :=
    if -0x8000000000000000 ≤ n ∧ n < 0x8000000000000000 then some n else none
  let based (base : Nat) (isDigit : Char → Bool) (ds : List Char) : Option Int :=
    (joinedDigits? isDigit ds).bind fun ds => fit (inBase base ds)
  match cs with
  | '0' :: 'x' :: ds => based 16 (fun c => (hexValue? c).isSome) ds
  | '0' :: 'o' :: ds => based 8 (fun c => '0' ≤ c && c ≤ '7') ds
  | '0' :: 'b' :: ds => based 2 (fun c => c == '0' || c == '1') ds
  | cs =>
    let (negative, ds) := splitSign cs
    (wholeDigits? ds).bind fun ds =>
      let n : Int := inBase 10 ds
      fit (if negative then -n else n)

/-- The digits of a decimal number with a fraction or an exponent, and the power of ten to scale
them by. -/
def decimal? (cs : List Char) : Option (Nat × Int) :=
  let isMark (c : Char) : Bool := c == 'e' || c == 'E'
  let significand := cs.takeWhile (!isMark ·)
  let exponent? : Option Int := match cs.dropWhile (!isMark ·) with
    | [] => some 0
    | _ :: e =>
      let (negative, ds) := splitSign e
      (joinedDigits? isAsciiDigit ds).map fun ds =>
        let n : Int := inBase 10 ds
        if negative then -n else n
  let whole := significand.takeWhile (· != '.')
  match exponent?, wholeDigits? whole, significand.dropWhile (· != '.') with
  | some e, some ds, [] => if significand.length < cs.length then some (inBase 10 ds, e) else none
  | some e, some ds, _ :: fraction =>
    (joinedDigits? isAsciiDigit fraction).map fun fs =>
      (inBase 10 (ds ++ fs), e - fs.length)
  | _, _, _ => none

/-- Whether a decimal number is too large for a binary64, rounded to nearest. -/
def isHuge (digits : Nat) (exponent : Int) : Bool :=
  let limit := Nat.pow 2 1024 - Nat.pow 2 970
  let width : Int := (Nat.toDigits 10 digits).length
  if digits = 0 ∨ width + exponent < 300 then false
  else if width + exponent > 320 then true
  else if 0 ≤ exponent then digits * Nat.pow 10 exponent.toNat ≥ limit
  else digits ≥ limit * Nat.pow 10 (-exponent).toNat

def isFloat (cs : List Char) : Bool :=
  let (negative, ds) := splitSign cs
  if ds = "inf".toList ∨ ds = "nan".toList then true
  else match decimal? ds with
    | some (digits, exponent) => negative || !isHuge digits exponent
    | none => false

/-- A number of two digits up to a bound. -/
def pair? (low high : Nat) (a b : Char) : Option Nat :=
  if isAsciiDigit a && isAsciiDigit b then
    some (inBase 10 [a, b]) |>.filter fun n => low ≤ n && n ≤ high
  else none

def daysInMonth (year month : Nat) : Nat :=
  if month = 2 then
    if year % 4 = 0 ∧ (year % 100 ≠ 0 ∨ year % 400 = 0) then 29 else 28
  else if [4, 6, 9, 11].contains month then 30
  else 31

/-- What follows the date that a text begins with. -/
def dropDate? : List Char → Option (List Char)
  | y1 :: y2 :: y3 :: y4 :: '-' :: m1 :: m2 :: '-' :: d1 :: d2 :: rest => do
    if [y1, y2, y3, y4].all isAsciiDigit then
      let month ← pair? 1 12 m1 m2
      let _ ← pair? 1 (daysInMonth (inBase 10 [y1, y2, y3, y4]) month) d1 d2
      return rest
    else none
  | _ => none

/-- What follows the time that a text begins with. -/
def dropTime? : List Char → Option (List Char)
  | h1 :: h2 :: ':' :: m1 :: m2 :: ':' :: s1 :: s2 :: rest => do
    let _ ← pair? 0 23 h1 h2
    let _ ← pair? 0 59 m1 m2
    let _ ← pair? 0 60 s1 s2
    match rest with
    | '.' :: fraction =>
      if fraction.head?.any isAsciiDigit then some (fraction.dropWhile isAsciiDigit) else none
    | rest => some rest
  | _ => none

/-- A distance from universal time, or nothing. -/
def isOffset : List Char → Bool
  | [] => true
  | ['Z'] => true
  | ['z'] => true
  | [s, h1, h2, ':', m1, m2] =>
    (s == '+' || s == '-') && (pair? 0 23 h1 h2).isSome && (pair? 0 59 m1 m2).isSome
  | _ => false

/-- A date, a time, or both with a `T` or a blank between them. -/
def isDatetime (cs : List Char) : Bool :=
  match dropDate? cs with
  | some [] => true
  | some (sep :: time) =>
    (sep == 'T' || sep == 't' || sep == ' ') && (dropTime? time).any isOffset
  | none => dropTime? cs == some []

/-- The characters that unquoted values are made of. -/
def isScalarChar (c : Char) : Bool :=
  isAsciiAlphanumeric c || c == '_' || c == '+' || c == '-' || c == '.' || c == ':'

def scalarValue? (cs : List Char) : Option Value :=
  if cs = "true".toList then some (.boolean true)
  else if cs = "false".toList then some (.boolean false)
  else if isDatetime cs then some (.datetime (String.ofList cs))
  else match integer? cs with
    | some n => some (.integer n)
    | none => if isFloat cs then some (.float (String.ofList cs)) else none

/-- The unquoted value that a text begins with. A blank inside belongs to it between a date and a
time. -/
def scalar? (cs : List Char) : Option (Value × List Char) :=
  let word := cs.takeWhile isScalarChar
  let rest := cs.dropWhile isScalarChar
  match dropDate? word, rest with
  | some [], ' ' :: more =>
    if more.head?.any isAsciiDigit then
      (scalarValue? (word ++ ' ' :: more.takeWhile isScalarChar)).map
        (·, more.dropWhile isScalarChar)
    else (scalarValue? word).map (·, rest)
  | _, _ => (scalarValue? word).map (·, rest)

end SlackBridge.Toml
