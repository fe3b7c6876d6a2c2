import SlackBridge.Text.Ascii
import SlackBridge.Text.Pieces

/-!
Numeric hosts: IPv4 and IPv6 addresses.

An IPv4 address has up to four parts in decimal, octal (`0…`) or hexadecimal (`0x…`); the last
part fills all remaining bytes. An IPv6 address has eight 16-bit pieces, of which one run of zeros
may be left out, and may end in an IPv4 address.
-/

namespace SlackBridge.Url

/-- The value of digits in a radix. -/
def radixValue? (radix : Nat) (cs : List Char) : Option Nat :=
  cs.foldlM (fun n c => do
    let d ← Text.hexValue? c
    if d < radix then some (n * radix + d) else none) 0

/-- One part of an IPv4 address, of any size. -/
def ipv4Part? (cs : List Char) : Option Nat :=
  match cs with
  | [] => none
  | '0' :: 'x' :: rest => radixValue? 16 rest
  | '0' :: 'X' :: rest => radixValue? 16 rest
  | '0' :: d :: rest => radixValue? 8 (d :: rest)
  | cs => radixValue? 10 cs

/-- The parts of a host between dots, without an empty one at the end. -/
def dottedParts (cs : List Char) : List (List Char) :=
  let parts := Text.splitAtChar (· == '.') cs
  if parts.getLast? = some [] ∧ parts.length > 1 then parts.dropLast else parts

/-- A host is to be read as an IPv4 address when its last part is a number. -/
def endsInNumber (cs : List Char) : Bool :=
  match (dottedParts cs).getLast? with
  | some part => (part ≠ [] && part.all Text.isAsciiDigit) || (ipv4Part? part).isSome
  | none => false

/-- The address in 32 bits. -/
def ipv4? (cs : List Char) : Option Nat := do
  let parts := dottedParts cs
  if parts.length > 4 then none
  else
    let numbers ← parts.mapM ipv4Part?
    let last ← numbers.getLast?
    let front := numbers.dropLast
    if Nat.pow 256 (4 - front.length) ≤ last ∨ front.any (255 < ·) then none
    else
      let high := front.zipIdx.foldl (fun sum (n, i) => sum + n * Nat.pow 256 (3 - i)) 0
      return high + last

def ipv4Chars (address : Nat) : List Char :=
  let byte (i : Nat) := Nat.toDigits 10 (address / Nat.pow 256 i % 256)
  byte 3 ++ '.' :: byte 2 ++ '.' :: byte 1 ++ '.' :: byte 0

/-- One byte of an IPv4 address inside an IPv6 address: decimal without a leading zero. -/
def embeddedByte? (cs : List Char) : Option Nat :=
  if cs = [] ∨ !cs.all Text.isAsciiDigit ∨ (cs.head? = some '0' ∧ cs.length > 1) then none
  else (radixValue? 10 cs).filter (· ≤ 255)

/-- The pieces of one side of an IPv6 address; `final` allows an IPv4 address at its end. -/
def ipv6Side? (final : Bool) (parts : List (List Char)) : Option (List Nat) :=
  match parts with
  | [] => some []
  | [part] =>
    if final ∧ part.contains '.' then do
      match ← (Text.splitAtChar (· == '.') part).mapM embeddedByte? with
      | [a, b, c, d] => some [a * 256 + b, c * 256 + d]
      | _ => none
    else if part = [] ∨ part.length > 4 then none
    else (radixValue? 16 part).map fun n => [n]
  | part :: rest =>
    if part = [] ∨ part.length > 4 then none
    else do
      let n ← radixValue? 16 part
      let tail ← ipv6Side? final rest
      return n :: tail

/-- The text before and after the first `::`. -/
def cutAtDoubleColon : List Char → Option (List Char × List Char)
  | ':' :: ':' :: rest => some ([], rest)
  | c :: rest => (cutAtDoubleColon rest).map fun (a, b) => (c :: a, b)
  | [] => none

/-- The eight pieces of an IPv6 address written without brackets. -/
def ipv6? (cs : List Char) : Option (List Nat) :=
  let parts (side : List Char) := if side = [] then [] else Text.splitAtChar (· == ':') side
  match cutAtDoubleColon cs with
  | none => (ipv6Side? true (parts cs)).filter (·.length = 8)
  | some (left, right) => do
    let a ← ipv6Side? false (parts left)
    let b ← ipv6Side? true (parts right)
    if a.length + b.length ≤ 7 then
      return a ++ List.replicate (8 - a.length - b.length) 0 ++ b
    else none

/-- The first of the longest runs of at least two zero pieces, as position and length. -/
def longestZeros (pieces : List Nat) : Option (Nat × Nat) :=
  let runAt (i : Nat) := ((pieces.drop i).takeWhile (· == 0)).length
  (List.range 8).foldl (fun best i =>
    let n := runAt i
    match best with
    | none => if 2 ≤ n then some (i, n) else none
    | some (_, m) => if m < n then some (i, n) else best) none

def pieceChars (pieces : List Nat) : List Char :=
  [':'].intercalate (pieces.map (Nat.toDigits 16))

def ipv6Chars (pieces : List Nat) : List Char :=
  match longestZeros pieces with
  | none => pieceChars pieces
  | some (i, n) =>
    pieceChars (pieces.take i) ++ ':' :: ':' :: pieceChars (pieces.drop (i + n))

end SlackBridge.Url
