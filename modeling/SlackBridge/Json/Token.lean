import SlackBridge.Json.Number
import SlackBridge.Text.Utf8

/-!
Tokens of a JSON document.

The scanner reads the bytes once, from left to right. It refuses a document with a malformed
literal, numeral or string. A string token may still have no text: its bytes may be no UTF-8 or it
may hold half a surrogate pair. A number token may have no value. Whether that matters is for the
reader of the document to say.
-/

namespace SlackBridge.Json

inductive Token
  | openArray | closeArray | openObject | closeObject | comma | colon
  | null
  | bool (b : Bool)
  | number (n : Option Number)
  | string (s : Option String)
deriving DecidableEq, Repr

/-- A part of the inside of a string: a byte as it stands, or a 16-bit unit given by an escape. -/
inductive StringPart
  | byte (b : UInt8)
  | unit (n : Nat)
deriving DecidableEq, Repr

namespace StringPart

def simpleEscape? (b : UInt8) : Option UInt8 :=
  if b = 0x22 ∨ b = 0x5c ∨ b = 0x2f then some b
  else if b = 0x62 then some 0x08
  else if b = 0x66 then some 0x0c
  else if b = 0x6e then some 0x0a
  else if b = 0x72 then some 0x0d
  else if b = 0x74 then some 0x09
  else none

def hex4? (a b c d : UInt8) : Option Nat := do
  let digit (x : UInt8) := Text.hexValue? (Char.ofNat x.toNat)
  let w ← digit a
  let x ← digit b
  let y ← digit c
  let z ← digit d
  return ((w * 16 + x) * 16 + y) * 16 + z

/-- The parts of the bytes between two quotes, after the parts in `done`, which are in reverse. -/
def readFrom (done : List StringPart) : Bytes → Option (List StringPart)
  | [] => some done.reverse
  | 0x5c :: 0x75 :: a :: b :: c :: d :: rest =>
    match hex4? a b c d with
    | some n => readFrom (.unit n :: done) rest
    | none => none
  | 0x5c :: e :: rest =>
    match simpleEscape? e with
    | some b => readFrom (.byte b :: done) rest
    | none => none
  | b :: rest => if b < 0x20 ∨ b = 0x5c then none else readFrom (.byte b :: done) rest

def isHigh (n : Nat) : Bool := 0xd800 ≤ n && n < 0xdc00

def isLow (n : Nat) : Bool := 0xdc00 ≤ n && n < 0xe000

/-- The UTF-8 bytes of the parts, after the bytes in `done`, which are in reverse. A high surrogate
must be followed by a low one, and a low one must follow a high one. -/
def spellFrom (done : Bytes) : List StringPart → Option Bytes
  | [] => some done.reverse
  | .byte b :: rest => spellFrom (b :: done) rest
  | [.unit n] =>
    if isHigh n || isLow n then none
    else some ((String.utf8EncodeChar (Char.ofNat n)).reverse ++ done).reverse
  | .unit n :: .byte b :: rest =>
    if isHigh n || isLow n then none
    else spellFrom (b :: ((String.utf8EncodeChar (Char.ofNat n)).reverse ++ done)) rest
  | .unit n :: .unit m :: rest =>
    if isHigh n then
      if isLow m then
        let c := Char.ofNat (0x10000 + (n - 0xd800) * 0x400 + (m - 0xdc00))
        spellFrom ((String.utf8EncodeChar c).reverse ++ done) rest
      else none
    else if isLow n then none
    else spellFrom ((String.utf8EncodeChar (Char.ofNat n)).reverse ++ done) (.unit m :: rest)

end StringPart

/-- The inside of a string: nothing if it is malformed, otherwise its text if it has one. -/
def stringText? (inside : Bytes) : Option (Option String) :=
  (StringPart.readFrom [] inside).map fun parts =>
    (StringPart.spellFrom [] parts).bind Text.text?

namespace Token

/-- What the scanner is in the middle of. The characters read so far are in reverse. -/
inductive Mode
  | between
  | word (done : List Char)
  | numeral (done : List Char)
  | text (done : Bytes) (escaped : Bool)

/-- The tokens read so far, in reverse, and what is being read. -/
structure Scan where
  tokens : List Token
  mode : Mode

def isWordByte (b : UInt8) : Bool := 0x61 ≤ b && b ≤ 0x7a

def isNumeralByte (b : UInt8) : Bool :=
  (0x30 ≤ b && b ≤ 0x39) || b == 0x2b || b == 0x2d || b == 0x2e || b == 0x45 || b == 0x65

def word? (letters : String) : Option Token :=
  match letters with
  | "null" => some .null
  | "true" => some (.bool true)
  | "false" => some (.bool false)
  | _ => none

/-- Reads a byte that does not belong to a token already begun. -/
def begin (tokens : List Token) (b : UInt8) : Option Scan :=
  match b with
  | 0x20 | 0x09 | 0x0a | 0x0d => some ⟨tokens, .between⟩
  | 0x5b => some ⟨.openArray :: tokens, .between⟩
  | 0x5d => some ⟨.closeArray :: tokens, .between⟩
  | 0x7b => some ⟨.openObject :: tokens, .between⟩
  | 0x7d => some ⟨.closeObject :: tokens, .between⟩
  | 0x2c => some ⟨.comma :: tokens, .between⟩
  | 0x3a => some ⟨.colon :: tokens, .between⟩
  | 0x22 => some ⟨tokens, .text [] false⟩
  | _ =>
    if isWordByte b then some ⟨tokens, .word [Char.ofNat b.toNat]⟩
    else if isNumeralByte b then some ⟨tokens, .numeral [Char.ofNat b.toNat]⟩
    else none

/-- Completes the word or numeral in progress. -/
def complete (s : Scan) : Option (List Token) :=
  match s.mode with
  | .between => some s.tokens
  | .word done => (word? (String.ofList done.reverse)).map (· :: s.tokens)
  | .numeral done => (numeral? done.reverse).map fun n => .number n :: s.tokens
  | .text _ _ => none

def step (s : Scan) (b : UInt8) : Option Scan :=
  match s.mode with
  | .text done true => some ⟨s.tokens, .text (b :: done) false⟩
  | .text done false =>
    if b = 0x22 then
      (stringText? done.reverse).map fun t => ⟨.string t :: s.tokens, .between⟩
    else some ⟨s.tokens, .text (b :: done) (b == 0x5c)⟩
  | .word done =>
    if isWordByte b then some ⟨s.tokens, .word (Char.ofNat b.toNat :: done)⟩
    else (complete s).bind (begin · b)
  | .numeral done =>
    if isNumeralByte b then some ⟨s.tokens, .numeral (Char.ofNat b.toNat :: done)⟩
    else (complete s).bind (begin · b)
  | .between => begin s.tokens b

/-- The tokens of a document. -/
def scan? (bytes : Bytes) : Option (List Token) := do
  let s ← bytes.foldlM step ⟨[], .between⟩
  let tokens ← complete s
  return tokens.reverse

end Token
end SlackBridge.Json
