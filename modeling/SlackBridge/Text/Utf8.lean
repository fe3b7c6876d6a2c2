/-!
Byte strings and their UTF-8 text.

`utf8` writes a text and `text?` reads one back; `lossyText` reads any bytes and puts U+FFFD
where they are not well formed.
-/

namespace SlackBridge

abbrev Bytes := List UInt8

namespace Text

def utf8 (s : String) : Bytes :=
  s.toByteArray.data.toList

/-- The text that the bytes spell, if they are well-formed UTF-8. -/
def text? (bytes : Bytes) : Option String :=
  String.fromUTF8? ⟨bytes.toArray⟩

theorem text?_utf8 (s : String) : text? (utf8 s) = some s := by
  have h : (⟨(utf8 s).toArray⟩ : ByteArray) = s.toByteArray := by simp [utf8]
  rw [text?, h, String.fromUTF8?, dif_pos s.isValidUTF8]
  rfl

/-- The range that a second byte must lie in after the given first byte, and the number of
continuation bytes that first byte announces. -/
def leadByte? (b : UInt8) : Option (Nat × UInt8 × UInt8) :=
  if 0xc2 ≤ b ∧ b ≤ 0xdf then some (1, 0x80, 0xbf)
  else if b = 0xe0 then some (2, 0xa0, 0xbf)
  else if b = 0xed then some (2, 0x80, 0x9f)
  else if 0xe1 ≤ b ∧ b ≤ 0xef then some (2, 0x80, 0xbf)
  else if b = 0xf0 then some (3, 0x90, 0xbf)
  else if 0xf1 ≤ b ∧ b ≤ 0xf3 then some (3, 0x80, 0xbf)
  else if b = 0xf4 then some (3, 0x80, 0x8f)
  else none

/-- A character in the course of being read: how many bytes it still needs, the bounds of the
next one, and the value so far. -/
structure PartialChar where
  missing : Nat
  low : UInt8
  high : UInt8
  value : Nat

/-- One step of lossy reading. Characters are collected in reverse; a byte that cannot follow
closes the broken sequence with one U+FFFD and is then read afresh. -/
def lossyStep (state : List Char × Option PartialChar) (b : UInt8) :
    List Char × Option PartialChar :=
  let fresh (done : List Char) : List Char × Option PartialChar :=
    if b < 0x80 then (Char.ofNat b.toNat :: done, none)
    else match leadByte? b with
      | some (n, low, high) =>
        let bits := if n = 1 then b.toNat % 32 else if n = 2 then b.toNat % 16 else b.toNat % 8
        (done, some ⟨n, low, high, bits⟩)
      | none => ('\ufffd' :: done, none)
  match state.2 with
  | none => fresh state.1
  | some p =>
    if p.low ≤ b ∧ b ≤ p.high then
      let value := p.value * 64 + b.toNat % 64
      if p.missing ≤ 1 then (Char.ofNat value :: state.1, none)
      else (state.1, some ⟨p.missing - 1, 0x80, 0xbf, value⟩)
    else fresh ('\ufffd' :: state.1)

/-- Reads any bytes; each maximal broken sequence becomes one U+FFFD. -/
def lossyText (bytes : Bytes) : String :=
  let (done, open?) := bytes.foldl lossyStep ([], none)
  String.ofList (if open?.isSome then '\ufffd' :: done else done).reverse

end Text
end SlackBridge
