import SlackBridge.Text.Ascii
import SlackBridge.Text.Utf8

/-!
Percent encoding: a byte stands as itself or as `%` and two hexadecimal digits.
-/

namespace SlackBridge.Url

/-- The percent-encoded form of one byte. -/
def percentByte (b : UInt8) : List Char :=
  ['%', Text.upperHexDigit (b.toNat / 16), Text.upperHexDigit (b.toNat % 16)]

/-- Encodes the bytes of every character that is not ASCII, is a control character or is listed. -/
def percentEncode (also : List Char) (cs : List Char) : List Char :=
  cs.flatMap fun c =>
    if c.toNat < 0x20 ∨ 0x7f ≤ c.toNat ∨ also.contains c then
      (String.utf8EncodeChar c).flatMap percentByte
    else [c]

/-- Decodes every `%` that two hexadecimal digits follow; `done` holds the bytes so far in
reverse. -/
def percentDecodeFrom (done : Bytes) : Bytes → Bytes
  | [] => done.reverse
  | 0x25 :: a :: b :: rest =>
    match Text.hexValue? (Char.ofNat a.toNat), Text.hexValue? (Char.ofNat b.toNat) with
    | some high, some low => percentDecodeFrom (UInt8.ofNat (high * 16 + low) :: done) rest
    | _, _ => percentDecodeFrom (0x25 :: done) (a :: b :: rest)
  | b :: rest => percentDecodeFrom (b :: done) rest

def percentDecode (bytes : Bytes) : Bytes :=
  percentDecodeFrom [] bytes

end SlackBridge.Url
