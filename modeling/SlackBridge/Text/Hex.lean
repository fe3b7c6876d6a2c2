import SlackBridge.Text.Ascii
import SlackBridge.Text.Utf8

/-!
Hexadecimal text of byte strings. Writing uses lower case; reading takes either case and an even
number of digits.
-/

namespace SlackBridge.Text

def hexChars (bytes : Bytes) : List Char :=
  bytes.flatMap fun b => [hexDigit (b.toNat / 16), hexDigit (b.toNat % 16)]

def hexBytes? : List Char → Option Bytes
  | [] => some []
  | [_] => none
  | a :: b :: rest => do
    let high ← hexValue? a
    let low ← hexValue? b
    let tail ← hexBytes? rest
    return UInt8.ofNat (high * 16 + low) :: tail

theorem hexBytes?_hexChars (bytes : Bytes) : hexBytes? (hexChars bytes) = some bytes := by
  induction bytes with
  | nil => rfl
  | cons b rest ih =>
    have hh : b.toNat / 16 < 16 := by have := b.toNat_lt; omega
    have hl : b.toNat % 16 < 16 := Nat.mod_lt _ (by decide)
    have h1 := hexValue?_hexDigit ⟨b.toNat / 16, hh⟩
    have h2 := hexValue?_hexDigit ⟨b.toNat % 16, hl⟩
    have h3 : b.toNat / 16 * 16 + b.toNat % 16 = b.toNat := by omega
    simp only [hexChars, List.flatMap_cons, List.cons_append, List.nil_append, hexBytes?] at ih ⊢
    simp only [h1, h2, h3, ih, Option.bind_eq_bind, Option.bind_some, UInt8.ofNat_toNat]
    rfl

end SlackBridge.Text
