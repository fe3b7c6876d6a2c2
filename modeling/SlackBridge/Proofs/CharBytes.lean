import Mathlib.Tactic.Common
import Mathlib.Data.Nat.Notation
import SlackBridge.Text.Utf8

/-!
# The bytes of characters

A text is written as the bytes of its characters. Read back without regard for errors it is the
same text, since none of its bytes is out of place.
-/

namespace SlackBridge.Proofs

open Text

/-- The bytes of a list of characters. -/
def charBytes (cs : List Char) : Bytes :=
  cs.flatMap String.utf8EncodeChar

lemma charBytes_cons (c : Char) (cs : List Char) :
    charBytes (c :: cs) = String.utf8EncodeChar c ++ charBytes cs :=
  List.flatMap_cons

lemma charBytes_append (cs ds : List Char) : charBytes (cs ++ ds) = charBytes cs ++ charBytes ds :=
  List.flatMap_append

lemma utf8_eq_charBytes (s : String) : utf8 s = charBytes s.toList := by
  have h : s.toByteArray = (s.toList.flatMap String.utf8EncodeChar).toByteArray := by
    conv_lhs => rw [← String.ofList_toList (s := s), String.toByteArray_ofList]
    rfl
  unfold utf8
  rw [h]
  exact List.data_toByteArray ▸ List.toList_toArray ..

lemma utf8_ofList (cs : List Char) : utf8 (String.ofList cs) = charBytes cs := by
  rw [utf8_eq_charBytes, String.toList_ofList]

lemma toNat_ofNat_of_lt {n : ℕ} (h : n < 256) : (UInt8.ofNat n).toNat = n := by
  rw [UInt8.toNat_ofNat']
  exact Nat.mod_eq_of_lt h

lemma toNat_ofNat_of_isValidChar {n : ℕ} (h : n.isValidChar) : (Char.ofNat n).toNat = n := by
  rw [Char.ofNat, dif_pos h]
  rfl

lemma toNat_ofNat_char {n : ℕ} (h : n < 0x80) : (Char.ofNat n).toNat = n :=
  toNat_ofNat_of_isValidChar (.inl (by omega))

lemma toNat_ofNat_byte (b : UInt8) : (Char.ofNat b.toNat).toNat = b.toNat :=
  toNat_ofNat_of_isValidChar (.inl (Nat.lt_trans b.toNat_lt (by decide)))

lemma utf8EncodeChar_ascii {c : Char} (h : c.toNat < 0x80) :
    String.utf8EncodeChar c = [UInt8.ofNat c.toNat] := by
  have hval : c.val.toNat ≤ 127 := Nat.le_of_lt_succ h
  unfold String.utf8EncodeChar
  dsimp only
  rw [if_pos hval]
  rfl

/-- A character of ASCII is written as one byte, which has its value. -/
lemma exists_byte_of_ascii {c : Char} (h : c.toNat < 0x80) :
    ∃ x : UInt8, String.utf8EncodeChar c = [x] ∧ Char.ofNat x.toNat = c := by
  refine ⟨_, utf8EncodeChar_ascii h, ?_⟩
  rw [toNat_ofNat_of_lt (by omega), Char.ofNat_toNat]

/-- Bytes that are read one by one as characters of ASCII are the bytes of these characters. -/
lemma eq_charBytes_of_map {piece : Bytes} {cs : List Char} (hcs : ∀ c ∈ cs, c.toNat < 0x80)
    (h : piece.map (fun b => Char.ofNat b.toNat) = cs) : piece = charBytes cs := by
  subst h
  induction piece with
  | nil => rfl
  | cons b piece ih =>
    obtain ⟨hb, hpiece⟩ := List.forall_mem_cons.mp hcs
    rw [List.map_cons, charBytes_cons, utf8EncodeChar_ascii hb, toNat_ofNat_byte,
      UInt8.ofNat_toNat, ← ih hpiece]
    rfl

/-- The value of a character is no surrogate. -/
lemma toNat_valid (c : Char) : c.toNat < 0xd800 ∨ (0xdfff < c.toNat ∧ c.toNat < 0x110000) :=
  c.valid

/-- Bytes from `0x80` on belong to characters outside of ASCII, the others stand for themselves. -/
lemma mem_utf8EncodeChar {c : Char} {b : UInt8} (hb : b ∈ String.utf8EncodeChar c) :
    (c.toNat < 0x80 ∧ b.toNat = c.toNat) ∨ (0x80 ≤ c.toNat ∧ 0x80 ≤ b.toNat) := by
  have hval : c.val.toNat = c.toNat := rfl
  unfold String.utf8EncodeChar at hb
  rw [hval] at hb
  dsimp only at hb
  split_ifs at hb with h1 h2 h3
  all_goals
    simp only [List.mem_cons, List.not_mem_nil, or_false] at hb
  · left
    subst hb
    rw [UInt8.toNat_ofNat']
    omega
  · right
    rcases hb with rfl | rfl
    all_goals
      rw [UInt8.toNat_ofNat']
      omega
  · right
    rcases hb with rfl | rfl | rfl
    all_goals
      rw [UInt8.toNat_ofNat']
      omega
  · right
    rcases hb with rfl | rfl | rfl | rfl
    all_goals
      rw [UInt8.toNat_ofNat']
      omega

/-! ### Reading without regard for errors -/

/-- The first byte of a character outside of ASCII says how many bytes follow it. -/
lemma leadByte?_eq (b : UInt8) : leadByte? b =
    if 0xc2 ≤ b.toNat ∧ b.toNat ≤ 0xdf then some (1, 0x80, 0xbf)
    else if b.toNat = 0xe0 then some (2, 0xa0, 0xbf)
    else if b.toNat = 0xed then some (2, 0x80, 0x9f)
    else if 0xe1 ≤ b.toNat ∧ b.toNat ≤ 0xef then some (2, 0x80, 0xbf)
    else if b.toNat = 0xf0 then some (3, 0x90, 0xbf)
    else if 0xf1 ≤ b.toNat ∧ b.toNat ≤ 0xf3 then some (3, 0x80, 0xbf)
    else if b.toNat = 0xf4 then some (3, 0x80, 0x8f)
    else none := by
  unfold leadByte?
  simp only [UInt8.le_iff_toNat_le, ← UInt8.toNat_inj]
  rfl

section Steps

variable (done : List Char)

lemma lossyStep_ascii {b : UInt8} (hb : b.toNat < 0x80) :
    lossyStep (done, none) b = (Char.ofNat b.toNat :: done, none) := by
  have hlt : b < 0x80 := UInt8.lt_iff_toNat_lt.mpr hb
  simp only [lossyStep, hlt, if_true]

lemma lossyStep_lead {b : UInt8} {n : ℕ} {low high : UInt8} (hb : 0x80 ≤ b.toNat)
    (hlead : leadByte? b = some (n, low, high)) :
    lossyStep (done, none) b = (done, some ⟨n, low, high,
      if n = 1 then b.toNat % 32 else if n = 2 then b.toNat % 16 else b.toNat % 8⟩) := by
  have hlt : ¬b < 0x80 := by
    rw [UInt8.lt_iff_toNat_lt]
    exact Nat.not_lt.mpr hb
  simp only [lossyStep, hlt, if_false, hlead]

lemma lossyStep_inner {n value : ℕ} {low high b : UInt8} (hlow : low.toNat ≤ b.toNat)
    (hhigh : b.toNat ≤ high.toNat) :
    lossyStep (done, some ⟨n + 2, low, high, value⟩) b =
      (done, some ⟨n + 1, 0x80, 0xbf, value * 64 + b.toNat % 64⟩) := by
  have hin : low ≤ b ∧ b ≤ high :=
    ⟨UInt8.le_iff_toNat_le.mpr hlow, UInt8.le_iff_toNat_le.mpr hhigh⟩
  have hmore : ¬n + 2 ≤ 1 := by omega
  simp only [lossyStep, hin, and_self, if_true, hmore, if_false]
  rfl

lemma lossyStep_last {value : ℕ} {low high b : UInt8} (hlow : low.toNat ≤ b.toNat)
    (hhigh : b.toNat ≤ high.toNat) :
    lossyStep (done, some ⟨1, low, high, value⟩) b =
      (Char.ofNat (value * 64 + b.toNat % 64) :: done, none) := by
  have hin : low ≤ b ∧ b ≤ high :=
    ⟨UInt8.le_iff_toNat_le.mpr hlow, UInt8.le_iff_toNat_le.mpr hhigh⟩
  simp only [lossyStep, hin, and_self, if_true, Nat.le_refl]

/-- A byte inside of a character. -/
def IsInner (b : UInt8) : Prop :=
  (0x80 : UInt8).toNat ≤ b.toNat ∧ b.toNat ≤ (0xbf : UInt8).toNat

lemma toNat_ofNat_inner (n : ℕ) : (UInt8.ofNat (n % 64 + 128)).toNat = n % 64 + 128 :=
  toNat_ofNat_of_lt (by omega)

lemma isInner_ofNat (n : ℕ) : IsInner (UInt8.ofNat (n % 64 + 128)) := by
  unfold IsInner
  rw [toNat_ofNat_inner]
  exact ⟨Nat.le_add_left _ _, by change _ ≤ 191; omega⟩

/-- A byte that announces one more, and that one. -/
lemma foldl_lossyStep_two {b₀ b₁ : UInt8} (h₀ : leadByte? b₀ = some (1, 0x80, 0xbf))
    (hlead : 0x80 ≤ b₀.toNat) (h₁ : IsInner b₁) :
    [b₀, b₁].foldl lossyStep (done, none) =
      (Char.ofNat (b₀.toNat % 32 * 64 + b₁.toNat % 64) :: done, none) := by
  rw [List.foldl_cons, lossyStep_lead done hlead h₀, List.foldl_cons,
    lossyStep_last done h₁.1 h₁.2]
  rfl

/-- A byte that announces two more, and those. The first byte narrows the range of the second. -/
lemma foldl_lossyStep_three {b₀ b₁ b₂ low high : UInt8} (h₀ : leadByte? b₀ = some (2, low, high))
    (hlead : 0x80 ≤ b₀.toNat) (h₁ : low.toNat ≤ b₁.toNat ∧ b₁.toNat ≤ high.toNat)
    (h₂ : IsInner b₂) :
    [b₀, b₁, b₂].foldl lossyStep (done, none) =
      (Char.ofNat ((b₀.toNat % 16 * 64 + b₁.toNat % 64) * 64 + b₂.toNat % 64) :: done, none) := by
  rw [List.foldl_cons, lossyStep_lead done hlead h₀, List.foldl_cons,
    lossyStep_inner done h₁.1 h₁.2, List.foldl_cons, lossyStep_last done h₂.1 h₂.2]
  rfl

/-- A byte that announces three more, and those. -/
lemma foldl_lossyStep_four {b₀ b₁ b₂ b₃ low high : UInt8}
    (h₀ : leadByte? b₀ = some (3, low, high)) (hlead : 0x80 ≤ b₀.toNat)
    (h₁ : low.toNat ≤ b₁.toNat ∧ b₁.toNat ≤ high.toNat) (h₂ : IsInner b₂) (h₃ : IsInner b₃) :
    [b₀, b₁, b₂, b₃].foldl lossyStep (done, none) =
      (Char.ofNat (((b₀.toNat % 8 * 64 + b₁.toNat % 64) * 64 + b₂.toNat % 64) * 64 +
        b₃.toNat % 64) :: done, none) := by
  rw [List.foldl_cons, lossyStep_lead done hlead h₀, List.foldl_cons,
    lossyStep_inner done h₁.1 h₁.2, List.foldl_cons, lossyStep_inner done h₂.1 h₂.2,
    List.foldl_cons, lossyStep_last done h₃.1 h₃.2]
  rfl

end Steps

lemma leadByte?_three {b₀ b₁ : UInt8} {v : ℕ} (h₀ : b₀.toNat = v / 4096 + 224)
    (h₁ : b₁.toNat = v / 64 % 64 + 128) (hlow : 0x800 ≤ v) (hhigh : v < 0x10000)
    (hvalid : v < 0xd800 ∨ 0xdfff < v) :
    ∃ low high, leadByte? b₀ = some (2, low, high) ∧ low.toNat ≤ b₁.toNat ∧
      b₁.toNat ≤ high.toNat := by
  rw [leadByte?_eq, if_neg (by omega)]
  by_cases he0 : b₀.toNat = 0xe0
  · rw [if_pos he0]
    exact ⟨0xa0, 0xbf, rfl, by change 160 ≤ _; omega, by change _ ≤ 191; omega⟩
  · rw [if_neg he0]
    by_cases hed : b₀.toNat = 0xed
    · rw [if_pos hed]
      exact ⟨0x80, 0x9f, rfl, by change 128 ≤ _; omega, by change _ ≤ 159; omega⟩
    · rw [if_neg hed, if_pos (by omega)]
      exact ⟨0x80, 0xbf, rfl, by change 128 ≤ _; omega, by change _ ≤ 191; omega⟩

lemma leadByte?_four {b₀ b₁ : UInt8} {v : ℕ} (h₀ : b₀.toNat = v / 262144 + 240)
    (h₁ : b₁.toNat = v / 4096 % 64 + 128) (hlow : 0x10000 ≤ v) (hhigh : v < 0x110000) :
    ∃ low high, leadByte? b₀ = some (3, low, high) ∧ low.toNat ≤ b₁.toNat ∧
      b₁.toNat ≤ high.toNat := by
  rw [leadByte?_eq, if_neg (by omega), if_neg (by omega), if_neg (by omega), if_neg (by omega)]
  by_cases hf0 : b₀.toNat = 0xf0
  · rw [if_pos hf0]
    exact ⟨0x90, 0xbf, rfl, by change 144 ≤ _; omega, by change _ ≤ 191; omega⟩
  · rw [if_neg hf0]
    by_cases hinner : 0xf1 ≤ b₀.toNat ∧ b₀.toNat ≤ 0xf3
    · rw [if_pos hinner]
      exact ⟨0x80, 0xbf, rfl, by change 128 ≤ _; omega, by change _ ≤ 191; omega⟩
    · rw [if_neg hinner, if_pos (by omega)]
      exact ⟨0x80, 0x8f, rfl, by change 128 ≤ _; omega, by change _ ≤ 143; omega⟩

/-- The bytes of a character read as that character, whatever its length. -/
lemma foldl_lossyStep_char (done : List Char) (c : Char) :
    (String.utf8EncodeChar c).foldl lossyStep (done, none) = (c :: done, none) := by
  have hvalid := toNat_valid c
  have hself : Char.ofNat c.toNat = c := Char.ofNat_toNat c
  have hval : c.val.toNat = c.toNat := rfl
  unfold String.utf8EncodeChar
  rw [hval]
  generalize c.toNat = v at *
  dsimp only
  split_ifs with h1 h2 h3
  · have h₀ : (UInt8.ofNat v).toNat = v := toNat_ofNat_of_lt (by omega)
    rw [List.foldl_cons, lossyStep_ascii done (by omega), h₀, hself, List.foldl_nil]
  · have h₀ : (UInt8.ofNat (v / 64 % 32 + 192)).toNat = v / 64 + 192 := by
      rw [toNat_ofNat_of_lt (by omega)]
      omega
    have hlead : leadByte? (UInt8.ofNat (v / 64 % 32 + 192)) = some (1, 0x80, 0xbf) := by
      rw [leadByte?_eq, h₀, if_pos (by omega)]
    have hsum : (v / 64 + 192) % 32 * 64 + (v % 64 + 128) % 64 = v := by omega
    rw [foldl_lossyStep_two done hlead (by omega) (isInner_ofNat v), h₀, toNat_ofNat_inner, hsum,
      hself]
  · have h₀ : (UInt8.ofNat (v / 4096 % 16 + 224)).toNat = v / 4096 + 224 := by
      rw [toNat_ofNat_of_lt (by omega)]
      omega
    obtain ⟨low, high, hlead, h₁⟩ :=
      leadByte?_three h₀ (toNat_ofNat_inner (v / 64)) (by omega) (by omega) (by omega)
    have hsum : ((v / 4096 + 224) % 16 * 64 + (v / 64 % 64 + 128) % 64) * 64 +
        (v % 64 + 128) % 64 = v := by omega
    rw [foldl_lossyStep_three done hlead (by omega) h₁ (isInner_ofNat v), h₀, toNat_ofNat_inner,
      toNat_ofNat_inner, hsum, hself]
  · have h₀ : (UInt8.ofNat (v / 262144 % 8 + 240)).toNat = v / 262144 + 240 := by
      rw [toNat_ofNat_of_lt (by omega)]
      omega
    obtain ⟨low, high, hlead, h₁⟩ :=
      leadByte?_four h₀ (toNat_ofNat_inner (v / 4096)) (by omega) (by omega)
    have hsum : (((v / 262144 + 240) % 8 * 64 + (v / 4096 % 64 + 128) % 64) * 64 +
        (v / 64 % 64 + 128) % 64) * 64 + (v % 64 + 128) % 64 = v := by omega
    rw [foldl_lossyStep_four done hlead (by omega) h₁ (isInner_ofNat (v / 64)) (isInner_ofNat v),
      h₀, toNat_ofNat_inner, toNat_ofNat_inner, toNat_ofNat_inner, hsum, hself]

theorem lossyText_utf8 (s : String) : lossyText (utf8 s) = s := by
  have hfold : ∀ (cs done : List Char),
      (charBytes cs).foldl lossyStep (done, none) = (cs.reverse ++ done, none) := by
    intro cs
    induction cs with
    | nil => exact fun done => rfl
    | cons c rest ih =>
      intro done
      rw [charBytes_cons, List.foldl_append, foldl_lossyStep_char, ih, List.reverse_cons,
        List.append_assoc, List.singleton_append]
  unfold lossyText
  rw [utf8_eq_charBytes, hfold]
  simp only [Option.isSome_none, Bool.false_eq_true, if_false, List.append_nil,
    List.reverse_reverse, String.ofList_toList]

/-! ### Telling characters apart -/

/-- The bytes of a character: the first one begins it, and the others lie inside. -/
lemma exists_utf8EncodeChar_eq_cons (c : Char) : ∃ b inner,
    String.utf8EncodeChar c = b :: inner ∧ ¬IsInner b ∧ ∀ x ∈ inner, IsInner x := by
  have hval : c.val.toNat = c.toNat := rfl
  have hvalid := toNat_valid c
  have hfirst : ∀ n < 256, n < 128 ∨ 192 ≤ n → ¬IsInner (UInt8.ofNat n) := by
    intro n hn hrange hb
    unfold IsInner at hb
    rw [toNat_ofNat_of_lt hn] at hb
    change 128 ≤ n ∧ n ≤ 191 at hb
    omega
  unfold String.utf8EncodeChar
  rw [hval]
  dsimp only
  have hlast : ∀ n, ∀ x ∈ [UInt8.ofNat (n % 64 + 128)], IsInner x := fun n =>
    List.forall_mem_singleton.mpr (isInner_ofNat n)
  split_ifs with h1 h2 h3
  · exact ⟨_, [], rfl, hfirst _ (by omega) (by omega), List.forall_mem_nil _⟩
  · exact ⟨_, [_], rfl, hfirst _ (by omega) (by omega), hlast _⟩
  · exact ⟨_, [_, _], rfl, hfirst _ (by omega) (by omega),
      List.forall_mem_cons.mpr ⟨isInner_ofNat _, hlast _⟩⟩
  · exact ⟨_, [_, _, _], rfl, hfirst _ (by omega) (by omega), List.forall_mem_cons.mpr
      ⟨isInner_ofNat _, List.forall_mem_cons.mpr ⟨isInner_ofNat _, hlast _⟩⟩⟩

lemma utf8EncodeChar_append_inj {c d : Char} {more others : Bytes}
    (h : String.utf8EncodeChar c ++ more = String.utf8EncodeChar d ++ others) :
    c = d ∧ more = others := by
  have hbytes := congrArg List.toByteArray h
  rw [List.toByteArray_append, List.toByteArray_append] at hbytes
  have hc := ByteArray.utf8DecodeChar?_utf8EncodeChar_append (c := c) (b := more.toByteArray)
  rw [hbytes, ByteArray.utf8DecodeChar?_utf8EncodeChar_append] at hc
  cases hc
  exact ⟨rfl, List.append_cancel_left h⟩

lemma eq_utf8_of_text? {bytes : Bytes} {s : String} (h : Text.text? bytes = some s) :
    bytes = Text.utf8 s := by
  unfold Text.text? String.fromUTF8? at h
  split at h
  · cases h
    rfl
  · cases h

end SlackBridge.Proofs
