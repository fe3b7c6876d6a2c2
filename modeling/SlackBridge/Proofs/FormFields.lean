import SlackBridge.Form
import SlackBridge.Proofs.CharBytes

/-!
# Forms as written

What a form body may look like: a byte of a name or a value stands as itself, as a plus sign if it
is a blank, or as `%` with two hexadecimal digits. Whoever wrote the body and however, the fields
read from it are the ones that were written.
-/

namespace SlackBridge.Proofs

open Form

/-- The bytes that have a meaning in a form: `%`, `&`, `+` and `=`. -/
def formMarks : Bytes := [0x25, 0x26, 0x2b, 0x3d]

/-- How a byte may stand in a name or a value. -/
inductive EncodesByte (b : UInt8) : Bytes → Prop
  | plain (h : b ∉ formMarks) : EncodesByte b [b]
  | plus (h : b = 0x20) : EncodesByte b [0x2b]
  | percent {x y : UInt8} (hx : Text.hexValue? (Char.ofNat x.toNat) = some (b.toNat / 16))
      (hy : Text.hexValue? (Char.ofNat y.toNat) = some (b.toNat % 16)) :
      EncodesByte b [0x25, x, y]

inductive EncodesBytes : Bytes → Bytes → Prop
  | nil : EncodesBytes [] []
  | cons {b : UInt8} {rest piece more : Bytes} (hb : EncodesByte b piece)
      (hrest : EncodesBytes rest more) : EncodesBytes (b :: rest) (piece ++ more)

/-- A form with the given fields: each has an equals sign after its name, and there are ampersands
between them. -/
inductive EncodesForm : List (String × String) → Bytes → Prop
  | single {name value : String} {n v : Bytes} (hn : EncodesBytes (Text.utf8 name) n)
      (hv : EncodesBytes (Text.utf8 value) v) : EncodesForm [(name, value)] (n ++ 0x3d :: v)
  | cons {name value : String} {n v : Bytes} {rest : List (String × String)} {more : Bytes}
      (hn : EncodesBytes (Text.utf8 name) n) (hv : EncodesBytes (Text.utf8 value) v)
      (hrest : EncodesForm rest more) :
      EncodesForm ((name, value) :: rest) (n ++ 0x3d :: v ++ 0x26 :: more)

/-! ### One byte -/

/-- A mark of a form is no hexadecimal digit. -/
lemma notMem_formMarks_of_hexValue? {x : UInt8} {n : ℕ}
    (h : Text.hexValue? (Char.ofNat x.toNat) = some n) : x ∉ formMarks := by
  intro hx
  simp only [formMarks, List.mem_cons, List.not_mem_nil, or_false] at hx
  rcases hx with rfl | rfl | rfl | rfl <;> cases h

/-- Neither an ampersand nor an equals sign stands in the middle of a name or a value. -/
lemma EncodesByte.notMem {b c : UInt8} {piece : Bytes} (h : EncodesByte b piece)
    (hc : c = 0x26 ∨ c = 0x3d) : c ∉ piece := by
  have hmark : c ∈ formMarks := by
    rcases hc with rfl | rfl <;> decide
  intro hmem
  cases h with
  | plain hplain =>
    rw [List.mem_singleton.mp hmem] at hmark
    exact hplain hmark
  | plus =>
    rw [List.mem_singleton.mp hmem] at hc
    revert hc
    decide
  | percent hx hy =>
    simp only [List.mem_cons, List.not_mem_nil, or_false] at hmem
    rcases hmem with rfl | rfl | rfl
    · revert hc
      decide
    · exact notMem_formMarks_of_hexValue? hx hmark
    · exact notMem_formMarks_of_hexValue? hy hmark

lemma EncodesBytes.notMem {bytes encoded : Bytes} (h : EncodesBytes bytes encoded) {c : UInt8}
    (hc : c = 0x26 ∨ c = 0x3d) : c ∉ encoded := by
  induction h with
  | nil => exact List.not_mem_nil
  | cons hb _ ih =>
    rw [List.mem_append, not_or]
    exact ⟨hb.notMem hc, ih⟩

/-- A plus sign stands for a blank. -/
def plusToBlank (b : UInt8) : UInt8 :=
  if b = 0x2b then 0x20 else b

lemma plusToBlank_of_ne {b : UInt8} (h : b ≠ 0x2b) : plusToBlank b = b :=
  if_neg h

lemma percentDecodeFrom_plain (done : Bytes) {b : UInt8} (hb : b ≠ 0x25) (rest : Bytes) :
    Url.percentDecodeFrom done (b :: rest) = Url.percentDecodeFrom (b :: done) rest := by
  rw [Url.percentDecodeFrom.eq_def]
  split
  · rename_i h
    cases h
  · rename_i h
    cases h
    exact absurd rfl hb
  · rename_i h
    cases h
    rfl

lemma percentDecodeFrom_encodesByte {b : UInt8} {piece : Bytes} (h : EncodesByte b piece)
    (done rest : Bytes) :
    Url.percentDecodeFrom done (piece.map plusToBlank ++ rest) =
      Url.percentDecodeFrom (b :: done) rest := by
  cases h with
  | plain hplain =>
    have hplus : b ≠ 0x2b := fun hb => hplain (by rw [hb]; decide)
    have hpercent : b ≠ 0x25 := fun hb => hplain (by rw [hb]; decide)
    rw [List.map_singleton, plusToBlank_of_ne hplus]
    exact percentDecodeFrom_plain done hpercent rest
  | plus hblank =>
    rw [hblank]
    exact percentDecodeFrom_plain done (by decide) rest
  | @percent x y hx hy =>
    have hplus : ∀ z ∈ [x, y], plusToBlank z = z := by
      intro z hz
      refine plusToBlank_of_ne fun heq => ?_
      simp only [List.mem_cons, List.not_mem_nil, or_false] at hz
      rcases hz with rfl | rfl
      · exact notMem_formMarks_of_hexValue? hx (by rw [heq]; decide)
      · exact notMem_formMarks_of_hexValue? hy (by rw [heq]; decide)
    have hbyte : UInt8.ofNat (b.toNat / 16 * 16 + b.toNat % 16) = b := by
      rw [Nat.div_add_mod', UInt8.ofNat_toNat]
    simp only [List.map_cons, List.map_nil, hplus x (by simp), hplus y (by simp),
      plusToBlank_of_ne (show (0x25 : UInt8) ≠ 0x2b by decide), List.cons_append, List.nil_append]
    simp only [Url.percentDecodeFrom, hx, hy, hbyte]

lemma percentDecode_encodesBytes {bytes encoded : Bytes} (h : EncodesBytes bytes encoded)
    (done : Bytes) :
    Url.percentDecodeFrom done (encoded.map plusToBlank) = done.reverse ++ bytes := by
  induction h generalizing done with
  | nil =>
    rw [List.append_nil]
    rfl
  | cons hb _ ih =>
    rw [List.map_append, percentDecodeFrom_encodesByte hb, ih, List.reverse_cons, List.append_assoc,
      List.singleton_append]

/-- A name or a value reads as the text that was written. -/
lemma decodeText_of_encodesBytes {s : String} {encoded : Bytes}
    (h : EncodesBytes (Text.utf8 s) encoded) : decodeText encoded = s := by
  have hdecode := percentDecode_encodesBytes h []
  unfold decodeText Url.percentDecode
  change Text.lossyText (Url.percentDecodeFrom [] (encoded.map plusToBlank)) = s
  rw [hdecode]
  exact lossyText_utf8 s

/-! ### Fields -/

lemma splitFrom_append {piece : Bytes} (hpiece : 0x26 ∉ piece) (done : List Bytes)
    (begun rest : Bytes) :
    splitFrom done begun (piece ++ rest) = splitFrom done (piece.reverse ++ begun) rest := by
  induction piece generalizing begun with
  | nil => rfl
  | cons b piece ih =>
    rw [List.mem_cons, not_or] at hpiece
    rw [List.cons_append, splitFrom, if_neg (Ne.symm hpiece.1), ih hpiece.2, List.reverse_cons,
      List.append_assoc, List.singleton_append]

lemma field_append {name value : String} {n v : Bytes} (hn : EncodesBytes (Text.utf8 name) n)
    (hv : EncodesBytes (Text.utf8 value) v) : field (n ++ 0x3d :: v) = (name, value) := by
  have hall : ∀ b ∈ n, decide (b ≠ 0x3d) = true := by
    intro b hb
    rw [decide_eq_true_iff]
    rintro rfl
    exact hn.notMem (.inr rfl) hb
  unfold field
  rw [List.takeWhile_append_of_pos hall, List.dropWhile_append_of_pos hall]
  simp only [ne_eq, not_true_eq_false, decide_false, Bool.false_eq_true, not_false_eq_true,
    List.takeWhile_cons_of_neg, List.dropWhile_cons_of_neg, List.append_nil, List.drop_succ_cons,
    List.drop_zero, decodeText_of_encodesBytes hn, decodeText_of_encodesBytes hv]

lemma notMem_piece {name value : Bytes} {n v : Bytes} (hn : EncodesBytes name n)
    (hv : EncodesBytes value v) : (0x26 : UInt8) ∉ n ++ 0x3d :: v := by
  rw [List.mem_append, List.mem_cons, not_or, not_or]
  exact ⟨hn.notMem (.inl rfl), by decide, hv.notMem (.inl rfl)⟩

lemma splitFrom_encodesForm {fs : List (String × String)} {body : Bytes}
    (h : EncodesForm fs body) (done : List Bytes) :
    ∃ pieces, splitFrom done [] body = pieces ++ done ∧ (∀ p ∈ pieces, p ≠ []) ∧
      pieces.reverse.map field = fs := by
  induction h generalizing done with
  | @single name value n v hn hv =>
    refine ⟨[n ++ 0x3d :: v], ?_, ?_, ?_⟩
    · have hsplit := splitFrom_append (notMem_piece hn hv) done [] []
      rw [List.append_nil, List.append_nil] at hsplit
      rw [hsplit, splitFrom, List.reverse_reverse, List.singleton_append]
    · intro p hp
      rw [List.mem_singleton.mp hp]
      simp
    · rw [List.reverse_singleton, List.map_singleton, field_append hn hv]
  | @cons name value n v rest more hn hv _ ih =>
    obtain ⟨pieces, hsplit, hne, hfields⟩ := ih ((n ++ 0x3d :: v) :: done)
    refine ⟨pieces ++ [n ++ 0x3d :: v], ?_, ?_, ?_⟩
    · rw [splitFrom_append (notMem_piece hn hv), List.append_nil, splitFrom, if_pos rfl,
        List.reverse_reverse, hsplit, List.append_assoc, List.singleton_append]
    · intro p hp
      rcases List.mem_append.mp hp with hold | hnew
      · exact hne p hold
      · rw [List.mem_singleton.mp hnew]
        simp
    · rw [List.reverse_append, List.reverse_singleton, List.singleton_append, List.map_cons,
        field_append hn hv, hfields]

/-- The fields that are read from a form are the ones that were written. -/
theorem fields_of_encodesForm {fs : List (String × String)} {body : Bytes}
    (h : EncodesForm fs body) : fields body = fs := by
  obtain ⟨pieces, hsplit, hne, hfields⟩ := splitFrom_encodesForm h []
  have hkeep : (pieces.reverse.filter fun p => decide (p ≠ [])) = pieces.reverse := by
    rw [List.filter_eq_self]
    intro p hp
    exact decide_eq_true (hne p (List.mem_reverse.mp hp))
  unfold fields
  rw [hsplit, List.append_nil, hkeep, hfields]

/-! ### Written forms -/

/-- A digit of a percent code is written as one byte, which has the value of the digit. -/
lemma exists_byte_upperHexDigit (n : ℕ) (hn : n < 16) :
    ∃ x : UInt8, String.utf8EncodeChar (Text.upperHexDigit n) = [x] ∧
      Text.hexValue? (Char.ofNat x.toNat) = some n := by
  have hall : ∀ n : Fin 16, (Text.upperHexDigit n).toNat < 0x80 := by decide
  have hascii : (Text.upperHexDigit n).toNat < 0x80 := hall ⟨n, hn⟩
  obtain ⟨x, hx, hself⟩ := exists_byte_of_ascii hascii
  refine ⟨x, hx, ?_⟩
  rw [hself]
  exact Text.hexValue?_upperHexDigit ⟨n, hn⟩

lemma encodesByte_encodeByte (b : UInt8) : EncodesByte b (charBytes (encodeByte b)) := by
  unfold encodeByte
  dsimp only
  split_ifs with hplain hblank
  · obtain ⟨hascii, hchar⟩ := hplain
    have hlt : b.toNat < 0x80 := UInt8.lt_iff_toNat_lt.mp hascii
    have hmark : b ∉ formMarks := by
      intro hmem
      simp only [formMarks, List.mem_cons, List.not_mem_nil, or_false] at hmem
      rcases hmem with rfl | rfl | rfl | rfl <;> exact absurd hchar (by decide)
    have hbytes : charBytes [Char.ofNat b.toNat] = [b] := by
      unfold charBytes
      rw [List.flatMap_singleton, utf8EncodeChar_ascii (by rwa [toNat_ofNat_char hlt]),
        toNat_ofNat_char hlt, UInt8.ofNat_toNat]
    rw [hbytes]
    exact .plain hmark
  · exact .plus hblank
  · have hb := b.toNat_lt
    obtain ⟨x, hx, hxvalue⟩ := exists_byte_upperHexDigit (b.toNat / 16) (by omega)
    obtain ⟨y, hy, hyvalue⟩ := exists_byte_upperHexDigit (b.toNat % 16) (by omega)
    have hbytes : charBytes (Url.percentByte b) = [0x25, x, y] := by
      simp only [charBytes, Url.percentByte, List.flatMap_cons, List.flatMap_nil, hx, hy]
      rfl
    rw [hbytes]
    exact .percent hxvalue hyvalue

lemma encodesBytes_encodeText (s : String) :
    EncodesBytes (Text.utf8 s) (charBytes (encodeText s)) := by
  unfold encodeText
  induction Text.utf8 s with
  | nil => exact .nil
  | cons b rest ih =>
    rw [List.flatMap_cons, charBytes_append]
    exact .cons (encodesByte_encodeByte b) ih

/-- The form that is written for some fields is a form with these fields. -/
theorem encodesForm_encode (f : String × String) (fs : List (String × String)) :
    EncodesForm (f :: fs) (Text.utf8 (encode (f :: fs))) := by
  have hfield : ∀ f : String × String,
      charBytes (encodeText f.1 ++ '=' :: encodeText f.2) =
        charBytes (encodeText f.1) ++ 0x3d :: charBytes (encodeText f.2) :=
    fun f => charBytes_append _ _
  unfold encode
  rw [utf8_ofList]
  induction fs generalizing f with
  | nil =>
    rw [List.map_singleton, List.intercalate_singleton, hfield]
    exact .single (encodesBytes_encodeText f.1) (encodesBytes_encodeText f.2)
  | cons g fs ih =>
    rw [List.map_cons, List.map_cons, List.intercalate_cons_cons, charBytes_append,
      charBytes_append, hfield, List.append_assoc]
    exact .cons (encodesBytes_encodeText f.1) (encodesBytes_encodeText f.2) (ih g)

end SlackBridge.Proofs
