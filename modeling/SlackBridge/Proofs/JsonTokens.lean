import SlackBridge.Json.Token
import SlackBridge.Proofs.CharBytes
import SlackBridge.Proofs.JsonNumerals

/-!
# Spelled tokens

The ways in which the tokens of a JSON document may be written. Blanks stand anywhere between
tokens, and a character between quotes stands as itself or as an escape. The scanner reads every
spelling of some tokens as these tokens.
-/

namespace SlackBridge.Proofs

open Json

/-- The escapes of one letter, with the characters that they stand for. -/
def letterEscapes : List (UInt8 × Char) :=
  [(0x22, '"'), (0x5c, '\\'), (0x2f, '/'), (0x62, '\x08'), (0x66, '\x0c'), (0x6e, '\n'),
    (0x72, '\r'), (0x74, '\t')]

/-- How a character may stand between quotes. -/
inductive SpellsChar (c : Char) : Bytes → Prop
  | plain (hcontrol : 0x20 ≤ c.toNat) (hmark : c ≠ '"' ∧ c ≠ '\\') :
      SpellsChar c (String.utf8EncodeChar c)
  | letter {e : UInt8} (he : (e, c) ∈ letterEscapes) : SpellsChar c [0x5c, e]
  | unit {w x y z : UInt8} (h : StringPart.hex4? w x y z = some c.toNat) :
      SpellsChar c [0x5c, 0x75, w, x, y, z]
  | pair {w x y z w' x' y' z' : UInt8} {high low : ℕ} (hhigh : high < 0x400) (hlow : low < 0x400)
      (h : StringPart.hex4? w x y z = some (0xd800 + high))
      (h' : StringPart.hex4? w' x' y' z' = some (0xdc00 + low))
      (hc : c.toNat = 0x10000 + high * 0x400 + low) :
      SpellsChar c [0x5c, 0x75, w, x, y, z, 0x5c, 0x75, w', x', y', z']

inductive SpellsText : List Char → Bytes → Prop
  | nil : SpellsText [] []
  | cons {c : Char} {cs : List Char} {piece more : Bytes} (hc : SpellsChar c piece)
      (hcs : SpellsText cs more) : SpellsText (c :: cs) (piece ++ more)

/-- How a token may be written. -/
inductive SpellsToken : Token → Bytes → Prop
  | openArray : SpellsToken .openArray [0x5b]
  | closeArray : SpellsToken .closeArray [0x5d]
  | openObject : SpellsToken .openObject [0x7b]
  | closeObject : SpellsToken .closeObject [0x7d]
  | comma : SpellsToken .comma [0x2c]
  | colon : SpellsToken .colon [0x3a]
  | null : SpellsToken .null (charBytes ['n', 'u', 'l', 'l'])
  | true : SpellsToken (.bool true) (charBytes ['t', 'r', 'u', 'e'])
  | false : SpellsToken (.bool false) (charBytes ['f', 'a', 'l', 's', 'e'])
  | number {n : Option Number} {bytes : Bytes}
      (hbytes : ∀ b ∈ bytes, Token.isNumeralByte b = Bool.true)
      (h : numeral? (bytes.map fun b => Char.ofNat b.toNat) = some n) :
      SpellsToken (.number n) bytes
  | string {s : String} {inside : Bytes} (h : SpellsText s.toList inside) :
      SpellsToken (.string (some s)) (0x22 :: (inside ++ [0x22]))

/-- Only the next byte shows where a word or a numeral ends. -/
def isOpenEnded : Token → Bool
  | .null | .bool _ | .number _ => true
  | _ => false

def EndsToken (bytes : Bytes) : Prop :=
  ∀ b ∈ bytes.head?, Token.isWordByte b = false ∧ Token.isNumeralByte b = false

/-- The bytes that may stand between tokens. -/
def blanks : Bytes := [0x20, 0x09, 0x0a, 0x0d]

/-- How a list of tokens may be written. -/
inductive Spells : List Token → Bytes → Prop
  | nil : Spells [] []
  | blank {ts : List Token} {b : UInt8} {bytes : Bytes} (hb : b ∈ blanks) (h : Spells ts bytes) :
      Spells ts (b :: bytes)
  | token {t : Token} {ts : List Token} {piece bytes : Bytes} (ht : SpellsToken t piece)
      (hend : isOpenEnded t = true → EndsToken bytes) (h : Spells ts bytes) :
      Spells (t :: ts) (piece ++ bytes)

/-! ### Between quotes -/

section Text

open StringPart

/-- A byte that is neither a quote nor a backslash. -/
def IsUnmarked (b : UInt8) : Prop :=
  b ≠ 0x22 ∧ b ≠ 0x5c

lemma isUnmarked_of_mem_utf8EncodeChar {c : Char} (hmark : c ≠ '"' ∧ c ≠ '\\') {b : UInt8}
    (hb : b ∈ String.utf8EncodeChar c) : IsUnmarked b := by
  have hne : ∀ d : Char, d.toNat < 0x80 → c ≠ d → b.toNat ≠ d.toNat := by
    intro d hd hcd heq
    rcases mem_utf8EncodeChar hb with ⟨_, hself⟩ | ⟨_, hlarge⟩
    · exact hcd (Char.toNat_inj.mp (hself.symm.trans heq))
    · omega
  refine ⟨?_, ?_⟩
  · rintro rfl
    exact hne '"' (by decide) hmark.1 rfl
  · rintro rfl
    exact hne '\\' (by decide) hmark.2 rfl

lemma isUnmarked_of_hexValue? {x : UInt8} {n : ℕ}
    (h : Text.hexValue? (Char.ofNat x.toNat) = some n) : IsUnmarked x := by
  refine ⟨?_, ?_⟩
  · rintro rfl
    cases h
  · rintro rfl
    cases h

lemma isUnmarked_of_hex4? {w x y z : UInt8} {n : ℕ} (h : hex4? w x y z = some n) :
    ∀ b ∈ [w, x, y, z], IsUnmarked b := by
  simp only [hex4?, Option.bind_eq_bind, Option.bind_eq_some_iff] at h
  obtain ⟨_, hw, _, hx, _, hy, _, hz, _⟩ := h
  intro b hb
  simp only [List.mem_cons, List.not_mem_nil, or_false] at hb
  rcases hb with rfl | rfl | rfl | rfl
  · exact isUnmarked_of_hexValue? hw
  · exact isUnmarked_of_hexValue? hx
  · exact isUnmarked_of_hexValue? hy
  · exact isUnmarked_of_hexValue? hz

/-- Between two quotes the scanner collects the bytes and does nothing else. -/
def IsCollected (piece : Bytes) : Prop :=
  ∀ ts done, piece.foldlM Token.step ⟨ts, .text done false⟩ =
    some ⟨ts, .text (piece.reverse ++ done) false⟩

lemma IsCollected.append {piece more : Bytes} (hpiece : IsCollected piece)
    (hmore : IsCollected more) : IsCollected (piece ++ more) := by
  intro ts done
  rw [List.foldlM_append, hpiece]
  refine (hmore ts _).trans ?_
  rw [List.reverse_append, List.append_assoc]

lemma isCollected_of_unmarked {bytes : Bytes} (h : ∀ b ∈ bytes, IsUnmarked b) :
    IsCollected bytes := by
  intro ts done
  induction bytes generalizing done with
  | nil => rfl
  | cons b rest ih =>
    obtain ⟨hquote, hescape⟩ := h b List.mem_cons_self
    have hstep : Token.step ⟨ts, .text done false⟩ b = some ⟨ts, .text (b :: done) false⟩ := by
      simp only [Token.step, if_neg hquote, beq_eq_false_iff_ne.mpr hescape]
    rw [List.foldlM_cons, hstep]
    refine (ih (fun a ha => h a (List.mem_cons_of_mem b ha)) (b :: done)).trans ?_
    rw [List.reverse_cons, List.append_assoc, List.singleton_append]

lemma isCollected_unit {w x y z : UInt8} {n : ℕ} (h : hex4? w x y z = some n) :
    IsCollected [0x5c, 0x75, w, x, y, z] := by
  have hmark : IsCollected [0x5c, 0x75] := fun _ _ => rfl
  exact hmark.append (isCollected_of_unmarked (isUnmarked_of_hex4? h))

/-- A spelled character never ends the string that it is in. -/
lemma isCollected_of_spellsChar {c : Char} {piece : Bytes} (h : SpellsChar c piece) :
    IsCollected piece := by
  cases h with
  | plain _ hmark =>
    exact isCollected_of_unmarked fun b hb => isUnmarked_of_mem_utf8EncodeChar hmark hb
  | letter => exact fun _ _ => rfl
  | unit h => exact isCollected_unit h
  | pair _ _ h h' => exact (isCollected_unit h).append (isCollected_unit h')

lemma isCollected_of_spellsText {cs : List Char} {inside : Bytes} (h : SpellsText cs inside) :
    IsCollected inside := by
  induction h with
  | nil => exact fun _ _ => rfl
  | cons hc _ ih => exact (isCollected_of_spellsChar hc).append ih

/-- The parts that a spelled character is read as are spelled as its bytes. -/
structure ReadsChar (c : Char) (piece : Bytes) (parts : List StringPart) : Prop where
  read : ∀ done rest, readFrom done (piece ++ rest) = readFrom (parts.reverse ++ done) rest
  spell : ∀ done rest, spellFrom done (parts ++ rest) =
    spellFrom ((String.utf8EncodeChar c).reverse ++ done) rest

lemma readFrom_plain (done : List StringPart) {b : UInt8} (hb : ¬(b < 0x20 ∨ b = 0x5c))
    (rest : Bytes) : readFrom done (b :: rest) = readFrom (.byte b :: done) rest := by
  rw [not_or] at hb
  rw [readFrom.eq_def]
  split
  · rename_i h
    cases h
  · rename_i h
    cases h
    exact absurd rfl hb.2
  · rename_i h
    cases h
    exact absurd rfl hb.2
  · rename_i h
    cases h
    rw [if_neg (not_or.mpr hb)]

lemma readFrom_plains {bytes : Bytes} (h : ∀ b ∈ bytes, ¬(b < 0x20 ∨ b = 0x5c))
    (done : List StringPart) (rest : Bytes) :
    readFrom done (bytes ++ rest) = readFrom ((bytes.map .byte).reverse ++ done) rest := by
  induction bytes generalizing done with
  | nil => rfl
  | cons b bytes ih =>
    rw [List.cons_append, readFrom_plain done (h b List.mem_cons_self),
      ih fun a ha => h a (List.mem_cons_of_mem b ha)]
    simp only [List.map_cons, List.reverse_cons, List.append_assoc, List.singleton_append]

lemma spellFrom_bytes (bytes done : Bytes) (rest : List StringPart) :
    spellFrom done (bytes.map .byte ++ rest) = spellFrom (bytes.reverse ++ done) rest := by
  induction bytes generalizing done with
  | nil => rfl
  | cons b bytes ih =>
    rw [List.map_cons, List.cons_append, spellFrom, ih, List.reverse_cons, List.append_assoc,
      List.singleton_append]

/-- A unit that is no surrogate is a character of its own. -/
lemma spellFrom_unit (c : Char) (done : Bytes) (rest : List StringPart) :
    spellFrom done (.unit c.toNat :: rest) =
      spellFrom ((String.utf8EncodeChar c).reverse ++ done) rest := by
  have hvalid := toNat_valid c
  have hhigh : isHigh c.toNat = false := by
    simp only [isHigh, Bool.and_eq_false_iff, decide_eq_false_iff_not]
    omega
  have hlow : isLow c.toNat = false := by
    simp only [isLow, Bool.and_eq_false_iff, decide_eq_false_iff_not]
    omega
  match rest with
  | [] => simp [spellFrom, hhigh, hlow, Char.ofNat_toNat]
  | .byte b :: rest => simp [spellFrom, hhigh, hlow, Char.ofNat_toNat]
  | .unit m :: rest => simp [spellFrom, hhigh, hlow, Char.ofNat_toNat]

lemma spellFrom_pair {c : Char} {high low : ℕ} (hhigh : high < 0x400) (hlow : low < 0x400)
    (hc : c.toNat = 0x10000 + high * 0x400 + low) (done : Bytes) (rest : List StringPart) :
    spellFrom done (.unit (0xd800 + high) :: .unit (0xdc00 + low) :: rest) =
      spellFrom ((String.utf8EncodeChar c).reverse ++ done) rest := by
  have hfirst : isHigh (0xd800 + high) = true := by
    simp only [isHigh, Bool.and_eq_true, decide_eq_true_eq]
    omega
  have hsecond : isLow (0xdc00 + low) = true := by
    simp only [isLow, Bool.and_eq_true, decide_eq_true_eq]
    omega
  have hself : Char.ofNat (0x10000 + high * 0x400 + low) = c := by
    rw [← hc, Char.ofNat_toNat]
  simp only [spellFrom, hfirst, hsecond, if_true, Nat.add_sub_cancel_left, hself]

lemma exists_readsChar {c : Char} {piece : Bytes} (h : SpellsChar c piece) :
    ∃ parts, ReadsChar c piece parts := by
  cases h with
  | plain hcontrol hmark =>
    refine ⟨(String.utf8EncodeChar c).map .byte, ⟨readFrom_plains ?_, spellFrom_bytes _⟩⟩
    intro b hb
    rw [not_or, UInt8.lt_iff_toNat_lt]
    refine ⟨?_, (isUnmarked_of_mem_utf8EncodeChar hmark hb).2⟩
    change ¬b.toNat < 0x20
    rcases mem_utf8EncodeChar hb with ⟨_, hself⟩ | ⟨_, hlarge⟩ <;> omega
  | letter he =>
    refine ⟨(String.utf8EncodeChar c).map .byte, ⟨fun done rest => ?_, spellFrom_bytes _⟩⟩
    simp only [letterEscapes, List.mem_cons, Prod.mk.injEq, List.not_mem_nil, or_false] at he
    rcases he with ⟨rfl, rfl⟩ | ⟨rfl, rfl⟩ | ⟨rfl, rfl⟩ | ⟨rfl, rfl⟩ | ⟨rfl, rfl⟩ | ⟨rfl, rfl⟩ |
      ⟨rfl, rfl⟩ | ⟨rfl, rfl⟩ <;> rfl
  | unit h =>
    refine ⟨[.unit c.toNat], ⟨fun done rest => ?_, spellFrom_unit c⟩⟩
    simp only [List.cons_append, List.nil_append, readFrom, h, List.reverse_singleton]
  | pair hhigh hlow h h' hc =>
    refine ⟨[.unit _, .unit _], ⟨fun done rest => ?_, spellFrom_pair hhigh hlow hc⟩⟩
    simp only [List.cons_append, List.nil_append, readFrom, h, h', List.reverse_cons,
      List.reverse_nil]

/-- What stands between the quotes is read as the text that it spells. -/
lemma stringText?_of_spellsText {cs : List Char} {inside : Bytes} (h : SpellsText cs inside) :
    stringText? inside = some (some (String.ofList cs)) := by
  have hparts : ∃ parts, (∀ done, readFrom done inside = some (done.reverse ++ parts)) ∧
      ∀ done, spellFrom done parts = some (done.reverse ++ charBytes cs) := by
    induction h with
    | nil => exact ⟨[], fun done => by rw [List.append_nil]; rfl, fun done => by
        rw [charBytes, List.flatMap_nil, List.append_nil]; rfl⟩
    | cons hc _ ih =>
      obtain ⟨first, hfirst⟩ := exists_readsChar hc
      obtain ⟨parts, hread, hspell⟩ := ih
      refine ⟨first ++ parts, fun done => ?_, fun done => ?_⟩
      · rw [hfirst.read, hread, List.reverse_append, List.reverse_reverse, List.append_assoc]
      · rw [hfirst.spell, hspell, List.reverse_append, List.reverse_reverse, List.append_assoc,
          charBytes_cons]
  obtain ⟨parts, hread, hspell⟩ := hparts
  have htext : Text.text? (charBytes cs) = some (String.ofList cs) := by
    rw [← utf8_ofList, Text.text?_utf8]
  unfold stringText?
  rw [hread, Option.map_some, List.reverse_nil, List.nil_append, hspell]
  exact congrArg some htext

end Text

/-! ### Between tokens -/

section Scan

open Token

/-- What the scanner makes of some more bytes, with the tokens in reverse. -/
def scanFrom (s : Scan) (bytes : Bytes) : Option (List Token) :=
  (bytes.foldlM step s).bind complete

/-- The bytes that a numeral may begin with. -/
def numeralStarts : Bytes :=
  [0x2d, 0x30, 0x31, 0x32, 0x33, 0x34, 0x35, 0x36, 0x37, 0x38, 0x39]

lemma mem_numeralStarts {b : UInt8} (h : Char.ofNat b.toNat = '-' ∨
    Text.isAsciiDigit (Char.ofNat b.toNat) = true) : b ∈ numeralStarts := by
  have hall : ∀ n : Fin 256, (Char.ofNat n = '-' ∨ Text.isAsciiDigit (Char.ofNat n) = true) →
      UInt8.ofNat n ∈ numeralStarts := by decide +kernel
  have hb := hall ⟨b.toNat, b.toNat_lt⟩ h
  rwa [UInt8.ofNat_toNat] at hb

lemma foldlM_numeral (ts : List Token) {bytes : Bytes} (h : ∀ b ∈ bytes, isNumeralByte b = true)
    (done : List Char) :
    bytes.foldlM step ⟨ts, .numeral done⟩ =
      some ⟨ts, .numeral ((bytes.map fun b => Char.ofNat b.toNat).reverse ++ done)⟩ := by
  induction bytes generalizing done with
  | nil => rfl
  | cons b rest ih =>
    have hstep : step ⟨ts, .numeral done⟩ b =
        some ⟨ts, .numeral (Char.ofNat b.toNat :: done)⟩ := by
      simp only [step, h b List.mem_cons_self, if_true]
    rw [List.foldlM_cons, hstep]
    refine (ih (fun a ha => h a (List.mem_cons_of_mem b ha)) _).trans ?_
    rw [List.map_cons, List.reverse_cons, List.append_assoc, List.singleton_append]

/-- The scanner reads the bytes as the token and ends between tokens, or at the end of this one if
only the next byte shows that it has ended. -/
def ReadsToken (t : Token) (piece : Bytes) : Prop :=
  ∀ ts, ∃ s, piece.foldlM step ⟨ts, .between⟩ = some s ∧ complete s = some (t :: ts) ∧
    (isOpenEnded t = true ∨ s = ⟨t :: ts, .between⟩)

/-- What stands between two quotes is read at the second one. -/
lemma readsToken_string {inside : Bytes} {s : Option String}
    (h : IsCollected inside) (hs : stringText? inside = some s) :
    ReadsToken (.string s) (0x22 :: (inside ++ [0x22])) := by
  intro ts
  refine ⟨⟨.string s :: ts, .between⟩, ?_, rfl, .inr rfl⟩
  rw [List.foldlM_cons]
  change (inside ++ [0x22]).foldlM step ⟨ts, .text [] false⟩ = _
  rw [List.foldlM_append, h, List.append_nil]
  change (step ⟨ts, .text inside.reverse false⟩ 0x22).bind some = _
  simp only [step, if_true, List.reverse_reverse, hs, Option.map_some, Option.bind_some]

lemma readsToken_of_spellsToken {t : Token} {piece : Bytes} (h : SpellsToken t piece) :
    ReadsToken t piece := by
  intro ts
  cases h with
  | number hbytes hn =>
    cases piece with
    | nil => cases hn
    | cons b rest =>
      have hfirst : b ∈ numeralStarts := mem_numeralStarts (first_of_numeral? hn)
      have hbegin : step ⟨ts, .between⟩ b = some ⟨ts, .numeral [Char.ofNat b.toNat]⟩ := by
        simp only [numeralStarts, List.mem_cons, List.not_mem_nil, or_false] at hfirst
        rcases hfirst with rfl | rfl | rfl | rfl | rfl | rfl | rfl | rfl | rfl | rfl | rfl <;> rfl
      have hrest := foldlM_numeral ts (fun a ha => hbytes a (List.mem_cons_of_mem b ha))
        [Char.ofNat b.toNat]
      have hfold : (b :: rest).foldlM step ⟨ts, .between⟩ =
          some ⟨ts, .numeral ((rest.map fun b => Char.ofNat b.toNat).reverse ++
            [Char.ofNat b.toNat])⟩ := by
        rw [List.foldlM_cons, hbegin]
        exact hrest
      refine ⟨_, hfold, ?_, .inl rfl⟩
      · simp only [complete, List.reverse_append, List.reverse_reverse, List.reverse_singleton,
          List.singleton_append]
        rw [List.map_cons] at hn
        rw [hn, Option.map_some]
  | @string s inside hinside =>
    have htext : stringText? inside = some (some s) := by
      rw [stringText?_of_spellsText hinside, String.ofList_toList]
    exact readsToken_string (isCollected_of_spellsText hinside) htext ts
  | null => exact ⟨_, rfl, rfl, .inl rfl⟩
  | true => exact ⟨_, rfl, rfl, .inl rfl⟩
  | false => exact ⟨_, rfl, rfl, .inl rfl⟩
  | _ => exact ⟨_, rfl, rfl, .inr rfl⟩

/-- Where a token ends, it makes no difference whether the scanner has already completed it. -/
lemma scanFrom_of_ends {s : Scan} {ts : List Token} (hs : complete s = some ts) {bytes : Bytes}
    (hend : EndsToken bytes) : scanFrom s bytes = scanFrom ⟨ts, .between⟩ bytes := by
  cases bytes with
  | nil => exact hs
  | cons b rest =>
    obtain ⟨hword, hnumeral⟩ := hend b rfl
    have hstep : step s b = step ⟨ts, .between⟩ b := by
      obtain ⟨tokens, mode⟩ := s
      cases mode with
      | between =>
        cases hs
        rfl
      | word done => simp only [step, hword, Bool.false_eq_true, if_false, hs, Option.bind_some]
      | numeral done =>
        simp only [step, hnumeral, Bool.false_eq_true, if_false, hs, Option.bind_some]
      | text done escaped => cases hs
    unfold scanFrom
    rw [List.foldlM_cons, List.foldlM_cons, hstep]

/-- A token that the scanner reads is read, and then what follows it. -/
lemma scanFrom_append {t : Token} {piece bytes : Bytes} (h : ReadsToken t piece)
    (hend : isOpenEnded t = true → EndsToken bytes) (done : List Token) :
    scanFrom ⟨done, .between⟩ (piece ++ bytes) = scanFrom ⟨t :: done, .between⟩ bytes := by
  obtain ⟨s, hfold, hcomplete, hs⟩ := h done
  have hnext : scanFrom s bytes = scanFrom ⟨t :: done, .between⟩ bytes := by
    rcases hs with hopen | rfl
    · exact scanFrom_of_ends hcomplete (hend hopen)
    · rfl
  rw [← hnext]
  unfold scanFrom
  rw [List.foldlM_append, hfold]
  rfl

lemma scan?_eq_map (bytes : Bytes) :
    scan? bytes = (scanFrom ⟨[], .between⟩ bytes).map List.reverse := by
  unfold scan? scanFrom
  cases bytes.foldlM step ⟨[], .between⟩ with
  | none => rfl
  | some s =>
    simp only [Option.bind_eq_bind, Option.bind_some]
    cases complete s <;> rfl

end Scan

end SlackBridge.Proofs
