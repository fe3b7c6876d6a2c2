import SlackBridge.Proofs.JsonTokens
import SlackBridge.Proofs.TextForms

/-!
# What the scanner accepts

A string between quotes is made of bytes and escapes, whether or not it has a text. The scanner
accepts the writings of tokens with blanks between them and nothing else, and it reads such a
writing as these tokens wherever no word or numeral runs into another one.
-/

namespace SlackBridge.Proofs

open Json

/-- What each step preserves of a state and the items that it has taken, a whole run preserves. -/
lemma foldlM_preserves {σ α : Type} {step : σ → α → Option σ} {P : σ → List α → Prop}
    (hstep : ∀ {s s' : σ} {a : α} {as : List α}, P s as → step s a = some s' → P s' (as ++ [a]))
    {s s' : σ} {as more : List α} (h : P s as) (hs : more.foldlM step s = some s') :
    P s' (as ++ more) := by
  induction more generalizing s as with
  | nil =>
    cases hs
    rwa [List.append_nil]
  | cons a more ih =>
    rw [List.foldlM_cons] at hs
    obtain ⟨next, hnext, hrest⟩ := Option.bind_eq_some_iff.mp hs
    have hmore := ih (hstep h hnext) hrest
    rwa [List.append_assoc, List.singleton_append] at hmore

/-- How what stands between two quotes splits into bytes and 16-bit units. -/
inductive SplitsInto : Bytes → List StringPart → Prop
  | nil : SplitsInto [] []
  | plain {b : UInt8} {inside : Bytes} {parts : List StringPart} (hcontrol : 0x20 ≤ b.toNat)
      (hmark : IsUnmarked b) (h : SplitsInto inside parts) :
      SplitsInto (b :: inside) (.byte b :: parts)
  | letter {e : UInt8} {c : Char} {inside : Bytes} {parts : List StringPart}
      (he : (e, c) ∈ letterEscapes) (h : SplitsInto inside parts) :
      SplitsInto (0x5c :: e :: inside) (.byte (UInt8.ofNat c.toNat) :: parts)
  | unit {w x y z : UInt8} {n : ℕ} {inside : Bytes} {parts : List StringPart}
      (hn : StringPart.hex4? w x y z = some n) (h : SplitsInto inside parts) :
      SplitsInto (0x5c :: 0x75 :: w :: x :: y :: z :: inside) (.unit n :: parts)

section Split

open StringPart

lemma exists_letter_of_simpleEscape? {e b : UInt8} (h : simpleEscape? e = some b) :
    ∃ c, (e, c) ∈ letterEscapes ∧ b = UInt8.ofNat c.toNat := by
  unfold simpleEscape? at h
  split_ifs at h with hself hb hf hn hr ht
  · cases h
    rcases hself with rfl | rfl | rfl
    · exact ⟨'"', by decide, rfl⟩
    · exact ⟨'\\', by decide, rfl⟩
    · exact ⟨'/', by decide, rfl⟩
  · cases h
    exact ⟨'\x08', by rw [hb]; decide, rfl⟩
  · cases h
    exact ⟨'\x0c', by rw [hf]; decide, rfl⟩
  · cases h
    exact ⟨'\n', by rw [hn]; decide, rfl⟩
  · cases h
    exact ⟨'\r', by rw [hr]; decide, rfl⟩
  · cases h
    exact ⟨'\t', by rw [ht]; decide, rfl⟩

/-- Whether the next byte is escaped, where no quote has ended the string yet. -/
def quoteStep (escaped : Bool) (b : UInt8) : Option Bool :=
  if escaped then some false else if b = 0x22 then none else some (b == 0x5c)

lemma quoteStep_of_isUnmarked {b : UInt8} (h : IsUnmarked b) : quoteStep false b = some false := by
  unfold quoteStep
  rw [if_neg Bool.false_ne_true, if_neg h.1, beq_eq_false_iff_ne.mpr h.2]

lemma foldlM_quoteStep_unmarked {bytes : Bytes} (h : ∀ b ∈ bytes, IsUnmarked b) (rest : Bytes) :
    (bytes ++ rest).foldlM quoteStep false = rest.foldlM quoteStep false := by
  induction bytes with
  | nil => rfl
  | cons b bytes ih =>
    rw [List.cons_append, List.foldlM_cons, quoteStep_of_isUnmarked (h b List.mem_cons_self)]
    exact ih fun a ha => h a (List.mem_cons_of_mem b ha)

lemma splitsInto_of_readFrom {inside : Bytes} {done all : List StringPart}
    (h : readFrom done inside = some all) (hopen : inside.foldlM quoteStep false = some false) :
    ∃ parts, SplitsInto inside parts ∧ all = done.reverse ++ parts := by
  fun_induction readFrom done inside with
  | case1 done =>
    cases h
    exact ⟨[], .nil, (List.append_nil _).symm⟩
  | case2 done w x y z rest n hn ih =>
    have hrest : rest.foldlM quoteStep false = some false := by
      rw [← hopen]
      exact (foldlM_quoteStep_unmarked (isUnmarked_of_hex4? hn) rest).symm
    obtain ⟨parts, hparts, rfl⟩ := ih h hrest
    refine ⟨.unit n :: parts, .unit hn hparts, ?_⟩
    rw [List.reverse_cons, List.append_assoc, List.singleton_append]
  | case3 => cases h
  | case4 done e rest hunit b hb ih =>
    obtain ⟨c, hc, rfl⟩ := exists_letter_of_simpleEscape? hb
    obtain ⟨parts, hparts, rfl⟩ := ih h hopen
    refine ⟨_ :: parts, .letter hc hparts, ?_⟩
    rw [List.reverse_cons, List.append_assoc, List.singleton_append]
  | case5 => cases h
  | case6 => cases h
  | case7 done b rest hunit hletter hb ih =>
    rw [not_or, UInt8.lt_iff_toNat_lt, Nat.not_lt] at hb
    have hquote : b ≠ 0x22 := by
      rintro rfl
      cases hopen
    have hmark : IsUnmarked b := ⟨hquote, hb.2⟩
    rw [List.foldlM_cons, quoteStep_of_isUnmarked hmark] at hopen
    obtain ⟨parts, hparts, rfl⟩ := ih h hopen
    refine ⟨.byte b :: parts, .plain hb.1 hmark hparts, ?_⟩
    rw [List.reverse_cons, List.append_assoc, List.singleton_append]

lemma readFrom_letter {e : UInt8} {c : Char} (he : (e, c) ∈ letterEscapes) (done : List StringPart)
    (rest : Bytes) :
    readFrom done (0x5c :: e :: rest) = readFrom (.byte (UInt8.ofNat c.toNat) :: done) rest := by
  simp only [letterEscapes, List.mem_cons, Prod.mk.injEq, List.not_mem_nil, or_false] at he
  rcases he with ⟨rfl, rfl⟩ | ⟨rfl, rfl⟩ | ⟨rfl, rfl⟩ | ⟨rfl, rfl⟩ | ⟨rfl, rfl⟩ | ⟨rfl, rfl⟩ |
    ⟨rfl, rfl⟩ | ⟨rfl, rfl⟩ <;> rfl

lemma readFrom_of_splitsInto {inside : Bytes} {parts : List StringPart}
    (h : SplitsInto inside parts) (done : List StringPart) :
    readFrom done inside = some (done.reverse ++ parts) := by
  induction h generalizing done with
  | nil => rw [List.append_nil]; rfl
  | @plain b _ _ hcontrol hmark _ ih =>
    have hb : ¬(b < 0x20 ∨ b = 0x5c) := by
      rw [not_or, UInt8.lt_iff_toNat_lt, Nat.not_lt]
      exact ⟨hcontrol, hmark.2⟩
    rw [readFrom_plain done hb, ih, List.reverse_cons, List.append_assoc, List.singleton_append]
  | letter he _ ih =>
    rw [readFrom_letter he, ih, List.reverse_cons, List.append_assoc, List.singleton_append]
  | unit hn _ ih =>
    rw [readFrom, hn]
    dsimp only
    rw [ih, List.reverse_cons, List.append_assoc, List.singleton_append]

lemma isCollected_of_splitsInto {inside : Bytes} {parts : List StringPart}
    (h : SplitsInto inside parts) : IsCollected inside := by
  induction h with
  | nil => exact fun _ _ => rfl
  | @plain b inside _ _ hmark _ ih =>
    have hplain : IsCollected [b] := isCollected_of_unmarked (List.forall_mem_singleton.mpr hmark)
    exact hplain.append ih
  | @letter e _ inside _ _ _ ih =>
    have hletter : IsCollected [0x5c, e] := fun _ _ => rfl
    exact hletter.append ih
  | unit hn _ ih => exact (isCollected_unit hn).append ih

end Split

/-! ### The texts of strings -/

section Texts

open StringPart

lemma toNat_ofNat_of_not_surrogate {n : ℕ} (hn : n < 0x10000) (h : ¬(isHigh n || isLow n) = true) :
    (Char.ofNat n).toNat = n := by
  have hvalid : n.isValidChar := by
    simp only [isHigh, isLow, Bool.or_eq_true, Bool.and_eq_true, decide_eq_true_eq] at h
    unfold Nat.isValidChar
    omega
  exact toNat_ofNat_of_isValidChar hvalid

lemma lt_of_hex4? {w x y z : UInt8} {n : ℕ} (h : hex4? w x y z = some n) : n < 0x10000 := by
  have hdigit : ∀ {c : Char} {m : ℕ}, Text.hexValue? c = some m → m < 16 :=
    fun hm => ((hexValue?_eq_some_iff _ _).mp hm).1
  simp only [hex4?, Option.bind_eq_bind, Option.bind_eq_some_iff] at h
  obtain ⟨a, hw, b, hx, c, hy, d, hz, hn⟩ := h
  cases hn
  have ha := hdigit hw
  have hb := hdigit hx
  have hc := hdigit hy
  have hd := hdigit hz
  omega

/-- The bytes that some parts are spelled as. A pair of surrogates stands for one character. -/
inductive SpelledAs : List StringPart → Bytes → Prop
  | nil : SpelledAs [] []
  | byte {b : UInt8} {parts : List StringPart} {bytes : Bytes} (h : SpelledAs parts bytes) :
      SpelledAs (.byte b :: parts) (b :: bytes)
  | unit {n : ℕ} {c : Char} {parts : List StringPart} {bytes : Bytes} (hc : c.toNat = n)
      (h : SpelledAs parts bytes) :
      SpelledAs (.unit n :: parts) (String.utf8EncodeChar c ++ bytes)
  | pair {high low : ℕ} {c : Char} {parts : List StringPart} {bytes : Bytes}
      (hhigh : high < 0x400) (hlow : low < 0x400)
      (hc : c.toNat = 0x10000 + high * 0x400 + low) (h : SpelledAs parts bytes) :
      SpelledAs (.unit (0xd800 + high) :: .unit (0xdc00 + low) :: parts)
        (String.utf8EncodeChar c ++ bytes)

lemma spelledAs_of_spellFrom {done all : Bytes} {parts : List StringPart}
    (hunits : ∀ n, .unit n ∈ parts → n < 0x10000) (h : spellFrom done parts = some all) :
    ∃ bytes, all = done.reverse ++ bytes ∧ SpelledAs parts bytes := by
  fun_induction spellFrom done parts with
  | case1 done =>
    cases h
    exact ⟨[], (List.append_nil _).symm, .nil⟩
  | case2 done b rest ih =>
    obtain ⟨bytes, rfl, hbytes⟩ := ih (fun n hn => hunits n (List.mem_cons_of_mem _ hn)) h
    refine ⟨b :: bytes, ?_, .byte hbytes⟩
    rw [List.reverse_cons, List.append_assoc, List.singleton_append]
  | case4 done n hn =>
    cases h
    have hc := toNat_ofNat_of_not_surrogate (hunits n List.mem_cons_self) hn
    refine ⟨_, ?_, .unit hc .nil⟩
    rw [List.append_nil, List.reverse_append, List.reverse_reverse]
  | case6 done n b rest hn ih =>
    obtain ⟨bytes, rfl, hbytes⟩ := ih
      (fun m hm => hunits m (List.mem_cons_of_mem _ (List.mem_cons_of_mem _ hm))) h
    have hc := toNat_ofNat_of_not_surrogate (hunits n List.mem_cons_self) hn
    refine ⟨_, ?_, .unit hc (.byte hbytes)⟩
    rw [List.reverse_cons, List.reverse_append, List.reverse_reverse, List.append_assoc,
      List.append_assoc, List.singleton_append]
  | case7 done n m rest hhigh hlow c ih =>
    simp only [isHigh, isLow, Bool.and_eq_true, decide_eq_true_eq] at hhigh hlow
    have hvalid : (0x10000 + (n - 0xd800) * 0x400 + (m - 0xdc00)).isValidChar := by
      unfold Nat.isValidChar
      omega
    have hc : c.toNat = 0x10000 + (n - 0xd800) * 0x400 + (m - 0xdc00) :=
      toNat_ofNat_of_isValidChar hvalid
    clear_value c
    obtain ⟨bytes, rfl, hbytes⟩ := ih
      (fun k hk => hunits k (List.mem_cons_of_mem _ (List.mem_cons_of_mem _ hk))) h
    have hpair := SpelledAs.pair (by omega) (by omega) hc hbytes
    rw [Nat.add_sub_cancel' hhigh.1, Nat.add_sub_cancel' hlow.1] at hpair
    refine ⟨_, ?_, hpair⟩
    rw [List.reverse_append, List.reverse_reverse, List.append_assoc]
  | case10 done n m rest hhigh hlow ih =>
    obtain ⟨bytes, rfl, hbytes⟩ := ih (fun k hk => hunits k (List.mem_cons_of_mem _ hk)) h
    have hn : ¬(isHigh n || isLow n) = true := by
      rw [Bool.or_eq_true]
      exact not_or.mpr ⟨hhigh, hlow⟩
    have hc := toNat_ofNat_of_not_surrogate (hunits n List.mem_cons_self) hn
    refine ⟨_, ?_, .unit hc hbytes⟩
    rw [List.reverse_append, List.reverse_reverse, List.append_assoc]
  | _ => cases h

lemma lt_of_unit_mem {inside : Bytes} {parts : List StringPart} (h : SplitsInto inside parts) :
    ∀ n, .unit n ∈ parts → n < 0x10000 := by
  induction h with
  | nil => exact fun n hn => absurd hn List.not_mem_nil
  | plain _ _ _ ih =>
    intro n hn
    rcases List.mem_cons.mp hn with hn | hn
    · cases hn
    · exact ih n hn
  | letter _ _ ih =>
    intro n hn
    rcases List.mem_cons.mp hn with hn | hn
    · cases hn
    · exact ih n hn
  | unit hm _ ih =>
    intro n hn
    rcases List.mem_cons.mp hn with hn | hn
    · cases hn
      exact lt_of_hex4? hm
    · exact ih n hn

lemma toNat_lt_of_mem_letterEscapes {e : UInt8} {c : Char} (he : (e, c) ∈ letterEscapes) :
    c.toNat < 0x80 := by
  have hall : ∀ p ∈ letterEscapes, p.2.toNat < 0x80 := by decide
  exact hall _ he

/-- The bytes inside of a character stand for themselves. -/
lemma exists_rest_of_inner {inner : Bytes} (hinner : ∀ b ∈ inner, IsInner b) {inside more : Bytes}
    {parts : List StringPart} (h : SplitsInto inside parts)
    (hspelled : SpelledAs parts (inner ++ more)) :
    ∃ rest restParts, inside = inner ++ rest ∧ SplitsInto rest restParts ∧
      SpelledAs restParts more := by
  induction inner generalizing inside parts with
  | nil => exact ⟨inside, parts, rfl, h, hspelled⟩
  | cons b inner ih =>
    obtain ⟨hb, hinner⟩ := List.forall_mem_cons.mp hinner
    have hfirst : ∀ (c : Char) {others : Bytes},
        b :: (inner ++ more) ≠ String.utf8EncodeChar c ++ others := by
      intro c others heq
      obtain ⟨b', inner', hc, hb', -⟩ := exists_utf8EncodeChar_eq_cons c
      rw [hc, List.cons_append] at heq
      obtain ⟨rfl, -⟩ := List.cons.inj heq
      exact hb' hb
    rw [List.cons_append] at hspelled
    generalize hall : b :: (inner ++ more) = all at hspelled
    cases hspelled with
    | nil => cases hall
    | unit => exact absurd hall (hfirst _)
    | pair => exact absurd hall (hfirst _)
    | byte hspelled =>
      cases hall
      cases h with
      | plain _ _ h =>
        obtain ⟨rest, restParts, rfl, hrest, hmore⟩ := ih hinner h hspelled
        exact ⟨rest, restParts, rfl, hrest, hmore⟩
      | letter he _ =>
        have hc := toNat_lt_of_mem_letterEscapes he
        unfold IsInner at hb
        rw [toNat_ofNat_of_lt (by omega)] at hb
        exact absurd hb.1 (Nat.not_le.mpr hc)

lemma spellsChar_of_mem {c : Char} {b : UInt8} (hb : b ∈ String.utf8EncodeChar c)
    (hcontrol : 0x20 ≤ b.toNat) (hmark : IsUnmarked b) :
    SpellsChar c (String.utf8EncodeChar c) := by
  rcases mem_utf8EncodeChar hb with ⟨-, hself⟩ | ⟨hlarge, -⟩
  · refine .plain (hself ▸ hcontrol) ⟨?_, ?_⟩
    · rintro rfl
      exact hmark.1 (UInt8.toNat_inj.mp hself)
    · rintro rfl
      exact hmark.2 (UInt8.toNat_inj.mp hself)
  · refine .plain (Nat.le_trans (by decide) hlarge) ⟨?_, ?_⟩
    · rintro rfl
      exact absurd hlarge (by decide)
    · rintro rfl
      exact absurd hlarge (by decide)

/-- The first character of a text is spelled by what its string begins with. -/
lemma exists_spellsChar {inside : Bytes} {parts : List StringPart} {c : Char} {cs : List Char}
    (h : SplitsInto inside parts) (hspelled : SpelledAs parts (charBytes (c :: cs))) :
    ∃ piece rest restParts, inside = piece ++ rest ∧ SpellsChar c piece ∧
      SplitsInto rest restParts ∧ SpelledAs restParts (charBytes cs) := by
  rw [charBytes_cons] at hspelled
  generalize hall : String.utf8EncodeChar c ++ charBytes cs = all at hspelled
  cases hspelled with
  | nil =>
    obtain ⟨b, inner, hb, -⟩ := exists_utf8EncodeChar_eq_cons c
    rw [hb] at hall
    cases hall
  | unit hd hspelled =>
    obtain ⟨rfl, rfl⟩ := utf8EncodeChar_append_inj hall
    cases h with
    | unit hn h =>
      rw [← hd] at hn
      exact ⟨_, _, _, rfl, .unit hn, h, hspelled⟩
  | pair hhigh hlow hd hspelled =>
    obtain ⟨rfl, rfl⟩ := utf8EncodeChar_append_inj hall
    cases h with
    | unit hn h =>
    cases h with
    | unit hm h => exact ⟨_, _, _, rfl, .pair hhigh hlow hn hm hd, h, hspelled⟩
  | byte hspelled =>
    cases h with
    | letter he h =>
      have hd := utf8EncodeChar_ascii (toNat_lt_of_mem_letterEscapes he)
      rw [← List.singleton_append, ← hd] at hall
      obtain ⟨rfl, rfl⟩ := utf8EncodeChar_append_inj hall
      exact ⟨_, _, _, rfl, .letter he, h, hspelled⟩
    | plain hcontrol hmark h =>
      obtain ⟨b, inner, hb, -, hinner⟩ := exists_utf8EncodeChar_eq_cons c
      rw [hb] at hall
      cases hall
      obtain ⟨rest, restParts, rfl, hrest, hmore⟩ := exists_rest_of_inner hinner h hspelled
      refine ⟨String.utf8EncodeChar c, rest, restParts, ?_, ?_, hrest, hmore⟩
      · rw [hb, List.cons_append]
      · exact spellsChar_of_mem (hb ▸ List.mem_cons_self) hcontrol hmark

lemma eq_nil_of_spelledAs_nil {inside : Bytes} {parts : List StringPart}
    (h : SplitsInto inside parts) (hspelled : SpelledAs parts []) : inside = [] := by
  generalize hall : [] = all at hspelled
  have hne : ∀ (c : Char) {others : Bytes}, [] ≠ String.utf8EncodeChar c ++ others := by
    intro c others heq
    obtain ⟨b, inner, hb, -⟩ := exists_utf8EncodeChar_eq_cons c
    rw [hb] at heq
    cases heq
  cases hspelled with
  | nil =>
    cases h
    rfl
  | byte => cases hall
  | unit => exact absurd hall (hne _)
  | pair => exact absurd hall (hne _)

lemma spellsText_of_spelledAs {inside : Bytes} {parts : List StringPart} {cs : List Char}
    (h : SplitsInto inside parts) (hspelled : SpelledAs parts (charBytes cs)) :
    SpellsText cs inside := by
  induction cs generalizing inside parts with
  | nil =>
    rw [eq_nil_of_spelledAs_nil h hspelled]
    exact .nil
  | cons c cs ih =>
    obtain ⟨piece, rest, restParts, rfl, hc, hrest, hmore⟩ := exists_spellsChar h hspelled
    exact .cons hc (ih hrest hmore)

/-- What stands between the quotes has a text exactly if it spells that text. -/
theorem stringText?_eq_some_iff {inside : Bytes} {parts : List StringPart}
    (h : SplitsInto inside parts) (s : String) :
    stringText? inside = some (some s) ↔ SpellsText s.toList inside := by
  constructor
  · intro htext
    unfold stringText? at htext
    rw [readFrom_of_splitsInto h, Option.map_some, Option.some.injEq,
      Option.bind_eq_some_iff] at htext
    obtain ⟨all, hall, hs⟩ := htext
    obtain ⟨bytes, hbytes, hspelled⟩ := spelledAs_of_spellFrom (lt_of_unit_mem h) hall
    have hself : bytes = charBytes s.toList :=
      hbytes.symm.trans ((eq_utf8_of_text? hs).trans (utf8_eq_charBytes s))
    rw [hself] at hspelled
    exact spellsText_of_spelledAs h hspelled
  · intro hs
    rw [stringText?_of_spellsText hs, String.ofList_toList]

lemma stringText?_textless {inside : Bytes} {parts : List StringPart} (h : SplitsInto inside parts)
    (hno : ∀ cs, ¬SpellsText cs inside) : stringText? inside = some none := by
  cases hs : stringText? inside with
  | none =>
    unfold stringText? at hs
    rw [readFrom_of_splitsInto h] at hs
    cases hs
  | some s =>
    cases s with
    | none => rfl
    | some s => exact absurd ((stringText?_eq_some_iff h s).mp hs) (hno _)

end Texts

/-! ### Tokens -/

/-- How a token may be written, also a string that has no text. -/
inductive Lexeme : Token → Bytes → Prop
  | spelled {t : Token} {piece : Bytes} (h : SpellsToken t piece) : Lexeme t piece
  | textless {inside : Bytes} {parts : List StringPart} (h : SplitsInto inside parts)
      (hno : ∀ cs, ¬SpellsText cs inside) : Lexeme (.string none) (0x22 :: (inside ++ [0x22]))

/-- How a list of tokens may be written, with blanks anywhere between them. -/
inductive Lexed : List Token → Bytes → Prop
  | nil : Lexed [] []
  | blank {ts : List Token} {b : UInt8} {bytes : Bytes} (hb : b ∈ blanks) (h : Lexed ts bytes) :
      Lexed ts (b :: bytes)
  | token {t : Token} {ts : List Token} {piece bytes : Bytes} (ht : Lexeme t piece)
      (h : Lexed ts bytes) : Lexed (t :: ts) (piece ++ bytes)

lemma Lexed.append {ts us : List Token} {bytes others : Bytes} (h : Lexed ts bytes)
    (hmore : Lexed us others) : Lexed (ts ++ us) (bytes ++ others) := by
  induction h with
  | nil => exact hmore
  | blank hb _ ih => exact .blank hb ih
  | token ht _ ih =>
    rw [List.append_assoc]
    exact .token ht ih

lemma exists_splitsInto_of_stringText? {inside : Bytes} {s : Option String}
    (h : stringText? inside = some s) (hopen : inside.foldlM quoteStep false = some false) :
    ∃ parts, SplitsInto inside parts := by
  obtain ⟨all, hall, -⟩ := Option.map_eq_some_iff.mp h
  obtain ⟨parts, hparts, -⟩ := splitsInto_of_readFrom hall hopen
  exact ⟨parts, hparts⟩

lemma lexeme_of_stringText? {inside : Bytes} {parts : List StringPart} {s : Option String}
    (h : SplitsInto inside parts) (hs : stringText? inside = some s) :
    Lexeme (.string s) (0x22 :: (inside ++ [0x22])) := by
  cases s with
  | some s => exact .spelled (.string ((stringText?_eq_some_iff h s).mp hs))
  | none =>
    refine .textless h fun cs hcs => ?_
    rw [stringText?_of_spellsText hcs] at hs
    cases hs

/-! ### What the scanner has read -/

section Scan

open Token

/-- The bytes that the scanner has read: complete tokens, and the beginning of one more. -/
inductive HasRead : Scan → Bytes → Prop
  | between {ts : List Token} {bytes : Bytes} (h : Lexed ts.reverse bytes) :
      HasRead ⟨ts, .between⟩ bytes
  | word {ts : List Token} {before : Bytes} (piece : Bytes) (h : Lexed ts.reverse before) :
      HasRead ⟨ts, .word (piece.map fun b => Char.ofNat b.toNat).reverse⟩ (before ++ piece)
  | numeral {ts : List Token} {before : Bytes} (piece : Bytes) (h : Lexed ts.reverse before)
      (hpiece : ∀ b ∈ piece, isNumeralByte b = true) :
      HasRead ⟨ts, .numeral (piece.map fun b => Char.ofNat b.toNat).reverse⟩ (before ++ piece)
  | text {ts : List Token} {before : Bytes} (inside : Bytes) {escaped : Bool}
      (h : Lexed ts.reverse before) (hopen : inside.foldlM quoteStep false = some escaped) :
      HasRead ⟨ts, .text inside.reverse escaped⟩ (before ++ 0x22 :: inside)

lemma Lexed.concat {t : Token} {ts : List Token} {bytes piece : Bytes}
    (h : Lexed ts.reverse bytes) (ht : Lexeme t piece) :
    Lexed (t :: ts).reverse (bytes ++ piece) := by
  have hlast := Lexed.token ht .nil
  rw [List.append_nil] at hlast
  rw [List.reverse_cons]
  exact h.append hlast

lemma spellsToken_of_word? {piece : Bytes} {t : Token}
    (h : word? (String.ofList (piece.map fun b => Char.ofNat b.toNat)) = some t) :
    SpellsToken t piece := by
  have hpiece : ∀ cs : List Char, cs.all (fun c => decide (c.toNat < 0x80)) = true →
      String.ofList (piece.map fun b => Char.ofNat b.toNat) = String.ofList cs →
        piece = charBytes cs := fun _ hcs heq =>
    eq_charBytes_of_map (fun c hc => of_decide_eq_true (List.all_eq_true.mp hcs c hc))
      (String.ofList_injective heq)
  unfold word? at h
  split at h
  · next heq =>
    cases h
    rw [hpiece ['n', 'u', 'l', 'l'] rfl heq]
    exact .null
  · next heq =>
    cases h
    rw [hpiece ['t', 'r', 'u', 'e'] rfl heq]
    exact .true
  · next heq =>
    cases h
    rw [hpiece ['f', 'a', 'l', 's', 'e'] rfl heq]
    exact .false
  · cases h

lemma lexed_of_complete {s : Scan} {bytes : Bytes} {ts : List Token} (h : HasRead s bytes)
    (hs : complete s = some ts) : Lexed ts.reverse bytes := by
  cases h with
  | between h =>
    cases hs
    exact h
  | word piece h =>
    simp only [complete, List.reverse_reverse] at hs
    obtain ⟨t, ht, rfl⟩ := Option.map_eq_some_iff.mp hs
    exact h.concat (.spelled (spellsToken_of_word? ht))
  | numeral piece h hpiece =>
    simp only [complete, List.reverse_reverse] at hs
    obtain ⟨n, hn, rfl⟩ := Option.map_eq_some_iff.mp hs
    exact h.concat (.spelled (.number hpiece hn))
  | text => cases hs

lemma hasRead_begin {ts : List Token} {b : UInt8} {s : Scan} {bytes : Bytes}
    (h : Lexed ts.reverse bytes) (hs : begin ts b = some s) : HasRead s (bytes ++ [b]) := by
  have hblank : b ∈ blanks → Lexed ts.reverse (bytes ++ [b]) := by
    intro hb
    have hlast := h.append (.blank hb .nil)
    rwa [List.append_nil] at hlast
  unfold begin at hs
  split at hs
  · cases hs
    exact .between (hblank (by decide))
  · cases hs
    exact .between (hblank (by decide))
  · cases hs
    exact .between (hblank (by decide))
  · cases hs
    exact .between (hblank (by decide))
  · cases hs
    exact .between (h.concat (.spelled .openArray))
  · cases hs
    exact .between (h.concat (.spelled .closeArray))
  · cases hs
    exact .between (h.concat (.spelled .openObject))
  · cases hs
    exact .between (h.concat (.spelled .closeObject))
  · cases hs
    exact .between (h.concat (.spelled .comma))
  · cases hs
    exact .between (h.concat (.spelled .colon))
  · cases hs
    exact .text [] h rfl
  · split_ifs at hs with hword hnumeral
    · cases hs
      exact .word [b] h
    · cases hs
      exact .numeral [b] h (List.forall_mem_singleton.mpr hnumeral)

/-- One more byte is read. -/
lemma hasRead_step {s s' : Scan} {b : UInt8} {bytes : Bytes} (h : HasRead s bytes)
    (hs : step s b = some s') : HasRead s' (bytes ++ [b]) := by
  have hcomplete : (complete s).bind (begin · b) = some s' → HasRead s' (bytes ++ [b]) := by
    intro hnext
    obtain ⟨ts, hts, hbegin⟩ := Option.bind_eq_some_iff.mp hnext
    exact hasRead_begin (lexed_of_complete h hts) hbegin
  cases h with
  | between h => exact hasRead_begin h hs
  | word piece h =>
    simp only [step] at hs
    split_ifs at hs with hb
    · cases hs
      have hword := HasRead.word (piece ++ [b]) h
      rw [List.map_append, List.reverse_append, ← List.append_assoc] at hword
      exact hword
    · exact hcomplete hs
  | numeral piece h hpiece =>
    simp only [step] at hs
    split_ifs at hs with hb
    · cases hs
      have hnumeral := HasRead.numeral (piece ++ [b]) h
        (List.forall_mem_append.mpr ⟨hpiece, List.forall_mem_singleton.mpr hb⟩)
      rw [List.map_append, List.reverse_append, ← List.append_assoc] at hnumeral
      exact hnumeral
    · exact hcomplete hs
  | @text ts before inside escaped h hopen =>
    have hmore : ∀ {flag : Bool}, quoteStep escaped b = some flag →
        HasRead ⟨ts, .text (b :: inside.reverse) flag⟩ (before ++ 0x22 :: inside ++ [b]) := by
      intro flag hflag
      have hconcat : (inside ++ [b]).foldlM quoteStep false = some flag := by
        rw [List.foldlM_append, hopen, Option.bind_eq_bind, Option.bind_some, List.foldlM_cons,
          hflag]
        rfl
      have htext := HasRead.text (inside ++ [b]) h hconcat
      rw [List.reverse_append] at htext
      rw [List.append_assoc, List.cons_append]
      exact htext
    cases escaped with
    | true =>
      simp only [step] at hs
      cases hs
      exact hmore rfl
    | false =>
      simp only [step, List.reverse_reverse] at hs
      split_ifs at hs with hquote
      · obtain ⟨t, ht, rfl⟩ := Option.map_eq_some_iff.mp hs
        obtain ⟨parts, hparts⟩ := exists_splitsInto_of_stringText? ht hopen
        have hconcat := h.concat (lexeme_of_stringText? hparts ht)
        rw [hquote, List.append_assoc]
        exact .between hconcat
      · cases hs
        exact hmore (by rw [quoteStep, if_neg Bool.false_ne_true, if_neg hquote])

/-- What the scanner accepts is a writing of the tokens that it gives. -/
theorem lexed_of_scan? {bytes : Bytes} {ts : List Token} (h : scan? bytes = some ts) :
    Lexed ts bytes := by
  unfold scan? at h
  obtain ⟨s, hs, hrest⟩ := Option.bind_eq_some_iff.mp h
  obtain ⟨done, hdone, hts⟩ := Option.bind_eq_some_iff.mp hrest
  cases hts
  have hstart : Lexed ([] : List Token).reverse [] := .nil
  exact lexed_of_complete (foldlM_preserves (P := HasRead) hasRead_step (.between hstart) hs) hdone

/-! ### What the scanner reads -/

/-- No word or numeral is followed by another one. -/
def IsSeparated (ts : List Token) : Prop :=
  ts.IsChain fun t u => isOpenEnded t = true → isOpenEnded u = false

lemma readsToken_of_lexeme {t : Token} {piece : Bytes} (h : Lexeme t piece) :
    ReadsToken t piece := by
  cases h with
  | spelled h => exact readsToken_of_spellsToken h
  | textless h hno =>
    exact readsToken_string (isCollected_of_splitsInto h) (stringText?_textless h hno)

/-- A token that does not go on begins with a byte that ends the token before it. -/
lemma endsToken_of_lexeme {t : Token} {piece : Bytes} (h : Lexeme t piece)
    (ht : isOpenEnded t = false) (bytes : Bytes) : EndsToken (piece ++ bytes) := by
  cases h with
  | spelled h =>
    cases h with
    | null | true | false | number => cases ht
    | _ =>
      intro b hb
      cases hb
      exact ⟨rfl, rfl⟩
  | textless =>
    intro b hb
    cases hb
    exact ⟨rfl, rfl⟩

lemma endsToken_of_lexed {ts : List Token} {bytes : Bytes} (h : Lexed ts bytes)
    (hts : ∀ t ∈ ts.head?, isOpenEnded t = false) : EndsToken bytes := by
  cases h with
  | nil => exact fun b hb => absurd hb (Option.not_mem_none b)
  | blank hb =>
    intro b hb'
    cases hb'
    simp only [blanks, List.mem_cons, List.not_mem_nil, or_false] at hb
    rcases hb with rfl | rfl | rfl | rfl <;> exact ⟨rfl, rfl⟩
  | token ht => exact endsToken_of_lexeme ht (hts _ rfl) _

lemma scanFrom_lexed {ts : List Token} {bytes : Bytes} (h : Lexed ts bytes)
    (hts : IsSeparated ts) (done : List Token) :
    scanFrom ⟨done, .between⟩ bytes = some (ts.reverse ++ done) := by
  induction h generalizing done with
  | nil => rfl
  | @blank ts b bytes hb _ ih =>
    have hstep : step ⟨done, .between⟩ b = some ⟨done, .between⟩ := by
      simp only [blanks, List.mem_cons, List.not_mem_nil, or_false] at hb
      rcases hb with rfl | rfl | rfl | rfl <;> rfl
    unfold scanFrom
    rw [List.foldlM_cons, hstep]
    exact ih hts done
  | @token t ts piece bytes ht h ih =>
    obtain ⟨hfirst, hrest⟩ := List.isChain_cons.mp hts
    have hend : isOpenEnded t = true → EndsToken bytes := fun hopen =>
      endsToken_of_lexed h fun u hu => hfirst u hu hopen
    rw [scanFrom_append (readsToken_of_lexeme ht) hend, ih hrest, List.reverse_cons,
      List.append_assoc, List.singleton_append]

/-- However some tokens are written, the scanner reads them. -/
theorem scan?_of_lexed {ts : List Token} {bytes : Bytes} (h : Lexed ts bytes)
    (hts : IsSeparated ts) : scan? bytes = some ts := by
  rw [scan?_eq_map, scanFrom_lexed h hts, Option.map_some, List.append_nil, List.reverse_reverse]

end Scan

end SlackBridge.Proofs
