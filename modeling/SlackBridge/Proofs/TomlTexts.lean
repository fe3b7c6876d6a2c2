import SlackBridge.Proofs.TomlLines

/-!
# Texts between quotes

A text between double quotes is read as it stands there exactly if each of its characters stands for
itself. Every escape takes more characters than it gives, and so does the opening of a text on
several lines, so what is read is shorter than what stands there in any other case. With an escape
for each of its characters any text can be written.
-/

namespace SlackBridge.Proofs

open Toml

/-- The characters that mean themselves between double quotes: no quotes and backslashes, and no
control characters but the tab. -/
def StandsForItself (c : Char) : Prop :=
  c ≠ '"' ∧ c ≠ '\\' ∧ (c = '\t' ∨ 0x20 ≤ c.toNat ∧ c.toNat ≠ 0x7f)

instance (c : Char) : Decidable (StandsForItself c) :=
  inferInstanceAs (Decidable (_ ∧ _))

lemma isPlain_iff (c : Char) :
    isPlain c = true ↔ c = '\t' ∨ 0x20 ≤ c.toNat ∧ c.toNat ≠ 0x7f := by
  simp [isPlain]

/-! ### On one line -/

section OneLine

variable {cs x rest : List Char}

/-- A text whose characters stand for themselves is read up to the closing quote. -/
lemma basicFrom_of_standsForItself (h : ∀ c ∈ cs, StandsForItself c) (done rest : List Char) :
    basicFrom 0 done (cs ++ '"' :: rest) = some (done.reverse ++ cs, rest) := by
  induction cs generalizing done with
  | nil => simp [basicFrom]
  | cons c cs ih =>
    obtain ⟨⟨hquote, hbackslash, hplain⟩, hcs⟩ := List.forall_mem_cons.mp h
    rw [List.cons_append, basicFrom, if_neg hquote, if_neg hbackslash,
      if_pos ((isPlain_iff c).mpr hplain), ih hcs]
    simp

lemma escaped?_pos {found : Char × ℕ} (h : escaped? cs = some found) : 0 < found.2 := by
  unfold escaped? at h
  split at h
  · split_ifs at h
    obtain ⟨_, -, rfl⟩ := Option.map_eq_some_iff.mp h
    exact Nat.succ_pos 4
  · split_ifs at h
    obtain ⟨_, -, rfl⟩ := Option.map_eq_some_iff.mp h
    exact Nat.succ_pos 8
  · obtain ⟨_, -, rfl⟩ := Option.map_eq_some_iff.mp h
    exact Nat.one_pos
  · cases h

lemma length_of_basicFrom {skip : ℕ} {done : List Char}
    (h : basicFrom skip done cs = some (x, rest)) :
    x.length + rest.length + skip < done.length + cs.length := by
  have hpos := @escaped?_pos
  fun_induction basicFrom skip done cs <;> grind

/-- If nothing is lost of a text but the closing quote, its characters stand for themselves. -/
lemma exists_standsForItself_of_basicFrom {done : List Char}
    (h : basicFrom 0 done cs = some (x, rest))
    (hlength : done.length + cs.length ≤ x.length + rest.length + 1) :
    ∃ text, x = done.reverse ++ text ∧ cs = text ++ '"' :: rest ∧
      ∀ c ∈ text, StandsForItself c := by
  induction cs generalizing done with
  | nil => cases h
  | cons c cs ih =>
    rw [basicFrom] at h
    by_cases hquote : c = '"'
    · rw [if_pos hquote] at h
      cases h
      subst hquote
      exact ⟨[], (List.append_nil _).symm, rfl, List.forall_mem_nil _⟩
    by_cases hbackslash : c = '\\'
    · -- the escape takes two characters at least and gives one
      rw [if_neg hquote, if_pos hbackslash] at h
      cases hescaped : escaped? cs with
      | none =>
        rw [hescaped] at h
        cases h
      | some found =>
        rw [hescaped] at h
        have hfound := escaped?_pos hescaped
        have hread := length_of_basicFrom h
        simp only [List.length_cons] at hread hlength
        omega
    · rw [if_neg hquote, if_neg hbackslash] at h
      split_ifs at h with hplain
      have hshorter : (c :: done).length + cs.length ≤ x.length + rest.length + 1 := by
        simp only [List.length_cons] at hlength ⊢
        omega
      obtain ⟨text, rfl, rfl, htext⟩ := ih h hshorter
      exact ⟨c :: text, by simp, rfl, List.forall_mem_cons.mpr
        ⟨⟨hquote, hbackslash, (isPlain_iff c).mp hplain⟩, htext⟩⟩

end OneLine

/-! ### On several lines -/

section SeveralLines

variable {cs x rest : List Char}

lemma length_of_closeLong (quote : Char) (done rest : List Char) :
    (closeLong quote done rest).1.length + (closeLong quote done rest).2.length =
      done.length + rest.length := by
  fun_cases closeLong quote done rest <;> grind

lemma length_of_longBasicFrom {folding : Folding} {skip : ℕ} {done : List Char}
    (h : longBasicFrom folding skip done cs = some (x, rest)) :
    x.length + rest.length + 3 ≤ done.length + cs.length := by
  have hclose := length_of_closeLong
  have htwo : ∀ cs : List Char, cs.take 2 = ['"', '"'] → 2 ≤ cs.length := by
    intro cs h
    have hlength := congrArg List.length h
    rw [List.length_take] at hlength
    exact min_eq_left_iff.mp hlength
  fun_induction longBasicFrom folding skip done cs <;> grind

end SeveralLines

/-! ### A text in a line -/

section Lines

variable {cs rest : List Char}

lemma quoted?_of_basic {after : List Char} (h : cs = '"' :: after) (hlong : ¬OpensLong '"' cs) :
    quoted? cs = (basicFrom 0 [] after).map fun found => (String.ofList found.1, found.2) := by
  subst h
  rw [quoted?_of_not_long hlong]
  · rfl
  · rintro ⟨_, h⟩
    cases h

/-- A text that is not empty is read as it is if its characters stand for themselves. -/
lemma quoted?_of_standsForItself (hne : cs ≠ []) (h : ∀ c ∈ cs, StandsForItself c)
    (rest : List Char) :
    quoted? ('"' :: (cs ++ '"' :: rest)) = some (String.ofList cs, rest) := by
  obtain ⟨c, cs, rfl⟩ := List.exists_cons_of_ne_nil hne
  rw [quoted?_of_basic rfl, basicFrom_of_standsForItself h]
  · rfl
  · rintro ⟨more, hmore⟩
    obtain ⟨rfl, -⟩ := List.cons.inj (List.cons.inj hmore).2
    exact (h _ List.mem_cons_self).1 rfl

/-- A text that is read as it is at the end of a line has no characters that do not stand for
themselves. -/
lemma standsForItself_of_quoted?
    (h : quoted? ('"' :: (cs ++ ['"', '\n'])) = some (String.ofList cs, rest)) :
    ∀ c ∈ cs, StandsForItself c := by
  by_cases hlong : OpensLong '"' ('"' :: (cs ++ ['"', '\n']))
  · -- the quotes and the break that may be part of a longer text do not make up for its opening
    obtain ⟨more, hmore⟩ := hlong
    rw [hmore] at h
    obtain ⟨⟨x, _⟩, hread, hx⟩ := Option.map_eq_some_iff.mp h
    obtain ⟨htext, -⟩ := Prod.mk.inj hx
    cases String.ofList_injective htext
    have hlength := congrArg List.length hmore
    have hbreak := length_dropBreak?_le more
    have hshort := length_of_longBasicFrom hread
    simp only [List.length_cons, List.length_append, List.length_nil] at hlength hshort
    omega
  · rw [quoted?_of_basic rfl hlong] at h
    obtain ⟨⟨x, _⟩, hread, hx⟩ := Option.map_eq_some_iff.mp h
    obtain ⟨htext, -⟩ := Prod.mk.inj hx
    cases String.ofList_injective htext
    have hend : x ++ ['"', '\n'] = (x ++ ['"']) ++ ['\n'] := by
      rw [List.append_assoc]
      rfl
    rw [hend] at hread
    -- the break is left, so that there is nothing to lose
    obtain ⟨back, rfl, -⟩ := linewise_basicFrom 0 [] _ _ _ hread
    obtain ⟨text, rfl, -, hplain⟩ := exists_standsForItself_of_basicFrom hread (by simp)
    exact hplain

/-- A key of letters, digits and the like. -/
def IsBareKey (key : String) : Prop :=
  key.toList ≠ [] ∧ ∀ c ∈ key.toList, isBareKeyChar c = true

lemma IsBareKey.exists_cons {key : String} (hkey : IsBareKey key) :
    ∃ c name, key.toList = c :: name ∧ isBareKeyChar c = true := by
  obtain ⟨hne, hbare⟩ := hkey
  obtain ⟨c, name, hname⟩ := List.exists_cons_of_ne_nil hne
  rw [hname] at hbare
  exact ⟨c, name, hname, hbare c List.mem_cons_self⟩

lemma ne_of_isBareKeyChar {c d : Char} (hc : isBareKeyChar c = true)
    (hd : isBareKeyChar d = false) : c ≠ d := by
  rintro rfl
  exact Bool.false_ne_true (hd.symm.trans hc)

lemma isInlineBlank_of_bare {c : Char} (hc : isBareKeyChar c = true) :
    isInlineBlank c = false := by
  unfold isInlineBlank
  rw [Bool.or_eq_false_iff, beq_eq_false_iff_ne, beq_eq_false_iff_ne]
  exact ⟨ne_of_isBareKeyChar hc (by decide), ne_of_isBareKeyChar hc (by decide)⟩

/-- A bare key before an equals sign. -/
lemma keyParts?_of_bare {key : String} (hkey : IsBareKey key) (rest : List Char) :
    keyParts? maxNesting (key.toList ++ ' ' :: '=' :: rest) = some ([key], '=' :: rest) := by
  obtain ⟨c, name, hname, hc⟩ := hkey.exists_cons
  obtain ⟨htake, hdrop⟩ := takeWhile_dropWhile_of_stop hkey.2
    (by decide : isBareKeyChar ' ' = false) ('=' :: rest)
  have hpart : bareKey? (key.toList ++ ' ' :: '=' :: rest) = some (key, ' ' :: '=' :: rest) := by
    rw [bareKey?, htake, hdrop, if_neg hkey.1, String.ofList_toList]
  have hend : furtherParts? 78 key (' ' :: '=' :: rest) = some ([key], '=' :: rest) := by
    rw [furtherParts?_of_end]
    · rfl
    · rintro more ⟨⟩
  rw [hname, List.cons_append] at hpart ⊢
  have hblank : ¬isInlineBlank c = true := by
    rw [isInlineBlank_of_bare hc]
    exact Bool.false_ne_true
  have hstay : dropInlineBlank (c :: (name ++ ' ' :: '=' :: rest)) =
      c :: (name ++ ' ' :: '=' :: rest) :=
    List.dropWhile_cons_of_neg hblank
  rw [maxNesting, keyParts?_succ, hstay, keyPart?_eq, quotedLine?_of_other, Option.none_or, hpart,
    Option.bind_some, hend]
  · exact ne_of_isBareKeyChar hc (by decide)
  · exact ne_of_isBareKeyChar hc (by decide)

lemma value?_of_quote (room : ℕ) (cs : List Char) : value? (room + 1) ('"' :: cs) =
    (quoted? ('"' :: cs)).map fun found => (.string found.1, found.2) := by
  rw [value?_of_other (by decide) (by decide), plainValue?]
  exact Option.or_none

/-- The line that assigns a value to a key. -/
lemma statement?_value {key : String} (hkey : IsBareKey key) {cs : List Char}
    (hstay : dropInlineBlank (' ' :: cs) = cs) :
    statement? (key.toList ++ (" = ".toList ++ cs)) = (value? maxNesting cs).bind
      fun found => ended? (.assign [key] found.1) found.2 := by
  have hhead : (key.toList ++ (" = ".toList ++ cs)).head? ≠ some '[' := by
    obtain ⟨c, name, hname, hc⟩ := hkey.exists_cons
    rw [hname, List.cons_append, List.head?_cons, ne_eq, Option.some_inj]
    exact ne_of_isBareKeyChar hc (by decide)
  have hchars : " = ".toList ++ cs = ' ' :: '=' :: ' ' :: cs := rfl
  rw [statement?_assignment hhead, assignment?_eq, hchars, keyParts?_of_bare hkey,
    Option.bind_some, assigned?_of_equals, hstay]
  cases value? maxNesting cs <;> rfl

/-- The line that assigns what a quote begins to a key. -/
lemma statement?_text {key : String} (hkey : IsBareKey key) (cs : List Char) :
    statement? (key.toList ++ (" = \"".toList ++ cs)) = (quoted? ('"' :: cs)).bind
      fun found => ended? (.assign [key] (.string found.1)) found.2 := by
  have hchars : " = \"".toList ++ cs = " = ".toList ++ '"' :: cs := rfl
  rw [hchars, statement?_value hkey rfl, maxNesting, value?_of_quote]
  cases quoted? ('"' :: cs) <;> rfl

lemma dropLines_of_bare {c : Char} (hc : isBareKeyChar c = true) (cs : List Char) :
    dropLines false (c :: cs) = c :: cs := by
  have hblank : (isInlineBlank c || c == '\n') = false := by
    rw [isInlineBlank_of_bare hc, Bool.false_or, beq_eq_false_iff_ne]
    exact ne_of_isBareKeyChar hc (by decide)
  rw [dropLines, Bool.false_and, if_neg Bool.false_ne_true, hblank, if_neg Bool.false_ne_true,
    if_neg, if_neg]
  · exact ne_of_isBareKeyChar hc (by decide)
  · exact fun h => ne_of_isBareKeyChar hc (by decide) h.1

lemma dropLines_of_bareKey {key : String} (hkey : IsBareKey key) (cs : List Char) :
    dropLines false (key.toList ++ cs) = key.toList ++ cs := by
  obtain ⟨c, name, hname, hc⟩ := hkey.exists_cons
  rw [hname]
  exact dropLines_of_bare hc _

/-- A document that begins with the line that assigns a value to a key. -/
lemma reads_value {key : String} (hkey : IsBareKey key) {cs after rest : List Char} {v : Value}
    {tail : List Statement} (hstay : dropInlineBlank (' ' :: cs) = cs)
    (hv : value? maxNesting cs = some (v, after)) (hend : endLine? after = some rest)
    (hrest : Reads rest tail) :
    Reads (key.toList ++ (" = ".toList ++ cs)) (.assign [key] v :: tail) := by
  have hline := dropLines_of_bareKey hkey (" = ".toList ++ cs)
  refine .step ?_ ?_ hrest
  · rw [hline]
    exact List.append_ne_nil_of_right_ne_nil _ (List.cons_ne_nil _ _)
  · rw [hline, statement?_value hkey hstay, hv]
    exact ended?_eq_some_iff.mpr ⟨rfl, hend⟩

/-- A document that begins with the line that assigns what a quote begins to a key. -/
lemma reads_text_iff {key : String} (hkey : IsBareKey key) (cs : List Char)
    (ss : List Statement) :
    Reads (key.toList ++ (" = \"".toList ++ cs)) ss ↔ ∃ text after rest tail,
      quoted? ('"' :: cs) = some (text, after) ∧ endLine? after = some rest ∧ Reads rest tail ∧
        ss = .assign [key] (.string text) :: tail := by
  have hstay := dropLines_of_bareKey hkey (" = \"".toList ++ cs)
  constructor
  · intro hreads
    cases hreads with
    | done h =>
      rw [hstay] at h
      exact absurd (List.append_eq_nil_iff.mp h).2 (List.cons_ne_nil _ _)
    | step _ hs hrest =>
      rw [hstay, statement?_text hkey] at hs
      obtain ⟨⟨text, after⟩, hquoted, hended⟩ := Option.bind_eq_some_iff.mp hs
      obtain ⟨rfl, hend⟩ := ended?_eq_some_iff.mp hended
      exact ⟨text, after, _, _, hquoted, hend, hrest, rfl⟩
  · rintro ⟨text, after, rest, tail, hquoted, hend, hrest, rfl⟩
    have hv : value? maxNesting ('"' :: cs) = some (.string text, after) := by
      rw [maxNesting, value?_of_quote, hquoted]
      rfl
    exact reads_value hkey rfl hv hend hrest

end Lines

/-! ### Escapes -/

section Escapes

/-- A number with eight hexadecimal digits. -/
def eightDigits (n : ℕ) : List Char :=
  [n / 16 ^ 7, n / 16 ^ 6, n / 16 ^ 5, n / 16 ^ 4, n / 16 ^ 3, n / 16 ^ 2, n / 16, n].map
    fun d => Text.hexDigit (d % 16)

/-- The escape for a character, whichever it is. -/
def escapeOf (c : Char) : List Char :=
  '\\' :: 'U' :: eightDigits c.toNat

lemma hexValue?_hexDigit_mod (n : ℕ) : Text.hexValue? (Text.hexDigit (n % 16)) = some (n % 16) :=
  Text.hexValue?_hexDigit ⟨n % 16, Nat.mod_lt n (by decide)⟩

lemma codePoint?_eightDigits (c : Char) : codePoint? (eightDigits c.toNat) = some c := by
  have hvalid : c.toNat.isValidChar := c.valid
  have hlt : c.toNat < 16 ^ 8 := by
    rcases hvalid with h | h <;> omega
  have hcode : [c.toNat / 16 ^ 7 % 16, c.toNat / 16 ^ 6 % 16, c.toNat / 16 ^ 5 % 16,
      c.toNat / 16 ^ 4 % 16, c.toNat / 16 ^ 3 % 16, c.toNat / 16 ^ 2 % 16, c.toNat / 16 % 16,
      c.toNat % 16].foldl (fun n d => n * 16 + d) 0 = c.toNat := by
    simp only [List.foldl_cons, List.foldl_nil]
    omega
  have hvalues : (eightDigits c.toNat).mapM Text.hexValue? = some [c.toNat / 16 ^ 7 % 16,
      c.toNat / 16 ^ 6 % 16, c.toNat / 16 ^ 5 % 16, c.toNat / 16 ^ 4 % 16, c.toNat / 16 ^ 3 % 16,
      c.toNat / 16 ^ 2 % 16, c.toNat / 16 % 16, c.toNat % 16] := by
    simp only [eightDigits, List.map_cons, List.map_nil, List.mapM_cons, List.mapM_nil,
      hexValue?_hexDigit_mod]
    rfl
  unfold codePoint?
  rw [hvalues, Option.bind_eq_bind, Option.bind_some]
  dsimp only
  rw [hcode, if_pos hvalid, Char.ofNat_toNat]

lemma escaped?_eightDigits (c : Char) (rest : List Char) :
    escaped? ('U' :: (eightDigits c.toNat ++ rest)) = some (c, 9) := by
  have hlength : (eightDigits c.toNat).length = 8 := rfl
  have htake : (eightDigits c.toNat ++ rest).take 8 = eightDigits c.toNat := by
    rw [← hlength, List.take_left]
  have hlong : ¬(eightDigits c.toNat ++ rest).length < 8 := by
    rw [List.length_append, hlength]
    omega
  have hread : ∀ more, escaped? ('U' :: more) =
      if more.length < 8 then none else (codePoint? (more.take 8)).map (·, 9) :=
    fun _ => rfl
  rw [hread, if_neg hlong, htake, codePoint?_eightDigits, Option.map_some]

/-- The characters of an escape that was read are skipped. -/
lemma basicFrom_skip (done skipped rest : List Char) :
    basicFrom skipped.length done (skipped ++ rest) = basicFrom 0 done rest := by
  induction skipped with
  | nil => rfl
  | cons c skipped ih => exact ih

lemma basicFrom_escapes (cs done rest : List Char) :
    basicFrom 0 done (cs.flatMap escapeOf ++ '"' :: rest) = some (done.reverse ++ cs, rest) := by
  induction cs generalizing done with
  | nil => simp [basicFrom]
  | cons c cs ih =>
    have hskip := basicFrom_skip (c :: done) ('U' :: eightDigits c.toNat)
      (cs.flatMap escapeOf ++ '"' :: rest)
    rw [List.flatMap_cons, List.append_assoc, escapeOf, List.cons_append, List.cons_append,
      basicFrom, if_neg (by decide), if_pos rfl, escaped?_eightDigits]
    refine hskip.trans ?_
    rw [ih, List.reverse_cons, List.append_assoc, List.singleton_append]

/-- Every text that is not empty can be read between quotes, with an escape for each of its
characters. -/
lemma quoted?_escapes {cs : List Char} (hne : cs ≠ []) (rest : List Char) :
    quoted? ('"' :: (cs.flatMap escapeOf ++ '"' :: rest)) = some (String.ofList cs, rest) := by
  rw [quoted?_of_basic rfl, basicFrom_escapes]
  · rfl
  · rintro ⟨more, hmore⟩
    obtain ⟨c, cs, rfl⟩ := List.exists_cons_of_ne_nil hne
    cases hmore

lemma dollar_notMem_escapes (cs : List Char) : '$' ∉ cs.flatMap escapeOf := by
  have hdigit : ∀ n < 16, Text.hexDigit n ≠ '$' := by
    decide
  intro hmem
  obtain ⟨c, -, hc⟩ := List.mem_flatMap.mp hmem
  rw [escapeOf, List.mem_cons, List.mem_cons] at hc
  rcases hc with hc | hc | hc
  · cases hc
  · cases hc
  · obtain ⟨n, -, hn⟩ := List.mem_map.mp hc
    exact hdigit (n % 16) (Nat.mod_lt n (by decide)) hn

end Escapes

end SlackBridge.Proofs
