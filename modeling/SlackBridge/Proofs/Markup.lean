import SlackBridge.Proofs.TextForms
import SlackBridge.Slack.Mention

/-!
# Markup in a text

What counts as a mention and as a link with a label, as a grammar beside the readers, and what the
two passes over a text do at each of its characters. Nothing else is needed to follow a text through
them.
-/

namespace SlackBridge.Proofs

open Text Slack

/-- An id is not empty and holds neither blanks nor the characters that end it; a name runs to the
closing bracket. -/
structure IsMention (m : Mention) : Prop where
  id_ne : m.id ≠ []
  id_chars : ∀ c ∈ m.id, c ≠ '>' ∧ c ≠ '|' ∧ isBlank c = false
  name_chars : ∀ name, m.name = some name → '>' ∉ name

/-- A link that is shown under a label. -/
structure Link where
  scheme : String
  target : List Char
  label : List Char

def Link.chars (l : Link) : List Char :=
  '<' :: (l.scheme.toList ++ (l.target ++ '|' :: (l.label ++ ['>'])))

/-- The label begins at the first bar, so the target holds none, and the link ends at the first
closing bracket. -/
structure Link.IsLabelled (l : Link) : Prop where
  scheme : l.scheme = "mailto:" ∨ l.scheme = "http://" ∨ l.scheme = "https://"
  target : ∀ c ∈ l.target, c ≠ '|' ∧ c ≠ '>'
  label : '>' ∉ l.label

/-! ### Mentions -/

section Mentions

variable {m : Mention} {cs rest : List Char}

lemma isIdChar_iff (c : Char) :
    Mention.isIdChar c = true ↔ c ≠ '>' ∧ c ≠ '|' ∧ isBlank c = false := by
  unfold Mention.isIdChar
  rw [Bool.and_eq_true, Bool.and_eq_true, bne_iff_ne, bne_iff_ne, Bool.not_eq_true', and_assoc]

/-- What stands behind the id of a mention, and is followed by the rest of the text. -/
def closing (m : Mention) (rest : List Char) : List Char :=
  match m.name with
  | some name => '|' :: (name ++ '>' :: rest)
  | none => '>' :: rest

lemma chars_append_eq (m : Mention) (rest : List Char) :
    m.chars ++ rest = '<' :: '@' :: (m.id ++ closing m rest) := by
  unfold Mention.chars closing
  cases m.name <;> simp

/-- The id of a mention ends where a bar or a closing bracket follows. -/
lemma exists_closing (m : Mention) (rest : List Char) :
    ∃ stop more, closing m rest = stop :: more ∧ Mention.isIdChar stop = false := by
  unfold closing
  cases m.name with
  | none => exact ⟨_, _, rfl, by decide⟩
  | some name => exact ⟨_, _, rfl, by decide⟩

lemma IsMention.isIdChar (hm : IsMention m) : ∀ c ∈ m.id, Mention.isIdChar c = true :=
  fun c hc => (isIdChar_iff c).mpr (hm.id_chars c hc)

/-- A mention ends at its only closing bracket. -/
lemma exists_body (hm : IsMention m) : ∃ body, m.chars = '<' :: (body ++ ['>']) ∧ '>' ∉ body := by
  have hid : '>' ∉ m.id := fun hmem => (hm.id_chars '>' hmem).1 rfl
  unfold Mention.chars
  cases hname : m.name with
  | none =>
    refine ⟨'@' :: m.id, by simp, ?_⟩
    rw [List.mem_cons, not_or]
    exact ⟨by decide, hid⟩
  | some name =>
    refine ⟨'@' :: (m.id ++ '|' :: name), by simp, ?_⟩
    simp [hid, hm.name_chars name hname]

lemma read?_mention_chars (hm : IsMention m) (rest : List Char) :
    Mention.read? (m.chars ++ rest) = some (m, rest) := by
  obtain ⟨stop, more, hclosing, hstop⟩ := exists_closing m rest
  obtain ⟨htake, hdrop⟩ := takeWhile_dropWhile_of_stop hm.isIdChar hstop more
  rw [chars_append_eq, Mention.read?]
  simp only [hclosing, htake, hdrop, if_neg hm.id_ne]
  unfold closing at hclosing
  obtain ⟨id, name⟩ := m
  cases name with
  | none =>
    cases hclosing
    rfl
  | some name =>
    cases hclosing
    have hname : ∀ c ∈ name, (c != '>') = true := bne_of_notMem (hm.name_chars name rfl)
    obtain ⟨htake', hdrop'⟩ :=
      takeWhile_dropWhile_of_stop hname (bne_self_eq_false '>') rest
    simp only [htake', hdrop']

lemma isMention_of_read? (h : Mention.read? cs = some (m, rest)) : IsMention m := by
  have hid : ∀ tail : List Char, ∀ c ∈ tail.takeWhile Mention.isIdChar,
      c ≠ '>' ∧ c ≠ '|' ∧ isBlank c = false :=
    fun tail c hc => (isIdChar_iff c).mp (List.mem_takeWhile_imp hc)
  unfold Mention.read? at h
  split at h
  · next tail =>
    dsimp only at h
    split at h
    · cases h
    next hne =>
      split at h
      · cases h
        exact ⟨hne, hid tail, fun name hname => nomatch hname⟩
      · next named hd =>
        split at h
        · cases h
          refine ⟨hne, hid tail, ?_⟩
          rintro name ⟨⟩ hmem
          exact absurd (List.mem_takeWhile_imp hmem) (by decide)
        · cases h
      · cases h
  · cases h

/-- A mention is read exactly where one is written. -/
theorem read?_eq_mention_iff :
    Mention.read? cs = some (m, rest) ↔ IsMention m ∧ cs = m.chars ++ rest := by
  constructor
  · intro h
    exact ⟨isMention_of_read? h, Mention.eq_append_of_read? h⟩
  · rintro ⟨hm, rfl⟩
    exact read?_mention_chars hm rest

lemma read?_cons_of_ne {c : Char} (hc : c ≠ '<') : Mention.read? (c :: cs) = none := by
  unfold Mention.read?
  split
  · next h => exact absurd (List.cons.inj h).1 hc
  · rfl

end Mentions

/-! ### Two mentions -/

/-- A mention with the name it is shown under. -/
def annMention : Mention :=
  ⟨['U', '1'], some ['A', 'n', 'n']⟩

/-- A mention by the id alone. -/
def botMention : Mention :=
  ⟨['B', '1'], none⟩

lemma isMention_annMention : IsMention annMention := by
  have hread : Mention.read? annMention.chars = some (annMention, []) := by decide
  exact isMention_of_read? hread

lemma isMention_botMention : IsMention botMention := by
  have hread : Mention.read? botMention.chars = some (botMention, []) := by decide
  exact isMention_of_read? hread

/-! ### Links -/

section Links

variable {l : Link} {cs label after : List Char}

lemma linkStarts_eq : linkStarts =
    ["mailto:", "http://", "https://"].map fun scheme => '<' :: scheme.toList := by
  decide

lemma find?_linkStarts {scheme : String}
    (hscheme : scheme = "mailto:" ∨ scheme = "http://" ∨ scheme = "https://") (tail : List Char) :
    linkStarts.find? (·.isPrefixOf ('<' :: (scheme.toList ++ tail))) =
      some ('<' :: scheme.toList) := by
  rcases hscheme with rfl | rfl | rfl
  · rfl
  · rfl
  · rfl

lemma labelledLink?_chars (hl : l.IsLabelled) (after : List Char) :
    labelledLink? (l.chars ++ after) = some (l.label, after) := by
  have htarget : ∀ c ∈ l.target, (c != '|' && c != '>') = true := by
    intro c hc
    rw [Bool.and_eq_true, bne_iff_ne, bne_iff_ne]
    exact hl.target c hc
  have hlabel : ∀ c ∈ l.label, (c != '>') = true := bne_of_notMem hl.label
  have hchars : l.chars ++ after =
      '<' :: (l.scheme.toList ++ (l.target ++ '|' :: (l.label ++ '>' :: after))) := by
    unfold Link.chars
    simp
  have hdrop : ('<' :: (l.scheme.toList ++ (l.target ++ '|' :: (l.label ++ '>' :: after)))).drop
      ('<' :: l.scheme.toList).length = l.target ++ '|' :: (l.label ++ '>' :: after) := by
    rw [← List.cons_append, List.drop_left]
  obtain ⟨-, hbar⟩ := takeWhile_dropWhile_of_stop htarget
    (show ('|' != '|' && '|' != '>') = false by decide) (l.label ++ '>' :: after)
  obtain ⟨htake, hclose⟩ := takeWhile_dropWhile_of_stop hlabel
    (bne_self_eq_false '>') after
  rw [hchars, labelledLink?]
  simp only [find?_linkStarts hl.scheme, hdrop, hbar, hclose, htake]

/-- The label of a link is read exactly where a link with that label is written. -/
theorem labelledLink?_eq_some_iff :
    labelledLink? cs = some (label, after) ↔
      ∃ l : Link, l.IsLabelled ∧ l.label = label ∧ cs = l.chars ++ after := by
  constructor
  · intro h
    unfold labelledLink? at h
    split at h
    · cases h
    next start hstart =>
      have hprefix : start.isPrefixOf cs = true := by
        have hfound := List.find?_some hstart
        exact hfound
      obtain ⟨tail, rfl⟩ := List.isPrefixOf_iff_prefix.mp hprefix
      have hmem := List.mem_of_find?_eq_some hstart
      rw [linkStarts_eq, List.mem_map] at hmem
      obtain ⟨scheme, hscheme, rfl⟩ := hmem
      rw [List.drop_left] at h
      split at h
      · next rest hrest =>
        split at h
        · next after' hafter =>
          cases h
          have htarget := List.takeWhile_append_dropWhile (p := fun c => c != '|' && c != '>')
            (l := tail)
          have hlabel := List.takeWhile_append_dropWhile (p := (· != '>')) (l := rest)
          rw [hrest] at htarget
          rw [hafter] at hlabel
          refine ⟨⟨scheme, tail.takeWhile fun c => c != '|' && c != '>',
            rest.takeWhile (· != '>')⟩, ⟨by simpa using hscheme, ?_, ?_⟩, rfl, ?_⟩
          · intro c hc
            simpa using List.mem_takeWhile_imp hc
          · intro hmem
            exact absurd (List.mem_takeWhile_imp hmem) (by decide)
          · unfold Link.chars
            simp only [List.cons_append, List.append_assoc, List.nil_append, hlabel, htarget]
        · cases h
      · cases h
  · rintro ⟨l, hl, rfl, rfl⟩
    exact labelledLink?_chars hl after

end Links

end SlackBridge.Proofs
