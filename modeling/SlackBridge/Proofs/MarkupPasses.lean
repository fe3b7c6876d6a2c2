import SlackBridge.Proofs.Markup
import SlackBridge.Proofs.Trimming

/-!
# The passes over a text

The first pass takes the mentions of the bot out of a text and the second the markup of links. Both
copy a text character by character, except where a mention or a link begins; the equations here say
so without the accumulators.
-/

namespace SlackBridge.Proofs

open Text Slack

/-! ### The first pass -/

section Pass

variable {isBot : List Char → Bool} {cs after : List Char} {m : Mention}

lemma dropMentionsFrom_mention (done : List Char)
    (h : Mention.read? (cs.dropWhile isBlank) = some (m, after)) :
    dropMentionsFrom isBot done cs =
      dropMentionsFrom isBot
        ((if isBot m.id then [' ']
          else cs.takeWhile isBlank ++ m.chars ++ after.takeWhile isBlank).reverse ++ done)
        (after.dropWhile isBlank) := by
  rw [dropMentionsFrom]
  split
  · next m' after' h' =>
    cases h.symm.trans h'
    rfl
  · next h' => cases h.symm.trans h'

lemma dropMentionsFrom_blank (done : List Char) (h : cs.dropWhile isBlank = []) :
    dropMentionsFrom isBot done cs = ((cs.takeWhile isBlank).reverse ++ done).reverse := by
  have hnone : Mention.read? (cs.dropWhile isBlank) = none := by
    rw [h]
    rfl
  rw [dropMentionsFrom]
  split
  · next h' => cases hnone.symm.trans h'
  · split
    · rfl
    · next h' => cases h.symm.trans h'

lemma dropMentionsFrom_other (done : List Char) {c : Char} {rest : List Char}
    (h : Mention.read? (cs.dropWhile isBlank) = none) (hr : cs.dropWhile isBlank = c :: rest) :
    dropMentionsFrom isBot done cs =
      dropMentionsFrom isBot (c :: ((cs.takeWhile isBlank).reverse ++ done)) rest := by
  rw [dropMentionsFrom]
  split
  · next h' => cases h.symm.trans h'
  · split
    · next h' => cases hr.symm.trans h'
    · next h' =>
      cases hr.symm.trans h'
      rfl

/-- What has been passed over stays in front. -/
lemma dropMentionsFrom_append (done extra cs : List Char) :
    dropMentionsFrom isBot (done ++ extra) cs =
      extra.reverse ++ dropMentionsFrom isBot done cs := by
  fun_induction dropMentionsFrom isBot done cs with
  | case1 done cs m after h kept ih =>
    rw [dropMentionsFrom_mention _ h, ← ih, List.append_assoc kept.reverse done extra]
    rfl
  | case2 done cs h hr =>
    rw [dropMentionsFrom_blank _ hr, ← List.append_assoc, List.reverse_append]
  | case3 done cs h c rest hr ih =>
    rw [dropMentionsFrom_other _ h hr, ← ih, List.cons_append, List.append_assoc]

lemma dropMentionsFrom_eq (done cs : List Char) :
    dropMentionsFrom isBot done cs = done.reverse ++ dropMentions isBot cs :=
  dropMentionsFrom_append [] done cs

/-! ### Mentions and the blanks around them -/

lemma startsSolid_chars (m : Mention) (rest : List Char) : StartsSolid (m.chars ++ rest) := by
  rw [chars_append_eq]
  rintro c ⟨⟩
  decide

variable {run rest : List Char}

/-- No mention begins in a run without an opening bracket, unless one follows after blanks only. -/
lemma read?_dropWhile_append (hne : run ≠ []) (hrun : '<' ∉ run)
    (h : EndsSolid run ∨ Mention.read? (rest.dropWhile isBlank) = none) :
    Mention.read? ((run ++ rest).dropWhile isBlank) = none := by
  by_cases hall : ∀ c ∈ run, isBlank c = true
  · rw [List.dropWhile_append_of_pos hall]
    exact h.resolve_left (not_endsSolid_of_blank hne hall)
  · have hkeep : run.dropWhile isBlank ≠ [] := by
      rwa [ne_eq, List.dropWhile_eq_nil_iff]
    obtain ⟨d, tail, hd⟩ := List.exists_cons_of_ne_nil hkeep
    have hmem : d ∈ run := (List.dropWhile_sublist isBlank).subset (hd ▸ List.mem_cons_self)
    have hd' : d ≠ '<' := by
      rintro rfl
      exact hrun hmem
    rw [List.dropWhile_append, hd, List.isEmpty_cons, if_neg Bool.false_ne_true, List.cons_append]
    exact read?_cons_of_ne hd'

lemma dropMentions_blank (h : ∀ c ∈ cs, isBlank c = true) : dropMentions isBot cs = cs := by
  unfold dropMentions
  rw [dropMentionsFrom_blank [] (List.dropWhile_eq_nil_iff.mpr h), List.append_nil,
    List.reverse_reverse, List.takeWhile_eq_self_iff.mpr h]

@[simp] lemma dropMentions_nil : dropMentions isBot [] = [] :=
  dropMentions_blank (List.forall_mem_nil _)

lemma dropMentions_cons {c : Char} (h : Mention.read? ((c :: cs).dropWhile isBlank) = none) :
    dropMentions isBot (c :: cs) = c :: dropMentions isBot cs := by
  cases hblank : isBlank c with
  | false =>
    have hsolid : StartsSolid (c :: cs) := by
      rintro _ ⟨⟩
      exact hblank
    unfold dropMentions
    rw [dropMentionsFrom_other [] h hsolid.dropWhile, hsolid.takeWhile, dropMentionsFrom_eq]
    rfl
  | true =>
    -- the blank is passed over together with those behind it, up to the next other character
    have hdrop : (c :: cs).dropWhile isBlank = cs.dropWhile isBlank :=
      List.dropWhile_cons_of_pos hblank
    have htake : (c :: cs).takeWhile isBlank = c :: cs.takeWhile isBlank :=
      List.takeWhile_cons_of_pos hblank
    unfold dropMentions
    match hr : cs.dropWhile isBlank with
    | [] =>
      rw [dropMentionsFrom_blank [] hr, dropMentionsFrom_blank [] (hdrop.trans hr), htake]
      simp
    | d :: rest =>
      rw [dropMentionsFrom_other [] h (hdrop.trans hr), dropMentionsFrom_other [] (hdrop ▸ h) hr,
        htake, dropMentionsFrom_eq, dropMentionsFrom_eq]
      simp

/-- A run of characters before what is no mention, or that does not end with a blank, stays. -/
lemma dropMentions_append (hrun : '<' ∉ run)
    (h : EndsSolid run ∨ Mention.read? (rest.dropWhile isBlank) = none) :
    dropMentions isBot (run ++ rest) = run ++ dropMentions isBot rest := by
  induction run with
  | nil => rfl
  | cons c tail ih =>
    have htail : '<' ∉ tail := fun hmem => hrun (List.mem_cons_of_mem c hmem)
    have hnone := read?_dropWhile_append (List.cons_ne_nil c tail) hrun h
    rw [List.cons_append] at hnone
    rw [List.cons_append, dropMentions_cons hnone, ih htail (h.imp_left EndsSolid.of_cons),
      List.cons_append]

/-- The blanks that a run ends with go with what follows. -/
lemma dropMentions_run (hrun : '<' ∉ run) (rest : List Char) :
    dropMentions isBot (run ++ rest) =
      dropBlankEnd run ++ dropMentions isBot (run.rtakeWhile isBlank ++ rest) := by
  have hsplit := dropBlankEnd_append_rtakeWhile run
  have hfront : '<' ∉ dropBlankEnd run := by
    rw [← hsplit] at hrun
    exact fun hmem => hrun (List.mem_append_left _ hmem)
  rw [← dropMentions_append hfront (.inl (endsSolid_dropBlankEnd run)), ← List.append_assoc,
    hsplit]

/-- A mention and the blanks around it give way to one blank if it is one of the bot, and stay if
it is not. -/
lemma dropMentions_mention {blank blank' : List Char} (hm : IsMention m)
    (hblank : ∀ c ∈ blank, isBlank c = true) (hblank' : ∀ c ∈ blank', isBlank c = true)
    (hrest : StartsSolid rest) :
    dropMentions isBot (blank ++ (m.chars ++ (blank' ++ rest))) =
      (if isBot m.id then [' '] else blank ++ (m.chars ++ blank')) ++ dropMentions isBot rest := by
  have hsolid := startsSolid_chars m (blank' ++ rest)
  have hread : Mention.read? ((blank ++ (m.chars ++ (blank' ++ rest))).dropWhile isBlank) =
      some (m, blank' ++ rest) := by
    rw [List.dropWhile_append_of_pos hblank, hsolid.dropWhile]
    exact read?_mention_chars hm _
  have htake : (blank ++ (m.chars ++ (blank' ++ rest))).takeWhile isBlank = blank := by
    rw [List.takeWhile_append_of_pos hblank, hsolid.takeWhile, List.append_nil]
  have htake' : (blank' ++ rest).takeWhile isBlank = blank' := by
    rw [List.takeWhile_append_of_pos hblank', hrest.takeWhile, List.append_nil]
  have hdrop' : (blank' ++ rest).dropWhile isBlank = rest := by
    rw [List.dropWhile_append_of_pos hblank', hrest.dropWhile]
  conv_lhs => unfold dropMentions
  rw [dropMentionsFrom_mention [] hread, htake, htake', hdrop', dropMentionsFrom_eq,
    List.append_nil, List.reverse_reverse, List.append_assoc]

end Pass

/-! ### The second pass -/

section Links

variable {cs : List Char}

lemma unwrapLinksFrom_link (done : List Char) {label after : List Char}
    (h : labelledLink? cs = some (label, after)) :
    unwrapLinksFrom done cs = unwrapLinksFrom (label.reverse ++ done) after := by
  rw [unwrapLinksFrom]
  split
  · next h' =>
    cases h.symm.trans h'
    rfl
  · next h' => cases h.symm.trans h'

lemma unwrapLinksFrom_other (done : List Char) {c : Char} (h : labelledLink? (c :: cs) = none) :
    unwrapLinksFrom done (c :: cs) = unwrapLinksFrom (c :: done) cs := by
  rw [unwrapLinksFrom]
  split
  · next h' => cases h.symm.trans h'
  · rfl

lemma unwrapLinksFrom_append (done extra cs : List Char) :
    unwrapLinksFrom (done ++ extra) cs = extra.reverse ++ unwrapLinksFrom done cs := by
  fun_induction unwrapLinksFrom done cs with
  | case1 done cs label after h ih =>
    rw [unwrapLinksFrom_link _ h, ← ih, List.append_assoc]
  | case2 done h =>
    rw [unwrapLinksFrom, List.reverse_append]
    rfl
  | case3 done c rest h ih =>
    rw [unwrapLinksFrom_other _ h, ← ih, List.cons_append]

lemma unwrapLinksFrom_eq (done cs : List Char) :
    unwrapLinksFrom done cs = done.reverse ++ unwrapLinks cs :=
  unwrapLinksFrom_append [] done cs

@[simp] lemma unwrapLinks_nil : unwrapLinks [] = [] := by
  rw [unwrapLinks, unwrapLinksFrom]
  rfl

lemma unwrapLinks_cons {c : Char} (h : labelledLink? (c :: cs) = none) :
    unwrapLinks (c :: cs) = c :: unwrapLinks cs := by
  unfold unwrapLinks
  rw [unwrapLinksFrom_other [] h, unwrapLinksFrom_eq]
  rfl

lemma unwrapLinks_link {l : Link} (hl : l.IsLabelled) (rest : List Char) :
    unwrapLinks (l.chars ++ rest) = l.label ++ unwrapLinks rest := by
  conv_lhs => unfold unwrapLinks
  rw [unwrapLinksFrom_link [] (labelledLink?_chars hl rest), unwrapLinksFrom_eq, List.append_nil,
    List.reverse_reverse]

lemma labelledLink?_cons_of_ne {c : Char} (hc : c ≠ '<') : labelledLink? (c :: cs) = none := by
  rw [Option.eq_none_iff_forall_ne_some]
  rintro ⟨label, after⟩ h
  obtain ⟨l, -, -, hchars⟩ := labelledLink?_eq_some_iff.mp h
  exact hc (List.cons.inj hchars).1

/-- What begins as a mention is no link. -/
lemma labelledLink?_at (cs : List Char) : labelledLink? ('<' :: '@' :: cs) = none := by
  rw [Option.eq_none_iff_forall_ne_some]
  rintro ⟨label, after⟩ h
  obtain ⟨l, hl, -, hchars⟩ := labelledLink?_eq_some_iff.mp h
  have htail := (List.cons.inj hchars).2
  rcases hl.scheme with hs | hs | hs
  · rw [hs] at htail
    cases htail
  · rw [hs] at htail
    cases htail
  · rw [hs] at htail
    cases htail

lemma unwrapLinks_append {run : List Char} (hrun : '<' ∉ run) (rest : List Char) :
    unwrapLinks (run ++ rest) = run ++ unwrapLinks rest := by
  induction run with
  | nil => rfl
  | cons c tail ih =>
    rw [List.mem_cons, not_or] at hrun
    rw [List.cons_append, unwrapLinks_cons (labelledLink?_cons_of_ne (Ne.symm hrun.1)), ih hrun.2,
      List.cons_append]

end Links

/-! ### Both passes -/

/-- Whether an id is one of those that a bot goes under. -/
def isBotOf (botIds : List String) (id : List Char) : Bool :=
  botIds.contains (String.ofList id)

lemma isBotOf_iff (botIds : List String) (id : List Char) :
    isBotOf botIds id = true ↔ String.ofList id ∈ botIds :=
  List.contains_iff_mem

lemma toList_sanitize (botIds : List String) (text : String) :
    (sanitize botIds text).toList =
      trimChars (unwrapLinks (dropMentions (isBotOf botIds) text.toList)) := by
  unfold sanitize
  rw [String.toList_ofList]
  rfl

end SlackBridge.Proofs
