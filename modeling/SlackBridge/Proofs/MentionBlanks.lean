import SlackBridge.Proofs.MarkupPasses

/-!
# The blanks around a mention of the bot

A mention of the bot gives way to one blank, and the blanks around it go along, except those that
stand behind a mention of another user: that one was read with the blanks around it and keeps them.
A text between two mentions of the bot is therefore followed mention by mention, each with the run
before it and the blanks behind it.
-/

namespace SlackBridge.Proofs

open Text Slack

/-! ### Texts that mention others -/

/-- Every opening bracket of the text begins a mention, and the mention is not one of the bot. -/
def MentionsOthers (botIds : List String) (cs : List Char) : Prop :=
  ∀ before after, cs = before ++ '<' :: after →
    ∃ m rest, IsMention m ∧ String.ofList m.id ∉ botIds ∧ '<' :: after = m.chars ++ rest

/-- A mention stands at the end of the text, and no blank behind it. -/
def EndsInMention (cs : List Char) : Prop :=
  ∃ m, IsMention m ∧ m.chars <:+ cs

/-- A text with mentions of others, taken apart: each stands behind a run without any, and before a
run of blanks. -/
inductive Marked (isBot : List Char → Bool) : List Char → Prop
  | plain {run : List Char} (hrun : '<' ∉ run) : Marked isBot run
  | mention {run blank rest : List Char} {m : Mention} (hrun : '<' ∉ run) (hm : IsMention m)
      (hother : isBot m.id = false) (hblank : ∀ c ∈ blank, isBlank c = true)
      (hsolid : StartsSolid rest) (hrest : Marked isBot rest) :
      Marked isBot (run ++ (m.chars ++ (blank ++ rest)))

lemma length_chars_pos (m : Mention) : 0 < m.chars.length :=
  List.length_pos_of_ne_nil (List.cons_ne_nil _ _)

lemma MentionsOthers.of_append {botIds : List String} {front cs : List Char}
    (h : MentionsOthers botIds (front ++ cs)) : MentionsOthers botIds cs := by
  rintro before after rfl
  exact h (front ++ before) after (List.append_assoc ..).symm

lemma marked_of_mentionsOthers {botIds : List String} {cs : List Char}
    (h : MentionsOthers botIds cs) : Marked (isBotOf botIds) cs := by
  -- what follows a mention and the blanks behind it is shorter
  induction hn : cs.length using Nat.strong_induction_on generalizing cs with
  | _ n ih =>
    subst hn
    by_cases hopen : '<' ∈ cs
    · obtain ⟨run, after, rfl, hrun⟩ := List.eq_append_cons_of_mem hopen
      obtain ⟨m, rest, hm, hother, hafter⟩ := h run after rfl
      rw [hafter] at h ih ⊢
      have hblank : ∀ c ∈ rest.takeWhile isBlank, isBlank c = true :=
        fun c hc => List.mem_takeWhile_imp hc
      have hsplit := List.takeWhile_append_dropWhile (p := isBlank) (l := rest)
      have hlater : MentionsOthers botIds (rest.dropWhile isBlank) := by
        have hparts : MentionsOthers botIds
            ((run ++ (m.chars ++ rest.takeWhile isBlank)) ++ rest.dropWhile isBlank) := by
          rwa [List.append_assoc, List.append_assoc, hsplit]
        exact hparts.of_append
      have hshort : (rest.dropWhile isBlank).length < (run ++ (m.chars ++ rest)).length := by
        have hle := (List.dropWhile_sublist (l := rest) isBlank).length_le
        have hpos := length_chars_pos m
        simp only [List.length_append]
        omega
      have hmarked := ih _ hshort hlater rfl
      have hfalse : isBotOf botIds m.id = false := by
        rw [← Bool.not_eq_true, isBotOf_iff]
        exact hother
      have hwhole := Marked.mention hrun hm hfalse hblank (startsSolid_dropWhile rest) hmarked
      rwa [hsplit] at hwhole
    · exact .plain hopen

/-! ### Where a text ends -/

/-- What has `x` at its end only ends behind any other `x`. -/
lemma suffix_of_suffix_cons {α : Type} {x : α} {body front rest : List α} (hbody : x ∉ body)
    (hne : rest ≠ []) (h : body ++ [x] <:+ front ++ x :: rest) : body ++ [x] <:+ rest := by
  obtain ⟨before, h⟩ := h
  obtain hnil | ⟨init, last, rfl⟩ := List.eq_nil_or_concat rest
  · exact absurd hnil hne
  have hends : (before ++ body) ++ [x] = (front ++ x :: init) ++ [last] := by simpa using h
  obtain ⟨hbefore, hlast⟩ := List.append_inj' hends rfl
  rw [List.append_eq_append_iff] at hbefore
  rcases hbefore with ⟨extra, -, rfl⟩ | ⟨extra, rfl, hextra⟩
  · exact absurd (List.mem_append_right _ List.mem_cons_self) hbody
  · cases extra with
    | nil =>
      rw [List.nil_append] at hextra
      rw [← hextra] at hbody
      exact absurd List.mem_cons_self hbody
    | cons y extra =>
      have hinit : init = extra ++ body := (List.cons.inj hextra).2
      rw [hinit, List.concat_eq_append, ← hlast, List.append_assoc]
      exact List.suffix_append _ _

lemma endsInMention_append_iff {run blank rest : List Char} {m : Mention} (hm : IsMention m)
    (hblank : ∀ c ∈ blank, isBlank c = true) (hne : rest ≠ []) :
    EndsInMention (run ++ (m.chars ++ (blank ++ rest))) ↔ EndsInMention rest := by
  constructor
  · rintro ⟨m', hm', hsuffix⟩
    refine ⟨m', hm', ?_⟩
    obtain ⟨body, hchars, -⟩ := exists_body hm
    obtain ⟨body', hchars', hclose⟩ := exists_body hm'
    have hopen : '<' ∉ blank := notMem_of_blank hblank (by decide)
    have hclose' : '>' ∉ '<' :: body' := by
      rw [List.mem_cons, not_or]
      exact ⟨by decide, hclose⟩
    have hshape : run ++ (m.chars ++ (blank ++ rest)) =
        (run ++ '<' :: body) ++ '>' :: (blank ++ rest) := by
      rw [hchars]
      simp
    rw [hshape, hchars', ← List.cons_append] at hsuffix
    have hbehind := suffix_of_suffix_cons hclose' (List.append_ne_nil_of_right_ne_nil _ hne) hsuffix
    rw [hchars']
    exact suffix_of_cons_suffix hopen hbehind
  · rintro ⟨m', hm', hsuffix⟩
    refine ⟨m', hm', hsuffix.trans ?_⟩
    rw [← List.append_assoc, ← List.append_assoc]
    exact List.suffix_append _ _

lemma not_endsInMention_plain {run : List Char} (hrun : '<' ∉ run) : ¬EndsInMention run := by
  rintro ⟨m, -, hsuffix⟩
  exact hrun (hsuffix.subset List.mem_cons_self)

/-! ### The first pass -/

section Pass

variable {isBot : List Char → Bool}

/-- A run that may end with blanks, and a mention that is not one of the bot. -/
lemma dropMentions_other {run blank rest : List Char} {m : Mention} (hrun : '<' ∉ run)
    (hm : IsMention m) (hother : isBot m.id = false) (hblank : ∀ c ∈ blank, isBlank c = true)
    (hsolid : StartsSolid rest) :
    dropMentions isBot (run ++ (m.chars ++ (blank ++ rest))) =
      run ++ (m.chars ++ (blank ++ dropMentions isBot rest)) := by
  have hsplit := dropBlankEnd_append_rtakeWhile run
  have hback : ∀ c ∈ run.rtakeWhile isBlank, isBlank c = true :=
    fun c hc => List.mem_rtakeWhile_imp hc
  rw [dropMentions_run hrun, dropMentions_mention hm hback hblank hsolid, hother,
    if_neg Bool.false_ne_true, List.append_assoc, List.append_assoc,
    ← List.append_assoc (dropBlankEnd run), hsplit]

lemma dropMentions_of_marked {cs : List Char} (h : Marked isBot cs) :
    dropMentions isBot cs = cs := by
  induction h with
  | @plain run hrun =>
    have hkept : dropMentions isBot (run ++ []) = run ++ dropMentions isBot [] :=
      dropMentions_append hrun (.inr rfl)
    rwa [dropMentions_nil, List.append_nil] at hkept
  | mention hrun hm hother hblank hsolid _ ih =>
    rw [dropMentions_other hrun hm hother hblank hsolid, ih]

/-- A mention of the bot takes the blanks behind it along, and those before it unless a mention of
another stands there. -/
lemma exists_kept {p blank blank' q : List Char} {m : Mention} (hp : Marked isBot p)
    (hend : EndsSolid p) (hm : IsMention m) (hbot : isBot m.id = true)
    (hblank : ∀ c ∈ blank, isBlank c = true) (hblank' : ∀ c ∈ blank', isBlank c = true)
    (hq : StartsSolid q) :
    ∃ kept, dropMentions isBot (p ++ (blank ++ (m.chars ++ (blank' ++ q)))) =
        p ++ (kept ++ ' ' :: dropMentions isBot q) ∧
      (EndsInMention p → kept = blank) ∧ (¬EndsInMention p → kept = []) := by
  induction hp with
  | @plain run hrun =>
    refine ⟨[], ?_, fun h => absurd h (not_endsInMention_plain hrun), fun _ => rfl⟩
    rw [dropMentions_append hrun (.inl hend), dropMentions_mention hm hblank hblank' hq, hbot,
      if_pos rfl]
    rfl
  | @mention run between rest other hrun hother hnot hbetween hsolid hrest ih =>
    by_cases hne : rest = []
    · -- nothing stands between the two mentions but blanks, and the first one takes them
      subst hne
      rw [List.append_nil, ← List.append_assoc] at hend
      have hbetweenNil := hend.eq_nil_of_append hbetween
      subst hbetweenNil
      have hlast : EndsInMention (run ++ (other.chars ++ ([] ++ []))) :=
        ⟨other, hother, by simp⟩
      refine ⟨blank, ?_, fun _ => rfl, fun h => absurd hlast h⟩
      have hown : dropMentions isBot ([] ++ (m.chars ++ (blank' ++ q))) = _ :=
        dropMentions_mention hm (List.forall_mem_nil _) hblank' hq
      rw [List.nil_append, hbot, if_pos rfl] at hown
      have hpass := dropMentions_other hrun hother hnot hblank (startsSolid_chars m (blank' ++ q))
      rw [hown] at hpass
      simpa using hpass
    · have hstart : ∀ tail, StartsSolid (rest ++ tail) := by
        intro tail c hc
        apply hsolid
        obtain ⟨first, more, rfl⟩ := List.exists_cons_of_ne_nil hne
        exact hc
      have hendRest : EndsSolid rest := by
        have hparts : EndsSolid ((run ++ (other.chars ++ between)) ++ rest) := by
          simpa using hend
        exact hparts.of_append
      obtain ⟨kept, hkept, hyes, hno⟩ := ih hendRest
      refine ⟨kept, ?_, ?_, ?_⟩
      · have hpass := dropMentions_other hrun hother hnot hbetween
          (hstart (blank ++ (m.chars ++ (blank' ++ q))))
        rw [hkept] at hpass
        simpa using hpass
      · rwa [endsInMention_append_iff hother hbetween hne]
      · rwa [endsInMention_append_iff hother hbetween hne]

end Pass

/-! ### The second pass -/

/-- An at sign follows every opening bracket. -/
def OpensMentions (cs : List Char) : Prop :=
  ∀ before after, cs = before ++ '<' :: after → ∃ rest, after = '@' :: rest

lemma opensMentions_of_notMem {cs : List Char} (h : '<' ∉ cs) : OpensMentions cs := by
  rintro before after rfl
  exact absurd (List.mem_append_right _ List.mem_cons_self) h

lemma MentionsOthers.opensMentions {botIds : List String} {cs : List Char}
    (h : MentionsOthers botIds cs) : OpensMentions cs := by
  intro before after hcs
  obtain ⟨m, rest, -, -, hafter⟩ := h before after hcs
  rw [chars_append_eq] at hafter
  exact ⟨_, (List.cons.inj hafter).2⟩

lemma OpensMentions.append {cs ds : List Char} (hc : OpensMentions cs) (hd : OpensMentions ds) :
    OpensMentions (cs ++ ds) := by
  intro before after h
  rw [List.append_eq_append_iff] at h
  rcases h with ⟨extra, -, rfl⟩ | ⟨extra, rfl, hextra⟩
  · exact hd extra after rfl
  · cases extra with
    | nil => exact hd [] after hextra.symm
    | cons c extra =>
      obtain ⟨rfl, rfl⟩ := List.cons.inj hextra
      obtain ⟨rest, rfl⟩ := hc before extra rfl
      exact ⟨rest ++ ds, rfl⟩

lemma unwrapLinks_of_opensMentions {cs : List Char} (h : OpensMentions cs) :
    unwrapLinks cs = cs := by
  induction cs with
  | nil => exact unwrapLinks_nil
  | cons c tail ih =>
    have htail : OpensMentions tail := by
      rintro before after rfl
      exact h (c :: before) after rfl
    have hnone : labelledLink? (c :: tail) = none := by
      by_cases hc : c = '<'
      · subst hc
        obtain ⟨rest, rfl⟩ := h [] tail rfl
        exact labelledLink?_at rest
      · exact labelledLink?_cons_of_ne hc
    rw [unwrapLinks_cons hnone, ih htail]

/-! ### Both passes -/

/-- A mention of the bot, with the blanks around it, gives way to one blank, unless a mention of
another user stands right before: the blanks between the two belong to that one, and are kept beside
the blank. So one blank is left exactly if nothing was between the two or nothing follows. -/
theorem sanitize_around_mention {botIds : List String} {m : Mention} (hm : IsMention m)
    (hbot : String.ofList m.id ∈ botIds) {p q blank blank' : String}
    (hp : MentionsOthers botIds p.toList) (hq : MentionsOthers botIds q.toList)
    (hend : EndsSolid p.toList) (hstart : StartsSolid q.toList)
    (hblank : isBlankText blank = true) (hblank' : isBlankText blank' = true) :
    let text := p ++ blank ++ String.ofList m.chars ++ blank' ++ q
    (EndsInMention p.toList → sanitize botIds text = trim (p ++ blank ++ " " ++ q)) ∧
    (¬EndsInMention p.toList → sanitize botIds text = trim (p ++ " " ++ q)) ∧
    (sanitize botIds text = trim (p ++ " " ++ q) ↔
      (EndsInMention p.toList → blank = "" ∨ q = "")) := by
  intro text
  have hblanks : ∀ c ∈ blank.toList, isBlank c = true := List.all_eq_true.mp hblank
  have hblanks' : ∀ c ∈ blank'.toList, isBlank c = true := List.all_eq_true.mp hblank'
  obtain ⟨kept, hkept, hyes, hno⟩ := exists_kept (marked_of_mentionsOthers hp) hend hm
    ((isBotOf_iff botIds m.id).mpr hbot) hblanks hblanks' hstart
  have hquiet : '<' ∉ kept := by
    by_cases hmention : EndsInMention p.toList
    · rw [hyes hmention]
      exact notMem_of_blank hblanks (by decide)
    · rw [hno hmention]
      exact List.not_mem_nil
  have hopens : OpensMentions (p.toList ++ (kept ++ ' ' :: q.toList)) := by
    have hblankOpens : OpensMentions (kept ++ [' ']) :=
      opensMentions_of_notMem (by simpa using hquiet)
    have hall := hp.opensMentions.append (hblankOpens.append hq.opensMentions)
    simpa using hall
  have htext : text.toList =
      p.toList ++ (blank.toList ++ (m.chars ++ (blank'.toList ++ q.toList))) := by
    simp [text]
  have hresult : sanitize botIds text =
      String.ofList (trimChars (p.toList ++ (kept ++ ' ' :: q.toList))) := by
    rw [← String.toList_inj, toList_sanitize, String.toList_ofList, htext, hkept,
      dropMentions_of_marked (marked_of_mentionsOthers hq), unwrapLinks_of_opensMentions hopens]
  have hone : trim (p ++ " " ++ q) = String.ofList (trimChars (p.toList ++ ' ' :: q.toList)) := by
    simp [trim]
  refine ⟨fun hmention => ?_, fun hmention => ?_, ?_⟩
  · rw [hresult, hyes hmention]
    simp [trim]
  · rw [hresult, hno hmention, hone]
    rfl
  · rw [hresult, hone, String.ofList_inj]
    by_cases hmention : EndsInMention p.toList
    · have hne : p.toList ≠ [] := by
        obtain ⟨other, -, hsuffix⟩ := hmention
        rintro hnil
        rw [hnil] at hsuffix
        exact List.cons_ne_nil _ _ (List.suffix_nil.mp hsuffix)
      rw [hyes hmention, trimChars_append_inj hne hend hstart hblanks]
      simp [hmention]
    · rw [hno hmention]
      simp [hmention]

/-! ### Two neighbours -/

lemma mentionsOthers_of_notMem {botIds : List String} {cs : List Char} (h : '<' ∉ cs) :
    MentionsOthers botIds cs := by
  rintro before after rfl
  exact absurd (List.mem_append_right _ List.mem_cons_self) h

lemma mentionsOthers_chars_append {botIds : List String} {m : Mention} {rest : List Char}
    (hm : IsMention m) (hother : String.ofList m.id ∉ botIds)
    (hrest : '<' ∉ m.chars.tail ++ rest) : MentionsOthers botIds (m.chars ++ rest) := by
  intro before after h
  cases before with
  | nil => exact ⟨m, rest, hm, hother, h.symm⟩
  | cons c before =>
    have htail : m.chars.tail ++ rest = before ++ '<' :: after := (List.cons.inj h).2
    rw [htail] at hrest
    exact absurd (List.mem_append_right _ List.mem_cons_self) hrest

lemma mentionsOthers_ann : MentionsOthers ["B1"] "<@U1|Ann>".toList :=
  mentionsOthers_chars_append isMention_annMention (by decide) (by decide : '<' ∉ _ ++ [])

lemma mentionsOthers_annSays : MentionsOthers ["B1"] "<@U1|Ann>: hi".toList :=
  mentionsOthers_chars_append isMention_annMention (by decide)
    (by decide : '<' ∉ _ ++ ": hi".toList)

lemma endsSolid_ann : EndsSolid "<@U1|Ann>".toList := by
  rintro c ⟨⟩
  decide

theorem sanitize_around_mention_of_neighbours :
    MentionsOthers ["B1"] "<@U1|Ann>".toList ∧ MentionsOthers ["B1"] "<@U1|Ann>: hi".toList ∧
    sanitize ["B1"] "<@U1|Ann>\t<@B1>\n\n<@U1|Ann>: hi" = "<@U1|Ann>\t <@U1|Ann>: hi" := by
  have hstart : StartsSolid "<@U1|Ann>: hi".toList := startsSolid_chars annMention ": hi".toList
  have hresult := (sanitize_around_mention isMention_botMention (by decide) mentionsOthers_ann
    mentionsOthers_annSays endsSolid_ann hstart (show isBlankText "\t" = true by decide)
    (show isBlankText "\n\n" = true by decide)).1
    ⟨annMention, isMention_annMention, List.suffix_refl _⟩
  exact ⟨mentionsOthers_ann, mentionsOthers_annSays, hresult.trans (by decide)⟩

/-- A blank between a mention of another user and one of the bot is kept beside the one blank. -/
theorem two_blanks_behind_other_mention :
    IsMention botMention ∧ String.ofList botMention.id ∈ ["B1"] ∧
    MentionsOthers ["B1"] "<@U1|Ann>".toList ∧ MentionsOthers ["B1"] "hi".toList ∧
    EndsSolid "<@U1|Ann>".toList ∧ StartsSolid "hi".toList ∧
    sanitize ["B1"] ("<@U1|Ann>" ++ " " ++ String.ofList botMention.chars ++ " " ++ "hi") =
      "<@U1|Ann>  hi" ∧
    trim ("<@U1|Ann>" ++ " " ++ "hi") = "<@U1|Ann> hi" := by
  have hstart : StartsSolid "hi".toList := by
    rintro c ⟨⟩
    decide
  exact ⟨isMention_botMention, by decide, mentionsOthers_ann,
    mentionsOthers_of_notMem (by decide), endsSolid_ann, hstart, by decide +kernel, by decide⟩

end SlackBridge.Proofs
