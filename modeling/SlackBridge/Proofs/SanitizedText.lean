import SlackBridge.Proofs.MarkupPasses

/-!
# What is left of a text

A text is taken as a sequence of runs, mentions, labelled links and other tokens in angle brackets.
Both passes work segment by segment: the first takes out the mentions of the bot and loses blanks
besides, the second puts labels in place of links, and neither makes markup that was not there. So
the characters that are not blank can be told from the segments.
-/

namespace SlackBridge.Proofs

open Text Slack

/-- What stands between the brackets of a token that is neither a mention nor a labelled link. -/
structure IsOther (inside : List Char) : Prop where
  hopen : '<' ∉ inside
  hclose : '>' ∉ inside
  ne_mention : ∀ m : Mention, IsMention m → m.chars ≠ '<' :: (inside ++ ['>'])
  ne_link : ∀ l : Link, l.IsLabelled → l.chars ≠ '<' :: (inside ++ ['>'])

/-- A piece of a text. No opening bracket stands inside one. -/
inductive Segment
  | run (cs : List Char) (hopen : '<' ∉ cs)
  | mention (m : Mention) (hm : IsMention m) (hopen : '<' ∉ m.chars.tail)
  | link (l : Link) (hl : l.IsLabelled) (hopen : '<' ∉ l.chars.tail)
  | other (inside : List Char) (h : IsOther inside)

namespace Segment

def chars : Segment → List Char
  | run cs _ => cs
  | mention m _ _ => m.chars
  | link l _ _ => l.chars
  | other inside _ => '<' :: (inside ++ ['>'])

/-- What is to be left of a segment, apart from blanks. -/
def kept (isBot : List Char → Bool) : Segment → List Char
  | run cs _ => cs
  | mention m _ _ => if isBot m.id then [] else m.chars
  | link l _ _ => l.label
  | other inside _ => '<' :: (inside ++ ['>'])

def MentionsBot (isBot : List Char → Bool) : Segment → Prop
  | mention m _ _ => isBot m.id = true
  | _ => False

end Segment

/-- The text that is made of the segments. -/
def written (ss : List Segment) : List Char :=
  ss.flatMap Segment.chars

/-- The characters that are to be left of the segments, without the blanks. -/
def shown (isBot : List Char → Bool) (ss : List Segment) : List Char :=
  ss.flatMap fun s => visible (s.kept isBot)

section Segments

variable (isBot : List Char → Bool) (s : Segment) (ss : List Segment)

@[simp] lemma written_nil : written [] = [] :=
  rfl

@[simp] lemma written_cons : written (s :: ss) = s.chars ++ written ss :=
  rfl

@[simp] lemma shown_cons : shown isBot (s :: ss) = visible (s.kept isBot) ++ shown isBot ss :=
  rfl

end Segments

/-! ### Tokens -/

section Tokens

variable {inside rest : List Char} {l : Link}

/-- A token ends at its first closing bracket, so it is told from the text that it begins. -/
lemma eq_body_of_append {body after : List Char} (hinside : '>' ∉ inside) (hbody : '>' ∉ body)
    (h : '<' :: (inside ++ '>' :: rest) = '<' :: (body ++ ['>']) ++ after) : inside = body := by
  have htail : inside ++ '>' :: rest = body ++ '>' :: after := by simpa using h
  exact (append_cons_inj_of_first hinside hbody htail).1

/-- A link ends at its only closing bracket. -/
lemma Link.exists_body (hl : l.IsLabelled) :
    ∃ body, l.chars = '<' :: (body ++ ['>']) ∧ '>' ∉ body := by
  have hscheme : '>' ∉ l.scheme.toList := by
    rcases hl.scheme with h | h | h <;> rw [h] <;> decide
  have htarget : '>' ∉ l.target := fun hmem => (hl.target '>' hmem).2 rfl
  refine ⟨l.scheme.toList ++ (l.target ++ '|' :: l.label), by simp [Link.chars], ?_⟩
  simp [hscheme, htarget, hl.label]

lemma read?_link (hl : l.IsLabelled) (rest : List Char) :
    Mention.read? (l.chars ++ rest) = none := by
  rw [Option.eq_none_iff_forall_ne_some]
  rintro ⟨m, after⟩ h
  obtain ⟨-, hchars⟩ := read?_eq_mention_iff.mp h
  have hlabel := labelledLink?_chars hl rest
  rw [hchars, chars_append_eq, labelledLink?_at] at hlabel
  cases hlabel

lemma read?_other (h : IsOther inside) (rest : List Char) :
    Mention.read? ('<' :: (inside ++ '>' :: rest)) = none := by
  rw [Option.eq_none_iff_forall_ne_some]
  rintro ⟨m, after⟩ hread
  obtain ⟨hm, hchars⟩ := read?_eq_mention_iff.mp hread
  obtain ⟨body, hbody, hclose⟩ := exists_body hm
  rw [hbody] at hchars
  obtain rfl := eq_body_of_append h.hclose hclose hchars
  exact h.ne_mention m hm hbody

lemma labelledLink?_other (h : IsOther inside) (rest : List Char) :
    labelledLink? ('<' :: (inside ++ '>' :: rest)) = none := by
  rw [Option.eq_none_iff_forall_ne_some]
  rintro ⟨label, after⟩ hread
  obtain ⟨l, hl, -, hchars⟩ := labelledLink?_eq_some_iff.mp hread
  obtain ⟨body, hbody, hclose⟩ := Link.exists_body hl
  rw [hbody] at hchars
  obtain rfl := eq_body_of_append h.hclose hclose hchars
  exact h.ne_link l hl hbody

lemma isOther_of_read? (hopen : '<' ∉ inside) (hclose : '>' ∉ inside)
    (hmention : Mention.read? ('<' :: (inside ++ ['>'])) = none)
    (hlink : labelledLink? ('<' :: (inside ++ ['>'])) = none) : IsOther inside where
  hopen := hopen
  hclose := hclose
  ne_mention m hm hchars := by
    have hread := read?_mention_chars hm []
    rw [List.append_nil, hchars, hmention] at hread
    cases hread
  ne_link l hl hchars := by
    have hread := labelledLink?_chars hl []
    rw [List.append_nil, hchars, hlink] at hread
    cases hread

end Tokens

/-! ### The first pass -/

section Pass

variable {isBot : List Char → Bool} {content out cs : List Char}

/-- The text is made of segments that show the content, and none of them mentions the bot. -/
def Leaves (isBot : List Char → Bool) (content out : List Char) : Prop :=
  ∃ ss : List Segment,
    out = written ss ∧ (∀ s ∈ ss, ¬s.MentionsBot isBot) ∧ shown isBot ss = content

lemma Leaves.nil : Leaves isBot [] [] :=
  ⟨[], rfl, (fun _ hs => by cases hs), rfl⟩

lemma Leaves.cons {s : Segment} (hs : ¬s.MentionsBot isBot) (h : Leaves isBot content out) :
    Leaves isBot (visible (s.kept isBot) ++ content) (s.chars ++ out) := by
  obtain ⟨ss, rfl, hss, rfl⟩ := h
  refine ⟨s :: ss, rfl, ?_, rfl⟩
  intro t ht
  rcases List.mem_cons.mp ht with rfl | ht
  · exact hs
  · exact hss t ht

lemma Leaves.run (hopen : '<' ∉ cs) (h : Leaves isBot content out) :
    Leaves isBot (visible cs ++ content) (cs ++ out) :=
  h.cons (s := .run cs hopen) id

lemma Leaves.blank (hblank : ∀ c ∈ cs, isBlank c = true) (h : Leaves isBot content out) :
    Leaves isBot content (cs ++ out) := by
  have hopen : '<' ∉ cs := notMem_of_blank hblank (by decide)
  have hcons := h.run hopen
  rwa [visible_of_blank hblank, List.nil_append] at hcons

/-- A token that is no mention stays, and so do the blanks before it. -/
lemma dropMentions_token {blank body : List Char} (hblank : ∀ c ∈ blank, isBlank c = true)
    (hopen : '<' ∉ body) {rest : List Char}
    (hread : Mention.read? ('<' :: (body ++ '>' :: rest)) = none) :
    dropMentions isBot (blank ++ '<' :: (body ++ '>' :: rest)) =
      blank ++ '<' :: (body ++ '>' :: dropMentions isBot rest) := by
  have hquiet : '<' ∉ blank := notMem_of_blank hblank (by decide)
  have hnone : Mention.read? (('<' :: (body ++ '>' :: rest)).dropWhile isBlank) = none := by
    rwa [List.dropWhile_cons_of_neg (by decide)]
  have htail : '<' ∉ body ++ ['>'] := by
    simpa using hopen
  have hsolid : EndsSolid (body ++ ['>']) := by
    intro c hc
    rw [List.getLast?_append] at hc
    cases hc
    decide
  have hafter : body ++ '>' :: rest = (body ++ ['>']) ++ rest := by simp
  rw [dropMentions_append hquiet (.inr hnone), dropMentions_cons hnone, hafter,
    dropMentions_append htail (.inl hsolid)]
  simp

/-- What the first pass leaves of the segments, whatever blanks stand before them and also if those
that they begin with are taken away. -/
def PassLeaves (isBot : List Char → Bool) (ss : List Segment) : Prop :=
  (∀ blank : List Char, (∀ c ∈ blank, isBlank c = true) →
    Leaves isBot (shown isBot ss) (dropMentions isBot (blank ++ written ss))) ∧
  Leaves isBot (shown isBot ss) (dropMentions isBot ((written ss).dropWhile isBlank))

variable {s : Segment} {ss : List Segment}

/-- No blanks are taken away from what begins with a bracket. -/
lemma PassLeaves.of_bracket {tail : List Char} (hchars : s.chars = '<' :: tail)
    (h : ∀ blank : List Char, (∀ c ∈ blank, isBlank c = true) →
      Leaves isBot (shown isBot (s :: ss)) (dropMentions isBot (blank ++ written (s :: ss)))) :
    PassLeaves isBot (s :: ss) := by
  refine ⟨h, ?_⟩
  have hkept : (written (s :: ss)).dropWhile isBlank = [] ++ written (s :: ss) := by
    rw [written_cons, hchars, List.cons_append, List.dropWhile_cons_of_neg (by decide),
      List.nil_append]
  rw [hkept]
  exact h [] (List.forall_mem_nil _)

lemma passLeaves_token {body : List Char} (hchars : s.chars = '<' :: (body ++ ['>']))
    (hopen : '<' ∉ body) (hs : ¬s.MentionsBot isBot)
    (hread : Mention.read? ('<' :: (body ++ '>' :: written ss)) = none)
    (ih : PassLeaves isBot ss) : PassLeaves isBot (s :: ss) := by
  refine .of_bracket hchars fun blank hblank => ?_
  have hwritten : written (s :: ss) = '<' :: (body ++ '>' :: written ss) := by
    simp [hchars]
  have hkept : '<' :: (body ++ '>' :: dropMentions isBot (written ss)) =
      s.chars ++ dropMentions isBot ([] ++ written ss) := by
    rw [hchars]
    simp
  rw [hwritten, dropMentions_token hblank hopen hread, hkept]
  exact ((ih.1 [] (List.forall_mem_nil _)).cons hs).blank hblank

/-- A mention of the bot takes the blanks around it along, another one keeps them. -/
lemma passLeaves_mention {m : Mention} (hm : IsMention m) (hopen : '<' ∉ m.chars.tail)
    (ih : PassLeaves isBot ss) : PassLeaves isBot (.mention m hm hopen :: ss) := by
  refine .of_bracket rfl fun blank hblank => ?_
  have hbehind : ∀ c ∈ (written ss).takeWhile isBlank, isBlank c = true :=
    fun c hc => List.mem_takeWhile_imp hc
  have hwritten : written (.mention m hm hopen :: ss) =
      m.chars ++ ((written ss).takeWhile isBlank ++ (written ss).dropWhile isBlank) := by
    rw [List.takeWhile_append_dropWhile]
    rfl
  rw [hwritten, dropMentions_mention hm hblank hbehind (startsSolid_dropWhile _)]
  cases hbot : isBot m.id with
  | true =>
    have hshown : shown isBot (.mention m hm hopen :: ss) = shown isBot ss := by
      simp [Segment.kept, hbot, visible]
    rw [hshown, if_pos rfl]
    refine ih.2.blank fun c hc => ?_
    rw [List.mem_singleton.mp hc]
    decide
  | false =>
    have hs : ¬(Segment.mention m hm hopen).MentionsBot isBot := by
      simp [Segment.MentionsBot, hbot]
    have hafter := ((ih.2.blank hbehind).cons hs).blank hblank
    rw [if_neg Bool.false_ne_true, List.append_assoc, List.append_assoc]
    exact hafter

lemma leaves_run (hopen : '<' ∉ cs) (ih : PassLeaves isBot ss) :
    Leaves isBot (visible cs ++ shown isBot ss) (dropMentions isBot (cs ++ written ss)) := by
  have hback := ih.1 (cs.rtakeWhile isBlank) fun c hc => List.mem_rtakeWhile_imp hc
  have hfront : '<' ∉ dropBlankEnd cs :=
    fun hmem => hopen ((List.rdropWhile_prefix isBlank cs).subset hmem)
  rw [dropMentions_run hopen, ← visible_dropBlankEnd]
  exact hback.run hfront

lemma passLeaves_run (hopen : '<' ∉ cs) (ih : PassLeaves isBot ss) :
    PassLeaves isBot (.run cs hopen :: ss) := by
  constructor
  · intro blank hblank
    have hquiet : '<' ∉ blank ++ cs := by
      rw [List.mem_append, not_or]
      exact ⟨notMem_of_blank hblank (by decide), hopen⟩
    have hleaves := leaves_run hquiet ih
    rw [visible_append, visible_of_blank hblank, List.nil_append, List.append_assoc] at hleaves
    exact hleaves
  · have hwritten : written (.run cs hopen :: ss) = cs ++ written ss := rfl
    rw [hwritten]
    by_cases hall : ∀ c ∈ cs, isBlank c = true
    · have hshown : shown isBot (.run cs hopen :: ss) = shown isBot ss := by
        simp [Segment.kept, visible_of_blank hall]
      rw [hshown, List.dropWhile_append_of_pos hall]
      exact ih.2
    · have hkept : cs.dropWhile isBlank ≠ [] := by
        rwa [ne_eq, List.dropWhile_eq_nil_iff]
      have hquiet : '<' ∉ cs.dropWhile isBlank :=
        fun hmem => hopen ((List.dropWhile_sublist isBlank).subset hmem)
      have hleaves := leaves_run hquiet ih
      rw [visible_dropWhile] at hleaves
      rw [List.dropWhile_append, if_neg (by rwa [List.isEmpty_iff])]
      exact hleaves

lemma passLeaves (ss : List Segment) : PassLeaves isBot ss := by
  -- the step over a mention needs the second half: the blanks behind it are gone by then
  induction ss with
  | nil =>
    refine ⟨fun blank hblank => ?_, ?_⟩
    · rw [written_nil, List.append_nil, dropMentions_blank hblank]
      have hleaves : Leaves isBot [] (blank ++ []) := Leaves.nil.blank hblank
      rwa [List.append_nil] at hleaves
    · rw [written_nil, List.dropWhile_nil, dropMentions_nil]
      exact .nil
  | cons s ss ih =>
    cases s with
    | run cs hopen => exact passLeaves_run hopen ih
    | mention m hm hopen => exact passLeaves_mention hm hopen ih
    | link l hl hopen =>
      obtain ⟨body, hbody, -⟩ := Link.exists_body hl
      have hread := read?_link hl (written ss)
      have hquiet : '<' ∉ body := by
        rw [hbody] at hopen
        exact fun hmem => hopen (List.mem_append_left _ hmem)
      rw [hbody, List.cons_append, List.append_assoc] at hread
      exact passLeaves_token hbody hquiet id hread ih
    | other inside h => exact passLeaves_token rfl h.hopen id (read?_other h _) ih

/-- The first pass takes out the mentions of the bot, and nothing else that is not blank. -/
lemma leaves_dropMentions (ss : List Segment) :
    Leaves isBot (shown isBot ss) (dropMentions isBot (written ss)) :=
  (passLeaves ss).1 [] (List.forall_mem_nil _)

end Pass

/-! ### The second pass -/

section Links

variable {isBot : List Char → Bool} {ss : List Segment}

lemma unwrapLinks_token {tail rest : List Char} (hopen : '<' ∉ tail)
    (h : labelledLink? ('<' :: (tail ++ rest)) = none) :
    unwrapLinks ('<' :: (tail ++ rest)) = '<' :: (tail ++ unwrapLinks rest) := by
  rw [unwrapLinks_cons h, unwrapLinks_append hopen]

/-- The second pass puts the labels in place of the links, and nothing else changes. -/
lemma unwrapLinks_written (h : ∀ s ∈ ss, ¬s.MentionsBot isBot) :
    unwrapLinks (written ss) = ss.flatMap (Segment.kept isBot) := by
  induction ss with
  | nil => rw [written_nil, List.flatMap_nil, unwrapLinks_nil]
  | cons s ss ih =>
    have htail := ih fun t ht => h t (List.mem_cons_of_mem s ht)
    rw [written_cons, List.flatMap_cons, ← htail]
    cases s with
    | run cs hopen => exact unwrapLinks_append hopen _
    | mention m hm hopen =>
      have hother : ¬isBot m.id = true := h (.mention m hm hopen) List.mem_cons_self
      have hnone := labelledLink?_at (m.id ++ closing m (written ss))
      rw [← chars_append_eq] at hnone
      have hkept : (Segment.mention m hm hopen).kept isBot = m.chars := if_neg hother
      rw [hkept]
      exact unwrapLinks_token hopen hnone
    | link l hl hopen => exact unwrapLinks_link hl _
    | other inside hother =>
      have hopen : '<' ∉ inside ++ ['>'] := by
        simpa using hother.hopen
      have hnone := labelledLink?_other hother (written ss)
      have hafter : inside ++ '>' :: written ss = (inside ++ ['>']) ++ written ss := by simp
      rw [hafter] at hnone
      exact unwrapLinks_token hopen hnone

end Links

/-! ### Mentions in the result -/

section NoBot

variable {isBot : List Char → Bool} {cs tail rest : List Char}

/-- Every token of the text is closed, and it is not a mention of the bot. -/
def NamesNoBot (isBot : List Char → Bool) (cs : List Char) : Prop :=
  ∀ after, '<' :: after <:+ cs →
    '>' ∈ after ∧ ∀ m rest, Mention.read? ('<' :: after) = some (m, rest) → isBot m.id = false

lemma NamesNoBot.run (hopen : '<' ∉ cs) (h : NamesNoBot isBot rest) :
    NamesNoBot isBot (cs ++ rest) :=
  fun after hsuffix => h after (suffix_of_cons_suffix hopen hsuffix)

lemma NamesNoBot.token (hopen : '<' ∉ tail) (hclose : '>' ∈ tail)
    (hread : ∀ m after, Mention.read? ('<' :: (tail ++ rest)) = some (m, after) →
      isBot m.id = false)
    (h : NamesNoBot isBot rest) : NamesNoBot isBot ('<' :: (tail ++ rest)) := by
  intro after hsuffix
  rcases List.suffix_cons_iff.mp hsuffix with heq | hsuffix
  · obtain ⟨-, rfl⟩ := List.cons.inj heq
    exact ⟨List.mem_append_left _ hclose, hread⟩
  · exact h.run hopen after hsuffix

lemma namesNoBot_kept {ss : List Segment} (h : ∀ s ∈ ss, ¬s.MentionsBot isBot) :
    NamesNoBot isBot (ss.flatMap (Segment.kept isBot)) := by
  induction ss with
  | nil =>
    intro after hsuffix
    exact absurd (List.suffix_nil.mp hsuffix) (List.cons_ne_nil _ _)
  | cons s ss ih =>
    have htail := ih fun t ht => h t (List.mem_cons_of_mem s ht)
    rw [List.flatMap_cons]
    cases s with
    | run cs hopen => exact htail.run hopen
    | mention m hm hopen =>
      have hother : ¬isBot m.id = true := h (.mention m hm hopen) List.mem_cons_self
      have hkept : (Segment.mention m hm hopen).kept isBot = m.chars := if_neg hother
      have hclose : '>' ∈ m.chars.tail := by simp [Mention.chars]
      rw [hkept]
      refine htail.token hopen hclose fun m' after hread => ?_
      cases (read?_mention_chars hm _).symm.trans hread
      exact Bool.eq_false_iff.mpr hother
    | link l hl hopen =>
      have hquiet : '<' ∉ l.label := by
        intro hmem
        apply hopen
        simp [Link.chars, hmem]
      exact htail.run hquiet
    | other inside hother =>
      have hopen : '<' ∉ inside ++ ['>'] := by
        simpa using hother.hopen
      refine htail.token hopen (by simp) fun m after hread => ?_
      rw [List.append_assoc, List.singleton_append, read?_other hother] at hread
      cases hread

/-- The start of a mention of the bot would go on to a whole one. -/
lemma NamesNoBot.not_isInfix (h : NamesNoBot isBot cs) {id : List Char}
    (hid : IsMention ⟨id, none⟩) (hbot : isBot id = true) :
    ¬ '<' :: '@' :: (id ++ ['>']) <:+: cs ∧ ¬ '<' :: '@' :: (id ++ ['|']) <:+: cs := by
  constructor
  · rintro ⟨before, rest, rfl⟩
    obtain ⟨-, hread⟩ := h ('@' :: (id ++ '>' :: rest)) ⟨before, by simp⟩
    have hfalse := hread ⟨id, none⟩ rest (read?_eq_mention_iff.mpr ⟨hid, by simp [Mention.chars]⟩)
    rw [hbot] at hfalse
    cases hfalse
  · rintro ⟨before, rest, rfl⟩
    obtain ⟨hclose, hread⟩ := h ('@' :: (id ++ '|' :: rest)) ⟨before, by simp⟩
    -- the token is closed somewhere, and what stands before that is a name
    have hmem : '>' ∈ rest := by
      have hnot : '>' ∉ id := fun hmem => (hid.id_chars '>' hmem).1 rfl
      simpa [hnot] using hclose
    obtain ⟨name, more, rfl, hname⟩ := List.eq_append_cons_of_mem hmem
    have hm : IsMention ⟨id, some name⟩ := ⟨hid.id_ne, hid.id_chars, by rintro _ ⟨⟩; exact hname⟩
    have hfalse := hread ⟨id, some name⟩ more
      (read?_eq_mention_iff.mpr ⟨hm, by simp [Mention.chars]⟩)
    rw [hbot] at hfalse
    cases hfalse

end NoBot

/-! ### Both passes -/

/-- The characters of a sanitized text that are not blank are those of its runs, of the mentions of
others, of the labels of links and of other tokens, in their order. Nothing blank is left at its
ends, and no id of the bot that can be mentioned is. -/
theorem sanitize_keeps_content (botIds : List String) (ss : List Segment) :
    let result := (sanitize botIds (String.ofList (written ss))).toList
    visible result = shown (isBotOf botIds) ss ∧ StartsSolid result ∧ EndsSolid result ∧
    ∀ id ∈ botIds, IsMention ⟨id.toList, none⟩ →
      ¬ ("<@" ++ id ++ ">").toList <:+: result ∧ ¬ ("<@" ++ id ++ "|").toList <:+: result := by
  intro result
  obtain ⟨left, hleft, hothers, hshown⟩ :
      Leaves (isBotOf botIds) (shown (isBotOf botIds) ss)
        (dropMentions (isBotOf botIds) (written ss)) :=
    leaves_dropMentions ss
  have hresult : result = trimChars (left.flatMap (Segment.kept (isBotOf botIds))) := by
    rw [← unwrapLinks_written hothers, ← hleft]
    simp only [result, toList_sanitize, String.toList_ofList]
  rw [hresult]
  refine ⟨?_, startsSolid_trimChars _, endsSolid_trimChars _, ?_⟩
  · rw [visible_trimChars, ← hshown, visible, List.filter_flatMap]
    rfl
  · intro id hmem hid
    have hbot : isBotOf botIds id.toList = true := by
      rwa [isBotOf_iff, String.ofList_toList]
    obtain ⟨hclose, hbar⟩ := (namesNoBot_kept hothers).not_isInfix hid hbot
    have hpart := isInfix_trimChars (left.flatMap (Segment.kept (isBotOf botIds)))
    refine ⟨fun h => hclose ?_, fun h => hbar ?_⟩
    · simpa using h.trans hpart
    · simpa using h.trans hpart

/-- A link under a label that looks like the rest of a mention. -/
def sampleLink : Link :=
  ⟨"https://", ['x', '.', 'i', 'o'], "$1|B1".toList⟩

lemma isLabelled_sampleLink : sampleLink.IsLabelled :=
  ⟨.inr (.inr rfl), by simp [sampleLink], by decide⟩

lemma isOther_channel : IsOther "#C1|general".toList :=
  isOther_of_read? (by decide) (by decide) (by decide) (by decide)

def sampleSegments : List Segment :=
  [.run "see ".toList (by decide), .mention botMention isMention_botMention (by decide),
    .link sampleLink isLabelled_sampleLink (by decide), .run "\n".toList (by decide),
    .other "#C1|general".toList isOther_channel,
    .mention annMention isMention_annMention (by decide)]

theorem sanitize_keeps_content_of_sample :
    String.ofList (written sampleSegments) =
      "see <@B1><https://x.io|$1|B1>\n<#C1|general><@U1|Ann>" ∧
    visible (sanitize ["B1"] "see <@B1><https://x.io|$1|B1>\n<#C1|general><@U1|Ann>").toList =
      "see$1|B1<#C1|general><@U1|Ann>".toList ∧
    "B1" ∈ ["B1"] ∧ IsMention ⟨"B1".toList, none⟩ ∧
    ¬ "<@B1>".toList <:+:
      (sanitize ["B1"] "see <@B1><https://x.io|$1|B1>\n<#C1|general><@U1|Ann>").toList := by
  have htext : String.ofList (written sampleSegments) =
      "see <@B1><https://x.io|$1|B1>\n<#C1|general><@U1|Ann>" := by decide
  have hshown : shown (isBotOf ["B1"]) sampleSegments =
      "see$1|B1<#C1|general><@U1|Ann>".toList := by decide
  have hmem : "B1" ∈ ["B1"] := List.mem_cons_self
  obtain ⟨hvisible, -, -, hnone⟩ := sanitize_keeps_content ["B1"] sampleSegments
  rw [htext] at hvisible hnone
  exact ⟨htext, hvisible.trans hshown, hmem, isMention_botMention,
    (hnone "B1" hmem isMention_botMention).1⟩

/-- An id that cannot be mentioned is not found, and what reads like a mention of it stays: one with
a blank in it, the empty one, and those in which an id ends early. -/
theorem unmentionable_ids_stay :
    (∃ ss, String.ofList (written ss) = "<@U 1>" ∧ sanitize ["U 1"] "<@U 1>" = "<@U 1>") ∧
    (∃ ss, String.ofList (written ss) = "<@>" ∧ sanitize [""] "<@>" = "<@>") ∧
    (∃ ss, String.ofList (written ss) = "<@U|x>" ∧ sanitize ["U|x"] "<@U|x>" = "<@U|x>") ∧
    (∃ ss, String.ofList (written ss) = "<@U>>" ∧ sanitize ["U>"] "<@U>>" = "<@U>>") := by
  have hblank : IsOther "@U 1".toList :=
    isOther_of_read? (by decide) (by decide) (by decide) (by decide)
  have hempty : IsOther "@".toList :=
    isOther_of_read? (by decide) (by decide) (by decide) (by decide)
  have hreadNamed : Mention.read? "<@U|x>".toList = some (⟨['U'], some ['x']⟩, []) := by decide
  have hreadPlain : Mention.read? "<@U>".toList = some (⟨['U'], none⟩, []) := by decide
  have hnamed := isMention_of_read? hreadNamed
  have hplain := isMention_of_read? hreadPlain
  refine ⟨⟨[.other _ hblank], rfl, by decide +kernel⟩, ⟨[.other _ hempty], rfl, by decide +kernel⟩,
    ⟨[.mention _ hnamed (by decide)], rfl, by decide +kernel⟩,
    ⟨[.mention _ hplain (by decide), .run ['>'] (by decide)], rfl, by decide +kernel⟩⟩

end SlackBridge.Proofs
