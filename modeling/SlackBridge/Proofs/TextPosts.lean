import SlackBridge.Proofs.ReplyAddress
import SlackBridge.Proofs.Trimming

/-!
# Texts as posts

A text is posted in pieces: it is cut at its empty lines, and pieces without anything to see are
left out. Nothing else of the text is lost and nothing is moved. With more buttons than a message
holds, a reply is posted as its text alone, so a blank text leaves nothing to post.
-/

namespace SlackBridge.Proofs

open Json Dialogue Slack Text
open Destination (textPieces)

/-- What divides the pieces of a text. -/
def emptyLine : List Char :=
  ['\n', '\n']

/-- The pieces stand in the text in this order, one behind the other. What lies around them is
blank. The text starts at the edge, and an empty line lies between two pieces. -/
inductive CutOut : (edge : List Char) → List (List Char) → List Char → Prop
  | done {edge blank : List Char} (h : ∀ c ∈ blank, isBlank c = true) : CutOut edge [] blank
  | piece {edge gap piece rest : List Char} {pieces : List (List Char)}
      (hgap : ∀ c ∈ gap, isBlank c = true) (hrest : CutOut emptyLine pieces rest) :
      CutOut edge (piece :: pieces) (edge ++ (gap ++ (piece ++ rest)))

/-! ### Pieces of a text -/

section Pieces

lemma isBlank_of_mem_emptyLine {c : Char} (hc : c ∈ emptyLine) : isBlank c = true := by
  have hbreak : c = '\n' := by simpa [emptyLine] using hc
  rw [hbreak]
  decide

/-- The paragraphs with the empty lines between them are the text again. -/
lemma intercalate_paragraphsFrom (piece cs : List Char) :
    emptyLine.intercalate (paragraphsFrom piece cs) = piece.reverse ++ cs := by
  have hne : ∀ piece cs, paragraphsFrom piece cs ≠ [] := by
    intro piece cs
    fun_induction paragraphsFrom piece cs with
    | case1 => exact List.cons_ne_nil _ _
    | case2 _ _ _ _ ih => exact ih
    | case3 => exact List.cons_ne_nil _ _
  fun_induction paragraphsFrom piece cs with
  | case1 piece cs ih =>
    rw [List.intercalate_cons_of_ne_nil (hne _ _), ih]
    simp [emptyLine]
  | case2 piece c cs _ ih =>
    rw [ih, List.reverse_cons, List.append_assoc]
    rfl
  | case3 piece => simp

/-- Two characters that are not both line feeds. -/
def NoEmptyLine (a b : Char) : Prop :=
  ¬(a = '\n' ∧ b = '\n')

lemma not_isInfix_emptyLine {cs : List Char} (h : cs.IsChain NoEmptyLine) : ¬emptyLine <:+: cs := by
  intro hinfix
  have hwithin : emptyLine.IsChain NoEmptyLine := List.IsChain.infix h hinfix
  exact List.isChain_pair.mp hwithin ⟨rfl, rfl⟩

/-- No paragraph has an empty line in it, however far the current one has been read. -/
lemma isChain_paragraphsFrom {piece cs : List Char} (hpiece : piece.IsChain NoEmptyLine)
    (hnext : ∀ a ∈ piece.head?, ∀ b ∈ cs.head?, NoEmptyLine a b) :
    ∀ p ∈ paragraphsFrom piece cs, p.IsChain NoEmptyLine := by
  have hreverse : ∀ {piece : List Char}, piece.IsChain NoEmptyLine →
      piece.reverse.IsChain NoEmptyLine := by
    intro piece h
    exact List.isChain_reverse.mpr (h.imp fun a b hab hba => hab hba.symm)
  fun_induction paragraphsFrom piece cs with
  | case1 piece cs ih =>
    intro p hp
    rcases List.mem_cons.mp hp with rfl | hp
    · exact hreverse hpiece
    · exact ih .nil (by simp) p hp
  | case2 piece c cs hnot ih =>
    refine ih (List.isChain_cons.mpr ⟨?_, hpiece⟩) ?_
    · intro a ha hboth
      exact hnext a ha c rfl hboth.symm
    · intro a ha b hb
      cases ha
      rintro ⟨rfl, rfl⟩
      obtain ⟨rest, rfl⟩ := List.head?_eq_some_iff.mp hb
      exact hnot rest rfl rfl
  | case3 piece =>
    intro p hp
    rw [List.mem_singleton.mp hp]
    exact hreverse hpiece

lemma blank_append {cs ds : List Char} (hcs : ∀ c ∈ cs, isBlank c = true)
    (hds : ∀ c ∈ ds, isBlank c = true) : ∀ c ∈ cs ++ ds, isBlank c = true := by
  intro c hc
  rcases List.mem_append.mp hc with hc | hc
  · exact hcs c hc
  · exact hds c hc

/-- Parts of a text, without the blank ones, are cut out of it. -/
lemma cutOut_intercalate {edge gap back : List Char} (hedge : ∀ c ∈ edge, isBlank c = true)
    (hgap : ∀ c ∈ gap, isBlank c = true) (hback : ∀ c ∈ back, isBlank c = true)
    (parts : List (List Char)) :
    CutOut edge (parts.filter (!·.all isBlank))
      (edge ++ (gap ++ (emptyLine.intercalate parts ++ back))) := by
  induction parts generalizing edge gap with
  | nil => exact .done (blank_append hedge (blank_append hgap hback))
  | cons part rest ih =>
    by_cases hblank : ∀ c ∈ part, isBlank c = true
    · -- a blank part belongs to the gap
      have hwider := blank_append hgap hblank
      rw [List.filter_cons_of_neg (by simpa using hblank)]
      cases rest with
      | nil =>
        rw [List.intercalate_singleton]
        exact .done (blank_append hedge (blank_append hgap (blank_append hblank hback)))
      | cons next more =>
        have hrest := ih hedge (blank_append hwider fun c => isBlank_of_mem_emptyLine)
        rw [List.intercalate_cons_cons]
        simpa only [List.append_assoc] using hrest
    · rw [List.filter_cons_of_pos (by simpa using hblank)]
      cases rest with
      | nil =>
        rw [List.intercalate_singleton]
        exact .piece hgap (.done hback)
      | cons next more =>
        have hrest := ih (fun c => isBlank_of_mem_emptyLine) (List.forall_mem_nil _)
        rw [List.intercalate_cons_cons, List.append_assoc, List.append_assoc]
        exact .piece hgap hrest

lemma CutOut.visible_eq {edge cs : List Char} {pieces : List (List Char)}
    (h : CutOut edge pieces cs) (hedge : ∀ c ∈ edge, isBlank c = true) :
    visible pieces.flatten = visible cs := by
  induction h with
  | done hblank => exact (visible_of_blank hblank).symm
  | piece hgap _ ih =>
    rw [List.flatten_cons, visible_append, ih fun c => isBlank_of_mem_emptyLine, visible_append,
      visible_of_blank hedge, visible_append, visible_of_blank hgap, visible_append,
      List.nil_append, List.nil_append]

lemma map_toList_textPieces (text : String) : (textPieces text).map String.toList =
    (paragraphs (trimChars text.toList)).filter (!·.all isBlank) := by
  simp [textPieces, Function.comp_def]

lemma cutOut_textPieces (text : String) :
    CutOut [] ((textPieces text).map String.toList) text.toList := by
  obtain ⟨front, back, htext, hfront, hback⟩ := exists_around_trimChars text.toList
  have hcut := cutOut_intercalate (List.forall_mem_nil _) hfront hback
    (paragraphs (trimChars text.toList))
  rw [paragraphs, intercalate_paragraphsFrom, List.reverse_nil, List.nil_append, List.nil_append,
    ← htext] at hcut
  rwa [map_toList_textPieces]

/-- Every piece has something to see and no empty line in it. -/
lemma shows_of_mem_textPieces {text piece : String} (h : piece ∈ textPieces text) :
    trim piece ≠ "" ∧ ¬emptyLine <:+: piece.toList := by
  have hmem := List.mem_map_of_mem (f := String.toList) h
  rw [map_toList_textPieces, List.mem_filter, Bool.not_eq_true'] at hmem
  obtain ⟨hparagraph, hblank⟩ := hmem
  constructor
  · rw [ne_eq, trim_eq_empty_iff, isBlankText, hblank]
    exact Bool.false_ne_true
  · exact not_isInfix_emptyLine (isChain_paragraphsFrom .nil (by simp) _ hparagraph)

lemma textPieces_eq_nil_iff (text : String) : textPieces text = [] ↔ trim text = "" := by
  have hvisible := (cutOut_textPieces text).visible_eq (List.forall_mem_nil _)
  rw [trim_eq_empty_iff, isBlankText, List.all_eq_true, ← visible_eq_nil_iff, ← hvisible]
  constructor
  · intro h
    rw [h]
    rfl
  · intro h
    rw [List.eq_nil_iff_forall_not_mem]
    intro piece hpiece
    have hall := (visible_eq_nil_iff _).mp h
    apply (shows_of_mem_textPieces hpiece).1
    rw [trim_eq_empty_iff, isBlankText, List.all_eq_true]
    exact fun c hc => hall c (List.mem_flatten_of_mem (List.mem_map_of_mem hpiece) hc)

end Pieces

/-! ### Posting a text -/

/-- A post that says a text, at an address. -/
structure Says (channel : String) (thread : Option String) (text : String) (p : Post) :
    Prop where
  address : Addressed channel thread [] p
  text : p.get? "text" = some (.string text)
  markup : p.get? "type" = some (.string "mrkdwn")

section Posting

variable {σ : Type} (d : Destination) (recipient : String)

lemma says_textPost (piece : String) :
    Says (d.channelFor recipient) d.thread piece (d.textPost recipient piece) where
  address := addressed_textPost d recipient piece
  text := (Members.get?_put_of_ne (by decide) _ _).trans (Members.get?_put_self ..)
  markup := Members.get?_put_self ..

lemma says_textPosts (text : String) :
    List.Forall₂ (Says (d.channelFor recipient) d.thread) (textPieces text)
      (d.textPosts recipient text) := by
  unfold Destination.textPosts
  rw [List.forall₂_map_right_iff, List.forall₂_same]
  exact fun piece _ => says_textPost d recipient piece

lemma textPosts_eq_nil_iff (text : String) : d.textPosts recipient text = [] ↔ trim text = "" := by
  unfold Destination.textPosts
  rw [List.map_eq_nil_iff, textPieces_eq_nil_iff]

section Parts

variable {recipient : String} {part : Part} {posts : List Post}

lemma send_of_posts (post : σ → Post → Called σ Posted) (s : σ)
    (h : d.posts recipient part = .ok posts) :
    d.send post s ⟨recipient, part⟩ =
      (runAll (d.sendPost post) posts s).after (Destination.notices part) := by
  unfold Destination.send
  rw [h]

/-- Sending a part makes its posts in order up to the first that fails. -/
lemma recorded_send (post : σ → Post → Called σ Posted) (s : σ × List Post)
    (h : d.posts recipient part = .ok posts) :
    ∃ made, (d.send (recordingPost post) s ⟨recipient, part⟩).state.2 = s.2 ++ made ∧
      made <+: posts ∧ (made = [] ↔ posts = []) ∧
      ((d.send (recordingPost post) s ⟨recipient, part⟩).failure = none → made = posts) := by
  rw [send_of_posts d (recordingPost post) s h]
  exact recorded_runAll (recorded_sendPost d post) posts s

lemma failure_send {post : σ → Post → Called σ Posted}
    (hpost : ∀ s p, ∃ posted, (post s p).result = .ok posted) (s : σ × List Post)
    (h : d.posts recipient part = .ok posts) :
    (d.send (recordingPost post) s ⟨recipient, part⟩).failure = none := by
  have hstep : ∀ s p, (d.sendPost (recordingPost post) s p).failure = none := by
    intro s p
    obtain ⟨posted, hposted⟩ := hpost s.1 p
    simp only [Destination.sendPost, recordingPost, hposted]
  rw [send_of_posts d (recordingPost post) s h]
  exact failure_runAll hstep posts s

end Parts

end Posting

/-- Where every post succeeds, sending a text loses nothing of it: it is posted in pieces that stand
in the text in their order, all to the same address. Each of them has something to see and no empty
line in it, they hold all that there is to see in the text, and nothing is posted exactly if the
text is blank. -/
theorem text_posts_lose_nothing {σ : Type} {post : σ → Post → Called σ Posted}
    (hpost : ∀ s p, ∃ posted, (post s p).result = .ok posted) (d : Destination)
    (recipient text : String) (s : σ) :
    let sent := d.send (recordingPost post) (s, []) ⟨recipient, .text text⟩
    unrecorded sent = d.send post s ⟨recipient, .text text⟩ ∧ sent.failure = none ∧
    (sent.state.2 = [] ↔ trim text = "") ∧
    ∃ pieces : List String,
      List.Forall₂ (Says (d.channelFor recipient) d.thread) pieces sent.state.2 ∧
      (∀ piece ∈ pieces, trim piece ≠ "" ∧ ¬emptyLine <:+: piece.toList) ∧
      CutOut [] (pieces.map String.toList) text.toList ∧
      visible (pieces.map String.toList).flatten = visible text.toList := by
  intro sent
  have hparts : d.posts recipient (.text text) = .ok (d.textPosts recipient text) := rfl
  have hfailure : sent.failure = none := failure_send d hpost (s, []) hparts
  have hposts : sent.state.2 = d.textPosts recipient text := by
    obtain ⟨made, hstate, -, -, hall⟩ := recorded_send d post (s, []) hparts
    rw [← hall hfailure]
    exact hstate
  refine ⟨unrecorded_send d post _ _, hfailure, ?_, textPieces text, ?_,
    fun piece => shows_of_mem_textPieces, cutOut_textPieces text,
    (cutOut_textPieces text).visible_eq (List.forall_mem_nil _)⟩
  · rw [hposts]
    exact textPosts_eq_nil_iff d recipient text
  · rw [hposts]
    exact says_textPosts d recipient text

/-- A text with more line feeds than its empty lines need, and with blanks beside them. -/
def gappedText : String :=
  "\n\n\na\n\n\n\n\nb\n\u3000\n\n\t\n\n \nc"

theorem text_posts_lose_nothing_of_gaps :
    let sent := Destination.send ⟨none, some "5.0"⟩ (recordingPost acceptPost) ((), [])
      ⟨"D1", .text gappedText⟩
    (∀ s p, ∃ posted, (acceptPost s p).result = .ok posted) ∧ sent.failure = none ∧
    sent.state.2.map (fun p => (p.get? "text").bind Value.string?) =
      [some "a", some "\nb\n\u3000", some " \nc"] ∧
    ∃ pieces : List String, List.Forall₂ (Says "D1" (some "5.0")) pieces sent.state.2 ∧
      CutOut [] (pieces.map String.toList) gappedText.toList ∧
      visible (pieces.map String.toList).flatten = ['a', 'b', 'c'] := by
  intro sent
  have hpost : ∀ s p, ∃ posted, (acceptPost s p).result = .ok posted := fun s p => ⟨_, rfl⟩
  obtain ⟨-, hfailure, -, pieces, hsays, -, hcut, hvisible⟩ :=
    text_posts_lose_nothing hpost ⟨none, some "5.0"⟩ "D1" gappedText ()
  refine ⟨hpost, hfailure, by decide +kernel, pieces, hsays, hcut, hvisible.trans ?_⟩
  decide +kernel

/-! ### Buttons -/

section Buttons

variable {σ : Type} (d : Destination) (recipient : String)

/-- Buttons are posted with their text in one message, or else the text is posted without them. -/
lemma posts_buttons (text : String) (choices : List Button) :
    d.posts recipient (.buttons text choices) = .ok (if 5 < choices.length
      then d.textPosts recipient text
      else [d.templatePost recipient (.ofButtons text choices)]) :=
  (apply_ite Except.ok _ _ _).symm

/-- Buttons come to no post exactly if there are too many of them and the text is blank. -/
lemma posts_buttons_eq_nil_iff (text : String) (choices : List Button) :
    (if 5 < choices.length then d.textPosts recipient text
      else [d.templatePost recipient (.ofButtons text choices)]) = [] ↔
      5 < choices.length ∧ trim text = "" := by
  split_ifs with hmany
  · rw [textPosts_eq_nil_iff]
    exact (and_iff_right hmany).symm
  · simp [hmany]

lemma sendings_of_buttons {r : Reply} (h : r.buttons ≠ []) : r.sendings recipient =
    ⟨recipient, .buttons (r.text.getD "") r.buttons⟩ :: (r.sendings recipient).tail := by
  unfold Reply.sendings Reply.parts Reply.promptParts
  rw [if_pos h]
  rfl

end Buttons

/-- Sending a reply with buttons begins with the buttons and their text. At least one post is
attempted for them unless there are more than five and the text is blank. Then none is, and the
reply goes on as if all were well: nothing but a notice in the log is left of them. -/
theorem buttons_posted_or_lost {σ : Type} (d : Destination) (recipient : String) {r : Reply}
    (h : r.buttons ≠ []) (post : σ → Post → Called σ Posted) (s : σ) :
    let send := d.send (recordingPost post)
    let opened := send (s, []) ⟨recipient, .buttons (r.text.getD "") r.buttons⟩
    unrecorded opened = d.send post s ⟨recipient, .buttons (r.text.getD "") r.buttons⟩ ∧
    runAll send (r.sendings recipient) (s, []) =
      opened.andThen (runAll send (r.sendings recipient).tail) ∧
    (opened.state.2 = [] ↔ 5 < r.buttons.length ∧ trim (r.text.getD "") = "") ∧
    (opened.state.2 = [] → opened = ⟨(s, []), [.tooManyButtons r.buttons.length 5], none⟩) := by
  intro send opened
  have hparts := posts_buttons d recipient (r.text.getD "") r.buttons
  obtain ⟨made, hstate, -, hnone, -⟩ := recorded_send d post (s, []) hparts
  have hmade : opened.state.2 = made := hstate
  have hlost : made = [] ↔ 5 < r.buttons.length ∧ trim (r.text.getD "") = "" :=
    hnone.trans (posts_buttons_eq_nil_iff d recipient _ _)
  refine ⟨unrecorded_send d post _ _, ?_, ?_, fun hempty => ?_⟩
  · rw [sendings_of_buttons recipient h]
    rfl
  · rw [hmade]
    exact hlost
  · rw [hmade] at hempty
    have hmany := (hlost.mp hempty).1
    have hrun : opened = (runAll (d.sendPost (recordingPost post)) _ (s, [])).after
        (Destination.notices (.buttons (r.text.getD "") r.buttons)) :=
      send_of_posts d (recordingPost post) (s, []) hparts
    have hnotice : Destination.notices (.buttons (r.text.getD "") r.buttons) =
        [.tooManyButtons r.buttons.length 5] := if_pos hmany
    rw [hrun, hnone.mp hempty, hnotice]
    rfl

/-- A reply with more buttons than a message holds. -/
def sixButtons (text : Option String) : Reply :=
  { Reply.empty with text := text, buttons := List.replicate 6 ⟨"More", "/more"⟩ }

theorem buttons_posted_or_lost_of_text :
    (sixButtons (some "Pick")).buttons ≠ [] ∧
    (Destination.send ⟨none, none⟩ (recordingPost acceptPost) ((), [])
      ⟨"D1", .buttons "Pick" (sixButtons (some "Pick")).buttons⟩).state.2 ≠ [] := by
  have hbuttons : (sixButtons (some "Pick")).buttons ≠ [] := by decide
  obtain ⟨-, -, hlost, -⟩ :=
    buttons_posted_or_lost ⟨none, none⟩ "D1" hbuttons acceptPost ()
  refine ⟨hbuttons, fun hempty => ?_⟩
  exact absurd (hlost.mp hempty).2 (by decide)

/-- Six buttons without a text are gone, and the reply counts as sent. -/
theorem six_buttons_lost :
    runAll (Destination.send ⟨none, none⟩ (recordingPost acceptPost))
      ((sixButtons none).sendings "D1") ((), []) = ⟨((), []), [.tooManyButtons 6 5], none⟩ ∧
    ¬∀ (d : Destination) (recipient : String) (r : Reply), r.buttons ≠ [] →
      (runAll (d.send (recordingPost acceptPost)) (r.sendings recipient) ((), [])).state.2 ≠
        [] := by
  have hlost : runAll (Destination.send ⟨none, none⟩ (recordingPost acceptPost))
      ((sixButtons none).sendings "D1") ((), []) = ⟨((), []), [.tooManyButtons 6 5], none⟩ := rfl
  refine ⟨hlost, fun h => ?_⟩
  apply h ⟨none, none⟩ "D1" (sixButtons none) (by decide)
  rw [hlost]

end SlackBridge.Proofs
