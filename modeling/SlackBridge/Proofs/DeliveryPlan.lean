import Mathlib.Data.List.Forall2
import Mathlib.Data.List.ReduceOption
import Mathlib.Tactic.Common
import SlackBridge.Dialogue.Bot
import SlackBridge.Proofs.CallAttempts
import SlackBridge.Proofs.JsonRecords
import SlackBridge.Proofs.Recording

/-!
# Delivery is a start of the plan

The replies to a message make a plan: what to send, to whom and in which order. `IsPlan` says what
it holds, without any reference to how it is made. Against a script that says which attempts fail,
a delivery makes the attempts of the plan up to the first that fails and no other, whether an
attempt is a part handed to a channel or a post handed to the Web API (`StopsAtFailure`).
-/

namespace SlackBridge.Proofs

open Json Dialogue Slack

/-! ### What the plan holds -/

/-- An element gives a text under a key: a string that is not empty. -/
def GivesText (element : Value) (key text : String) : Prop :=
  element.member? key = some (.string text) ∧ text ≠ ""

/-- What is sent in the place of an element, if anything. -/
inductive Caption (element : Value) : Option String → Prop
  | both {title subtitle : String} (ht : GivesText element "title" title)
      (hs : GivesText element "subtitle" subtitle) :
      Caption element (some (title ++ " : " ++ subtitle))
  | title {title : String} (ht : GivesText element "title" title)
      (hs : ∀ subtitle, ¬GivesText element "subtitle" subtitle) : Caption element (some title)
  | subtitle {subtitle : String} (ht : ∀ title, ¬GivesText element "title" title)
      (hs : GivesText element "subtitle" subtitle) : Caption element (some subtitle)
  | neither (ht : ∀ title, ¬GivesText element "title" title)
      (hs : ∀ subtitle, ¬GivesText element "subtitle" subtitle) : Caption element none

/-- What a reply begins with: its buttons with the text, or else the text. -/
inductive Opening (r : Reply) : List Part → Prop
  | buttons (h : r.buttons ≠ []) : Opening r [.buttons (r.text.getD "") r.buttons]
  | text {text : String} (h : r.buttons = []) (ht : r.text = some text) (hne : text ≠ "") :
      Opening r [.text text]
  | nothing (h : r.buttons = []) (ht : ∀ text, r.text = some text → text = "") : Opening r []

/-- The parts of a reply in their order. -/
inductive PartsOf (r : Reply) : List Part → Prop
  | mk {opening : List Part} {captions : List (Option String)} (hopening : Opening r opening)
      (hcaptions : List.Forall₂ Caption r.elements captions) :
      PartsOf r (opening ++ r.custom.toList.map .custom ++ r.image.toList.map .image ++
        r.attachment.toList.map .attachment ++ captions.reduceOption.map .text)

/-- A reply with nothing to send in it. -/
structure HoldsNothing (r : Reply) : Prop where
  text : ∀ text, r.text = some text → text = ""
  image : r.image = none
  buttons : r.buttons = []
  attachment : r.attachment = none
  custom : r.custom = none
  elements : r.elements = []

/-- All that is to be sent in reply to a sender. A reply goes to whom it names, or else to the
sender. -/
inductive IsPlan (sender : String) : List Reply → List Sending → Prop
  | nil : IsPlan sender [] []
  | skip {r : Reply} {rest : List Reply} {sendings : List Sending} (h : HoldsNothing r)
      (hrest : IsPlan sender rest sendings) : IsPlan sender (r :: rest) sendings
  | cons {r : Reply} {rest : List Reply} {parts : List Part} {sendings : List Sending}
      (h : ¬HoldsNothing r) (hparts : PartsOf r parts) (hrest : IsPlan sender rest sendings) :
      IsPlan sender (r :: rest) (parts.map (⟨r.recipient.getD sender, ·⟩) ++ sendings)

lemma getD_string_eq_iff (element : Value) (key text : String) (hne : text ≠ "") :
    ((element.member? key).bind Value.string?).getD "" = text ↔ GivesText element key text := by
  unfold GivesText
  cases element.member? key with
  | none => simp [hne.symm]
  | some v => cases v <;> simp [Value.string?, hne, hne.symm]

lemma getD_string_eq_empty_iff (element : Value) (key : String) :
    ((element.member? key).bind Value.string?).getD "" = "" ↔
      ∀ text, ¬GivesText element key text := by
  constructor
  · intro h text hgives
    rw [(getD_string_eq_iff element key text hgives.2).mpr hgives] at h
    exact hgives.2 h
  · intro h
    by_contra hne
    exact h _ ((getD_string_eq_iff element key _ hne).mp rfl)

lemma caption_elementText? (element : Value) : Caption element (elementText? element) := by
  unfold elementText?
  dsimp only
  split
  · next ht hs =>
    exact .neither ((getD_string_eq_empty_iff _ _).mp ht) ((getD_string_eq_empty_iff _ _).mp hs)
  · next hs hne =>
    exact .title ((getD_string_eq_iff _ _ _ hne).mp rfl) ((getD_string_eq_empty_iff _ _).mp hs)
  · next ht hne =>
    exact .subtitle ((getD_string_eq_empty_iff _ _).mp ht) ((getD_string_eq_iff _ _ _ hne).mp rfl)
  · next ht hs _ =>
    exact .both ((getD_string_eq_iff _ _ _ ht).mp rfl) ((getD_string_eq_iff _ _ _ hs).mp rfl)

lemma captions_elementText? (elements : List Value) :
    List.Forall₂ Caption elements (elements.map elementText?) := by
  rw [List.forall₂_map_right_iff, List.forall₂_same]
  exact fun element _ => caption_elementText? element

lemma elementParts_eq (elements : List Value) :
    elementParts elements = (elements.map elementText?).reduceOption.map .text := by
  unfold elementParts List.reduceOption
  induction elements with
  | nil => rfl
  | cons element rest ih =>
    rw [List.filterMap_cons, List.map_cons, List.filterMap_cons]
    cases elementText? element with
    | none => exact ih
    | some text => exact congrArg (Part.text text :: ·) ih

lemma opening_promptParts (r : Reply) : Opening r r.promptParts := by
  unfold Reply.promptParts
  dsimp only
  by_cases hbuttons : r.buttons = []
  · rw [if_neg (not_not_intro hbuttons)]
    cases ht : r.text with
    | none => exact .nothing hbuttons fun text h => by rw [ht] at h; cases h
    | some text =>
      rw [Option.getD_some]
      by_cases hne : text = ""
      · rw [if_neg (not_not_intro hne)]
        refine .nothing hbuttons fun other h => ?_
        rw [ht] at h
        cases h
        exact hne
      · rw [if_pos hne]
        exact .text hbuttons ht hne
  · rw [if_pos hbuttons]
    exact .buttons hbuttons

lemma partsOf_parts (r : Reply) : PartsOf r r.parts := by
  unfold Reply.parts
  rw [elementParts_eq]
  exact .mk (opening_promptParts r) (captions_elementText? r.elements)

lemma isEmpty_iff (r : Reply) : r.isEmpty = true ↔ HoldsNothing r := by
  unfold Reply.isEmpty
  simp only [Bool.and_eq_true, Option.all_eq_true, beq_iff_eq, Option.isNone_iff_eq_none,
    List.isEmpty_iff]
  constructor
  · rintro ⟨⟨⟨⟨⟨htext, himage⟩, hbuttons⟩, hattachment⟩, hcustom⟩, helements⟩
    exact ⟨htext, himage, hbuttons, hattachment, hcustom, helements⟩
  · rintro ⟨htext, himage, hbuttons, hattachment, hcustom, helements⟩
    exact ⟨⟨⟨⟨⟨htext, himage⟩, hbuttons⟩, hattachment⟩, hcustom⟩, helements⟩

lemma isPlan_plan (sender : String) (replies : List Reply) :
    IsPlan sender replies (plan sender replies) := by
  unfold plan
  induction replies with
  | nil => exact .nil
  | cons r rest ih =>
    cases h : r.isEmpty with
    | true =>
      rw [List.filter_cons_of_neg (by simp [h])]
      exact .skip ((isEmpty_iff r).mp h) ih
    | false =>
      rw [List.filter_cons_of_pos (by simp [h]), List.flatMap_cons]
      refine .cons (fun hnothing => ?_) (partsOf_parts r) ih
      rw [(isEmpty_iff r).mpr hnothing] at h
      cases h

/-! ### Reply by reply -/

section Nested

variable {σ ε : Type} (send : σ → Sending → Outcome σ ε)

/-- Does something with a value if there is one. -/
def ifGiven {α : Type} (step : α → σ → Outcome σ ε) : Option α → σ → Outcome σ ε
  | some a => step a
  | none => .unchanged

def sendCaptions (recipient : String) : List Value → σ → Outcome σ ε
  | [], s => .unchanged s
  | element :: rest, s =>
    match elementText? element with
    | none => sendCaptions recipient rest s
    | some text => (send s ⟨recipient, .text text⟩).andThen (sendCaptions recipient rest)

/-- Sends a reply part by part. -/
def sendReply (recipient : String) (r : Reply) (s : σ) : Outcome σ ε :=
  let hand (part : Part) (s : σ) : Outcome σ ε := send s ⟨recipient, part⟩
  let text := r.text.getD ""
  let opened :=
    if r.buttons ≠ [] then hand (.buttons text r.buttons) s
    else if text ≠ "" then hand (.text text) s
    else .unchanged s
  (((opened.andThen (ifGiven (hand ∘ .custom) r.custom)).andThen
    (ifGiven (hand ∘ .image) r.image)).andThen
    (ifGiven (hand ∘ .attachment) r.attachment)).andThen (sendCaptions send recipient r.elements)

/-- Sends reply after reply, without those that are empty. -/
def sendReplies (sender : String) : List Reply → σ → Outcome σ ε
  | [], s => .unchanged s
  | r :: rest, s =>
    if r.isEmpty then sendReplies sender rest s
    else (sendReply send (r.recipient.getD sender) r s).andThen (sendReplies sender rest)

lemma runAll_toList {α : Type} (recipient : String) (part : α → Part) (a : Option α) (s : σ) :
    runAll send ((a.toList.map part).map (⟨recipient, ·⟩)) s =
      ifGiven (fun a s => send s ⟨recipient, part a⟩) a s := by
  cases a with
  | none => rfl
  | some a => exact runAll_singleton send ⟨recipient, part a⟩ s

lemma runAll_elementParts (recipient : String) (elements : List Value) (s : σ) :
    runAll send ((elementParts elements).map (⟨recipient, ·⟩)) s =
      sendCaptions send recipient elements s := by
  induction elements generalizing s with
  | nil => rfl
  | cons element rest ih =>
    unfold elementParts at ih ⊢
    rw [List.filterMap_cons, sendCaptions]
    cases elementText? element with
    | none => exact ih s
    | some text =>
      simp only [Option.map_some, List.map_cons, runAll]
      congr 1
      funext s
      exact ih s

lemma runAll_promptParts (recipient : String) (r : Reply) (s : σ) :
    runAll send (r.promptParts.map (⟨recipient, ·⟩)) s =
      if r.buttons ≠ [] then send s ⟨recipient, .buttons (r.text.getD "") r.buttons⟩
      else if r.text.getD "" ≠ "" then send s ⟨recipient, .text (r.text.getD "")⟩
      else .unchanged s := by
  unfold Reply.promptParts
  dsimp only
  split_ifs
  · exact runAll_singleton send _ s
  · exact runAll_singleton send _ s
  · rfl

lemma runAll_sendings (recipient : String) (r : Reply) (s : σ) :
    runAll send (r.sendings recipient) s = sendReply send recipient r s := by
  have hcustom := funext (runAll_toList send recipient .custom r.custom)
  have himage := funext (runAll_toList send recipient .image r.image)
  have hattachment := funext (runAll_toList send recipient .attachment r.attachment)
  have helements := funext (runAll_elementParts send recipient r.elements)
  unfold Reply.sendings Reply.parts
  simp only [List.map_append, runAll_append]
  rw [runAll_promptParts, hcustom, himage, hattachment, helements]
  rfl

/-- Going through the replies one by one comes to the same as going through the plan. -/
lemma deliver_eq_sendReplies (sender : String) (replies : List Reply) (s : σ) :
    deliver send sender replies s = sendReplies send sender replies s := by
  unfold deliver plan
  induction replies generalizing s with
  | nil => rfl
  | cons r rest ih =>
    rw [sendReplies]
    cases h : r.isEmpty with
    | true =>
      rw [List.filter_cons_of_neg (by simp [h]), if_pos rfl]
      exact ih s
    | false =>
      rw [List.filter_cons_of_pos (by simp [h]), List.flatMap_cons, runAll_append,
        runAll_sendings, if_neg (by simp)]
      congr 1
      funext s
      exact ih s

end Nested

/-! ### Attempts against a script -/

/-- Each attempt that was made, with the failure that came of it, if any. -/
abbrev Attempts (α ε : Type) := List (α × Option ε)

def attempted {α ε : Type} (attempts : Attempts α ε) : List α :=
  attempts.map Prod.fst

/-- What got through. -/
def delivered {α ε : Type} (attempts : Attempts α ε) : List α :=
  (attempts.filter (·.2.isNone)).map Prod.fst

/-- How a run over a plan ends when attempt `n`, counted from 0, fails as `fails n` says. A step of
the plan is something to attempt, or a failure in itself. -/
inductive StopsAtFailure {α ε : Type} (fails : ℕ → Option ε) :
    (steps : List (Except ε α)) → (attempted delivered : List α) → Option ε → Prop
  | completed {items : List α} (h : ∀ n < items.length, fails n = none) :
      StopsAtFailure fails (items.map .ok) items items none
  | failed {before : List α} {a : α} {after : List (Except ε α)} {e : ε}
      (h : ∀ n < before.length, fails n = none) (he : fails before.length = some e) :
      StopsAtFailure fails (before.map .ok ++ .ok a :: after) (before ++ [a]) before (some e)
  | refused {before : List α} {after : List (Except ε α)} {e : ε}
      (h : ∀ n < before.length, fails n = none) :
      StopsAtFailure fails (before.map .ok ++ .error e :: after) before before (some e)

/-- The attempts that a run makes, the first one numbered `n`, and how it ends. -/
inductive Makes {α ε : Type} (fails : ℕ → Option ε) :
    ℕ → List (Except ε α) → Attempts α ε → Option ε → Prop
  | done {n : ℕ} : Makes fails n [] [] none
  | passed {n : ℕ} {a : α} {rest : List (Except ε α)} {attempts : Attempts α ε} {end? : Option ε}
      (h : fails n = none) (hrest : Makes fails (n + 1) rest attempts end?) :
      Makes fails n (.ok a :: rest) ((a, none) :: attempts) end?
  | failed {n : ℕ} {a : α} {rest : List (Except ε α)} {e : ε} (h : fails n = some e) :
      Makes fails n (.ok a :: rest) [(a, some e)] (some e)
  | refused {n : ℕ} {rest : List (Except ε α)} {e : ε} :
      Makes fails n (.error e :: rest) [] (some e)

section Script

variable {α ε : Type} {fails : ℕ → Option ε}

lemma Makes.append_of_failed {n : ℕ} {steps more : List (Except ε α)} {attempts : Attempts α ε}
    {e : ε} (h : Makes fails n steps attempts (some e)) :
    Makes fails n (steps ++ more) attempts (some e) := by
  generalize hend : some e = end? at h
  induction h with
  | done => cases hend
  | passed hpass _ ih => exact .passed hpass (ih hend)
  | failed hfail => exact .failed hfail
  | refused => exact .refused

lemma Makes.append {n : ℕ} {steps more : List (Except ε α)} {attempts added : Attempts α ε}
    {end? : Option ε} (h : Makes fails n steps attempts none)
    (hmore : Makes fails (n + attempts.length) more added end?) :
    Makes fails n (steps ++ more) (attempts ++ added) end? := by
  generalize hend : none = first at h
  induction h with
  | done => exact hmore
  | passed hpass _ ih =>
    refine .passed hpass (ih ?_ hend)
    rwa [List.length_cons, Nat.add_comm _ 1, ← Nat.add_assoc] at hmore
  | failed => cases hend
  | refused => cases hend

/-- From what one item comes to follows what a run over the items comes to. -/
lemma makes_runAll {σ β : Type} {step : σ × Attempts α ε → β → Outcome (σ × Attempts α ε) ε}
    {expand : β → List (Except ε α)}
    (hstep : ∀ s b, ∃ added, (step s b).state = (s.1, s.2 ++ added) ∧
      Makes fails s.2.length (expand b) added (step s b).failure)
    (items : List β) (s : σ × Attempts α ε) :
    ∃ added, (runAll step items s).state = (s.1, s.2 ++ added) ∧
      Makes fails s.2.length (items.flatMap expand) added (runAll step items s).failure := by
  induction items generalizing s with
  | nil => exact ⟨[], by rw [List.append_nil]; rfl, .done⟩
  | cons b rest ih =>
    obtain ⟨first, hstate, hfirst⟩ := hstep s b
    rw [runAll, Outcome.andThen, List.flatMap_cons]
    cases hfailure : (step s b).failure with
    | some e =>
      rw [hfailure] at hfirst
      exact ⟨first, hstate, hfirst.append_of_failed⟩
    | none =>
      rw [hfailure] at hfirst
      obtain ⟨added, hrest, hmakes⟩ := ih (step s b).state
      rw [hstate] at hrest hmakes
      refine ⟨first ++ added, ?_, ?_⟩
      · dsimp only
        rw [hstate, hrest, List.append_assoc]
      · dsimp only
        rw [hstate]
        rw [List.length_append] at hmakes
        exact hfirst.append hmakes

lemma Makes.stopsAtFailure {steps : List (Except ε α)} {attempts : Attempts α ε}
    {end? : Option ε} {before : List α} (hbefore : ∀ n < before.length, fails n = none)
    (h : Makes fails before.length steps attempts end?) :
    StopsAtFailure fails (before.map .ok ++ steps) (before ++ attempted attempts)
      (before ++ delivered attempts) end? := by
  generalize hn : before.length = n at h
  induction h generalizing before with
  | done =>
    simp only [attempted, delivered, List.map_nil, List.filter_nil, List.append_nil]
    exact .completed hbefore
  | @passed n a rest attempts end? hpass hrest ih =>
    have hlonger : ∀ k < (before ++ [a]).length, fails k = none := by
      intro k hk
      rw [List.length_append, List.length_singleton] at hk
      rcases Nat.lt_succ_iff_lt_or_eq.mp hk with hlt | rfl
      · exact hbefore k hlt
      · rw [hn]
        exact hpass
    have hstop := ih hlonger (by rw [List.length_append, List.length_singleton, hn])
    simpa [attempted, delivered] using hstop
  | failed hfail =>
    subst hn
    simpa [attempted, delivered] using StopsAtFailure.failed hbefore hfail
  | refused =>
    simpa [attempted, delivered] using StopsAtFailure.refused hbefore

/-- A run that starts with no attempt behind it. -/
lemma Makes.stopsAtFailure_zero {steps : List (Except ε α)} {attempts : Attempts α ε}
    {end? : Option ε} (h : Makes fails 0 steps attempts end?) :
    StopsAtFailure fails steps (attempted attempts) (delivered attempts) end? := by
  have hnone : ∀ n < ([] : List α).length, fails n = none :=
    fun n hn => absurd hn (Nat.not_lt_zero n)
  exact Makes.stopsAtFailure hnone h

end Script

/-- A channel whose attempts fail by a script. It keeps them beside a state that it leaves alone. -/
def scriptedChannel {σ ε : Type} (fails : ℕ → Option ε) (s : σ × Attempts Sending ε)
    (a : Sending) : Outcome (σ × Attempts Sending ε) ε :=
  ⟨(s.1, s.2 ++ [(a, fails s.2.length)]), [], fails s.2.length⟩

def postFailure : Except ApiError Posted → Option Failure
  | .ok _ => none
  | .error e => some e.failure

/-- A way of posting whose results are given by a script. -/
def scriptedPost {σ : Type} (results : ℕ → Except ApiError Posted) (s : σ × Attempts Post Failure)
    (p : Post) : Called (σ × Attempts Post Failure) Posted :=
  ⟨(s.1, s.2 ++ [(p, postFailure (results s.2.length))]), [], results s.2.length⟩

/-- The posts of a sending, or the failure that it is without a post. -/
def postSteps (d : Destination) (sending : Sending) : List (Except Failure Post) :=
  match d.posts sending.recipient sending.part with
  | .ok posts => posts.map .ok
  | .error e => [.error e]

/-- An outcome that follows a plan from a state that it leaves alone. -/
def FollowsPlan {σ α ε : Type} (fails : ℕ → Option ε) (steps : List (Except ε α)) (s : σ)
    (o : Outcome (σ × Attempts α ε) ε) : Prop :=
  o.state.1 = s ∧ StopsAtFailure fails steps (attempted o.state.2) (delivered o.state.2) o.failure

/-- From what a channel does with one sending follows what a delivery does with all. -/
lemma followsPlan_deliver {σ α ε : Type} {fails : ℕ → Option ε}
    {send : σ × Attempts α ε → Sending → Outcome (σ × Attempts α ε) ε}
    {expand : Sending → List (Except ε α)}
    (hsend : ∀ s a, ∃ added, (send s a).state = (s.1, s.2 ++ added) ∧
      Makes fails s.2.length (expand a) added (send s a).failure)
    (sender : String) (replies : List Reply) (s : σ) :
    FollowsPlan fails ((plan sender replies).flatMap expand) s
      (deliver send sender replies (s, [])) := by
  obtain ⟨added, hstate, hmakes⟩ := makes_runAll hsend (plan sender replies) (s, [])
  unfold FollowsPlan deliver
  rw [hstate]
  exact ⟨rfl, hmakes.stopsAtFailure_zero⟩

lemma makes_one {α ε : Type} (fails : ℕ → Option ε) (n : ℕ) (a : α) :
    Makes fails n [.ok a] [(a, fails n)] (fails n) := by
  cases h : fails n with
  | none => exact .passed h .done
  | some e => exact .failed h

lemma makes_scriptedChannel {σ ε : Type} (fails : ℕ → Option ε) (s : σ × Attempts Sending ε)
    (a : Sending) :
    ∃ added, (scriptedChannel fails s a).state = (s.1, s.2 ++ added) ∧
      Makes fails s.2.length [.ok a] added (scriptedChannel fails s a).failure :=
  ⟨_, rfl, makes_one fails s.2.length a⟩

lemma followsPlan_scriptedChannel {σ ε : Type} (fails : ℕ → Option ε) (sender : String)
    (replies : List Reply) (s : σ) :
    FollowsPlan fails ((plan sender replies).map .ok) s
      (deliver (scriptedChannel fails) sender replies (s, [])) := by
  rw [List.map_eq_flatMap]
  exact followsPlan_deliver (makes_scriptedChannel fails) sender replies s

/-! ### The posts of a part -/

/-- The fields that say where a post goes and who makes it. -/
def addressFields (d : Destination) (recipient : String) : Members :=
  ("channel", .string (d.channel.getD recipient)) :: ("as_user", .bool true) ::
    d.thread.toList.map fun t => ("thread_ts", .string t)

/-- The fields that show an image. Its URL is also the text in its place. -/
def imageFields (url : String) : Members :=
  [("text", .string url),
    ("blocks", .array [.object [("type", .string "image"), ("block_id", .string "parley.image.v1"),
      ("image_url", .string url), ("alt_text", .string url)]])]

section Posts

variable {σ : Type} (d : Destination) (results : ℕ → Except ApiError Posted)

lemma makes_sendPost (s : σ × Attempts Post Failure) (p : Post) :
    ∃ added, (d.sendPost (scriptedPost results) s p).state = (s.1, s.2 ++ added) ∧
      Makes (fun n => postFailure (results n)) s.2.length [.ok p] added
        (d.sendPost (scriptedPost results) s p).failure := by
  refine ⟨[(p, postFailure (results s.2.length))], ?_, ?_⟩
  · simp only [Destination.sendPost, scriptedPost]
    cases results s.2.length <;> rfl
  · have hone := makes_one (fun n => postFailure (results n)) s.2.length p
    simp only [Destination.sendPost, scriptedPost]
    cases h : results s.2.length with
    | ok posted =>
      simp only [h, postFailure] at hone ⊢
      exact hone
    | error e =>
      simp only [h, postFailure] at hone ⊢
      exact hone

lemma makes_send (s : σ × Attempts Post Failure) (a : Sending) :
    ∃ added, (d.send (scriptedPost results) s a).state = (s.1, s.2 ++ added) ∧
      Makes (fun n => postFailure (results n)) s.2.length (postSteps d a) added
        (d.send (scriptedPost results) s a).failure := by
  unfold Destination.send postSteps
  cases d.posts a.recipient a.part with
  | error e => exact ⟨[], by rw [List.append_nil], .refused⟩
  | ok posts =>
    obtain ⟨added, hstate, hmakes⟩ := makes_runAll (makes_sendPost d results) posts s
    rw [← List.map_eq_flatMap] at hmakes
    exact ⟨added, hstate, hmakes⟩

lemma followsPlan_scriptedPost (sender : String) (replies : List Reply) (s : σ) :
    FollowsPlan (fun n => postFailure (results n)) ((plan sender replies).flatMap (postSteps d)) s
      (deliver (d.send (scriptedPost results)) sender replies (s, [])) :=
  followsPlan_deliver (makes_send d results) sender replies s

/-- A part is refused without a post exactly if it is a custom payload that is no object. -/
lemma posts_eq_error_iff (recipient : String) (part : Part) (e : Failure) :
    d.posts recipient part = .error e ↔ ∃ v, part = .custom v ∧ (∀ ms, v ≠ .object ms) ∧
      e = .invalidPayload "custom slack payload must be a JSON object" := by
  constructor
  · intro h
    unfold Destination.posts at h
    split at h
    case h_4 => split at h <;> cases h
    case h_6 v hv =>
      cases h
      exact ⟨v, rfl, hv, rfl⟩
    all_goals cases h
  · rintro ⟨v, rfl, hv, rfl⟩
    cases v with
    | object ms => exact absurd rfl (hv ms)
    | _ => rfl

/-- An image is one post that shows it. -/
lemma posts_image (recipient url : String) : d.posts recipient (.image url) =
    .ok [⟨addressFields d recipient ++ imageFields url⟩] := by
  unfold Destination.posts Destination.templatePost Destination.post Post.inThread addressFields
  cases d.thread with
  | none => rfl
  | some t => rfl

/-- An attachment is one post that carries it as it is. -/
lemma posts_attachment (recipient : String) (v : Value) : d.posts recipient (.attachment v) =
    .ok [⟨addressFields d recipient ++ [("attachments", .array [v])]⟩] := by
  unfold Destination.posts Destination.post Post.inThread addressFields
  cases d.thread with
  | none => rfl
  | some t => rfl

end Posts

/-! ### What the bot answers -/

/-- The bot answers with success, and its answer is a list of which every item is a reply. -/
inductive Answers (answer : Except Http.Failure Http.Response) (replies : List Reply) : Prop
  | mk {r : Http.Response} {items : List Tree} (hanswer : answer = .ok r)
      (hs : 200 ≤ r.status ∧ r.status ≤ 299) (hcomplete : r.complete = true)
      (hbody : Tree.read? r.body = some (.array items))
      (hitems : List.Forall₂ (fun item reply => Reply.decodeAt 2 item = some reply) items replies)

lemma decodeList_eq_some_iff (t : Tree) (replies : List Reply) :
    Reply.decodeList t = some replies ↔ ∃ items, t = .array items ∧
      List.Forall₂ (fun item reply => Reply.decodeAt 2 item = some reply) items replies := by
  cases t with
  | array items =>
    simp only [Reply.decodeList, Decoder.list, mapM_eq_some_iff, Tree.array.injEq,
      exists_eq_left']
  | _ => simp [Reply.decodeList, Decoder.list]

lemma replies_eq_ok_iff (answer : Except Http.Failure Http.Response) (replies : List Reply) :
    Bot.replies answer = .ok replies ↔ Answers answer replies := by
  unfold Bot.replies
  constructor
  · intro h
    split at h
    · cases h
    · next r =>
      split at h
      · next hs =>
        split at h
        · next found hfound =>
          cases h
          unfold Http.Response.json? at hfound
          rw [Option.ite_none_right_eq_some, Option.bind_eq_some_iff] at hfound
          obtain ⟨hcomplete, t, ht, hdecode⟩ := hfound
          obtain ⟨items, rfl, hitems⟩ := (decodeList_eq_some_iff t _).mp hdecode
          exact .mk rfl ((isSuccess_iff r).mp hs) hcomplete ht hitems
        · cases h
      · cases h
  · rintro ⟨rfl, hs, hcomplete, hbody, hitems⟩
    have hdecode := (decodeList_eq_some_iff _ _).mpr ⟨_, rfl, hitems⟩
    simp only [(isSuccess_iff _).mpr hs, if_true, Http.Response.json?, hcomplete, hbody,
      Option.bind_some, hdecode]

section Handle

variable {σ τ : Type} {url : String} {timeoutSecs : ℕ} (wire : Http.Wire σ)
  (send : σ × List τ → Sending → Outcome (σ × List τ) Failure) (s : σ) (m : Message)

lemma handle_of_answers {replies : List Reply}
    (h : Answers (Http.send wire s (Bot.question url timeoutSecs m)).1 replies) :
    (Bot.endpoint url timeoutSecs).handle (besideRecord wire) send (s, []) m =
      (deliver send m.sender replies
        ((Http.send wire s (Bot.question url timeoutSecs m)).2, [])).after
        [.botReplied m.sender replies.length] := by
  simp only [Bot.handle, send_besideRecord, (replies_eq_ok_iff _ _).mpr h]

lemma handle_of_not_answers
    (h : ∀ replies, ¬Answers (Http.send wire s (Bot.question url timeoutSecs m)).1 replies) :
    ∃ reason, (Bot.endpoint url timeoutSecs).handle (besideRecord wire) send (s, []) m =
      ⟨((Http.send wire s (Bot.question url timeoutSecs m)).2, []), [],
        some (.integration reason)⟩ := by
  simp only [Bot.handle, send_besideRecord]
  cases hreplies : Bot.replies (Http.send wire s (Bot.question url timeoutSecs m)).1 with
  | ok replies => exact absurd ((replies_eq_ok_iff _ _).mp hreplies) (h replies)
  | error e => exact ⟨e.message, rfl⟩

end Handle

/-- A delivery follows the plan of its replies: it makes the attempts of the plan in order, up to
and including the first that fails, and ends with the failure of that one. The same holds of the
posts to Slack, where a custom payload that is no object is a failure without a post and an image
or an attachment is one post with all of it, and of a bot whose answer reads as a list of replies in
full. Of any other answer nothing is sent. -/
theorem delivery_follows_plan (sender : String) (replies : List Reply) :
    IsPlan sender replies (plan sender replies) ∧
    (∀ {σ ε : Type} (send : σ → Sending → Outcome σ ε) (s : σ),
      deliver send sender replies s = sendReplies send sender replies s) ∧
    (∀ {σ ε : Type} (fails : ℕ → Option ε) (s : σ),
      FollowsPlan fails ((plan sender replies).map .ok) s
        (deliver (scriptedChannel fails) sender replies (s, []))) ∧
    (∀ {σ : Type} (d : Destination) (results : ℕ → Except ApiError Posted) (s : σ),
      FollowsPlan (fun n => postFailure (results n))
        ((plan sender replies).flatMap (postSteps d)) s
        (deliver (d.send (scriptedPost results)) sender replies (s, []))) ∧
    (∀ (d : Destination) (recipient : String) (part : Part) (e : Failure),
      d.posts recipient part = .error e ↔ ∃ v, part = .custom v ∧ (∀ ms, v ≠ .object ms) ∧
        e = .invalidPayload "custom slack payload must be a JSON object") ∧
    (∀ (d : Destination) (recipient url : String), d.posts recipient (.image url) =
      .ok [⟨addressFields d recipient ++ imageFields url⟩]) ∧
    (∀ (d : Destination) (recipient : String) (v : Value), d.posts recipient (.attachment v) =
      .ok [⟨addressFields d recipient ++ [("attachments", .array [v])]⟩]) ∧
    ∀ {σ : Type} (url : String) (timeoutSecs : ℕ) (wire : Http.Wire σ) (s : σ) (m : Message),
      let (answer, s') := Http.send wire s (Bot.question url timeoutSecs m)
      (∀ found, Answers answer found →
        (∀ fails, FollowsPlan fails ((plan m.sender found).map .ok) s'
          ((Bot.endpoint url timeoutSecs).handle (besideRecord wire) (scriptedChannel fails)
            (s, []) m)) ∧
        ∀ (d : Destination) (results : ℕ → Except ApiError Posted),
          FollowsPlan (fun n => postFailure (results n))
            ((plan m.sender found).flatMap (postSteps d)) s'
            ((Bot.endpoint url timeoutSecs).handle (besideRecord wire)
              (d.send (scriptedPost results)) (s, []) m)) ∧
      ((∀ found, ¬Answers answer found) →
        ∀ {τ : Type} (send : σ × List τ → Sending → Outcome (σ × List τ) Failure), ∃ reason,
          (Bot.endpoint url timeoutSecs).handle (besideRecord wire) send (s, []) m =
            ⟨(s', []), [], some (.integration reason)⟩) := by
  refine ⟨isPlan_plan sender replies, fun send s => deliver_eq_sendReplies send sender replies s,
    fun fails s => followsPlan_scriptedChannel fails sender replies s,
    fun d results s => followsPlan_scriptedPost d results sender replies s,
    posts_eq_error_iff, posts_image, posts_attachment, ?_⟩
  intro σ url timeoutSecs wire s m
  refine ⟨fun found hanswers => ⟨fun fails => ?_, fun d results => ?_⟩, fun hnone τ send => ?_⟩
  · rw [handle_of_answers wire (scriptedChannel fails) s m hanswers]
    exact followsPlan_scriptedChannel fails m.sender found _
  · rw [handle_of_answers wire (d.send (scriptedPost results)) s m hanswers]
    exact followsPlan_scriptedPost d results m.sender found _
  · exact handle_of_not_answers wire send s m hnone

def askingMessage : Message :=
  ⟨"hello", "U1", "slack", ⟨none, none, []⟩⟩

/-- An answer whose second reply cannot be sent. -/
def threeRepliesAnswer : Http.Response where
  status := 200
  headers := []
  body := Text.utf8
    "[\x7b\"text\":\"hi\",\"image\":\"u\"\x7d,\x7b\"custom\":7\x7d,\x7b\"text\":\"bye\"\x7d]"
  complete := true

def threeReplies : List Reply :=
  [{ Reply.ofText "hi" with image := some "u" },
    { Reply.empty with custom := some (.number (.integer 7)) }, .ofText "bye"]

lemma answers_threeReplies : Answers (.ok threeRepliesAnswer) threeReplies :=
  .mk rfl (by decide) rfl rfl (.cons rfl (.cons rfl (.cons rfl .nil)))

def threeRepliesWire : Http.Wire Unit := fun s _ =>
  (.answered threeRepliesAnswer, s)

lemma send_threeRepliesWire :
    Http.send threeRepliesWire () (Bot.question "http://bot" 30 askingMessage) =
      (.ok threeRepliesAnswer, ()) := by
  have htarget : (Bot.question "http://bot" 30 askingMessage).target = .ok ⟨"http".toList,
      some ⟨[], [], .name "bot".toList, none⟩, "/".toList, none, none⟩ := by
    apply eq_ok_of_toOption
    decide +kernel
  simp only [Http.send, htarget, threeRepliesWire]

/-- A payload that is refused ends the delivery, with two posts made and the last reply unsent. -/
theorem delivery_follows_plan_of_three_replies :
    let d : Destination := ⟨none, some "7.0"⟩
    let o := (Bot.endpoint "http://bot" 30).handle (besideRecord threeRepliesWire)
      (d.send (scriptedPost fun _ => .ok ⟨"U1", none⟩)) ((), []) askingMessage
    FollowsPlan (fun _ => none) ((plan "U1" threeReplies).flatMap (postSteps d)) () o ∧
    delivered o.state.2 =
      [d.textPost "U1" "hi", ⟨addressFields d "U1" ++ imageFields "u"⟩] ∧
    o.failure = some (.invalidPayload "custom slack payload must be a JSON object") := by
  intro d o
  obtain ⟨-, -, -, -, -, -, -, hbot⟩ := delivery_follows_plan "U1" threeReplies
  have hasked := hbot "http://bot" 30 threeRepliesWire () askingMessage
  rw [send_threeRepliesWire] at hasked
  have hfollows := (hasked.1 threeReplies answers_threeReplies).2 d fun _ => .ok ⟨"U1", none⟩
  have hanswers : Answers (Http.send threeRepliesWire ()
      (Bot.question "http://bot" 30 askingMessage)).1 threeReplies := by
    rw [send_threeRepliesWire]
    exact answers_threeReplies
  have ho : o = _ := handle_of_answers threeRepliesWire _ () askingMessage hanswers
  rw [send_threeRepliesWire] at ho
  refine ⟨hfollows, ?_, ?_⟩
  · rw [ho]
    rfl
  · rw [ho]
    rfl

end SlackBridge.Proofs
