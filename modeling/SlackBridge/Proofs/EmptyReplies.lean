import SlackBridge.Proofs.DeliveryPlan

/-!
# Empty replies

A delivery skips the replies that are empty. It could as well send them: an empty reply makes no
call, and a reply without elements that makes no call is empty. `Silent` says which replies make no
call at all; they may also hold elements, as long as none of these has a caption.
-/

namespace SlackBridge.Proofs

open Json Dialogue

/-- A reply of which nothing is sent. -/
structure Silent (r : Reply) : Prop where
  text : ∀ text, r.text = some text → text = ""
  image : r.image = none
  buttons : r.buttons = []
  attachment : r.attachment = none
  custom : r.custom = none
  elements : ∀ element ∈ r.elements, Caption element none

/-- An empty reply is a silent one without elements. -/
lemma isEmpty_iff_silent (r : Reply) : r.isEmpty = true ↔ Silent r ∧ r.elements = [] := by
  rw [isEmpty_iff]
  constructor
  · intro h
    have hnone : ∀ element ∈ r.elements, Caption element none := by
      rw [h.elements]
      exact List.forall_mem_nil _
    exact ⟨⟨h.text, h.image, h.buttons, h.attachment, h.custom, hnone⟩, h.elements⟩
  · rintro ⟨h, helements⟩
    exact ⟨h.text, h.image, h.buttons, h.attachment, h.custom, helements⟩

/-! ### Replies without parts -/

lemma promptParts_eq_nil_iff (r : Reply) :
    r.promptParts = [] ↔ r.buttons = [] ∧ ∀ text, r.text = some text → text = "" := by
  constructor
  · intro h
    have hopening := opening_promptParts r
    rw [h] at hopening
    cases hopening with
    | nothing hbuttons htext => exact ⟨hbuttons, htext⟩
  · rintro ⟨hbuttons, htext⟩
    have hblank : r.text.getD "" = "" := by
      cases h : r.text with
      | none => rfl
      | some text => exact htext text h
    unfold Reply.promptParts
    rw [if_neg (not_not_intro hbuttons), if_neg (not_not_intro hblank)]

lemma elementText?_eq_none_iff (element : Value) :
    elementText? element = none ↔ Caption element none := by
  constructor
  · intro h
    exact h ▸ caption_elementText? element
  · intro h
    cases h with
    | neither htitle hsubtitle =>
      unfold elementText?
      dsimp only
      rw [(getD_string_eq_empty_iff element "title").mpr htitle,
        (getD_string_eq_empty_iff element "subtitle").mpr hsubtitle]
      rfl

lemma elementParts_eq_nil_iff (elements : List Value) :
    elementParts elements = [] ↔ ∀ element ∈ elements, Caption element none := by
  unfold elementParts
  simp only [List.filterMap_eq_nil_iff, Option.map_eq_none_iff, elementText?_eq_none_iff]

lemma parts_eq_nil_iff (r : Reply) : r.parts = [] ↔ Silent r := by
  unfold Reply.parts
  simp only [List.append_eq_nil_iff, List.map_eq_nil_iff, Option.toList_eq_nil_iff,
    promptParts_eq_nil_iff, elementParts_eq_nil_iff]
  constructor
  · rintro ⟨⟨⟨⟨⟨hbuttons, htext⟩, hcustom⟩, himage⟩, hattachment⟩, helements⟩
    exact ⟨htext, himage, hbuttons, hattachment, hcustom, helements⟩
  · rintro ⟨htext, himage, hbuttons, hattachment, hcustom, helements⟩
    exact ⟨⟨⟨⟨⟨hbuttons, htext⟩, hcustom⟩, himage⟩, hattachment⟩, helements⟩

/-! ### Calls -/

section Calls

variable {σ ε : Type} (send : σ → Sending → Outcome σ ε)

/-- A reply makes no call exactly if it is silent, whatever the channel does with a call. -/
lemma recorded_sendReply_eq_nil_iff (recipient : String) (r : Reply) (s : σ) :
    (sendReply (recording send) recipient r (s, [])).state.2 = [] ↔ Silent r := by
  rw [← runAll_sendings]
  have hstep : ∀ s a, (recording send s a).state.2 = s.2 ++ [a] := fun _ _ => rfl
  obtain ⟨made, hstate, -, hnone, -⟩ := recorded_runAll hstep (r.sendings recipient) (s, [])
  rw [hstate, List.nil_append, hnone, ← parts_eq_nil_iff]
  unfold Reply.sendings
  rw [List.map_eq_nil_iff]

lemma sendReply_of_silent {r : Reply} (h : Silent r) (recipient : String) (s : σ) :
    sendReply send recipient r s = .unchanged s := by
  rw [← runAll_sendings, Reply.sendings, (parts_eq_nil_iff r).mpr h]
  rfl

/-- Sends reply after reply, whether they hold anything or not. -/
def sendEach (sender : String) : List Reply → σ → Outcome σ ε
  | [], s => .unchanged s
  | r :: rest, s =>
    (sendReply send (r.recipient.getD sender) r s).andThen (sendEach sender rest)

lemma unchanged_andThen (s : σ) (next : σ → Outcome σ ε) :
    (Outcome.unchanged s).andThen next = next s := by
  unfold Outcome.andThen Outcome.unchanged
  rfl

/-- Sending the empty replies too comes to the same. -/
lemma deliver_eq_sendEach (sender : String) (replies : List Reply) (s : σ) :
    deliver send sender replies s = sendEach send sender replies s := by
  rw [deliver_eq_sendReplies]
  induction replies generalizing s with
  | nil => rfl
  | cons r rest ih =>
    rw [sendReplies, sendEach]
    split_ifs with hempty
    · have hsilent := ((isEmpty_iff_silent r).mp hempty).1
      rw [sendReply_of_silent send hsilent, unchanged_andThen]
      exact ih s
    · congr 1
      funext s
      exact ih s

lemma unrecorded_deliver_recording (sender : String) (replies : List Reply) (s : σ) :
    unrecorded (deliver (recording send) sender replies (s, [])) =
      deliver send sender replies s :=
  unrecorded_runAll (fun _ _ => rfl) _ (s, [])

end Calls

/-- To leave out the empty replies makes no difference to a delivery, neither to the calls that it
makes nor to what comes of them, whatever the channel does with a call. And no reply is taken for
empty that would make a call: without elements it makes none exactly if it is empty. -/
theorem skipping_empty_replies (sender : String) (replies : List Reply) :
    (∀ {σ ε : Type} (send : σ → Sending → Outcome σ ε) (s : σ),
      deliver send sender replies s = sendEach send sender replies s ∧
      (deliver (recording send) sender replies (s, [])).state.2 =
        (sendEach (recording send) sender replies (s, [])).state.2 ∧
      unrecorded (deliver (recording send) sender replies (s, [])) =
        deliver send sender replies s) ∧
    ∀ (r : Reply) (recipient : String) {σ ε : Type} (send : σ → Sending → Outcome σ ε) (s : σ),
      let calls := (sendReply (recording send) recipient r (s, [])).state.2
      (r.isEmpty = true → calls = []) ∧
      (r.isEmpty = false → r.elements = [] → calls ≠ []) ∧
      (calls = [] ↔ Silent r) := by
  refine ⟨fun send s => ⟨deliver_eq_sendEach send sender replies s, ?_,
    unrecorded_deliver_recording send sender replies s⟩, ?_⟩
  · rw [deliver_eq_sendEach]
  · intro r recipient σ ε send s calls
    have hcalls : calls = [] ↔ Silent r := recorded_sendReply_eq_nil_iff send recipient r s
    refine ⟨fun hempty => ?_, fun hempty helements hnone => ?_, hcalls⟩
    · exact hcalls.mpr ((isEmpty_iff_silent r).mp hempty).1
    · have htrue := (isEmpty_iff_silent r).mpr ⟨hcalls.mp hnone, helements⟩
      rw [hempty] at htrue
      cases htrue

end SlackBridge.Proofs
