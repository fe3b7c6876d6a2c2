import Mathlib.Data.Int.Notation
import Mathlib.Tactic.Common
import SlackBridge.Server.Route

/-!
# Answers of the webhook

The decision table `Reacts` says what a request to the webhook comes to; it mentions neither the
handler nor other requests. A body that is too long to be read is turned away before the table is
asked (`Responds`), and no other route brings a message (`job_respond_eq_some_iff`).
-/

namespace SlackBridge.Proofs

open Dialogue Slack Server

/-- What the check of its headers says about a request. -/
def verdict (i : Inbox) (now : ℤ) (r : Incoming) : Except Rejection Unit :=
  i.verifier.verify (r.headers.text? "x-slack-request-timestamp")
    (r.headers.text? "x-slack-signature") r.body now

/-- What a request means, whoever sent it. -/
def meaning (i : Inbox) (r : Incoming) : Reading :=
  i.classify (r.headers.text? "content-type") r.body

/-- The reason that a request gives for being sent again, empty if it gives none. -/
def redeliveryReason (f : RedeliveryFilter) (hs : Http.Headers) : String :=
  ((hs.text? f.reasonHeader).map Text.trim).getD ""

/-- The number header is there and not blank, and the reason is one to drop a redelivery for. -/
def IsRedelivery (f : RedeliveryFilter) (hs : Http.Headers) : Prop :=
  (∃ number, hs.text? f.numberHeader = some number ∧ Text.isBlankText number = false) ∧
    redeliveryReason f hs ∈ f.ignored

/-- What a request comes to. -/
inductive Reacts (i : Inbox) (now : ℤ) (r : Incoming) : Reaction → Prop
  | unsigned {e : Rejection} (hv : verdict i now r = .error e) :
      Reacts i now r ⟨.text 400 notSigned, [.signatureRejected r.id e.message], none⟩
  | challenge {text : String} (hv : verdict i now r = .ok ())
      (hm : (meaning i r).result = .ok (.challenge text)) :
      Reacts i now r ⟨.json (.object [("challenge", .string text)]),
        (meaning i r).log ++ [.urlVerified r.id], none⟩
  | ignored {reason : IgnoreReason} (hv : verdict i now r = .ok ())
      (hm : (meaning i r).result = .ok (.ignored reason)) :
      Reacts i now r ⟨.text 200 reason.text, (meaning i r).log, none⟩
  | dropped {m : Message} {number : String} (hv : verdict i now r = .ok ())
      (hm : (meaning i r).result = .ok (.message m))
      (hnumber : r.headers.text? i.redeliveries.numberHeader = some number)
      (hagain : IsRedelivery i.redeliveries r.headers) :
      Reacts i now r ⟨⟨201, [("x-slack-no-retry", "1")], ""⟩,
        (meaning i r).log ++ [.redeliveryDropped r.id (Text.trim number)
          (redeliveryReason i.redeliveries r.headers)], none⟩
  | dispatched {m : Message} (hv : verdict i now r = .ok ())
      (hm : (meaning i r).result = .ok (.message m))
      (hfirst : ¬IsRedelivery i.redeliveries r.headers) :
      Reacts i now r ⟨.blank 200,
        (meaning i r).log ++ [.messageReceived r.id m.sender (m.metadata.outChannel.getD "")],
        some ⟨r.id, m, i.destinationFor m.metadata⟩⟩
  | unprocessable {e : Unprocessable} (hv : verdict i now r = .ok ())
      (hm : (meaning i r).result = .error e) :
      Reacts i now r ⟨.text 500 notProcessed,
        (meaning i r).log ++ [.unprocessable r.id e.message], none⟩

lemma inspect_lookup_eq_some_iff (f : RedeliveryFilter) (header : String → Option String)
    (again : Redelivery) : f.inspect header = some again ↔ ∃ number,
      header f.numberHeader = some number ∧ Text.isBlankText number = false ∧
      ((header f.reasonHeader).map Text.trim).getD "" ∈ f.ignored ∧
      again = ⟨Text.trim number, ((header f.reasonHeader).map Text.trim).getD ""⟩ := by
  unfold RedeliveryFilter.inspect Text.trimmed?
  cases header f.numberHeader with
  | none => simp
  | some number =>
    cases hblank : Text.isBlankText number with
    | true => simp [hblank]
    | false =>
      simp only [Option.bind_some, hblank, Bool.false_eq_true, if_false]
      rw [Option.ite_none_right_eq_some, List.contains_iff_mem, Option.some.injEq]
      constructor
      · rintro ⟨hreason, rfl⟩
        exact ⟨number, rfl, hblank, hreason, rfl⟩
      · rintro ⟨_, hother, -, hreason, rfl⟩
        cases hother
        exact ⟨hreason, rfl⟩

lemma inspect_eq_some_iff (f : RedeliveryFilter) (hs : Http.Headers) (again : Redelivery) :
    f.inspect hs.text? = some again ↔ ∃ number, hs.text? f.numberHeader = some number ∧
      IsRedelivery f hs ∧ again = ⟨Text.trim number, redeliveryReason f hs⟩ := by
  rw [inspect_lookup_eq_some_iff]
  constructor
  · rintro ⟨number, hnumber, hblank, hreason, rfl⟩
    exact ⟨number, hnumber, ⟨⟨number, hnumber, hblank⟩, hreason⟩, rfl⟩
  · rintro ⟨number, hnumber, ⟨⟨_, hother, hblank⟩, hreason⟩, rfl⟩
    cases hnumber.symm.trans hother
    exact ⟨number, hnumber, hblank, hreason, rfl⟩

lemma inspect_eq_none_iff (f : RedeliveryFilter) (hs : Http.Headers) :
    f.inspect hs.text? = none ↔ ¬IsRedelivery f hs := by
  rw [← not_iff_not, not_not, ← ne_eq, Option.ne_none_iff_exists']
  simp only [inspect_eq_some_iff]
  constructor
  · rintro ⟨_, _, _, h, _⟩
    exact h
  · intro h
    obtain ⟨number, hnumber, _⟩ := h.1
    exact ⟨_, number, hnumber, h, rfl⟩

/-! ### One request -/

section Request

variable {i : Inbox} {now : ℤ} {r : Incoming}

lemma react_of_error {e : Rejection} (hv : verdict i now r = .error e) :
    react i now r = ⟨.text 400 notSigned, [.signatureRejected r.id e.message], none⟩ := by
  unfold verdict at hv
  simp only [react, timestampHeader, signatureHeader, hv]

lemma react_of_ok (hv : verdict i now r = .ok ()) :
    react i now r =
      { reactTo i r (meaning i r).result with
        log := (meaning i r).log ++ (reactTo i r (meaning i r).result).log } := by
  unfold verdict at hv
  simp only [react, timestampHeader, signatureHeader, hv]
  rfl

lemma react_of_reacts {reaction : Reaction} (h : Reacts i now r reaction) :
    react i now r = reaction := by
  cases h with
  | unsigned hv => exact react_of_error hv
  | challenge hv hm =>
    rw [react_of_ok hv, hm]
    rfl
  | ignored hv hm =>
    rw [react_of_ok hv, hm]
    simp only [reactTo, List.append_nil]
  | dropped hv hm hnumber hagain =>
    rw [react_of_ok hv, hm]
    simp only [reactTo, (inspect_eq_some_iff _ _ _).mpr ⟨_, hnumber, hagain, rfl⟩]
    rfl
  | dispatched hv hm hfirst =>
    rw [react_of_ok hv, hm]
    simp only [reactTo, (inspect_eq_none_iff _ _).mpr hfirst]
    rfl
  | unprocessable hv hm =>
    rw [react_of_ok hv, hm]
    rfl

/-- The table has a line for every request. -/
lemma exists_reacts (i : Inbox) (now : ℤ) (r : Incoming) : ∃ reaction, Reacts i now r reaction := by
  cases hv : verdict i now r with
  | error e => exact ⟨_, .unsigned hv⟩
  | ok u =>
    cases hm : (meaning i r).result with
    | error e => exact ⟨_, .unprocessable hv hm⟩
    | ok delivery =>
      cases delivery with
      | challenge text => exact ⟨_, .challenge hv hm⟩
      | ignored reason => exact ⟨_, .ignored hv hm⟩
      | message m =>
        by_cases hagain : IsRedelivery i.redeliveries r.headers
        · obtain ⟨number, hnumber, _⟩ := hagain.1
          exact ⟨_, .dropped hv hm hnumber hagain⟩
        · exact ⟨_, .dispatched hv hm hagain⟩

/-- The table is what the server does about a request to the webhook whose body it reads. -/
lemma respond_webhook {routes : List Route} (hroute : Route.find? routes r.target = some .webhook)
    (hmethod : r.method = "POST") (health : Json.Value) :
    respond routes i health now r =
      if r.body.length > bodyLimit then ⟨tooLarge, [], none⟩ else react i now r := by
  have hallowed : Route.webhook.methods.contains r.method = true := by
    rw [hmethod]
    rfl
  unfold respond
  rw [hroute]
  simp only [hallowed, if_true]

theorem react_eq_iff (reaction : Reaction) :
    react i now r = reaction ↔ Reacts i now r reaction := by
  refine ⟨fun h => ?_, react_of_reacts⟩
  obtain ⟨other, hother⟩ := exists_reacts i now r
  rw [react_of_reacts hother] at h
  exact h ▸ hother

end Request

/-! ### Requests of any kind -/

/-- A request to post something to the webhook. -/
structure PostsToWebhook (routes : List Route) (r : Incoming) : Prop where
  route : Route.find? routes r.target = some .webhook
  method : r.method = "POST"

/-- What a request to the webhook comes to. A body that is too long is not read. -/
inductive Responds (i : Inbox) (now : ℤ) (r : Incoming) : Reaction → Prop
  | tooLong (h : bodyLimit < r.body.length) : Responds i now r
      ⟨.text 413 "Failed to buffer the request body: length limit exceeded", [], none⟩
  | read {reaction : Reaction} (h : r.body.length ≤ bodyLimit) (hreacts : Reacts i now r reaction) :
      Responds i now r reaction

/-- A request brings a message to the handler: it is posted to the webhook with a body that is read,
it is signed, it means the message, and it is no redelivery to drop. -/
structure Brings (routes : List Route) (i : Inbox) (now : ℤ) (r : Incoming) (m : Message) : Prop
    extends PostsToWebhook routes r where
  fits : r.body.length ≤ bodyLimit
  signed : verdict i now r = .ok ()
  means : (meaning i r).result = .ok (.message m)
  first : i.redeliveries.inspect r.headers.text? = none

section Respond

variable {routes : List Route} {i : Inbox} {health : Json.Value} {now : ℤ} {r r' : Incoming}

lemma respond_eq_iff (h : PostsToWebhook routes r) (reaction : Reaction) :
    respond routes i health now r = reaction ↔ Responds i now r reaction := by
  rw [respond_webhook h.route h.method]
  by_cases hlong : bodyLimit < r.body.length
  · rw [if_pos hlong]
    constructor
    · rintro rfl
      exact .tooLong hlong
    · intro hresponds
      cases hresponds with
      | tooLong => rfl
      | read hfits => exact absurd hlong (Nat.not_lt.mpr hfits)
  · rw [if_neg hlong, react_eq_iff]
    refine ⟨.read (Nat.not_lt.mp hlong), fun hresponds => ?_⟩
    cases hresponds with
    | tooLong h => exact absurd h hlong
    | read _ hreacts => exact hreacts

/-- Whatever is not posted to the webhook is answered without a message and without a trace in the
log. -/
lemma respond_of_not_posts (h : ¬PostsToWebhook routes r) :
    (respond routes i health now r).job = none ∧ (respond routes i health now r).log = [] := by
  unfold respond
  cases hroute : Route.find? routes r.target with
  | none => exact ⟨rfl, rfl⟩
  | some route =>
    dsimp only
    split
    · next hallowed =>
      cases route with
      | status | health => exact ⟨rfl, rfl⟩
      | webhook => exact absurd ⟨hroute, by simpa [Route.methods] using hallowed⟩ h
    · exact ⟨rfl, rfl⟩

lemma job_react_eq_some_iff (j : Job) : (react i now r).job = some j ↔ ∃ m,
    verdict i now r = .ok () ∧ (meaning i r).result = .ok (.message m) ∧
      i.redeliveries.inspect r.headers.text? = none ∧
      j = ⟨r.id, m, i.destinationFor m.metadata⟩ := by
  constructor
  · obtain ⟨reaction, h⟩ := exists_reacts i now r
    rw [react_of_reacts h]
    cases h with
    | dispatched hv hm hfirst =>
      rintro ⟨⟩
      exact ⟨_, hv, hm, (inspect_eq_none_iff _ _).mpr hfirst, rfl⟩
    | _ => exact fun hnone => nomatch hnone
  · rintro ⟨m, hv, hm, hfirst, rfl⟩
    rw [react_of_reacts (.dispatched hv hm ((inspect_eq_none_iff _ _).mp hfirst))]

lemma job_respond_eq_some_iff (j : Job) : (respond routes i health now r).job = some j ↔
    ∃ m, Brings routes i now r m ∧ j = ⟨r.id, m, i.destinationFor m.metadata⟩ := by
  by_cases hposts : PostsToWebhook routes r
  · rw [respond_webhook hposts.route hposts.method]
    split
    · next hlong =>
      constructor
      · intro hnone
        cases hnone
      · rintro ⟨m, hbrings, -⟩
        exact absurd hlong (Nat.not_lt.mpr hbrings.fits)
    · next hshort =>
      rw [job_react_eq_some_iff]
      constructor
      · rintro ⟨m, hv, hm, hfirst, hj⟩
        exact ⟨m, ⟨hposts, Nat.not_lt.mp hshort, hv, hm, hfirst⟩, hj⟩
      · rintro ⟨m, hbrings, hj⟩
        exact ⟨m, hbrings.signed, hbrings.means, hbrings.first, hj⟩
  · rw [(respond_of_not_posts hposts).1]
    constructor
    · intro hnone
      cases hnone
    · rintro ⟨m, hbrings, -⟩
      exact absurd hbrings.toPostsToWebhook hposts

/-- A message that is handed over is answered with an empty 200. -/
lemma Brings.responds {m : Message} (h : Brings routes i now r m) : Responds i now r ⟨.blank 200,
    (meaning i r).log ++ [.messageReceived r.id m.sender (m.metadata.outChannel.getD "")],
    some ⟨r.id, m, i.destinationFor m.metadata⟩⟩ :=
  .read h.fits (.dispatched h.signed h.means ((inspect_eq_none_iff _ _).mp h.first))

end Respond

/-! ### Failures in the log -/

def isFailureReport (e : Log.Event) : Bool :=
  e.record.name == "slack.webhook.handler_failed"

lemma countP_readEventPayload_log (i : Inbox) (p : EventPayload) :
    (i.readEventPayload p).log.countP isFailureReport = 0 := by
  unfold Inbox.readEventPayload Inbox.readEvent
  repeat' split
  all_goals rfl

lemma countP_readForm_log (i : Inbox) (body : Bytes) :
    (i.readForm body).log.countP isFailureReport = 0 := by
  unfold Inbox.readForm Inbox.readInteraction
  repeat' split
  all_goals rfl

/-- Reading a request reports no failure. -/
lemma countP_meaning_log (i : Inbox) (r : Incoming) :
    (meaning i r).log.countP isFailureReport = 0 := by
  unfold meaning Inbox.classify
  repeat' split
  · rfl
  · exact countP_readEventPayload_log i _
  · exact countP_readForm_log i _
  · rfl

lemma countP_react_log (i : Inbox) (now : ℤ) (r : Incoming) :
    (react i now r).log.countP isFailureReport = 0 := by
  obtain ⟨reaction, h⟩ := exists_reacts i now r
  rw [react_of_reacts h]
  cases h with
  | unsigned hv => rfl
  | ignored hv hm => exact countP_meaning_log i r
  | challenge hv hm | dropped hv hm | dispatched hv hm | unprocessable hv hm =>
    rw [List.countP_append, countP_meaning_log]
    rfl

/-- Of its headers only the three that are named matter to the answer of a request that brings no
message. -/
lemma answer_eq_of_not_message {i : Inbox} {now : ℤ} {r r' : Incoming} (hbody : r'.body = r.body)
    (hheaders : ∀ name ∈ ["x-slack-request-timestamp", "x-slack-signature", "content-type"],
      r'.headers.text? name = r.headers.text? name)
    (hm : ∀ m, verdict i now r = .ok () → (meaning i r).result ≠ .ok (.message m)) :
    (react i now r').answer = (react i now r).answer := by
  have hverdict : verdict i now r' = verdict i now r := by
    unfold verdict
    rw [hheaders _ (by decide), hheaders "x-slack-signature" (by decide), hbody]
  have hmeaning : meaning i r' = meaning i r := by
    unfold meaning
    rw [hheaders _ (by decide), hbody]
  obtain ⟨reaction, h⟩ := exists_reacts i now r
  rw [react_of_reacts h]
  cases h with
  | unsigned hv => rw [react_of_reacts (.unsigned (hverdict.trans hv))]
  | challenge hv hc =>
    rw [react_of_reacts (.challenge (hverdict.trans hv) (hmeaning ▸ hc))]
  | ignored hv hi => rw [react_of_reacts (.ignored (hverdict.trans hv) (hmeaning ▸ hi))]
  | unprocessable hv he =>
    rw [react_of_reacts (.unprocessable (hverdict.trans hv) (hmeaning ▸ he))]
  | dropped hv hmessage | dispatched hv hmessage => exact absurd hmessage (hm _ hv)

section Respond

variable {routes : List Route} {i : Inbox} {health : Json.Value} {now : ℤ} {r r' : Incoming}

lemma countP_respond_log :
    (respond routes i health now r).log.countP isFailureReport = 0 := by
  by_cases hposts : PostsToWebhook routes r
  · rw [respond_webhook hposts.route hposts.method]
    split
    · rfl
    · exact countP_react_log i now r
  · rw [(respond_of_not_posts hposts).2]
    rfl

lemma answer_respond_eq_of_not_message (hposts : PostsToWebhook routes r)
    (hposts' : PostsToWebhook routes r') (hbody : r'.body = r.body)
    (hheaders : ∀ name ∈ ["x-slack-request-timestamp", "x-slack-signature", "content-type"],
      r'.headers.text? name = r.headers.text? name)
    (hm : ∀ m, verdict i now r = .ok () → (meaning i r).result ≠ .ok (.message m)) :
    (respond routes i health now r').answer = (respond routes i health now r).answer := by
  rw [respond_webhook hposts.route hposts.method, respond_webhook hposts'.route hposts'.method,
    hbody]
  split
  · rfl
  · exact answer_eq_of_not_message hbody hheaders hm

end Respond

end SlackBridge.Proofs
