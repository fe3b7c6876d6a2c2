import Mathlib.Tactic.Common
import SlackBridge.Proofs.TextForms
import SlackBridge.Proofs.Waits

/-!
# Attempts of a call

A call of the Web API over an arbitrary script of exchanges. Its length is the place of the first
exchange that is not worth repeating, as far as the policy lets it get; its requests differ in
their number only, its waits are those of the policy, and its result is what the last exchange
says.
-/

namespace SlackBridge.Proofs

open Json Slack

/-! ### The script of a call -/

/-- A wire that answers by a script and keeps the requests that it carries. -/
def scripted (script : ℕ → Http.Exchange) : Http.Wire (List Http.Request) := fun sent r =>
  (script sent.length, sent ++ [r])

/-- The exchanges that may go better the next time. -/
inductive WorthRepeating : Http.Exchange → Prop
  | refused : WorthRepeating .refused
  | timedOut : WorthRepeating .timedOut
  | answered {r : Http.Response} (h : r.status = 429 ∨ (500 ≤ r.status ∧ r.status ≤ 599)) :
    WorthRepeating (.answered r)

/-- A call of `n` attempts goes on while it is worth it, and stops where it is not or where the
limit is. -/
structure IsLength (limit : ℕ) (script : ℕ → Http.Exchange) (n : ℕ) : Prop where
  pos : 1 ≤ n
  le : n ≤ limit
  repeated : ∀ k, k + 1 < n → WorthRepeating (script k)
  stopped : n < limit → ¬WorthRepeating (script (n - 1))

/-- The text by which a failed exchange is known. -/
def sendingError (url : Url) : String :=
  "error sending request for url (" ++ url.text ++ ")"

def repeatCause (url : Url) : Http.Exchange → Log.RetryCause
  | .answered r => .status r.status
  | _ => .transport (sendingError url)

/-- The wait that an exchange asks for. -/
def askedWait : Http.Exchange → Option UInt64
  | .answered r => Attempt.retryAfter? r
  | _ => none

/-- The wait after attempt `k`, counted from 0. -/
def waitAfter (policy : RetryPolicy) (script : ℕ → Http.Exchange) (k : ℕ) : ℕ :=
  (policy.delay (.ofNat (k + 1)) (askedWait (script k))).toNat

/-- What an error quotes of the body of an answer. -/
inductive Quotes (r : Http.Response) : String → Prop
  | unreadable (h : r.complete = false) : Quotes r ""
  | whole {text : String} (h : r.complete = true) (htext : Text.lossyText r.body = text)
      (hlength : text.length ≤ 400) : Quotes r text
  | cut {start rest : String} (h : r.complete = true)
      (htext : Text.lossyText r.body = start ++ rest) (hstart : start.length = 400)
      (hrest : rest ≠ "") : Quotes r (start ++ "...")

/-- What a call makes of its last exchange. -/
inductive Concludes {α : Type} (method : String) (decode : Decoder α) (url : Url) :
    Http.Exchange → Except ApiError α → Prop
  | read {r : Http.Response} {a : α} (hs : 200 ≤ r.status ∧ r.status ≤ 299)
      (ha : r.json? decode = some a) : Concludes method decode url (.answered r) (.ok a)
  | unreadable {r : Http.Response} (hs : 200 ≤ r.status ∧ r.status ≤ 299)
      (ha : r.json? decode = none) : Concludes method decode url (.answered r)
        (.error (.decode method "error decoding response body"))
  | status {r : Http.Response} {body : String} (hs : ¬(200 ≤ r.status ∧ r.status ≤ 299))
      (hbody : Quotes r body) : Concludes method decode url (.answered r)
        (.error (.status method r.status body))
  | transport {exchange : Http.Exchange} (h : ∀ r, exchange ≠ .answered r) :
    Concludes method decode url exchange (.error (.transport method (sendingError url)))

/-! ### One attempt -/

/-- What an exchange with the given URL counts as. -/
def outcome (url : Url) : Http.Exchange → Attempt
  | .refused => .error (.refused url)
  | .timedOut => .error (.timedOut url)
  | .closed => .error (.closed url)
  | .answered r => .ok r

lemma send_scripted {r : Http.Request} {url : Url} (h : r.target = .ok url)
    (script : ℕ → Http.Exchange) (sent : List Http.Request) :
    Http.send (scripted script) sent r = (outcome url (script sent.length), sent ++ [r]) := by
  simp only [Http.send, h, scripted]
  cases script sent.length <;> rfl

lemma isRetryableStatus_iff (status : ℕ) :
    isRetryableStatus status = true ↔ status = 429 ∨ (500 ≤ status ∧ status ≤ 599) := by
  unfold isRetryableStatus
  rw [Bool.or_eq_true, Bool.and_eq_true, beq_iff_eq, decide_eq_true_iff, decide_eq_true_iff,
    Nat.lt_succ_iff]

lemma isSuccess_iff (r : Http.Response) :
    r.isSuccess = true ↔ 200 ≤ r.status ∧ r.status ≤ 299 := by
  unfold Http.Response.isSuccess
  rw [Bool.and_eq_true, decide_eq_true_iff, decide_eq_true_iff, Nat.lt_succ_iff]

lemma retry?_of_worthRepeating (url : Url) {exchange : Http.Exchange}
    (h : WorthRepeating exchange) :
    Attempt.retry? (outcome url exchange) =
      some (repeatCause url exchange, askedWait exchange) := by
  cases h with
  | refused => rfl
  | timedOut => rfl
  | @answered r h =>
    have hsuccess : r.isSuccess = false := by
      rw [Bool.eq_false_iff, Ne, isSuccess_iff]
      omega
    have hretryable := (isRetryableStatus_iff r.status).mpr h
    simp only [outcome, Attempt.retry?, hsuccess, hretryable, Bool.not_false, Bool.and_self,
      if_true, repeatCause, askedWait]

lemma retry?_of_not_worthRepeating (url : Url) {exchange : Http.Exchange}
    (h : ¬WorthRepeating exchange) :
    Attempt.retry? (outcome url exchange) = none := by
  cases exchange with
  | refused => exact absurd .refused h
  | timedOut => exact absurd .timedOut h
  | closed => rfl
  | answered r =>
    have hstatus : isRetryableStatus r.status = false := by
      rw [Bool.eq_false_iff, Ne, isRetryableStatus_iff]
      exact fun hs => h (.answered hs)
    simp only [outcome, Attempt.retry?, hstatus, Bool.and_false, Bool.false_eq_true, if_false]

lemma quotes_shorten (r : Http.Response) :
    Quotes r (Attempt.shorten Attempt.bodyLimit r.text) := by
  unfold Http.Response.text
  cases hc : r.complete with
  | false => exact .unreadable hc
  | true =>
    rw [if_pos rfl]
    unfold Attempt.shorten
    dsimp only
    generalize htext : Text.lossyText r.body = text
    by_cases hlength : text.toList.length ≤ Attempt.bodyLimit
    · rw [if_pos hlength]
      exact .whole hc htext hlength
    · rw [if_neg hlength, String.ofList_append]
      have hparts : text =
          String.ofList (text.toList.take 400) ++ String.ofList (text.toList.drop 400) := by
        rw [← String.ofList_append, List.take_append_drop, String.ofList_toList]
      have hlong : 400 < text.toList.length := Nat.not_le.mp hlength
      refine .cut hc (htext.trans hparts) ?_ ?_
      · rw [String.length_ofList, List.length_take]
        exact Nat.min_eq_left (Nat.le_of_lt hlong)
      · intro hempty
        have hrest := congrArg String.length hempty
        rw [String.length_ofList, List.length_drop, String.length_empty] at hrest
        omega

/-- The result of a call is that of its last exchange. -/
lemma concludes_conclude {α : Type} (method : String) (decode : Decoder α) (url : Url)
    (exchange : Http.Exchange) :
    Concludes method decode url exchange ((outcome url exchange).conclude method decode) := by
  cases exchange with
  | refused | timedOut | closed => exact .transport (fun r h => nomatch h)
  | answered r =>
    unfold outcome Attempt.conclude
    dsimp only
    by_cases hs : r.isSuccess = true
    · rw [if_pos hs]
      have hstatus := (isSuccess_iff r).mp hs
      cases ha : r.json? decode with
      | none => exact .unreadable hstatus ha
      | some a => exact .read hstatus ha
    · rw [if_neg hs]
      exact .status (fun h => hs ((isSuccess_iff r).mpr h)) (quotes_shorten r)

/-! ### One request after another -/

section Requests

variable (c : Client) (method : String) (body : Option Value)

lemma isLegalValue_toString (n : ℕ) : Http.isLegalValue (toString n) = true := by
  unfold Http.isLegalValue
  rw [Nat.toString_eq_repr, Nat.toList_repr, List.all_eq_true]
  intro d hd
  have hdigit := Nat.isDigit_of_mem_toDigits (by decide) (by decide) hd
  unfold Char.isDigit at hdigit
  rw [Bool.and_eq_true, decide_eq_true_iff, decide_eq_true_iff] at hdigit
  have hlow : 48 ≤ d.toNat := hdigit.1
  have hhigh : d.toNat ≤ 57 := hdigit.2
  have hbelow : d.toNat ≠ 0x7f := by omega
  simp only [Bool.or_eq_true, Bool.and_eq_true, decide_eq_true_eq, bne_iff_ne]
  exact .inr ⟨Nat.le_trans (by decide) hlow, hbelow⟩

/-- Which attempt it is makes no difference to where a request goes. -/
lemma target_request (k : ℕ) :
    (c.request method body k).target = (c.request method body 0).target := by
  unfold Http.Request.target
  simp only [Client.request, List.cons_append, List.all_cons, isLegalValue_toString]

lemma not_isTransient_of_target {r : Http.Request} {e : Http.Failure} (h : r.target = .error e) :
    e.isTransient = false := by
  unfold Http.Request.target at h
  split at h
  · cases h
    rfl
  split at h
  · cases h
    rfl
  split at h
  · cases h
    rfl
  split at h
  · cases h
  · cases h
    rfl

end Requests

/-! ### The attempts of a call -/

lemma isLength_one {limit : ℕ} (hlimit : 1 ≤ limit) {script : ℕ → Http.Exchange}
    (hstopped : 1 < limit → ¬WorthRepeating (script 0)) : IsLength limit script 1 :=
  ⟨Nat.le_refl 1, hlimit, fun k hk => absurd hk (by omega), hstopped⟩

lemma IsLength.succ {limit n : ℕ} {script : ℕ → Http.Exchange}
    (h : IsLength limit (fun k => script (k + 1)) n) (hfirst : WorthRepeating (script 0)) :
    IsLength (limit + 1) script (n + 1) := by
  have hpos := h.pos
  refine ⟨by omega, Nat.succ_le_succ h.le, ?_, ?_⟩
  · intro k hk
    cases k with
    | zero => exact hfirst
    | succ k => exact h.repeated k (Nat.lt_of_succ_lt_succ hk)
  · intro hn
    have hlast := h.stopped (Nat.lt_of_succ_lt_succ hn)
    rwa [Nat.sub_add_cancel hpos] at hlast

lemma IsLength.unique {limit n m : ℕ} {script : ℕ → Http.Exchange}
    (hn : IsLength limit script n) (hm : IsLength limit script m) : n = m := by
  have hnot : ∀ {a b : ℕ}, IsLength limit script a → IsLength limit script b → ¬a < b := by
    intro a b ha hb hab
    have hpos := ha.pos
    exact ha.stopped (Nat.lt_of_lt_of_le hab hb.le) (hb.repeated (a - 1) (by omega))
  exact Nat.le_antisymm (Nat.not_lt.mp (hnot hm hn)) (Nat.not_lt.mp (hnot hn hm))

/-- What is logged when attempt `k`, counted from 0, is not the last one. -/
def retried (policy : RetryPolicy) (method : String) (url : Url) (script : ℕ → Http.Exchange)
    (k : ℕ) : Log.Event :=
  .callRetried method (k + 1) (repeatCause url (script k)) (waitAfter policy script k)

lemma map_range_succ {α : Type} (f : ℕ → α) (n : ℕ) :
    (List.range (n + 1)).map f = f 0 :: (List.range n).map fun k => f (k + 1) := by
  rw [List.range_succ_eq_map, List.map_cons, List.map_map]
  rfl

/-- A run of attempts from any point of the script on. It is as long as the rest of the script
makes it. -/
lemma attemptsFrom_scripted {requests : ℕ → Http.Request} {url : Url}
    (htarget : ∀ k, (requests k).target = .ok url) (script : ℕ → Http.Exchange)
    (policy : RetryPolicy) (method : String) (left : ℕ) (sent : List Http.Request) :
    ∃ n, IsLength (left + 1) (fun k => script (sent.length + k)) n ∧
      attemptsFrom (fun k s => Http.send (scripted script) s (requests k)) policy method left
          sent.length sent =
        (outcome url (script (sent.length + (n - 1))),
          (List.range (n - 1)).map fun k => retried policy method url script (sent.length + k),
          sent ++ (List.range n).map fun k => requests (sent.length + k)) := by
  induction left generalizing sent with
  | zero =>
    refine ⟨1, isLength_one (Nat.le_refl 1) (fun h => absurd h (Nat.lt_irrefl 1)), ?_⟩
    rw [attemptsFrom, send_scripted (htarget _)]
    rfl
  | succ left ih =>
    by_cases hworth : WorthRepeating (script sent.length)
    -- The repetitions are a run of their own, one exchange further into the script.
    · obtain ⟨n, hn, hrest⟩ := ih (sent ++ [requests sent.length])
      obtain ⟨m, rfl⟩ : ∃ m, n = m + 1 := ⟨n - 1, (Nat.sub_add_cancel hn.pos).symm⟩
      simp only [List.length_append, List.length_singleton, Nat.add_assoc, Nat.add_comm 1]
        at hn hrest
      refine ⟨m + 2, hn.succ hworth, ?_⟩
      rw [attemptsFrom, send_scripted (htarget _)]
      simp only [retry?_of_worthRepeating url hworth, hrest]
      rw [map_range_succ (fun k => requests (sent.length + k)) (m + 1), List.append_assoc]
      congr 2
      rw [show m + 2 - 1 = m + 1 from rfl, map_range_succ]
      rfl
    · refine ⟨1, isLength_one (Nat.succ_pos _) (fun _ => hworth), ?_⟩
      rw [attemptsFrom, send_scripted (htarget _)]
      simp only [retry?_of_not_worthRepeating url hworth]
      rfl

lemma sum_waitAfter_le (policy : RetryPolicy) (script : ℕ → Http.Exchange) (n : ℕ) :
    ((List.range n).map (waitAfter policy script)).sum ≤ n * policy.maxDelay.toNat := by
  induction n with
  | zero => exact Nat.zero_le _
  | succ n ih =>
    have hlast : waitAfter policy script n ≤ policy.maxDelay.toNat := delay_le_maxDelay _ _ _
    rw [List.range_succ, List.map_append, List.sum_append, List.map_singleton, List.sum_singleton,
      Nat.succ_mul]
    exact Nat.add_le_add ih hlast

/-! ### Calls -/

def loggedWait : Log.Event → ℕ
  | .callRetried _ _ _ delay => delay
  | _ => 0

/-- A call of `n` attempts over a script. Request `k` is the one numbered `k`; each attempt but the
last adds one event with the wait after it. -/
structure FollowsScript {α : Type} (c : Client) (method : String) (body : Option Value)
    (decode : Decoder α) (script : ℕ → Http.Exchange) (url : Url) (n : ℕ)
    (called : Called (List Http.Request) α) : Prop where
  length : IsLength (max 1 c.retry.maxAttempts.toNat) script n
  sent : called.state = (List.range n).map (c.request method body)
  log : called.log = (List.range (n - 1)).map (retried c.retry method url script)
  named : ∀ e ∈ called.log, e.record.name = "slack.api.retry"
  waits : (called.log.map loggedWait).sum ≤ (n - 1) * c.retry.maxDelay.toNat
  result : Concludes method decode url (script (n - 1)) called.result

section Calls

variable {α : Type} (c : Client) (method : String) (body : Option Value) (decode : Decoder α)

lemma call_of_target_error {e : Http.Failure} (h : (c.request method body 0).target = .error e)
    {σ : Type} (wire : Http.Wire σ) (s : σ) :
    c.call wire method body decode s = ⟨s, [], .error (.transport method e.message)⟩ := by
  have hsend : Http.send wire s (c.request method body 0) = (.error e, s) := by
    rw [Http.send, h]
  have hretry : Attempt.retry? (.error e) = none := by
    simp only [not_isTransient_of_target h, Attempt.retry?, Bool.false_eq_true, if_false]
  unfold Client.call repeatCall
  cases c.retry.maxAttempts.toNat - 1 with
  | zero =>
    rw [attemptsFrom, hsend]
    rfl
  | succ left =>
    rw [attemptsFrom, hsend]
    simp only [hretry]
    rfl

lemma call_scripted {url : Url} (h : (c.request method body 0).target = .ok url)
    (script : ℕ → Http.Exchange) :
    ∃ n, FollowsScript c method body decode script url n
      (c.call (scripted script) method body decode []) := by
  have htarget : ∀ k, (c.request method body k).target = .ok url := fun k =>
    (target_request c method body k).trans h
  obtain ⟨n, hn, hrun⟩ := attemptsFrom_scripted htarget script c.retry method
    (c.retry.maxAttempts.toNat - 1) []
  simp only [List.length_nil, Nat.zero_add, List.nil_append] at hn hrun
  have hlimit : c.retry.maxAttempts.toNat - 1 + 1 = max 1 c.retry.maxAttempts.toNat := by omega
  rw [hlimit] at hn
  have hcall : c.call (scripted script) method body decode [] =
      ⟨(List.range n).map (c.request method body),
        (List.range (n - 1)).map (retried c.retry method url script),
        (outcome url (script (n - 1))).conclude method decode⟩ := by
    unfold Client.call repeatCall
    rw [hrun]
  refine ⟨n, ?_⟩
  rw [hcall]
  refine ⟨hn, rfl, rfl, ?_, ?_, concludes_conclude method decode url _⟩
  · intro e he
    obtain ⟨k, -, rfl⟩ := List.mem_map.mp he
    rfl
  · rw [List.map_map]
    exact sum_waitAfter_le c.retry script (n - 1)

lemma check_eq_ok_iff (answer a : ApiAnswer) :
    answer.check = .ok a ↔ answer = a ∧ a.ok = true := by
  unfold ApiAnswer.check
  constructor
  · intro h
    split at h
    · next hok =>
      cases h
      exact ⟨rfl, hok⟩
    · cases h
  · rintro ⟨rfl, hok⟩
    rw [if_pos hok]

/-- A call succeeds with an answer that reports no error. -/
lemma bind_check_eq_ok_iff (result : Except ApiError ApiAnswer) (a : ApiAnswer) :
    result.bind ApiAnswer.check = .ok a ↔ result = .ok a ∧ a.ok = true := by
  rw [show result.bind ApiAnswer.check = result >>= ApiAnswer.check from rfl, bind_eq_ok_iff]
  constructor
  · rintro ⟨answer, hanswer, hcheck⟩
    obtain ⟨rfl, hok⟩ := (check_eq_ok_iff answer a).mp hcheck
    exact ⟨hanswer, hok⟩
  · rintro ⟨ha, hok⟩
    exact ⟨a, ha, (check_eq_ok_iff a a).mpr ⟨rfl, hok⟩⟩

lemma post_state {σ : Type} (wire : Http.Wire σ) (s : σ) (p : Post) :
    (c.post wire s p).state =
      (c.call wire Client.postMethod (some (.object p.fields)) ApiAnswer.decode s).state := by
  unfold Client.post
  dsimp only
  split <;> rfl

lemma post_result_eq_ok_iff {σ : Type} (wire : Http.Wire σ) (s : σ) (p : Post) (posted : Posted) :
    (c.post wire s p).result = .ok posted ↔
      ∃ a : ApiAnswer, (c.call wire Client.postMethod (some (.object p.fields)) ApiAnswer.decode
        s).result = .ok a ∧ a.ok = true ∧ posted = ⟨(a.channel <|> p.channel?).getD "", a.ts⟩ := by
  unfold Client.post
  dsimp only
  cases hresult : (c.call wire Client.postMethod (some (.object p.fields)) ApiAnswer.decode
    s).result.bind ApiAnswer.check with
  | error e =>
    constructor
    · intro h
      cases h
    · rintro ⟨a, ha, hok, -⟩
      rw [(bind_check_eq_ok_iff _ a).mpr ⟨ha, hok⟩] at hresult
      cases hresult
  | ok answer =>
    obtain ⟨hanswer, hok⟩ := (bind_check_eq_ok_iff _ answer).mp hresult
    constructor
    · intro h
      cases h
      exact ⟨answer, hanswer, hok, rfl⟩
    · rintro ⟨a, ha, -, rfl⟩
      rw [ha] at hanswer
      cases hanswer
      rfl

lemma Concludes.eq_ok_iff {url : Url} {exchange : Http.Exchange} {result : Except ApiError α}
    (h : Concludes method decode url exchange result) (a : α) :
    result = .ok a ↔ ∃ r, exchange = .answered r ∧ (200 ≤ r.status ∧ r.status ≤ 299) ∧
      r.json? decode = some a := by
  constructor
  · rintro rfl
    cases h with
    | read hs ha => exact ⟨_, rfl, hs, ha⟩
  · rintro ⟨r, rfl, hs, ha⟩
    cases h with
    | read _ ha' => rw [ha] at ha'; rw [Option.some.inj ha']
    | unreadable _ hnone => rw [ha] at hnone; cases hnone
    | status hother _ => exact absurd hs hother
    | transport hother => exact absurd rfl (hother r)

lemma headers_request (k : ℕ) :
    (c.request method body k).headers.get? "authorization" = some ("Bearer " ++ c.token.reveal) ∧
      (c.request method body k).headers.get? "x-parley-retry-attempt" = some (toString k) := by
  have hauth : Text.lowerAscii "authorization" = "authorization" := by decide +kernel
  have hattempt : Text.lowerAscii Client.attemptHeader = "x-parley-retry-attempt" := by
    decide +kernel
  have hne : ("authorization" == "x-parley-retry-attempt") = false := by decide
  unfold Client.request Http.Headers.get?
  simp only [List.cons_append, List.find?_cons, hauth, hattempt, hne, beq_self_eq_true,
    Option.map_some, and_self]

lemma retryAfter?_eq_some_iff (r : Http.Response) (seconds : UInt64) :
    Attempt.retryAfter? r = some seconds ↔ ∃ value digits,
      r.headers.text? "retry-after" = some value ∧
      ((Text.trim value).toList = digits ∨ (Text.trim value).toList = '+' :: digits) ∧
      IsDecimal digits ∧ decimalValue digits = seconds.toNat := by
  unfold Attempt.retryAfter?
  simp only [Option.bind_eq_some_iff, Option.map_eq_some_iff, natural?_eq_some_iff]
  have hword := seconds.toNat_lt
  constructor
  · rintro ⟨value, hvalue, n, ⟨digits, hs, hd, hn, hbound⟩, rfl⟩
    refine ⟨value, digits, hvalue, hs, hd, ?_⟩
    rw [hn, UInt64.toNat_ofNat_of_lt' (Nat.lt_succ_of_le hbound)]
  · rintro ⟨value, digits, hvalue, hs, hd, hn⟩
    refine ⟨value, hvalue, _, ⟨digits, hs, hd, rfl, ?_⟩, ?_⟩
    · rw [hn]
      exact Nat.le_of_lt_succ hword
    · rw [hn, UInt64.ofNat_toNat]

/-- A call succeeds exactly if it can be sent and the last exchange of it is a success. -/
lemma call_scripted_eq_ok_iff (script : ℕ → Http.Exchange) (a : α) :
    (c.call (scripted script) method body decode []).result = .ok a ↔ ∃ url n r,
      (c.request method body 0).target = .ok url ∧
      IsLength (max 1 c.retry.maxAttempts.toNat) script n ∧ script (n - 1) = .answered r ∧
      (200 ≤ r.status ∧ r.status ≤ 299) ∧ r.json? decode = some a := by
  cases htarget : (c.request method body 0).target with
  | error e =>
    rw [call_of_target_error _ _ _ _ htarget]
    constructor
    · intro h
      cases h
    · rintro ⟨url, n, r, hurl, -⟩
      cases hurl
  | ok url =>
    obtain ⟨n, hn⟩ := call_scripted c method body decode htarget script
    rw [hn.result.eq_ok_iff method decode a]
    constructor
    · rintro ⟨r, hr, hs, hread⟩
      exact ⟨url, n, r, rfl, hn.length, hr, hs, hread⟩
    · rintro ⟨url', n', r, -, hlength, hr, hs, hread⟩
      rw [hlength.unique hn.length] at hr
      exact ⟨r, hr, hs, hread⟩

lemma post_scripted (script : ℕ → Http.Exchange) (p : Post) (posted : Posted) :
    (c.post (scripted script) [] p).result = .ok posted ↔ ∃ url n r a,
      (c.request Client.postMethod (some (.object p.fields)) 0).target = .ok url ∧
      IsLength (max 1 c.retry.maxAttempts.toNat) script n ∧ script (n - 1) = .answered r ∧
      (200 ≤ r.status ∧ r.status ≤ 299) ∧ r.json? ApiAnswer.decode = some a ∧ a.ok = true ∧
      posted = ⟨(a.channel <|> p.channel?).getD "", a.ts⟩ := by
  simp only [post_result_eq_ok_iff, call_scripted_eq_ok_iff]
  constructor
  · rintro ⟨a, ⟨url, n, r, hurl, hlength, hr, hs, hread⟩, hok, hposted⟩
    exact ⟨url, n, r, a, hurl, hlength, hr, hs, hread, hok, hposted⟩
  · rintro ⟨url, n, r, a, hurl, hlength, hr, hs, hread, hok, hposted⟩
    exact ⟨a, ⟨url, n, r, hurl, hlength, hr, hs, hread⟩, hok, hposted⟩

end Calls

/-- A call that can be sent follows its script: it goes on while that is worth it and the policy
lets it, every attempt makes the same request but for its number, every wait is the one of the
policy, and the last exchange alone decides the result. A call that cannot be sent fails at once.
A post succeeds exactly if the last exchange is a success that says so. -/
theorem call_follows_script {α : Type} (c : Client) (method : String) (body : Option Value)
    (decode : Decoder α) (script : ℕ → Http.Exchange) :
    (match (c.request method body 0).target with
    | .error e => c.call (scripted script) method body decode [] =
        ⟨[], [], .error (.transport method e.message)⟩
    | .ok url => ∃ n, FollowsScript c method body decode script url n
        (c.call (scripted script) method body decode [])) ∧
    (∀ k, (c.request method body k).url = c.baseUrl ++ "/" ++ method ∧
      (c.request method body k).body = body ∧
      (c.request method body k).headers.get? "authorization" =
        some ("Bearer " ++ c.token.reveal) ∧
      (c.request method body k).headers.get? "x-parley-retry-attempt" = some (toString k)) ∧
    (∀ r seconds, Attempt.retryAfter? r = some seconds ↔ ∃ value digits,
      r.headers.text? "retry-after" = some value ∧
      ((Text.trim value).toList = digits ∨ (Text.trim value).toList = '+' :: digits) ∧
      IsDecimal digits ∧ decimalValue digits = seconds.toNat) ∧
    ∀ p : Post,
      (c.post (scripted script) [] p).state = (c.call (scripted script) Client.postMethod
        (some (.object p.fields)) ApiAnswer.decode []).state ∧
      ∀ posted, (c.post (scripted script) [] p).result = .ok posted ↔ ∃ url n r a,
        (c.request Client.postMethod (some (.object p.fields)) 0).target = .ok url ∧
        IsLength (max 1 c.retry.maxAttempts.toNat) script n ∧ script (n - 1) = .answered r ∧
        (200 ≤ r.status ∧ r.status ≤ 299) ∧ r.json? ApiAnswer.decode = some a ∧ a.ok = true ∧
        posted = ⟨(a.channel <|> p.channel?).getD "", a.ts⟩ := by
  refine ⟨?_, ?_, retryAfter?_eq_some_iff, ?_⟩
  · split
    · next e htarget => exact call_of_target_error c method body decode htarget _ _
    · next url htarget => exact call_scripted c method body decode htarget script
  · intro k
    exact ⟨rfl, rfl, headers_request c method body k⟩
  · intro p
    exact ⟨post_state c _ _ p, post_scripted c script p⟩

def plainClient : Client :=
  ⟨⟨"xoxb-1"⟩, "https://slack.com/api", none, 10000, .default⟩

/-- Slack fails, asks for two seconds and then answers. -/
def failingOnce : ℕ → Http.Exchange
  | 0 => .answered ⟨500, [("retry-after", " 2 ")], [], true⟩
  | _ + 1 => .answered ⟨200, [], Text.utf8 "\x7b\"ok\":true\x7d", true⟩

/-- A failure costs one request and the wait that it asks for. -/
theorem call_follows_script_of_one_failure :
    let called := plainClient.call (scripted failingOnce) "auth.test" none ApiAnswer.decode []
    called.state = [plainClient.request "auth.test" none 0,
      plainClient.request "auth.test" none 1] ∧
    called.log = [.callRetried "auth.test" 1 (.status 500) 2000] ∧
    ∃ answer, called.result = .ok answer ∧ answer.ok = true := by
  intro called
  have htarget : (plainClient.request "auth.test" none 0).target = .ok ⟨"https".toList,
      some ⟨[], [], .name "slack.com".toList, none⟩, "/api/auth.test".toList, none, none⟩ := by
    apply eq_ok_of_toOption
    decide +kernel
  have hlength : IsLength 3 failingOnce 2 := by
    refine ⟨by decide, by decide, fun k hk => ?_, ?_⟩
    · obtain rfl : k = 0 := by omega
      exact .answered (.inr ⟨Nat.le_refl 500, by decide⟩)
    · rintro - (_ | _ | hstatus)
      exact absurd hstatus (by decide)
  have hcall := (call_follows_script plainClient "auth.test" none ApiAnswer.decode failingOnce).1
  simp only [htarget] at hcall
  obtain ⟨n, hn⟩ := hcall
  obtain rfl : n = 2 := hn.length.unique hlength
  have hread : ((Http.Response.mk 200 [] (Text.utf8 "\x7b\"ok\":true\x7d") true).json?
      ApiAnswer.decode).map (·.ok) = some true := by
    decide +kernel
  obtain ⟨answer, hanswer, hok⟩ := Option.map_eq_some_iff.mp hread
  have hresult : called.result = .ok answer :=
    (hn.result.eq_ok_iff _ _ answer).mpr ⟨_, rfl, by decide, hanswer⟩
  have hwait : waitAfter plainClient.retry failingOnce 0 = 2000 := by decide +kernel
  have hlog := hn.log
  simp only [Nat.add_one_sub_one, List.range_one, List.map_singleton, retried, hwait] at hlog
  exact ⟨hn.sent, hlog, answer, hresult, hok⟩

end SlackBridge.Proofs
