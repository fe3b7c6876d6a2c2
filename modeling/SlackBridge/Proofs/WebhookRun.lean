import SlackBridge.Proofs.OwnSignature
import SlackBridge.Proofs.WebhookTable
import SlackBridge.Server.App

/-!
# Runs of the webhook

A run is any list of turns that can happen one after the other: requests come in, and the tasks of
earlier ones begin, log and end in whatever order, or never do. From what one turn can do
(`Follows`) follows what each request has come to (`Account`), told by the turns of its own task
and by nothing else: its answer is there from the beginning, and its handler is called at most
once.
-/

namespace SlackBridge.Proofs

open Dialogue Slack Server

/-- The requests of a run, with the times at which they come. -/
def requestsOf (turns : List Turn) : List (ℤ × Incoming) :=
  turns.filterMap fun
    | .request now r => some (now, r)
    | _ => none

/-- The places of the messages for which the handler is called, in the order of the calls. -/
def callsOf (turns : List Turn) : List ℕ :=
  turns.filterMap fun
    | .begun place => some place
    | _ => none

/-- The place of the request whose task takes a turn. -/
def placeOf? : Turn → Option ℕ
  | .request _ _ => none
  | .begun place | .said place _ | .ended place _ => some place

/-- The turns of one task. -/
def turnsAt (place : ℕ) (turns : List Turn) : List Turn :=
  turns.filter (placeOf? · == some place)

/-- What the handlers log in some turns. -/
def eventsOf (turns : List Turn) : List Log.Event :=
  turns.filterMap fun
    | .said _ event => some event
    | _ => none

def failuresOf (turns : List Turn) : List Failure :=
  turns.filterMap fun
    | .ended _ failure => failure
    | _ => none

/-- The report of a job that failed. -/
def failureReport (j : Job) : Option Failure → List Log.Event
  | none => []
  | some failure => [.handlerFailed j.request j.message.sender
      (failure.report j.request).message (failure.report j.request).advice]

/-- The requests before and after one turn. A task can begin while it waits and one of the 64 slots
is free; while it runs it can do whatever its handler does. -/
inductive Follows (rule : ℤ → Incoming → Reaction) (all : List Served) : Turn → List Served → Prop
  | request (now : ℤ) (r : Incoming) : Follows rule all (.request now r)
      (all ++ [⟨(rule now r).answer, (rule now r).log, (rule now r).job.map (⟨·, .waiting⟩)⟩])
  | begun {place : ℕ} {s : Served} {job : Job} (hs : all[place]? = some s)
      (htask : s.task = some ⟨job, .waiting⟩) (hfree : all.countP Served.isRunning < 64) :
      Follows rule all (.begun place) (all.set place { s with task := some ⟨job, .running⟩ })
  | said {place : ℕ} {s : Served} {job : Job} (hs : all[place]? = some s)
      (htask : s.task = some ⟨job, .running⟩) (event : Log.Event) :
      Follows rule all (.said place event) (all.set place { s with log := s.log ++ [event] })
  | ended {place : ℕ} {s : Served} {job : Job} (hs : all[place]? = some s)
      (htask : s.task = some ⟨job, .running⟩) (failure : Option Failure) :
      Follows rule all (.ended place failure) (all.set place { s with
        log := s.log ++ failureReport job failure
        task := some ⟨job, .ended failure⟩ })

/-- What a request has come to, by the turns of its task. The handler is called at most once, for
the message of this request, and reported at most once, if it has failed. -/
inductive Account (place : ℕ) (reaction : Reaction) : List Turn → Served → Prop
  | quiet (hjob : reaction.job = none) :
      Account place reaction [] ⟨reaction.answer, reaction.log, none⟩
  | waiting {job : Job} (hjob : reaction.job = some job) :
      Account place reaction [] ⟨reaction.answer, reaction.log, some ⟨job, .waiting⟩⟩
  | running {job : Job} (hjob : reaction.job = some job) (events : List Log.Event) :
      Account place reaction (.begun place :: events.map (.said place))
        ⟨reaction.answer, reaction.log ++ events, some ⟨job, .running⟩⟩
  | ended {job : Job} (hjob : reaction.job = some job) (events : List Log.Event)
      (failure : Option Failure) :
      Account place reaction (.begun place :: events.map (.said place) ++ [.ended place failure])
        ⟨reaction.answer, reaction.log ++ events ++ failureReport job failure,
          some ⟨job, .ended failure⟩⟩

/-! ### One turn -/

section Turn

variable {rule : ℤ → Incoming → Reaction} {all all' : List Served} {turns : List Turn} {t : Turn}
  {place : ℕ} {s s' : Served} {job : Job}

lemma report_correlation (id : String) (failure : Failure) :
    (failure.report id).correlation = id := by
  cases failure <;> rfl

lemma report_eq_failureReport (j : Job) (failure : Option Failure) :
    j.report failure = failureReport j failure := by
  cases failure with
  | none => rfl
  | some failure => simp only [Job.report, failureReport, report_correlation]

lemma begins?_eq_some_iff : s.begins? = some s' ↔
    ∃ job, s.task = some ⟨job, .waiting⟩ ∧ s' = { s with task := some ⟨job, .running⟩ } := by
  obtain ⟨answer, log, _ | ⟨job, _ | _ | failure⟩⟩ := s <;> simp [Served.begins?, eq_comm]

lemma says?_eq_some_iff (event : Log.Event) : s.says? event = some s' ↔
    ∃ job, s.task = some ⟨job, .running⟩ ∧ s' = { s with log := s.log ++ [event] } := by
  obtain ⟨answer, log, _ | ⟨job, _ | _ | failure⟩⟩ := s <;> simp [Served.says?, eq_comm]

lemma ends?_eq_some_iff (failure : Option Failure) : s.ends? failure = some s' ↔
    ∃ job, s.task = some ⟨job, .running⟩ ∧ s' = { s with
      log := s.log ++ failureReport job failure
      task := some ⟨job, .ended failure⟩ } := by
  obtain ⟨answer, log, _ | ⟨job, _ | _ | _⟩⟩ := s <;>
    simp [Served.ends?, report_eq_failureReport, eq_comm]

lemma alter?_eq_some_iff (f : Served → Option Served) : alter? place f all = some all' ↔
    ∃ s s', all[place]? = some s ∧ f s = some s' ∧ all' = all.set place s' := by
  simp only [alter?, Option.map_eq_some_iff, Option.bind_eq_some_iff]
  constructor
  · rintro ⟨s', ⟨s, hs, hf⟩, rfl⟩
    exact ⟨s, s', hs, hf, rfl⟩
  · rintro ⟨s, s', hs, hf, rfl⟩
    exact ⟨s', ⟨s, hs, hf⟩, rfl⟩

lemma step?_eq_some_iff : step? rule all t = some all' ↔ Follows rule all t all' := by
  constructor
  · intro h
    cases t with
    | request now r =>
      cases h
      exact .request now r
    | begun place =>
      obtain ⟨hfree, h⟩ := Option.ite_none_right_eq_some.mp h
      obtain ⟨s, _, hs, hf, rfl⟩ := (alter?_eq_some_iff _).mp h
      obtain ⟨job, htask, rfl⟩ := begins?_eq_some_iff.mp hf
      exact .begun hs htask hfree
    | said place event =>
      obtain ⟨s, _, hs, hf, rfl⟩ := (alter?_eq_some_iff _).mp h
      obtain ⟨job, htask, rfl⟩ := (says?_eq_some_iff event).mp hf
      exact .said hs htask event
    | ended place failure =>
      obtain ⟨s, _, hs, hf, rfl⟩ := (alter?_eq_some_iff _).mp h
      obtain ⟨job, htask, rfl⟩ := (ends?_eq_some_iff failure).mp hf
      exact .ended hs htask failure
  · intro h
    cases h with
    | request now r => rfl
    | begun hs htask hfree =>
      exact Option.ite_none_right_eq_some.mpr ⟨hfree, (alter?_eq_some_iff _).mpr
        ⟨_, _, hs, begins?_eq_some_iff.mpr ⟨_, htask, rfl⟩, rfl⟩⟩
    | said hs htask event =>
      exact (alter?_eq_some_iff _).mpr
        ⟨_, _, hs, (says?_eq_some_iff event).mpr ⟨_, htask, rfl⟩, rfl⟩
    | ended hs htask failure =>
      exact (alter?_eq_some_iff _).mpr
        ⟨_, _, hs, (ends?_eq_some_iff failure).mpr ⟨_, htask, rfl⟩, rfl⟩

lemma run?_concat_eq_some_iff : run? rule (turns ++ [t]) = some all' ↔
    ∃ all, run? rule turns = some all ∧ Follows rule all t all' := by
  simp only [run?, List.foldlM_append, List.foldlM_cons, List.foldlM_nil, bind_pure,
    ← step?_eq_some_iff]
  exact Option.bind_eq_some_iff

end Turn

/-! ### What a request comes to -/

section Accounts

variable {rule : ℤ → Incoming → Reaction} {reaction : Reaction} {all all' : List Served}
  {turns ts : List Turn} {t : Turn} {place : ℕ} {s : Served} {job : Job}

namespace Account

lemma concat_begun (h : Account place reaction ts s) (htask : s.task = some ⟨job, .waiting⟩) :
    Account place reaction (ts ++ [.begun place]) { s with task := some ⟨job, .running⟩ } := by
  cases h with
  | waiting hjob =>
    cases htask
    simpa using running hjob []
  | _ => cases htask

lemma concat_said (h : Account place reaction ts s) (htask : s.task = some ⟨job, .running⟩)
    (event : Log.Event) :
    Account place reaction (ts ++ [.said place event]) { s with log := s.log ++ [event] } := by
  cases h with
  | running hjob events =>
    cases htask
    simpa using running hjob (events ++ [event])
  | _ => cases htask

lemma concat_ended (h : Account place reaction ts s) (htask : s.task = some ⟨job, .running⟩)
    (failure : Option Failure) :
    Account place reaction (ts ++ [.ended place failure]) { s with
      log := s.log ++ failureReport job failure
      task := some ⟨job, .ended failure⟩ } := by
  cases h with
  | running hjob events =>
    cases htask
    exact ended hjob events failure
  | _ => cases htask

lemma answer_eq (h : Account place reaction ts s) : s.answer = reaction.answer := by
  cases h <;> rfl

lemma job_eq (h : Account place reaction ts s) : s.task.map Task.job = reaction.job := by
  cases h with
  | quiet hjob | waiting hjob | running hjob | ended hjob => exact hjob.symm

/-- The handler has been called once the task waits no longer. -/
lemma begun_mem_iff (h : Account place reaction ts s) :
    .begun place ∈ ts ↔ ∃ task, s.task = some task ∧ task.stage ≠ .waiting := by
  cases h <;> simp

lemma countP_log (h : Account place reaction ts s)
    (hquiet : reaction.log.countP isFailureReport = 0) :
    s.log.countP isFailureReport =
      (eventsOf ts).countP isFailureReport + (failuresOf ts).length := by
  cases h with
  | quiet | waiting => exact hquiet
  | running hjob events =>
    simp [eventsOf, failuresOf, List.filterMap_map, hquiet]
  | ended hjob events failure =>
    have hreport : ∀ job, (failureReport job failure).countP isFailureReport =
        failure.toList.length := by
      intro job
      cases failure <;> rfl
    cases failure <;> simp [eventsOf, failuresOf, List.filterMap_map, hquiet, hreport]

end Account

lemma requestsOf_append (turns more : List Turn) :
    requestsOf (turns ++ more) = requestsOf turns ++ requestsOf more :=
  List.filterMap_append

lemma requestsOf_cons_request (now : ℤ) (r : Incoming) (turns : List Turn) :
    requestsOf (.request now r :: turns) = (now, r) :: requestsOf turns :=
  rfl

lemma requestsOf_concat_of_place (h : placeOf? t = some place) :
    requestsOf (turns ++ [t]) = requestsOf turns := by
  rw [requestsOf_append]
  cases t with
  | request now r => cases h
  | begun | said | ended => exact List.append_nil _

lemma turnsAt_concat_self (h : placeOf? t = some place) :
    turnsAt place (turns ++ [t]) = turnsAt place turns ++ [t] := by
  simp [turnsAt, h]

lemma turnsAt_concat_of_ne (h : placeOf? t ≠ some place) :
    turnsAt place (turns ++ [t]) = turnsAt place turns := by
  simp [turnsAt, h]

/-- What all requests of a run have come to. -/
structure Accounts (rule : ℤ → Incoming → Reaction) (turns : List Turn) (all : List Served) :
    Prop where
  length : all.length = (requestsOf turns).length
  account : ∀ place now r s, (requestsOf turns)[place]? = some (now, r) →
    all[place]? = some s → Account place (rule now r) (turnsAt place turns) s
  beyond : ∀ place, all.length ≤ place → turnsAt place turns = []

namespace Accounts

lemma request (h : Accounts rule turns all) (now : ℤ) (r : Incoming) :
    Accounts rule (turns ++ [.request now r])
      (all ++ [⟨(rule now r).answer, (rule now r).log, (rule now r).job.map (⟨·, .waiting⟩)⟩]) := by
  have hrequests : requestsOf (turns ++ [.request now r]) = requestsOf turns ++ [(now, r)] :=
    requestsOf_append turns _
  have hturns : ∀ place, turnsAt place (turns ++ [.request now r]) = turnsAt place turns :=
    fun place => turnsAt_concat_of_ne nofun
  refine ⟨?_, fun place now' r' s hrequest hs => ?_, fun place hplace => ?_⟩
  · rw [hrequests, List.length_append, List.length_append, h.length, List.length_singleton,
      List.length_singleton]
  · rw [hrequests] at hrequest
    rw [hturns]
    rcases Nat.lt_or_ge place all.length with hlt | hge
    · rw [List.getElem?_append_left hlt] at hs
      rw [List.getElem?_append_left (h.length ▸ hlt)] at hrequest
      exact h.account place now' r' s hrequest hs
    -- the request has just come, and its task has had no turn
    · obtain rfl : place = all.length := by
        have hlt := (List.getElem?_eq_some_iff.mp hs).1
        rw [List.length_append, List.length_singleton] at hlt
        omega
      rw [List.getElem?_concat_length] at hs
      rw [h.length, List.getElem?_concat_length] at hrequest
      cases hs
      cases hrequest
      rw [h.beyond _ hge]
      cases hjob : (rule now r).job with
      | none => exact .quiet hjob
      | some job => exact .waiting hjob
  · rw [hturns]
    rw [List.length_append] at hplace
    exact h.beyond place (Nat.le_of_add_right_le hplace)

lemma task (h : Accounts rule turns all) (ht : placeOf? t = some place)
    (hs : all[place]? = some s) {s' : Served}
    (hmoves : ∀ reaction ts, Account place reaction ts s →
      Account place reaction (ts ++ [t]) s') :
    Accounts rule (turns ++ [t]) (all.set place s') := by
  have hlt : place < all.length := (List.getElem?_eq_some_iff.mp hs).1
  refine ⟨?_, fun other now r s₁ hrequest hs₁ => ?_, fun other hother => ?_⟩
  · rw [List.length_set, requestsOf_concat_of_place ht, h.length]
  · rw [requestsOf_concat_of_place ht] at hrequest
    by_cases heq : place = other
    · subst heq
      rw [List.getElem?_set_self hlt] at hs₁
      cases hs₁
      rw [turnsAt_concat_self ht]
      exact hmoves _ _ (h.account place now r s hrequest hs)
    · rw [List.getElem?_set_ne heq] at hs₁
      rw [turnsAt_concat_of_ne fun hother => heq (Option.some.inj (ht.symm.trans hother))]
      exact h.account other now r s₁ hrequest hs₁
  · rw [List.length_set] at hother
    rw [turnsAt_concat_of_ne fun h' => ?_]
    · exact h.beyond other hother
    · cases ht.symm.trans h'
      exact absurd hlt (Nat.not_lt.mpr hother)

/-- Whatever comes next, what a request has come to is told by the turns of its task. -/
lemma follows (h : Accounts rule turns all) (ht : Follows rule all t all') :
    Accounts rule (turns ++ [t]) all' := by
  cases ht with
  | request now r => exact h.request now r
  | begun hs htask hfree => exact h.task rfl hs fun _ _ haccount => haccount.concat_begun htask
  | said hs htask event => exact h.task rfl hs fun _ _ haccount => haccount.concat_said htask event
  | ended hs htask failure =>
    exact h.task rfl hs fun _ _ haccount => haccount.concat_ended htask failure

end Accounts

lemma accounts_of_run (h : run? rule turns = some all) : Accounts rule turns all := by
  induction turns using List.reverseRecOn generalizing all with
  | nil =>
    cases h
    exact ⟨rfl, fun place now r s hrequest => absurd hrequest (by simp [requestsOf]),
      fun _ _ => rfl⟩
  | append_singleton turns t ih =>
    obtain ⟨before, hbefore, ht⟩ := run?_concat_eq_some_iff.mp h
    exact (ih hbefore).follows ht

lemma Accounts.exists_account (h : Accounts rule turns all) {now : ℤ} {r : Incoming}
    (hrequest : (requestsOf turns)[place]? = some (now, r)) :
    ∃ s, all[place]? = some s ∧ Account place (rule now r) (turnsAt place turns) s := by
  have hlt : place < all.length := h.length ▸ (List.getElem?_eq_some_iff.mp hrequest).1
  exact ⟨_, List.getElem?_eq_getElem hlt,
    h.account place now r _ hrequest (List.getElem?_eq_getElem hlt)⟩

/-- What is the same for a request and its reaction is the same for all of them. -/
lemma Accounts.map_eq {α : Type} {f : Served → α} {g : Reaction → α}
    (h : Accounts rule turns all)
    (hfg : ∀ {place reaction ts s}, Account place reaction ts s → f s = g reaction) :
    all.map f = (requestsOf turns).map fun request => g (rule request.1 request.2) := by
  refine List.ext_getElem (by simp [h.length]) fun place hplace hplace' => ?_
  rw [List.length_map] at hplace hplace'
  rw [List.getElem_map, List.getElem_map]
  exact hfg (h.account place _ _ _ (List.getElem?_eq_getElem hplace')
    (List.getElem?_eq_getElem hplace))

/-! ### Calls of the handler -/

lemma callsOf_concat : callsOf (turns ++ [.begun place]) = callsOf turns ++ [place] :=
  List.filterMap_append

lemma callsOf_concat_of_ne (h : ∀ place, t ≠ .begun place) :
    callsOf (turns ++ [t]) = callsOf turns := by
  unfold callsOf
  rw [List.filterMap_append]
  cases t with
  | begun place => exact absurd rfl (h place)
  | request | said | ended => exact List.append_nil _

lemma mem_callsOf : place ∈ callsOf turns ↔ .begun place ∈ turnsAt place turns := by
  simp only [callsOf, turnsAt, List.mem_filterMap, List.mem_filter]
  constructor
  · rintro ⟨t, ht, hplace⟩
    cases t with
    | begun other =>
      cases hplace
      exact ⟨ht, beq_self_eq_true _⟩
    | _ => cases hplace
  · rintro ⟨ht, -⟩
    exact ⟨_, ht, rfl⟩

/-- The handler is called for a message, and for one whose task waits no longer. -/
lemma Accounts.mem_callsOf_iff (h : Accounts rule turns all) : place ∈ callsOf turns ↔
    ∃ s task, all[place]? = some s ∧ s.task = some task ∧ task.stage ≠ .waiting := by
  rw [mem_callsOf]
  constructor
  · intro hcall
    have hlt : place < all.length := by
      by_contra hge
      rw [h.beyond place (Nat.not_lt.mp hge)] at hcall
      cases hcall
    have hs := List.getElem?_eq_getElem hlt
    have hrequest := List.getElem?_eq_getElem (h.length ▸ hlt)
    obtain ⟨task, htask, hstage⟩ :=
      (h.account place _ _ _ hrequest hs).begun_mem_iff.mp hcall
    exact ⟨_, task, hs, htask, hstage⟩
  · rintro ⟨s, task, hs, htask, hstage⟩
    have hlt := (List.getElem?_eq_some_iff.mp hs).1
    have hrequest := List.getElem?_eq_getElem (h.length ▸ hlt)
    exact (h.account place _ _ _ hrequest hs).begun_mem_iff.mpr ⟨task, htask, hstage⟩

lemma nodup_callsOf (h : run? rule turns = some all) : (callsOf turns).Nodup := by
  induction turns using List.reverseRecOn generalizing all with
  | nil => exact List.nodup_nil
  | append_singleton turns t ih =>
    obtain ⟨before, hbefore, ht⟩ := run?_concat_eq_some_iff.mp h
    have hnodup := ih hbefore
    cases ht with
    | @begun place s job hs htask hfree =>
      have hnew : place ∉ callsOf turns := by
        rw [(accounts_of_run hbefore).mem_callsOf_iff]
        rintro ⟨s', task, hs', htask', hstage⟩
        cases hs.symm.trans hs'
        cases htask.symm.trans htask'
        exact hstage rfl
      rw [callsOf_concat, ← List.concat_eq_append]
      exact (List.nodup_concat _ _).mpr ⟨hnew, hnodup⟩
    | request | said | ended =>
      rw [callsOf_concat_of_ne (by simp)]
      exact hnodup

/-! ### Slots -/

lemma countP_isRunning_set (hs : all[place]? = some s) (s' : Served) :
    (all.set place s').countP Served.isRunning + (if s.isRunning then 1 else 0) =
      all.countP Served.isRunning + if s'.isRunning then 1 else 0 := by
  obtain ⟨hlt, rfl⟩ := List.getElem?_eq_some_iff.mp hs
  rw [List.countP_set hlt]
  cases hold : all[place].isRunning with
  | false => simp
  | true =>
    have hpos : 0 < all.countP Served.isRunning :=
      List.countP_pos_iff.mpr ⟨_, List.getElem_mem hlt, hold⟩
    simp only [if_true]
    omega

/-- At any time at most 64 handlers run. -/
lemma countP_isRunning_le (h : run? rule turns = some all) :
    all.countP Served.isRunning ≤ 64 := by
  induction turns using List.reverseRecOn generalizing all with
  | nil =>
    cases h
    exact Nat.zero_le _
  | append_singleton turns t ih =>
    obtain ⟨before, hbefore, ht⟩ := run?_concat_eq_some_iff.mp h
    have hle := ih hbefore
    cases ht with
    | request now r =>
      rw [List.countP_append]
      cases hjob : (rule now r).job <;> simpa [Served.isRunning] using hle
    | @begun place s job hs htask hfree =>
      let s' : Served := { s with task := some ⟨job, .running⟩ }
      have hold : s.isRunning = false := by simp [Served.isRunning, htask]
      have hnew : s'.isRunning = true := rfl
      have hset := countP_isRunning_set hs s'
      rw [hold, hnew, if_neg Bool.false_ne_true, if_pos rfl, Nat.add_zero] at hset
      exact hset.le.trans hfree
    | @said place s job hs htask event =>
      let s' : Served := { s with log := s.log ++ [event] }
      have hsame : s'.isRunning = s.isRunning := rfl
      have hset := countP_isRunning_set hs s'
      rw [hsame, Nat.add_right_cancel_iff] at hset
      exact hset.le.trans hle
    | @ended place s job hs htask failure =>
      let s' : Served := { s with
        log := s.log ++ failureReport job failure
        task := some ⟨job, .ended failure⟩ }
      have hnew : s'.isRunning = false := rfl
      have hset := countP_isRunning_set hs s'
      rw [hnew, if_neg Bool.false_ne_true, Nat.add_zero] at hset
      exact (Nat.le_of_add_right_le hset.le).trans hle

end Accounts

/-! ### Requests that come one at a time -/

section OneByOne

variable {σ : Type} {rule : ℤ → Incoming → Reaction} (handler : Handler σ) {answer : Answer}
  {log : List Log.Event} {job : Job}

lemma alter?_length (all : List Served) (f : Served → Option Served) (s : Served) :
    alter? all.length f (all ++ [s]) = (f s).map fun s' => all ++ [s'] := by
  have hset : (all ++ [s]).set all.length = fun s' => all ++ [s'] := by
    funext s'
    rw [List.set_append_right _ _ (Nat.le_refl _), Nat.sub_self, List.set_cons_zero]
  rw [alter?, List.getElem?_concat_length, Option.bind_some, hset]

lemma foldlM_said (all : List Served) (events : List Log.Event) :
    (events.map (.said all.length)).foldlM (step? rule)
        (all ++ [⟨answer, log, some ⟨job, .running⟩⟩]) =
      some (all ++ [⟨answer, log ++ events, some ⟨job, .running⟩⟩]) := by
  induction events generalizing log with
  | nil => simp
  | cons event events ih =>
    rw [List.map_cons, List.foldlM_cons, step?, alter?_length]
    refine ih.trans ?_
    rw [List.append_assoc, List.singleton_append]

/-- A task whose handler is left alone comes to its end if a slot is free. -/
lemma foldlM_turnsOf {all : List Served} (hfree : all.countP Served.isRunning < slots)
    (outcome : Outcome σ Failure) :
    (turnsOf all.length outcome).foldlM (step? rule)
        (all ++ [⟨answer, log, some ⟨job, .waiting⟩⟩]) =
      some (all ++ [⟨answer, log ++ outcome.log ++ job.report outcome.failure,
        some ⟨job, .ended outcome.failure⟩⟩]) := by
  have hbegun : step? rule (all ++ [⟨answer, log, some ⟨job, .waiting⟩⟩]) (.begun all.length) =
      some (all ++ [⟨answer, log, some ⟨job, .running⟩⟩]) := by
    rw [step?, List.countP_append, alter?_length]
    exact if_pos hfree
  rw [turnsOf, List.foldlM_cons, hbegun, Option.bind_eq_bind, Option.bind_some,
    List.foldlM_append, foldlM_said, Option.bind_eq_bind, Option.bind_some, List.foldlM_cons,
    step?, alter?_length]
  rfl

/-- Requests that come one at a time are served, whatever the handler does. -/
lemma exists_foldlM_oneByOne (requests : List (ℤ × Incoming)) (s : σ) (all : List Served)
    (hidle : all.countP Served.isRunning = 0) :
    ∃ all', (oneByOne rule handler all.length s requests).1.foldlM (step? rule) all =
      some all' := by
  induction requests generalizing all s with
  | nil => exact ⟨all, rfl⟩
  | cons request rest ih =>
    obtain ⟨now, r⟩ := request
    cases hjob : (rule now r).job with
    | none =>
      let served : Served := ⟨(rule now r).answer, (rule now r).log, none⟩
      obtain ⟨all', hall'⟩ := ih s (all ++ [served]) (by rw [List.countP_append, hidle]; rfl)
      rw [List.length_append] at hall'
      refine ⟨all', ?_⟩
      rw [oneByOne, hjob, List.foldlM_cons, step?, Served.ofReaction, hjob]
      exact hall'
    | some job =>
      let outcome := handler s job
      let served : Served := ⟨(rule now r).answer,
        (rule now r).log ++ outcome.log ++ job.report outcome.failure,
        some ⟨job, .ended outcome.failure⟩⟩
      have hfree : all.countP Served.isRunning < slots := by
        rw [hidle]
        decide
      obtain ⟨all', hall'⟩ := ih outcome.state (all ++ [served])
        (by rw [List.countP_append, hidle]; rfl)
      rw [List.length_append] at hall'
      refine ⟨all', ?_⟩
      rw [oneByOne, hjob, List.foldlM_cons, step?, Served.ofReaction, hjob, Option.bind_eq_bind,
        Option.bind_some, Option.map_some, List.foldlM_append, foldlM_turnsOf hfree]
      exact hall'

lemma exists_run?_oneByOne (requests : List (ℤ × Incoming)) (s : σ) :
    ∃ all, run? rule (oneByOne rule handler 0 s requests).1 = some all :=
  exists_foldlM_oneByOne handler requests s [] rfl

lemma requestsOf_oneByOne (place : ℕ) (s : σ) (requests : List (ℤ × Incoming)) :
    requestsOf (oneByOne rule handler place s requests).1 = requests := by
  induction requests generalizing place s with
  | nil => rfl
  | cons request rest ih =>
    obtain ⟨now, r⟩ := request
    rw [oneByOne]
    cases (rule now r).job with
    | none =>
      dsimp only
      rw [requestsOf_cons_request, ih]
    | some job =>
      have hturns : requestsOf (turnsOf place (handler s job)) = [] := by
        simp [requestsOf, turnsOf, List.filterMap_map]
      dsimp only
      rw [requestsOf_cons_request, requestsOf_append, hturns, List.nil_append, ih]

/-- Requests that come one at a time get the answers of all other runs. -/
lemma answers_serve (s : σ) (requests : List (ℤ × Incoming)) :
    (serve rule handler s requests).1.map Prod.fst =
      requests.map fun request => (rule request.1 request.2).answer := by
  obtain ⟨all, hall⟩ : ∃ all, run? rule (oneByOne rule handler 0 s requests).1 = some all :=
    exists_run?_oneByOne handler requests s
  have hanswers := (accounts_of_run hall).map_eq fun h => h.answer_eq
  rw [requestsOf_oneByOne] at hanswers
  simp only [serve, hall, ← hanswers, Option.getD_some, List.map_map]
  rfl

end OneByOne

/-- A run of the webhook, for any requests and whatever the handlers do. Each request is answered by
its line of the table. The messages that are handed over are those of the signed requests that are
no redelivery to drop, once each and in the order of the requests. The handler is called at most
once for each of them, and for all that wait no longer; it may be called for several at once. What
is logged about a request is what was logged when it was answered, what its own handler logs, and
one report if that fails. A request can come at any time, however many handlers run. -/
theorem run_webhook (routes : List Route) (i : Inbox) (health : ℤ → Json.Value)
    {turns : List Turn} {all : List Served}
    (h : run? (fun now r => respond routes i (health now) now r) turns = some all) :
    let rule (now : ℤ) (r : Incoming) : Reaction := respond routes i (health now) now r
    all.map Served.answer =
      (requestsOf turns).map (fun request => (rule request.1 request.2).answer) ∧
    all.filterMap (fun s => s.task.map Task.job) =
      (requestsOf turns).filterMap (fun request => (rule request.1 request.2).job) ∧
    (∀ now r j, (rule now r).job = some j ↔
      ∃ m, Brings routes i now r m ∧ j = ⟨r.id, m, i.destinationFor m.metadata⟩) ∧
    (∀ hs : Http.Headers, i.redeliveries.inspect hs.text? = none ↔
      ¬IsRedelivery i.redeliveries hs) ∧
    (∀ now r reaction, PostsToWebhook routes r →
      (rule now r = reaction ↔ Responds i now r reaction)) ∧
    (∀ place now r, (requestsOf turns)[place]? = some (now, r) → ∃ s, all[place]? = some s ∧
      Account place (rule now r) (turnsAt place turns) s ∧
      s.log.countP isFailureReport = (eventsOf (turnsAt place turns)).countP isFailureReport +
        (failuresOf (turnsAt place turns)).length) ∧
    (callsOf turns).Nodup ∧
    (∀ place, place ∈ callsOf turns ↔
      ∃ s task, all[place]? = some s ∧ s.task = some task ∧ task.stage ≠ .waiting) ∧
    all.countP Served.isRunning ≤ 64 ∧
    (∀ t all', run? rule (turns ++ [t]) = some all' ↔ Follows rule all t all') ∧
    ∀ now r r', PostsToWebhook routes r → PostsToWebhook routes r' → r'.body = r.body →
      (∀ name ∈ ["x-slack-request-timestamp", "x-slack-signature", "content-type"],
        r'.headers.text? name = r.headers.text? name) →
      (∀ m, verdict i now r = .ok () → (meaning i r).result ≠ .ok (.message m)) →
      (rule now r').answer = (rule now r).answer := by
  intro rule
  have haccounts := accounts_of_run h
  have hjobs : all.map (fun s => s.task.map Task.job) =
      (requestsOf turns).map fun request => (rule request.1 request.2).job :=
    haccounts.map_eq fun haccount => haccount.job_eq
  refine ⟨haccounts.map_eq fun haccount => haccount.answer_eq, ?_,
    fun now r => job_respond_eq_some_iff, inspect_eq_none_iff i.redeliveries,
    fun now r reaction hposts => respond_eq_iff hposts reaction, ?_, nodup_callsOf h,
    fun place => haccounts.mem_callsOf_iff, countP_isRunning_le h, fun t all' => ?_,
    fun now r r' => answer_respond_eq_of_not_message⟩
  · have hfiltered := congrArg (List.filterMap id) hjobs
    rwa [List.filterMap_map, List.filterMap_map] at hfiltered
  · intro place now r hrequest
    obtain ⟨s, hs, haccount⟩ := haccounts.exists_account hrequest
    exact ⟨s, hs, haccount, haccount.countP_log countP_respond_log⟩
  · rw [run?_concat_eq_some_iff]
    constructor
    · rintro ⟨before, hbefore, ht⟩
      cases h.symm.trans hbefore
      exact ht
    · exact fun ht => ⟨all, h, ht⟩

/-- Settings with a secret to check signatures with. -/
def signedSettings : Settings :=
  { Settings.default with slack := { Settings.default.slack with signingSecret := ⟨"s3cret"⟩ } }

def signedApp : App where
  settings := signedSettings
  client := ⟨⟨"xoxb-1"⟩, "https://slack.com/api", none, Slack.Client.defaultTimeoutMs, .default⟩
  inbox := .ofSettings signedSettings.slack
  bot := .ofSettings signedSettings.bot

def directBody : Bytes :=
  Text.utf8 <| "\x7b\"event\":\x7b\"type\":\"message\",\"user\":\"U1\",\"text\":\"hi\"," ++
    "\"channel\":\"D1\",\"channel_type\":\"im\",\"ts\":\"1.5\"\x7d\x7d"

/-- A signed message to the bot. -/
def directRequest : Incoming where
  id := "r1"
  method := "POST"
  target := Slack.webhookPath
  headers := [("x-slack-signature", signedApp.inbox.verifier.sign (toString (100 : ℤ)) directBody),
    ("x-slack-request-timestamp", toString (100 : ℤ)), ("content-type", "application/json")]
  body := directBody

lemma isVisibleValue_sign (v : Slack.Verifier) (timestamp : String) (body : Bytes) :
    Http.isVisibleValue (v.sign timestamp body) = true := by
  have hdigit : ∀ n : Fin 16, (fun c : Char => c == '\t' || (0x20 ≤ c.toNat && c.toNat < 0x7f))
      (Text.hexDigit n) = true := by
    decide
  unfold Http.isVisibleValue
  rw [sign_eq, String.toList_append, List.all_append, Bool.and_eq_true]
  refine ⟨by decide, List.all_eq_true.mpr fun c hc => ?_⟩
  rw [String.toList_ofList] at hc
  obtain ⟨n, rfl⟩ := exists_hexDigit_of_mem_hexChars hc
  exact hdigit n

/-- What the request says. -/
def greeting : Message :=
  ⟨"hi", "U1", "slack", ⟨some "D1", some "1.5", []⟩⟩

lemma brings_directRequest :
    Brings [.status, .webhook, .health] signedApp.inbox 100 directRequest greeting := by
  have hsignature : directRequest.headers.text? "x-slack-signature" =
      some (signedApp.inbox.verifier.sign (toString (100 : ℤ)) directBody) := by
    refine Option.filter_eq_some_iff.mpr ⟨?_, isVisibleValue_sign _ _ _⟩
    rw [Http.Headers.get?, directRequest, List.find?_cons_of_pos (by decide +kernel)]
    rfl
  have htimestamp : directRequest.headers.text? "x-slack-request-timestamp" =
      some (toString (100 : ℤ)) := by
    decide +kernel
  refine ⟨⟨by decide +kernel, rfl⟩, by decide +kernel, ?_, ?_, by decide +kernel⟩
  · unfold verdict
    rw [hsignature, htimestamp]
    exact verify_sign_now signedApp.inbox.verifier directBody (by decide) (by decide)
  · apply eq_ok_of_toOption
    decide +kernel

/-- A request with a body that is not read. -/
def longRequest : Incoming where
  id := "r2"
  method := "POST"
  target := Slack.webhookPath
  headers := []
  body := List.replicate (bodyLimit + 1) 120

/-- The rule of an app with signed messages. -/
def signedRule (now : ℤ) (r : Incoming) : Reaction :=
  respond [.status, .webhook, .health] signedApp.inbox .null now r

lemma posts_longRequest : PostsToWebhook [.status, .webhook, .health] longRequest :=
  ⟨by decide +kernel, rfl⟩

lemma signedRule_longRequest (now : ℤ) :
    signedRule now longRequest =
      ⟨.text 413 "Failed to buffer the request body: length limit exceeded", [], none⟩ := by
  refine (respond_eq_iff posts_longRequest _).mpr (.tooLong ?_)
  rw [longRequest, List.length_replicate]
  exact Nat.lt_succ_self _

/-- Two messages and a body that is not read. The handler of the later message is called first and
fails, while that of the earlier one goes on. -/
def overlappingTurns : List Turn :=
  [.request 100 directRequest, .request 100 longRequest, .request 100 directRequest, .begun 2,
    .begun 0, .ended 2 (some (.integration "timeout"))]

theorem run_webhook_of_overlapping_tasks : ∃ all,
    run? signedRule overlappingTurns = some all ∧
    all.map (fun s => s.answer.status) = [200, 413, 200] ∧
    callsOf overlappingTurns = [2, 0] ∧
    ∃ s, all[2]? = some s ∧ s.log.countP isFailureReport = 1 := by
  have hdirect : signedRule 100 directRequest = _ :=
    (respond_eq_iff brings_directRequest.toPostsToWebhook _).mpr brings_directRequest.responds
  have hrun : ∃ all, run? signedRule overlappingTurns = some all := by
    simp only [run?, overlappingTurns, List.foldlM_cons, step?, hdirect, signedRule_longRequest,
      Served.ofReaction]
    exact ⟨_, rfl⟩
  obtain ⟨all, hall⟩ := hrun
  obtain ⟨hanswers, -, -, -, -, haccounts, -⟩ :=
    run_webhook [.status, .webhook, .health] signedApp.inbox (fun _ => .null) hall
  have hrequests : requestsOf overlappingTurns =
      [(100, directRequest), (100, longRequest), (100, directRequest)] := rfl
  have hstatuses : all.map Served.answer =
      (requestsOf overlappingTurns).map fun request => (signedRule request.1 request.2).answer :=
    hanswers
  rw [hrequests, List.map_cons, List.map_cons, List.map_singleton, hdirect,
    signedRule_longRequest] at hstatuses
  obtain ⟨s, hs, -, hlog⟩ := haccounts 2 100 directRequest rfl
  refine ⟨all, hall, ?_, rfl, s, hs, hlog⟩
  have hcodes := congrArg (List.map Answer.status) hstatuses
  rwa [List.map_map] at hcodes

/-- A long body is answered before its signature is looked at. -/
theorem unsigned_long_body_is_not_refused_as_unsigned :
    verdict signedApp.inbox 100 longRequest =
      .error (.missingHeader "x-slack-request-timestamp") ∧
    run? signedRule [.request 100 longRequest] =
      some [⟨.text 413 "Failed to buffer the request body: length limit exceeded", [], none⟩] ∧
    (signedRule 100 longRequest).answer.status ≠ 400 := by
  refine ⟨rfl, ?_, ?_⟩
  · simp only [run?, List.foldlM_cons, step?, signedRule_longRequest]
    rfl
  · rw [signedRule_longRequest]
    decide

end SlackBridge.Proofs
