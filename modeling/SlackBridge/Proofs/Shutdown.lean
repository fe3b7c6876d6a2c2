import Mathlib.Data.Set.Card
import SlackBridge.Proofs.WebhookRun
import SlackBridge.Server.Shutdown

/-!
# Shutdown

While the server runs, requests arrive and the handlers of earlier ones come to their ends, in any
order. A message counts as acknowledged once its request has been answered with an empty 200. The
handlers in flight are those of the acknowledged messages that have not come to their ends
(`tracks_inFlight`), so that what is logged while the server stops tells whether any is left.
-/

namespace SlackBridge.Proofs

open Server

/-- What happens at the server: a request arrives and is answered, or the handler of an earlier
request comes to its end, with or without a failure. A request is known by its place among all that
happens. -/
inductive Moment
  | request (checkedAt : String) (now : ℤ) (r : Incoming)
  | handled (place : ℕ) (failure : Option Dialogue.Failure)

/-- The answer to a message that is handed to the handler. -/
def Moment.Acknowledges (a : App) : Moment → Prop
  | .request checkedAt now r => (a.react checkedAt now r).answer = .blank 200
  | .handled _ _ => False

/-- The requests that were acknowledged. -/
def acknowledged (a : App) (ms : List Moment) : Set ℕ :=
  {place | ∃ m, ms[place]? = some m ∧ m.Acknowledges a}

/-- The requests whose handlers have come to their ends. -/
def handled (ms : List Moment) : Set ℕ :=
  {place | ∃ failure, .handled place failure ∈ ms}

/-- The messages that were acknowledged and are not handled. -/
def unhandled (a : App) (ms : List Moment) : Set ℕ :=
  acknowledged a ms \ handled ms

/-- What can happen, in any order: a handler comes to its end after its request was
acknowledged. -/
inductive IsHistory (a : App) : List Moment → Prop
  | start : IsHistory a []
  | request {ms : List Moment} (h : IsHistory a ms) (checkedAt : String) (now : ℤ) (r : Incoming) :
    IsHistory a (ms ++ [.request checkedAt now r])
  | ending {ms : List Moment} (h : IsHistory a ms) {place : ℕ} (hplace : place ∈ acknowledged a ms)
      (failure : Option Dialogue.Failure) :
    IsHistory a (ms ++ [.handled place failure])

/-- What a moment in a place means for the handlers. -/
def handlerStep? (a : App) (place : ℕ) : Moment → Option HandlerStep
  | .request checkedAt now r => (a.react checkedAt now r).job.map fun _ => .dispatched place
  | .handled place _ => some (.finished place)

/-- What happens to the handlers, from a place on. -/
def handlerSteps (a : App) : ℕ → List Moment → List HandlerStep
  | _, [] => []
  | place, m :: ms => (handlerStep? a place m).toList ++ handlerSteps a (place + 1) ms

/-- What is logged while the server stops: `before` is what happened until it took no request any
more and `later` what happened until the time was up. -/
def stopLog (a : App) (before later : List Moment) : List Log.Event :=
  drain (handlerSteps a 0 before) (handlerSteps a before.length later)

/-- What is logged, told by the messages: the server waits until some `seen` of what happens later
leaves none unhandled, or until the time is up. -/
inductive Stops (a : App) (before later : List Moment) : List Log.Event → Prop
  | idle (h : unhandled a before = ∅) : Stops a before later []
  | rested {seen : List Moment} (hopen : unhandled a before ≠ ∅) (hseen : seen <+: later)
      (hrest : unhandled a (before ++ seen) = ∅) :
    Stops a before later [.serverStopping (.draining (unhandled a before).ncard)]
  | abandoned (h : ∀ seen, seen <+: later → unhandled a (before ++ seen) ≠ ∅) :
    Stops a before later [.serverStopping (.draining (unhandled a before).ncard),
      .serverStopping (.abandoned (unhandled a (before ++ later)).ncard)]

/-- The server waits as long as `later` lasts: it is not at rest before. -/
def WaitsThrough (a : App) (before later : List Moment) : Prop :=
  ∀ seen, seen <+: later → seen ≠ later → unhandled a (before ++ seen) ≠ ∅

/-! ### Acknowledged messages -/

section Answers

lemma react_acknowledges_iff (i : Slack.Inbox) (now : ℤ) (r : Incoming) :
    (react i now r).answer = .blank 200 ↔ (react i now r).job.isSome = true := by
  obtain ⟨reaction, h⟩ := exists_reacts i now r
  rw [react_of_reacts h]
  cases h with
  | dispatched hv hm hfirst => exact iff_of_true rfl rfl
  | _ => exact iff_of_false (by simp [Answer.text, Answer.json, Answer.blank]) Bool.false_ne_true

lemma document_ne_blank (r : Incoming) (v : Json.Value) :
    document r.method v ≠ .blank 200 := by
  unfold document
  dsimp only
  split <;> simp [Answer.json, Answer.blank]

/-- An empty 200 is the answer to the messages that are handed to the handler, and to nothing
else. -/
lemma acknowledges_iff (a : App) (checkedAt : String) (now : ℤ) (r : Incoming) :
    (a.react checkedAt now r).answer = .blank 200 ↔
      (a.react checkedAt now r).job.isSome = true := by
  unfold App.react respond
  split
  · exact iff_of_false (by simp [Answer.blank]) Bool.false_ne_true
  split
  · split
    · exact iff_of_false (document_ne_blank r _) Bool.false_ne_true
    · exact iff_of_false (document_ne_blank r _) Bool.false_ne_true
    · split
      · exact iff_of_false (by simp [tooLarge, Answer.text, Answer.blank]) Bool.false_ne_true
      · exact react_acknowledges_iff a.inbox now r
  · exact iff_of_false (by simp [Answer.blank]) Bool.false_ne_true

end Answers

/-! ### Messages of a history -/

section Histories

variable {a : App} {ms more seen : List Moment} {m : Moment} {place : ℕ}

lemma lt_length_of_mem_acknowledged (h : place ∈ acknowledged a ms) : place < ms.length := by
  obtain ⟨m, hm, -⟩ := h
  exact (List.getElem?_eq_some_iff.mp hm).1

lemma length_notMem_acknowledged : ms.length ∉ acknowledged a ms :=
  fun h => Nat.lt_irrefl _ (lt_length_of_mem_acknowledged h)

lemma acknowledged_subset_append : acknowledged a ms ⊆ acknowledged a (ms ++ more) := by
  rintro place ⟨m, hm, hack⟩
  exact ⟨m, by rw [List.getElem?_append_left (List.getElem?_eq_some_iff.mp hm).1, hm], hack⟩

lemma acknowledged_append (h : ∀ m ∈ more, ¬m.Acknowledges a) :
    acknowledged a (ms ++ more) = acknowledged a ms := by
  refine Set.Subset.antisymm ?_ acknowledged_subset_append
  rintro place ⟨m, hm, hack⟩
  rcases Nat.lt_or_ge place ms.length with hlt | hge
  · exact ⟨m, by rw [← List.getElem?_append_left hlt, hm], hack⟩
  · rw [List.getElem?_append_right hge] at hm
    exact absurd hack (h m (List.mem_of_getElem? hm))

lemma acknowledged_concat (h : m.Acknowledges a) :
    acknowledged a (ms ++ [m]) = insert ms.length (acknowledged a ms) := by
  refine Set.Subset.antisymm ?_ (Set.insert_subset ⟨m, List.getElem?_concat_length, h⟩
    acknowledged_subset_append)
  rintro place ⟨other, hother, hack⟩
  rcases Nat.lt_or_ge place ms.length with hlt | hge
  · exact .inr ⟨other, by rw [← List.getElem?_append_left hlt, hother], hack⟩
  · have hlength := (List.getElem?_eq_some_iff.mp hother).1
    rw [List.length_append, List.length_singleton] at hlength
    exact .inl (by omega)

lemma handled_append : handled (ms ++ more) = handled ms ∪ handled more := by
  ext place
  unfold handled
  simp only [List.mem_append, exists_or]
  rfl

lemma handled_request (checkedAt : String) (now : ℤ) (r : Incoming) :
    handled [.request checkedAt now r] = ∅ := by
  ext place
  simp [handled]

lemma handled_handled (failure : Option Dialogue.Failure) :
    handled [.handled place failure] = {place} := by
  ext other
  simp [handled]

lemma IsHistory.of_prefix (h : IsHistory a ms) (hseen : seen <+: ms) : IsHistory a seen := by
  induction h with
  | start =>
    rw [List.prefix_nil.mp hseen]
    exact .start
  | request h checkedAt now r ih =>
    rcases List.prefix_concat_iff.mp hseen with rfl | hearlier
    · exact .request h checkedAt now r
    · exact ih hearlier
  | ending h hplace failure ih =>
    rcases List.prefix_concat_iff.mp hseen with rfl | hearlier
    · exact .ending h hplace failure
    · exact ih hearlier

lemma IsHistory.handled_subset (h : IsHistory a ms) : handled ms ⊆ acknowledged a ms := by
  induction h with
  | start => exact fun _ ⟨_, hmem⟩ => absurd hmem List.not_mem_nil
  | request h checkedAt now r ih =>
    rw [handled_append, handled_request, Set.union_empty]
    exact ih.trans acknowledged_subset_append
  | ending h hplace failure ih =>
    rw [handled_append, handled_handled]
    exact (Set.union_subset ih (Set.singleton_subset_iff.mpr hplace)).trans
      acknowledged_subset_append

lemma finite_acknowledged (a : App) (ms : List Moment) : (acknowledged a ms).Finite :=
  (Set.finite_Iio ms.length).subset fun _ hplace => lt_length_of_mem_acknowledged hplace

lemma ncard_unhandled_eq_zero_iff : (unhandled a ms).ncard = 0 ↔ unhandled a ms = ∅ :=
  Set.ncard_eq_zero ((finite_acknowledged a ms).sdiff)

/-- Every acknowledged message is either handled or not. -/
lemma IsHistory.ncard_unhandled (h : IsHistory a ms) :
    (unhandled a ms).ncard + (handled ms).ncard = (acknowledged a ms).ncard :=
  Set.ncard_sdiff_add_ncard_of_subset h.handled_subset (finite_acknowledged a ms)

lemma IsHistory.unhandled_eq_empty_iff (h : IsHistory a ms) :
    unhandled a ms = ∅ ↔ acknowledged a ms = handled ms := by
  rw [unhandled, Set.sdiff_eq_empty]
  exact ⟨fun hsub => hsub.antisymm h.handled_subset, fun heq => heq.subset⟩

/-! What one moment changes: a request is one more message that is not handled if it is
acknowledged, and the end of a handler is one less. -/

lemma unhandled_quiet {checkedAt : String} {now : ℤ} {r : Incoming}
    (h : ¬(Moment.request checkedAt now r).Acknowledges a) :
    unhandled a (ms ++ [.request checkedAt now r]) = unhandled a ms := by
  unfold unhandled
  rw [acknowledged_append (List.forall_mem_singleton.mpr h), handled_append, handled_request,
    Set.union_empty]

lemma IsHistory.unhandled_acknowledged (h : IsHistory a ms) {checkedAt : String} {now : ℤ}
    {r : Incoming} (hack : (Moment.request checkedAt now r).Acknowledges a) :
    unhandled a (ms ++ [.request checkedAt now r]) = insert ms.length (unhandled a ms) := by
  -- the place is a new one, so that its handler has not come to its end
  have hopen : ms.length ∉ handled ms :=
    fun hplace => length_notMem_acknowledged (h.handled_subset hplace)
  unfold unhandled
  rw [acknowledged_concat hack, handled_append, handled_request, Set.union_empty,
    Set.insert_sdiff_of_notMem _ hopen]

lemma unhandled_ending (failure : Option Dialogue.Failure) :
    unhandled a (ms ++ [.handled place failure]) = unhandled a ms \ {place} := by
  have hquiet : ∀ m ∈ [Moment.handled place failure], ¬m.Acknowledges a :=
    List.forall_mem_singleton.mpr not_false
  unfold unhandled
  rw [acknowledged_append hquiet, handled_append, handled_handled, ← Set.sdiff_sdiff]

/-- Handlers only come to their ends as long as no message is acknowledged. -/
lemma unhandled_append_subset (h : ∀ m ∈ more, ¬m.Acknowledges a) (hseen : seen <+: more) :
    unhandled a (ms ++ more) ⊆ unhandled a (ms ++ seen) := by
  obtain ⟨rest, rfl⟩ := hseen
  unfold unhandled
  rw [acknowledged_append h, acknowledged_append fun m hm => h m (List.mem_append_left rest hm),
    ← List.append_assoc, handled_append]
  exact Set.sdiff_subset_sdiff_right Set.subset_union_left

end Histories

/-! ### Handlers in flight -/

section Handlers

variable {a : App} {ms more : List Moment} {place : ℕ}

lemma handlerSteps_append (place : ℕ) (ms more : List Moment) : handlerSteps a place (ms ++ more) =
    handlerSteps a place ms ++ handlerSteps a (place + ms.length) more := by
  induction ms generalizing place with
  | nil => rfl
  | cons m ms ih =>
    rw [List.cons_append, handlerSteps, handlerSteps, ih, List.append_assoc, List.length_cons,
      Nat.add_assoc, Nat.add_comm 1]

lemma inFlight_append : inFlight (handlerSteps a 0 (ms ++ more)) =
    (handlerSteps a ms.length more).foldl inFlightStep (inFlight (handlerSteps a 0 ms)) := by
  rw [handlerSteps_append, Nat.zero_add, inFlight, List.foldl_append, inFlight]

/-- The handlers in flight are those of the messages that are not handled. -/
structure Tracks (a : App) (ms : List Moment) (running : List ℕ) : Prop where
  nodup : running.Nodup
  mem_iff : ∀ place, place ∈ running ↔ place ∈ unhandled a ms

lemma Tracks.request {running : List ℕ} (h : Tracks a ms running) (hms : IsHistory a ms)
    (checkedAt : String) (now : ℤ) (r : Incoming) :
    Tracks a (ms ++ [.request checkedAt now r])
      ((handlerSteps a ms.length [.request checkedAt now r]).foldl inFlightStep running) := by
  have hjobs := acknowledges_iff a checkedAt now r
  cases hjob : (a.react checkedAt now r).job with
  | none =>
    have hquiet : ¬(Moment.request checkedAt now r).Acknowledges a := by
      rw [Moment.Acknowledges, hjobs, hjob]
      exact Bool.false_ne_true
    have hsteps : handlerSteps a ms.length [.request checkedAt now r] = [] := by
      simp [handlerSteps, handlerStep?, hjob]
    rw [hsteps]
    exact ⟨h.nodup, fun place => by rw [unhandled_quiet hquiet]; exact h.mem_iff place⟩
  | some job =>
    have hack : (Moment.request checkedAt now r).Acknowledges a := by
      rw [Moment.Acknowledges, hjobs, hjob]
      rfl
    have hsteps : handlerSteps a ms.length [.request checkedAt now r] =
        [.dispatched ms.length] := by
      simp [handlerSteps, handlerStep?, hjob]
    rw [hsteps]
    refine ⟨List.nodup_cons.mpr ⟨fun hmem => ?_, h.nodup⟩, fun place => ?_⟩
    · exact length_notMem_acknowledged ((h.mem_iff _).mp hmem).1
    · rw [hms.unhandled_acknowledged hack, Set.mem_insert_iff, ← h.mem_iff]
      exact List.mem_cons

lemma Tracks.ending {running : List ℕ} (h : Tracks a ms running)
    (failure : Option Dialogue.Failure) :
    Tracks a (ms ++ [.handled place failure])
      ((handlerSteps a ms.length [.handled place failure]).foldl inFlightStep running) := by
  refine ⟨h.nodup.erase place, fun other => ?_⟩
  rw [unhandled_ending, Set.mem_sdiff, ← h.mem_iff, Set.mem_singleton_iff, and_comm]
  exact h.nodup.mem_erase_iff

/-- The handlers in flight at any time, whatever the order in which messages are acknowledged and
handled. -/
lemma tracks_inFlight (h : IsHistory a ms) : Tracks a ms (inFlight (handlerSteps a 0 ms)) := by
  induction h with
  | start =>
    refine ⟨List.nodup_nil, fun place => iff_of_false List.not_mem_nil ?_⟩
    rintro ⟨hack, -⟩
    exact Nat.not_lt_zero _ (lt_length_of_mem_acknowledged hack)
  | request h checkedAt now r ih =>
    rw [inFlight_append]
    exact ih.request h checkedAt now r
  | ending h hplace failure ih =>
    rw [inFlight_append]
    exact ih.ending failure

lemma Tracks.length_eq {running : List ℕ} (h : Tracks a ms running) :
    running.length = (unhandled a ms).ncard := by
  have hset : unhandled a ms = running.toFinset := by
    ext place
    rw [List.coe_toFinset, Set.mem_ofPred_eq, h.mem_iff]
  rw [hset, Set.ncard_coe_finset, List.toFinset_card_of_nodup h.nodup]

lemma Tracks.eq_nil_iff {running : List ℕ} (h : Tracks a ms running) :
    running = [] ↔ unhandled a ms = ∅ := by
  rw [List.eq_nil_iff_forall_not_mem, Set.eq_empty_iff_forall_notMem]
  exact forall_congr' fun place => not_congr (h.mem_iff place)

end Handlers

/-! ### The log -/

section Stopping

variable {a : App} {before later : List Moment}

/-- A moment is at most one step of the handlers, so that they come to rest between two moments or
not at all. -/
lemma comesToRest_handlerSteps_iff (running : List ℕ) (place : ℕ) (ms : List Moment) :
    comesToRest running (handlerSteps a place ms) = true ↔ ∃ seen, seen <+: ms ∧
      (handlerSteps a place seen).foldl inFlightStep running = [] := by
  induction ms generalizing running place with
  | nil => simp [handlerSteps, comesToRest]
  | cons m ms ih =>
    have hcons : (∃ seen, seen <+: m :: ms ∧
        (handlerSteps a place seen).foldl inFlightStep running = []) ↔ running = [] ∨
        ∃ seen, seen <+: ms ∧ (handlerSteps a (place + 1) seen).foldl inFlightStep
          ((handlerStep? a place m).toList.foldl inFlightStep running) = [] := by
      constructor
      · rintro ⟨seen, hseen, hnone⟩
        rcases List.prefix_cons_iff.mp hseen with rfl | ⟨rest, rfl, hrest⟩
        · exact .inl hnone
        · exact .inr ⟨rest, hrest, by rw [← List.foldl_append]; exact hnone⟩
      · rintro (hnone | ⟨rest, hrest, hnone⟩)
        · exact ⟨[], List.nil_prefix, hnone⟩
        · refine ⟨m :: rest, (List.prefix_cons_inj m).mpr hrest, ?_⟩
          rw [handlerSteps, List.foldl_append, hnone]
    rw [hcons, ← ih, handlerSteps]
    cases handlerStep? a place m with
    | none =>
      refine ⟨.inr, ?_⟩
      rintro (rfl | hlater)
      · cases handlerSteps a (place + 1) ms <;> rfl
      · exact hlater
    | some step => simp [comesToRest]

lemma stops_stopLog (h : IsHistory a (before ++ later)) :
    Stops a before later (stopLog a before later) := by
  have htracks {seen : List Moment} (hseen : seen <+: later) :
      Tracks a (before ++ seen) (inFlight (handlerSteps a 0 (before ++ seen))) :=
    tracks_inFlight (h.of_prefix ((List.prefix_append_right_inj before).mpr hseen))
  have hnow : Tracks a before (inFlight (handlerSteps a 0 before)) := by
    simpa using htracks List.nil_prefix
  have hrest : comesToRest (inFlight (handlerSteps a 0 before))
      (handlerSteps a before.length later) = true ↔
        ∃ seen, seen <+: later ∧ unhandled a (before ++ seen) = ∅ := by
    rw [comesToRest_handlerSteps_iff]
    refine exists_congr fun seen => and_congr_right fun hseen => ?_
    rw [← inFlight_append, (htracks hseen).eq_nil_iff]
  unfold stopLog drain
  dsimp only
  rw [← inFlight_append, (htracks List.prefix_rfl).length_eq, hnow.length_eq]
  split_ifs with hidle hdone
  · exact .idle (hnow.eq_nil_iff.mp (List.isEmpty_iff.mp hidle))
  · obtain ⟨seen, hseen, hrest⟩ := hrest.mp hdone
    exact .rested (fun hnone => hidle (List.isEmpty_iff.mpr (hnow.eq_nil_iff.mpr hnone))) hseen
      hrest
  · exact .abandoned fun seen hseen hnone => hdone (hrest.mpr ⟨seen, hseen, hnone⟩)

lemma Stops.draining_mem_iff {events : List Log.Event} (h : Stops a before later events) (n : ℕ) :
    .serverStopping (.draining n) ∈ events ↔ n ≠ 0 ∧ n = (unhandled a before).ncard := by
  have hopen (hnow : unhandled a before ≠ ∅) : n = (unhandled a before).ncard → n ≠ 0 :=
    fun heq => heq ▸ ncard_unhandled_eq_zero_iff.not.mpr hnow
  cases h with
  | idle hnow => simp [hnow]
  | rested hnow => simpa using hopen hnow
  | abandoned hnever =>
    have hnow : unhandled a before ≠ ∅ := by simpa using hnever [] List.nil_prefix
    simpa using hopen hnow

lemma Stops.abandoned_mem_iff {events : List Log.Event} (h : Stops a before later events) (n : ℕ) :
    .serverStopping (.abandoned n) ∈ events ↔
      (∀ seen, seen <+: later → unhandled a (before ++ seen) ≠ ∅) ∧
        n = (unhandled a (before ++ later)).ncard := by
  cases h with
  | idle hnow =>
    refine iff_of_false List.not_mem_nil fun hnever => hnever.1 [] List.nil_prefix ?_
    rw [List.append_nil, hnow]
  | rested hopen hseen hrest =>
    exact iff_of_false (by simp) fun hnever => hnever.1 _ hseen hrest
  | abandoned hnever => simpa using fun _ => hnever

/-- As long as the server waits, or no message is acknowledged any more, it was never at rest if it
is not at rest in the end. -/
lemma never_rests_iff (h : WaitsThrough a before later ∨ ∀ m ∈ later, ¬m.Acknowledges a) :
    (∀ seen, seen <+: later → unhandled a (before ++ seen) ≠ ∅) ↔
      unhandled a (before ++ later) ≠ ∅ := by
  refine ⟨fun hnever => hnever later List.prefix_rfl, fun hopen seen hseen => ?_⟩
  rcases h with hwaits | hquiet
  · by_cases hall : seen = later
    · rwa [hall]
    · exact hwaits seen hseen hall
  · intro hnone
    exact hopen (Set.subset_empty_iff.mp (hnone ▸ unhandled_append_subset hquiet hseen))

/-- No message is lost unnoticed while the server stops, in whatever order messages are
acknowledged and handled. A message is acknowledged exactly if it is handed to a handler, and at any
time the messages that are not handled are those acknowledged less those handled. What is logged
first is how many of them there are to begin with, if there are any. Unless at some time all that is
acknowledged is handled, what is logged last is how many of them there are when the time is up. If
the server waits until then, or no message is acknowledged any more, that is exactly if there are
any. -/
theorem shutdown_accounts_for_messages (a : App) {before later : List Moment}
    (h : IsHistory a (before ++ later)) :
    (∀ checkedAt now r, (Moment.request checkedAt now r).Acknowledges a ↔
      (a.react checkedAt now r).job.isSome = true) ∧
    (∀ seen, seen <+: before ++ later →
      (unhandled a seen).ncard + (handled seen).ncard = (acknowledged a seen).ncard) ∧
    Stops a before later (stopLog a before later) ∧
    (∀ n, .serverStopping (.draining n) ∈ stopLog a before later ↔
      n ≠ 0 ∧ n = (unhandled a before).ncard) ∧
    (∀ n, .serverStopping (.abandoned n) ∈ stopLog a before later ↔
      (∀ seen, seen <+: later → unhandled a (before ++ seen) ≠ ∅) ∧
        n = (unhandled a (before ++ later)).ncard) ∧
    ((∀ n, .serverStopping (.abandoned n) ∉ stopLog a before later) ↔
      ∃ seen, seen <+: later ∧ acknowledged a (before ++ seen) = handled (before ++ seen)) ∧
    ((WaitsThrough a before later ∨ ∀ m ∈ later, ¬m.Acknowledges a) → ∀ n,
      (.serverStopping (.abandoned n) ∈ stopLog a before later ↔
        n ≠ 0 ∧ n = (unhandled a (before ++ later)).ncard)) := by
  have hstops := stops_stopLog h
  have hhistory {seen : List Moment} (hseen : seen <+: later) : IsHistory a (before ++ seen) :=
    h.of_prefix ((List.prefix_append_right_inj before).mpr hseen)
  refine ⟨acknowledges_iff a, fun seen hseen => (h.of_prefix hseen).ncard_unhandled, hstops,
    hstops.draining_mem_iff, hstops.abandoned_mem_iff, ?_, fun hwaits n => ?_⟩
  · have hnever : (∀ n, .serverStopping (.abandoned n) ∉ stopLog a before later) ↔
        ¬∀ seen, seen <+: later → unhandled a (before ++ seen) ≠ ∅ := by
      simp only [hstops.abandoned_mem_iff, not_and']
      exact ⟨fun hnone => hnone _ rfl, fun hnone _ _ => hnone⟩
    rw [hnever]
    push Not
    refine exists_congr fun seen => and_congr_right fun hseen => ?_
    exact (hhistory hseen).unhandled_eq_empty_iff
  · rw [hstops.abandoned_mem_iff, never_rests_iff hwaits, Ne, ← ncard_unhandled_eq_zero_iff]
    exact and_congr_left fun heq => by rw [heq]

end Stopping

lemma acknowledges_directRequest :
    (Moment.request "" 100 directRequest).Acknowledges signedApp := by
  have hjob : (signedApp.react "" 100 directRequest).job = some _ :=
    (job_respond_eq_some_iff _).mpr ⟨_, brings_directRequest, rfl⟩
  exact (acknowledges_iff _ _ _ _).mpr (Option.isSome_iff_exists.mpr ⟨_, hjob⟩)

/-- Three messages are acknowledged, and the handler of the first one fails. -/
def beforeClosing : List Moment :=
  [.request "" 100 directRequest, .request "" 100 directRequest, .request "" 100 directRequest,
    .handled 0 (some (.integration "timeout"))]

/-- One more message is handled in time. -/
def untilDeadline : List Moment :=
  [.handled 2 none]

theorem shutdown_accounts_for_messages_of_late_reply :
    IsHistory signedApp (beforeClosing ++ untilDeadline) ∧
    stopLog signedApp beforeClosing untilDeadline =
      [.serverStopping (.draining 2), .serverStopping (.abandoned 1)] ∧
    (unhandled signedApp beforeClosing).ncard = 2 ∧
    (unhandled signedApp (beforeClosing ++ untilDeadline)).ncard = 1 := by
  have hhistory : IsHistory signedApp (beforeClosing ++ untilDeadline) :=
    .ending (.ending (.request (.request (.request .start _ _ _) _ _ _) _ _ _)
      ⟨_, rfl, acknowledges_directRequest⟩ _) ⟨_, rfl, acknowledges_directRequest⟩ _
  have hjob : (signedApp.react "" 100 directRequest).job.isSome = true :=
    (acknowledges_iff _ _ _ _).mp acknowledges_directRequest
  obtain ⟨job, hjob⟩ := Option.isSome_iff_exists.mp hjob
  have hlog : stopLog signedApp beforeClosing untilDeadline =
      [.serverStopping (.draining 2), .serverStopping (.abandoned 1)] := by
    simp only [stopLog, beforeClosing, untilDeadline, handlerSteps, handlerStep?, hjob]
    rfl
  obtain ⟨-, -, -, hdraining, habandoned, -⟩ := shutdown_accounts_for_messages signedApp hhistory
  rw [hlog] at hdraining habandoned
  refine ⟨hhistory, hlog, ((hdraining 2).mp ?_).2.symm, ((habandoned 1).mp ?_).2.symm⟩
  · exact List.mem_cons_self
  · exact List.mem_cons_of_mem _ List.mem_cons_self

end SlackBridge.Proofs
