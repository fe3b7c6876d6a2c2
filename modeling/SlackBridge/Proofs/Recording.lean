import Mathlib.Tactic.Common
import SlackBridge.Slack.Output

/-!
# Recorded steps

A step that also keeps a list of the things it was taken for. Recording changes nothing else, so
what is proved about the record of a run is a fact about the run.
-/

namespace SlackBridge.Proofs

open Dialogue Slack

/-- The same step, with the items it is taken for kept in order. -/
def recording {σ α ε : Type} (step : σ → α → Outcome σ ε) (s : σ × List α) (a : α) :
    Outcome (σ × List α) ε :=
  let outcome := step s.1 a
  ⟨(outcome.state, s.2 ++ [a]), outcome.log, outcome.failure⟩

/-- The same way of posting, with the posts it is asked for kept in order. -/
def recordingPost {σ : Type} (post : σ → Post → Called σ Posted) (s : σ × List Post) (p : Post) :
    Called (σ × List Post) Posted :=
  let called := post s.1 p
  ⟨(called.state, s.2 ++ [p]), called.log, called.result⟩

/-- The same wire beside a record that it leaves alone. -/
def besideRecord {σ α : Type} (wire : Http.Wire σ) : Http.Wire (σ × List α) := fun s r =>
  let (exchange, state) := wire s.1 r
  (exchange, (state, s.2))

/-- An outcome without the record. -/
def unrecorded {σ α ε : Type} (o : Outcome (σ × List α) ε) : Outcome σ ε :=
  ⟨o.state.1, o.log, o.failure⟩

lemma andThen_unchanged {σ ε : Type} (o : Outcome σ ε) : o.andThen .unchanged = o := by
  obtain ⟨state, log, failure⟩ := o
  cases failure with
  | none => simp [Outcome.andThen, Outcome.unchanged]
  | some e => rfl

lemma runAll_singleton {σ α ε : Type} (step : σ → α → Outcome σ ε) (a : α) (s : σ) :
    runAll step [a] s = step s a :=
  andThen_unchanged (step s a)

/-- A post is on the record whether or not it succeeds. -/
lemma recorded_sendPost {σ : Type} (d : Destination) (post : σ → Post → Called σ Posted)
    (s : σ × List Post) (p : Post) :
    (d.sendPost (recordingPost post) s p).state.2 = s.2 ++ [p] := by
  simp only [Destination.sendPost, recordingPost]
  cases (post s.1 p).result <;> rfl

/-- A run takes its steps in order up to the first that fails, and at least one if there is any. -/
lemma recorded_runAll {σ α ε : Type} {step : σ × List α → α → Outcome (σ × List α) ε}
    (hstep : ∀ s a, (step s a).state.2 = s.2 ++ [a]) (items : List α) (s : σ × List α) :
    ∃ made, (runAll step items s).state.2 = s.2 ++ made ∧ made <+: items ∧
      (made = [] ↔ items = []) ∧ ((runAll step items s).failure = none → made = items) := by
  induction items generalizing s with
  | nil => exact ⟨[], (List.append_nil _).symm, List.prefix_rfl, Iff.rfl, fun _ => rfl⟩
  | cons a rest ih =>
    have hfirst := hstep s a
    have hne : ∀ made : List α, a :: made = [] ↔ a :: rest = [] := fun made => by simp
    rw [runAll, Outcome.andThen]
    cases (step s a).failure with
    | some e =>
      refine ⟨[a], hfirst, List.prefix_append [a] rest, hne [], fun h => ?_⟩
      cases h
    | none =>
      obtain ⟨made, hstate, hprefix, -, hall⟩ := ih (step s a).state
      refine ⟨a :: made, ?_, List.cons_prefix_cons.mpr ⟨rfl, hprefix⟩, hne made, fun h => ?_⟩
      · dsimp only
        rw [hstate, hfirst, List.append_assoc]
        rfl
      · rw [hall h]

/-- A run of steps that cannot fail does not fail. -/
lemma failure_runAll {σ α ε : Type} {step : σ → α → Outcome σ ε}
    (hstep : ∀ s a, (step s a).failure = none) (items : List α) (s : σ) :
    (runAll step items s).failure = none := by
  induction items generalizing s with
  | nil => rfl
  | cons a rest ih =>
    rw [runAll, Outcome.andThen, hstep s a]
    exact ih _

/-- If each step comes to the same without the record, so does a run. -/
lemma unrecorded_runAll {σ α β ε : Type} {step : σ → α → Outcome σ ε}
    {recorded : σ × List β → α → Outcome (σ × List β) ε}
    (hstep : ∀ s a, unrecorded (recorded s a) = step s.1 a) (items : List α) (s : σ × List β) :
    unrecorded (runAll recorded items s) = runAll step items s.1 := by
  induction items generalizing s with
  | nil => rfl
  | cons a rest ih =>
    have hrest := ih (recorded s a).state
    simp only [unrecorded] at hrest
    simp only [runAll, Outcome.andThen, ← hstep s a, unrecorded, ← hrest]
    cases (recorded s a).failure with
    | none => rfl
    | some e => rfl

/-- Sending goes on beside a record as it does without one. -/
lemma send_besideRecord {σ α : Type} (wire : Http.Wire σ) (s : σ × List α) (r : Http.Request) :
    Http.send (besideRecord wire) s r =
      ((Http.send wire s.1 r).1, ((Http.send wire s.1 r).2, s.2)) := by
  unfold Http.send besideRecord
  cases r.target with
  | error e => rfl
  | ok url =>
    obtain ⟨exchange, state⟩ := wire s.1 r
    cases exchange <;> rfl

/-- What every step for one of the items preserves is preserved by a run over them. -/
lemma runAll_preserves {σ α ε : Type} {step : σ → α → Outcome σ ε} (P : σ → Prop)
    (items : List α) (hstep : ∀ s, ∀ a ∈ items, P s → P (step s a).state) {s : σ} (h : P s) :
    P (runAll step items s).state := by
  induction items generalizing s with
  | nil => exact h
  | cons a rest ih =>
    have hfirst : P (step s a).state := hstep s a List.mem_cons_self h
    have hrest := ih (fun s b hb => hstep s b (List.mem_cons_of_mem a hb)) hfirst
    simp only [runAll, Outcome.andThen]
    cases (step s a).failure with
    | none => exact hrest
    | some e => exact hfirst

end SlackBridge.Proofs
