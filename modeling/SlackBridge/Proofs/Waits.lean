import Mathlib.Algebra.Group.Nat.Defs
import Mathlib.Data.Nat.Basic
import Mathlib.Order.Monotone.Defs
import Mathlib.Tactic.Common
import SlackBridge.Slack.WebApi

/-!
# Waits between attempts

The wait after an attempt is computed on words that saturate, kept in seconds and nanoseconds, and
logged in milliseconds as one word. All the same it is the wait of exact arithmetic, to the
nanosecond: no product is cut off below the longest wait, and what is logged is never too long for
its word.
-/

namespace SlackBridge.Proofs

open Slack

/-! ### Spans of time -/

/-- The length of a span in nanoseconds. -/
def nanoseconds (t : Span) : ℕ :=
  t.seconds.toNat * 1000000000 + t.nanos.toNat

lemma millis_eq (t : Span) : t.millis = nanoseconds t / 1000000 := by
  unfold Span.millis nanoseconds
  omega

lemma nanoseconds_ofSeconds (seconds : UInt64) :
    nanoseconds (.ofSeconds seconds) = 1000000 * (1000 * seconds.toNat) := by
  have hnanos : (Span.ofSeconds seconds).nanos.toNat = 0 := rfl
  have hseconds : (Span.ofSeconds seconds).seconds = seconds := rfl
  unfold nanoseconds
  rw [hnanos, hseconds]
  omega

lemma nanoseconds_ofMillis (millis : UInt64) :
    nanoseconds (.ofMillis millis) = 1000000 * millis.toNat := by
  have hnanos : (Span.ofMillis millis).nanos.toNat = millis.toNat % 1000 * 1000000 :=
    Span.toNat_nanos millis
  have hseconds : (Span.ofMillis millis).seconds.toNat = millis.toNat / 1000 :=
    UInt64.toNat_div millis 1000
  unfold nanoseconds
  rw [hnanos, hseconds]
  omega

/-- Spans compare like their lengths, because the nanoseconds make up less than a second. -/
lemma nanoseconds_shorter (t u : Span) :
    nanoseconds (t.shorter u) = min (nanoseconds t) (nanoseconds u) := by
  have ht := t.nanos_lt
  have hu := u.nanos_lt
  unfold Span.shorter
  simp only [UInt64.lt_iff_toNat_lt, ← UInt64.toNat_inj, UInt32.le_iff_toNat_le]
  unfold nanoseconds
  split
  · omega
  · omega

/-! ### Words that saturate -/

lemma toNat_saturatingMul (a b : UInt64) :
    (saturatingMul a b).toNat = min (a.toNat * b.toNat) (2 ^ 64 - 1) := by
  unfold saturatingMul
  split
  · next hfits =>
    rw [UInt64.toNat_mul, Nat.mod_eq_of_lt hfits]
    exact (Nat.min_eq_left (Nat.le_sub_one_of_lt hfits)).symm
  · next hlarge =>
    exact (Nat.min_eq_right (Nat.le_trans (by decide) (Nat.not_lt.mp hlarge))).symm

lemma toNat_saturatingSub (a b : UInt32) :
    (saturatingSub a b).toNat = a.toNat - b.toNat := by
  unfold saturatingSub
  split
  · next hle => exact UInt32.toNat_sub_of_le a b hle
  · next hlt =>
    rw [UInt32.le_iff_toNat_le] at hlt
    exact (Nat.sub_eq_zero_of_le (Nat.le_of_not_le hlt)).symm

lemma toNat_shiftLeft_one {steps : UInt64} (h : steps.toNat ≤ 16) :
    ((1 : UInt64) <<< steps).toNat = 2 ^ steps.toNat := by
  have hpower : 2 ^ steps.toNat ≤ 2 ^ 16 := Nat.pow_le_pow_right (by decide) h
  rw [UInt64.toNat_shiftLeft, UInt64.toNat_one, Nat.mod_eq_of_lt (by omega : steps.toNat < 64),
    Nat.one_shiftLeft, Nat.mod_eq_of_lt (by omega)]

/-! ### The wait after an attempt -/

/-- The milliseconds to wait after an attempt, in exact arithmetic. -/
def exactWait (p : RetryPolicy) (attempt : ℕ) : Option ℕ → ℕ
  | some seconds => min (1000 * seconds) p.maxDelay.toNat
  | none => min (max p.baseDelay.toNat 1 * 2 ^ min (max attempt 1 - 1) 16) p.maxDelay.toNat

section Waits

variable (p : RetryPolicy) (attempt : UInt32) (asked : Option UInt64)

lemma exactWait_le (k : ℕ) (seconds : Option ℕ) : exactWait p k seconds ≤ p.maxDelay.toNat := by
  cases seconds with
  | some seconds => exact Nat.min_le_right _ _
  | none => exact Nat.min_le_right _ _

lemma exactWait_mono (seconds : Option ℕ) : Monotone fun k => exactWait p k seconds := by
  intro k l hkl
  cases seconds with
  | some seconds => exact Nat.le_refl _
  | none =>
    have hsteps : min (max k 1 - 1) 16 ≤ min (max l 1 - 1) 16 := by omega
    have hpower : 2 ^ min (max k 1 - 1) 16 ≤ 2 ^ min (max l 1 - 1) 16 :=
      Nat.pow_le_pow_right (by decide) hsteps
    have hproduct := Nat.mul_le_mul_left (max p.baseDelay.toNat 1) hpower
    simp only [exactWait]
    omega

lemma toNat_backoff :
    (p.backoff attempt).toNat =
      min (max p.baseDelay.toNat 1 * 2 ^ min (max attempt.toNat 1 - 1) 16) (2 ^ 64 - 1) := by
  have hsteps : (min (saturatingSub attempt 1) 16).toUInt64.toNat =
      min (max attempt.toNat 1 - 1) 16 := by
    have hsub : (saturatingSub attempt 1).toNat = attempt.toNat - 1 := toNat_saturatingSub _ _
    have hsixteen : (16 : UInt32).toNat = 16 := rfl
    rw [UInt32.toNat_toUInt64, UInt32.toNat_min, hsub, hsixteen]
    omega
  have hbase : (max p.baseDelay 1).toNat = max p.baseDelay.toNat 1 := UInt64.toNat_max _ _
  unfold RetryPolicy.backoff
  rw [toNat_saturatingMul, toNat_shiftLeft_one (by omega), hsteps, hbase]

/-- The wait is exact. A product that saturates would be cut off at the longest wait anyway. -/
lemma nanoseconds_wait :
    nanoseconds (p.wait attempt asked) =
      1000000 * exactWait p attempt.toNat (asked.map UInt64.toNat) := by
  have hmax := p.maxDelay.toNat_lt
  cases asked with
  | some seconds =>
    rw [RetryPolicy.wait, nanoseconds_shorter, nanoseconds_ofSeconds, nanoseconds_ofMillis,
      Option.map_some, exactWait]
    omega
  | none =>
    rw [RetryPolicy.wait, nanoseconds_shorter, nanoseconds_ofMillis, nanoseconds_ofMillis,
      toNat_backoff, Option.map_none, exactWait]
    omega

lemma millis_wait :
    (p.wait attempt asked).millis = exactWait p attempt.toNat (asked.map UInt64.toNat) := by
  rw [millis_eq, nanoseconds_wait, Nat.mul_div_cancel_left _ (by decide)]

lemma toNat_delay :
    (p.delay attempt asked).toNat = exactWait p attempt.toNat (asked.map UInt64.toNat) := by
  have hle := exactWait_le p attempt.toNat (asked.map UInt64.toNat)
  unfold RetryPolicy.delay
  rw [millis_wait, UInt64.toNat_ofNat_of_lt' (Nat.lt_of_le_of_lt hle p.maxDelay.toNat_lt)]

lemma delay_le_maxDelay : (p.delay attempt asked).toNat ≤ p.maxDelay.toNat := by
  rw [toNat_delay]
  exact exactWait_le _ _ _

end Waits

/-! ### What is logged -/

/-- The state before attempt `k`, counted from 0, if every attempt is made. -/
def stateBefore {σ : Type} (make : ℕ → σ → Attempt × σ) (s : σ) : ℕ → σ
  | 0 => s
  | k + 1 => (make k (stateBefore make s k)).2

/-- The event of a repetition gives the exact wait for what its own attempt asked. -/
lemma attemptsFrom_log {σ : Type} (make : ℕ → σ → Attempt × σ) (p : RetryPolicy) (method : String)
    (s : σ) (left done : ℕ) (hword : done + left < 2 ^ 32) {k : ℕ} {e : Log.Event}
    (he : (attemptsFrom make p method left done (stateBefore make s done)).2.1[k]? = some e) :
    ∃ cause asked,
      Attempt.retry? (make (done + k) (stateBefore make s (done + k))).1 = some (cause, asked) ∧
      e = .callRetried method (done + k + 1) cause
        (exactWait p (done + k + 1) (asked.map UInt64.toNat)) := by
  induction left generalizing done k with
  | zero => cases he
  | succ left ih =>
    rw [attemptsFrom] at he
    dsimp only at he
    split at he
    · cases he
    · next cause asked hretry =>
      cases k with
      | zero =>
        have hfits : (UInt32.ofNat (done + 1)).toNat = done + 1 :=
          UInt32.toNat_ofNat_of_lt' (Nat.lt_of_lt_of_le (by omega) hword)
        cases he
        exact ⟨cause, asked, hretry, by rw [toNat_delay, hfits]⟩
      | succ k =>
        have hnext := ih (done + 1) (by omega) he
        rwa [Nat.add_right_comm done 1 k] at hnext

/-- The words on which the waits of a policy are computed never show: every wait is the one of
exact arithmetic, it fits the word that it is logged as, it is never longer than the longest one
and never shorter than the one before, and each repetition of a call logs it. -/
theorem waits_are_exact (p : RetryPolicy) :
    (∀ attempt asked,
      nanoseconds (p.wait attempt asked) =
        1000000 * exactWait p attempt.toNat (asked.map UInt64.toNat) ∧
      (p.wait attempt asked).millis < 2 ^ 64 ∧
      (p.delay attempt asked).toNat = (p.wait attempt asked).millis ∧
      (p.wait attempt asked).millis = exactWait p attempt.toNat (asked.map UInt64.toNat) ∧
      (p.wait attempt asked).millis ≤ p.maxDelay.toNat) ∧
    (∀ asked attempt later, attempt ≤ later →
      nanoseconds (p.wait attempt asked) ≤ nanoseconds (p.wait later asked)) ∧
    ∀ {σ α : Type} (c : Client) (wire : Http.Wire σ) (method : String) (body : Option Json.Value)
      (decode : Json.Decoder α) (s : σ), c.retry = p → ∀ k e,
      (c.call wire method body decode s).log[k]? = some e → ∃ cause asked,
        let attempt := fun k s => Http.send wire s (c.request method body k)
        Attempt.retry? (attempt k (stateBefore attempt s k)).1 = some (cause, asked) ∧
        e = .callRetried method (k + 1) cause
          (exactWait p (k + 1) (asked.map UInt64.toNat)) ∧
        ("delay_ms", .ofNat (exactWait p (k + 1) (asked.map UInt64.toNat))) ∈
          e.record.fields := by
  refine ⟨?_, ?_, ?_⟩
  · intro attempt asked
    have hmillis := millis_wait p attempt asked
    have hle := exactWait_le p attempt.toNat (asked.map UInt64.toNat)
    have hword := p.maxDelay.toNat_lt
    refine ⟨nanoseconds_wait p attempt asked, ?_, ?_, hmillis, ?_⟩
    · omega
    · rw [toNat_delay, hmillis]
    · omega
  · intro asked attempt later hle
    rw [nanoseconds_wait, nanoseconds_wait]
    exact Nat.mul_le_mul_left _ (exactWait_mono p _ (UInt32.le_iff_toNat_le.mp hle))
  · rintro σ α c wire method body decode s rfl k e he
    have hattempts := c.retry.maxAttempts.toNat_lt
    obtain ⟨cause, asked, hretry, rfl⟩ := attemptsFrom_log
      (fun k s => Http.send wire s (c.request method body k)) c.retry method s
      (c.retry.maxAttempts.toNat - 1) 0 (by omega) he
    rw [Nat.zero_add] at hretry ⊢
    refine ⟨cause, asked, hretry, rfl, ?_⟩
    simp only [Log.Event.record, List.mem_cons, true_or, or_true]

/-- A client that makes a call three times. -/
def patientClient : Client :=
  ⟨⟨"xoxb-1"⟩, "http://slack.test", none, 10000, .default⟩

theorem waits_are_exact_of_refused :
    (1 : UInt32) ≤ 4294967295 ∧
    nanoseconds (RetryPolicy.default.wait 1 none) ≤
      nanoseconds (RetryPolicy.default.wait 4294967295 none) ∧
    ∃ e, (patientClient.call (fun s _ => (.refused, s)) "auth.test" none ApiAnswer.decode
      ()).log[1]? = some e ∧ ("delay_ms", .ofNat 500) ∈ e.record.fields := by
  obtain ⟨-, hmono, hlogged⟩ := waits_are_exact .default
  have he : (patientClient.call (fun s _ => (.refused, s)) "auth.test" none ApiAnswer.decode
      ()).log[1]? = some (.callRetried "auth.test" 2
        (.transport "error sending request for url (http://slack.test/auth.test)") 500) := by
    decide +kernel
  obtain ⟨cause, asked, -, hevent, hfield⟩ := hlogged patientClient _ _ _ _ _ rfl _ _ he
  have hwait : 500 = exactWait .default (1 + 1) (asked.map UInt64.toNat) :=
    (Log.Event.callRetried.inj hevent).2.2.2
  refine ⟨by decide, hmono none 1 4294967295 (by decide), _, he, ?_⟩
  rwa [← hwait] at hfield

end SlackBridge.Proofs
