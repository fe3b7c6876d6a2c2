/-!
How long to wait before a call is made again, computed on words that saturate.

A wait is kept in seconds and nanoseconds. The log gives it in milliseconds.
-/

namespace SlackBridge.Slack

/-- The product, or the largest word if the product is larger. -/
def saturatingMul (a b : UInt64) : UInt64 :=
  if a.toNat * b.toNat < UInt64.size then a * b else .ofNat (UInt64.size - 1)

/-- The difference, or zero if the second word is the larger one. -/
def saturatingSub (a b : UInt32) : UInt32 :=
  if b ≤ a then a - b else 0

/-- A length of time: whole seconds and the nanoseconds after them. -/
structure Span where
  seconds : UInt64
  nanos : UInt32
  nanos_lt : nanos.toNat < 1000000000
deriving DecidableEq, Repr

namespace Span

def ofSeconds (seconds : UInt64) : Span := ⟨seconds, 0, by decide⟩

/-- The nanoseconds of the milliseconds beyond the last whole second fit their word. -/
theorem toNat_nanos (millis : UInt64) :
    ((millis % 1000).toUInt32 * 1000000).toNat = millis.toNat % 1000 * 1000000 := by
  have hrest : millis.toNat % 1000 < 1000 := Nat.mod_lt _ (by decide)
  have hthousand : (1000 : UInt64).toNat = 1000 := rfl
  have hmillion : (1000000 : UInt32).toNat = 1000000 := rfl
  rw [UInt32.toNat_mul, UInt64.toNat_toUInt32, UInt64.toNat_mod, hthousand, hmillion,
    Nat.mod_eq_of_lt (by omega : millis.toNat % 1000 < 2 ^ 32), Nat.mod_eq_of_lt (by omega)]

def ofMillis (millis : UInt64) : Span where
  seconds := millis / 1000
  nanos := (millis % 1000).toUInt32 * 1000000
  nanos_lt := by
    have hrest : millis.toNat % 1000 < 1000 := Nat.mod_lt _ (by decide)
    rw [toNat_nanos]
    omega

/-- The whole milliseconds, of which there may be more than a word holds. -/
def millis (t : Span) : Nat :=
  t.seconds.toNat * 1000 + t.nanos.toNat / 1000000

/-- The shorter one of two spans. -/
def shorter (t u : Span) : Span :=
  if t.seconds < u.seconds ∨ (t.seconds = u.seconds ∧ t.nanos ≤ u.nanos) then t else u

end Span

/-- How often a call is made at most, and how many milliseconds to wait in between. -/
structure RetryPolicy where
  maxAttempts : UInt32
  baseDelay : UInt64
  maxDelay : UInt64
deriving DecidableEq, Repr

namespace RetryPolicy

def default : RetryPolicy := ⟨3, 250, 5000⟩

/-- The milliseconds after the given attempt, which double with each attempt. -/
def backoff (p : RetryPolicy) (attempt : UInt32) : UInt64 :=
  saturatingMul (max p.baseDelay 1) ((1 : UInt64) <<< (min (saturatingSub attempt 1) 16).toUInt64)

/-- The wait after an attempt, at most the longest one. The seconds that the server asks for take
the place of the backoff. -/
def wait (p : RetryPolicy) (attempt : UInt32) (retryAfter : Option UInt64) : Span :=
  match retryAfter with
  | some seconds => (Span.ofSeconds seconds).shorter (.ofMillis p.maxDelay)
  | none => (Span.ofMillis (p.backoff attempt)).shorter (.ofMillis p.maxDelay)

/-- The wait in milliseconds, as one word. -/
def delay (p : RetryPolicy) (attempt : UInt32) (retryAfter : Option UInt64) : UInt64 :=
  .ofNat (p.wait attempt retryAfter).millis

end RetryPolicy

/-- Whether a status asks to try again: there were too many requests, or the server failed. -/
def isRetryableStatus (status : Nat) : Bool :=
  status == 429 || (500 ≤ status && status < 600)

end SlackBridge.Slack
