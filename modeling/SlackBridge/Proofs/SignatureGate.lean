import SlackBridge.Proofs.TextForms
import SlackBridge.Slack.Signature

/-!
# The signature gate

`Signed` says when a request counts as signed, and `FirstFault` names the first stage at which one
that does not fails. The checker accepts exactly the first and reports exactly the second, so no
request passes that should not and every refusal has one reason.
-/

namespace SlackBridge.Proofs

open Slack

/-- The trimmed text writes a time, an integer of 64 bits. -/
def IsTimestamp (text : String) (time : ℤ) : Prop :=
  WritesInteger (Text.trim text).toList time ∧ -2 ^ 63 ≤ time ∧ time < 2 ^ 63

/-- The trimmed text is `v0=` and the digest in hexadecimal, in letters of either case. -/
def SpellsDigest (text : String) (digest : Bytes) : Prop :=
  ∃ hex, Text.trim text = "v0=" ++ hex ∧ hex.toList.map Char.toLower = Text.hexChars digest

/-- The authentication code that a request with this timestamp and this body must carry. -/
def expectedDigest (v : Verifier) (timestamp : String) (body : Bytes) : Bytes :=
  Crypto.Hmac.tag (Text.utf8 v.secret.reveal)
    (Text.utf8 "v0:" ++ Text.utf8 (Text.trim timestamp) ++ Text.utf8 ":" ++ body)

/-- Both headers are there, the time is close enough to the clock, and the digest is the right
one. -/
inductive Signed (v : Verifier) (body : Bytes) (now : ℤ) : Option String → Option String → Prop
  | mk {timestamp signature : String} {time : ℤ} (htime : IsTimestamp timestamp time)
      (hfresh : (now - time).natAbs ≤ v.maxAge)
      (hdigest : SpellsDigest signature (expectedDigest v timestamp body)) :
      Signed v body now (some timestamp) (some signature)

/-- The first stage that a request fails. There is no stage for the key: every secret is one. -/
inductive FirstFault (v : Verifier) (body : Bytes) (now : ℤ) :
    Option String → Option String → Rejection → Prop
  | missingTimestamp {signature : Option String} :
      FirstFault v body now none signature (.missingHeader "x-slack-request-timestamp")
  | missingSignature {timestamp : String} :
      FirstFault v body now (some timestamp) none (.missingHeader "x-slack-signature")
  | malformedTimestamp {timestamp signature : String} (h : ∀ time, ¬IsTimestamp timestamp time) :
      FirstFault v body now (some timestamp) (some signature) (.malformedTimestamp timestamp)
  | staleTimestamp {timestamp signature : String} {time : ℤ} (htime : IsTimestamp timestamp time)
      (hstale : v.maxAge < (now - time).natAbs) :
      FirstFault v body now (some timestamp) (some signature)
        (.staleTimestamp (now - time).natAbs)
  | malformedSignature {timestamp signature : String} {time : ℤ}
      (htime : IsTimestamp timestamp time) (hfresh : (now - time).natAbs ≤ v.maxAge)
      (h : ∀ digest, ¬SpellsDigest signature digest) :
      FirstFault v body now (some timestamp) (some signature) .malformedSignature
  | mismatch {timestamp signature : String} {time : ℤ} {digest : Bytes}
      (htime : IsTimestamp timestamp time) (hfresh : (now - time).natAbs ≤ v.maxAge)
      (hdigest : SpellsDigest signature digest)
      (hne : digest ≠ expectedDigest v timestamp body) :
      FirstFault v body now (some timestamp) (some signature) .mismatch

lemma integer?_trim_eq_some_iff (text : String) (time : ℤ) :
    Text.integer? (Text.trim text) = some time ↔ IsTimestamp text time :=
  integer?_eq_some_iff _ _

lemma digest?_eq_some_iff (signature : String) (digest : Bytes) :
    digest? signature = some digest ↔ SpellsDigest signature digest := by
  unfold digest? SpellsDigest
  simp only [Option.bind_eq_some_iff, dropStart?_eq_some_iff, hexBytes?_eq_some_iff]

section Verify

variable {v : Verifier} {body : Bytes} {now : ℤ}

/-- The checks that follow once both headers are there. -/
lemma verify_some_some (timestamp signature : String) :
    v.verify (some timestamp) (some signature) body now =
      match Text.integer? (Text.trim timestamp) with
      | none => .error (.malformedTimestamp timestamp)
      | some time =>
        if v.maxAge < (now - time).natAbs then .error (.staleTimestamp (now - time).natAbs)
        else match digest? signature with
          | none => .error .malformedSignature
          | some digest =>
            if digest = expectedDigest v timestamp body then .ok () else .error .mismatch := by
  unfold Verifier.verify
  dsimp only
  cases Text.integer? (Text.trim timestamp) with
  | none => rfl
  | some time =>
    by_cases hstale : v.maxAge < (now - time).natAbs
    · simp only [gt_iff_lt, hstale, if_true]
      rfl
    · simp only [gt_iff_lt, hstale, if_false]
      cases digest? signature with
      | none => rfl
      | some digest => rfl

lemma verify_of_signed {timestamp signature : Option String}
    (h : Signed v body now timestamp signature) :
    v.verify timestamp signature body now = .ok () := by
  obtain ⟨htime, hfresh, hdigest⟩ := h
  rw [verify_some_some, (integer?_trim_eq_some_iff _ _).mpr htime,
    (digest?_eq_some_iff _ _).mpr hdigest]
  simp only [Nat.not_lt.mpr hfresh, if_false, if_true]

lemma verify_of_firstFault {timestamp signature : Option String} {e : Rejection}
    (h : FirstFault v body now timestamp signature e) :
    v.verify timestamp signature body now = .error e := by
  cases h with
  | missingTimestamp => rfl
  | missingSignature => rfl
  | malformedTimestamp h =>
    rw [verify_some_some, Option.eq_none_iff_forall_ne_some.mpr
      fun time ht => h time ((integer?_trim_eq_some_iff _ _).mp ht)]
  | staleTimestamp htime hstale =>
    rw [verify_some_some, (integer?_trim_eq_some_iff _ _).mpr htime]
    simp only [hstale, if_true]
  | malformedSignature htime hfresh h =>
    rw [verify_some_some, (integer?_trim_eq_some_iff _ _).mpr htime,
      Option.eq_none_iff_forall_ne_some.mpr
        fun digest hd => h digest ((digest?_eq_some_iff _ _).mp hd)]
    simp only [Nat.not_lt.mpr hfresh, if_false]
  | mismatch htime hfresh hdigest hne =>
    rw [verify_some_some, (integer?_trim_eq_some_iff _ _).mpr htime,
      (digest?_eq_some_iff _ _).mpr hdigest]
    simp only [Nat.not_lt.mpr hfresh, hne, if_false]

/-- Every request passes or fails at some stage. -/
lemma signed_or_firstFault (v : Verifier) (timestamp signature : Option String) (body : Bytes)
    (now : ℤ) :
    Signed v body now timestamp signature ∨
      ∃ e, FirstFault v body now timestamp signature e := by
  cases timestamp with
  | none => exact .inr ⟨_, .missingTimestamp⟩
  | some timestamp =>
  cases signature with
  | none => exact .inr ⟨_, .missingSignature⟩
  | some signature =>
  by_cases htime : ∃ time, IsTimestamp timestamp time
  · obtain ⟨time, htime⟩ := htime
    rcases Nat.lt_or_ge v.maxAge (now - time).natAbs with hstale | hfresh
    · exact .inr ⟨_, .staleTimestamp htime hstale⟩
    · by_cases hdigest : ∃ digest, SpellsDigest signature digest
      · obtain ⟨digest, hdigest⟩ := hdigest
        by_cases heq : digest = expectedDigest v timestamp body
        · exact .inl ⟨htime, hfresh, heq ▸ hdigest⟩
        · exact .inr ⟨_, .mismatch htime hfresh hdigest heq⟩
      · exact .inr ⟨_, .malformedSignature htime hfresh (not_exists.mp hdigest)⟩
  · exact .inr ⟨_, .malformedTimestamp (not_exists.mp htime)⟩

end Verify

theorem verify_eq_ok_iff (v : Verifier) (timestamp signature : Option String) (body : Bytes)
    (now : ℤ) :
    v.verify timestamp signature body now = .ok () ↔ Signed v body now timestamp signature := by
  refine ⟨fun hok => ?_, verify_of_signed⟩
  rcases signed_or_firstFault v timestamp signature body now with h | ⟨e, h⟩
  · exact h
  · rw [verify_of_firstFault h] at hok
    cases hok

theorem verify_eq_error_iff (v : Verifier) (timestamp signature : Option String) (body : Bytes)
    (now : ℤ) (e : Rejection) :
    v.verify timestamp signature body now = .error e ↔
      FirstFault v body now timestamp signature e := by
  refine ⟨fun herr => ?_, verify_of_firstFault⟩
  rcases signed_or_firstFault v timestamp signature body now with h | ⟨e', h⟩
  · rw [verify_of_signed h] at herr
    cases herr
  · rw [verify_of_firstFault h] at herr
    cases herr
    exact h

/-- A clock and a time of 64 bits lie less than `2 ^ 64` apart. -/
lemma age_lt_of_isTimestamp {text : String} {time now : ℤ} (h : IsTimestamp text time)
    (hlow : -2 ^ 63 ≤ now) (hhigh : now < 2 ^ 63) : (now - time).natAbs < 2 ^ 64 := by
  obtain ⟨-, htlow, hthigh⟩ := h
  omega

/-- The gate lets through the signed requests and no others, and names the first fault of every
other. With a clock of 64 bits the age that it reports fits an unsigned word. -/
theorem verify_decides (v : Verifier) (timestamp signature : Option String) (body : Bytes)
    (now : ℤ) :
    (v.verify timestamp signature body now = .ok () ↔ Signed v body now timestamp signature) ∧
    (∀ e, v.verify timestamp signature body now = .error e ↔
      FirstFault v body now timestamp signature e) ∧
    (-2 ^ 63 ≤ now → now < 2 ^ 63 → ∀ age,
      v.verify timestamp signature body now = .error (.staleTimestamp age) → age < 2 ^ 64) := by
  refine ⟨verify_eq_ok_iff v timestamp signature body now,
    verify_eq_error_iff v timestamp signature body now, ?_⟩
  intro hlow hhigh age h
  cases (verify_eq_error_iff v timestamp signature body now _).mp h with
  | staleTimestamp htime hstale => exact age_lt_of_isTimestamp htime hlow hhigh

end SlackBridge.Proofs
