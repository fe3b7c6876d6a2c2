import SlackBridge.Proofs.SignedText
import SlackBridge.Proofs.Trimming

/-!
# What a verifier signs, it accepts

Signing takes a timestamp as it is, checking trims it, and the digits of a signature are written in
one case and read in either. The two paths meet all the same: a verifier accepts its own signature
in every spelling, for every spelling of the time, and for no other body.
-/

namespace SlackBridge.Proofs

open Slack

/-! ### Spellings of a signature -/

/-- Another spelling of a signature: blanks around it, and its digits in letters of either case. -/
inductive Respells (signature : String) : String → Prop
  | mk {digits digits' front back : String} (hsignature : signature = "v0=" ++ digits)
      (hcase : digits'.toList.map Char.toLower = digits.toList)
      (hfront : Text.isBlankText front = true) (hback : Text.isBlankText back = true) :
      Respells signature (front ++ ("v0=" ++ digits') ++ back)

/-- A signature with its digits in capital letters. -/
def capitalized (signature : String) : String :=
  "v0=" ++ String.ofList ((signature.toList.drop 3).map Char.toUpper)

/-- A blank character is no letter, so lowering its case leaves it blank. -/
lemma toLower_of_isBlank {c : Char} (h : Text.isBlank c = true) : c.toLower = c := by
  have hrange : ¬(65 ≤ c.toNat ∧ c.toNat ≤ 90) := by
    rintro ⟨hlow, hhigh⟩
    unfold Text.isBlank at h
    simp only [Bool.or_eq_true, Bool.and_eq_true, decide_eq_true_eq, beq_iff_eq] at h
    omega
  apply Char.toNat_inj.mp
  rw [toNat_toLower, if_neg hrange]

lemma not_isBlank_of_spells {digits : String} {bytes : Bytes}
    (h : digits.toList.map Char.toLower = Text.hexChars bytes) :
    ∀ c ∈ digits.toList, Text.isBlank c = false := by
  intro c hc
  by_contra hblank
  rw [Bool.not_eq_false] at hblank
  have hmem : c.toLower ∈ Text.hexChars bytes := by
    rw [← h]
    exact List.mem_map_of_mem hc
  rw [toLower_of_isBlank hblank] at hmem
  rw [isBlank_of_mem_hexChars hmem] at hblank
  cases hblank

lemma solid_of_not_blank {cs : List Char} (h : ∀ c ∈ cs, Text.isBlank c = false) :
    StartsSolid cs ∧ EndsSolid cs :=
  ⟨fun c hc => h c (List.mem_of_mem_head? hc), fun c hc => h c (List.mem_of_mem_getLast? hc)⟩

section Spellings

variable (v : Verifier) (timestamp : String) (body : Bytes)

lemma sign_eq : v.sign timestamp body =
    "v0=" ++ String.ofList (Text.hexChars (v.digest timestamp body)) := by
  unfold Verifier.sign
  rw [String.ofList_append, String.ofList_toList]

/-- Every spelling of a signature spells the digest that was signed. -/
lemma Respells.spellsDigest {spelled : String} (h : Respells (v.sign timestamp body) spelled) :
    SpellsDigest spelled (v.digest timestamp body) := by
  obtain ⟨hsignature, hcase, hfront, hback⟩ := h
  rename_i digits digits' front back
  rw [sign_eq] at hsignature
  have hdigits := (String.append_right_inj _).mp hsignature
  rw [← hdigits, String.toList_ofList] at hcase
  have hsolid : StartsSolid ("v0=" ++ digits').toList ∧ EndsSolid ("v0=" ++ digits').toList := by
    apply solid_of_not_blank
    have hversion : ∀ c ∈ ['v', '0', '='], Text.isBlank c = false := by
      simp only [List.forall_mem_cons]
      exact ⟨by decide, by decide, by decide, List.forall_mem_nil _⟩
    intro c hc
    rw [String.toList_append] at hc
    rcases List.mem_append.mp hc with hstart | hdigit
    · exact hversion c hstart
    · exact not_isBlank_of_spells hcase c hdigit
  refine ⟨digits', ?_, hcase⟩
  apply trim_around hfront hback hsolid.1 hsolid.2
  rw [String.toList_append]
  exact List.append_ne_nil_of_left_ne_nil (by decide) _

lemma respells_around {front back : String} (hfront : Text.isBlankText front = true)
    (hback : Text.isBlankText back = true) :
    Respells (v.sign timestamp body) (front ++ v.sign timestamp body ++ back) := by
  have hlower : (Text.hexChars (v.digest timestamp body)).map Char.toLower =
      Text.hexChars (v.digest timestamp body) :=
    (hexBytes?_eq_some_iff _ _).mp (Text.hexBytes?_hexChars _)
  rw [sign_eq]
  refine .mk rfl ?_ hfront hback
  rw [String.toList_ofList, hlower]

lemma toLower_toUpper_hexDigit (n : Fin 16) :
    (Text.hexDigit n).toUpper.toLower = Text.hexDigit n := by
  revert n
  decide

lemma respells_capitalized {front back : String} (hfront : Text.isBlankText front = true)
    (hback : Text.isBlankText back = true) :
    Respells (v.sign timestamp body) (front ++ capitalized (v.sign timestamp body) ++ back) := by
  have hdrop : (v.sign timestamp body).toList.drop 3 =
      Text.hexChars (v.digest timestamp body) := by
    unfold Verifier.sign
    rw [String.toList_ofList]
    rfl
  have hlower : ((Text.hexChars (v.digest timestamp body)).map Char.toUpper).map Char.toLower =
      Text.hexChars (v.digest timestamp body) := by
    rw [List.map_map]
    refine (List.map_congr_left fun c hc => ?_).trans (List.map_id _)
    obtain ⟨b, -, hb⟩ := List.mem_flatMap.mp hc
    have hbyte := b.toNat_lt
    rw [List.mem_cons, List.mem_singleton] at hb
    rcases hb with rfl | rfl
    · exact toLower_toUpper_hexDigit ⟨b.toNat / 16, by omega⟩
    · exact toLower_toUpper_hexDigit ⟨b.toNat % 16, by omega⟩
  unfold capitalized
  rw [hdrop]
  refine .mk (sign_eq v timestamp body) ?_ hfront hback
  rw [String.toList_ofList, String.toList_ofList, hlower]

end Spellings

/-! ### Written times -/

lemma not_isBlank_of_writesInteger {cs : List Char} {n : ℤ} (h : WritesInteger cs n) :
    ∀ c ∈ cs, Text.isBlank c = false := by
  have hdigits : ∀ digits : List Char, IsDecimal digits → ∀ c ∈ digits,
      Text.isBlank c = false := fun digits hd c hc => isBlank_of_isAsciiDigit (hd.2 c hc)
  cases h with
  | unsigned hd => exact hdigits cs hd
  | plus hd => exact List.forall_mem_cons.mpr ⟨by decide, hdigits _ hd⟩
  | minus hd => exact List.forall_mem_cons.mpr ⟨by decide, hdigits _ hd⟩

/-- An integer of 64 bits, written in decimal, is a timestamp for itself. -/
lemma isTimestamp_toString {time : ℤ} (hlow : -2 ^ 63 ≤ time) (hhigh : time < 2 ^ 63) :
    Text.trim (toString time) = toString time ∧ IsTimestamp (toString time) time := by
  have hdigits : ∀ n : ℕ, (toString n).toList = Nat.toDigits 10 n := by
    intro n
    rw [Nat.toString_eq_ofList_toDigits, String.toList_ofList]
  have hwritten : WritesInteger (toString time).toList time := by
    cases time with
    | ofNat n =>
      have hwrites := WritesInteger.unsigned (isDecimal_toDigits n)
      rw [decimalValue_toDigits] at hwrites
      have htext : toString (Int.ofNat n) = toString n := rfl
      rwa [htext, hdigits]
    | negSucc n =>
      have hwrites := WritesInteger.minus (isDecimal_toDigits (n + 1))
      rw [decimalValue_toDigits] at hwrites
      have htext : toString (Int.negSucc n) = "-" ++ toString (n + 1) := rfl
      rw [htext, String.toList_append, hdigits]
      exact hwrites
  have htrim : Text.trim (toString time) = toString time := by
    rw [← String.ofList_toList (s := toString time)]
    exact trim_ofList_of_not_blank (not_isBlank_of_writesInteger hwritten)
  refine ⟨htrim, ?_, hlow, hhigh⟩
  rwa [htrim]

/-! ### Signing and checking -/

section RoundTrip

variable (v : Verifier) {timestamp : String} {time now : ℤ} (body : Bytes)

/-- A request passes with any spelling of the signature of its trimmed timestamp and its body. -/
lemma verify_respelled (htime : IsTimestamp timestamp time)
    (hfresh : (now - time).natAbs ≤ v.maxAge) {spelled : String}
    (h : Respells (v.sign (Text.trim timestamp) body) spelled) :
    v.verify (some timestamp) (some spelled) body now = .ok () :=
  verify_of_signed ⟨htime, hfresh, h.spellsDigest⟩

/-- A request that is signed and checked at one time passes. -/
lemma verify_sign_now {now : ℤ} (hlow : -2 ^ 63 ≤ now) (hhigh : now < 2 ^ 63) :
    v.verify (some (toString now)) (some (v.sign (toString now) body)) body now = .ok () := by
  obtain ⟨htrim, htime⟩ := isTimestamp_toString hlow hhigh
  refine verify_of_signed ⟨htime, ?_, ?_⟩
  · rw [Int.sub_self]
    exact Nat.zero_le _
  · rw [expectedDigest_eq, htrim]
    exact spellsDigest_sign v (toString now) body

/-- Another body has another signed text, and so, unless the two texts collide, another digest. -/
lemma verify_other_body (htime : IsTimestamp timestamp time)
    (hfresh : (now - time).natAbs ≤ v.maxAge) {spelled : String}
    (h : Respells (v.sign (Text.trim timestamp) body) spelled) {body' : Bytes}
    (hother : body' ≠ body)
    (hfree : ¬Collide (Text.utf8 v.secret.reveal) (signedBytes (Text.trim timestamp) body)
      (signedBytes (Text.trim timestamp) body')) :
    v.verify (some timestamp) (some spelled) body' now = .error .mismatch := by
  have hcolon := (notMem_colon_of_isTimestamp htime).1
  refine verify_of_firstFault (.mismatch htime hfresh h.spellsDigest ?_)
  intro htags
  refine hfree ⟨fun htexts => ?_, htags⟩
  exact hother (signedBytes_inj hcolon hcolon htexts).2.symm

end RoundTrip

/-- A verifier accepts what it signs as long as the time is close to the clock, however the time is
written, with blanks around the signature and with its digits in letters of either case. With any
other body the same headers are refused as a mismatch, unless the signed texts collide. -/
theorem verify_undoes_sign (v : Verifier) {timestamp : String} {time now : ℤ}
    (htime : IsTimestamp timestamp time) (hfresh : (now - time).natAbs ≤ v.maxAge)
    (body : Bytes) :
    (∀ front back, Text.isBlankText front = true → Text.isBlankText back = true →
      let signature := v.sign (Text.trim timestamp) body
      Respells signature (front ++ signature ++ back) ∧
      Respells signature (front ++ capitalized signature ++ back)) ∧
    ∀ spelled, Respells (v.sign (Text.trim timestamp) body) spelled →
      v.verify (some timestamp) (some spelled) body now = .ok () ∧
      ∀ body', body' ≠ body →
        ¬Collide (Text.utf8 v.secret.reveal) (signedBytes (Text.trim timestamp) body)
          (signedBytes (Text.trim timestamp) body') →
        v.verify (some timestamp) (some spelled) body' now = .error .mismatch := by
  refine ⟨?_, ?_⟩
  · intro front back hfront hback
    exact ⟨respells_around v _ body hfront hback, respells_capitalized v _ body hfront hback⟩
  · intro spelled hspelled
    refine ⟨verify_respelled v body htime hfresh hspelled, fun body' hother hfree => ?_⟩
    exact verify_other_body v body htime hfresh hspelled hother hfree

/-- A time with a sign, a zero in front and blanks around it, and a signature in capital letters. -/
theorem verify_undoes_sign_of_padded :
    let v : Verifier := ⟨⟨"k"⟩, 300⟩
    let spelled := "\t" ++ capitalized (v.sign "+017" (Text.utf8 "x")) ++ " "
    IsTimestamp " +017\n" 17 ∧
    v.verify (some " +017\n") (some spelled) (Text.utf8 "x") 300 = .ok () ∧
    v.verify (some " +017\n") (some spelled) (Text.utf8 "y") 300 = .error .mismatch := by
  intro v spelled
  have htime : IsTimestamp " +017\n" 17 := (integer?_trim_eq_some_iff _ _).mp (by decide)
  have htrim : Text.trim " +017\n" = "+017" := by decide
  have hfresh : ((300 : ℤ) - 17).natAbs ≤ v.maxAge := by decide
  obtain ⟨hspellings, hverdicts⟩ := verify_undoes_sign v htime hfresh (Text.utf8 "x")
  have hrespells : Respells (v.sign (Text.trim " +017\n") (Text.utf8 "x")) spelled := by
    have hcapitals := (hspellings "\t" " " (by decide) (by decide)).2
    rwa [htrim] at hcapitals ⊢
  have hfree : ¬Collide (Text.utf8 v.secret.reveal)
      (signedBytes (Text.trim " +017\n") (Text.utf8 "x"))
      (signedBytes (Text.trim " +017\n") (Text.utf8 "y")) := by
    have htags : Crypto.Hmac.tag (Text.utf8 "k") (signedBytes "+017" (Text.utf8 "x")) ≠
        Crypto.Hmac.tag (Text.utf8 "k") (signedBytes "+017" (Text.utf8 "y")) := by
      decide +kernel
    rw [htrim]
    exact fun h => htags h.2
  obtain ⟨hok, hmismatch⟩ := hverdicts spelled hrespells
  exact ⟨htime, hok, hmismatch _ (by decide) hfree⟩

end SlackBridge.Proofs
