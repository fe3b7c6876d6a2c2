import SlackBridge.Proofs.CharBytes
import SlackBridge.Proofs.SignatureGate

/-!
# What a signature covers

The text that is signed has no lengths in it: a timestamp, a colon and a body follow each other. It
can be cut in one way only, because a timestamp that the gate accepts holds no colon. A signature
that two accepted requests share is therefore one for the same timestamp and the same body.
-/

namespace SlackBridge.Proofs

open Slack

/-! ### Texts without a colon -/

lemma utf8_injective : Function.Injective Text.utf8 := by
  intro s t h
  have hread := congrArg Text.text? h
  rw [Text.text?_utf8, Text.text?_utf8] at hread
  exact Option.some.inj hread

/-- A byte of ASCII among the bytes of a text stands for a character of the text. -/
lemma mem_toList_of_mem_utf8 {c : Char} (hc : c.toNat < 0x80) {s : String}
    (h : UInt8.ofNat c.toNat ∈ Text.utf8 s) : c ∈ s.toList := by
  rw [utf8_eq_charBytes] at h
  obtain ⟨d, hd, hbyte⟩ := List.mem_flatMap.mp h
  have hvalue := mem_utf8EncodeChar hbyte
  rw [toNat_ofNat_of_lt (by omega)] at hvalue
  have hnat : c.toNat = d.toNat := by omega
  rw [Char.toNat_inj.mp hnat]
  exact hd

lemma notMem_colon_of_writesInteger {cs : List Char} {n : ℤ} (h : WritesInteger cs n) :
    ':' ∉ cs := by
  have hdigits : ∀ digits : List Char, IsDecimal digits → ':' ∉ digits := by
    intro digits hd hmem
    have hdigit := hd.2 ':' hmem
    exact absurd hdigit (by decide)
  cases h with
  | unsigned hd => exact hdigits cs hd
  | plus hd =>
    rw [List.mem_cons, not_or]
    exact ⟨by decide, hdigits _ hd⟩
  | minus hd =>
    rw [List.mem_cons, not_or]
    exact ⟨by decide, hdigits _ hd⟩

lemma notMem_colon_of_isTimestamp {text : String} {time : ℤ} (h : IsTimestamp text time) :
    ':' ∉ (Text.trim text).toList ∧ ':' ∉ text.toList := by
  have htrim : ':' ∉ Text.trimChars text.toList := by
    have hinteger := notMem_colon_of_writesInteger h.1
    unfold Text.trim at hinteger
    rwa [String.toList_ofList] at hinteger
  constructor
  · unfold Text.trim
    rwa [String.toList_ofList]
  · intro hmem
    exact htrim (mem_trimChars_of_not_blank hmem (by decide))

/-! ### The signed text -/

/-- A signed text is cut at its second colon. -/
lemma signedBytes_inj {timestamp timestamp' : String} {body body' : Bytes}
    (hcolon : ':' ∉ timestamp.toList) (hcolon' : ':' ∉ timestamp'.toList)
    (h : signedBytes timestamp body = signedBytes timestamp' body') :
    timestamp = timestamp' ∧ body = body' := by
  have hbyte : Text.utf8 ":" = [UInt8.ofNat ':'.toNat] := by decide
  unfold signedBytes at h
  rw [hbyte, List.append_assoc, List.append_assoc, List.append_assoc, List.append_assoc] at h
  have hcut := append_cons_inj_of_first
    (fun hmem => hcolon (mem_toList_of_mem_utf8 (by decide) hmem))
    (fun hmem => hcolon' (mem_toList_of_mem_utf8 (by decide) hmem))
    (List.append_cancel_left h)
  exact ⟨utf8_injective hcut.1, hcut.2⟩

lemma expectedDigest_eq (v : Verifier) (timestamp : String) (body : Bytes) :
    expectedDigest v timestamp body =
      Crypto.Hmac.tag (Text.utf8 v.secret.reveal) (signedBytes (Text.trim timestamp) body) :=
  rfl

/-- A signature is the digest that it spells. -/
lemma spellsDigest_sign (v : Verifier) (timestamp : String) (body : Bytes) :
    SpellsDigest (v.sign timestamp body) (v.digest timestamp body) := by
  have hversion : "v0=".toList.any Text.isBlank = false := by decide
  have htrim : Text.trim (v.sign timestamp body) = v.sign timestamp body := by
    unfold Verifier.sign
    apply trim_ofList_of_not_blank
    intro c hc
    rcases List.mem_append.mp hc with hstart | hdigit
    · exact Bool.eq_false_iff.mpr fun hc => List.any_eq_false.mp hversion c hstart hc
    · exact isBlank_of_mem_hexChars hdigit
  refine ⟨String.ofList (Text.hexChars (v.digest timestamp body)), ?_, ?_⟩
  · rw [htrim, Verifier.sign, String.ofList_append]
    rfl
  · rw [String.toList_ofList]
    exact (hexBytes?_eq_some_iff _ _).mp (Text.hexBytes?_hexChars _)

lemma spellsDigest_unique {signature : String} {digest digest' : Bytes}
    (h : SpellsDigest signature digest) (h' : SpellsDigest signature digest') :
    digest = digest' := by
  have hread := (digest?_eq_some_iff signature digest).mpr h
  rw [(digest?_eq_some_iff signature digest').mpr h'] at hread
  exact (Option.some.inj hread).symm

/-- Two different inputs with the same tag under a key. -/
def Collide (key input input' : Bytes) : Prop :=
  input ≠ input' ∧ Crypto.Hmac.tag key input = Crypto.Hmac.tag key input'

lemma digest_of_verify {v : Verifier} {timestamp signature : String} {body digest : Bytes} {now : ℤ}
    (h : v.verify (some timestamp) (some signature) body now = .ok ())
    (hdigest : SpellsDigest signature digest) :
    (∃ time, IsTimestamp timestamp time) ∧ digest = expectedDigest v timestamp body := by
  obtain ⟨htime, -, hspelled⟩ := (verify_eq_ok_iff v _ _ body now).mp h
  exact ⟨⟨_, htime⟩, spellsDigest_unique hdigest hspelled⟩

/-- The signed text of a request with a timestamp determines the timestamp and the body. So two
requests that one verifier accepts with the same digest are the same request, unless their texts
collide. Signing takes any text for a timestamp, and there two requests can share a signature. -/
theorem signed_text_cut_once (v : Verifier) :
    (∀ {timestamp timestamp' : String} {body body' : Bytes} {time time' : ℤ},
      IsTimestamp timestamp time → IsTimestamp timestamp' time' →
      (signedBytes (Text.trim timestamp) body = signedBytes (Text.trim timestamp') body' ∨
        signedBytes timestamp body = signedBytes timestamp' body') →
      Text.trim timestamp = Text.trim timestamp' ∧ body = body') ∧
    (∀ {timestamp timestamp' signature signature' : String} {body body' digest : Bytes}
      {now now' : ℤ},
      v.verify (some timestamp) (some signature) body now = .ok () →
      v.verify (some timestamp') (some signature') body' now' = .ok () →
      SpellsDigest signature digest → SpellsDigest signature' digest →
      ¬Collide (Text.utf8 v.secret.reveal) (signedBytes (Text.trim timestamp) body)
        (signedBytes (Text.trim timestamp') body') →
      Text.trim timestamp = Text.trim timestamp' ∧ body = body') ∧
    ∃ timestamp timestamp' body body', (timestamp, body) ≠ (timestamp', body') ∧
      v.sign timestamp body = v.sign timestamp' body' := by
  refine ⟨?_, ?_, ?_⟩
  · intro timestamp timestamp' body body' time time' htime htime' h
    have hcolon := notMem_colon_of_isTimestamp htime
    have hcolon' := notMem_colon_of_isTimestamp htime'
    rcases h with htrimmed | hwritten
    · exact signedBytes_inj hcolon.1 hcolon'.1 htrimmed
    · obtain ⟨htext, hbody⟩ := signedBytes_inj hcolon.2 hcolon'.2 hwritten
      exact ⟨congrArg Text.trim htext, hbody⟩
  · intro timestamp timestamp' signature signature' body body' digest now now' hok hok' hd hd' hfree
    obtain ⟨⟨time, htime⟩, hexpected⟩ := digest_of_verify hok hd
    obtain ⟨⟨time', htime'⟩, hexpected'⟩ := digest_of_verify hok' hd'
    have htags := hexpected.symm.trans hexpected'
    rw [expectedDigest_eq, expectedDigest_eq] at htags
    have htexts : signedBytes (Text.trim timestamp) body =
        signedBytes (Text.trim timestamp') body' := by
      by_contra hne
      exact hfree ⟨hne, htags⟩
    exact signedBytes_inj (notMem_colon_of_isTimestamp htime).1
      (notMem_colon_of_isTimestamp htime').1 htexts
  · refine ⟨"1", "1:2", Text.utf8 "2:x", Text.utf8 "x", by decide, ?_⟩
    have htexts : signedBytes "1" (Text.utf8 "2:x") = signedBytes "1:2" (Text.utf8 "x") := by
      decide
    unfold Verifier.sign Verifier.digest
    rw [htexts]

/-- A body that looks as if a timestamp came before it. -/
def timestampedBody : Bytes :=
  Text.utf8 "7:x"

theorem signed_text_cut_once_of_padded :
    let v : Verifier := ⟨⟨"k"⟩, 300⟩
    v.verify (some "17") (some (v.sign "17" timestampedBody)) timestampedBody 20 = .ok () ∧
    v.verify (some " 17\n") (some (v.sign "17" timestampedBody)) timestampedBody 300 = .ok () ∧
    Text.trim "17" = Text.trim " 17\n" := by
  intro v
  have hspelled := spellsDigest_sign v "17" timestampedBody
  have htime : IsTimestamp "17" 17 := (integer?_trim_eq_some_iff _ _).mp (by decide)
  have htime' : IsTimestamp " 17\n" 17 := (integer?_trim_eq_some_iff _ _).mp (by decide)
  have htrim : Text.trim "17" = "17" := by decide
  have htrim' : Text.trim " 17\n" = "17" := by decide
  have hok : v.verify (some "17") (some (v.sign "17" timestampedBody)) timestampedBody 20 =
      .ok () := by
    apply verify_of_signed
    refine ⟨htime, by decide, ?_⟩
    rw [expectedDigest_eq, htrim]
    exact hspelled
  have hok' : v.verify (some " 17\n") (some (v.sign "17" timestampedBody)) timestampedBody 300 =
      .ok () := by
    apply verify_of_signed
    refine ⟨htime', by decide, ?_⟩
    rw [expectedDigest_eq, htrim']
    exact hspelled
  have hfree : ¬Collide (Text.utf8 v.secret.reveal) (signedBytes (Text.trim "17") timestampedBody)
      (signedBytes (Text.trim " 17\n") timestampedBody) := by
    rw [htrim, htrim']
    exact fun h => h.1 rfl
  exact ⟨hok, hok', ((signed_text_cut_once v).2.1 hok hok' hspelled hspelled hfree).1⟩

end SlackBridge.Proofs
