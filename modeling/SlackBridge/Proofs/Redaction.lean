import SlackBridge.Command.Doctor
import SlackBridge.Proofs.OwnSignature
import SlackBridge.Proofs.SettingSources

/-!
# What is shown of the secrets

The listing and the checks that need no call are the same for any two signing secrets. Of a token
they show what comes before its first hyphen. That is a kind of token that many share, as long as
the hyphen follows the `xoxb` that a token has to start with; it need not.
-/

namespace SlackBridge.Proofs

open Settings Command Slack

/-- The settings that are not to be shown. -/
inductive Setting.IsSecret : {α : Type} → Setting α → Prop
  | token : IsSecret .token
  | signingSecret : IsSecret .signingSecret

/-- Two surroundings that give the same to every setting that is no secret, and give the secrets in
the same places. -/
structure SameButSecrets (w w' : Surroundings) (path? : Option String) : Prop where
  env : ∀ {α : Type} (k : Setting α), ¬k.IsSecret → ∀ name ∈ k.variables, w.env name = w'.env name
  env_secret : ∀ {α : Type} (k : Setting α), k.IsSecret → ∀ name ∈ k.variables,
    IsUnset w.env name ↔ IsUnset w'.env name
  written : ∀ {α : Type} (k : Setting α) (path : String),
    WrittenInFile w path? k path ↔ WrittenInFile w' path? k path
  given : ∀ {doc doc' : Toml.Members},
    HoldsDocument w (asCommanded path?) doc → HoldsDocument w' (asCommanded path?) doc' →
    ∀ {α : Type} (k : Setting α), ¬k.IsSecret → ∀ a,
      GivenByDocument doc k a ↔ GivenByDocument doc' k a

/-- The listing is the same, and so is what comes of the checks that need no call, as a list or as
JSON, at any two times that a clock of 64 bits can show. -/
structure ShowSame (w w' : Surroundings) (path? : Option String) : Prop where
  listing : listSettings w path? = listSettings w' path?
  checks : ∀ {σ σ' : Type} (json : Bool) (clock clock' : ℤ) (wire : Http.Wire σ)
    (wire' : Http.Wire σ') (state : σ) (state' : σ'),
    clock = clock' ∨ (clock < 2 ^ 63 ∧ clock' < 2 ^ 63) →
    (doctor w path? json false clock wire state).1 =
      (doctor w' path? json false clock' wire' state').1

/-- Two tokens without a hyphen, or with the same text before the first one. -/
inductive SameKind (token token' : String) : Prop
  | whole (h : '-' ∉ (Text.trim token).toList) (h' : '-' ∉ (Text.trim token').toList) :
      SameKind token token'
  | kind {kind rest rest' : String} (hkind : '-' ∉ kind.toList)
      (h : Text.trim token = kind ++ "-" ++ rest) (h' : Text.trim token' = kind ++ "-" ++ rest') :
      SameKind token token'

lemma not_isSecret_of_key {α : Type} {k : Setting α}
    (h : k.key ∉ ["slack_token", "slack_signing_secret"]) : ¬k.IsSecret := by
  intro hk
  cases hk with
  | token => exact h (by decide)
  | signingSecret => exact h (by decide)

/-! ### Tokens -/

section Tokens

variable {token token' : String}

lemma exists_kind (h : '-' ∈ (Text.trim token).toList) :
    ∃ kind rest, '-' ∉ kind.toList ∧ Text.trim token = kind ++ "-" ++ rest := by
  obtain ⟨before, after, hsplit, hbefore⟩ := List.eq_append_cons_of_mem h
  refine ⟨String.ofList before, String.ofList after, by rwa [String.toList_ofList], ?_⟩
  apply String.ext
  simp only [hsplit, String.toList_append, String.toList_ofList, List.append_assoc]
  rfl

lemma redactToken_of_kind {kind rest : String} (hkind : '-' ∉ kind.toList)
    (h : Text.trim token = kind ++ "-" ++ rest) : redactToken token = kind ++ "-***" := by
  have hchars : (Text.trim token).toList = kind.toList ++ '-' :: rest.toList := by
    rw [h, String.toList_append, String.toList_append, List.append_assoc]
    rfl
  have hne : kind.toList ++ '-' :: rest.toList ≠ [] := List.append_ne_nil_of_right_ne_nil _
    (List.cons_ne_nil _ _)
  have hmem : (kind.toList ++ '-' :: rest.toList).contains '-' = true := by
    rw [List.contains_iff_mem]
    exact List.mem_append_right _ List.mem_cons_self
  have htake : (kind.toList ++ '-' :: rest.toList).takeWhile (· != '-') = kind.toList :=
    (takeWhile_dropWhile_of_stop (bne_of_notMem hkind) (bne_self_eq_false '-') _).1
  unfold redactToken
  dsimp only
  rw [hchars, if_neg hne, if_pos hmem, htake, String.ofList_toList]

lemma redactToken_of_whole (hne : Text.trim token ≠ "") (h : '-' ∉ (Text.trim token).toList) :
    redactToken token = "<redacted>" := by
  have hchars : (Text.trim token).toList ≠ [] := fun hnil => hne (String.toList_eq_nil_iff.mp hnil)
  have hnot : ¬(Text.trim token).toList.contains '-' = true := by
    rwa [List.contains_iff_mem]
  unfold redactToken
  dsimp only
  rw [if_neg hchars, if_neg hnot]

lemma ne_redacted_of_hyphen (kind : String) : kind ++ "-***" ≠ "<redacted>" := by
  intro h
  have hmem : '-' ∈ (kind ++ "-***").toList := by
    rw [String.toList_append]
    exact List.mem_append_right _ (by decide)
  rw [h] at hmem
  exact absurd hmem (by decide)

lemma redactToken_eq_iff (hne : Text.trim token ≠ "") (hne' : Text.trim token' ≠ "") :
    redactToken token = redactToken token' ↔ SameKind token token' := by
  constructor
  · intro h
    by_cases hmem : '-' ∈ (Text.trim token).toList
    · obtain ⟨kind, rest, hkind, htrim⟩ := exists_kind hmem
      rw [redactToken_of_kind hkind htrim] at h
      by_cases hmem' : '-' ∈ (Text.trim token').toList
      · obtain ⟨kind', rest', hkind', htrim'⟩ := exists_kind hmem'
        rw [redactToken_of_kind hkind' htrim', String.append_left_inj] at h
        subst h
        exact .kind hkind htrim htrim'
      · rw [redactToken_of_whole hne' hmem'] at h
        exact absurd h (ne_redacted_of_hyphen kind)
    · rw [redactToken_of_whole hne hmem] at h
      by_cases hmem' : '-' ∈ (Text.trim token').toList
      · obtain ⟨kind', rest', hkind', htrim'⟩ := exists_kind hmem'
        rw [redactToken_of_kind hkind' htrim'] at h
        exact absurd h.symm (ne_redacted_of_hyphen kind')
      · exact .whole hmem hmem'
  · intro h
    cases h with
    | whole h h' => rw [redactToken_of_whole hne h, redactToken_of_whole hne' h']
    | kind hkind h h' => rw [redactToken_of_kind hkind h, redactToken_of_kind hkind h']

/-- Tokens with a hyphen right after the start that they need are of one kind. -/
lemma sameKind_of_hasStart (h : Text.hasStart "xoxb-" token = true)
    (h' : Text.hasStart "xoxb-" token' = true) : SameKind token token' := by
  have hkept : ∀ text, Text.hasStart "xoxb-" text = true →
      ∃ rest, Text.trim text = "xoxb" ++ "-" ++ rest := by
    intro text htext
    obtain ⟨rest, hrest⟩ := List.isPrefixOf_iff_prefix.mp htext
    have hne : "xoxb-".toList ≠ [] := by decide
    have hletters : "xoxb-".toList.any Text.isBlank = false := by decide
    have htrim := trimChars_append hne
      (fun c hc => Bool.eq_false_iff.mpr (List.any_eq_false.mp hletters c hc)) rest
    refine ⟨String.ofList (Text.dropBlankEnd rest), ?_⟩
    unfold Text.trim
    rw [← hrest, htrim, String.ofList_append]
    rfl
  obtain ⟨rest, htrim⟩ := hkept token h
  obtain ⟨rest', htrim'⟩ := hkept token' h'
  exact .kind (by decide) htrim htrim'

end Tokens

/-! ### Settings that agree -/

section Agree

variable {w w' : Surroundings} {path? : Option String} {s s' : Settings}

lemma SameButSecrets.value_eq (hw : SameButSecrets w w' path?)
    (hs : load w (asCommanded path?) = .ok s) (hs' : load w' (asCommanded path?) = .ok s')
    {α : Type} {k : Setting α} (hk : ¬k.IsSecret) : k.value s = k.value s' := by
  obtain ⟨-, doc, hdoc, hlayers⟩ := (load_eq_ok_iff_layers w _ s).mp hs
  obtain ⟨-, doc', hdoc', hlayers'⟩ := (load_eq_ok_iff_layers w' _ s').mp hs'
  obtain ⟨file, env, hfile, henv, hvalue⟩ := hlayers k
  obtain ⟨file', env', hfile', henv', hvalue'⟩ := hlayers' k
  have hfiles : file = file' := ((hw.given hdoc hdoc' k hk file).mp hfile).unique hfile'
  have henvs : env = env' := by
    rw [← readFrom?_eq_some_iff] at henv henv'
    rw [readFrom?_congr (hw.env k hk)] at henv
    exact Option.some.inj (henv.symm.trans henv')
  rw [hvalue, hvalue', hfiles, henvs]

lemma SameButSecrets.listedSource_eq (hw : SameButSecrets w w' path?) {α : Type}
    (k : Setting α) : listedSource w path? k = listedSource w' path? k := by
  have hunset : ∀ name ∈ k.variables, IsUnset w'.env name ↔ IsUnset w.env name := by
    intro name hname
    by_cases hk : k.IsSecret
    · exact (hw.env_secret k hk name hname).symm
    · unfold IsUnset
      rw [hw.env k hk name hname]
  rw [listedSource_eq_iff]
  exact (comesFrom_listedSource w' path? k).congr hunset fun path => (hw.written k path).symm

lemma redactSecret_of_not_blank {secret : String} (h : Text.trim secret ≠ "") :
    redactSecret secret = "<redacted>" := by
  unfold redactSecret
  rw [if_neg (mt (trim_eq_empty_iff secret).mpr h)]

end Agree

/-! ### The listing -/

section Listing

variable {w w' : Surroundings} {path? : Option String} {s s' : Settings}

lemma key_ne_of_mem_tail {α : Type} {k : Setting α} (h : ⟨α, k⟩ ∈ Setting.all.tail) :
    k.key ≠ "slack_token" := by
  have hkeys : ∀ key ∈ Setting.all.tail.map (fun k => k.2.key), key ≠ "slack_token" := by
    decide
  exact hkeys k.key (List.mem_map_of_mem (f := fun k => k.2.key) h)

lemma SameButSecrets.lines_eq (hw : SameButSecrets w w' path?)
    (hs : load w (asCommanded path?) = .ok s) (hs' : load w' (asCommanded path?) = .ok s') :
    (Setting.all.tail.map fun k => k.2.line (k.2.value s) (listedSource w path? k.2)) =
      Setting.all.tail.map fun k => k.2.line (k.2.value s') (listedSource w' path? k.2) := by
  -- the token is the first setting, so the only secret among the others is the signing secret
  refine List.map_congr_left fun k hmem => ?_
  obtain ⟨α, k⟩ := k
  dsimp only
  rw [hw.listedSource_eq k]
  by_cases hk : k.IsSecret
  · cases hk with
    | token => exact absurd rfl (key_ne_of_mem_tail hmem)
    | signingSecret =>
      have hblank := (not_blank_of_check ((load_eq_ok_iff_layers w _ s).mp hs).1).2
      have hblank' := (not_blank_of_check ((load_eq_ok_iff_layers w' _ s').mp hs').1).2
      have hshown : Setting.signingSecret.shown s.slack.signingSecret =
          Setting.signingSecret.shown s'.slack.signingSecret :=
        (redactSecret_of_not_blank hblank).trans (redactSecret_of_not_blank hblank').symm
      unfold Setting.line Setting.value
      rw [hshown]
  · rw [hw.value_eq hs hs' hk]

lemma intercalate_second_inj (separator first line line' : String) (rest : List String) :
    separator.intercalate (first :: line :: rest) = separator.intercalate (first :: line' :: rest) ↔
      line = line' := by
  rw [String.intercalate_cons_cons, String.intercalate_cons_cons, String.append_right_inj]
  cases rest with
  | nil => rfl
  | cons next rest =>
    rw [String.intercalate_cons_cons, String.intercalate_cons_cons, String.append_left_inj,
      String.append_left_inj]

/-- What is listed differs in what is shown of the token, and in nothing else. -/
lemma SameButSecrets.listSettings_eq_iff (hw : SameButSecrets w w' path?)
    (hs : load w (asCommanded path?) = .ok s) (hs' : load w' (asCommanded path?) = .ok s') :
    listSettings w path? = listSettings w' path? ↔
      redactToken s.slack.token.reveal = redactToken s'.slack.token.reveal := by
  have hsplit : ∀ f : (Σ α : Type, Setting α) → String,
      Setting.all.map f = f ⟨_, .token⟩ :: Setting.all.tail.map f := fun _ => rfl
  rw [listSettings_of_load hs, listSettings_of_load hs', hsplit, hsplit, hw.lines_eq hs hs',
    Outcome.mk.injEq, and_iff_right rfl, intercalate_second_inj, hw.listedSource_eq .token]
  unfold Setting.line
  simp only [String.append_right_inj, String.append_left_inj]
  rfl

end Listing

/-! ### The checks -/

section Checks

/-- The time that the doctor takes for its trial: the seconds since 1970 as a signed word. -/
def trialTime (clock : ℤ) : ℤ :=
  Int.bmod (max clock 0) (2 ^ 64)

/-- At that time every verifier accepts the body that it signs. -/
lemma verify_trial (v : Slack.Verifier) (clock : ℤ) :
    v.verify (some (toString (trialTime clock)))
      (some (v.sign (toString (trialTime clock)) trialBody)) trialBody (trialTime clock) =
        .ok () :=
  verify_sign_now v trialBody (Int.le_bmod (by decide)) (Int.bmod_lt (by decide))

/-- The trial signature passes at any time, so it says nothing about the secret nor the clock. -/
lemma checkSigningSecret_eq (s : Settings) (clock : ℤ) :
    checkSigningSecret s clock = ⟨"signing_secret", .pass,
      "signature round trip succeeded (replay window " ++ toString s.slack.maxRequestAgeSecs ++
        "s)"⟩ := by
  have htime : Int.bmod (max clock 0) (Nat.pow 2 64) = trialTime clock := rfl
  unfold checkSigningSecret
  dsimp only
  rw [htime, verify_trial]
  rfl

lemma SameButSecrets.offlineChecks_eq {w w' : Surroundings} {path? : Option String}
    {s s' : Settings} (hw : SameButSecrets w w' path?)
    (hs : load w (asCommanded path?) = .ok s) (hs' : load w' (asCommanded path?) = .ok s')
    (htoken : redactToken s.slack.token.reveal = redactToken s'.slack.token.reveal)
    (clock clock' : ℤ) :
    offlineChecks s clock = offlineChecks s' clock' := by
  have hage : s.slack.maxRequestAgeSecs = s'.slack.maxRequestAgeSecs :=
    hw.value_eq hs hs' (k := .maxRequestAgeSecs) (not_isSecret_of_key (by decide))
  have hproxy : s.slack.proxy = s'.slack.proxy :=
    hw.value_eq hs hs' (k := .proxy) (not_isSecret_of_key (by decide))
  have hendpoint : s.bot.endpointUrl = s'.bot.endpointUrl :=
    hw.value_eq hs hs' (k := .endpointUrl) (not_isSecret_of_key (by decide))
  unfold offlineChecks Command.checkToken checkProxySetting checkBot
  rw [htoken, checkSigningSecret_eq, checkSigningSecret_eq, hage, hproxy, hendpoint]

lemma doctor_of_load {w : Surroundings} {path? : Option String} {s : Settings}
    (hs : load w (asCommanded path?) = .ok s) {σ : Type} (json : Bool) (clock : ℤ)
    (wire : Http.Wire σ) (state : σ) :
    doctor w path? json false clock wire state =
      let checks := offlineChecks s clock ++
        [.skipped "slack_auth" "pass --online to call Slack `auth.test`"]
      (⟨if allPass checks then 0 else 1,
        if json then (reportValue checks).pretty else reportText checks⟩, state) := by
  unfold asCommanded at hs
  unfold doctor examine
  rw [hs]
  rfl

end Checks

/-- Two runs that differ in their secrets alone show the same exactly if their tokens are of the
same kind. Tokens that start with `xoxb-` are. -/
theorem secrets_shown_by_kind {w w' : Surroundings} {path? : Option String} {s s' : Settings}
    (hw : SameButSecrets w w' path?)
    (hs : load w (asCommanded path?) = .ok s) (hs' : load w' (asCommanded path?) = .ok s') :
    (ShowSame w w' path? ↔ SameKind s.slack.token.reveal s'.slack.token.reveal) ∧
    (Text.hasStart "xoxb-" s.slack.token.reveal = true →
      Text.hasStart "xoxb-" s'.slack.token.reveal = true → ShowSame w w' path?) := by
  have hblank := (not_blank_of_check ((load_eq_ok_iff_layers w _ s).mp hs).1).1
  have hblank' := (not_blank_of_check ((load_eq_ok_iff_layers w' _ s').mp hs').1).1
  have hsame : ShowSame w w' path? ↔ SameKind s.slack.token.reveal s'.slack.token.reveal := by
    rw [← redactToken_eq_iff hblank hblank', ← hw.listSettings_eq_iff hs hs']
    constructor
    · exact fun h => h.listing
    · intro hlisting
      refine ⟨hlisting, fun json clock clock' wire wire' state state' _ => ?_⟩
      have htoken := (hw.listSettings_eq_iff hs hs').mp hlisting
      rw [doctor_of_load hs, doctor_of_load hs', hw.offlineChecks_eq hs hs' htoken clock clock']
  exact ⟨hsame, fun h h' => hsame.mpr (sameKind_of_hasStart h h')⟩

/-- No file, and the secrets in variables. -/
def withSecrets (token secret : String) : Surroundings where
  env := ([("PARLEY_SLACK_TOKEN", token), ("PARLEY_SLACK_SIGNING_SECRET", secret)].lookup ·)
  entry? _ := none

lemma sameButSecrets_withSecrets {token token' secret secret' : String}
    (ht : Text.trim token ≠ "") (ht' : Text.trim token' ≠ "") (hs : Text.trim secret ≠ "")
    (hs' : Text.trim secret' ≠ "") :
    SameButSecrets (withSecrets token secret) (withSecrets token' secret') none where
  env := by
    intro α k hk name hname
    have hother : ∀ token secret : String, (withSecrets token secret).env name = none := by
      intro token secret
      cases k with
      | token => exact absurd .token hk
      | signingSecret => exact absurd .signingSecret hk
      | logLevel | logFormat =>
        rcases List.mem_cons.mp hname with rfl | hlast
        · rfl
        · rw [List.mem_singleton.mp hlast]
          rfl
      | _ =>
        rw [List.mem_singleton.mp hname]
        rfl
    rw [hother, hother]
  env_secret := by
    intro α k hk name hname
    cases hk with
    | token =>
      rw [List.mem_singleton.mp hname]
      exact iff_of_false (fun h => ht (h token rfl)) fun h => ht' (h token' rfl)
    | signingSecret =>
      rw [List.mem_singleton.mp hname]
      exact iff_of_false (fun h => hs (h secret rfl)) fun h => hs' (h secret' rfl)
  written := by
    intro α k path
    refine iff_of_false ?_ ?_
    · rintro ⟨_, _, _, _, _, ⟨hpath, -⟩, -⟩
      cases hpath
    · rintro ⟨_, _, _, _, _, ⟨hpath, -⟩, -⟩
      cases hpath
  given := by
    intro doc doc' hdoc hdoc' α k hk a
    cases hdoc with
    | file hpath => cases hpath
    | absent =>
      cases hdoc' with
      | file hpath => cases hpath
      | absent => rfl

theorem secrets_shown_by_kind_of_bot_tokens :
    (∃ s, load (withSecrets "xoxb-1-a" "first") {} = .ok s) ∧
    (∃ s, load (withSecrets "xoxb-22-b" "second") {} = .ok s) ∧
    ShowSame (withSecrets "xoxb-1-a" "first") (withSecrets "xoxb-22-b" "second") none := by
  have hw : SameButSecrets (withSecrets "xoxb-1-a" "first") (withSecrets "xoxb-22-b" "second")
      none :=
    sameButSecrets_withSecrets (by decide) (by decide) (by decide) (by decide)
  have hs : load (withSecrets "xoxb-1-a" "first") {} = .ok { Settings.default with
      slack := { Settings.default.slack with
        token := ⟨"xoxb-1-a"⟩
        signingSecret := ⟨"first"⟩ } } := by
    apply eq_ok_of_toOption
    decide +kernel
  have hs' : load (withSecrets "xoxb-22-b" "second") {} = .ok { Settings.default with
      slack := { Settings.default.slack with
        token := ⟨"xoxb-22-b"⟩
        signingSecret := ⟨"second"⟩ } } := by
    apply eq_ok_of_toOption
    decide +kernel
  exact ⟨⟨_, hs⟩, ⟨_, hs'⟩, (secrets_shown_by_kind hw hs hs').2 (by decide) (by decide)⟩

/-- A token may have its first hyphen late, and then more of it is shown than its kind. -/
theorem listing_shows_token_start :
    SameButSecrets (withSecrets "xoxbSECRET-1" "s") (withSecrets "xoxb-1" "s") none ∧
    (∃ s, load (withSecrets "xoxbSECRET-1" "s") {} = .ok s) ∧
    (∃ s, load (withSecrets "xoxb-1" "s") {} = .ok s) ∧
    redactToken "xoxbSECRET-1" = "xoxbSECRET-***" ∧ redactToken "xoxb-1" = "xoxb-***" ∧
    ¬ShowSame (withSecrets "xoxbSECRET-1" "s") (withSecrets "xoxb-1" "s") none := by
  have hw : SameButSecrets (withSecrets "xoxbSECRET-1" "s") (withSecrets "xoxb-1" "s") none :=
    sameButSecrets_withSecrets (by decide) (by decide) (by decide) (by decide)
  have hexit : (listSettings (withSecrets "xoxbSECRET-1" "s") none).exitCode = 0 := by
    decide +kernel
  have hexit' : (listSettings (withSecrets "xoxb-1" "s") none).exitCode = 0 := by
    decide +kernel
  have hlisting : listSettings (withSecrets "xoxbSECRET-1" "s") none ≠
      listSettings (withSecrets "xoxb-1" "s") none := by
    decide +kernel
  exact ⟨hw, load_of_listSettings hexit, load_of_listSettings hexit', by decide, by decide,
    fun h => hlisting h.listing⟩

end SlackBridge.Proofs
