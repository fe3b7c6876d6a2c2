import SlackBridge.Proofs.CallAttempts
import SlackBridge.Proofs.JsonRecords
import SlackBridge.Proofs.JsonTrees
import SlackBridge.Proofs.Redaction

/-!
# The verdict of the doctor

Six checks are made in every run, and two of them decide: whether the settings load, and whether
Slack names the user of the token if it is asked. The others cannot fail; the trial of the signing
secret among them passes at any time. The exit code and the report agree on the verdict.
-/

namespace SlackBridge.Proofs

open Json Settings Slack Command

/-- The checks of every report, in order. -/
def checkNames : List String :=
  ["config_validation", "slack_token", "signing_secret", "proxy", "bot_bridge", "slack_auth"]

/-- Slack names the user of the token: a client can be made and its request can be sent, and the
last exchange of its call is a success that says so. -/
inductive Identifies (s : ForSlack) (script : ℕ → Http.Exchange) : Prop
  | mk {client : Client} {url : Url} {n : ℕ} {r : Http.Response} {answer : ApiAnswer}
      {user : String} (hclient : Client.ofSettings s = .ok client)
      (htarget : (client.request "auth.test" none 0).target = .ok url)
      (hlength : IsLength 3 script n) (hlast : script (n - 1) = .answered r)
      (hsuccess : 200 ≤ r.status ∧ r.status ≤ 299) (hread : r.json? ApiAnswer.decode = some answer)
      (hok : answer.ok = true) (huser : answer.userId = some user)
      (hblank : Text.isBlankText user = false) : Identifies s script

/-! ### The answer of Slack -/

section Answer

variable {s : ForSlack} {client : Client}

lemma exists_identity_iff (a : ApiAnswer) :
    (∃ identity, Client.identity a = .ok identity) ↔
      ∃ user, a.userId = some user ∧ Text.isBlankText user = false := by
  unfold Client.identity
  cases ha : a.userId.filter (!Text.isBlankText ·) with
  | none =>
    rw [Option.filter_eq_none_iff] at ha
    constructor
    · rintro ⟨identity, h⟩
      cases h
    · rintro ⟨user, huser, hblank⟩
      have hrefused := ha user huser
      rw [hblank] at hrefused
      exact absurd rfl hrefused
  | some user =>
    rw [Option.filter_eq_some_iff, Bool.not_eq_true'] at ha
    exact ⟨fun _ => ⟨user, ha⟩, fun _ => ⟨_, rfl⟩⟩

lemma exists_authTest_iff (client : Client) (script : ℕ → Http.Exchange) :
    (∃ identity, (client.authTest (scripted script) []).result = .ok identity) ↔
      ∃ (a : ApiAnswer) (user : String), (client.call (scripted script) Client.authMethod none
        ApiAnswer.decode []).result = .ok a ∧ a.ok = true ∧ a.userId = some user ∧
        Text.isBlankText user = false := by
  have hbind : ∀ identity, (client.authTest (scripted script) []).result = .ok identity ↔
      ∃ a : ApiAnswer, ((client.call (scripted script) Client.authMethod none ApiAnswer.decode
        []).result = .ok a ∧ a.ok = true) ∧ Client.identity a = .ok identity := by
    intro identity
    simp only [← bind_check_eq_ok_iff]
    exact bind_eq_ok_iff _ _ _
  simp only [hbind]
  constructor
  · rintro ⟨identity, a, ⟨ha, hok⟩, hidentity⟩
    obtain ⟨user, huser, hblank⟩ := (exists_identity_iff a).mp ⟨identity, hidentity⟩
    exact ⟨a, user, ha, hok, huser, hblank⟩
  · rintro ⟨a, user, ha, hok, huser, hblank⟩
    obtain ⟨identity, hidentity⟩ := (exists_identity_iff a).mpr ⟨user, huser, hblank⟩
    exact ⟨identity, a, ⟨ha, hok⟩, hidentity⟩

/-- The client of the settings, if there is one: slashes at the end of the base URL are dropped. -/
lemma eq_of_ofSettings (h : Client.ofSettings s = .ok client) :
    client = ⟨s.token, String.ofList (s.apiBaseUrl.toList.reverse.dropWhile (· == '/')).reverse,
      s.proxy, 10000, .default⟩ := by
  unfold Client.ofSettings Client.create at h
  dsimp only at h
  split at h
  · cases h
  · cases h
    rfl

lemma exists_askSlack_iff (s : Settings) (script : ℕ → Http.Exchange) :
    (∃ identity, (askSlack s (scripted script) []).1 = .ok identity) ↔
      Identifies s.slack script := by
  have hlimit : max 1 RetryPolicy.default.maxAttempts.toNat = 3 := by decide
  unfold askSlack
  cases hclient : Client.ofSettings s.slack with
  | error e =>
    constructor
    · rintro ⟨identity, h⟩
      cases h
    · rintro ⟨hok, -⟩
      rw [hclient] at hok
      cases hok
  | ok client =>
    have hpolicy : client.retry = .default := by rw [eq_of_ofSettings hclient]
    dsimp only
    simp only [exists_authTest_iff, call_scripted_eq_ok_iff, hpolicy, hlimit]
    constructor
    · rintro ⟨a, user, ⟨url, n, r, hurl, hlength, hr, hs, hread⟩, hok, huser, hblank⟩
      exact ⟨hclient, hurl, hlength, hr, hs, hread, hok, huser, hblank⟩
    · rintro ⟨hclient', hurl, hlength, hr, hs, hread, hok, huser, hblank⟩
      rw [hclient] at hclient'
      cases hclient'
      exact ⟨_, _, ⟨_, _, _, hurl, hlength, hr, hs, hread⟩, hok, huser, hblank⟩

end Answer

/-! ### The checks -/

section Checks

lemma allPass_iff (checks : List Check) :
    allPass checks = true ↔ ∀ c ∈ checks, c.status ≠ .fail := by
  unfold allPass
  rw [List.all_eq_true]
  simp only [bne_iff_ne]

lemma passes_offlineChecks (s : Settings) (clock : ℤ) :
    ∀ c ∈ offlineChecks s clock, c.status = .pass := by
  unfold offlineChecks
  rw [checkSigningSecret_eq]
  intro c hc
  simp only [List.mem_cons, List.not_mem_nil, or_false] at hc
  rcases hc with rfl | rfl | rfl | rfl | rfl
  all_goals rfl

/-- Only the last check of settings that load can fail. -/
lemma allPass_append_iff (s : Settings) (clock : ℤ) (last : Check) :
    allPass (offlineChecks s clock ++ [last]) = true ↔ last.status ≠ .fail := by
  rw [allPass_iff]
  constructor
  · intro h
    exact h last (List.mem_append_right _ (List.mem_singleton_self last))
  · intro h c hc
    rcases List.mem_append.mp hc with hoffline | hlast
    · rw [passes_offlineChecks s clock c hoffline]
      exact CheckStatus.noConfusion
    · rwa [List.mem_singleton.mp hlast]

lemma status_checkIdentity (asked : Except ApiError Identity) :
    (checkIdentity asked).status ≠ .fail ↔ ∃ identity, asked = .ok identity := by
  cases asked with
  | error e =>
    constructor
    · intro h
      exact absurd rfl h
    · rintro ⟨identity, h⟩
      cases h
  | ok identity => exact ⟨fun _ => ⟨identity, rfl⟩, fun _ => CheckStatus.noConfusion⟩

lemma name_checkIdentity (asked : Except ApiError Identity) :
    (checkIdentity asked).name = "slack_auth" := by
  cases asked with
  | error e => rfl
  | ok identity => rfl

lemma names_offlineChecks (s : Settings) (clock : ℤ) (last : Check) :
    (offlineChecks s clock ++ [last]).map (·.name) =
      ["config_validation", "slack_token", "signing_secret", "proxy", "bot_bridge", last.name] := by
  unfold offlineChecks
  rw [checkSigningSecret_eq]
  rfl

variable {w : Surroundings} {path? : Option String} {σ : Type}

lemma examine_of_not_load {p : Problem} (h : load w (asCommanded path?) = .error p)
    (online : Bool) (clock : ℤ) (wire : Http.Wire σ) (state : σ) :
    (examine w path? online clock wire state).1 = failedChecks p := by
  unfold asCommanded at h
  unfold examine
  rw [h]

/-- Settings that load are examined by five checks that pass and one that may ask Slack. -/
lemma examine_of_load {s : Settings} (h : load w (asCommanded path?) = .ok s) (online : Bool)
    (clock : ℤ) (wire : Http.Wire σ) (state : σ) :
    ∃ last, (examine w path? online clock wire state).1 = offlineChecks s clock ++ [last] ∧
      last.name = "slack_auth" ∧ (last.status ≠ .fail ↔
        (online = true → ∃ identity, (askSlack s wire state).1 = .ok identity)) := by
  unfold asCommanded at h
  unfold examine
  rw [h]
  cases online with
  | false =>
    exact ⟨_, rfl, rfl, fun _ h => Bool.noConfusion h, fun _ => CheckStatus.noConfusion⟩
  | true =>
    refine ⟨checkIdentity (askSlack s wire state).1, rfl, name_checkIdentity _, ?_⟩
    rw [status_checkIdentity]
    exact ⟨fun h _ => h, fun h => h rfl⟩

lemma allPass_examine_iff (online : Bool) (clock : ℤ) (script : ℕ → Http.Exchange) :
    allPass (examine w path? online clock (scripted script) []).1 = true ↔
      ∃ s, load w (asCommanded path?) = .ok s ∧
        (online = true → Identifies s.slack script) := by
  cases hload : load w (asCommanded path?) with
  | error p =>
    rw [examine_of_not_load hload]
    constructor
    · intro h
      cases h
    · rintro ⟨s, hs, -⟩
      cases hs
  | ok s =>
    obtain ⟨last, hchecks, -, hlast⟩ := examine_of_load hload online clock (scripted script) []
    rw [hchecks, allPass_append_iff, hlast, exists_askSlack_iff]
    constructor
    · intro h
      exact ⟨s, rfl, h⟩
    · rintro ⟨s', hs', h⟩
      cases hs'
      exact h

lemma names_examine (online : Bool) (clock : ℤ) (wire : Http.Wire σ) (state : σ) :
    (examine w path? online clock wire state).1.map (·.name) = checkNames := by
  cases hload : load w (asCommanded path?) with
  | error p =>
    rw [examine_of_not_load hload]
    rfl
  | ok s =>
    obtain ⟨last, hchecks, hname, -⟩ := examine_of_load hload online clock wire state
    rw [hchecks, names_offlineChecks, hname]
    rfl

/-- A file that is named and missing keeps the settings from being loaded. -/
lemma load_of_missing {path : String} (h : w.entry? path = none) :
    load w (asCommanded (some path)) = .error (.missingFile path) := by
  have hpath : w.settingsPath? (some path) = none := by
    unfold Surroundings.settingsPath?
    dsimp only
    rw [h]
    rfl
  unfold load Surroundings.anyFileLayer asCommanded
  rw [hpath]
  rfl

end Checks

/-! ### The report -/

section Report

/-- A check as an object of a report. -/
def checkTree (c : Check) : Tree :=
  objectTree [("name", .string (some c.name)), ("status", .string (some c.status.name)),
    ("details", .string (some c.details))]

lemma itemNumbers_checks (checks : List Check) :
    itemNumbers (checks.map Check.value) = [] := by
  induction checks with
  | nil => rfl
  | cons c rest ih =>
    rw [List.map_cons, itemNumbers, ih]
    rfl

lemma valueTrees_checks (checks : List Check) :
    valueTrees (checks.map Check.value) = checks.map checkTree := by
  rw [valueTrees_eq_map, List.map_map]
  rfl

/-- The report that is printed as JSON reads as the verdict, a summary and the checks. -/
lemma read?_report (checks : List Check) :
    Tree.read? (Text.utf8 (reportValue checks).pretty) = some (objectTree
      [("overall_status", .string (some (if allPass checks then "pass" else "fail"))),
        ("summary", .string (some (summary checks))),
        ("checks", .array (checks.map checkTree))]) := by
  have hnumbers : numbers (reportValue checks) = [] := by
    change itemNumbers (checks.map Check.value) ++ [] = []
    rw [itemNumbers_checks, List.append_nil]
  rw [read?_pretty fun n hn => absurd hn (by rw [hnumbers]; exact List.not_mem_nil)]
  have hstatus : (if allPass checks then CheckStatus.pass else CheckStatus.fail).name =
      if allPass checks then "pass" else "fail" := by
    cases allPass checks with
    | true => rfl
    | false => rfl
  unfold reportValue
  simp only [valueTree, valueMembers, valueTrees_checks, hstatus]
  rfl

end Report

/-- The doctor exits with 0 exactly if the settings load and Slack, if it is asked, names the user
of the token. Its report has the same six checks in every run and says `pass` exactly if the exit
code is 0. The signature that it makes on trial is accepted for all settings that load, at any time,
and the report says so. -/
theorem doctor_verdict (w : Surroundings) (path? : Option String) (json online : Bool) (clock : ℤ)
    (script : ℕ → Http.Exchange) :
    let outcome := (doctor w path? json online clock (scripted script) []).1
    let checks := (examine w path? online clock (scripted script) []).1
    (outcome.exitCode = 0 ↔ ∃ s, load w { path := path?, requireFile := path?.isSome } = .ok s ∧
      (online = true → Identifies s.slack script)) ∧
    (outcome.exitCode = 0 ∨ outcome.exitCode = 1) ∧
    (outcome.exitCode = 0 ↔ ∀ c ∈ checks, c.status ≠ .fail) ∧
    (∀ path, path? = some path → w.entry? path = none → outcome.exitCode = 1) ∧
    checks.map (·.name) = checkNames ∧
    (json = false → outcome.output = reportText checks) ∧
    (json = true → Tree.read? (Text.utf8 outcome.output) = some (objectTree
      [("overall_status", .string (some (if outcome.exitCode = 0 then "pass" else "fail"))),
        ("summary", .string (some (summary checks))),
        ("checks", .array (checks.map checkTree))])) ∧
    ∀ s, load w { path := path?, requireFile := path?.isSome } = .ok s →
      let verifier : Verifier := ⟨s.slack.signingSecret, s.slack.maxRequestAgeSecs⟩
      let now := trialTime clock
      verifier.verify (some (toString now)) (some (verifier.sign (toString now) trialBody))
        trialBody now = .ok () ∧
      checks[2]? = some ⟨"signing_secret", .pass,
        "signature round trip succeeded (replay window " ++ toString verifier.maxAge ++ "s)"⟩ := by
  intro outcome checks
  have hexit : outcome.exitCode = if allPass checks then 0 else 1 := rfl
  have hcode : outcome.exitCode = 0 ↔ allPass checks = true := by
    rw [hexit]
    cases allPass checks with
    | true => exact iff_of_true rfl rfl
    | false => exact iff_of_false Nat.one_ne_zero Bool.false_ne_true
  have hone : outcome.exitCode = 0 ∨ outcome.exitCode = 1 := by
    rw [hexit]
    cases allPass checks with
    | true => exact .inl rfl
    | false => exact .inr rfl
  have hverdict := hcode.trans (allPass_examine_iff online clock script)
  refine ⟨hverdict, hone, hcode.trans (allPass_iff checks), ?_, names_examine online clock _ _, ?_,
    ?_, ?_⟩
  · rintro path rfl hmissing
    refine hone.resolve_left fun hzero => ?_
    obtain ⟨s, hs, -⟩ := hverdict.mp hzero
    rw [load_of_missing hmissing] at hs
    cases hs
  · rintro rfl
    rfl
  · rintro rfl
    have hread := read?_report checks
    simp only [hcode]
    exact hread
  · intro s hs
    obtain ⟨last, hchecks, -, -⟩ := examine_of_load hs online clock (scripted script) []
    have hthird : checks[2]? = some (checkSigningSecret s clock) := by
      change (examine w path? online clock (scripted script) []).1[2]? = _
      rw [hchecks]
      rfl
    rw [checkSigningSecret_eq] at hthird
    exact ⟨verify_trial _ clock, hthird⟩

/-- Slack asks for a break at first and then answers. -/
def hesitantSlack : ℕ → Http.Exchange
  | 0 => .answered ⟨429, [("retry-after", "1")], [], true⟩
  | _ + 1 => .answered ⟨200, [], Text.utf8 "\x7b\"ok\":true,\"user_id\":\"U1\"\x7d", true⟩

theorem doctor_verdict_of_hesitant_slack :
    (∃ s, load (withSecrets "xoxb-1" "s") {} = .ok s) ∧
    (doctor (withSecrets "xoxb-1" "s") none true true (-1) (scripted hesitantSlack) []).1.exitCode =
      0 := by
  have hload : load (withSecrets "xoxb-1" "s") {} = .ok { Settings.default with
      slack := { Settings.default.slack with
        token := ⟨"xoxb-1"⟩
        signingSecret := ⟨"s"⟩ } } := by
    apply eq_ok_of_toOption
    decide +kernel
  have htarget : (Client.request ⟨⟨"xoxb-1"⟩, "https://slack.com/api", none, 10000, .default⟩
      "auth.test" none 0).target = .ok ⟨"https".toList,
        some ⟨[], [], .name "slack.com".toList, none⟩, "/api/auth.test".toList, none, none⟩ := by
    apply eq_ok_of_toOption
    decide +kernel
  have hlength : IsLength 3 hesitantSlack 2 := by
    refine ⟨by decide, by decide, ?_, ?_⟩
    · intro k hk
      obtain rfl : k = 0 := by omega
      exact .answered (.inl rfl)
    · rintro - (_ | _ | hstatus)
      exact absurd hstatus (by decide)
  have hread : ((Http.Response.mk 200 [] (Text.utf8 "\x7b\"ok\":true,\"user_id\":\"U1\"\x7d")
      true).json? ApiAnswer.decode).map (fun a => (a.ok, a.userId)) = some (true, some "U1") := by
    decide +kernel
  obtain ⟨answer, hanswer, hfields⟩ := Option.map_eq_some_iff.mp hread
  obtain ⟨hok, huser⟩ := Prod.mk.inj hfields
  refine ⟨⟨_, hload⟩, (doctor_verdict _ none true true (-1) hesitantSlack).1.mpr
    ⟨_, hload, fun _ => ?_⟩⟩
  exact ⟨rfl, htarget, hlength, rfl, by decide, hanswer, hok, huser, by decide⟩

end SlackBridge.Proofs
