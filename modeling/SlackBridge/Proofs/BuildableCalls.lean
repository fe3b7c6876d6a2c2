import SlackBridge.Proofs.DoctorVerdict
import SlackBridge.Proofs.WebHosts

/-!
# Calls that can be built

Of the token and of the base URL only the first characters are checked when the settings are, but
all of them count when a request is built. Here is for which of the checked settings the two agree;
with the others each post fails at once, and nothing is ever sent.
-/

namespace SlackBridge.Proofs

open Json Settings Slack

/-- Where posts go. -/
def postUrl (base : String) : String :=
  String.ofList (base.toList.rdropWhile (· == '/')) ++ "/chat.postMessage"

/-- A text that may stand in a header: it holds no control character other than a tab. -/
def FitsHeader (text : String) : Prop :=
  ∀ c ∈ text.toList, c = '\t' ∨ (0x20 ≤ c.toNat ∧ c.toNat ≠ 0x7f)

/-- A URL that a request may name: its host holds none of four characters, and it is not too
long. -/
structure FitsRequest (u : Url) : Prop where
  host : ∀ a, u.authority = some a → ∀ c ∈ a.host.chars, c ∉ unsentChars
  length : (Http.sentUrl u).text.utf8ByteSize ≤ 65534

/-- The requests of posts can be built. -/
structure Buildable (s : ForSlack) : Prop where
  token : FitsHeader s.token.reveal
  url : ∃ u, Url.parse (postUrl s.apiBaseUrl) = .ok u ∧ FitsRequest u

/-- What building a post comes to: the URL that is sent to, or the failure. -/
inductive BuildsTo (s : ForSlack) : Except Http.Failure Url → Prop
  | unread {reason : Url.ParseError} (h : Url.parse (postUrl s.apiBaseUrl) = .error reason) :
    BuildsTo s (.error .unbuildable)
  | illegal {u : Url} (h : Url.parse (postUrl s.apiBaseUrl) = .ok u)
      (htoken : ¬FitsHeader s.token.reveal) : BuildsTo s (.error .unbuildable)
  | unfit {u : Url} (h : Url.parse (postUrl s.apiBaseUrl) = .ok u)
      (htoken : FitsHeader s.token.reveal) (hu : ¬FitsRequest u) :
    BuildsTo s (.error (.unsupportedUrl (Http.sentUrl u)))
  | sent {u : Url} (h : Url.parse (postUrl s.apiBaseUrl) = .ok u)
      (htoken : FitsHeader s.token.reveal) (hu : FitsRequest u) :
    BuildsTo s (.ok (Http.sentUrl u))

/-- No host stands behind the scheme, only slashes of either kind and what does not count among
them. -/
def OnlySlashes (base : String) : Prop :=
  ∀ c ∈ (base.toList.dropWhile (· != ':')).drop 1, c ∈ "/\\\t\n\r".toList

/-- The failures of requests that could not be built. -/
def BuilderError (e : Http.Failure) : Prop :=
  "builder error".toList <+: e.message.toList

/-! ### One request -/

section Requests

lemma not_builderError_sending (url : Url) :
    ¬"builder error".toList <+: (sendingError url).toList := by
  unfold sendingError
  rw [String.append_assoc, String.toList_append]
  rintro ⟨rest, h⟩
  exact absurd (List.cons.inj h).1 (by decide)

lemma builderError_iff (e : Http.Failure) :
    BuilderError e ↔ e = .unbuildable ∨ ∃ url, e = .unsupportedUrl url := by
  unfold BuilderError
  cases e with
  | unbuildable => exact iff_of_true (List.prefix_refl _) (.inl rfl)
  | unsupportedUrl url =>
    refine iff_of_true ?_ (.inr ⟨url, rfl⟩)
    change _ <+: ("builder error for url (" ++ url.text ++ ")").toList
    rw [String.append_assoc, String.toList_append]
    have hstart : "builder error".toList <+: "builder error for url (".toList := by decide
    exact hstart.trans (List.prefix_append _ _)
  | refused url | timedOut url | closed url =>
    refine iff_of_false (not_builderError_sending url) ?_
    rintro (h | ⟨url', h⟩)
    · cases h
    · cases h
  | unreadable =>
    refine iff_of_false (by decide) ?_
    rintro (h | ⟨url', h⟩)
    · cases h
    · cases h

lemma isLegalValue_bearer (token : String) :
    Http.isLegalValue ("Bearer " ++ token) = true ↔ FitsHeader token := by
  have hbearer : Http.isLegalValue "Bearer " = true := by decide
  unfold Http.isLegalValue at hbearer ⊢
  unfold FitsHeader
  rw [String.toList_append, List.all_append, hbearer, Bool.true_and, List.all_eq_true]
  simp only [Bool.or_eq_true, beq_iff_eq, Bool.and_eq_true, decide_eq_true_eq, bne_iff_ne, ne_eq]

lemma all_isLegalValue_headers (c : Client) (method : String) (body : Option Value) (k : ℕ) :
    ((c.request method body k).headers.all fun (_, value) => Http.isLegalValue value) = true ↔
      FitsHeader c.token.reveal := by
  have hjson : Http.isLegalValue "application/json" = true := by decide
  have hagent : Http.isLegalValue Client.agent = true := by decide
  have hbody : ((if body.isSome then [("content-type", "application/json")] else []).all
      fun (_, value) => Http.isLegalValue value) = true := by
    cases body with
    | none => rfl
    | some _ =>
      rw [Option.isSome_some, if_pos rfl, List.all_cons, List.all_nil, Bool.and_true]
      exact hjson
  rw [← isLegalValue_bearer]
  unfold Client.request
  dsimp only
  rw [List.all_append, List.all_append, hbody]
  simp only [List.all_cons, List.all_nil, isLegalValue_toString, hjson, hagent, Bool.and_true]

lemma sentUrl_eq_or (u : Url) : Http.sentUrl u = u ∨ Http.sentUrl u = u.withoutUser := by
  unfold Http.sentUrl
  split
  · exact .inl rfl
  dsimp only
  split
  · exact .inl rfl
  split
  · exact .inr rfl
  · exact .inl rfl

lemma scheme_sentUrl (u : Url) : (Http.sentUrl u).scheme = u.scheme := by
  rcases sentUrl_eq_or u with h | h
  · rw [h]
  · rw [h]
    rfl

lemma host_sentUrl (u : Url) :
    (Http.sentUrl u).authority.map (·.host) = u.authority.map (·.host) := by
  rcases sentUrl_eq_or u with h | h
  · rw [h]
  · rw [h, Url.withoutUser, Option.map_map]
    rfl

/-- A URL of the web may be sent if the four characters are not in its host. -/
lemma isSendable_sentUrl {u : Url} {a : Url.Authority} (hscheme : IsWebScheme u.scheme)
    (ha : u.authority = some a) (htext : IsHostText a.host.chars) :
    Http.isSendable (Http.sentUrl u) = true ↔ FitsRequest u := by
  have hhost : (Http.sentUrl u).authority.any (fun b => b.host.chars.all Http.isHostChar) =
      a.host.chars.all Http.isHostChar := by
    have hmap := host_sentUrl u
    rw [ha] at hmap
    obtain ⟨b, hb, hbhost⟩ := Option.map_eq_some_iff.mp hmap
    rw [hb, Option.any_some, hbhost]
  have hknown : Http.requestSchemes.contains (Http.sentUrl u).scheme = true := by
    rw [scheme_sentUrl]
    rcases hscheme with h | h
    · rw [h]
      rfl
    · rw [h]
      rfl
  unfold Http.isSendable Http.urlLimit
  rw [hknown, hhost, Bool.true_and, Bool.and_eq_true, htext.all_isHostChar_iff, decide_eq_true_iff]
  constructor
  · rintro ⟨h, hlength⟩
    refine ⟨?_, hlength⟩
    intro b hb
    rw [ha] at hb
    cases hb
    exact h
  · rintro ⟨h, hlength⟩
    exact ⟨h a ha, hlength⟩

end Requests

/-! ### The base URL -/

section Bases

/-- A base URL in parts: a scheme of the web, the rest, and the slashes at its end. -/
structure BaseParts (base : String) (scheme rest slashes : List Char) : Prop where
  web : IsWebScheme scheme
  ends : ∀ c ∈ slashes, c = '/'
  whole : base.toList = scheme ++ ':' :: (rest ++ slashes)
  trimmed : base.toList.rdropWhile (· == '/') = scheme ++ ':' :: rest

lemma exists_baseParts {base : String} (h : hasWebScheme base = true) :
    ∃ scheme rest slashes, BaseParts base scheme rest slashes := by
  obtain ⟨scheme, hscheme, behind, hbase⟩ : ∃ scheme, IsWebScheme scheme ∧
      ∃ behind, base.toList = scheme ++ ':' :: behind := by
    unfold hasWebScheme Text.hasStart at h
    rw [Bool.or_eq_true, List.isPrefixOf_iff_prefix, List.isPrefixOf_iff_prefix] at h
    rcases h with ⟨rest, h⟩ | ⟨rest, h⟩
    · exact ⟨"http".toList, .inl rfl, "//".toList ++ rest, h.symm⟩
    · exact ⟨"https".toList, .inr rfl, "//".toList ++ rest, h.symm⟩
  refine ⟨scheme, behind.rdropWhile (· == '/'), behind.rtakeWhile (· == '/'), hscheme, ?_, ?_, ?_⟩
  · intro c hc
    exact beq_iff_eq.mp (List.mem_rtakeWhile_imp (p := (· == '/')) hc)
  · rw [List.rdropWhile_append_rtakeWhile, hbase]
  · rw [hbase, rdropWhile_append_cons (by decide)]

variable {base : String} {scheme rest slashes : List Char}

lemma BaseParts.significant_postUrl (h : BaseParts base scheme rest slashes) :
    Url.significant (postUrl base).toList =
      scheme ++ ':' :: (unbroken rest ++ '/' :: "chat.postMessage".toList) := by
  have htext : (postUrl base).toList =
      scheme ++ ':' :: ((rest ++ "/chat.postMessag".toList) ++ ['e']) := by
    unfold postUrl
    rw [h.trimmed, String.toList_append, String.toList_ofList, List.append_assoc,
      List.append_assoc]
    rfl
  rw [htext, significant_of_web h.web (by decide)]
  unfold unbroken
  rw [List.append_assoc, List.filter_append]
  rfl

/-- One more slash behind the base URL ends its authority. -/
lemma BaseParts.significant_slash (h : BaseParts base scheme rest slashes) :
    ∃ tail, Url.significant (base ++ "/").toList =
      scheme ++ ':' :: (unbroken rest ++ '/' :: tail) := by
  obtain ⟨tail, htail⟩ : ∃ tail, slashes ++ ['/'] = '/' :: tail := by
    cases slashes with
    | nil => exact ⟨[], rfl⟩
    | cons c others =>
      rw [h.ends c List.mem_cons_self]
      exact ⟨others ++ ['/'], rfl⟩
  have htext : (base ++ "/").toList = scheme ++ ':' :: ((rest ++ slashes) ++ ['/']) := by
    rw [String.toList_append, h.whole, List.append_assoc]
    rfl
  refine ⟨unbroken tail, ?_⟩
  rw [htext, significant_of_web h.web (by decide), List.append_assoc, htail]
  unfold unbroken
  rw [List.filter_append]
  rfl

lemma BaseParts.onlySlashes_iff (h : BaseParts base scheme rest slashes) :
    OnlySlashes base ↔ ∀ c ∈ unbroken rest, Url.isSlash .web c = true := by
  have hbehind : (base.toList.dropWhile (· != ':')).drop 1 = rest ++ slashes := by
    have hscheme : ':' ∉ scheme := by
      rcases h.web with rfl | rfl
      · decide
      · decide
    rw [h.whole, (takeWhile_dropWhile_of_stop (bne_of_notMem hscheme) (bne_self_eq_false ':') _).2]
    rfl
  have hchars : ∀ c : Char, c ∈ "/\\\t\n\r".toList ↔
      ((c != '\t' && c != '\n' && c != '\r') = true → Url.isSlash .web c = true) := by
    intro c
    have hslash : Url.isSlash .web c = true ↔ c = '/' ∨ c = '\\' := by
      unfold Url.isSlash
      rw [Bool.or_eq_true, Bool.and_eq_true, beq_iff_eq, beq_iff_eq, and_iff_left (by decide)]
    have hlisted : c ∈ "/\\\t\n\r".toList ↔
        c = '/' ∨ c = '\\' ∨ c = '\t' ∨ c = '\n' ∨ c = '\r' := by
      change c ∈ ['/', '\\', '\t', '\n', '\r'] ↔ _
      simp only [List.mem_cons, List.not_mem_nil, or_false]
    rw [hslash, hlisted, Bool.and_eq_true, Bool.and_eq_true, bne_iff_ne, bne_iff_ne, bne_iff_ne]
    grind
  unfold OnlySlashes
  rw [hbehind, List.forall_mem_append]
  unfold unbroken
  simp only [List.mem_filter, hchars, and_imp]
  constructor
  · rintro ⟨hrest, -⟩
    exact hrest
  · intro hrest
    refine ⟨hrest, ?_⟩
    intro c hc _
    rw [h.ends c hc]
    rfl

lemma BaseParts.parse_postUrl_eq_ok (h : BaseParts base scheme rest slashes) {u : Url}
    (hu : Url.parse (postUrl base) = .ok u) :
    u.scheme = scheme ∧ ∃ a, u.authority = some a ∧ a.host ≠ .name [] ∧
      IsHostText a.host.chars := by
  rw [parse_of_significant h.web h.significant_postUrl] at hu
  obtain ⟨hscheme, -, a, ha, hread⟩ := readWithAuthority_eq_ok hu
  obtain ⟨_, _, hostText, _, -, -, hhost, -⟩ := parts_of_readAuthority hread
  exact ⟨hscheme, a, ha, ne_of_webHost hhost, isHostText_of_webHost hhost⟩

lemma BaseParts.origin?_of_host (h : BaseParts base scheme rest slashes)
    (hhost : ¬OnlySlashes base) : origin? (postUrl base) = origin? (base ++ "/") := by
  obtain ⟨tail, htail⟩ := h.significant_slash
  rw [h.onlySlashes_iff] at hhost
  rw [origin?_of_significant h.web htail, origin?_of_significant h.web h.significant_postUrl,
    authorityText_append hhost, authorityText_append hhost]

/-- Without a host in the base URL the method is taken for one. -/
lemma BaseParts.origin?_of_onlySlashes (h : BaseParts base scheme rest slashes)
    (hslashes : OnlySlashes base) : origin? (postUrl base) =
      some (scheme, ⟨[], [], .name "chat.postmessage".toList, none⟩) := by
  have hread : ∀ scheme, IsWebScheme scheme →
      Url.readAuthority .web scheme false "chat.postMessage".toList =
        .ok ⟨[], [], .name "chat.postmessage".toList, none⟩ := by
    rintro scheme (rfl | rfl)
    all_goals
      apply eq_ok_of_toOption
      decide +kernel
  have htext : authorityText ('/' :: "chat.postMessage".toList) = "chat.postMessage".toList := by
    decide
  rw [origin?_of_significant h.web h.significant_postUrl,
    authorityText_slashes (h.onlySlashes_iff.mp hslashes), htext, hread scheme h.web]
  rfl

/-- The URL of posts can be read exactly if the base URL with a slash behind it can, or if it names
no host. -/
lemma BaseParts.exists_parse_iff (h : BaseParts base scheme rest slashes) :
    (∃ u, Url.parse (postUrl base) = .ok u) ↔
      OnlySlashes base ∨ ∃ u, Url.parse (base ++ "/") = .ok u := by
  obtain ⟨tail, htail⟩ := h.significant_slash
  rw [← isSome_origin?_iff h.web h.significant_postUrl, ← isSome_origin?_iff h.web htail]
  by_cases hslashes : OnlySlashes base
  · rw [h.origin?_of_onlySlashes hslashes]
    exact iff_of_true rfl (.inl hslashes)
  · rw [h.origin?_of_host hslashes, or_iff_right hslashes]

end Bases

/-! ### Posts -/

section Posts

lemma hasWebScheme_of_check {s : Settings} (h : s.check = .ok ()) :
    hasWebScheme s.slack.apiBaseUrl = true := by
  unfold Settings.check ForSlack.check at h
  simp only [bind_eq_ok_iff, require_eq_ok_iff] at h
  obtain ⟨_, ⟨_, -, _, -, _, -, _, -, _, -, _, -, _, hbase, -⟩, -⟩ := h
  exact hbase

variable {s : ForSlack} {client : Client}

/-- Every attempt of a post is built alike, from the base URL and the token. -/
lemma buildsTo_target (hbase : hasWebScheme s.apiBaseUrl = true)
    (hclient : Client.ofSettings s = .ok client) (body : Option Value) (k : ℕ) :
    BuildsTo s (client.request "chat.postMessage" body k).target := by
  obtain ⟨scheme, rest, slashes, hparts⟩ := exists_baseParts hbase
  have hheaders := all_isLegalValue_headers client "chat.postMessage" body k
  have hurl : (client.request "chat.postMessage" body k).url = postUrl s.apiBaseUrl := by
    rw [eq_of_ofSettings hclient]
    unfold Client.request postUrl List.rdropWhile
    rw [String.append_assoc]
    rfl
  have htoken : client.token = s.token := by rw [eq_of_ofSettings hclient]
  rw [htoken] at hheaders
  unfold Http.Request.target
  rw [hurl]
  cases hparse : Url.parse (postUrl s.apiBaseUrl) with
  | error reason => exact .unread hparse
  | ok u =>
    obtain ⟨hscheme, a, ha, hhost, htext⟩ := hparts.parse_postUrl_eq_ok hparse
    have hweb : IsWebScheme u.scheme := by
      rw [hscheme]
      exact hparts.web
    have hhas : u.hasHost = true := by
      unfold Url.hasHost
      rw [ha, Option.any_some, bne_iff_ne]
      exact hhost
    have hsendable := isSendable_sentUrl hweb ha htext
    -- The checks in the order in which they are made: host, header values, rest of the URL.
    dsimp only
    rw [hhas, Bool.not_true, if_neg Bool.false_ne_true]
    by_cases hfits : FitsHeader s.token.reveal
    · rw [hheaders.mpr hfits, Bool.not_true, if_neg Bool.false_ne_true]
      by_cases hrequest : FitsRequest u
      · rw [if_pos (hsendable.mpr hrequest)]
        exact .sent hparse hfits hrequest
      · rw [if_neg (hsendable.not.mpr hrequest)]
        exact .unfit hparse hfits hrequest
    · rw [Bool.eq_false_iff.mpr (hheaders.not.mpr hfits), Bool.not_false, if_pos rfl]
      exact .illegal hparse hfits

variable {built : Except Http.Failure Url}

lemma BuildsTo.ok_iff (h : BuildsTo s built) : (∃ url, built = .ok url) ↔ Buildable s := by
  have hnone : ∀ e : Http.Failure, ¬∃ url : Url, Except.error e = .ok url := by
    rintro e ⟨url, hurl⟩
    cases hurl
  cases h with
  | unread hparse =>
    refine iff_of_false (hnone _) ?_
    rintro ⟨-, u, hu, -⟩
    rw [hu] at hparse
    cases hparse
  | illegal _ hnot => exact iff_of_false (hnone _) fun h => hnot h.token
  | unfit hparse _ hnot =>
    refine iff_of_false (hnone _) ?_
    rintro ⟨-, u, hu, hfits⟩
    rw [hu] at hparse
    cases hparse
    exact hnot hfits
  | sent hparse htoken hu => exact iff_of_true ⟨_, rfl⟩ ⟨htoken, _, hparse, hu⟩

lemma BuildsTo.builderError (h : BuildsTo s built) {e : Http.Failure} (he : built = .error e) :
    BuilderError e := by
  rw [builderError_iff]
  cases h with
  | unread _ | illegal _ _ =>
    cases he
    exact .inl rfl
  | unfit _ _ _ =>
    cases he
    exact .inr ⟨_, rfl⟩
  | sent _ _ _ => cases he

lemma BuildsTo.eq_of_illegal (h : BuildsTo s built) (htoken : ¬FitsHeader s.token.reveal) :
    built = .error .unbuildable := by
  cases h with
  | unread _ => rfl
  | illegal _ _ => rfl
  | unfit _ hfits _ => exact absurd hfits htoken
  | sent _ hfits _ => exact absurd hfits htoken

lemma BuildsTo.eq_of_unread (h : BuildsTo s built)
    (hparse : (Url.parse (postUrl s.apiBaseUrl)).toOption = none) :
    built = .error .unbuildable := by
  cases h with
  | unread _ => rfl
  | illegal _ _ => rfl
  | unfit hread _ _ | sent hread _ _ =>
    rw [hread] at hparse
    cases hparse

lemma not_builderError_of_send {r : Http.Request} {url : Url} (h : r.target = .ok url) {σ : Type}
    {wire : Http.Wire σ} {state : σ} {e : Http.Failure}
    (he : (Http.send wire state r).1 = .error e) : ¬BuilderError e := by
  rw [builderError_iff]
  unfold Http.send at he
  rw [h] at he
  dsimp only at he
  rintro (rfl | ⟨url', rfl⟩)
  · split at he
    all_goals cases he
  · split at he
    all_goals cases he

lemma post_of_target_error {p : Post} {e : Http.Failure}
    (h : (client.request "chat.postMessage" (some (.object p.fields)) 0).target = .error e)
    {σ : Type} (wire : Http.Wire σ) (state : σ) :
    client.post wire state p =
      ⟨state, [], .error (.transport "chat.postMessage" e.message)⟩ := by
  unfold Client.post Client.postMethod
  rw [call_of_target_error client _ _ _ h wire state]
  rfl

end Posts

/-- A post of settings that pass their check is built, at each attempt, exactly if the token may
stand in a header and the URL of posts can be read and named in a request. With all other settings
it fails at once, with nothing sent or logged. The URL always has a scheme of the web and a host if
it can be read, and both are those of the base URL, unless that has only slashes where a host
should be; then the method is taken for the host. -/
theorem posts_built_or_never_sent {s : Settings} {client : Client} (hs : s.check = .ok ())
    (hclient : Client.ofSettings s.slack = .ok client) (p : Post) :
    let base := s.slack.apiBaseUrl
    let request := client.request "chat.postMessage" (some (.object p.fields))
    (∀ k, BuildsTo s.slack (request k).target) ∧
    ((∀ (σ : Type) (wire : Http.Wire σ) (state : σ) (k : ℕ) (e : Http.Failure),
      (Http.send wire state (request k)).1 = .error e → ¬BuilderError e) ↔ Buildable s.slack) ∧
    (¬Buildable s.slack → ∃ e, BuilderError e ∧
      ∀ (σ : Type) (wire : Http.Wire σ) (state : σ), client.post wire state p =
        ⟨state, [], .error (.transport "chat.postMessage" e.message)⟩) ∧
    (∀ u, Url.parse (postUrl base) = .ok u →
      IsWebScheme u.scheme ∧ ∃ a, u.authority = some a ∧ a.host ≠ .name []) ∧
    ((∃ u, Url.parse (postUrl base) = .ok u) ↔
      OnlySlashes base ∨ ∃ u, Url.parse (base ++ "/") = .ok u) ∧
    (¬OnlySlashes base → origin? (postUrl base) = origin? (base ++ "/")) ∧
    (OnlySlashes base → ∃ scheme,
      origin? (postUrl base) = some (scheme, ⟨[], [], .name "chat.postmessage".toList, none⟩)) := by
  intro base request
  have hbase := hasWebScheme_of_check hs
  obtain ⟨scheme, rest, slashes, hparts⟩ := exists_baseParts hbase
  have hbuilds : ∀ k, BuildsTo s.slack (request k).target :=
    buildsTo_target hbase hclient (some (.object p.fields))
  refine ⟨hbuilds, ⟨?_, ?_⟩, ?_, ?_, hparts.exists_parse_iff, hparts.origin?_of_host, ?_⟩
  · intro hnever
    rw [← (hbuilds 0).ok_iff]
    cases htarget : (request 0).target with
    | error e =>
      have hsend : (Http.send (fun n _ => (.refused, n)) () (request 0)).1 = .error e := by
        unfold Http.send
        rw [htarget]
      exact absurd ((hbuilds 0).builderError htarget) (hnever Unit _ () 0 e hsend)
    | ok url => exact ⟨url, rfl⟩
  · intro hbuildable σ wire state k e he
    obtain ⟨url, htarget⟩ := (hbuilds k).ok_iff.mpr hbuildable
    exact not_builderError_of_send htarget he
  · intro hnot
    cases htarget : (request 0).target with
    | error e =>
      exact ⟨e, (hbuilds 0).builderError htarget, fun σ wire state =>
        post_of_target_error htarget wire state⟩
    | ok url => exact absurd ((hbuilds 0).ok_iff.mp ⟨url, htarget⟩) hnot
  · intro u hu
    obtain ⟨hscheme, a, ha, hhost, -⟩ := hparts.parse_postUrl_eq_ok hu
    rw [hscheme]
    exact ⟨hparts.web, a, ha, hhost⟩
  · intro hslashes
    exact ⟨scheme, hparts.origin?_of_onlySlashes hslashes⟩

/-- The default settings with a token and a base URL. -/
def settingsFor (token base : String) : Settings :=
  { Settings.default with
    slack := { Settings.default.slack with
      token := ⟨token⟩
      signingSecret := ⟨"s"⟩
      apiBaseUrl := base } }

lemma ofSettings_settingsFor (token base : String) :
    Client.ofSettings (settingsFor token base).slack = .ok
      ⟨⟨token⟩, String.ofList (base.toList.rdropWhile (· == '/')), none, 10000, .default⟩ :=
  rfl

theorem posts_built_or_never_sent_of_slack :
    (settingsFor "xoxb-1" "https://slack.com/api").check = .ok () ∧
    ∃ client, Client.ofSettings (settingsFor "xoxb-1" "https://slack.com/api").slack = .ok client ∧
      ∀ (p : Post) (σ : Type) (wire : Http.Wire σ) (state : σ) (k : ℕ) (e : Http.Failure),
        (Http.send wire state
          (client.request "chat.postMessage" (some (.object p.fields)) k)).1 = .error e →
        ¬BuilderError e := by
  have hcheck : (settingsFor "xoxb-1" "https://slack.com/api").check = .ok () := by
    apply eq_ok_of_toOption
    decide +kernel
  have hparse : Url.parse (postUrl "https://slack.com/api") = .ok ⟨"https".toList,
      some ⟨[], [], .name "slack.com".toList, none⟩, "/api/chat.postMessage".toList, none,
      none⟩ := by
    apply eq_ok_of_toOption
    decide +kernel
  have hclient := ofSettings_settingsFor "xoxb-1" "https://slack.com/api"
  have hbuildable : Buildable (settingsFor "xoxb-1" "https://slack.com/api").slack := by
    refine ⟨(isLegalValue_bearer "xoxb-1").mp (by decide), _, hparse, ?_, by decide +kernel⟩
    intro a ha c hc hunsent
    cases ha
    have hall : "slack.com".toList.all (!unsentChars.contains ·) = true := by decide
    have hnot := List.all_eq_true.mp hall c hc
    rw [List.contains_iff_mem.mpr hunsent] at hnot
    cases hnot
  exact ⟨hcheck, _, hclient, fun p =>
    (posts_built_or_never_sent hcheck hclient p).2.1.mpr hbuildable⟩

/-- The settings pass their check and a client is made of them, but no post of it is built. -/
def NeverPosts (s : Settings) : Prop :=
  s.check = .ok () ∧ ∃ client, Client.ofSettings s.slack = .ok client ∧
    ∀ (p : Post) (σ : Type) (wire : Http.Wire σ) (state : σ), client.post wire state p =
      ⟨state, [], .error (.transport "chat.postMessage" "builder error")⟩

lemma neverPosts_of_fault {s : Settings} {client : Client} (hcheck : s.check.toOption = some ())
    (hclient : Client.ofSettings s.slack = .ok client)
    (hfault : ¬FitsHeader s.slack.token.reveal ∨
      (Url.parse (postUrl s.slack.apiBaseUrl)).toOption = none) : NeverPosts s := by
  have hok := eq_ok_of_toOption hcheck
  refine ⟨hok, client, hclient, fun p σ wire state => ?_⟩
  have hbuilds := buildsTo_target (hasWebScheme_of_check hok) hclient (some (.object p.fields)) 0
  rcases hfault with htoken | hparse
  · exact post_of_target_error (hbuilds.eq_of_illegal htoken) wire state
  · exact post_of_target_error (hbuilds.eq_of_unread hparse) wire state

/-- Neither a token with a line break nor a base URL that is none keeps settings from passing their
check, but no post can be built with them. -/
theorem checked_settings_never_post :
    NeverPosts (settingsFor "xoxb-1\n2" "https://slack.com/api") ∧
      NeverPosts (settingsFor "xoxb-1" "http://[") := by
  constructor
  · refine neverPosts_of_fault (by decide +kernel) (ofSettings_settingsFor _ _) (.inl ?_)
    exact (isLegalValue_bearer "xoxb-1\n2").not.mp (by decide)
  · refine neverPosts_of_fault (by decide +kernel) (ofSettings_settingsFor _ _) (.inr ?_)
    decide +kernel

end SlackBridge.Proofs
