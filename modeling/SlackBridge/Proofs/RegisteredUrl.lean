import SlackBridge.Command.WebhookUrl
import SlackBridge.Proofs.WebHosts

/-!
# The URL to register

The URL to register is made from the text of the base URL as it was read, by cutting off the slashes
at its end. No authority holds a slash, so that the cut stays in the path, and neither the
authority nor the path holds a character that begins a query or a fragment.
-/

namespace SlackBridge.Proofs

open Url Command

/-- The characters that end an authority or stand behind a user. -/
def dividers : List Char := "/\\?#@".toList

/-- A user before an `@`, or nothing. -/
def IsUserText (cs : List Char) : Prop :=
  cs = [] ∨ ∃ name, cs = name ++ ['@'] ∧ ∀ c ∈ name, c ∉ dividers

/-- A port behind a colon, or nothing. -/
def IsPortText (cs : List Char) : Prop :=
  cs = [] ∨ ∃ n ≤ 65535, cs = ':' :: Nat.toDigits 10 n

/-- The text of an authority in which a host stands, between what may be there of a user and of a
port. A colon in the host is between brackets. -/
structure NamesHost (authority host : List Char) : Prop where
  around : ∃ user port, authority = user ++ (host ++ port) ∧ IsUserText user ∧ IsPortText port
  not_empty : host ≠ []
  undivided : ∀ c ∈ host, c ∉ dividers
  colon : ':' ∈ host → host.head? = some '[' ∧ host.getLast? = some ']'

/-! ### Encoded text -/

section Encoded

lemma isAsciiAlphanumeric_upperHexDigit {d : ℕ} (h : d < 16) :
    Text.isAsciiAlphanumeric (Text.upperHexDigit d) = true := by
  have hall : ∀ e : Fin 16, Text.isAsciiAlphanumeric (Text.upperHexDigit e) = true := by decide
  exact hall ⟨d, h⟩

lemma mem_percentByte {b : UInt8} {c : Char} (h : c ∈ percentByte b) :
    c = '%' ∨ Text.isAsciiAlphanumeric c = true := by
  have hbyte := b.toNat_lt
  rw [percentByte, List.mem_cons, List.mem_cons, List.mem_singleton] at h
  rcases h with rfl | rfl | rfl
  · exact .inl rfl
  · exact .inr (isAsciiAlphanumeric_upperHexDigit (by omega))
  · exact .inr (isAsciiAlphanumeric_upperHexDigit (by omega))

/-- A listed character is encoded, unless it is one that codes are made of. -/
lemma notMem_percentEncode {also : List Char} {c : Char} (h : c ∈ also) (hpercent : c ≠ '%')
    (hdigit : Text.isAsciiAlphanumeric c = false) (cs : List Char) : c ∉ percentEncode also cs := by
  intro hc
  obtain ⟨d, -, hd⟩ := List.mem_flatMap.mp hc
  split at hd
  · obtain ⟨b, -, hb⟩ := List.mem_flatMap.mp hd
    rcases mem_percentByte hb with rfl | halnum
    · exact hpercent rfl
    · rw [hdigit] at halnum
      cases halnum
  · rename_i hkept
    rw [List.mem_singleton] at hd
    subst hd
    exact hkept (.inr (.inr (List.contains_iff_mem.mpr h)))

lemma notMem_dividers_of_mem_user {c : Char} {cs : List Char} (h : c ∈ percentEncode userSet cs) :
    c ∉ dividers := by
  have hall : ∀ d ∈ dividers, d ∈ userSet ∧ d ≠ '%' ∧ Text.isAsciiAlphanumeric d = false :=
    forall_of_all (by decide)
  intro hc
  obtain ⟨hset, hpercent, hdigit⟩ := hall c hc
  exact notMem_percentEncode hset hpercent hdigit cs h

end Encoded

/-! ### The authority -/

section Authorities

variable {scheme : List Char} {a : Authority}

lemma notMem_dividers_of_isHostText {cs : List Char} (h : IsHostText cs) :
    ∀ c ∈ cs, c ∉ dividers := by
  have hall : ∀ d ∈ dividers, Http.isHostChar d = false ∧ d ∉ unsentChars :=
    forall_of_all (by decide)
  intro c hc hmem
  obtain ⟨hillegal, hsent⟩ := hall c hmem
  rcases h c hc with hlegal | hunsent
  · rw [hillegal] at hlegal
    cases hlegal
  · exact hsent hunsent

lemma chars_ne_nil {host : Host} (h : host ≠ .name []) : host.chars ≠ [] := by
  cases host with
  | name text => exact fun hnil => h (congrArg Host.name hnil)
  | ipv4 address =>
    have hdot : '.' ∈ ipv4Chars address := by
      simp [ipv4Chars]
    exact List.ne_nil_of_mem hdot
  | ipv6 pieces => exact List.cons_ne_nil _ _

lemma colon_notMem_ipv4Chars (address : ℕ) : ':' ∉ ipv4Chars address := by
  have hbyte : ∀ n, ':' ∉ Nat.toDigits 10 n := by
    intro n hmem
    exact absurd (Nat.isDigit_of_mem_toDigits (by decide) (by decide) hmem) (by decide)
  simp [ipv4Chars, hbyte]

/-- Only an address between brackets holds a colon. -/
lemma brackets_of_colon {cs : List Char} {host : Host} (h : webHost cs = .ok host)
    (hcolon : ':' ∈ host.chars) :
    host.chars.head? = some '[' ∧ host.chars.getLast? = some ']' := by
  rcases cases_of_webHost h with ⟨name, _, hname, -, rfl⟩ | ⟨address, rfl⟩ | ⟨pieces, rfl⟩
  · exact absurd (isNameChar_of_mem_domain? hname ':' hcolon).2 (by decide)
  · exact absurd hcolon (colon_notMem_ipv4Chars address)
  · rw [Host.chars, ← List.cons_append]
    exact ⟨rfl, List.getLast?_concat⟩

lemma le_of_readPort {digits : List Char} {port : Option ℕ}
    (h : readPort scheme digits = .ok port) : ∀ n ∈ port, n ≤ 65535 := by
  unfold readPort at h
  split at h
  · dsimp only at h
    split at h
    · cases h
    · cases h
      rename_i hbound
      intro n hn
      split at hn
      · cases hn
      · cases hn
        exact Nat.not_lt.mp hbound
  · cases h

/-- Whatever is read as the authority of a URL of the web names its host. -/
lemma namesHost_of_readAuthority {final : Bool} {cs : List Char}
    (h : readAuthority .web scheme final cs = .ok a) : NamesHost a.chars a.host.chars := by
  obtain ⟨user, password, hostText, digits, huser, hpassword, hhost, hport⟩ :=
    parts_of_readAuthority h
  refine ⟨?_, chars_ne_nil (ne_of_webHost hhost),
    notMem_dividers_of_isHostText (isHostText_of_webHost hhost), brackets_of_colon hhost⟩
  unfold Authority.chars
  dsimp only
  refine ⟨_, _, List.append_assoc .., ?_, ?_⟩
  · split
    · exact .inl rfl
    · refine .inr ⟨_, rfl, ?_⟩
      rw [List.forall_mem_append]
      refine ⟨fun c hc => notMem_dividers_of_mem_user (huser ▸ hc), ?_⟩
      split
      · exact List.forall_mem_nil _
      · rw [List.forall_mem_cons]
        exact ⟨by decide, fun c hc => notMem_dividers_of_mem_user (hpassword ▸ hc)⟩
  · cases hn : a.port with
    | none => exact .inl rfl
    | some n => exact .inr ⟨n, le_of_readPort hport n hn, rfl⟩

/-- An authority that names a host is not empty, and it holds none of the characters that end it. -/
lemma NamesHost.ne_nil {authority host : List Char} (h : NamesHost authority host) :
    authority ≠ [] := by
  obtain ⟨user, port, rfl, -, -⟩ := h.around
  exact List.append_ne_nil_of_right_ne_nil _ (List.append_ne_nil_of_left_ne_nil h.not_empty _)

lemma NamesHost.notMem {authority host : List Char} (h : NamesHost authority host) {c : Char}
    (hc : c ∈ dividers) (hat : c ≠ '@') : c ∉ authority := by
  obtain ⟨user, port, rfl, huser, hport⟩ := h.around
  rw [List.mem_append, List.mem_append, not_or, not_or]
  refine ⟨?_, fun hmem => h.undivided c hmem hc, ?_⟩
  · rcases huser with rfl | ⟨name, rfl, hname⟩
    · exact List.not_mem_nil
    · rw [List.mem_append, List.mem_singleton, not_or]
      exact ⟨fun hmem => hname c hmem hc, hat⟩
  · rcases hport with rfl | ⟨n, -, rfl⟩
    · exact List.not_mem_nil
    · have hdivider : c ≠ ':' ∧ Text.isAsciiDigit c = false := by
        have hall : ∀ d ∈ dividers, d ≠ ':' ∧ Text.isAsciiDigit d = false :=
          forall_of_all (by decide)
        exact hall c hc
      rw [List.mem_cons, not_or]
      refine ⟨hdivider.1, fun hmem => ?_⟩
      have hdigit := (isDecimal_toDigits n).2 c hmem
      rw [hdivider.2] at hdigit
      cases hdigit

end Authorities

/-! ### The path -/

section Paths

/-- Resolving dots drops segments and adds empty ones. -/
lemma forall_mem_resolveDots {P : List Char → Prop} (hempty : P [])
    {done segments : List (List Char)} (hdone : ∀ segment ∈ done, P segment)
    (hsegments : ∀ segment ∈ segments, P segment) :
    ∀ segment ∈ resolveDots done segments, P segment := by
  fun_induction resolveDots done segments with
  | case1 done => exact fun segment h => hdone segment (List.mem_reverse.mp h)
  | case2 done first rest _ ih =>
    have hdrop : ∀ segment ∈ done.drop 1, P segment :=
      fun segment h => hdone segment (List.mem_of_mem_drop h)
    refine ih ?_ (List.forall_mem_cons.mp hsegments).2
    split
    · exact List.forall_mem_cons.mpr ⟨hempty, hdrop⟩
    · exact hdrop
  | case3 done first rest _ _ ih =>
    refine ih ?_ (List.forall_mem_cons.mp hsegments).2
    split
    · exact List.forall_mem_cons.mpr ⟨hempty, hdone⟩
    · exact hdone
  | case4 done first rest _ _ ih =>
    obtain ⟨hfirst, hrest⟩ := List.forall_mem_cons.mp hsegments
    exact ih (List.forall_mem_cons.mpr ⟨hfirst, hdone⟩) hrest

/-- What begins a query or a fragment is encoded in a path. -/
lemma notMem_segmentPath {c : Char} (hset : c ∈ pathSet) (hpercent : c ≠ '%') (hslash : c ≠ '/')
    (hdigit : Text.isAsciiAlphanumeric c = false) (kind : SchemeKind) (cs : List Char) :
    c ∉ segmentPath kind cs := by
  unfold segmentPath
  split
  · split
    · exact List.not_mem_nil
    · simpa using hslash
  · dsimp only
    intro hc
    obtain ⟨segment, hsegment, hmem⟩ := List.mem_flatMap.mp hc
    have hsegments := forall_mem_resolveDots (P := (c ∉ ·)) List.not_mem_nil
      (List.forall_mem_nil _) (List.forall_mem_map.mpr fun piece _ =>
        notMem_percentEncode hset hpercent hdigit piece) segment hsegment
    rcases List.mem_cons.mp hmem with hc | hc
    · exact hslash hc
    · exact hsegments hc

/-- A path of the web is empty or begins with a slash. -/
lemma segmentPath_eq_nil_or (cs : List Char) :
    segmentPath .web cs = [] ∨ ∃ rest, segmentPath .web cs = '/' :: rest := by
  unfold segmentPath
  split
  · exact .inr ⟨[], rfl⟩
  · dsimp only
    cases resolveDots [] _ with
    | nil => exact .inl rfl
    | cons segment others => exact .inr ⟨_, List.flatMap_cons ..⟩

end Paths

/-! ### Reading a base URL -/

section Bases

lemma scheme_of_readFile {scheme cs : List Char} {u : Url} (h : readFile scheme cs = .ok u) :
    u.scheme = scheme := by
  unfold readFile at h
  obtain ⟨_, -, h⟩ := (bind_eq_ok_iff _ _ _).mp h
  cases h
  rfl

lemma scheme_of_readOther {scheme cs : List Char} {u : Url} (h : readOther scheme cs = .ok u) :
    u.scheme = scheme := by
  unfold readOther at h
  split at h
  · unfold readWithAuthority at h
    obtain ⟨_, -, h⟩ := (bind_eq_ok_iff _ _ _).mp h
    cases h
    rfl
  · cases h
    rfl

/-- A URL with a scheme of the web was read as one. -/
lemma exists_readWithAuthority {text : String} {u : Url} (h : Url.parse text = .ok u)
    (hscheme : IsWebScheme u.scheme) :
    ∃ cs, readWithAuthority .web u.scheme cs = .ok u := by
  have hkind : schemeKind u.scheme = .web := by
    rcases hscheme with hscheme | hscheme
    · rw [hscheme]
      decide
    · rw [hscheme]
      decide
  unfold Url.parse at h
  split at h
  · cases h
  rename_i scheme rest _
  split at h
  · rename_i hweb
    have hsame : u.scheme = scheme := (readWithAuthority_eq_ok h).1
    rw [hsame]
    exact ⟨_, h⟩
  · rename_i hfile
    rw [scheme_of_readFile h, hfile] at hkind
    cases hkind
  · rename_i hother
    rw [scheme_of_readOther h, hother] at hkind
    cases hkind

/-- What a base URL of the web without a query and a fragment consists of. -/
structure IsBase (u : Url) (a : Authority) : Prop where
  authority : u.authority = some a
  names : NamesHost a.chars a.host.chars
  chars : u.chars = u.scheme ++ "://".toList ++ (a.chars ++ u.path)
  path : u.path = [] ∨ ∃ rest, u.path = '/' :: rest
  unmarked : '?' ∉ u.path ∧ '#' ∉ u.path

lemma exists_isBase {text : String} {u : Url} (h : Url.parse text = .ok u)
    (hscheme : IsWebScheme u.scheme) (hquery : u.query = none) (hfragment : u.fragment = none) :
    ∃ a, IsBase u a := by
  obtain ⟨cs, hread⟩ := exists_readWithAuthority h hscheme
  obtain ⟨-, ⟨path, hpath⟩, a, ha, hauthority⟩ := readWithAuthority_eq_ok hread
  refine ⟨a, ha, namesHost_of_readAuthority hauthority, ?_, ?_, ?_⟩
  · unfold Url.chars
    rw [ha, hquery, hfragment]
    simp
  · rw [hpath]
    exact segmentPath_eq_nil_or path
  · rw [hpath]
    exact ⟨notMem_segmentPath (by decide) (by decide) (by decide) (by decide) _ _,
      notMem_segmentPath (by decide) (by decide) (by decide) (by decide) _ _⟩

lemma checkScheme_eq_ok_iff (scheme : String) (allowHttp : Bool) (u : Unit) :
    checkScheme scheme allowHttp = .ok u ↔
      scheme = "https" ∨ scheme = "http" ∧ allowHttp = true := by
  unfold checkScheme
  split
  · simp
  · simp
  · rename_i hhttps hhttp
    refine iff_of_false nofun ?_
    rintro (h | ⟨h, -⟩)
    · exact hhttps h
    · exact hhttp h

/-- There is a URL to register if the base URL has a scheme to register, a host and nothing behind
its path. -/
lemma webhookUrl_eq_ok_iff (base : String) (allowHttp : Bool) (url : String) :
    webhookUrl base allowHttp = .ok url ↔ ∃ u, Url.parse (Text.trim base) = .ok u ∧
      (String.ofList u.scheme = "https" ∨ String.ofList u.scheme = "http" ∧ allowHttp = true) ∧
      u.hasHost = true ∧ u.query = none ∧ u.fragment = none ∧
      url = String.ofList (trimSlashes u.chars) ++ "/webhooks/slack/webhook" := by
  unfold webhookUrl
  cases Url.parse (Text.trim base) with
  | error e => simp
  | ok u =>
    simp only [bind_eq_ok_iff, checkScheme_eq_ok_iff, Except.ok.injEq, exists_eq_left']
    constructor
    · rintro ⟨_, hscheme, h⟩
      split at h
      · cases h
      rename_i hhost
      split at h
      · cases h
      rename_i hbehind
      cases h
      rw [Bool.not_eq_true, Bool.not_eq_false'] at hhost
      rw [Bool.not_eq_true, Bool.or_eq_false_iff, Option.isSome_eq_false_iff,
        Option.isSome_eq_false_iff, Option.isNone_iff_eq_none, Option.isNone_iff_eq_none] at hbehind
      exact ⟨hscheme, hhost, hbehind.1, hbehind.2, rfl⟩
    · rintro ⟨hscheme, hhost, hquery, hfragment, rfl⟩
      refine ⟨(), hscheme, ?_⟩
      rw [hhost, hquery, hfragment]
      rfl

lemma getLast?_trimSlashes (cs : List Char) : (trimSlashes cs).getLast? ≠ some '/' := by
  intro h
  have hne : cs.rdropWhile (· == '/') ≠ [] := by
    rintro hnil
    change (cs.rdropWhile (· == '/')).getLast? = some '/' at h
    rw [hnil] at h
    cases h
  have hlast := List.rdropWhile_last_not (· == '/') cs hne
  rw [Option.some.inj ((List.getLast?_eq_some_getLast hne).symm.trans h)] at hlast
  exact hlast rfl

/-- The path of a URL to register, under the path of its base URL. -/
def registeredPath (path : List Char) : List Char :=
  path.rdropWhile (· == '/') ++ "/webhooks/slack/webhook".toList

variable {u : Url} {a : Authority}

/-- Cutting off the slashes at the end leaves the authority alone. -/
lemma IsBase.registered (h : IsBase u a) :
    trimSlashes u.chars ++ "/webhooks/slack/webhook".toList =
      u.scheme ++ "://".toList ++ (a.chars ++ registeredPath u.path) := by
  obtain ⟨front, last, hlast⟩ := (List.eq_nil_or_concat' a.chars).resolve_left h.names.ne_nil
  have hstop : (last == '/') = false := by
    rw [beq_eq_false_iff_ne]
    rintro rfl
    apply h.names.notMem (by decide : '/' ∈ dividers) (by decide)
    rw [hlast]
    exact List.mem_append_right _ List.mem_cons_self
  have hcut : u.chars.rdropWhile (· == '/') =
      u.scheme ++ "://".toList ++ (a.chars ++ u.path.rdropWhile (· == '/')) := by
    have hwhole := rdropWhile_append_cons (p := (· == '/')) hstop
      (u.scheme ++ "://".toList ++ front) u.path
    rw [h.chars, hlast]
    simpa using hwhole
  change u.chars.rdropWhile (· == '/') ++ _ = _
  unfold registeredPath
  rw [hcut]
  simp only [List.append_assoc]

lemma IsBase.head?_registeredPath (h : IsBase u a) :
    (registeredPath u.path).head? = some '/' := by
  have hcut : u.path.rdropWhile (· == '/') <+: u.path := List.rdropWhile_prefix ..
  unfold registeredPath
  cases hkept : u.path.rdropWhile (· == '/') with
  | nil => rfl
  | cons c rest =>
    rw [hkept] at hcut
    rcases h.path with hnone | ⟨others, hothers⟩
    · rw [hnone, List.prefix_nil] at hcut
      cases hcut
    · rw [hothers, List.cons_prefix_cons] at hcut
      rw [hcut.1]
      rfl

/-- Neither a query nor a fragment begins anywhere in a URL to register. -/
lemma IsBase.notMem_registered (h : IsBase u a) (hscheme : IsWebScheme u.scheme) {c : Char}
    (hc : c ∈ ['?', '#']) : c ∉ u.scheme ++ "://".toList ++ (a.chars ++ registeredPath u.path) := by
  have hdivider : c ∈ dividers ∧ c ≠ '@' ∧ c ∉ "://".toList ∧
      c ∉ "/webhooks/slack/webhook".toList ∧ c ∉ "http".toList ∧ c ∉ "https".toList := by
    have hall : ∀ d ∈ ['?', '#'], d ∈ dividers ∧ d ≠ '@' ∧ d ∉ "://".toList ∧
        d ∉ "/webhooks/slack/webhook".toList ∧ d ∉ "http".toList ∧ d ∉ "https".toList :=
      forall_of_all (by decide)
    exact hall c hc
  obtain ⟨hmem, hat, hmark, hwebhook, hhttp, hhttps⟩ := hdivider
  have hcut : u.path.rdropWhile (· == '/') <+: u.path := List.rdropWhile_prefix ..
  have hpath : c ∉ u.path := by
    rcases List.mem_pair.mp hc with rfl | rfl
    · exact h.unmarked.1
    · exact h.unmarked.2
  unfold registeredPath
  simp only [List.mem_append, not_or]
  refine ⟨⟨?_, hmark⟩, h.names.notMem hmem hat, fun hkept => hpath (hcut.subset hkept), hwebhook⟩
  rcases hscheme with hscheme | hscheme
  · rwa [hscheme]
  · rwa [hscheme]

end Bases

/-- The URL to register begins with a scheme to register and an authority, which is that of the base
URL and names its host. It has a path, which ends in the path of the webhook, and neither a query
nor a fragment, and no slash at the end of the base URL is left before the path of the webhook. -/
theorem registered_url_well_formed {base : String} {allowHttp : Bool} {url : String}
    (h : webhookUrl base allowHttp = .ok url) :
    (∃ scheme a path, (scheme = "https" ∨ scheme = "http" ∧ allowHttp = true) ∧
      origin? (Text.trim base) = some (scheme.toList, a) ∧ NamesHost a.chars a.host.chars ∧
      path.head? = some '/' ∧
      url.toList = scheme.toList ++ "://".toList ++ (a.chars ++ path)) ∧
    '?' ∉ url.toList ∧ '#' ∉ url.toList ∧
    ∃ front : String, url = front ++ "/webhooks/slack/webhook" ∧
      front.toList.getLast? ≠ some '/' := by
  obtain ⟨u, hparse, hscheme, -, hquery, hfragment, rfl⟩ :=
    (webhookUrl_eq_ok_iff base allowHttp url).mp h
  have hweb : IsWebScheme u.scheme := by
    rcases hscheme with hhttps | ⟨hhttp, -⟩
    · exact .inr (by rw [← hhttps, String.toList_ofList])
    · exact .inl (by rw [← hhttp, String.toList_ofList])
  obtain ⟨a, hbase⟩ := exists_isBase hparse hweb hquery hfragment
  have horigin : origin? (Text.trim base) = some (u.scheme, a) := by
    unfold origin?
    rw [hparse]
    change u.authority.map (u.scheme, ·) = _
    rw [hbase.authority]
    rfl
  have htext : (String.ofList (trimSlashes u.chars) ++ "/webhooks/slack/webhook").toList =
      u.scheme ++ "://".toList ++ (a.chars ++ registeredPath u.path) := by
    rw [String.toList_append, String.toList_ofList, hbase.registered]
  refine ⟨⟨String.ofList u.scheme, a, registeredPath u.path, hscheme, ?_, hbase.names,
    hbase.head?_registeredPath, ?_⟩, ?_, ?_, _, rfl, ?_⟩
  · rw [String.toList_ofList, horigin]
  · rw [String.toList_ofList, htext]
  · rw [htext]
    exact hbase.notMem_registered hweb (by decide)
  · rw [htext]
    exact hbase.notMem_registered hweb (by decide)
  · rw [String.toList_ofList]
    exact getLast?_trimSlashes u.chars

/-- A base URL with a user and a port that is spelled with capitals, backslashes and blanks. -/
def oddBase : String := " HTTP:\\\\me:x@Bot.Example.com:8080\\a/../parley// "

lemma webhookUrl_oddBase : webhookUrl oddBase true =
    .ok "http://me:x@bot.example.com:8080/parley/webhooks/slack/webhook" := by
  apply eq_ok_of_toOption
  decide +kernel

theorem registered_url_well_formed_of_odd_spelling :
    webhookUrl oddBase true =
      .ok "http://me:x@bot.example.com:8080/parley/webhooks/slack/webhook" ∧
    ∃ scheme a path, (scheme = "https" ∨ scheme = "http" ∧ true = true) ∧
      origin? (Text.trim oddBase) = some (scheme.toList, a) ∧ NamesHost a.chars a.host.chars ∧
      path.head? = some '/' ∧
      "http://me:x@bot.example.com:8080/parley/webhooks/slack/webhook".toList =
        scheme.toList ++ "://".toList ++ (a.chars ++ path) :=
  ⟨webhookUrl_oddBase, (registered_url_well_formed webhookUrl_oddBase).1⟩

end SlackBridge.Proofs
