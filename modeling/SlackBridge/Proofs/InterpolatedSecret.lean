import SlackBridge.Proofs.SettingSources
import SlackBridge.Proofs.TomlPlaces
import SlackBridge.Proofs.TomlTexts

/-!
# A secret that a variable holds

A line of the file may take the signing secret from a variable. The value is put between the quotes
before the document is read, so it arrives as it is exactly if all of its characters stand for
themselves there. Nothing else of the settings depends on it.
-/

namespace SlackBridge.Proofs

open Settings Toml

/-- The surroundings, with a value for a variable. -/
def withVariable (w : Surroundings) (name value : String) : Surroundings :=
  { w with env := Function.update w.env name (some value) }

lemma withVariable_eq_self {w : Surroundings} {name value : String}
    (h : w.env name = some value) : withVariable w name value = w := by
  unfold withVariable
  rw [← h, Function.update_eq_self]

/-- The settings, with another signing secret. -/
def withSecret (s : Settings) (secret : String) : Settings :=
  { s with slack := { s.slack with signingSecret := ⟨secret⟩ } }

/-- A secret that is not blank and whose characters stand for themselves between quotes. -/
structure IsPlainSecret (secret : String) : Prop where
  not_blank : Text.trim secret ≠ ""
  plain : ∀ c ∈ secret.toList, StandsForItself c

/-- The line that assigns a text between quotes to the signing secret, without its end. -/
def secretLine (text : List Char) : List Char :=
  Setting.signingSecret.key.toList ++ (" = \"".toList ++ (text ++ ['"']))

/-- A file that takes the signing secret from a variable, in a line of the section that stands by
itself. It does not refer to the variable elsewhere: what stands before and behind the line can be
resolved without it. -/
structure SecretFile (w : Surroundings) (o : Options) (name : String) where
  path : String
  before : List Char
  after : List Char
  front : List Char
  back : List Char
  statements : List Statement
  text : FileText w o.path path
    (String.ofList (before ++ '\n' :: (secretLine (reference name.toList) ++ after)))
  closed : '\x7d' ∉ name.toList
  front_resolved : interpolate (Function.update w.env name none) before = .ok front
  back_resolved : interpolate (Function.update w.env name none) after = .ok back
  reads : Reads (withoutMark (front ++ ['\n'])) statements
  inSection : InSection "slack" statements

/-! ### The text of the file -/

section Texts

lemma withoutMark_append (front more : List Char) :
    withoutMark (front ++ '\n' :: more) = withoutMark (front ++ ['\n']) ++ more := by
  cases front with
  | nil => rfl
  | cons c front =>
    by_cases hmark : c = '\ufeff'
    · rw [hmark]
      exact (List.append_assoc front ['\n'] more).symm
    · have hstay : ∀ cs, withoutMark (c :: cs) = c :: cs := by
        intro cs
        unfold withoutMark
        split
        · next h => exact absurd (List.cons.inj h).1 hmark
        · rfl
      rw [List.cons_append, List.cons_append, hstay, hstay]
      simp

lemma isLines_withoutMark (front : List Char) : IsLines (withoutMark (front ++ ['\n'])) := by
  cases front with
  | nil => exact .inr ⟨[], rfl⟩
  | cons c front =>
    rw [List.cons_append]
    unfold withoutMark
    split
    · next h =>
      cases h
      exact .inr ⟨front, rfl⟩
    · exact .inr ⟨c :: front, rfl⟩

lemma isBareKey_signingSecret : IsBareKey Setting.signingSecret.key :=
  ⟨by decide, List.all_eq_true.mp rfl⟩

variable {w : Surroundings} {o : Options} {name : String}

namespace SecretFile

/-- The value of the variable stands between the quotes. -/
lemma interpolate_eq (f : SecretFile w o name) (v : String) :
    interpolate (withVariable w name v).env
        (f.before ++ '\n' :: (secretLine (reference name.toList) ++ f.after)) =
      .ok (f.front ++ '\n' :: (secretLine v.toList ++ f.back)) := by
  have hmore : ∀ other value, Function.update w.env name none other = some value →
      (withVariable w name v).env other = some value := by
    intro other value h
    by_cases hname : other = name
    · rw [hname, Function.update_self] at h
      cases h
    · rw [Function.update_of_ne hname] at h
      exact (Function.update_of_ne hname _ _).trans h
  have hself : (withVariable w name v).env (String.ofList name.toList) = some v := by
    rw [String.ofList_toList]
    exact Function.update_self ..
  have hquiet :
      ¬['$', '\x7b'] <:+: '\n' :: (Setting.signingSecret.key.toList ++ " = \"".toList) := by
    decide
  have hchars : '\n' :: (secretLine (reference name.toList) ++ f.after) =
      Cut.chars ⟨_, name.toList, hquiet, f.closed⟩ ++ '"' :: f.after := by
    simp [secretLine, Cut.chars]
  have hback : interpolate (withVariable w name v).env ('"' :: f.after) = .ok ('"' :: f.back) := by
    rw [interpolate_cons, interpolate_mono hmore f.back_resolved]
    · rfl
    · exact fun h => absurd (List.cons_prefix_cons.mp h).1 (by decide)
  rw [interpolate_append_of_ok (interpolate_mono hmore f.front_resolved) (by simp), hchars,
    interpolate_cut, hback, Cut.resolve, hself]
  simp [Except.bind, Except.map, secretLine]

/-- The documents that may be read, whatever the value of the variable is. -/
lemma holdsDocument_iff (f : SecretFile w o name) (v : String) (doc : Members) :
    HoldsDocument (withVariable w name v) o doc ↔ ∃ text after rest tail path,
      quoted? ('"' :: (v.toList ++ '"' :: f.back)) = some (text, after) ∧
      endLine? after = some rest ∧ Reads rest tail ∧
      built? (f.statements ++ .assign [Setting.signingSecret.key] (.string text) :: tail) =
        some ⟨doc, path⟩ := by
  have hfile : FileText (withVariable w name v) o.path f.path _ := f.text
  have hresolved := f.interpolate_eq v
  rw [← String.toList_ofList (l := f.before ++ _)] at hresolved
  have hline : secretLine v.toList ++ f.back =
      Setting.signingSecret.key.toList ++ (" = \"".toList ++ (v.toList ++ '"' :: f.back)) := by
    simp [secretLine]
  rw [hfile.holdsDocument_iff hresolved, read?_eq_some_iff_reads, String.toList_ofList,
    withoutMark_append]
  simp only [reads_append_iff (isLines_withoutMark f.front) f.reads, hline,
    reads_text_iff isBareKey_signingSecret]
  constructor
  · rintro ⟨_, path, ⟨_, rfl, text, after, rest, tail, hquoted, hend, htail, rfl⟩, hbuilt⟩
    exact ⟨text, after, rest, tail, path, hquoted, hend, htail, hbuilt⟩
  · rintro ⟨text, after, rest, tail, path, hquoted, hend, htail, hbuilt⟩
    exact ⟨_, path, ⟨_, rfl, text, after, rest, tail, hquoted, hend, htail, rfl⟩, hbuilt⟩

end SecretFile

end Texts

/-! ### The places of the settings -/

section Places

variable {w : Surroundings} {o : Options} {name : String}

/-- The place of the signing secret in a document. -/
def secretPlace : List String :=
  [Setting.signingSecret.place.1, Setting.signingSecret.key]

/-- Nothing but the file gives the signing secret, and the variable itself gives no setting. -/
structure OnlyInFile (w : Surroundings) (o : Options) (name : String) : Prop where
  unset : ∀ other ∈ Setting.signingSecret.variables, IsUnset w.env other
  not_overridden : o.overrides.signingSecret = none
  foreign : ∀ {α : Type} (k : Setting α), name ∉ k.variables

lemma value_withSecret (s : Settings) (secret : String) {α : Type} {k : Setting α}
    (hk : k.key ≠ Setting.signingSecret.key) : k.value (withSecret s secret) = k.value s := by
  cases k with
  | signingSecret => exact absurd rfl hk
  | _ => rfl

lemma OnlyInFile.givenByEnvironment_iff (h : OnlyInFile w o name) (v : String) {α : Type}
    (k : Setting α) (given : Option α) :
    GivenByEnvironment (withVariable w name v).env k given ↔ GivenByEnvironment w.env k given := by
  have hsame : ∀ other ∈ k.variables, (withVariable w name v).env other = w.env other := by
    intro other hother
    have hne : other ≠ name := fun heq => h.foreign k (heq ▸ hother)
    exact Function.update_of_ne hne _ _
  rw [← readFrom?_eq_some_iff, ← readFrom?_eq_some_iff, readFrom?_congr hsame]

lemma givenByDocument_secret {text text' : String} {doc doc' : Members}
    (h : DifferAt text text' secretPlace doc doc') :
    GivenByDocument doc .signingSecret (some ⟨text⟩) ∧
      GivenByDocument doc' .signingSecret (some ⟨text'⟩) := by
  obtain ⟨origin, sub, sub', hsection, hsection', hsub⟩ := h.lookup_table
  obtain ⟨hkey, hkey'⟩ := hsub.lookup_text
  exact ⟨.given (.found hsection (.table hkey)) rfl, .given (.found hsection' (.table hkey')) rfl⟩

/-- Documents that differ at the signing secret give the same for every other setting. -/
lemma givenByDocument_other {text text' : String} {doc doc' : Members}
    (h : DifferAt text text' secretPlace doc doc') {α : Type} {k : Setting α}
    (hk : k.key ≠ Setting.signingSecret.key) (given : Option α) :
    GivenByDocument doc' k given ↔ GivenByDocument doc k given := by
  rw [← readIn?_eq_some_iff, ← readIn?_eq_some_iff]
  unfold readIn? docSection?
  by_cases hplace : Setting.signingSecret.place.1 = k.place.1
  · obtain ⟨origin, sub, sub', hsection, hsection', hsub⟩ := h.lookup_table
    rw [← hplace, hsection, hsection']
    simp only [sectionMembers?, Option.bind_some, field?, hsub.lookup_ne hk.symm]
  · rw [h.lookup_ne hplace]

end Places

/-! ### Loading -/

section Loaded

variable {w : Surroundings} {o : Options} {name : String}

/-- A setting has the value of the highest layer that gives one. -/
def HasLayers {α : Type} (w : Surroundings) (o : Options) (doc : Members) (k : Setting α) (a : α) :
    Prop :=
  ∃ file env, GivenByDocument doc k file ∧ GivenByEnvironment w.env k env ∧
    a = (((k.override o.overrides).or env).or file).getD k.default

lemma hasLayers_iff_of_given {α : Type} {k : Setting α} {doc : Members} {file env : Option α}
    (hfile : GivenByDocument doc k file) (henv : GivenByEnvironment w.env k env) (a : α) :
    HasLayers w o doc k a ↔ a = (((k.override o.overrides).or env).or file).getD k.default := by
  constructor
  · rintro ⟨file', env', hfile', henv', rfl⟩
    rw [hfile'.unique hfile, henv'.unique henv]
  · rintro rfl
    exact ⟨file, env, hfile, henv, rfl⟩

namespace OnlyInFile

/-- The signing secret is what the document gives. -/
lemma hasLayers_secret_iff (h : OnlyInFile w o name) {doc : Members} {text : String}
    (hgiven : GivenByDocument doc .signingSecret (some ⟨text⟩)) (v : String)
    (secret : Slack.Secret) :
    HasLayers (withVariable w name v) o doc .signingSecret secret ↔ secret = ⟨text⟩ := by
  have hunset : GivenByEnvironment (withVariable w name v).env Setting.signingSecret none :=
    (h.givenByEnvironment_iff v _ _).mpr (.unset h.unset)
  have hoverride : Setting.signingSecret.override o.overrides = none := by
    rw [Setting.override, h.not_overridden]
    rfl
  rw [hasLayers_iff_of_given hgiven hunset, hoverride]
  rfl

/-- The other settings have the same values if the variable has another one. -/
lemma hasLayers_other (h : OnlyInFile w o name) {doc doc' : Members} {text text' : String}
    (hdiffer : DifferAt text text' secretPlace doc doc') (v v' : String) {α : Type} {k : Setting α}
    (hk : k.key ≠ Setting.signingSecret.key) {a : α}
    (hlayers : HasLayers (withVariable w name v) o doc k a) :
    HasLayers (withVariable w name v') o doc' k a := by
  obtain ⟨file, env, hfile, henv, ha⟩ := hlayers
  rw [h.givenByEnvironment_iff] at henv
  exact ⟨file, env, (givenByDocument_other hdiffer hk file).mpr hfile,
    (h.givenByEnvironment_iff v' k env).mpr henv, ha⟩

end OnlyInFile

namespace SecretFile

/-- The signing secret that is loaded is what is read between the quotes. -/
lemma exists_quoted_of_load (f : SecretFile w o name) (honly : OnlyInFile w o name) {v : String}
    {s : Settings} (h : load (withVariable w name v) o = .ok s) :
    ∃ after, quoted? ('"' :: (v.toList ++ '"' :: f.back)) =
      some (s.slack.signingSecret.reveal, after) := by
  obtain ⟨-, doc, hdoc, hlayers⟩ := (load_eq_ok_iff_layers _ o s).mp h
  obtain ⟨text, after, rest, tail, path, hquoted, -, -, hbuilt⟩ :=
    (f.holdsDocument_iff v doc).mp hdoc
  -- the document differs from itself, in nothing, at the place of the secret
  have hdiffer := built?_assign_text f.inSection Setting.signingSecret.key text text tail
  rw [hbuilt] at hdiffer
  obtain ⟨-, hroot⟩ := Option.rel_some_some.mp hdiffer
  have hsecret := (honly.hasLayers_secret_iff (givenByDocument_secret hroot).1 v _).mp
    (hlayers .signingSecret)
  have htext : s.slack.signingSecret = ⟨text⟩ := hsecret
  rw [htext]
  exact ⟨after, hquoted⟩

lemma quoted?_plain (f : SecretFile w o name) {v : String} (hv : IsPlainSecret v) :
    quoted? ('"' :: (v.toList ++ '"' :: f.back)) = some (v, f.back) := by
  have hne : v.toList ≠ [] := by
    intro hempty
    apply hv.not_blank
    rw [String.toList_eq_nil_iff.mp hempty]
    rfl
  rw [quoted?_of_standsForItself hne hv.plain, String.ofList_toList]

/-- The documents for two plain secrets are read alike and differ in the secret. -/
lemma exists_differAt (f : SecretFile w o name) {v v' : String} (hv : IsPlainSecret v)
    (hv' : IsPlainSecret v') {doc : Members} (h : HoldsDocument (withVariable w name v) o doc) :
    ∃ doc', HoldsDocument (withVariable w name v') o doc' ∧ DifferAt v v' secretPlace doc doc' := by
  obtain ⟨text, after, rest, tail, path, hquoted, hend, htail, hbuilt⟩ :=
    (f.holdsDocument_iff v doc).mp h
  cases (f.quoted?_plain hv).symm.trans hquoted
  have hdiffer := built?_assign_text f.inSection Setting.signingSecret.key v v' tail
  rw [hbuilt] at hdiffer
  cases hbuilt' :
      built? (f.statements ++ .assign [Setting.signingSecret.key] (.string v') :: tail) with
  | none =>
    rw [hbuilt'] at hdiffer
    cases hdiffer
  | some b =>
    rw [hbuilt'] at hdiffer
    obtain ⟨hpath, hroot⟩ := Option.rel_some_some.mp hdiffer
    refine ⟨b.root, (f.holdsDocument_iff v' b.root).mpr ?_, hroot⟩
    exact ⟨v', f.back, rest, tail, b.path, f.quoted?_plain hv', hend, htail, hbuilt'⟩

/-- If the settings are loaded with one plain secret they are loaded with every other one, and
nothing else of them changes. -/
lemma load_plain (f : SecretFile w o name) (honly : OnlyInFile w o name) {v v' : String}
    (hv : IsPlainSecret v) (hv' : IsPlainSecret v') {s : Settings}
    (h : load (withVariable w name v) o = .ok s) :
    s.slack.signingSecret = ⟨v⟩ ∧ load (withVariable w name v') o = .ok (withSecret s v') := by
  obtain ⟨after, hquoted⟩ := f.exists_quoted_of_load honly h
  obtain ⟨hsecret, -⟩ := Prod.mk.inj (Option.some.inj ((f.quoted?_plain hv).symm.trans hquoted))
  refine ⟨congrArg Slack.Secret.mk hsecret.symm, ?_⟩
  obtain ⟨hcheck, doc, hdoc, hlayers⟩ := (load_eq_ok_iff_layers _ o s).mp h
  obtain ⟨doc', hdoc', hdiffer⟩ := f.exists_differAt hv hv' hdoc
  refine (load_eq_ok_iff_layers _ o _).mpr
    ⟨check_of_secret hcheck hv'.not_blank, doc', hdoc', ?_⟩
  refine forall_setting .signingSecret
    (P := fun k => HasLayers (withVariable w name v') o doc' k (k.value (withSecret s v')))
    ?_ fun k hk => ?_
  · exact (honly.hasLayers_secret_iff (givenByDocument_secret hdiffer).2 v' _).mpr rfl
  · rw [value_withSecret s v' hk]
    exact honly.hasLayers_other hdiffer v v' hk (hlayers k)

end SecretFile

end Loaded

/-! ### A file with nothing else -/

/-- The header of the section and the line with the token, without its end. -/
def tokenLines (token : String) : List Char :=
  "[slack]\n".toList ++
    (Setting.token.key.toList ++ (" = \"".toList ++ (token.toList ++ ['"'])))

/-- The statements of the header and of the line with the token. -/
def tokenStatements (token : String) : List Statement :=
  [.openTable ["slack"], .assign [Setting.token.key] (.string token)]

/-- A file with a token of a bot and the line that takes the signing secret from a variable. Nothing
else gives a setting. -/
structure SmallFile (w : Surroundings) (o : Options) (token name : String) where
  path : String
  text : FileText w o.path path
    (String.ofList (tokenLines token ++ '\n' :: (secretLine (reference name.toList) ++ ['\n'])))
  closed : '\x7d' ∉ name.toList
  of_bot : Text.hasStart "xoxb" token = true
  plain : ∀ c ∈ token.toList, StandsForItself c
  quiet : ¬['$', '\x7b'] <:+: token.toList
  not_overridden : o.overrides = {}
  unset : ∀ {α : Type} (k : Setting α), ∀ other ∈ k.variables, IsUnset w.env other

/-- The settings that differ from the default in the token and the signing secret only. -/
def smallSettings (token secret : String) : Settings :=
  withSecret { Settings.default with slack := { Settings.default.slack with token := ⟨token⟩ } }
    secret

section Small

variable {w : Surroundings} {o : Options} {token name v : String}

lemma statement?_header (more : List Char) :
    statement? ("[slack]\n".toList ++ more) = some (.openTable ["slack"], more) :=
  rfl

lemma exists_cons_of_bot (h : Text.hasStart "xoxb" token = true) :
    ∃ rest, token.toList = 'x' :: rest := by
  obtain ⟨rest, hrest⟩ := List.isPrefixOf_iff_prefix.mp h
  exact ⟨_, hrest.symm⟩

lemma reads_tokenLines (hplain : ∀ c ∈ token.toList, StandsForItself c)
    (hbot : Text.hasStart "xoxb" token = true) :
    Reads (withoutMark (tokenLines token ++ ['\n'])) (tokenStatements token) := by
  have hne : token.toList ≠ [] := by
    obtain ⟨rest, hrest⟩ := exists_cons_of_bot hbot
    rw [hrest]
    exact List.cons_ne_nil _ _
  have hchars : tokenLines token ++ ['\n'] = "[slack]\n".toList ++
      (Setting.token.key.toList ++ (" = \"".toList ++ (token.toList ++ '"' :: ['\n']))) := by
    unfold tokenLines
    rw [List.append_assoc, List.append_assoc, List.append_assoc, List.append_assoc]
    rfl
  have hmark : ∀ more, withoutMark ("[slack]\n".toList ++ more) = "[slack]\n".toList ++ more :=
    fun more => rfl
  have hquoted := quoted?_of_standsForItself hne hplain ['\n']
  rw [String.ofList_toList] at hquoted
  rw [hchars, hmark]
  refine .step (List.cons_ne_nil _ _) (statement?_header _) ?_
  refine (reads_text_iff ⟨by decide, List.all_eq_true.mp rfl⟩ _ _).mpr ?_
  exact ⟨token, ['\n'], [], [], hquoted, rfl, .done rfl, rfl⟩

namespace SmallFile

lemma tokenLines_resolved (f : SmallFile w o token name) (env : Environment) :
    interpolate env (tokenLines token) = .ok (tokenLines token) := by
  obtain ⟨rest, hrest⟩ := exists_cons_of_bot f.of_bot
  have hheader : ¬['$', '\x7b'] <:+:
      "[slack]\n".toList ++ (Setting.token.key.toList ++ " = \"".toList) := by
    decide
  have hchars : tokenLines token =
      ("[slack]\n".toList ++ (Setting.token.key.toList ++ " = \"".toList)) ++
        (token.toList ++ ['"']) := by
    unfold tokenLines
    rw [List.append_assoc, List.append_assoc]
  have hend : interpolate env ['"'] = .ok ['"'] :=
    interpolate_of_no_reference env _ (by decide)
  rw [hchars, interpolate_append env hheader (by simp [hrest]),
    interpolate_append env f.quiet (by simp), hend]
  rfl

/-- A small file is one that takes the signing secret from the variable. -/
def secretFile (f : SmallFile w o token name) : SecretFile w o name where
  path := f.path
  before := tokenLines token
  after := ['\n']
  front := tokenLines token
  back := ['\n']
  statements := tokenStatements token
  text := f.text
  closed := f.closed
  front_resolved := f.tokenLines_resolved _
  back_resolved := interpolate_of_no_reference _ _ (by decide)
  reads := reads_tokenLines f.plain f.of_bot
  inSection := ⟨[], _, rfl, fun _ hmem => ⟨_, _, List.mem_singleton.mp hmem⟩⟩

/-- A variable that is not blank gives none of the settings. -/
lemma onlyInFile (f : SmallFile w o token name) (hv : w.env name = some v)
    (hblank : Text.trim v ≠ "") : OnlyInFile w o name where
  unset := f.unset .signingSecret
  not_overridden := by
    rw [f.not_overridden]
  foreign k hmem := hblank (f.unset k name hmem v hv)

lemma check_smallSettings (hbot : Text.hasStart "xoxb" token = true) (hblank : Text.trim v ≠ "") :
    (smallSettings token v).check = .ok () := by
  obtain ⟨rest, hrest⟩ := exists_cons_of_bot hbot
  have htoken : checkToken token = .ok () := by
    have hnot : Text.isBlankText token = false := by
      unfold Text.isBlankText
      rw [hrest, List.all_cons]
      exact Bool.and_eq_false_imp.mpr fun h => absurd h (by decide)
    unfold checkToken
    rw [hnot, hbot]
    rfl
  have hsome : (smallSettings "xoxb" "s").check = .ok () := by
    decide +kernel
  exact check_of_secret (check_of_token hsome htoken) hblank

/-- The document of the file with a plain secret. -/
lemma holdsDocument (f : SmallFile w o token name) (hv : w.env name = some v)
    (hplain : IsPlainSecret v) :
    HoldsDocument w o [("slack", .table .header [(Setting.token.key, .string token),
      (Setting.signingSecret.key, .string v)])] := by
  have hholds := f.secretFile.holdsDocument_iff v [("slack", .table .header
    [(Setting.token.key, .string token), (Setting.signingSecret.key, .string v)])]
  rw [withVariable_eq_self hv] at hholds
  exact hholds.mpr ⟨v, ['\n'], [], [], ["slack"], f.secretFile.quoted?_plain hplain, rfl,
    .done rfl, rfl⟩

lemma load_of_plain (f : SmallFile w o token name) (hv : w.env name = some v)
    (hplain : IsPlainSecret v) : load w o = .ok (smallSettings token v) := by
  refine (load_eq_ok_iff_layers w o _).mpr ⟨check_smallSettings f.of_bot hplain.not_blank, _,
    f.holdsDocument hv hplain, fun k => ?_⟩
  have henv : GivenByEnvironment w.env k none := .unset (f.unset k)
  rw [f.not_overridden]
  cases k with
  | token => exact ⟨_, none, .given (.found rfl (.table rfl)) rfl, henv, rfl⟩
  | signingSecret => exact ⟨_, none, .given (.found rfl (.table rfl)) rfl, henv, rfl⟩
  | endpointUrl | timeoutSecs | bindAddress | port | gracefulShutdownSecs | logLevel | logFormat =>
    exact ⟨none, none, .absent (.missing rfl), henv, rfl⟩
  | _ => exact ⟨none, none, .absent (.found rfl (.table rfl)), henv, rfl⟩

/-- The settings are loaded with the value of the variable exactly if it is a plain secret. -/
lemma load_eq_ok_iff (f : SmallFile w o token name) (hv : w.env name = some v) (s : Settings) :
    load w o = .ok s ∧ s.slack.signingSecret = ⟨v⟩ ↔
      IsPlainSecret v ∧ s = smallSettings token v := by
  constructor
  · rintro ⟨hload, hsecret⟩
    have hblank : Text.trim v ≠ "" := by
      have hcheck := (not_blank_of_check ((load_eq_ok_iff_layers w o s).mp hload).1).2
      rwa [hsecret] at hcheck
    have hloadv : load (withVariable w name v) o = .ok s := by
      rwa [withVariable_eq_self hv]
    obtain ⟨after, hquoted⟩ := f.secretFile.exists_quoted_of_load (f.onlyInFile hv hblank) hloadv
    rw [hsecret] at hquoted
    have hself : quoted? ('"' :: (v.toList ++ ['"', '\n'])) =
        some (String.ofList v.toList, after) := by
      rw [String.ofList_toList]
      exact hquoted
    have hplain : IsPlainSecret v := ⟨hblank, standsForItself_of_quoted? hself⟩
    exact ⟨hplain, Except.ok.inj (hload.symm.trans (f.load_of_plain hv hplain))⟩
  · rintro ⟨hplain, rfl⟩
    exact ⟨f.load_of_plain hv hplain, rfl⟩

end SmallFile

end Small

/-- A plain secret in a variable arrives as it is: if the settings are loaded with one they are
loaded with every other, and nothing else of them changes. In a file with a token and nothing else
the value of the variable arrives as it is exactly if it is a plain secret, and all other settings
have their defaults. -/
theorem interpolated_secret_arrives :
    (∀ {w : Surroundings} {o : Options} {name : String}, SecretFile w o name →
      OnlyInFile w o name → ∀ {v v' : String}, IsPlainSecret v → IsPlainSecret v' →
        ∀ {s : Settings}, load (withVariable w name v) o = .ok s →
          s.slack.signingSecret = ⟨v⟩ ∧ load (withVariable w name v') o = .ok (withSecret s v')) ∧
    ∀ {w : Surroundings} {o : Options} {token name v : String}, SmallFile w o token name →
      w.env name = some v → ∀ s : Settings,
        load w o = .ok s ∧ s.slack.signingSecret = ⟨v⟩ ↔
          IsPlainSecret v ∧ s = smallSettings token v :=
  ⟨fun f honly _ _ hv hv' _ h => f.load_plain honly hv hv' h,
    fun f hv s => f.load_eq_ok_iff hv s⟩

/-- A small file in the usual place, and a variable with the secret. -/
def secretInVariable (secret : String) : Surroundings where
  env name := if name = "S" then some secret else none
  entry? path := if path = "parley.toml" then some (.file (Text.utf8 (String.ofList
    (tokenLines "xoxb-1" ++ '\n' :: (secretLine (reference "S".toList) ++ ['\n']))))) else none

def smallFileInVariable (secret : String) :
    SmallFile (secretInVariable secret) {} "xoxb-1" "S" where
  path := "parley.toml"
  text := ⟨rfl, _, rfl, Text.text?_utf8 _⟩
  closed := by decide
  of_bot := by decide
  plain := forall_of_all (by decide)
  quiet := by decide
  not_overridden := rfl
  unset k other hmem text htext := by
    have hother : other ≠ "S" := by
      rintro rfl
      revert hmem
      cases k <;> decide
    have hnone : (secretInVariable secret).env other = none := if_neg hother
    rw [hnone] at htext
    cases htext

/-- Dollar signs, braces and signs of comments arrive as they are. -/
theorem interpolated_secret_arrives_with_signs :
    load (secretInVariable "$\x7bS\x7d # x") {} =
      .ok (smallSettings "xoxb-1" "$\x7bS\x7d # x") ∧
    load (withVariable (secretInVariable "$\x7bS\x7d # x") "S" "other") {} =
      .ok (smallSettings "xoxb-1" "other") := by
  have hplain : IsPlainSecret "$\x7bS\x7d # x" := ⟨by decide, forall_of_all (by decide)⟩
  have hother : IsPlainSecret "other" := ⟨by decide, forall_of_all (by decide)⟩
  have hload := ((interpolated_secret_arrives.2 (smallFileInVariable _) rfl _).mpr
    ⟨hplain, rfl⟩).1
  have honly := (smallFileInVariable "$\x7bS\x7d # x").onlyInFile rfl hplain.not_blank
  refine ⟨hload, ?_⟩
  have hself : withVariable (secretInVariable "$\x7bS\x7d # x") "S" "$\x7bS\x7d # x" =
      secretInVariable "$\x7bS\x7d # x" := withVariable_eq_self rfl
  rw [← hself] at hload
  exact (interpolated_secret_arrives.1 (smallFileInVariable _).secretFile honly hplain hother
    hload).2

/-- A secret with a quote does not arrive. -/
theorem quoted_secret_lost :
    Text.trim "a\"b" ≠ "" ∧ (secretInVariable "a\"b").env "S" = some "a\"b" ∧
    ¬∃ s, load (secretInVariable "a\"b") {} = .ok s ∧ s.slack.signingSecret = ⟨"a\"b"⟩ := by
  refine ⟨by decide, rfl, ?_⟩
  rintro ⟨s, hs⟩
  have hplain := (((smallFileInVariable "a\"b").load_eq_ok_iff rfl s).mp hs).1.plain
  exact (hplain '"' (by decide)).1 rfl

end SlackBridge.Proofs
