import SlackBridge.Proofs.InterpolatedSecret

/-!
# Texts that may be left out

The channel, the proxy and the endpoint are texts that may be left out. One text may be given in the
file, in a variable or as an override, and nothing else depends on the place. From the file and from
an override it counts without the blanks around it, from a variable it counts as it is.
-/

namespace SlackBridge.Proofs

open Settings Toml

/-- The settings that are a text or none. -/
inductive OptionalText
  | channel
  | proxy
  | endpoint

namespace OptionalText

def setting : OptionalText → Setting (Option String)
  | .channel => .channel
  | .proxy => .proxy
  | .endpoint => .endpointUrl

/-- The variable that gives the text. -/
def variableName : OptionalText → String
  | .channel => "PARLEY_SLACK_CHANNEL"
  | .proxy => "PARLEY_SLACK_PROXY"
  | .endpoint => "PARLEY_BOT_ENDPOINT_URL"

/-- The overrides, with the text. -/
def overriding (k : OptionalText) (text : String) (o : Overrides) : Overrides :=
  match k with
  | .channel => { o with channel := some text }
  | .proxy => { o with proxy := some text }
  | .endpoint => { o with endpointUrl := some text }

/-- The layer, with what it says about the text. -/
def say (k : OptionalText) (a : Option String) (l : Layer) : Layer :=
  match k with
  | .channel => { l with channel := some a }
  | .proxy => { l with proxy := some a }
  | .endpoint => { l with endpointUrl := some a }

/-- The settings, with a value for the text. -/
def put (k : OptionalText) (a : Option String) (s : Settings) : Settings :=
  match k with
  | .channel => { s with slack := { s.slack with channel := a } }
  | .proxy => { s with slack := { s.slack with proxy := a } }
  | .endpoint => { s with bot := { s.bot with endpointUrl := a } }

end OptionalText

/-- The settings that the layers come to, before they are checked. -/
def gathered (w : Surroundings) (o : Options) : Except Problem Settings := do
  let file ← w.anyFileLayer o.path o.requireFile
  let env ← Layer.ofEnvironment w.env
  return ofLayers [file, env, o.overrides.layer]

/-- The settings if they pass the check. -/
def checked (s : Settings) : Except Problem Settings :=
  match s.check with
  | .ok () => .ok s
  | .error v => .error (.refused v)

/-- What is loaded if the text has a value and everything else stays as it is. -/
def loadedWith (w : Surroundings) (o : Options) (k : OptionalText) (a : String) :
    Except Problem Settings :=
  ((gathered w o).map (k.put (some a))).bind checked

/-- A document that gives the text, and is otherwise like one that does not. -/
structure AddsText (k : OptionalText) (text : String) (doc doc' : Members) : Prop where
  absent : GivenByDocument doc k.setting none
  written : DocumentSays doc' k.setting (some (.string text))
  others : ∀ {α : Type} (other : Setting α), other.key ≠ k.setting.key → ∀ given,
    GivenByDocument doc' other given ↔ GivenByDocument doc other given

/-- A text that is given nowhere in the one surroundings, and only in the file in the others, which
are the same otherwise. The file is the same if the text is given in its variable. -/
structure GivenOnce (k : OptionalText) (text : String) (w w' : Surroundings) (o : Options)
    (doc doc' : Members) : Prop where
  not_blank : Text.trim text ≠ ""
  unset : IsUnset w.env k.variableName
  not_overridden : k.setting.override o.overrides = none
  env_eq : w'.env = w.env
  same_path : ∀ path, w.settingsPath? o.path = some path → w'.settingsPath? o.path = some path
  document : HoldsDocument w o doc
  document_variable : HoldsDocument (withVariable w k.variableName text) o doc
  document_file : HoldsDocument w' o doc'
  adds : AddsText k text doc doc'

/-- Two ways to load the settings have the same result, or the check refuses a value in both. -/
def Agree (a b : Except Problem Settings) : Prop :=
  a = b ∨ ∃ v v', a = .error (.refused v) ∧ b = .error (.refused v')

/-! ### Layers -/

section Layers

variable (k : OptionalText)

lemma variables_setting : k.setting.variables = [k.variableName] := by
  cases k <;> rfl

lemma value_put (a : Option String) (s : Settings) : k.setting.value (k.put a s) = a := by
  cases k <;> rfl

lemma said_say (a : Option String) (l : Layer) : k.setting.said (k.say a l) = some a := by
  cases k <;> rfl

lemma said_say_other {α : Type} {other : Setting α} (h : other.key ≠ k.setting.key)
    (a : Option String) (l : Layer) : other.said (k.say a l) = other.said l := by
  cases k with
  | channel =>
    cases other with
    | channel => exact absurd rfl h
    | _ => rfl
  | proxy =>
    cases other with
    | proxy => exact absurd rfl h
    | _ => rfl
  | endpoint =>
    cases other with
    | endpointUrl => exact absurd rfl h
    | _ => rfl

lemma onto_say (a : Option String) (l : Layer) (s : Settings) :
    (k.say a l).onto s = k.put a (l.onto s) := by
  cases k <;> rfl

lemma onto_put {l : Layer} (h : k.setting.said l = none) (a : Option String) (s : Settings) :
    l.onto (k.put a s) = k.put a (l.onto s) := by
  cases k with
  | channel =>
    have hnone : l.channel = none := h
    simp only [Layer.onto, OptionalText.put, hnone, Option.getD_none]
  | proxy =>
    have hnone : l.proxy = none := h
    simp only [Layer.onto, OptionalText.put, hnone, Option.getD_none]
  | endpoint =>
    have hnone : l.endpointUrl = none := h
    simp only [Layer.onto, OptionalText.put, hnone, Option.getD_none]

lemma layer_overriding (text : String) (o : Overrides) :
    (k.overriding text o).layer = k.say (unlessBlank text) o.layer := by
  rw [← trimmed?_eq_unlessBlank]
  cases k <;> rfl

/-! Layers on top of each other say in the end what the highest of them says. -/

variable {file env overrides : Layer} (a : Option String)

lemma ofLayers_say_file (henv : k.setting.said env = none)
    (hoverrides : k.setting.said overrides = none) :
    ofLayers [k.say a file, env, overrides] = k.put a (ofLayers [file, env, overrides]) := by
  simp only [ofLayers, List.foldl_cons, List.foldl_nil]
  rw [onto_say, onto_put k henv, onto_put k hoverrides]

lemma ofLayers_say_environment (hoverrides : k.setting.said overrides = none) :
    ofLayers [file, k.say a env, overrides] = k.put a (ofLayers [file, env, overrides]) := by
  simp only [ofLayers, List.foldl_cons, List.foldl_nil]
  rw [onto_say, onto_put k hoverrides]

lemma ofLayers_say_overrides :
    ofLayers [file, env, k.say a overrides] = k.put a (ofLayers [file, env, overrides]) := by
  simp only [ofLayers, List.foldl_cons, List.foldl_nil]
  rw [onto_say]

end Layers

/-! ### Places -/

section Places

variable {k : OptionalText} {text : String} {w w' : Surroundings} {o : Options}
  {doc doc' : Members}

/-- The environment says the same as without the variable, and the text. -/
lemma ofEnvironment_withText (env : Environment) (h : Text.trim text ≠ "") :
    Layer.ofEnvironment (Function.update env k.variableName (some text)) =
      (Layer.ofEnvironment env).map (k.say (some text)) := by
  generalize hupdate : Function.update env k.variableName (some text) = env'
  have hself : Environment.read? env' k.variableName = some text := by
    rw [← hupdate, read?_eq_some_iff]
    exact ⟨Function.update_self .., h⟩
  have hother : ∀ name, name ≠ k.variableName → Environment.read? env' name = env.read? name := by
    intro name hname
    unfold Environment.read?
    rw [← hupdate, Function.update_of_ne hname]
  have hparsed : ∀ {α : Type} (name : String) (read? : String → Option α),
      name ≠ k.variableName → parsed env' name read? = parsed env name read? := by
    intro α name read? hname
    unfold parsed
    rw [hother name hname]
  have hfirst : ∀ names, k.variableName ∉ names →
      Environment.readFirst? env' names = env.readFirst? names := by
    intro names hnames
    refine readFirst?_congr fun name hname => hother name ?_
    exact fun heq => hnames (heq ▸ hname)
  have hformat : namedFormat env' = namedFormat env := by
    unfold namedFormat
    rw [hfirst _ (by cases k <;> decide)]
  change _ = k.say (some text) <$> Layer.ofEnvironment env
  unfold Layer.ofEnvironment
  simp only [map_bind, hformat]
  cases k with
  | channel | proxy | endpoint =>
    simp only [OptionalText.variableName] at hself
    simp (disch := decide) only [hparsed, hother, hfirst, hself]
    rfl

/-- What the environment says does not include a text whose variable is unset. -/
lemma said_environment {env : Layer} (hunset : IsUnset w.env k.variableName)
    (henv : Layer.ofEnvironment w.env = .ok env) : k.setting.said env = none := by
  have hread := readFrom?_of_ofEnvironment henv k.setting
  have hgiven : GivenByEnvironment w.env k.setting none := by
    refine .unset fun name hname => ?_
    rw [variables_setting, List.mem_singleton] at hname
    rwa [hname]
  rw [(readFrom?_eq_some_iff w.env k.setting none).mpr hgiven] at hread
  exact (Option.some.inj hread).symm

/-- The document with the text says the same as the one without it, and the trimmed text. -/
lemma ofDocument_withText (h : AddsText k text doc doc') :
    Layer.ofDocument doc' = (Layer.ofDocument doc).map (k.say (unlessBlank text)) := by
  have hread : readIn? doc' k.setting = some (some (unlessBlank text)) := by
    rw [readIn?_eq_some_iff]
    refine .given h.written ?_
    cases k <;> exact ⟨text, rfl, rfl⟩
  have hothers : ∀ {α : Type} (other : Setting α), other.key ≠ k.setting.key →
      readIn? doc' other = readIn? doc other := by
    intro α other hother
    refine Option.ext fun given => ?_
    rw [readIn?_eq_some_iff, readIn?_eq_some_iff, h.others other hother]
  cases hdoc : Layer.ofDocument doc with
  | none =>
    cases hdoc' : Layer.ofDocument doc' with
    | none => rfl
    | some l' =>
      -- what can be read with the text can be read without it
      have hall : ∀ {α : Type} (other : Setting α), ∃ given, readIn? doc other = some given := by
        refine forall_setting k.setting (P := fun other => ∃ given, readIn? doc other = some given)
          ?_ fun other hother => ?_
        · exact ⟨none, (readIn?_eq_some_iff doc _ _).mpr h.absent⟩
        · exact ⟨_, (hothers other hother).symm.trans (readIn?_of_ofDocument hdoc' other)⟩
      obtain ⟨l, hl⟩ := exists_ofDocument hall
      rw [hdoc] at hl
      cases hl
  | some l =>
    rw [Option.map_some, ofDocument_eq_some_iff]
    refine forall_setting k.setting
      (P := fun other => readIn? doc' other = some (other.said (k.say (unlessBlank text) l)))
      ?_ fun other hother => ?_
    · rw [said_say, hread]
    · rw [said_say_other k hother, hothers other hother]
      exact readIn?_of_ofDocument hdoc other

/-- What the file comes to if its document can be read. -/
lemma anyFileLayer_of_holdsDocument (h : HoldsDocument w o doc) :
    w.anyFileLayer o.path o.requireFile = match Layer.ofDocument doc with
      | some l => .ok l
      | none => .error (.malformedFile ((w.settingsPath? o.path).getD "")) := by
  cases h with
  | absent hnone hnot =>
    unfold Surroundings.anyFileLayer
    rw [hnone, hnot]
    rfl
  | file hpath hentry htext hresolved hdoc =>
    unfold Surroundings.anyFileLayer Surroundings.fileLayer Surroundings.fileText?
    simp only [hpath, hentry, Option.map_some, htext]
    rw [hresolved]
    simp only [bind, Except.bind, hdoc, Option.bind_some]
    rfl

lemma GivenOnce.overrides_silent (h : GivenOnce k text w w' o doc doc') :
    k.setting.said o.overrides.layer = none :=
  (said_overrides k.setting o.overrides).trans h.not_overridden

/-- A text from the file counts without the blanks around it. -/
lemma gathered_file (h : GivenOnce k text w w' o doc doc') :
    gathered w' o = (gathered w o).map (k.put (unlessBlank text)) := by
  unfold gathered
  rw [anyFileLayer_of_holdsDocument h.document_file, anyFileLayer_of_holdsDocument h.document,
    ofDocument_withText h.adds, h.env_eq]
  cases hdoc : Layer.ofDocument doc with
  | none =>
    -- a document that says nothing readable is in a file
    have hpath : w'.settingsPath? o.path = w.settingsPath? o.path := by
      cases hw : w.settingsPath? o.path with
      | some path => exact h.same_path path hw
      | none =>
        cases h.document with
        | absent => cases hdoc
        | file hpath =>
          rw [hw] at hpath
          cases hpath
    rw [hpath]
    rfl
  | some file =>
    cases henv : Layer.ofEnvironment w.env with
    | error e => rfl
    | ok env =>
      have hsilent := said_environment h.unset henv
      exact congrArg Except.ok (ofLayers_say_file k _ hsilent h.overrides_silent)

/-- A text from its variable counts as it is. -/
lemma gathered_variable (h : GivenOnce k text w w' o doc doc') :
    gathered (withVariable w k.variableName text) o = (gathered w o).map (k.put (some text)) := by
  have henvironment : Layer.ofEnvironment (withVariable w k.variableName text).env =
      (Layer.ofEnvironment w.env).map (k.say (some text)) :=
    ofEnvironment_withText w.env h.not_blank
  unfold gathered
  rw [anyFileLayer_of_holdsDocument h.document_variable, anyFileLayer_of_holdsDocument h.document,
    henvironment]
  cases Layer.ofDocument doc with
  | none => rfl
  | some file =>
    cases Layer.ofEnvironment w.env with
    | error e => rfl
    | ok env =>
      exact congrArg Except.ok (ofLayers_say_environment k _ h.overrides_silent)

/-- A text from an override counts without the blanks around it. -/
lemma gathered_override (w : Surroundings) (o : Options) :
    gathered w { o with overrides := k.overriding text o.overrides } =
      (gathered w o).map (k.put (unlessBlank text)) := by
  unfold gathered
  cases w.anyFileLayer o.path o.requireFile with
  | error e => rfl
  | ok file =>
    cases Layer.ofEnvironment w.env with
    | error e => rfl
    | ok env =>
      have hput : ofLayers [file, env, (k.overriding text o.overrides).layer] =
          k.put (unlessBlank text) (ofLayers [file, env, o.overrides.layer]) := by
        rw [layer_overriding, ofLayers_say_overrides]
      exact congrArg Except.ok hput

end Places

/-! ### Results -/

section Results

variable {k : OptionalText} {w : Surroundings} {o : Options}

lemma load_eq_bind (w : Surroundings) (o : Options) : load w o = (gathered w o).bind checked := by
  unfold load gathered
  cases w.anyFileLayer o.path o.requireFile with
  | error e => rfl
  | ok file => cases Layer.ofEnvironment w.env <;> rfl

lemma checked_eq_ok_iff (s s' : Settings) : checked s = .ok s' ↔ s.check = .ok () ∧ s' = s := by
  unfold checked
  cases s.check with
  | error v => simp
  | ok u => simp [eq_comm]

lemma exists_refused_of_not_ok {s : Settings} (h : ∀ s', checked s ≠ .ok s') :
    ∃ v, checked s = .error (.refused v) := by
  cases hcheck : s.check with
  | error v =>
    unfold checked
    rw [hcheck]
    exact ⟨v, rfl⟩
  | ok u => exact absurd ((checked_eq_ok_iff s s).mpr ⟨hcheck, rfl⟩) (h s)

lemma value_of_loadedWith {a : String} {s : Settings} (h : loadedWith w o k a = .ok s) :
    k.setting.value s = some a := by
  unfold loadedWith at h
  cases hbase : gathered w o with
  | error e =>
    rw [hbase] at h
    cases h
  | ok base =>
    rw [hbase] at h
    obtain ⟨-, rfl⟩ := (checked_eq_ok_iff _ s).mp h
    exact value_put k (some a) base

/-- Two values of the text lead to one result exactly if they are the same or neither is loaded. -/
lemma agree_loadedWith_iff (a b : String) : Agree (loadedWith w o k a) (loadedWith w o k b) ↔
    a = b ∨ (∀ s, loadedWith w o k a ≠ .ok s) ∧ ∀ s, loadedWith w o k b ≠ .ok s := by
  have herror : ∀ (e : Problem) (s : Settings), (.error e : Except Problem Settings) ≠ .ok s := by
    intro e s h
    cases h
  constructor
  · rintro (heq | ⟨v, v', ha, hb⟩)
    · cases hload : loadedWith w o k a with
      | error e =>
        rw [← heq, hload]
        exact .inr ⟨herror e, herror e⟩
      | ok s =>
        have hvalue := value_of_loadedWith hload
        rw [value_of_loadedWith (heq ▸ hload)] at hvalue
        exact .inl (Option.some.inj hvalue).symm
    · rw [ha, hb]
      exact .inr ⟨herror _, herror _⟩
  · rintro (rfl | ⟨ha, hb⟩)
    · exact .inl rfl
    · unfold loadedWith at ha hb ⊢
      cases hbase : gathered w o with
      | error e => exact .inl rfl
      | ok base =>
        rw [hbase] at ha hb
        obtain ⟨v, hv⟩ := exists_refused_of_not_ok ha
        obtain ⟨v', hv'⟩ := exists_refused_of_not_ok hb
        exact .inr ⟨v, v', hv, hv'⟩

end Results

/-! ### Loading -/

section Loading

variable {k : OptionalText} {text : String} {w w' : Surroundings} {o : Options}
  {doc doc' : Members}

lemma load_file (h : GivenOnce k text w w' o doc doc') :
    load w' o = loadedWith w o k (Text.trim text) := by
  have htrim : unlessBlank text = some (Text.trim text) := if_neg h.not_blank
  rw [load_eq_bind, gathered_file h, htrim]
  rfl

lemma load_override (h : Text.trim text ≠ "") :
    load w { o with overrides := k.overriding text o.overrides } =
      loadedWith w o k (Text.trim text) := by
  have htrim : unlessBlank text = some (Text.trim text) := if_neg h
  rw [load_eq_bind, gathered_override, htrim]
  rfl

lemma load_variable (h : GivenOnce k text w w' o doc doc') :
    load (withVariable w k.variableName text) o = loadedWith w o k text := by
  rw [load_eq_bind, gathered_variable h]
  rfl

end Loading

/-- A text that is given in the file or as an override counts without the blanks around it, and the
results are the same to the last detail. Given in its variable the text counts as it is. Everything
else goes the same way, so that the result is that of the other two exactly if there are no blanks
around the text or if no settings are loaded from either place. -/
theorem optional_text_in_each_place {k : OptionalText} {text : String} {w w' : Surroundings}
    {o : Options} {doc doc' : Members} (h : GivenOnce k text w w' o doc doc') :
    let inFile := load w' o
    let inVariable := load (withVariable w k.variableName text) o
    let inOverride := load w { o with overrides := k.overriding text o.overrides }
    inFile = loadedWith w o k (Text.trim text) ∧ inOverride = inFile ∧
    inVariable = loadedWith w o k text ∧
    (∀ a s, loadedWith w o k a = .ok s → k.setting.value s = some a) ∧
    (Agree inFile inVariable ↔ Text.trim text = text ∨
      (∀ s, inFile ≠ .ok s) ∧ ∀ s, inVariable ≠ .ok s) := by
  intro inFile inVariable inOverride
  have hfile : inFile = loadedWith w o k (Text.trim text) := load_file h
  have hoverride : inOverride = loadedWith w o k (Text.trim text) := load_override h.not_blank
  have hvariable : inVariable = loadedWith w o k text := load_variable h
  refine ⟨hfile, hoverride.trans hfile.symm, hvariable, fun a s => value_of_loadedWith, ?_⟩
  rw [hfile, hvariable]
  exact agree_loadedWith_iff _ _

/-! ### A file for every text -/

/-- The line that opens the section of the text. -/
def OptionalText.header : OptionalText → String
  | .channel | .proxy => "[slack]\n"
  | .endpoint => "[bot]\n"

/-- A file that gives the text and nothing else, with an escape for each of its characters. -/
def textFile (k : OptionalText) (text : String) : String :=
  String.ofList (k.header.toList ++
    (k.setting.key.toList ++ (" = \"".toList ++ (text.toList.flatMap escapeOf ++ ['"', '\n']))))

/-- The document of that file. -/
def textDocument (k : OptionalText) (text : String) : Members :=
  [(k.setting.place.1, .table .header [(k.setting.key, .string text)])]

section Files

variable (k : OptionalText) {text : String}

lemma interpolate_textFile (env : Environment) (text : String) :
    interpolate env (textFile k text).toList = .ok (textFile k text).toList := by
  have hfront : '$' ∉ k.header.toList ++ (k.setting.key.toList ++ " = \"".toList) := by
    cases k <;> decide
  have hback : '$' ∉ ['"', '\n'] := by
    decide
  refine interpolate_of_no_dollar env fun hdollar => ?_
  rw [textFile, String.toList_ofList] at hdollar
  simp only [List.mem_append, not_or] at hdollar hfront
  rcases hdollar with h | h | h | h | h
  · exact hfront.1 h
  · exact hfront.2.1 h
  · exact hfront.2.2 h
  · exact dollar_notMem_escapes _ h
  · exact hback h

lemma read?_textFile (h : Text.trim text ≠ "") :
    Toml.read? (textFile k text) = some (textDocument k text) := by
  have hne : text.toList ≠ [] := by
    intro hnil
    rw [String.toList_eq_nil_iff.mp hnil] at h
    exact h rfl
  have hquoted := quoted?_escapes hne ['\n']
  rw [String.ofList_toList] at hquoted
  have hkey : IsBareKey k.setting.key := by
    cases k <;> exact ⟨by decide, List.all_eq_true.mp rfl⟩
  have hline : Reads (k.setting.key.toList ++
      (" = \"".toList ++ (text.toList.flatMap escapeOf ++ ['"', '\n'])))
      [.assign [k.setting.key] (.string text)] :=
    (reads_text_iff hkey _ _).mpr ⟨text, ['\n'], [], [], hquoted, rfl, .done rfl, rfl⟩
  rw [read?_eq_some_iff_reads, textFile, String.toList_ofList]
  refine ⟨[.openTable [k.setting.place.1], .assign [k.setting.key] (.string text)],
    [k.setting.place.1], ?_, ?_⟩
  · cases k with
    | channel | proxy | endpoint => exact .step (List.cons_ne_nil _ _) rfl hline
  · cases k <;> rfl

lemma addsText_textDocument (text : String) : AddsText k text [] (textDocument k text) where
  absent := .absent (.missing rfl)
  written := by
    cases k <;> exact .found rfl (.table rfl)
  others _ hother := givenByDocument_single hother _

lemma isUnset_surroundedBy (file : String) : IsUnset (surroundedBy file).env k.variableName := by
  intro value hvalue
  have hnone : (surroundedBy file).env k.variableName = none := by
    cases k <;> rfl
  rw [hnone] at hvalue
  cases hvalue

lemma holdsDocument_empty {w : Surroundings} (h : FileText w none "parley.toml" "") :
    HoldsDocument w {} [] := by
  have hresolved : interpolate w.env "".toList = .ok [] :=
    interpolate_of_no_reference w.env _ (by decide)
  exact (h.holdsDocument_iff hresolved).mpr rfl

/-- Every text that is not blank can be given in a file. -/
lemma givenOnce_textFile (h : Text.trim text ≠ "") :
    GivenOnce k text (surroundedBy "") (surroundedBy (textFile k text)) {} []
      (textDocument k text) where
  not_blank := h
  unset := isUnset_surroundedBy k ""
  not_overridden := by
    cases k <;> rfl
  env_eq := rfl
  same_path _ hpath := hpath
  document := holdsDocument_empty (fileText_surroundedBy "")
  document_variable := holdsDocument_empty (fileText_surroundedBy "")
  document_file := by
    rw [(fileText_surroundedBy _).holdsDocument_iff (interpolate_textFile k _ text),
      String.ofList_toList, read?_textFile k h]
  adds := addsText_textDocument k text

end Files

lemma loadedWith_channel (channel : String) :
    loadedWith (surroundedBy "") {} .channel channel =
      .ok (OptionalText.channel.put (some channel) surroundedSettings) := by
  have hbase : gathered (surroundedBy "") {} = .ok surroundedSettings := by
    apply eq_ok_of_toOption
    decide +kernel
  -- the check does not look at the channel
  have hsame : (OptionalText.channel.put (some channel) surroundedSettings).check =
      surroundedSettings.check := rfl
  have hcheck : surroundedSettings.check = .ok () := by
    decide +kernel
  unfold loadedWith
  rw [hbase]
  exact (checked_eq_ok_iff _ _).mpr ⟨hsame.trans hcheck, rfl⟩

theorem optional_text_in_each_place_of_padded_channel :
    GivenOnce .channel " C1 " (surroundedBy "") (surroundedBy (textFile .channel " C1 ")) {} []
      (textDocument .channel " C1 ") ∧
    load (surroundedBy (textFile .channel " C1 ")) {} =
      .ok (OptionalText.channel.put (some "C1") surroundedSettings) ∧
    load (surroundedBy "") { overrides := { channel := some " C1 " } } =
      .ok (OptionalText.channel.put (some "C1") surroundedSettings) ∧
    load (withVariable (surroundedBy "") "PARLEY_SLACK_CHANNEL" " C1 ") {} =
      .ok (OptionalText.channel.put (some " C1 ") surroundedSettings) := by
  have hgiven := @givenOnce_textFile .channel " C1 " (by decide)
  obtain ⟨hfile, hoverride, hvariable, -⟩ := optional_text_in_each_place hgiven
  have htrim : Text.trim " C1 " = "C1" := by
    decide
  rw [htrim, loadedWith_channel] at hfile
  rw [loadedWith_channel] at hvariable
  exact ⟨hgiven, hfile, hoverride.trans hfile, hvariable⟩

/-- A channel with blanks around it leads to other settings if it is given in its variable. -/
theorem padded_channel_differs :
    ¬∀ (k : OptionalText) (text : String) (w w' : Surroundings) (o : Options)
      (doc doc' : Members), GivenOnce k text w w' o doc doc' →
        Agree (load w' o) (load (withVariable w k.variableName text) o) := by
  intro h
  have hgiven := @givenOnce_textFile .channel " C1 " (by decide)
  have hagree := h _ _ _ _ _ _ _ hgiven
  rw [load_file hgiven, load_variable hgiven, agree_loadedWith_iff] at hagree
  rcases hagree with htrim | ⟨-, hnot⟩
  · exact absurd htrim (by decide)
  · exact hnot _ (loadedWith_channel " C1 ")

end SlackBridge.Proofs
