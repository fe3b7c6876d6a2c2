import SlackBridge.Command.Listing
import SlackBridge.Proofs.References
import SlackBridge.Proofs.SettingLayers

/-!
# Where the listed settings come from

The listing names a source for each setting, and finds it by a way of its own. `TakenFrom` says
where the loader takes a value. The listing names the same variables; of the file it sees what is
written there before the references in it are resolved, and no section that is an array. The two
agree exactly where that makes no difference.
-/

namespace SlackBridge.Proofs

open Settings Command

/-- How a command loads the settings: a file that is named must exist. -/
def asCommanded (path? : Option String) : Options :=
  { path := path?, requireFile := path?.isSome }

/-! ### The rows of the listing -/

namespace Setting

/-- The settings in the order in which they are listed. -/
def all : List (Σ α : Type, Setting α) :=
  [⟨_, .token⟩, ⟨_, .signingSecret⟩, ⟨_, .channel⟩, ⟨_, .proxy⟩, ⟨_, .retryReasonHeader⟩,
    ⟨_, .retryNumberHeader⟩, ⟨_, .ignoredRetryReasons⟩, ⟨_, .useThreads⟩, ⟨_, .granularity⟩,
    ⟨_, .apiBaseUrl⟩, ⟨_, .maxRequestAgeSecs⟩, ⟨_, .endpointUrl⟩, ⟨_, .timeoutSecs⟩,
    ⟨_, .bindAddress⟩, ⟨_, .port⟩, ⟨_, .gracefulShutdownSecs⟩, ⟨_, .logLevel⟩, ⟨_, .logFormat⟩]

/-- How a value is shown. -/
def shown : {α : Type} → Setting α → α → String
  | _, .token, a => redactToken a.reveal
  | _, .signingSecret, a => redactSecret a.reveal
  | _, .channel, a | _, .proxy, a | _, .endpointUrl, a => unsetOr a
  | _, .retryReasonHeader, a | _, .retryNumberHeader, a | _, .apiBaseUrl, a | _, .bindAddress, a
  | _, .logLevel, a => a
  | _, .ignoredRetryReasons, a => "[" ++ ", ".intercalate a ++ "]"
  | _, .useThreads, a => truthText a
  | _, .granularity, a => a.name
  | _, .logFormat, a => a.name
  | _, .maxRequestAgeSecs, a | _, .timeoutSecs, a | _, .port, a
  | _, .gracefulShutdownSecs, a => toString a

def row {α : Type} (k : Setting α) : Row :=
  ⟨k.place.1, k.key, k.variables, fun s => k.shown (k.value s)⟩

/-- The line for a setting with a value from a source. -/
def line {α : Type} (k : Setting α) (a : α) (source : Source) : String :=
  "- " ++ k.place.1 ++ "." ++ k.key ++ " = " ++ k.shown a ++ " (source: " ++ source.text ++ ")"

end Setting

lemma row_variableNames {α : Type} (k : Setting α) : k.row.variableNames = k.variables := rfl

lemma rows_eq : rows = Setting.all.map fun k => k.2.row := rfl

lemma mem_all {α : Type} (k : Setting α) : ⟨α, k⟩ ∈ Setting.all := by
  cases k <;> simp [Setting.all]

/-- A setting is known by its key. -/
lemma eq_of_key_eq {α β : Type} {k : Setting α} {k' : Setting β} (h : k.key = k'.key) :
    (⟨α, k⟩ : Σ α : Type, Setting α) = ⟨β, k'⟩ := by
  have hnodup : (Setting.all.map fun k => k.2.key).Nodup := by
    decide
  exact List.inj_on_of_nodup_map hnodup (mem_all k) (mem_all k') h

/-- What holds of one setting and of every setting with another key holds of all. -/
lemma forall_setting {β : Type} (k : Setting β) {P : ∀ {α : Type}, Setting α → Prop} (hk : P k)
    (hother : ∀ {α : Type} (other : Setting α), other.key ≠ k.key → P other) {α : Type}
    (other : Setting α) : P other := by
  by_cases hkey : other.key = k.key
  · cases eq_of_key_eq hkey
    exact hk
  · exact hother other hkey

/-! ### Sources -/

/-- The first of some variables that is not blank has the given name. -/
inductive FirstNamed (env : Environment) : List String → String → Prop
  | here {name : String} {rest : List String} (h : ¬IsUnset env name) :
      FirstNamed env (name :: rest) name
  | later {name other : String} {rest : List String} (h : IsUnset env other)
      (hrest : FirstNamed env rest name) : FirstNamed env (other :: rest) name

/-- A source: the first variable that is set, else a file that has the setting, else the
default. -/
inductive ComesFrom (env : Environment) (names : List String) (inFile : String → Prop) :
    Source → Prop
  | named {name : String} (h : FirstNamed env names name) :
      ComesFrom env names inFile (.variable name)
  | file {path : String} (hunset : ∀ name ∈ names, IsUnset env name) (h : inFile path) :
      ComesFrom env names inFile (.file path)
  | default (hunset : ∀ name ∈ names, IsUnset env name) (h : ∀ path, ¬inFile path) :
      ComesFrom env names inFile .default

/-- The text of the file with the settings. -/
def FileText (w : Surroundings) (path? : Option String) (path text : String) : Prop :=
  w.settingsPath? path? = some path ∧
    ∃ content, w.entry? path = some (.file content) ∧ Text.text? content = some text

/-- The file sets a key: it does so once the references in it are resolved. -/
def GivenInFile {α : Type} (w : Surroundings) (path? : Option String) (k : Setting α)
    (path : String) : Prop :=
  ∃ text resolved doc a, FileText w path? path text ∧
    interpolate w.env text.toList = .ok resolved ∧
    Toml.read? (String.ofList resolved) = some doc ∧ GivenByDocument doc k (some a)

/-- The file has a key in a table, as it is written. -/
def WrittenInFile {α : Type} (w : Surroundings) (path? : Option String) (k : Setting α)
    (path : String) : Prop :=
  ∃ text doc origin ms v, FileText w path? path text ∧ Toml.read? text = some doc ∧
    doc.lookup k.place.1 = some (.table origin ms) ∧ ms.lookup k.key = some v

/-- Where the loader takes a value from, and that it is the value there. -/
inductive TakenFrom {α : Type} (w : Surroundings) (path? : Option String) (k : Setting α) (a : α) :
    Source → Prop
  | named {name text : String} (h : FirstNamed w.env k.variables name)
      (htext : w.env name = some text) (ha : k.Denotes text a) :
      TakenFrom w path? k a (.variable name)
  | file {path text : String} {resolved : List Char} {doc : Toml.Members}
      (hunset : ∀ name ∈ k.variables, IsUnset w.env name) (hfile : FileText w path? path text)
      (hresolved : interpolate w.env text.toList = .ok resolved)
      (hdoc : Toml.read? (String.ofList resolved) = some doc)
      (ha : GivenByDocument doc k (some a)) : TakenFrom w path? k a (.file path)
  | default (hunset : ∀ name ∈ k.variables, IsUnset w.env name)
      (hfile : ∀ path, ¬GivenInFile w path? k path) (ha : a = k.default) :
      TakenFrom w path? k a .default

section Names

variable {env : Environment} {names : List String}

lemma FirstNamed.unique {name other : String} (h : FirstNamed env names name)
    (hother : FirstNamed env names other) : name = other := by
  induction h with
  | here h =>
    cases hother with
    | here => rfl
    | later hunset => exact absurd hunset h
  | later hunset _ ih =>
    cases hother with
    | here h => exact absurd hunset h
    | later _ hrest => exact ih hrest

lemma FirstNamed.not_unset {name : String} (h : FirstNamed env names name) :
    ¬∀ other ∈ names, IsUnset env other := by
  intro hunset
  induction h with
  | here h => exact h (hunset _ List.mem_cons_self)
  | later _ _ ih => exact ih fun other hmem => hunset other (List.mem_cons_of_mem _ hmem)

lemma FirstNamed.congr {env' : Environment} {name : String} (h : FirstNamed env names name)
    (henv : ∀ other ∈ names, IsUnset env other ↔ IsUnset env' other) :
    FirstNamed env' names name := by
  induction h with
  | here h => exact .here fun hunset => h ((henv _ List.mem_cons_self).mpr hunset)
  | later hunset _ ih =>
    exact .later ((henv _ List.mem_cons_self).mp hunset)
      (ih fun other hother => henv other (List.mem_cons_of_mem _ hother))

lemma exists_firstNamed {text : String} (h : FirstSet env names text) :
    ∃ name, FirstNamed env names name ∧ env name = some text := by
  induction h with
  | here hset hne => exact ⟨_, .here fun hunset => hne (hunset _ hset), hset⟩
  | later hunset _ ih =>
    obtain ⟨name, hname, htext⟩ := ih
    exact ⟨name, .later hunset hname, htext⟩

lemma isSome_read?_iff (env : Environment) (name : String) :
    (env.read? name).isSome = true ↔ ¬IsUnset env name := by
  rw [← read?_eq_none_iff, Option.isSome_iff_ne_none]

lemma find?_isSome_read? (env : Environment) (names : List String) :
    (∃ name, names.find? (fun name => (env.read? name).isSome) = some name ∧
      FirstNamed env names name) ∨
    (names.find? (fun name => (env.read? name).isSome) = none ∧
      ∀ name ∈ names, IsUnset env name) := by
  induction names with
  | nil => exact .inr ⟨rfl, fun name h => nomatch h⟩
  | cons name rest ih =>
    by_cases hset : IsUnset env name
    · have hskip : (env.read? name).isSome = false := by
        rw [← Bool.not_eq_true, isSome_read?_iff]
        exact not_not_intro hset
      rw [List.find?_cons_of_neg (by rw [hskip]; exact Bool.false_ne_true)]
      rcases ih with ⟨first, hfind, hfirst⟩ | ⟨hfind, hunset⟩
      · exact .inl ⟨first, hfind, .later hset hfirst⟩
      · refine .inr ⟨hfind, fun other hother => ?_⟩
        rcases List.mem_cons.mp hother with rfl | hrest
        · exact hset
        · exact hunset other hrest
    · have hstop := (isSome_read?_iff env name).mpr hset
      exact .inl ⟨name, List.find?_cons_of_pos hstop, .here hset⟩

end Names

section Sources

variable {env : Environment} {names : List String} {inFile : String → Prop}

lemma ComesFrom.unique (hpath : ∀ path other, inFile path → inFile other → path = other)
    {source source' : Source} (h : ComesFrom env names inFile source)
    (h' : ComesFrom env names inFile source') : source = source' := by
  cases h with
  | named h =>
    cases h' with
    | named h' => rw [h.unique h']
    | file hunset => exact absurd hunset h.not_unset
    | default hunset => exact absurd hunset h.not_unset
  | file hunset h =>
    cases h' with
    | named h' => exact absurd hunset h'.not_unset
    | file _ h' => rw [hpath _ _ h h']
    | default _ hnot => exact absurd h (hnot _)
  | default hunset hnot =>
    cases h' with
    | named h' => exact absurd hunset h'.not_unset
    | file _ h' => exact absurd h' (hnot _)
    | default => rfl

lemma ComesFrom.congr {env' : Environment} {inFile' : String → Prop}
    (henv : ∀ name ∈ names, IsUnset env name ↔ IsUnset env' name)
    (hfile : ∀ path, inFile path ↔ inFile' path) {source : Source}
    (h : ComesFrom env names inFile source) : ComesFrom env' names inFile' source := by
  have hunset' (hunset : ∀ name ∈ names, IsUnset env name) (name : String) (hname : name ∈ names) :
      IsUnset env' name :=
    (henv name hname).mp (hunset name hname)
  cases h with
  | named h => exact .named (h.congr henv)
  | file hunset h => exact .file (hunset' hunset) ((hfile _).mp h)
  | default hunset hnot =>
    exact .default (hunset' hunset) fun path hin => hnot path ((hfile path).mpr hin)

/-- Two views of the file lead to one source exactly if a variable counts or the views agree. -/
lemma ComesFrom.iff_agree {other : String → Prop}
    (hpath : ∀ path path', inFile path → inFile path' → path = path')
    (hother : ∀ path path', other path → other path' → path = path') {source : Source}
    (h : ComesFrom env names inFile source) :
    ComesFrom env names other source ↔
      (∃ name, FirstNamed env names name) ∨ ∀ path, inFile path ↔ other path := by
  cases h with
  | named h => exact ⟨fun _ => .inl ⟨_, h⟩, fun _ => .named h⟩
  | @file path hunset hin =>
    constructor
    · intro hcomes
      cases hcomes with
      | file _ hout =>
        refine .inr fun path' => ⟨fun h => ?_, fun h => ?_⟩
        · rw [hpath path' path h hin]
          exact hout
        · rw [hother path' path h hout]
          exact hin
    · rintro (⟨name, hname⟩ | hagree)
      · exact absurd hunset hname.not_unset
      · exact .file hunset ((hagree path).mp hin)
  | default hunset hnot =>
    constructor
    · intro hcomes
      cases hcomes with
      | default _ hnone =>
        exact .inr fun path => ⟨fun h => absurd h (hnot path), fun h => absurd h (hnone path)⟩
    · rintro (⟨name, hname⟩ | hagree)
      · exact absurd hunset hname.not_unset
      · exact .default hunset fun path h => hnot path ((hagree path).mpr h)

end Sources

/-! ### The source that is listed -/

/-- The source that is listed for a setting. -/
def listedSource {α : Type} (w : Surroundings) (path? : Option String) (k : Setting α) : Source :=
  source w.env (writtenFile w path?) k.row

section Listed

variable {α : Type} (w : Surroundings) (path? : Option String) (k : Setting α)

lemma FileText.unique {path path' text text' : String} (h : FileText w path? path text)
    (h' : FileText w path? path' text') : path = path' ∧ text = text' := by
  obtain ⟨hpath, content, hentry, htext⟩ := h
  obtain ⟨hpath', content', hentry', htext'⟩ := h'
  cases Option.some.inj (hpath.symm.trans hpath')
  cases Option.some.inj (hentry.symm.trans hentry')
  exact ⟨rfl, Option.some.inj (htext.symm.trans htext')⟩

lemma GivenInFile.path_unique (path path' : String) (h : GivenInFile w path? k path)
    (h' : GivenInFile w path? k path') : path = path' := by
  obtain ⟨_, _, _, _, hfile, -⟩ := h
  obtain ⟨_, _, _, _, hfile', -⟩ := h'
  exact (FileText.unique w path? hfile hfile').1

lemma WrittenInFile.path_unique (path path' : String) (h : WrittenInFile w path? k path)
    (h' : WrittenInFile w path? k path') : path = path' := by
  obtain ⟨_, _, _, _, _, hfile, -⟩ := h
  obtain ⟨_, _, _, _, _, hfile', -⟩ := h'
  exact (FileText.unique w path? hfile hfile').1

lemma toOption_fileText?_iff (path text : String) :
    (∃ read, w.fileText? path = some read ∧ read.toOption = some text) ↔
      ∃ content, w.entry? path = some (.file content) ∧ Text.text? content = some text := by
  unfold Surroundings.fileText?
  cases w.entry? path with
  | none => simp
  | some entry =>
    cases entry with
    | unreadable e => simp [Except.toOption]
    | file content => cases htext : Text.text? content <;> simp [htext, Except.toOption]

lemma writtenFile_eq_some_iff (path : String) (doc : Toml.Members) :
    writtenFile w path? = some (path, doc) ↔
      ∃ text, FileText w path? path text ∧ Toml.read? text = some doc := by
  unfold writtenFile FileText
  simp only [Option.bind_eq_bind, Option.bind_eq_some_iff, Option.pure_def, Option.some.injEq,
    Prod.mk.injEq]
  constructor
  · rintro ⟨path', hpath, read, hread, text, htext, doc', hdoc, rfl, rfl⟩
    exact ⟨text, ⟨hpath, (toOption_fileText?_iff w path' text).mp ⟨read, hread, htext⟩⟩, hdoc⟩
  · rintro ⟨text, ⟨hpath, hcontent⟩, hdoc⟩
    obtain ⟨read, hread, htext⟩ := (toOption_fileText?_iff w path text).mpr hcontent
    exact ⟨path, hpath, read, hread, text, htext, doc, hdoc, rfl, rfl⟩

lemma mentions_iff (doc : Toml.Members) (sectionName key : String) :
    mentions doc sectionName key = true ↔
      ∃ origin ms v, doc.lookup sectionName = some (.table origin ms) ∧ ms.lookup key = some v := by
  unfold mentions
  constructor
  · intro h
    split at h
    · next origin ms hsection =>
      obtain ⟨v, hv⟩ := Option.isSome_iff_exists.mp h
      exact ⟨origin, ms, v, hsection, hv⟩
    · cases h
  · rintro ⟨origin, ms, v, hsection, hv⟩
    rw [hsection]
    dsimp only
    rw [hv]
    rfl

lemma writtenInFile_iff (path : String) : WrittenInFile w path? k path ↔
    ∃ doc, writtenFile w path? = some (path, doc) ∧ mentions doc k.place.1 k.key = true := by
  simp only [writtenFile_eq_some_iff, mentions_iff, WrittenInFile]
  constructor
  · rintro ⟨text, doc, origin, ms, v, hfile, hdoc, hsection, hv⟩
    exact ⟨doc, ⟨text, hfile, hdoc⟩, origin, ms, v, hsection, hv⟩
  · rintro ⟨doc, ⟨text, hfile, hdoc⟩, origin, ms, v, hsection, hv⟩
    exact ⟨text, doc, origin, ms, v, hfile, hdoc, hsection, hv⟩

lemma comesFrom_listedSource :
    ComesFrom w.env k.variables (WrittenInFile w path? k) (listedSource w path? k) := by
  have hwritten := writtenInFile_iff w path? k
  unfold listedSource source
  rw [row_variableNames]
  rcases find?_isSome_read? w.env k.variables with ⟨name, hfind, hname⟩ | ⟨hfind, hunset⟩
  · rw [hfind]
    exact .named hname
  · rw [hfind]
    dsimp only
    cases hfile : writtenFile w path? with
    | none =>
      refine .default hunset fun path h => ?_
      obtain ⟨doc, hdoc, -⟩ := (hwritten path).mp h
      rw [hfile] at hdoc
      cases hdoc
    | some file =>
      obtain ⟨path, doc⟩ := file
      dsimp only
      by_cases hmentions : mentions doc k.row.sectionName k.row.key = true
      · rw [if_pos hmentions]
        exact .file hunset ((hwritten path).mpr ⟨doc, hfile, hmentions⟩)
      · rw [if_neg hmentions]
        refine .default hunset fun other h => ?_
        obtain ⟨doc', hdoc', hmentions'⟩ := (hwritten other).mp h
        rw [hfile] at hdoc'
        cases hdoc'
        exact hmentions hmentions'

lemma listedSource_eq_iff (source : Source) : listedSource w path? k = source ↔
    ComesFrom w.env k.variables (WrittenInFile w path? k) source := by
  constructor
  · rintro rfl
    exact comesFrom_listedSource w path? k
  · exact (comesFrom_listedSource w path? k).unique (WrittenInFile.path_unique w path? k)

end Listed

/-! ### The source that counts -/

section Taken

variable {α : Type} {w : Surroundings} {path? : Option String} {k : Setting α} {a : α}

lemma TakenFrom.comesFrom {source : Source} (h : TakenFrom w path? k a source) :
    ComesFrom w.env k.variables (GivenInFile w path? k) source := by
  cases h with
  | named h => exact .named h
  | file hunset hfile hresolved hdoc ha =>
    exact .file hunset ⟨_, _, _, _, hfile, hresolved, hdoc, ha⟩
  | default hunset hfile => exact .default hunset hfile

lemma TakenFrom.unique {source source' : Source} (h : TakenFrom w path? k a source)
    (h' : TakenFrom w path? k a source') : source = source' :=
  h.comesFrom.unique (GivenInFile.path_unique w path? k) h'.comesFrom

lemma GivenByDocument.unique {doc : Toml.Members} {given given' : Option α}
    (h : GivenByDocument doc k given) (h' : GivenByDocument doc k given') : given = given' := by
  rw [← readIn?_eq_some_iff] at h h'
  exact Option.some.inj (h.symm.trans h')

lemma GivenByEnvironment.unique {env : Environment} {given given' : Option α}
    (h : GivenByEnvironment env k given) (h' : GivenByEnvironment env k given') :
    given = given' := by
  rw [← readFrom?_eq_some_iff] at h h'
  exact Option.some.inj (h.symm.trans h')

lemma not_givenByDocument_nil : ¬GivenByDocument [] k (some a) := by
  intro h
  cases h with
  | given h =>
    cases h with
    | found h => cases h

/-- A document with one key says nothing about any other setting. -/
lemma givenByDocument_single {β : Type} {other : Setting β} (h : other.key ≠ k.key)
    (v : Toml.Value) (given : Option β) :
    GivenByDocument [(k.place.1, .table .header [(k.key, v)])] other given ↔
      GivenByDocument [] other given := by
  have hkey : [(k.key, v)].lookup other.key = none := by
    rw [List.lookup_cons, beq_eq_false_iff_ne.mpr h, List.lookup_nil]
  rw [← readIn?_eq_some_iff, ← readIn?_eq_some_iff]
  unfold readIn? docSection?
  rw [List.lookup_cons]
  cases other.place.1 == k.place.1 with
  | false => rfl
  | true => simp only [sectionMembers?, Option.bind_some, field?, hkey, List.lookup_nil]

/-- If the file can be resolved, the document is what is read of it. -/
lemma FileText.holdsDocument_iff {o : Options} {doc : Toml.Members} {path text : String}
    {resolved : List Char} (hfile : FileText w o.path path text)
    (hresolved : interpolate w.env text.toList = .ok resolved) :
    HoldsDocument w o doc ↔ Toml.read? (String.ofList resolved) = some doc := by
  obtain ⟨hpath, content, hentry, htext⟩ := hfile
  constructor
  · intro h
    cases h with
    | absent hnone =>
      rw [hnone] at hpath
      cases hpath
    | file hpath' hentry' htext' hresolved' hread =>
      cases Option.some.inj (hpath.symm.trans hpath')
      cases Option.some.inj (hentry.symm.trans hentry')
      cases Option.some.inj (htext.symm.trans htext')
      cases Except.ok.inj (hresolved.symm.trans hresolved')
      exact hread
  · exact .file hpath hentry htext hresolved

/-- A setting that is not overridden is taken from somewhere. -/
lemma exists_takenFrom_of_load {o : Options} {s : Settings} (h : load w o = .ok s) (k : Setting α)
    (hoverride : k.override o.overrides = none) :
    ∃ source, TakenFrom w o.path k (k.value s) source := by
  obtain ⟨-, doc, hdoc, hk⟩ := (load_eq_ok_iff_layers w _ s).mp h
  obtain ⟨file, env, hfile, henv, hvalue⟩ := hk k
  rw [hoverride, Option.none_or] at hvalue
  cases henv with
  | @set text a htext ha =>
    obtain ⟨name, hname, hset⟩ := exists_firstNamed htext
    rw [hvalue]
    exact ⟨_, .named hname hset ha⟩
  | unset hunset =>
    rw [Option.none_or] at hvalue
    rw [hvalue]
    cases file with
    | some a =>
      cases hdoc with
      | absent => exact absurd hfile not_givenByDocument_nil
      | file hpath hentry htext hresolved hread =>
        exact ⟨_, .file hunset ⟨hpath, _, hentry, htext⟩ hresolved hread hfile⟩
    | none =>
      refine ⟨.default, .default hunset (fun path hin => ?_) rfl⟩
      obtain ⟨text, resolved, doc', a, hin, hresolved, hread, ha⟩ := hin
      cases ((hin.holdsDocument_iff hresolved).mp hdoc).symm.trans hread
      cases hfile.unique ha

lemma exists_takenFrom {s : Settings} (h : load w (asCommanded path?) = .ok s) (k : Setting α) :
    ∃ source, TakenFrom w path? k (k.value s) source := by
  have hoverride : k.override (asCommanded path?).overrides = none := by
    cases k <;> rfl
  exact exists_takenFrom_of_load h k hoverride

/-- What is listed is the source that counts exactly if a variable is set or the file has the key
as it is written in the same case as after its references are resolved. -/
lemma takenFrom_listedSource_iff {s : Settings} (h : load w (asCommanded path?) = .ok s)
    (k : Setting α) :
    TakenFrom w path? k (k.value s) (listedSource w path? k) ↔
      (∃ name, FirstNamed w.env k.variables name) ∨
        ∀ path, WrittenInFile w path? k path ↔ GivenInFile w path? k path := by
  have hgiven := GivenInFile.path_unique w path? k
  rw [← (comesFrom_listedSource w path? k).iff_agree (WrittenInFile.path_unique w path? k) hgiven]
  constructor
  · exact TakenFrom.comesFrom
  · intro hcomes
    obtain ⟨taken, htaken⟩ := exists_takenFrom h k
    rw [hcomes.unique hgiven htaken.comesFrom]
    exact htaken

lemma listedSource_eq_variable_iff {s : Settings} (h : load w (asCommanded path?) = .ok s)
    (k : Setting α) (name : String) : listedSource w path? k = .variable name ↔
      TakenFrom w path? k (k.value s) (.variable name) := by
  constructor
  · intro heq
    have hlisted := (listedSource_eq_iff w path? k _).mp heq
    rw [← heq, takenFrom_listedSource_iff h]
    cases hlisted with
    | named hname => exact .inl ⟨name, hname⟩
  · intro htaken
    rw [listedSource_eq_iff]
    cases htaken with
    | named hname => exact .named hname

end Taken

/-! ### Files without references -/

/-- A file without references that has the section of a setting as a table, if it has it. -/
structure IsPlainFor {α : Type} (w : Surroundings) (path? : Option String) (k : Setting α) :
    Prop where
  no_reference : ∀ path text, FileText w path? path text → ¬['$', '\x7b'] <:+: text.toList
  table : ∀ path text doc v, FileText w path? path text → Toml.read? text = some doc →
    doc.lookup k.place.1 = some v → ∃ origin ms, v = .table origin ms

section Plain

variable {α : Type} {w : Surroundings} {path? : Option String} {k : Setting α} {s : Settings}

lemma IsPlainFor.written_iff_given (hplain : IsPlainFor w path? k)
    (h : load w (asCommanded path?) = .ok s) (path : String) :
    WrittenInFile w path? k path ↔ GivenInFile w path? k path := by
  have hresolve : ∀ text, FileText w path? path text →
      interpolate w.env text.toList = .ok text.toList := fun text hfile =>
    interpolate_of_no_reference w.env text.toList (hplain.no_reference path text hfile)
  constructor
  · rintro ⟨text, doc, origin, ms, v, hfile, hread, hsection, hv⟩
    obtain ⟨-, doc', hdoc, hk⟩ := (load_eq_ok_iff_layers w _ s).mp h
    obtain ⟨given, -, hgiven, -⟩ := hk k
    have hread' : Toml.read? (String.ofList text.toList) = some doc := by
      rwa [String.ofList_toList]
    cases ((hfile.holdsDocument_iff (hresolve text hfile)).mp hdoc).symm.trans hread'
    have hsaid : DocumentSays doc k (some v) := .found hsection (.table hv)
    cases hgiven with
    | absent hnone => cases hsaid.unique hnone
    | given h ha =>
      exact ⟨text, text.toList, doc, _, hfile, hresolve text hfile, hread', .given h ha⟩
  · rintro ⟨text, resolved, doc, a, hfile, hresolved, hread, ha⟩
    cases Except.ok.inj ((hresolve text hfile).symm.trans hresolved)
    rw [String.ofList_toList] at hread
    cases ha with
    | given h ha =>
      cases h with
      | found hsection hsaid =>
        obtain ⟨origin, ms, rfl⟩ := hplain.table path text doc _ hfile hread hsection
        cases hsaid with
        | table hv => exact ⟨text, doc, origin, ms, _, hfile, hread, hsection, hv⟩

end Plain

/-! ### The listing -/

lemma load_of_listSettings {w : Surroundings} {path? : Option String}
    (h : (listSettings w path?).exitCode = 0) :
    ∃ s, load w (asCommanded path?) = .ok s := by
  unfold listSettings at h
  split at h
  · cases h
  · next s hs => exact ⟨s, hs⟩

lemma listSettings_of_load {w : Surroundings} {path? : Option String} {s : Settings}
    (h : load w (asCommanded path?) = .ok s) :
    listSettings w path? = ⟨0, "\n".intercalate
      ("effective config (source precedence: env > file > default):" ::
        Setting.all.map fun k => k.2.line (k.2.value s) (listedSource w path? k.2))⟩ := by
  unfold asCommanded at h
  unfold listSettings
  rw [h]
  dsimp only
  rw [rows_eq, List.map_map]
  rfl

/-- Every setting that is listed has one source that counts. The listing names it if it is a
variable, and never names a variable otherwise. Where no variable is set it names the source that
counts exactly if the file has the key as it is written in the same case as it sets the key once
its references are resolved, as in a plain file. -/
theorem listed_sources {w : Surroundings} {path? : Option String}
    (h : (listSettings w path?).exitCode = 0) :
    ∃ s, load w (asCommanded path?) = .ok s ∧
      (listSettings w path?).output = "\n".intercalate
        ("effective config (source precedence: env > file > default):" ::
          Setting.all.map fun k => k.2.line (k.2.value s) (listedSource w path? k.2)) ∧
      ∀ {α : Type} (k : Setting α),
        (∃! source, TakenFrom w path? k (k.value s) source) ∧
        (∀ source, listedSource w path? k = source ↔
          ComesFrom w.env k.variables (WrittenInFile w path? k) source) ∧
        (∀ name, listedSource w path? k = .variable name ↔
          TakenFrom w path? k (k.value s) (.variable name)) ∧
        (TakenFrom w path? k (k.value s) (listedSource w path? k) ↔
          (∃ name, FirstNamed w.env k.variables name) ∨
            ∀ path, WrittenInFile w path? k path ↔ GivenInFile w path? k path) ∧
        (IsPlainFor w path? k → TakenFrom w path? k (k.value s) (listedSource w path? k)) := by
  obtain ⟨s, hs⟩ := load_of_listSettings h
  refine ⟨s, hs, by rw [listSettings_of_load hs], fun k => ?_⟩
  have hagree := takenFrom_listedSource_iff hs k
  obtain ⟨taken, htaken⟩ := exists_takenFrom hs k
  refine ⟨⟨taken, htaken, fun _ hother => hother.unique htaken⟩, listedSource_eq_iff w path? k,
    listedSource_eq_variable_iff hs k, hagree, fun hplain => ?_⟩
  exact hagree.mpr (.inr (hplain.written_iff_given hs))

/-- A file in the usual place, and variables with what has to be set. -/
def surroundedBy (text : String) : Surroundings where
  env := ([("PARLEY_SLACK_TOKEN", "xoxb-1"), ("PARLEY_SLACK_SIGNING_SECRET", "s"),
    ("THREADS", "true")].lookup ·)
  entry? path := if path = "parley.toml" then some (.file (Text.utf8 text)) else none

/-- The settings that these variables give. -/
def surroundedSettings : Settings :=
  { Settings.default with
    slack := { Settings.default.slack with
      token := ⟨"xoxb-1"⟩
      signingSecret := ⟨"s"⟩ } }

lemma fileText_surroundedBy (text : String) :
    FileText (surroundedBy text) none "parley.toml" text :=
  ⟨rfl, Text.utf8 text, rfl, Text.text?_utf8 text⟩

def plainText : String := "[slack]\nuse_threads = true\n"

/-- A text that is no document until its reference is resolved. -/
def referringText : String := "[slack]\nuse_threads = $\x7bTHREADS\x7d\n"

def plainDocument : Toml.Members :=
  [("slack", .table .header [("use_threads", .boolean true)])]

lemma read?_plainText : Toml.read? plainText = some plainDocument := by
  rfl

theorem listed_sources_of_plain_file :
    (listSettings (surroundedBy plainText) none).exitCode = 0 ∧
    ∃ s, load (surroundedBy plainText) {} = .ok s ∧
      TakenFrom (surroundedBy plainText) none .token s.slack.token
        (.variable "PARLEY_SLACK_TOKEN") ∧
      TakenFrom (surroundedBy plainText) none .useThreads s.slack.useThreads
        (.file "parley.toml") ∧
      TakenFrom (surroundedBy plainText) none .port s.server.port .default := by
  have hexit : (listSettings (surroundedBy plainText) none).exitCode = 0 := by
    decide +kernel
  have hplain : ∀ {α : Type} (k : Setting α), IsPlainFor (surroundedBy plainText) none k := by
    intro α k
    constructor
    · intro path text hfile
      obtain ⟨-, rfl⟩ := hfile.unique _ _ (fileText_surroundedBy _)
      decide
    · intro path text doc v hfile hread hsection
      obtain ⟨-, rfl⟩ := hfile.unique _ _ (fileText_surroundedBy _)
      rw [read?_plainText] at hread
      cases hread
      rw [plainDocument, List.lookup_cons] at hsection
      split at hsection
      · cases hsection
        exact ⟨_, _, rfl⟩
      · cases hsection
  obtain ⟨s, hs, -, hk⟩ := listed_sources hexit
  have htaken := fun {α : Type} (k : Setting α) => (hk k).2.2.2.2 (hplain k)
  have htoken : listedSource (surroundedBy plainText) none .token =
      .variable "PARLEY_SLACK_TOKEN" := by
    decide +kernel
  have hthreads : listedSource (surroundedBy plainText) none .useThreads =
      .file "parley.toml" := by
    decide +kernel
  have hport : listedSource (surroundedBy plainText) none .port = .default := by
    decide +kernel
  exact ⟨hexit, s, hs, htoken ▸ htaken .token, hthreads ▸ htaken .useThreads,
    hport ▸ htaken .port⟩

/-- Here the loader takes the value from the file, and the listing names the default. -/
theorem listed_default_of_reference :
    (listSettings (surroundedBy referringText) none).exitCode = 0 ∧
    (∃ s, load (surroundedBy referringText) {} = .ok s ∧ s.slack.useThreads = true) ∧
    (∀ source, TakenFrom (surroundedBy referringText) none .useThreads true source ↔
      source = .file "parley.toml") ∧
    ∃ lines, (listSettings (surroundedBy referringText) none).output = "\n".intercalate lines ∧
      "- slack.use_threads = true (source: default)" ∈ lines := by
  have hresolved : interpolate (surroundedBy referringText).env referringText.toList =
      .ok plainText.toList := by
    apply eq_ok_of_toOption
    decide +kernel
  have hloaded : load (surroundedBy referringText) {} = .ok { Settings.default with
      slack := { Settings.default.slack with
        token := ⟨"xoxb-1"⟩
        signingSecret := ⟨"s"⟩
        useThreads := true } } := by
    apply eq_ok_of_toOption
    decide +kernel
  have hnone : (surroundedBy referringText).env "PARLEY_SLACK_USE_THREADS" = none := by
    decide
  have hunset : ∀ name ∈ Setting.useThreads.variables,
      IsUnset (surroundedBy referringText).env name := by
    intro name hname text htext
    rw [List.mem_singleton.mp hname, hnone] at htext
    cases htext
  have hgiven : GivenByDocument plainDocument .useThreads (some true) :=
    .given (.found rfl (.table rfl)) rfl
  have htaken : TakenFrom (surroundedBy referringText) none .useThreads true
      (.file "parley.toml") := by
    refine .file hunset (fileText_surroundedBy _) hresolved ?_ hgiven
    rw [String.ofList_toList]
    exact read?_plainText
  have hlisted : listedSource (surroundedBy referringText) none .useThreads = .default := by
    decide +kernel
  refine ⟨by decide +kernel, ⟨_, hloaded, rfl⟩, fun source => ⟨fun h => h.unique htaken, ?_⟩,
    _, by rw [listSettings_of_load hloaded], List.mem_cons_of_mem _ (List.mem_map.mpr ?_)⟩
  · rintro rfl
    exact htaken
  · refine ⟨⟨_, .useThreads⟩, mem_all _, ?_⟩
    dsimp only
    rw [hlisted]
    rfl

end SlackBridge.Proofs
