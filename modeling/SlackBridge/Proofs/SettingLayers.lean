import SlackBridge.Proofs.References
import SlackBridge.Proofs.SettingPlaces

/-!
# Settings and their layers

The settings that are loaded are those for which, one by one, the highest place that gives a value
has its way. A layer of the program says of each setting what is given in one place, and layers on
top of each other leave the topmost of what they say.
-/

namespace SlackBridge.Proofs

open Settings

namespace Setting

/-- The value that a setting has in the end. -/
def value : {α : Type} → Setting α → Settings → α
  | _, .token, s => s.slack.token
  | _, .signingSecret, s => s.slack.signingSecret
  | _, .channel, s => s.slack.channel
  | _, .proxy, s => s.slack.proxy
  | _, .retryReasonHeader, s => s.slack.retryReasonHeader
  | _, .retryNumberHeader, s => s.slack.retryNumberHeader
  | _, .ignoredRetryReasons, s => s.slack.ignoredRetryReasons
  | _, .useThreads, s => s.slack.useThreads
  | _, .granularity, s => s.slack.granularity
  | _, .apiBaseUrl, s => s.slack.apiBaseUrl
  | _, .maxRequestAgeSecs, s => s.slack.maxRequestAgeSecs
  | _, .endpointUrl, s => s.bot.endpointUrl
  | _, .timeoutSecs, s => s.bot.timeoutSecs
  | _, .bindAddress, s => s.server.bindAddress
  | _, .port, s => s.server.port
  | _, .gracefulShutdownSecs, s => s.server.gracefulShutdownSecs
  | _, .logLevel, s => s.log.level
  | _, .logFormat, s => s.log.format

/-- What a layer says about a setting. -/
def said : {α : Type} → Setting α → Layer → Option α
  | _, .token, l => l.token
  | _, .signingSecret, l => l.signingSecret
  | _, .channel, l => l.channel
  | _, .proxy, l => l.proxy
  | _, .retryReasonHeader, l => l.retryReasonHeader
  | _, .retryNumberHeader, l => l.retryNumberHeader
  | _, .ignoredRetryReasons, l => l.ignoredRetryReasons
  | _, .useThreads, l => l.useThreads
  | _, .granularity, l => l.granularity
  | _, .apiBaseUrl, l => l.apiBaseUrl
  | _, .maxRequestAgeSecs, l => l.maxRequestAgeSecs
  | _, .endpointUrl, l => l.endpointUrl
  | _, .timeoutSecs, l => l.timeoutSecs
  | _, .bindAddress, l => l.bindAddress
  | _, .port, l => l.port
  | _, .gracefulShutdownSecs, l => l.gracefulShutdownSecs
  | _, .logLevel, l => l.logLevel
  | _, .logFormat, l => l.logFormat

end Setting

/-- The document with the settings. Without a file there is one that is empty, unless a file is
required. -/
inductive HoldsDocument (w : Surroundings) (o : Options) : Toml.Members → Prop
  | absent (h : w.settingsPath? o.path = none) (hnot : o.requireFile = false) :
      HoldsDocument w o []
  | file {path text : String} {content : Bytes} {resolved : List Char} {doc : Toml.Members}
      (h : w.settingsPath? o.path = some path) (hentry : w.entry? path = some (.file content))
      (htext : Text.text? content = some text)
      (hresolved : interpolate w.env text.toList = .ok resolved)
      (hdoc : Toml.read? (String.ofList resolved) = some doc) : HoldsDocument w o doc

/-! ### Layers -/

section Layers

variable {α : Type}

lemma value_onto (k : Setting α) (l : Layer) (s : Settings) :
    k.value (l.onto s) = (k.said l).getD (k.value s) := by
  cases k <;> rfl

lemma value_default (k : Setting α) : k.value Settings.default = k.default := by
  cases k <;> rfl

lemma said_overrides (k : Setting α) (o : Overrides) : k.said o.layer = k.override o := by
  cases k <;> simp only [Setting.said, Setting.override, Overrides.layer, trimmed?_eq_unlessBlank]

/-- What is said of the settings is all there is to a layer. -/
lemma layer_ext {l l' : Layer} (h : ∀ {α : Type} (k : Setting α), k.said l = k.said l') :
    l = l' := by
  cases l
  cases l'
  simp only [Layer.mk.injEq]
  exact ⟨h .token, h .signingSecret, h .channel, h .proxy, h .retryReasonHeader,
    h .retryNumberHeader, h .ignoredRetryReasons, h .useThreads, h .granularity, h .apiBaseUrl,
    h .maxRequestAgeSecs, h .endpointUrl, h .timeoutSecs, h .bindAddress, h .port,
    h .gracefulShutdownSecs, h .logLevel, h .logFormat⟩

/-- The settings are all there is to a configuration. -/
lemma settings_ext {s s' : Settings} (h : ∀ {α : Type} (k : Setting α), k.value s = k.value s') :
    s = s' := by
  obtain ⟨slack, bot, server, log⟩ := s
  obtain ⟨slack', bot', server', log'⟩ := s'
  have hslack : slack = slack' := by
    cases slack
    cases slack'
    simp only [ForSlack.mk.injEq]
    exact ⟨h .token, h .signingSecret, h .channel, h .proxy, h .retryReasonHeader,
      h .retryNumberHeader, h .ignoredRetryReasons, h .useThreads, h .granularity, h .apiBaseUrl,
      h .maxRequestAgeSecs⟩
  have hbot : bot = bot' := by
    cases bot
    cases bot'
    simp only [ForBot.mk.injEq]
    exact ⟨h .endpointUrl, h .timeoutSecs⟩
  have hserver : server = server' := by
    cases server
    cases server'
    simp only [ForServer.mk.injEq]
    exact ⟨h .bindAddress, h .port, h .gracefulShutdownSecs⟩
  have hlog : log = log' := by
    cases log
    cases log'
    simp only [ForLog.mk.injEq]
    exact ⟨h .logLevel, h .logFormat⟩
  rw [hslack, hbot, hserver, hlog]

lemma value_ofLayers (k : Setting α) (file env : Layer) (o : Overrides) :
    k.value (ofLayers [file, env, o.layer]) =
      (((k.override o).or (k.said env)).or (k.said file)).getD k.default := by
  unfold ofLayers
  rw [List.foldl_cons, List.foldl_cons, List.foldl_cons, List.foldl_nil, value_onto, value_onto,
    value_onto, value_default, said_overrides]
  cases k.override o with
  | some a => rfl
  | none => cases k.said env <;> rfl

end Layers

/-! ### The layer of the environment -/

lemma readFrom?_of_ofEnvironment {env : Environment} {l : Layer}
    (h : Layer.ofEnvironment env = .ok l) {α : Type} (k : Setting α) :
    readFrom? env k.variables k.reader = some (k.said l) := by
  unfold Layer.ofEnvironment at h
  simp only [bind_eq_ok_iff, parsed_eq_ok_iff, namedFormat_eq_ok_iff] at h
  obtain ⟨_, huseThreads, _, hgranularity, _, hage, _, htimeout, _, hport, _, hshutdown, _,
    hformat, h⟩ := h
  cases h
  cases k with
  | useThreads => exact huseThreads
  | granularity => exact hgranularity
  | maxRequestAgeSecs => exact hage
  | timeoutSecs => exact htimeout
  | port => exact hport
  | gracefulShutdownSecs => exact hshutdown
  | logFormat => exact hformat
  | token | signingSecret => exact readFrom?_one env _ Slack.Secret.mk
  | channel | proxy | endpointUrl => exact readFrom?_one env _ some
  | ignoredRetryReasons => exact readFrom?_one env _ listEntries
  | logLevel => exact readFrom?_text env logLevelVariables
  | retryReasonHeader | retryNumberHeader | apiBaseUrl | bindAddress =>
    exact (readFrom?_text env [_]).trans (congrArg some (readFirst?_singleton env _))

/-- An environment in which every setting can be read is the environment of a layer. -/
lemma exists_ofEnvironment {env : Environment}
    (h : ∀ {α : Type} (k : Setting α), ∃ given, readFrom? env k.variables k.reader = some given) :
    ∃ l, Layer.ofEnvironment env = .ok l := by
  obtain ⟨_, huseThreads⟩ := h .useThreads
  obtain ⟨_, hgranularity⟩ := h .granularity
  obtain ⟨_, hage⟩ := h .maxRequestAgeSecs
  obtain ⟨_, htimeout⟩ := h .timeoutSecs
  obtain ⟨_, hport⟩ := h .port
  obtain ⟨_, hshutdown⟩ := h .gracefulShutdownSecs
  obtain ⟨_, hformat⟩ := h .logFormat
  unfold Layer.ofEnvironment
  simp only [bind_eq_ok_iff, parsed_eq_ok_iff, namedFormat_eq_ok_iff]
  exact ⟨_, _, huseThreads, _, hgranularity, _, hage, _, htimeout, _, hport, _, hshutdown, _,
    hformat, rfl⟩

/-! ### The layer of a document -/

lemma readIn?_of_ofDocument {doc : Toml.Members} {l : Layer} (h : Layer.ofDocument doc = some l)
    {α : Type} (k : Setting α) : readIn? doc k = some (k.said l) := by
  unfold Layer.ofDocument at h
  obtain ⟨slack, hslack, h⟩ := Option.bind_eq_some_iff.mp h
  obtain ⟨bot, hbot, h⟩ := Option.bind_eq_some_iff.mp h
  obtain ⟨server, hserver, h⟩ := Option.bind_eq_some_iff.mp h
  obtain ⟨log, hlog, h⟩ := Option.bind_eq_some_iff.mp h
  obtain ⟨_, htoken, h⟩ := Option.bind_eq_some_iff.mp h
  obtain ⟨_, hsecret, h⟩ := Option.bind_eq_some_iff.mp h
  obtain ⟨_, hchannel, h⟩ := Option.bind_eq_some_iff.mp h
  obtain ⟨_, hproxy, h⟩ := Option.bind_eq_some_iff.mp h
  obtain ⟨_, hreason, h⟩ := Option.bind_eq_some_iff.mp h
  obtain ⟨_, hnumber, h⟩ := Option.bind_eq_some_iff.mp h
  obtain ⟨_, hignored, h⟩ := Option.bind_eq_some_iff.mp h
  obtain ⟨_, hthreads, h⟩ := Option.bind_eq_some_iff.mp h
  obtain ⟨_, hgranularity, h⟩ := Option.bind_eq_some_iff.mp h
  obtain ⟨_, hbase, h⟩ := Option.bind_eq_some_iff.mp h
  obtain ⟨_, hage, h⟩ := Option.bind_eq_some_iff.mp h
  obtain ⟨_, hendpoint, h⟩ := Option.bind_eq_some_iff.mp h
  obtain ⟨_, htimeout, h⟩ := Option.bind_eq_some_iff.mp h
  obtain ⟨_, haddress, h⟩ := Option.bind_eq_some_iff.mp h
  obtain ⟨_, hport, h⟩ := Option.bind_eq_some_iff.mp h
  obtain ⟨_, hshutdown, h⟩ := Option.bind_eq_some_iff.mp h
  obtain ⟨_, hlevel, h⟩ := Option.bind_eq_some_iff.mp h
  obtain ⟨_, hformat, h⟩ := Option.bind_eq_some_iff.mp h
  cases h
  rw [trimmed?_eq_unlessBlank]
  cases k with
  | token => exact readIn?_of_field? .token hslack (field?_map htoken Slack.Secret.mk)
  | signingSecret =>
    exact readIn?_of_field? .signingSecret hslack (field?_map hsecret Slack.Secret.mk)
  | channel => exact readIn?_of_field? .channel hslack (field?_map hchannel unlessBlank)
  | proxy => exact readIn?_of_field? .proxy hslack (field?_map hproxy unlessBlank)
  | retryReasonHeader => exact readIn?_of_field? .retryReasonHeader hslack hreason
  | retryNumberHeader => exact readIn?_of_field? .retryNumberHeader hslack hnumber
  | ignoredRetryReasons => exact readIn?_of_field? .ignoredRetryReasons hslack hignored
  | useThreads => exact readIn?_of_field? .useThreads hslack hthreads
  | granularity => exact readIn?_of_field? .granularity hslack hgranularity
  | apiBaseUrl => exact readIn?_of_field? .apiBaseUrl hslack hbase
  | maxRequestAgeSecs => exact readIn?_of_field? .maxRequestAgeSecs hslack hage
  | endpointUrl => exact readIn?_of_field? .endpointUrl hbot (field?_map hendpoint unlessBlank)
  | timeoutSecs => exact readIn?_of_field? .timeoutSecs hbot htimeout
  | bindAddress => exact readIn?_of_field? .bindAddress hserver haddress
  | port => exact readIn?_of_field? .port hserver hport
  | gracefulShutdownSecs => exact readIn?_of_field? .gracefulShutdownSecs hserver hshutdown
  | logLevel => exact readIn?_of_field? .logLevel hlog hlevel
  | logFormat => exact readIn?_of_field? .logFormat hlog hformat

lemma exists_bind {α β : Type} {x : Option α} {f : α → Option β} (hx : ∃ a, x = some a)
    (hf : ∀ a, x = some a → ∃ b, f a = some b) : ∃ b, x.bind f = some b := by
  obtain ⟨a, ha⟩ := hx
  obtain ⟨b, hb⟩ := hf a ha
  exact ⟨b, Option.bind_eq_some_iff.mpr ⟨a, ha, hb⟩⟩

/-- A document in which every setting can be read in its place is the document of a layer. -/
lemma exists_ofDocument {doc : Toml.Members}
    (h : ∀ {α : Type} (k : Setting α), ∃ given, readIn? doc k = some given) :
    ∃ l, Layer.ofDocument doc = some l := by
  have hsection : ∀ {α : Type} (k : Setting α), ∃ ms,
      docSection? k.place.1 k.place.2 doc = some ms := by
    intro α k
    obtain ⟨given, hread⟩ := h k
    obtain ⟨ms, hms, -⟩ := Option.bind_eq_some_iff.mp hread
    exact ⟨ms, hms⟩
  have hfield : ∀ {α : Type} (k : Setting α) {ms : Toml.Members},
      docSection? k.place.1 k.place.2 doc = some ms →
        ∃ given, field? k.key k.ofToml? ms = some given := by
    intro α k ms hms
    obtain ⟨given, hread⟩ := h k
    unfold readIn? at hread
    rw [hms, Option.bind_some] at hread
    exact ⟨given, hread⟩
  refine exists_bind (hsection .token) fun slack hslack => ?_
  refine exists_bind (hsection .timeoutSecs) fun bot hbot => ?_
  refine exists_bind (hsection .port) fun server hserver => ?_
  refine exists_bind (hsection .logLevel) fun log hlog => ?_
  refine exists_bind (exists_field?_of_map (hfield .token hslack)) fun _ _ => ?_
  refine exists_bind (exists_field?_of_map (hfield .signingSecret hslack)) fun _ _ => ?_
  refine exists_bind (exists_field?_of_map (hfield .channel hslack)) fun _ _ => ?_
  refine exists_bind (exists_field?_of_map (hfield .proxy hslack)) fun _ _ => ?_
  refine exists_bind (hfield .retryReasonHeader hslack) fun _ _ => ?_
  refine exists_bind (hfield .retryNumberHeader hslack) fun _ _ => ?_
  refine exists_bind (hfield .ignoredRetryReasons hslack) fun _ _ => ?_
  refine exists_bind (hfield .useThreads hslack) fun _ _ => ?_
  refine exists_bind (hfield .granularity hslack) fun _ _ => ?_
  refine exists_bind (hfield .apiBaseUrl hslack) fun _ _ => ?_
  refine exists_bind (hfield .maxRequestAgeSecs hslack) fun _ _ => ?_
  refine exists_bind (exists_field?_of_map (hfield .endpointUrl hbot)) fun _ _ => ?_
  refine exists_bind (hfield .timeoutSecs hbot) fun _ _ => ?_
  refine exists_bind (hfield .bindAddress hserver) fun _ _ => ?_
  refine exists_bind (hfield .port hserver) fun _ _ => ?_
  refine exists_bind (hfield .gracefulShutdownSecs hserver) fun _ _ => ?_
  refine exists_bind (hfield .logLevel hlog) fun _ _ => ?_
  refine exists_bind (hfield .logFormat hlog) fun _ _ => ?_
  exact ⟨_, rfl⟩

/-- The layer of a document says of each setting what is read in its place. -/
lemma ofDocument_eq_some_iff (doc : Toml.Members) (l : Layer) : Layer.ofDocument doc = some l ↔
    ∀ {α : Type} (k : Setting α), readIn? doc k = some (k.said l) := by
  constructor
  · exact fun h => readIn?_of_ofDocument h
  · intro h
    obtain ⟨l', hl'⟩ := exists_ofDocument fun k => ⟨_, h k⟩
    have heq : l' = l := layer_ext fun k =>
      Option.some.inj ((readIn?_of_ofDocument hl' k).symm.trans (h k))
    rw [hl', heq]

/-! ### The check -/

section Check

variable {s : Settings}

lemma require_eq_ok_iff (ok : Bool) (v : Violation) (u : Unit) :
    require ok v = .ok u ↔ ok = true := by
  unfold require
  cases ok <;> simp

lemma not_blank_of_check (h : s.check = .ok ()) :
    Text.trim s.slack.token.reveal ≠ "" ∧ Text.trim s.slack.signingSecret.reveal ≠ "" := by
  unfold Settings.check ForSlack.check Settings.checkToken at h
  simp only [bind_eq_ok_iff, require_eq_ok_iff, Bool.not_eq_true'] at h
  obtain ⟨_, ⟨_, ⟨_, htoken, -⟩, _, hsecret, -⟩, -⟩ := h
  rw [ne_eq, ne_eq, trim_eq_empty_iff, trim_eq_empty_iff, htoken, hsecret]
  exact ⟨Bool.false_ne_true, Bool.false_ne_true⟩

lemma not_blank_of_mem_reasons (h : s.check = .ok ()) {reason : String}
    (hmem : reason ∈ s.slack.ignoredRetryReasons) : Text.trim reason ≠ "" := by
  unfold Settings.check ForSlack.check at h
  simp only [bind_eq_ok_iff, require_eq_ok_iff, List.all_eq_true, Bool.not_eq_true'] at h
  obtain ⟨_, ⟨_, -, _, -, _, -, _, -, _, -, _, hreasons, -⟩, -⟩ := h
  rw [ne_eq, trim_eq_empty_iff, hreasons reason hmem]
  exact Bool.false_ne_true

lemma check_of_secret (h : s.check = .ok ()) {secret : Slack.Secret}
    (hsecret : Text.trim secret.reveal ≠ "") :
    ({ s with slack := { s.slack with signingSecret := secret } } : Settings).check = .ok () := by
  have hnot : Text.isBlankText secret.reveal = false := by
    rwa [ne_eq, trim_eq_empty_iff, Bool.not_eq_true] at hsecret
  unfold Settings.check ForSlack.check at h ⊢
  simp only [bind_eq_ok_iff, require_eq_ok_iff, Bool.not_eq_true'] at h ⊢
  obtain ⟨u, ⟨v, htoken, _, -, hslack⟩, hothers⟩ := h
  exact ⟨u, ⟨v, htoken, (), hnot, hslack⟩, hothers⟩

lemma check_of_token (h : s.check = .ok ()) {token : Slack.Secret}
    (htoken : checkToken token.reveal = .ok ()) :
    ({ s with slack := { s.slack with token := token } } : Settings).check = .ok () := by
  unfold Settings.check ForSlack.check at h ⊢
  simp only [bind_eq_ok_iff] at h ⊢
  obtain ⟨u, ⟨_, -, hslack⟩, hothers⟩ := h
  exact ⟨u, ⟨(), htoken, hslack⟩, hothers⟩

end Check

/-! ### Loading -/

section Loading

variable (w : Surroundings) (o : Options)

lemma fileLayer_eq_ok_iff (path : String) (l : Layer) :
    w.fileLayer path = .ok l ↔ ∃ content text resolved doc,
      w.entry? path = some (.file content) ∧ Text.text? content = some text ∧
      interpolate w.env text.toList = .ok resolved ∧
      Toml.read? (String.ofList resolved) = some doc ∧ Layer.ofDocument doc = some l := by
  unfold Surroundings.fileLayer Surroundings.fileText?
  constructor
  · intro h
    cases hentry : w.entry? path with
    | none =>
      rw [hentry] at h
      cases h
    | some entry =>
      rw [hentry, Option.map_some] at h
      cases entry with
      | unreadable e => cases h
      | file content =>
        cases htext : Text.text? content with
        | none =>
          simp only [htext] at h
          cases h
        | some text =>
          simp only [htext, bind_eq_ok_iff] at h
          obtain ⟨resolved, hresolved, h⟩ := h
          split at h
          · next hl =>
            cases h
            obtain ⟨doc, hdoc, hl⟩ := Option.bind_eq_some_iff.mp hl
            exact ⟨content, text, resolved, doc, rfl, htext, hresolved, hdoc, hl⟩
          · cases h
  · rintro ⟨content, text, resolved, doc, hentry, htext, hresolved, hdoc, hl⟩
    simp only [hentry, Option.map_some, htext, bind_eq_ok_iff]
    refine ⟨resolved, hresolved, ?_⟩
    rw [hdoc, Option.bind_some, hl]
    rfl

/-- The file gives a layer exactly if its document does. -/
lemma anyFileLayer_eq_ok_iff (l : Layer) : w.anyFileLayer o.path o.requireFile = .ok l ↔
    ∃ doc, HoldsDocument w o doc ∧ Layer.ofDocument doc = some l := by
  unfold Surroundings.anyFileLayer
  constructor
  · intro h
    split at h
    · next path hpath =>
      obtain ⟨content, text, resolved, doc, hentry, htext, hresolved, hdoc, hl⟩ :=
        (fileLayer_eq_ok_iff w path l).mp h
      exact ⟨doc, .file hpath hentry htext hresolved hdoc, hl⟩
    · next hnone =>
      split_ifs at h with hrequired
      cases h
      exact ⟨[], .absent hnone (Bool.not_eq_true _ ▸ hrequired), rfl⟩
  · rintro ⟨doc, hholds, hl⟩
    cases hholds with
    | absent hnone hnot =>
      rw [hnone, hnot]
      cases hl
      rfl
    | file hpath hentry htext hresolved hdoc =>
      rw [hpath]
      exact (fileLayer_eq_ok_iff w _ l).mpr ⟨_, _, _, _, hentry, htext, hresolved, hdoc, hl⟩

lemma load_eq_ok_iff (s : Settings) : load w o = .ok s ↔
    ∃ file env, w.anyFileLayer o.path o.requireFile = .ok file ∧
      Layer.ofEnvironment w.env = .ok env ∧ ofLayers [file, env, o.overrides.layer] = s ∧
      s.check = .ok () := by
  unfold load
  simp only [bind_eq_ok_iff]
  constructor
  · rintro ⟨file, hfile, env, henv, h⟩
    split at h
    · next hcheck =>
      cases h
      exact ⟨file, env, hfile, henv, rfl, hcheck⟩
    · cases h
  · rintro ⟨file, env, hfile, henv, rfl, hcheck⟩
    refine ⟨file, hfile, env, henv, ?_⟩
    rw [hcheck]
    rfl

/-- The loaded settings have the values of the highest layers. -/
lemma load_eq_ok_iff_layers (s : Settings) : load w o = .ok s ↔ s.check = .ok () ∧
    ∃ doc, HoldsDocument w o doc ∧ ∀ {α : Type} (k : Setting α), ∃ file env,
      GivenByDocument doc k file ∧ GivenByEnvironment w.env k env ∧
        k.value s = (((k.override o.overrides).or env).or file).getD k.default := by
  simp only [load_eq_ok_iff, anyFileLayer_eq_ok_iff, ← readIn?_eq_some_iff,
    ← readFrom?_eq_some_iff]
  constructor
  · rintro ⟨file, env, ⟨doc, hdoc, hfile⟩, henv, rfl, hcheck⟩
    exact ⟨hcheck, doc, hdoc, fun k => ⟨k.said file, k.said env, readIn?_of_ofDocument hfile k,
      readFrom?_of_ofEnvironment henv k, value_ofLayers k file env o.overrides⟩⟩
  · rintro ⟨hcheck, doc, hdoc, h⟩
    have hfile : ∃ file, Layer.ofDocument doc = some file := by
      refine exists_ofDocument fun k => ?_
      obtain ⟨given, _, hgiven, -⟩ := h k
      exact ⟨given, hgiven⟩
    have henv : ∃ env, Layer.ofEnvironment w.env = .ok env := by
      refine exists_ofEnvironment fun k => ?_
      obtain ⟨_, given, -, hgiven, -⟩ := h k
      exact ⟨given, hgiven⟩
    obtain ⟨file, hfile⟩ := hfile
    obtain ⟨env, henv⟩ := henv
    refine ⟨file, env, ⟨doc, hdoc, hfile⟩, henv, settings_ext fun k => ?_, hcheck⟩
    obtain ⟨a, b, ha, hb, hvalue⟩ := h k
    have hfileEq : k.said file = a :=
      Option.some_inj.mp ((readIn?_of_ofDocument hfile k).symm.trans ha)
    have henvEq : k.said env = b :=
      Option.some_inj.mp ((readFrom?_of_ofEnvironment henv k).symm.trans hb)
    rw [value_ofLayers, hvalue, hfileEq, henvEq]

lemma readFrom?_of_not_denotes {env : Environment} {α : Type} {k : Setting α} {text : String}
    (h : FirstSet env k.variables text) (hnot : ∀ a, ¬k.Denotes text a) :
    readFrom? env k.variables k.reader = none := by
  have hreader : k.reader text = none := by
    rw [Option.eq_none_iff_forall_ne_some]
    exact fun a ha => hnot a ((reader_eq_some_iff k text a).mp ha)
  unfold readFrom?
  rw [(readFirst?_eq_some_iff env _ text).mpr h]
  dsimp only
  rw [hreader, Option.map_none]

/-- A variable that is set and cannot be read keeps all settings from being loaded. -/
lemma load_of_not_denotes {α : Type} {k : Setting α} {text : String}
    (h : FirstSet w.env k.variables text) (hnot : ∀ a, ¬k.Denotes text a) :
    ∃ e, load w o = .error e := by
  cases hload : load w o with
  | error e => exact ⟨e, rfl⟩
  | ok s =>
    obtain ⟨file, env, -, henv, -⟩ := (load_eq_ok_iff w o s).mp hload
    have hread := readFrom?_of_ofEnvironment henv k
    rw [readFrom?_of_not_denotes h hnot] at hread
    cases hread

end Loading

/-- Settings are loaded if they pass the check and each of them has the value of the highest layer
that gives one. Nothing is loaded if a variable that is not blank cannot be read, whatever the
other layers say. -/
theorem settings_layers (w : Surroundings) (o : Options) :
    (∀ s, load w o = .ok s ↔ s.check = .ok () ∧ ∃ doc, HoldsDocument w o doc ∧
      ∀ {α : Type} (k : Setting α), ∃ file env, GivenByDocument doc k file ∧
        GivenByEnvironment w.env k env ∧
        k.value s = (((k.override o.overrides).or env).or file).getD k.default) ∧
    ∀ {α : Type} (k : Setting α) (text : String), FirstSet w.env k.variables text →
      (∀ a, ¬k.Denotes text a) → ∃ e, load w o = .error e :=
  ⟨load_eq_ok_iff_layers w o, fun _ _ h hnot => load_of_not_denotes w o h hnot⟩

/-- A channel and threads, to be read from a file. -/
def channelText : String := "[slack]\nslack_channel = \"C1\"\nuse_threads = true\n"

def channelDocument : Toml.Members :=
  [("slack", .table .header [("slack_channel", .string "C1"), ("use_threads", .boolean true)])]

/-- The file with the channel, and variables with another channel and the given port. -/
def channelSurroundings (port : String) : Surroundings where
  env := ([("PARLEY_SLACK_TOKEN", "xoxb-1"), ("PARLEY_SLACK_SIGNING_SECRET", "s"),
    ("PARLEY_SLACK_CHANNEL", "C2"), ("PARLEY_SERVER_PORT", port)].lookup ·)
  entry? path := if path = "parley.toml" then some (.file (Text.utf8 channelText)) else none

/-- The settings with a third channel. -/
def channelSettings : Settings :=
  { Settings.default with
    slack := { Settings.default.slack with
      token := ⟨"xoxb-1"⟩
      signingSecret := ⟨"s"⟩
      channel := some "C3"
      useThreads := true } }

lemma holdsDocument_channelSurroundings (port : String) (o : Overrides) :
    HoldsDocument (channelSurroundings port) { overrides := o } channelDocument := by
  refine .file rfl rfl (Text.text?_utf8 _) (interpolate_of_no_dollar _ (by decide)) ?_
  rw [String.ofList_toList]
  rfl

lemma givenByEnvironment_channelSurroundings {α : Type} {k : Setting α}
    (h : ∀ name ∈ k.variables, ((channelSurroundings " ").env name).all Text.isBlankText = true) :
    GivenByEnvironment (channelSurroundings " ").env k none := by
  refine .unset fun name hname text htext => ?_
  have hblank := h name hname
  rw [htext, Option.all_some] at hblank
  exact (trim_eq_empty_iff text).mpr hblank

/-- A channel in every place: the override has its way over the variable and the file. A port that
is no number keeps even that from being loaded. -/
theorem settings_layers_of_channel_in_each_place :
    let o : Options := { overrides := { channel := some " C3 " } }
    GivenByDocument channelDocument .channel (some (some "C1")) ∧
    GivenByEnvironment (channelSurroundings " ").env .channel (some (some "C2")) ∧
    load (channelSurroundings " ") o = .ok channelSettings ∧
    ∃ e, load (channelSurroundings "none") o = .error e := by
  intro o
  have hfile : GivenByDocument channelDocument .channel (some (some "C1")) :=
    .given (.found rfl (.table rfl)) ⟨"C1", rfl, by decide⟩
  have henv : GivenByEnvironment (channelSurroundings " ").env .channel (some (some "C2")) :=
    .set (.here rfl (by decide)) rfl
  have hport : ∀ n, ¬Setting.port.Denotes "none" n := by
    intro n hn
    cases (reader_eq_some_iff .port "none" n).mpr hn
  have hcheck : channelSettings.check = .ok () := by
    apply eq_ok_of_toOption
    decide +kernel
  refine ⟨hfile, henv, ?_, (settings_layers _ o).2 .port "none" (.here rfl (by decide)) hport⟩
  refine ((settings_layers _ o).1 _).mpr ⟨hcheck, channelDocument,
    holdsDocument_channelSurroundings " " o.overrides, fun k => ?_⟩
  cases k with
  | token | signingSecret =>
    exact ⟨none, _, .absent (.found rfl (.table rfl)), .set (.here rfl (by decide)) rfl, rfl⟩
  | channel => exact ⟨_, _, hfile, henv, by decide⟩
  | useThreads =>
    exact ⟨_, none, .given (.found rfl (.table rfl)) rfl,
      givenByEnvironment_channelSurroundings (by decide), rfl⟩
  | proxy | retryReasonHeader | retryNumberHeader | ignoredRetryReasons | granularity
  | apiBaseUrl | maxRequestAgeSecs =>
    exact ⟨none, none, .absent (.found rfl (.table rfl)),
      givenByEnvironment_channelSurroundings (by decide), rfl⟩
  | _ =>
    exact ⟨none, none, .absent (.missing rfl),
      givenByEnvironment_channelSurroundings (by decide), rfl⟩

end SlackBridge.Proofs
