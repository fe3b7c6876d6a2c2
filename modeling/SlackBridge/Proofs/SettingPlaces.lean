import Mathlib.Tactic.Common
import SlackBridge.Proofs.DocumentFields
import SlackBridge.Proofs.TextForms
import SlackBridge.Settings.Load

/-!
# Where settings are given

Each setting may be given in several places: as an override, in variables of the environment, in a
section of a file, or by default. What is meant there is said for each setting on its own, and it
is what the program reads in that place.
-/

namespace SlackBridge.Proofs

open Settings

/-- The settings, with the types of their values. -/
inductive Setting : Type → Type
  | token : Setting Slack.Secret
  | signingSecret : Setting Slack.Secret
  | channel : Setting (Option String)
  | proxy : Setting (Option String)
  | retryReasonHeader : Setting String
  | retryNumberHeader : Setting String
  | ignoredRetryReasons : Setting (List String)
  | useThreads : Setting Bool
  | granularity : Setting Dialogue.Granularity
  | apiBaseUrl : Setting String
  | maxRequestAgeSecs : Setting ℕ
  | endpointUrl : Setting (Option String)
  | timeoutSecs : Setting ℕ
  | bindAddress : Setting String
  | port : Setting ℕ
  | gracefulShutdownSecs : Setting ℕ
  | logLevel : Setting String
  | logFormat : Setting LogFormat

/-- The value of a setting that is given nowhere. -/
def Setting.default : {α : Type} → Setting α → α
  | _, .token | _, .signingSecret => ⟨""⟩
  | _, .channel | _, .proxy | _, .endpointUrl => none
  | _, .retryReasonHeader => "x-slack-retry-reason"
  | _, .retryNumberHeader => "x-slack-retry-num"
  | _, .ignoredRetryReasons => ["http_timeout"]
  | _, .useThreads => false
  | _, .granularity => .sender
  | _, .apiBaseUrl => "https://slack.com/api"
  | _, .maxRequestAgeSecs => 300
  | _, .timeoutSecs => 30
  | _, .bindAddress => "0.0.0.0"
  | _, .port => 5005
  | _, .gracefulShutdownSecs => 15
  | _, .logLevel => "info"
  | _, .logFormat => .compact

/-- A text that counts as none when it is blank. -/
def unlessBlank (text : String) : Option String :=
  if Text.trim text = "" then none else some (Text.trim text)

/-- The value that the overrides give to a setting. -/
def Setting.override : {α : Type} → Setting α → Overrides → Option α
  | _, .token, o => o.token.map .mk
  | _, .signingSecret, o => o.signingSecret.map .mk
  | _, .channel, o => o.channel.map unlessBlank
  | _, .proxy, o => o.proxy.map unlessBlank
  | _, .useThreads, o => o.useThreads
  | _, .granularity, o => o.granularity
  | _, .endpointUrl, o => o.endpointUrl.map unlessBlank
  | _, .port, o => o.port
  | _, .logLevel, o => o.logLevel
  | _, .retryReasonHeader, _ | _, .retryNumberHeader, _ | _, .ignoredRetryReasons, _
  | _, .apiBaseUrl, _ | _, .maxRequestAgeSecs, _ | _, .timeoutSecs, _ | _, .bindAddress, _
  | _, .gracefulShutdownSecs, _ | _, .logFormat, _ => none

/-! ### The environment -/

/-- The variables that give a setting, the one that counts first. -/
def Setting.variables {α : Type} : Setting α → List String
  | .token => ["PARLEY_SLACK_TOKEN"]
  | .signingSecret => ["PARLEY_SLACK_SIGNING_SECRET"]
  | .channel => ["PARLEY_SLACK_CHANNEL"]
  | .proxy => ["PARLEY_SLACK_PROXY"]
  | .retryReasonHeader => ["PARLEY_SLACK_RETRY_REASON_HEADER"]
  | .retryNumberHeader => ["PARLEY_SLACK_RETRY_NUMBER_HEADER"]
  | .ignoredRetryReasons => ["PARLEY_SLACK_ERRORS_IGNORE_RETRY"]
  | .useThreads => ["PARLEY_SLACK_USE_THREADS"]
  | .granularity => ["PARLEY_SLACK_CONVERSATION_GRANULARITY"]
  | .apiBaseUrl => ["PARLEY_SLACK_API_BASE_URL"]
  | .maxRequestAgeSecs => ["PARLEY_SLACK_MAX_REQUEST_AGE_SECS"]
  | .endpointUrl => ["PARLEY_BOT_ENDPOINT_URL"]
  | .timeoutSecs => ["PARLEY_BOT_TIMEOUT_SECS"]
  | .bindAddress => ["PARLEY_SERVER_BIND_ADDRESS"]
  | .port => ["PARLEY_SERVER_PORT"]
  | .gracefulShutdownSecs => ["PARLEY_SERVER_GRACEFUL_SHUTDOWN_SECS"]
  | .logLevel => ["PARLEY_LOGGING_LEVEL", "PARLEY_LOG_LEVEL"]
  | .logFormat => ["PARLEY_LOGGING_FORMAT", "PARLEY_LOG_FORMAT"]

/-- The entries of a list between commas, trimmed and without the blank ones. -/
def Lists (text : String) (entries : List String) : Prop :=
  ∃ pieces : List (List Char), pieces ≠ [] ∧ text.toList = [','].intercalate pieces ∧
    (∀ p ∈ pieces, ',' ∉ p) ∧
    entries = ((pieces.map String.ofList).map Text.trim).filter (· ≠ "")

/-- A name in any case, with blanks around it. -/
def Names (text name : String) : Prop :=
  Text.lowerAscii (Text.trim text) = name

/-- Decimal digits after an optional plus sign, for a number within the bound. -/
def WritesNatural (bound : ℕ) (text : String) (n : ℕ) : Prop :=
  ∃ digits, (text.toList = digits ∨ text.toList = '+' :: digits) ∧ IsDecimal digits ∧
    decimalValue digits = n ∧ n ≤ bound

/-- What the value of a variable means for a setting. -/
def Setting.Denotes : {α : Type} → Setting α → String → α → Prop
  | _, .token, text, a | _, .signingSecret, text, a => a = ⟨text⟩
  | _, .channel, text, a | _, .proxy, text, a | _, .endpointUrl, text, a => a = some text
  | _, .retryReasonHeader, text, a | _, .retryNumberHeader, text, a | _, .apiBaseUrl, text, a
  | _, .bindAddress, text, a | _, .logLevel, text, a => a = text
  | _, .ignoredRetryReasons, text, a => Lists text a
  | _, .useThreads, text, a => Names text (toString a)
  | _, .granularity, text, a => Names text a.name
  | _, .logFormat, text, a => Names text a.name
  | _, .maxRequestAgeSecs, text, a | _, .timeoutSecs, text, a
  | _, .gracefulShutdownSecs, text, a => WritesNatural (2 ^ 64 - 1) text a
  | _, .port, text, a => WritesNatural (2 ^ 16 - 1) text a

/-- A variable that is missing or blank. -/
def IsUnset (env : Environment) (name : String) : Prop :=
  ∀ text, env name = some text → Text.trim text = ""

/-- The first of some variables that is not blank has the given value. -/
inductive FirstSet (env : Environment) : List String → String → Prop
  | here {name text : String} {rest : List String} (h : env name = some text)
      (hne : Text.trim text ≠ "") : FirstSet env (name :: rest) text
  | later {name text : String} {rest : List String} (h : IsUnset env name)
      (hrest : FirstSet env rest text) : FirstSet env (name :: rest) text

/-- What the environment gives for a setting. -/
inductive GivenByEnvironment {α : Type} (env : Environment) (k : Setting α) : Option α → Prop
  | unset (h : ∀ name ∈ k.variables, IsUnset env name) : GivenByEnvironment env k none
  | set {text : String} {a : α} (h : FirstSet env k.variables text) (ha : k.Denotes text a) :
      GivenByEnvironment env k (some a)

/-! ### A file -/

/-- The section of a file that holds a setting, with all of its keys in order. -/
def Setting.place {α : Type} : Setting α → String × List String
  | .endpointUrl | .timeoutSecs => ("bot", ["endpoint_url", "timeout_secs"])
  | .bindAddress | .port | .gracefulShutdownSecs =>
    ("server", ["bind_address", "port", "graceful_shutdown_secs"])
  | .logLevel | .logFormat => ("logging", ["level", "format"])
  | _ => ("slack", ["slack_token", "slack_signing_secret", "slack_channel", "proxy",
      "slack_retry_reason_header", "slack_retry_number_header", "errors_ignore_retry",
      "use_threads", "conversation_granularity", "api_base_url", "max_request_age_secs"])

def Setting.key {α : Type} : Setting α → String
  | .token => "slack_token"
  | .signingSecret => "slack_signing_secret"
  | .channel => "slack_channel"
  | .proxy => "proxy"
  | .retryReasonHeader => "slack_retry_reason_header"
  | .retryNumberHeader => "slack_retry_number_header"
  | .ignoredRetryReasons => "errors_ignore_retry"
  | .useThreads => "use_threads"
  | .granularity => "conversation_granularity"
  | .apiBaseUrl => "api_base_url"
  | .maxRequestAgeSecs => "max_request_age_secs"
  | .endpointUrl => "endpoint_url"
  | .timeoutSecs => "timeout_secs"
  | .bindAddress => "bind_address"
  | .port => "port"
  | .gracefulShutdownSecs => "graceful_shutdown_secs"
  | .logLevel => "level"
  | .logFormat => "format"

/-- A name in a file: a text, or a table whose only key is the name and whose value is empty. -/
inductive NamedBy (name : String) : Toml.Value → Prop
  | text : NamedBy name (.string name)
  | table {origin inner : Toml.Origin} : NamedBy name (.table origin [(name, .table inner [])])
  | array {origin : Toml.Origin} : NamedBy name (.table origin [(name, .array [])])

/-- What a value in a file means for a setting. -/
def Setting.Means : {α : Type} → Setting α → Toml.Value → α → Prop
  | _, .token, v, a | _, .signingSecret, v, a => v = .string a.reveal
  | _, .channel, v, a | _, .proxy, v, a | _, .endpointUrl, v, a =>
    ∃ text, v = .string text ∧ a = unlessBlank text
  | _, .retryReasonHeader, v, a | _, .retryNumberHeader, v, a | _, .apiBaseUrl, v, a
  | _, .bindAddress, v, a | _, .logLevel, v, a => v = .string a
  | _, .ignoredRetryReasons, v, a => v = .array (a.map .string)
  | _, .useThreads, v, a => v = .boolean a
  | _, .granularity, v, a => NamedBy a.name v
  | _, .logFormat, v, a => NamedBy a.name v
  | _, .maxRequestAgeSecs, v, a | _, .timeoutSecs, v, a
  | _, .gracefulShutdownSecs, v, a => v = .integer a ∧ a < 2 ^ 64
  | _, .port, v, a => v = .integer a ∧ a < 2 ^ 16

/-- What a section says for one of its keys. In a table the key stands itself; an array has a value
for each of the keys, in order; a time says nothing, and no other value can be a section. -/
inductive SectionSays (keys : List String) (key : String) : Toml.Value → Option Toml.Value → Prop
  | table {origin : Toml.Origin} {ms : Toml.Members} {said : Option Toml.Value}
      (h : ms.lookup key = said) : SectionSays keys key (.table origin ms) said
  | array {items : List Toml.Value} {said : Option Toml.Value}
      (hlength : keys.length ≤ items.length) (h : items[keys.idxOf key]? = said) :
      SectionSays keys key (.array items) said
  | tables {items : List Toml.Members} {said : Option Toml.Value}
      (hlength : keys.length ≤ items.length)
      (h : items[keys.idxOf key]?.map (.table .header) = said) :
      SectionSays keys key (.tables items) said
  | time {text : String} : SectionSays keys key (.datetime text) none

/-- What a document says for a setting. Without its section it says nothing. -/
inductive DocumentSays {α : Type} (doc : Toml.Members) (k : Setting α) : Option Toml.Value → Prop
  | missing (h : doc.lookup k.place.1 = none) : DocumentSays doc k none
  | found {v : Toml.Value} {said : Option Toml.Value} (h : doc.lookup k.place.1 = some v)
      (hsaid : SectionSays k.place.2 k.key v said) : DocumentSays doc k said

/-- What a document gives for a setting. Its section has to be readable. -/
inductive GivenByDocument {α : Type} (doc : Toml.Members) (k : Setting α) : Option α → Prop
  | absent (h : DocumentSays doc k none) : GivenByDocument doc k none
  | given {v : Toml.Value} {a : α} (h : DocumentSays doc k (some v)) (ha : k.Means v a) :
      GivenByDocument doc k (some a)

/-! ### Reading variables -/

lemma trimmed?_eq_unlessBlank : Text.trimmed? = unlessBlank := by
  funext text
  unfold Text.trimmed? unlessBlank
  by_cases hblank : Text.trim text = ""
  · rw [if_pos hblank, if_pos ((trim_eq_empty_iff text).mp hblank)]
  · rw [if_neg hblank, if_neg fun h => hblank ((trim_eq_empty_iff text).mpr h)]

section Reading

variable {α : Type}

/-- The reader for the variables of a setting. -/
def Setting.reader : {α : Type} → Setting α → String → Option α
  | _, .token, text | _, .signingSecret, text => some ⟨text⟩
  | _, .channel, text | _, .proxy, text | _, .endpointUrl, text => some (some text)
  | _, .retryReasonHeader, text | _, .retryNumberHeader, text | _, .apiBaseUrl, text
  | _, .bindAddress, text | _, .logLevel, text => some text
  | _, .ignoredRetryReasons, text => some (listEntries text)
  | _, .useThreads, text => truth? text
  | _, .granularity, text => Dialogue.Granularity.read? text
  | _, .logFormat, text => LogFormat.read? text
  | _, .maxRequestAgeSecs, text | _, .timeoutSecs, text | _, .gracefulShutdownSecs, text =>
    Text.natural? Text.maxWord text
  | _, .port, text => Text.natural? maxPort text

lemma splitAtChar_eq_splitOn (c : Char) (cs : List Char) :
    Text.splitAtChar (· == c) cs = cs.splitOn c := by
  induction cs with
  | nil => rfl
  | cons d cs ih =>
    rw [Text.splitAtChar, ih, List.splitOn_cons_eq_if_modifyHead]
    cases h : cs.splitOn c with
    | nil => exact absurd h (List.splitOnP_ne_nil _ cs)
    | cons piece rest => rfl

lemma notMem_of_mem_splitOn {c : Char} {cs p : List Char} (hp : p ∈ cs.splitOn c) : c ∉ p := by
  induction cs generalizing p with
  | nil =>
    rw [List.mem_singleton.mp hp]
    exact List.not_mem_nil
  | cons d cs ih =>
    rw [List.splitOn_cons_eq_if_modifyHead] at hp
    split_ifs at hp with hd
    · rcases List.mem_cons.mp hp with rfl | hrest
      · exact List.not_mem_nil
      · exact ih hrest
    · cases hsplit : cs.splitOn c with
      | nil => exact absurd hsplit (List.splitOnP_ne_nil _ cs)
      | cons piece rest =>
        rw [hsplit] at hp ih
        rcases List.mem_cons.mp hp with rfl | hrest
        · rw [List.mem_cons, not_or]
          refine ⟨?_, ih List.mem_cons_self⟩
          rintro rfl
          exact hd (beq_self_eq_true _)
        · exact ih (List.mem_cons_of_mem piece hrest)

/-- The pieces of a text between commas give its entries. -/
lemma listEntries_eq (text : String) : listEntries text =
    (((text.toList.splitOn ',').map String.ofList).map Text.trim).filter (· ≠ "") := by
  have hempty : ∀ p : List Char, Text.trimChars p ≠ [] ↔ Text.trim (String.ofList p) ≠ "" := by
    intro p
    unfold Text.trim
    rw [String.toList_ofList, not_iff_not, String.ofList_eq_empty_iff]
  unfold listEntries
  rw [splitAtChar_eq_splitOn, List.filter_map, List.map_map, List.map_map, List.filter_map]
  simp only [Function.comp_def, hempty]
  refine List.map_congr_left fun p _ => ?_
  unfold Text.trim
  rw [String.toList_ofList]

lemma listEntries_eq_iff (text : String) (entries : List String) :
    listEntries text = entries ↔ Lists text entries := by
  rw [listEntries_eq]
  constructor
  · rintro rfl
    exact ⟨text.toList.splitOn ',', List.splitOnP_ne_nil _ _, (List.intercalate_splitOn ',').symm,
      fun p hp => notMem_of_mem_splitOn hp, rfl⟩
  · rintro ⟨pieces, hne, htext, hcomma, rfl⟩
    rw [htext, List.splitOn_intercalate ',' hcomma hne]

lemma truth?_eq_some_iff (text : String) (b : Bool) :
    truth? text = some b ↔ Names text (toString b) := by
  unfold truth? Names
  constructor
  · intro h
    split at h
    · cases h
      assumption
    · cases h
      assumption
    · cases h
  · intro h
    rw [h]
    cases b <;> rfl

lemma granularity_ofName?_eq_some_iff (name : String) (g : Dialogue.Granularity) :
    Dialogue.Granularity.ofName? name = some g ↔ name = g.name := by
  constructor
  · intro h
    unfold Dialogue.Granularity.ofName? at h
    split at h <;> cases h <;> rfl
  · rintro rfl
    exact Dialogue.Granularity.ofName?_name g

lemma logFormat_ofName?_eq_some_iff (name : String) (f : LogFormat) :
    LogFormat.ofName? name = some f ↔ name = f.name := by
  constructor
  · intro h
    unfold LogFormat.ofName? at h
    split at h <;> cases h <;> rfl
  · rintro rfl
    cases f <;> rfl

lemma reader_eq_some_iff (k : Setting α) (text : String) (a : α) :
    k.reader text = some a ↔ k.Denotes text a := by
  cases k with
  | ignoredRetryReasons => exact Option.some_inj.trans (listEntries_eq_iff text a)
  | useThreads => exact truth?_eq_some_iff text a
  | granularity => exact granularity_ofName?_eq_some_iff _ a
  | logFormat => exact logFormat_ofName?_eq_some_iff _ a
  | maxRequestAgeSecs | timeoutSecs | gracefulShutdownSecs | port =>
    exact natural?_eq_some_iff _ text a
  | _ => exact Option.some_inj.trans eq_comm

lemma read?_eq_none_iff (env : Environment) (name : String) :
    env.read? name = none ↔ IsUnset env name := by
  unfold Environment.read? IsUnset
  simp only [Option.filter_eq_none_iff, Bool.not_eq_true', Bool.not_eq_false, trim_eq_empty_iff]

lemma read?_eq_some_iff (env : Environment) (name text : String) :
    env.read? name = some text ↔ env name = some text ∧ Text.trim text ≠ "" := by
  unfold Environment.read?
  simp only [Option.filter_eq_some_iff, Bool.not_eq_true', ne_eq, trim_eq_empty_iff,
    Bool.not_eq_true]

lemma readFirst?_eq_none_iff (env : Environment) (names : List String) :
    env.readFirst? names = none ↔ ∀ name ∈ names, IsUnset env name := by
  unfold Environment.readFirst?
  simp only [List.findSome?_eq_none_iff, read?_eq_none_iff]

lemma readFirst?_eq_some_iff (env : Environment) (names : List String) (text : String) :
    env.readFirst? names = some text ↔ FirstSet env names text := by
  unfold Environment.readFirst?
  constructor
  · intro h
    induction names with
    | nil => cases h
    | cons name rest ih =>
      rw [List.findSome?_cons] at h
      split at h
      · next found hfound =>
        cases h
        obtain ⟨hset, hne⟩ := (read?_eq_some_iff env name text).mp hfound
        exact .here hset hne
      · next hnone => exact .later ((read?_eq_none_iff env name).mp hnone) (ih h)
  · intro h
    induction h with
    | here hset hne => rw [List.findSome?_cons, (read?_eq_some_iff env _ _).mpr ⟨hset, hne⟩]
    | later hunset _ ih => rw [List.findSome?_cons, (read?_eq_none_iff env _).mpr hunset, ih]

/-- What is read from the first of some variables that is not blank; nothing if it is not
readable. -/
def readFrom? (env : Environment) (names : List String) (read? : String → Option α) :
    Option (Option α) :=
  match env.readFirst? names with
  | none => some none
  | some text => (read? text).map some

lemma readFrom?_eq_some_iff (env : Environment) (k : Setting α) (given : Option α) :
    readFrom? env k.variables k.reader = some given ↔ GivenByEnvironment env k given := by
  unfold readFrom?
  constructor
  · intro h
    split at h
    · next hnone =>
      cases h
      exact .unset ((readFirst?_eq_none_iff env _).mp hnone)
    · next text htext =>
      obtain ⟨a, ha, rfl⟩ := Option.map_eq_some_iff.mp h
      exact .set ((readFirst?_eq_some_iff env _ text).mp htext)
        ((reader_eq_some_iff k text a).mp ha)
  · intro h
    cases h with
    | unset h => rw [(readFirst?_eq_none_iff env _).mpr h]
    | @set text a h ha =>
      rw [(readFirst?_eq_some_iff env _ text).mpr h]
      dsimp only
      rw [(reader_eq_some_iff k text a).mpr ha, Option.map_some]

lemma readFirst?_congr {env env' : Environment} {names : List String}
    (h : ∀ name ∈ names, env.read? name = env'.read? name) :
    env.readFirst? names = env'.readFirst? names := by
  induction names with
  | nil => rfl
  | cons name rest ih =>
    unfold Environment.readFirst? at ih ⊢
    rw [List.findSome?_cons, List.findSome?_cons, h name List.mem_cons_self,
      ih fun other hother => h other (List.mem_cons_of_mem _ hother)]

lemma readFrom?_congr {env env' : Environment} {names : List String}
    (h : ∀ name ∈ names, env name = env' name) (read? : String → Option α) :
    readFrom? env names read? = readFrom? env' names read? := by
  have hfirst : env.readFirst? names = env'.readFirst? names := by
    refine readFirst?_congr fun name hname => ?_
    unfold Environment.read?
    rw [h name hname]
  unfold readFrom?
  rw [hfirst]

lemma readFirst?_singleton (env : Environment) (name : String) :
    env.readFirst? [name] = env.read? name := by
  unfold Environment.readFirst?
  rw [List.findSome?_cons, List.findSome?_nil]
  cases env.read? name <;> rfl

/-- Where every text can be read, what is read is what the variable says. -/
lemma readFrom?_some (env : Environment) (names : List String) (f : String → α) :
    readFrom? env names (fun text => some (f text)) = some ((env.readFirst? names).map f) := by
  unfold readFrom?
  cases env.readFirst? names <;> rfl

lemma readFrom?_one (env : Environment) (name : String) (f : String → α) :
    readFrom? env [name] (fun text => some (f text)) = some ((env.read? name).map f) := by
  rw [readFrom?_some, readFirst?_singleton]

lemma readFrom?_text (env : Environment) (names : List String) :
    readFrom? env names some = some (env.readFirst? names) := by
  have htext := readFrom?_some env names id
  rwa [Option.map_id] at htext

lemma parsed_eq_ok_iff (env : Environment) (name : String) (read? : String → Option α)
    (given : Option α) :
    parsed env name read? = .ok given ↔ readFrom? env [name] read? = some given := by
  unfold parsed readFrom?
  rw [readFirst?_singleton]
  cases env.read? name with
  | none => simp
  | some text => cases h : read? text <;> simp [h]

lemma namedFormat_eq_ok_iff (env : Environment) (given : Option LogFormat) :
    namedFormat env = .ok given ↔
      readFrom? env logFormatVariables LogFormat.read? = some given := by
  unfold namedFormat readFrom?
  cases env.readFirst? logFormatVariables with
  | none => simp
  | some text => cases h : LogFormat.read? text <;> simp [h]

end Reading

/-! ### Reading a document -/

section Document

variable {α : Type}

/-- The reader for the values of a setting in a file. -/
def Setting.ofToml? : {α : Type} → Setting α → Toml.Value → Option α
  | _, .token, v | _, .signingSecret, v => (string? v).map .mk
  | _, .channel, v | _, .proxy, v | _, .endpointUrl, v => (string? v).map unlessBlank
  | _, .retryReasonHeader, v | _, .retryNumberHeader, v | _, .apiBaseUrl, v | _, .bindAddress, v
  | _, .logLevel, v => string? v
  | _, .ignoredRetryReasons, v => strings? v
  | _, .useThreads, v => boolean? v
  | _, .granularity, v => named? Dialogue.Granularity.ofName? v
  | _, .logFormat, v => named? LogFormat.ofName? v
  | _, .maxRequestAgeSecs, v | _, .timeoutSecs, v | _, .gracefulShutdownSecs, v =>
    natural? (2 ^ 64 - 1) v
  | _, .port, v => natural? (2 ^ 16 - 1) v

lemma string?_eq_some_iff (v : Toml.Value) (text : String) :
    string? v = some text ↔ v = .string text := by
  cases v <;> simp [string?]

lemma boolean?_eq_some_iff (v : Toml.Value) (b : Bool) :
    boolean? v = some b ↔ v = .boolean b := by
  cases v <;> simp [boolean?]

lemma natural?_value_eq_some_iff (bound : ℕ) (v : Toml.Value) (n : ℕ) :
    natural? bound v = some n ↔ v = .integer n ∧ n ≤ bound := by
  cases v with
  | integer i =>
    simp only [natural?, Option.ite_none_right_eq_some, Option.some.injEq, Toml.Value.integer.injEq]
    omega
  | _ => simp [natural?]

lemma strings?_eq_some_iff (v : Toml.Value) (texts : List String) :
    strings? v = some texts ↔ v = .array (texts.map .string) := by
  cases v with
  | array items =>
    simp only [strings?, mapM_eq_some_iff, string?_eq_some_iff, Toml.Value.array.injEq]
    rw [← List.forall₂_map_right_iff, List.forall₂_eq_eq_eq]
  | _ => simp [strings?]

lemma named?_eq_some_iff {ofName? : String → Option α} {name : α → String}
    (hname : ∀ text a, ofName? text = some a ↔ text = name a) (v : Toml.Value) (a : α) :
    named? ofName? v = some a ↔ NamedBy (name a) v := by
  constructor
  · intro h
    unfold named? at h
    split at h
    · cases (hname _ a).mp h
      exact .text
    · cases (hname _ a).mp h
      exact .table
    · cases (hname _ a).mp h
      exact .array
    · cases h
  · intro h
    cases h with
    | text | table | array => exact (hname _ a).mpr rfl

lemma ofToml?_eq_some_iff (k : Setting α) (v : Toml.Value) (a : α) :
    k.ofToml? v = some a ↔ k.Means v a := by
  cases k with
  | token | signingSecret =>
    refine Option.map_eq_some_iff.trans ⟨?_, fun h => ⟨_, (string?_eq_some_iff v _).mpr h, rfl⟩⟩
    rintro ⟨text, htext, rfl⟩
    exact (string?_eq_some_iff v text).mp htext
  | channel | proxy | endpointUrl =>
    refine Option.map_eq_some_iff.trans (exists_congr fun text => ?_)
    exact and_congr (string?_eq_some_iff v text) eq_comm
  | ignoredRetryReasons => exact strings?_eq_some_iff v a
  | useThreads => exact boolean?_eq_some_iff v a
  | granularity => exact named?_eq_some_iff granularity_ofName?_eq_some_iff v a
  | logFormat => exact named?_eq_some_iff logFormat_ofName?_eq_some_iff v a
  | maxRequestAgeSecs | timeoutSecs | gracefulShutdownSecs | port =>
    exact (natural?_value_eq_some_iff _ v a).trans (and_congr_right' Nat.le_iff_lt_add_one)
  | _ => exact string?_eq_some_iff v a

/-- What is read in the place of a setting. -/
def readIn? (doc : Toml.Members) (k : Setting α) : Option (Option α) :=
  (docSection? k.place.1 k.place.2 doc).bind (field? k.key k.ofToml?)

lemma key_mem_place (k : Setting α) : k.key ∈ k.place.2 := by
  cases k <;> decide

lemma sectionSays_iff {keys : List String} {key : String} (hkey : key ∈ keys) (v : Toml.Value)
    (said : Option Toml.Value) : SectionSays keys key v said ↔
      ∃ ms, sectionMembers? keys v = some ms ∧ ms.lookup key = said := by
  constructor
  · intro h
    cases h with
    | table h => exact ⟨_, rfl, h⟩
    | array hlength h => exact ⟨_, if_pos hlength, (lookup_zip hkey _).trans h⟩
    | tables hlength h =>
      refine ⟨_, if_pos hlength, ?_⟩
      rw [lookup_zip hkey, List.getElem?_map, h]
    | time => exact ⟨_, rfl, rfl⟩
  · rintro ⟨ms, hms, rfl⟩
    cases v with
    | table origin members =>
      cases hms
      exact .table rfl
    | array items =>
      obtain ⟨hlength, heq⟩ := Option.ite_none_right_eq_some.mp hms
      cases heq
      exact .array hlength (lookup_zip hkey _).symm
    | tables items =>
      obtain ⟨hlength, heq⟩ := Option.ite_none_right_eq_some.mp hms
      cases heq
      refine .tables hlength ?_
      rw [lookup_zip hkey, List.getElem?_map]
    | datetime text =>
      cases hms
      exact .time
    | _ => cases hms

lemma documentSays_iff (doc : Toml.Members) (k : Setting α) (said : Option Toml.Value) :
    DocumentSays doc k said ↔
      ∃ ms, docSection? k.place.1 k.place.2 doc = some ms ∧ ms.lookup k.key = said := by
  unfold docSection?
  constructor
  · intro h
    cases h with
    | missing h => exact ⟨[], by rw [h], rfl⟩
    | found h hsaid =>
      rw [h]
      exact (sectionSays_iff (key_mem_place k) _ _).mp hsaid
  · cases h : doc.lookup k.place.1 with
    | none =>
      rintro ⟨ms, hms, rfl⟩
      cases hms
      exact .missing h
    | some v => exact fun hsaid => .found h ((sectionSays_iff (key_mem_place k) _ _).mpr hsaid)

lemma DocumentSays.unique {doc : Toml.Members} {k : Setting α} {said said' : Option Toml.Value}
    (h : DocumentSays doc k said) (h' : DocumentSays doc k said') : said = said' := by
  obtain ⟨ms, hs, rfl⟩ := (documentSays_iff doc k said).mp h
  obtain ⟨ms', hs', rfl⟩ := (documentSays_iff doc k said').mp h'
  cases hs.symm.trans hs'
  rfl

lemma readIn?_eq_some_iff (doc : Toml.Members) (k : Setting α) (given : Option α) :
    readIn? doc k = some given ↔ GivenByDocument doc k given := by
  unfold readIn? field?
  rw [Option.bind_eq_some_iff]
  constructor
  · rintro ⟨ms, hs, h⟩
    split at h
    · next hnone =>
      cases h
      exact .absent ((documentSays_iff doc k _).mpr ⟨ms, hs, hnone⟩)
    · next v hv =>
      obtain ⟨a, ha, rfl⟩ := Option.map_eq_some_iff.mp h
      have hsaid := (documentSays_iff doc k _).mpr ⟨ms, hs, hv⟩
      exact .given hsaid ((ofToml?_eq_some_iff k v a).mp ha)
  · intro h
    cases h with
    | absent h =>
      obtain ⟨ms, hs, hnone⟩ := (documentSays_iff doc k _).mp h
      exact ⟨ms, hs, by rw [hnone]⟩
    | given h ha =>
      obtain ⟨ms, hs, hv⟩ := (documentSays_iff doc k _).mp h
      refine ⟨ms, hs, ?_⟩
      rw [hv]
      dsimp only
      rw [(ofToml?_eq_some_iff k _ _).mpr ha, Option.map_some]

/-- What is read of a field and then changed. -/
lemma field?_map {β : Type} {key : String} {read? : Toml.Value → Option α} {ms : Toml.Members}
    {given : Option α} (h : field? key read? ms = some given) (f : α → β) :
    field? key (fun v => (read? v).map f) ms = some (given.map f) := by
  unfold field? at h ⊢
  split at h
  · cases h
    rfl
  · obtain ⟨a, ha, rfl⟩ := Option.map_eq_some_iff.mp h
    dsimp only
    rw [ha]
    rfl

/-- A field of a readable section is read in its place. -/
lemma readIn?_of_field? {doc ms : Toml.Members} (k : Setting α)
    (hs : docSection? k.place.1 k.place.2 doc = some ms) {given : Option α}
    (h : field? k.key k.ofToml? ms = some given) : readIn? doc k = some given := by
  unfold readIn?
  rw [hs, Option.bind_some, h]

lemma exists_field?_of_map {β : Type} {key : String} {read? : Toml.Value → Option α}
    {ms : Toml.Members} {f : α → β}
    (h : ∃ given, field? key (fun v => (read? v).map f) ms = some given) :
    ∃ given, field? key read? ms = some given := by
  obtain ⟨given, h⟩ := h
  unfold field? at h ⊢
  split at h
  · exact ⟨none, rfl⟩
  · obtain ⟨_, hb, rfl⟩ := Option.map_eq_some_iff.mp h
    obtain ⟨a, ha, rfl⟩ := Option.map_eq_some_iff.mp hb
    exact ⟨some a, by rw [ha, Option.map_some]⟩

end Document

end SlackBridge.Proofs
