import SlackBridge.Proofs.OptionalTexts
import SlackBridge.Proofs.Trimming

/-!
# Lists of reasons

A variable gives the reasons to drop a redelivery for as a list between commas, a file as an array
of texts. The list between commas can hold every reason without commas that is not blank and has no
blanks around it, and nothing else. So the check never refuses a list from the variable, and the
same array in a file leads to the same settings.
-/

namespace SlackBridge.Proofs

open Settings Toml

/-- A text that can stand between commas as it is. -/
structure IsListable (entry : String) : Prop where
  trimmed : Text.trim entry = entry
  not_empty : entry ≠ ""
  no_comma : ',' ∉ entry.toList

/-- Some texts as the pieces of a list, in order. There may be blanks around each of them and blank
pieces anywhere. -/
inductive Spreads : List String → List String → Prop
  | none : Spreads [] []
  | blank {entries pieces : List String} {blank : String}
      (hblank : Text.isBlankText blank = true) (h : Spreads entries pieces) :
      Spreads entries (blank :: pieces)
  | entry {entries pieces : List String} (front entry back : String)
      (hfront : Text.isBlankText front = true) (hback : Text.isBlankText back = true)
      (h : Spreads entries pieces) :
      Spreads (entry :: entries) ((front ++ entry ++ back) :: pieces)

/-- The texts are joined by commas. -/
def Joins (text : String) (entries : List String) : Prop :=
  ∃ pieces, Spreads entries pieces ∧ text = ",".intercalate pieces

/-- The variable that gives the list. -/
def listVariable : String := "PARLEY_SLACK_ERRORS_IGNORE_RETRY"

/-- The list is given in its variable in the one surroundings, and as an array in the file in the
others, which are the same otherwise. -/
structure ListedOnce (text : String) (w w' : Surroundings) (o : Options) (doc doc' : Members) :
    Prop where
  set : w.env listVariable = some text
  not_blank : Text.trim text ≠ ""
  unset : IsUnset w'.env listVariable
  env_eq : ∀ name, name ≠ listVariable → w'.env name = w.env name
  document : HoldsDocument w o doc
  document_file : HoldsDocument w' o doc'
  readable : ∃ given, GivenByDocument doc .ignoredRetryReasons given
  written : DocumentSays doc' .ignoredRetryReasons
    (some (.array ((listEntries text).map .string)))
  others : ∀ {α : Type} (other : Setting α), other.key ≠ Setting.ignoredRetryReasons.key →
    ∀ given, GivenByDocument doc' other given ↔ GivenByDocument doc other given

/-- An item of an array, with an escape for each character, and the comma behind it. -/
def itemText (entry : String) : List Char :=
  '"' :: (entry.toList.flatMap escapeOf ++ ['"', ','])

/-- A file that gives the list and nothing else. -/
def listFile (entries : List String) : String :=
  String.ofList ("[slack]\n".toList ++ ("errors_ignore_retry".toList ++
    (" = ".toList ++ '[' :: (entries.flatMap itemText ++ [']', '\n']))))

/-- The document of that file. -/
def listDocument (entries : List String) : Members :=
  [("slack", .table .header [("errors_ignore_retry", .array (entries.map .string))])]

/-- The surroundings, with a list in the usual file and none in its variable. -/
def withListFile (w : Surroundings) (entries : List String) : Surroundings where
  env := Function.update w.env listVariable none
  entry? := Function.update w.entry? "parley.toml" (some (.file (Text.utf8 (listFile entries))))

lemma toList_listFile (entries : List String) : (listFile entries).toList =
    "[slack]\n".toList ++ ("errors_ignore_retry".toList ++
      (" = ".toList ++ '[' :: (entries.flatMap itemText ++ [']', '\n']))) :=
  String.toList_ofList

lemma withListFile_env (w : Surroundings) (entries : List String) :
    (withListFile w entries).env = Function.update w.env listVariable none :=
  rfl

/-! ### Entries -/

section Entries

variable {entry front back : String} {entries pieces : List String}

lemma comma_notMem_of_blank {blank : String} (h : Text.isBlankText blank = true) :
    ',' ∉ blank.toList :=
  notMem_of_blank (List.all_eq_true.mp h) (by decide)

lemma IsListable.trim_around (h : IsListable entry) (hfront : Text.isBlankText front = true)
    (hback : Text.isBlankText back = true) : Text.trim (front ++ entry ++ back) = entry := by
  have hsolid : Text.trimChars entry.toList = entry.toList := by
    have htrimmed := congrArg String.toList h.trimmed
    rwa [Text.trim, String.toList_ofList] at htrimmed
  have hne : entry.toList ≠ [] := fun hnil => h.not_empty (String.toList_eq_nil_iff.mp hnil)
  refine SlackBridge.Proofs.trim_around hfront hback ?_ ?_ hne
  · rw [← hsolid]
    exact startsSolid_trimChars _
  · rw [← hsolid]
    exact endsSolid_trimChars _

lemma Spreads.comma_notMem (h : Spreads entries pieces) (hentries : ∀ e ∈ entries, IsListable e) :
    ∀ p ∈ pieces, ',' ∉ p.toList := by
  induction h with
  | none => exact List.forall_mem_nil _
  | blank hblank h ih => exact List.forall_mem_cons.mpr ⟨comma_notMem_of_blank hblank, ih hentries⟩
  | entry front entry back hfront hback h ih =>
    obtain ⟨hentry, hrest⟩ := List.forall_mem_cons.mp hentries
    refine List.forall_mem_cons.mpr ⟨?_, ih hrest⟩
    rw [String.toList_append, String.toList_append, List.mem_append, List.mem_append, not_or,
      not_or]
    exact ⟨⟨comma_notMem_of_blank hfront, hentry.no_comma⟩, comma_notMem_of_blank hback⟩

/-- The entries are what is left of the pieces when they are trimmed. -/
lemma Spreads.eq_filter (h : Spreads entries pieces) (hentries : ∀ e ∈ entries, IsListable e) :
    (pieces.map Text.trim).filter (· ≠ "") = entries := by
  induction h with
  | none => rfl
  | blank hblank h ih =>
    rw [List.map_cons, List.filter_cons_of_neg, ih hentries]
    simpa using (trim_eq_empty_iff _).mpr hblank
  | entry front entry back hfront hback h ih =>
    obtain ⟨hentry, hrest⟩ := List.forall_mem_cons.mp hentries
    rw [List.map_cons, hentry.trim_around hfront hback, List.filter_cons_of_pos, ih hrest]
    simpa using hentry.not_empty

lemma isListable_trim {piece : String} (hcomma : ',' ∉ piece.toList)
    (hne : Text.trim piece ≠ "") : IsListable (Text.trim piece) where
  trimmed := trim_trim piece
  not_empty := hne
  no_comma hmem := by
    rw [Text.trim, String.toList_ofList] at hmem
    exact hcomma ((isInfix_trimChars _).subset hmem)

/-- Pieces without commas hold entries, whatever they are. -/
lemma spreads_filter (hcomma : ∀ p ∈ pieces, ',' ∉ p.toList) :
    Spreads ((pieces.map Text.trim).filter (· ≠ "")) pieces := by
  induction pieces with
  | nil => exact .none
  | cons piece pieces ih =>
    have hrest := ih (List.forall_mem_cons.mp hcomma).2
    rw [List.map_cons]
    by_cases hblank : Text.trim piece = ""
    · rw [List.filter_cons_of_neg (by simpa using hblank)]
      exact .blank ((trim_eq_empty_iff _).mp hblank) hrest
    · rw [List.filter_cons_of_pos (by simpa using hblank)]
      obtain ⟨front, back, hpiece, hfront, hback⟩ := exists_around_trim piece
      have hspread := Spreads.entry front (Text.trim piece) back hfront hback hrest
      rwa [← hpiece] at hspread

lemma lists_iff_joins (text : String) (entries : List String) :
    Lists text entries ↔ (∀ e ∈ entries, IsListable e) ∧ Joins text entries := by
  constructor
  · rintro ⟨pieces, -, htext, hcomma, rfl⟩
    have hcomma' : ∀ p ∈ pieces.map String.ofList, ',' ∉ p.toList := by
      rw [List.forall_mem_map]
      intro p hp
      rw [String.toList_ofList]
      exact hcomma p hp
    refine ⟨fun entry hentry => ?_, pieces.map String.ofList, spreads_filter hcomma', ?_⟩
    · obtain ⟨hmem, hne⟩ := List.mem_filter.mp hentry
      obtain ⟨piece, hpiece, rfl⟩ := List.mem_map.mp hmem
      exact isListable_trim (hcomma' piece hpiece) (by simpa using hne)
    · have hpieces : (pieces.map String.ofList).map String.toList = pieces := by simp
      rw [← String.toList_inj, htext, String.toList_intercalate, hpieces]
      rfl
  · rintro ⟨hentries, pieces, hspread, rfl⟩
    have hpieces : (pieces.map String.toList).map String.ofList = pieces := by simp
    have hcomma : ∀ p ∈ pieces.map String.toList, ',' ∉ p :=
      List.forall_mem_map.mpr (hspread.comma_notMem hentries)
    cases pieces with
    | nil => exact ⟨[[]], List.cons_ne_nil _ _, rfl, by simp, (hspread.eq_filter hentries).symm⟩
    | cons piece pieces =>
      refine ⟨_, List.cons_ne_nil _ _, String.toList_intercalate, hcomma, ?_⟩
      rw [← List.map_cons, hpieces, hspread.eq_filter hentries]

lemma isListable_of_mem_listEntries {text : String} (h : entry ∈ listEntries text) :
    IsListable entry :=
  ((lists_iff_joins text _).mp ((listEntries_eq_iff text _).mp rfl)).1 entry h

lemma IsListable.trim_ne (h : IsListable entry) : Text.trim entry ≠ "" := by
  rw [h.trimmed]
  exact h.not_empty

end Entries

/-! ### The check -/

section Checking

variable {w : Surroundings} {o : Options} {s : Settings}

lemma bind_eq_error_iff {ε α β : Type} (x : Except ε α) (f : α → Except ε β) (e : ε) :
    (x >>= f) = .error e ↔ x = .error e ∨ ∃ a, x = .ok a ∧ f a = .error e := by
  cases x with
  | error e' => simp [bind, Except.bind]
  | ok a => simp [bind, Except.bind]

lemma require_eq_error_iff (ok : Bool) (v v' : Violation) :
    require ok v = .error v' ↔ ok = false ∧ v = v' := by
  cases ok <;> simp [require]

lemma checkProxy_ne_blankRetryReason (proxy : Option String) :
    checkProxy proxy ≠ .error .blankRetryReason := by
  unfold checkProxy
  split
  · simp
  · split <;> simp [require_eq_error_iff]

/-- Only a blank reason makes the check refuse the list. -/
lemma exists_blank_of_check (h : s.check = .error .blankRetryReason) :
    ∃ reason ∈ s.slack.ignoredRetryReasons, Text.trim reason = "" := by
  unfold Settings.check ForSlack.check checkToken checkHeader ForBot.check ForServer.check
    ForLog.check at h
  simp only [bind_eq_error_iff, require_eq_error_iff, checkProxy_ne_blankRetryReason, reduceCtorEq,
    and_false, exists_false, or_false, false_or] at h
  obtain ⟨_, -, _, -, _, -, _, -, _, -, hreasons, -⟩ := h
  obtain ⟨reason, hmem, hblank⟩ := List.all_eq_false.mp hreasons
  refine ⟨reason, hmem, (trim_eq_empty_iff reason).mpr ?_⟩
  rwa [Bool.not_eq_true, Bool.not_eq_false'] at hblank

lemma interpolate_ne_refused (env : Environment) (v : Violation) (cs : List Char) :
    interpolate env cs ≠ .error (.refused v) := by
  have hmap : ∀ {x : Except Problem (List Char)} (f : List Char → List Char),
      x ≠ .error (.refused v) → x.map f ≠ .error (.refused v) := by
    intro x f hx
    cases x with
    | error e => simpa [Except.map] using hx
    | ok cs => simp [Except.map]
  fun_induction interpolate env cs with
  | case1 => simp
  | case2 => simp
  | case3 => simp
  | case4 cs c rest hrest name value hvalue ih => exact hmap _ ih
  | case5 c cs h ih => exact hmap _ ih

lemma anyFileLayer_ne_refused (w : Surroundings) (path? : Option String) (required : Bool)
    (v : Violation) : w.anyFileLayer path? required ≠ .error (.refused v) := by
  unfold Surroundings.anyFileLayer Surroundings.fileLayer
  split
  · split
    · simp
    · simp
    · rw [ne_eq, bind_eq_error_iff]
      rintro (hinterpolate | ⟨resolved, -, hread⟩)
      · exact interpolate_ne_refused _ v _ hinterpolate
      · split at hread <;> cases hread
  · split <;> simp

lemma parsed_ne_refused {α : Type} (env : Environment) (name : String)
    (read? : String → Option α) (v : Violation) :
    parsed env name read? ≠ .error (.refused v) := by
  unfold parsed
  split
  · simp
  · split <;> simp

lemma namedFormat_ne_blankRetryReason (env : Environment) :
    namedFormat env ≠ .error (.refused .blankRetryReason) := by
  unfold namedFormat
  split
  · simp
  · split <;> simp

/-- Whatever goes wrong before the check is no refusal of the list. -/
lemma gathered_ne_blankRetryReason (w : Surroundings) (o : Options) :
    gathered w o ≠ .error (.refused .blankRetryReason) := by
  unfold gathered Layer.ofEnvironment
  simp only [ne_eq, bind_eq_error_iff, anyFileLayer_ne_refused, parsed_ne_refused,
    namedFormat_ne_blankRetryReason, pure, Except.pure, reduceCtorEq, and_false, exists_false,
    or_false, not_false_iff]

end Checking

/-! ### Loading -/

section Loading

variable {w w' : Surroundings} {o : Options} {doc doc' : Members} {text : String} {s : Settings}

lemma HoldsDocument.unique (h : HoldsDocument w o doc) (h' : HoldsDocument w o doc') :
    doc = doc' := by
  cases h with
  | absent hnone =>
    cases h' with
    | absent => rfl
    | file hpath => cases hnone.symm.trans hpath
  | file hpath hentry htext hresolved hdoc =>
    have hfile : FileText w o.path _ _ := ⟨hpath, _, hentry, htext⟩
    exact Option.some.inj (hdoc.symm.trans ((hfile.holdsDocument_iff hresolved).mp h'))

/-- The settings that are gathered have the values of the highest layers. -/
lemma hasLayers_of_gathered (h : gathered w o = .ok s) : ∃ doc, HoldsDocument w o doc ∧
    ∀ {α : Type} (k : Setting α), HasLayers w o doc k (k.value s) := by
  unfold gathered at h
  simp only [bind_eq_ok_iff] at h
  obtain ⟨file, hfile, env, henv, hs⟩ := h
  obtain ⟨doc, hdoc, hlayer⟩ := (anyFileLayer_eq_ok_iff w o file).mp hfile
  cases Except.ok.inj hs
  refine ⟨doc, hdoc, fun k => ⟨k.said file, k.said env, ?_, ?_, value_ofLayers k file env _⟩⟩
  · exact (readIn?_eq_some_iff doc k _).mp (readIn?_of_ofDocument hlayer k)
  · exact (readFrom?_eq_some_iff w.env k _).mp (readFrom?_of_ofEnvironment henv k)

lemma givenByEnvironment_list (hset : w.env listVariable = some text) (hne : Text.trim text ≠ "") :
    GivenByEnvironment w.env .ignoredRetryReasons (some (listEntries text)) :=
  .set (.here hset hne) ((listEntries_eq_iff text _).mp rfl)

/-- A list in the variable counts, whatever the file says. -/
lemma hasLayers_of_set (hset : w.env listVariable = some text) (hne : Text.trim text ≠ "")
    {reasons : List String} (h : HasLayers w o doc .ignoredRetryReasons reasons) :
    reasons = listEntries text := by
  obtain ⟨file, env, -, henv, rfl⟩ := h
  rw [henv.unique (givenByEnvironment_list hset hne)]
  rfl

namespace ListedOnce

/-- Without the variable the array in the file counts. -/
lemma hasLayers_list (h : ListedOnce text w w' o doc doc') (reasons : List String) :
    HasLayers w' o doc' .ignoredRetryReasons reasons ↔
      HasLayers w o doc .ignoredRetryReasons reasons := by
  obtain ⟨given, hgiven⟩ := h.readable
  have hvariable := givenByEnvironment_list h.set h.not_blank
  have hnone : GivenByEnvironment w'.env Setting.ignoredRetryReasons none :=
    .unset fun name hname => List.mem_singleton.mp hname ▸ h.unset
  have harray : GivenByDocument doc' .ignoredRetryReasons (some (listEntries text)) :=
    .given h.written rfl
  rw [hasLayers_iff_of_given harray hnone, hasLayers_iff_of_given hgiven hvariable]
  rfl

lemma givenByEnvironment_iff (h : ListedOnce text w w' o doc doc') {α : Type} {k : Setting α}
    (hk : k.key ≠ Setting.ignoredRetryReasons.key) (given : Option α) :
    GivenByEnvironment w'.env k given ↔ GivenByEnvironment w.env k given := by
  have hforeign : listVariable ∉ k.variables := by
    cases k with
    | ignoredRetryReasons => exact absurd rfl hk
    | _ => decide
  have hsame : ∀ name ∈ k.variables, w'.env name = w.env name :=
    fun name hname => h.env_eq name fun heq => hforeign (heq ▸ hname)
  rw [← readFrom?_eq_some_iff, ← readFrom?_eq_some_iff, readFrom?_congr hsame]

lemma hasLayers_iff (h : ListedOnce text w w' o doc doc') {α : Type} (k : Setting α) :
    ∀ a, HasLayers w' o doc' k a ↔ HasLayers w o doc k a := by
  refine forall_setting .ignoredRetryReasons
    (P := fun k => ∀ a, HasLayers w' o doc' k a ↔ HasLayers w o doc k a)
    h.hasLayers_list (fun k hk a => ?_) k
  unfold HasLayers
  simp only [h.others k hk, h.givenByEnvironment_iff hk]

/-- Both surroundings lead to the same settings, or to none. -/
lemma load_iff (h : ListedOnce text w w' o doc doc') (s : Settings) :
    load w o = .ok s ↔ load w' o = .ok s := by
  rw [load_eq_ok_iff_layers, load_eq_ok_iff_layers]
  refine and_congr_right fun _ => ?_
  constructor
  · rintro ⟨other, hother, hlayers⟩
    cases hother.unique h.document
    exact ⟨doc', h.document_file, fun k => (h.hasLayers_iff k _).mpr (hlayers k)⟩
  · rintro ⟨other, hother, hlayers⟩
    cases hother.unique h.document_file
    exact ⟨doc, h.document, fun k => (h.hasLayers_iff k _).mp (hlayers k)⟩

end ListedOnce

/-- The entries of a list between commas pass the check, wherever they are given. -/
lemma load_ne_blankRetryReason
    (h : ∀ s, gathered w o = .ok s → s.slack.ignoredRetryReasons = listEntries text) :
    load w o ≠ .error (.refused .blankRetryReason) := by
  rw [load_eq_bind]
  cases hgathered : gathered w o with
  | error e => exact fun herror => gathered_ne_blankRetryReason w o (hgathered.trans herror)
  | ok s =>
    intro herror
    have hchecked : checked s = .error (.refused .blankRetryReason) := herror
    unfold checked at hchecked
    split at hchecked
    · cases hchecked
    · next v hcheck =>
      cases hchecked
      obtain ⟨reason, hmem, hblank⟩ := exists_blank_of_check hcheck
      rw [h s hgathered] at hmem
      exact (isListable_of_mem_listEntries hmem).trim_ne hblank

lemma list_of_gathered (hset : w.env listVariable = some text) (hne : Text.trim text ≠ "")
    (h : gathered w o = .ok s) : s.slack.ignoredRetryReasons = listEntries text := by
  obtain ⟨doc, -, hlayers⟩ := hasLayers_of_gathered h
  exact hasLayers_of_set hset hne (hlayers .ignoredRetryReasons)

lemma ListedOnce.list_of_gathered (h : ListedOnce text w w' o doc doc')
    (hs : gathered w' o = .ok s) : s.slack.ignoredRetryReasons = listEntries text := by
  obtain ⟨other, hother, hlayers⟩ := hasLayers_of_gathered hs
  cases hother.unique h.document_file
  exact hasLayers_of_set h.set h.not_blank
    ((h.hasLayers_iff .ignoredRetryReasons _).mp (hlayers .ignoredRetryReasons))

end Loading

/-! ### A file for every list -/

section Files

variable {entries : List String}

lemma items?_itemText (room : ℕ) (hne : ∀ e ∈ entries, e ≠ "") (done : List Value)
    (rest : List Char) :
    items? (value? (room + 1)) (entries.length + 1) done (entries.flatMap itemText ++ ']' :: rest) =
      some (done.reverse ++ entries.map .string, rest) := by
  induction entries generalizing done with
  | nil =>
    rw [List.flatMap_nil, List.nil_append, items?_of_close rfl, List.map_nil, List.append_nil]
  | cons entry entries ih =>
    obtain ⟨hentry, hrest⟩ := List.forall_mem_cons.mp hne
    have hquoted := quoted?_escapes (fun hnil => hentry (String.toList_eq_nil_iff.mp hnil))
      (',' :: (entries.flatMap itemText ++ ']' :: rest))
    have hchars : (entry :: entries).flatMap itemText ++ ']' :: rest =
        '"' :: (entry.toList.flatMap escapeOf ++
          '"' :: ',' :: (entries.flatMap itemText ++ ']' :: rest)) := by
      simp [itemText]
    have hstay : ∀ cs, dropLines false ('"' :: cs) = '"' :: cs := fun _ => rfl
    have hopen : ∀ cs after, dropLines false ('"' :: cs) ≠ ']' :: after := by
      intro cs after h
      cases (hstay cs).symm.trans h
    have hfurther : ∀ cs, furtherItems? (value? (room + 1)) (entries.length + 1) done
        (.string entry) (',' :: cs) =
          items? (value? (room + 1)) (entries.length + 1) (.string entry :: done) cs := fun _ => rfl
    rw [hchars, List.length_cons, items?_of_item (hopen _), hstay, value?_of_quote, hquoted,
      String.ofList_toList, Option.map_some, Option.bind_some, hfurther, ih hrest,
      List.reverse_cons, List.append_assoc, List.map_cons]
    rfl

lemma length_le_flatMap_itemText (entries : List String) :
    entries.length ≤ (entries.flatMap itemText).length := by
  induction entries with
  | nil => exact Nat.le_refl _
  | cons entry entries ih =>
    rw [List.flatMap_cons, List.length_append, List.length_cons, itemText, List.length_cons]
    omega

lemma value?_array (hne : ∀ e ∈ entries, e ≠ "") (rest : List Char) :
    value? maxNesting ('[' :: (entries.flatMap itemText ++ ']' :: rest)) =
      some (.array (entries.map .string), rest) := by
  have hitems := items?_itemText 77 hne [] rest
  have hlength : entries.length + 1 ≤
      ('[' :: (entries.flatMap itemText ++ ']' :: rest)).length := by
    have hle := length_le_flatMap_itemText entries
    rw [List.length_cons, List.length_append]
    omega
  rw [maxNesting, value?, items?_of_le hlength hitems]
  rfl

lemma read?_listFile (hne : ∀ e ∈ entries, e ≠ "") :
    Toml.read? (listFile entries) = some (listDocument entries) := by
  have hkey : IsBareKey "errors_ignore_retry" := ⟨by decide, List.all_eq_true.mp (by decide)⟩
  have harray := value?_array hne ['\n']
  have hline : Reads ("errors_ignore_retry".toList ++
      (" = ".toList ++ '[' :: (entries.flatMap itemText ++ [']', '\n'])))
      [.assign ["errors_ignore_retry"] (.array (entries.map .string))] :=
    reads_value hkey rfl harray rfl (.done rfl)
  have hmark : ∀ more, withoutMark ("[slack]\n".toList ++ more) = "[slack]\n".toList ++ more :=
    fun _ => rfl
  rw [read?_eq_some_iff_reads, toList_listFile, hmark]
  exact ⟨_, ["slack"], .step (List.cons_ne_nil _ _) (statement?_header _) hline, rfl⟩

lemma interpolate_listFile (env : Environment) (entries : List String) :
    interpolate env (listFile entries).toList = .ok (listFile entries).toList := by
  have hitems : '$' ∉ entries.flatMap itemText := by
    intro hmem
    obtain ⟨entry, -, hentry⟩ := List.mem_flatMap.mp hmem
    have hescapes := dollar_notMem_escapes entry.toList
    simp [itemText, hescapes] at hentry
  have hfront : '$' ∉ "[slack]\n".toList ++ ("errors_ignore_retry".toList ++ " = ".toList) := by
    decide
  refine interpolate_of_no_dollar env fun hdollar => ?_
  rw [toList_listFile] at hdollar
  simp only [List.mem_append, not_or] at hdollar hfront
  rcases hdollar with h | h | h | h
  · exact hfront.1 h
  · exact hfront.2.1 h
  · exact hfront.2.2 h
  · simp [hitems] at h

lemma fileText_withListFile (w : Surroundings) (entries : List String) :
    FileText (withListFile w entries) none "parley.toml" (listFile entries) := by
  have hentry : Surroundings.entry? (withListFile w entries) "parley.toml" =
      some (.file (Text.utf8 (listFile entries))) := by
    simp [withListFile]
  refine ⟨?_, Text.utf8 (listFile entries), hentry, Text.text?_utf8 _⟩
  unfold Surroundings.settingsPath? usualPaths
  dsimp only
  rw [List.find?_cons_of_pos]
  rw [hentry]
  rfl

/-- A list can always be moved from its variable to a file. -/
lemma listedOnce_withListFile {w : Surroundings} {o : Options} {text : String}
    (hset : w.env listVariable = some text) (hne : Text.trim text ≠ "")
    (hpath : o.path = none) (hnone : w.settingsPath? none = none) (hnot : o.requireFile = false) :
    ListedOnce text w (withListFile w (listEntries text)) o [] (listDocument (listEntries text))
    where
  set := hset
  not_blank := hne
  unset value hvalue := by
    have hself : (withListFile w (listEntries text)).env listVariable = none := by
      rw [withListFile_env, Function.update_self]
    cases hself.symm.trans hvalue
  env_eq name hname := Function.update_of_ne hname _ _
  document := .absent (hpath ▸ hnone) hnot
  document_file := by
    have hentries : ∀ e ∈ listEntries text, e ≠ "" :=
      fun e he => (isListable_of_mem_listEntries he).not_empty
    have hfile := fileText_withListFile w (listEntries text)
    rw [← hpath] at hfile
    rw [hfile.holdsDocument_iff (interpolate_listFile _ _), String.ofList_toList]
    exact read?_listFile hentries
  readable := ⟨none, .absent (.missing rfl)⟩
  written := .found rfl (.table rfl)
  others _ hother := givenByDocument_single hother _

end Files

/-- Every list of entries that can stand between commas is read back from every way to join it, and
everything else that is read is such a list. The check never refuses a list from the variable. The
settings with it are those with the same array in a file, and without a file there can be one with
this array. -/
theorem listed_reasons_in_each_place :
    (∀ text entries, listEntries text = entries ↔
      (∀ entry ∈ entries, IsListable entry) ∧ Joins text entries) ∧
    (∀ (w : Surroundings) (o : Options) (text : String), w.env listVariable = some text →
      Text.trim text ≠ "" →
        load w o ≠ .error (.refused .blankRetryReason) ∧
        ∀ s, load w o = .ok s → s.slack.ignoredRetryReasons = listEntries text) ∧
    (∀ (w w' : Surroundings) (o : Options) (text : String) (doc doc' : Members),
      ListedOnce text w w' o doc doc' →
        load w' o ≠ .error (.refused .blankRetryReason) ∧
        ∀ s, load w o = .ok s ↔ load w' o = .ok s) ∧
    ∀ (w : Surroundings) (o : Options) (text : String), w.env listVariable = some text →
      Text.trim text ≠ "" → o.path = none → w.settingsPath? none = none → o.requireFile = false →
        ListedOnce text w (withListFile w (listEntries text)) o []
          (listDocument (listEntries text)) := by
  refine ⟨fun text entries => ?_, fun w o text hset hne => ⟨?_, fun s hs => ?_⟩,
    fun w w' o text doc doc' h => ⟨?_, h.load_iff⟩,
    fun w o text hset hne hpath hnone hnot => listedOnce_withListFile hset hne hpath hnone hnot⟩
  · rw [listEntries_eq_iff, lists_iff_joins]
  · exact load_ne_blankRetryReason fun s hs => list_of_gathered hset hne hs
  · obtain ⟨-, doc, -, hlayers⟩ := (load_eq_ok_iff_layers w o s).mp hs
    exact hasLayers_of_set hset hne (hlayers .ignoredRetryReasons)
  · exact load_ne_blankRetryReason fun s hs => h.list_of_gathered hs

/-- Variables with what has to be set and with a list, and no file. -/
def listingSurroundings (text : String) : Surroundings where
  env := ([("PARLEY_SLACK_TOKEN", "xoxb-1"), ("PARLEY_SLACK_SIGNING_SECRET", "s"),
    (listVariable, text)].lookup ·)
  entry? _ := none

/-- A list with blanks around its entries and blank pieces between them. -/
theorem listed_reasons_in_each_place_of_spread_list :
    let s := { surroundedSettings with
      slack := { surroundedSettings.slack with ignoredRetryReasons := ["http_error", "a b"] } }
    listEntries " ,\thttp_error ,,a b, " = ["http_error", "a b"] ∧
    load (listingSurroundings " ,\thttp_error ,,a b, ") {} = .ok s ∧
    load (withListFile (listingSurroundings " ,\thttp_error ,,a b, ") ["http_error", "a b"]) {} =
      .ok s := by
  intro s
  obtain ⟨hlists, -, hsame, hfile⟩ := listed_reasons_in_each_place
  have hspread : Spreads ["http_error", "a b"] [" ", "\thttp_error ", "", "a b", " "] :=
    .blank rfl (.entry "\t" "http_error" " " rfl rfl (.blank rfl
      (.entry "" "a b" "" rfl rfl (.blank rfl .none))))
  have hentries : listEntries " ,\thttp_error ,,a b, " = ["http_error", "a b"] := by
    refine (hlists _ _).mpr ⟨?_, _, hspread, by decide⟩
    simp only [List.forall_mem_cons]
    exact ⟨⟨by decide, by decide, by decide⟩, ⟨by decide, by decide, by decide⟩,
      List.forall_mem_nil _⟩
  have hload : load (listingSurroundings " ,\thttp_error ,,a b, ") {} = .ok s := by
    apply eq_ok_of_toOption
    decide +kernel
  have hlisted := hfile (listingSurroundings " ,\thttp_error ,,a b, ") {} _ rfl (by decide) rfl rfl
    rfl
  rw [hentries] at hlisted
  exact ⟨hentries, hload, ((hsame _ _ _ _ _ _ hlisted).2 s).mp hload⟩

end SlackBridge.Proofs
