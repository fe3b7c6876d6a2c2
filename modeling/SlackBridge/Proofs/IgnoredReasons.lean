import SlackBridge.Proofs.SettingSources
import SlackBridge.Proofs.Trimming
import SlackBridge.Proofs.WebhookRun
import SlackBridge.Server.App

/-!
# The reasons to drop a redelivery for

The reason that a request gives is compared without the blanks around it. So a reason in the
settings that has blanks around it counts only if it is in the list without them as well. A variable
and the default give reasons without blanks around them, and a file gives them as they are
written.
-/

namespace SlackBridge.Proofs

open Settings Slack

/-- Every redelivery for a reason is dropped. -/
def IsDropped (f : RedeliveryFilter) (reason : String) : Prop :=
  ∀ (header : String → Option String) (number : String), header f.numberHeader = some number →
    Text.trim number ≠ "" → header f.reasonHeader = some reason →
      f.inspect header = some ⟨Text.trim number, Text.trim reason⟩

/-- No redelivery for a reason is dropped. -/
def IsServed (f : RedeliveryFilter) (reason : String) : Prop :=
  ∀ header : String → Option String, header f.reasonHeader = some reason → f.inspect header = none

/-- A header that is missing or blank. -/
def LacksHeader (header : String → Option String) (name : String) : Prop :=
  ∀ text, header name = some text → Text.trim text = ""

/-! ### The filter -/

section Filter

variable (f : RedeliveryFilter) {reason : String}

lemma isDropped_of_mem (h : Text.trim reason ∈ f.ignored) : IsDropped f reason := by
  intro header number hnumber hne hreason
  rw [inspect_lookup_eq_some_iff, hreason]
  rw [ne_eq, trim_eq_empty_iff, Bool.not_eq_true] at hne
  exact ⟨number, hnumber, hne, h, rfl⟩

lemma isServed_of_notMem (h : Text.trim reason ∉ f.ignored) : IsServed f reason := by
  intro header hreason
  rw [Option.eq_none_iff_forall_ne_some]
  intro again hagain
  obtain ⟨_, -, -, hmem, -⟩ := (inspect_lookup_eq_some_iff f header again).mp hagain
  rw [hreason] at hmem
  exact h hmem

/-- A request whose headers all give the reason is either dropped or served. -/
lemma not_isDropped_and_isServed (hne : Text.trim reason ≠ "") :
    ¬(IsDropped f reason ∧ IsServed f reason) := by
  rintro ⟨hdropped, hserved⟩
  have hsome := hdropped (fun _ => some reason) reason rfl hne rfl
  rw [hserved (fun _ => some reason) rfl] at hsome
  cases hsome

lemma isDropped_iff (hne : Text.trim reason ≠ "") :
    IsDropped f reason ↔ Text.trim reason ∈ f.ignored := by
  refine ⟨fun hdropped => ?_, isDropped_of_mem f⟩
  by_contra hmem
  exact not_isDropped_and_isServed f hne ⟨hdropped, isServed_of_notMem f hmem⟩

lemma isServed_iff (hne : Text.trim reason ≠ "") :
    IsServed f reason ↔ Text.trim reason ∉ f.ignored :=
  ⟨fun hserved hmem => not_isDropped_and_isServed f hne ⟨isDropped_of_mem f hmem, hserved⟩,
    isServed_of_notMem f⟩

/-- Without a number or without a reason a request is no redelivery to drop. -/
lemma inspect_of_lacksHeader (hblank : "" ∉ f.ignored) {header : String → Option String}
    (h : LacksHeader header f.numberHeader ∨ LacksHeader header f.reasonHeader) :
    f.inspect header = none := by
  rw [Option.eq_none_iff_forall_ne_some]
  intro again hagain
  obtain ⟨number, hnumber, hne, hmem, -⟩ := (inspect_lookup_eq_some_iff f header again).mp hagain
  rcases h with hlacks | hlacks
  · have htrim := (trim_eq_empty_iff number).mp (hlacks number hnumber)
    rw [hne] at htrim
    cases htrim
  · cases hreason : header f.reasonHeader with
    | none =>
      rw [hreason] at hmem
      exact hblank hmem
    | some reason =>
      rw [hreason, Option.map_some, Option.getD_some, hlacks reason hreason] at hmem
      exact hblank hmem

end Filter

/-! ### The list -/

section List

variable {w : Surroundings} {path? : Option String} {reasons : List String}

lemma trim_of_lists {text : String} (h : Lists text reasons) {reason : String}
    (hmem : reason ∈ reasons) : Text.trim reason = reason := by
  obtain ⟨pieces, -, -, -, rfl⟩ := h
  obtain ⟨piece, -, rfl⟩ := List.mem_map.mp (List.mem_of_mem_filter hmem)
  exact trim_trim piece

/-- Only a file gives reasons with blanks around them. -/
lemma trim_of_takenFrom {source : Command.Source}
    (h : TakenFrom w path? .ignoredRetryReasons reasons source)
    (hfile : ∀ path, source ≠ .file path) {reason : String} (hmem : reason ∈ reasons) :
    Text.trim reason = reason := by
  cases h with
  | named _ _ hlists => exact trim_of_lists hlists hmem
  | file => exact absurd rfl (hfile _)
  | default _ _ hdefault =>
    rw [hdefault] at hmem
    rw [List.mem_singleton.mp hmem]
    rfl

end List

/-- A request without a number or without a reason is never dropped. Of the reasons in the settings,
those that are in the list without the blanks around them have every redelivery dropped, and the
others have none dropped. All of them are dropped for unless the list is taken from a file. -/
theorem ignored_reasons_dropped {w : Surroundings} {o : Options} {s : Settings}
    (h : load w o = .ok s) :
    let reasons := s.slack.ignoredRetryReasons
    let f := (Inbox.ofSettings s.slack).redeliveries
    (∀ reason ∈ reasons, (IsDropped f reason ↔ Text.trim reason ∈ reasons) ∧
      (IsServed f reason ↔ Text.trim reason ∉ reasons)) ∧
    (∃ source, TakenFrom w o.path .ignoredRetryReasons reasons source ∧
      ((∀ path, source ≠ .file path) → ∀ reason ∈ reasons, IsDropped f reason)) ∧
    ∀ header, LacksHeader header f.numberHeader ∨ LacksHeader header f.reasonHeader →
      f.inspect header = none := by
  intro reasons f
  have hcheck := ((load_eq_ok_iff_layers w o s).mp h).1
  have hnot : ∀ reason ∈ reasons, Text.trim reason ≠ "" :=
    fun reason => not_blank_of_mem_reasons hcheck
  obtain ⟨source, hsource⟩ := exists_takenFrom_of_load h Setting.ignoredRetryReasons rfl
  refine ⟨fun reason hmem => ⟨?_, ?_⟩,
    ⟨source, hsource, fun hfile reason hmem => isDropped_of_mem f ?_⟩,
    fun header => inspect_of_lacksHeader f fun hempty => hnot "" hempty rfl⟩
  · exact isDropped_iff f (hnot reason hmem)
  · exact isServed_iff f (hnot reason hmem)
  · rw [trim_of_takenFrom hsource hfile hmem]
    exact hmem

/-- A list of reasons the first of which has blanks around it. -/
def paddedText : String :=
  "[slack]\nerrors_ignore_retry = [\" http_timeout \", \"http_error\"]\n"

/-- The settings that are loaded with this list. -/
def paddedSettings : Settings :=
  { surroundedSettings with
    slack := { surroundedSettings.slack with
      ignoredRetryReasons := [" http_timeout ", "http_error"] } }

lemma load_paddedText : load (surroundedBy paddedText) {} = .ok paddedSettings := by
  apply eq_ok_of_toOption
  decide +kernel

theorem ignored_reasons_dropped_of_file :
    load (surroundedBy paddedText) {} = .ok paddedSettings ∧
    IsDropped (Inbox.ofSettings paddedSettings.slack).redeliveries "http_error" ∧
    IsServed (Inbox.ofSettings paddedSettings.slack).redeliveries " http_timeout " := by
  obtain ⟨hreasons, -⟩ := ignored_reasons_dropped load_paddedText
  exact ⟨load_paddedText, (hreasons "http_error" (by decide)).1.mpr (by decide),
    (hreasons " http_timeout " (by decide)).2.mpr (by decide)⟩

/-- A reason with blanks around it may be in the list, and its redeliveries are served again. -/
theorem padded_reason_served :
    ¬∀ (w : Surroundings) (o : Options) (s : Settings), load w o = .ok s →
      ∀ reason ∈ s.slack.ignoredRetryReasons, ∀ (header : String → Option String) (number : String),
        header (Inbox.ofSettings s.slack).redeliveries.numberHeader = some number →
        Text.trim number ≠ "" →
        header (Inbox.ofSettings s.slack).redeliveries.reasonHeader = some reason →
          ((Inbox.ofSettings s.slack).redeliveries.inspect header).isSome = true := by
  intro h
  have hsome := h _ _ _ load_paddedText " http_timeout " (by decide)
    ([("x-slack-retry-num", "1"), ("x-slack-retry-reason", " http_timeout ")].lookup ·) "1"
    (by decide +kernel) (by decide) (by decide +kernel)
  have hnone : (Inbox.ofSettings paddedSettings.slack).redeliveries.inspect
      ([("x-slack-retry-num", "1"), ("x-slack-retry-reason", " http_timeout ")].lookup ·) =
        none := by
    decide +kernel
  rw [hnone] at hsome
  cases hsome

end SlackBridge.Proofs
