import SlackBridge.Proofs.DeliveryPlan
import SlackBridge.Proofs.ReplyAddress

/-!
# Custom payloads

A custom payload is posted as it is written. Of the fields of an address it gains those that it
lacks; whatever it holds itself, null included, stays. A payload that is no object is refused
before anything is posted.
-/

namespace SlackBridge.Proofs

open Json Dialogue Slack

/-- Whether no member has the key. -/
def lacks (ms : Members) (key : String) : Bool :=
  (Members.get? key ms).isNone

/-! ### Filling in what is missing -/

section Missing

lemma putIfAbsent_eq_append (key : String) (v : Value) (own : Members) :
    Members.putIfAbsent key v own = own ++ [(key, v)].filter fun m => lacks own m.1 := by
  unfold Members.putIfAbsent lacks
  cases h : Members.get? key own with
  | none => simp [h]
  | some w => simp [h]

/-- Putting in one default after the other adds exactly those whose keys are lacking at first. -/
lemma foldl_putIfAbsent {defaults : Members} (hkeys : (defaults.map Prod.fst).Nodup)
    (own : Members) :
    defaults.foldl (fun ms m => Members.putIfAbsent m.1 m.2 ms) own =
      own ++ defaults.filter fun m => lacks own m.1 := by
  induction defaults generalizing own with
  | nil => simp
  | cons m rest ih =>
    obtain ⟨key, v⟩ := m
    rw [List.map_cons, List.nodup_cons] at hkeys
    have hother : ∀ n ∈ rest, lacks (Members.putIfAbsent key v own) n.1 = lacks own n.1 := by
      intro n hn
      have hne : n.1 ≠ key := by
        rintro rfl
        exact hkeys.1 (List.mem_map.mpr ⟨n, hn, rfl⟩)
      unfold lacks
      rw [get?_putIfAbsent_of_ne hne]
    rw [List.foldl_cons, ih hkeys.2, List.filter_congr hother, putIfAbsent_eq_append,
      List.append_assoc, ← List.filter_append]
    rfl

lemma get?_filter_lacks {own : Members} {key : String} (h : Members.get? key own = none)
    (defaults : Members) :
    Members.get? key (defaults.filter fun m => lacks own m.1) = Members.get? key defaults := by
  induction defaults with
  | nil => rfl
  | cons m rest ih =>
    unfold Members.get? at ih ⊢
    by_cases hkey : key = m.1
    · have hlacks : lacks own m.1 = true := by
        unfold lacks
        rw [← hkey, h]
        rfl
      rw [List.filter_cons, if_pos hlacks, List.lookup_cons, List.lookup_cons, ih]
    · rw [List.filter_cons, List.lookup_cons, beq_eq_false_iff_ne.mpr hkey]
      split
      · rw [List.lookup_cons, beq_eq_false_iff_ne.mpr hkey]
        exact ih
      · exact ih

/-- Under each key stands the own value, or else the default. -/
lemma get?_append_filter_lacks (own defaults : Members) (key : String) :
    Members.get? key (own ++ defaults.filter fun m => lacks own m.1) =
      (Members.get? key own).or (Members.get? key defaults) := by
  rw [get?_append]
  cases h : Members.get? key own with
  | some v => rfl
  | none => rw [Option.none_or, Option.none_or, get?_filter_lacks h]

lemma lacks_eq_true_iff (ms : Members) (key : String) :
    lacks ms key = true ↔ key ∉ ms.map Prod.fst := by
  unfold lacks Members.get?
  rw [Option.isNone_iff_eq_none, lookup_eq_none_iff_notMem]

lemma nodup_append_filter_lacks {own defaults : Members} (hown : (own.map Prod.fst).Nodup)
    (hdefaults : (defaults.map Prod.fst).Nodup) :
    ((own ++ defaults.filter fun m => lacks own m.1).map Prod.fst).Nodup := by
  have hadded : ((defaults.filter fun m => lacks own m.1).map Prod.fst).Nodup :=
    hdefaults.sublist (List.filter_sublist.map Prod.fst)
  rw [List.map_append, List.nodup_append]
  refine ⟨hown, hadded, fun key hkey other hother => ?_⟩
  rintro rfl
  obtain ⟨m, hm, rfl⟩ := List.mem_map.mp hother
  exact (lacks_eq_true_iff own m.1).mp (List.mem_filter.mp hm).2 hkey

end Missing

/-! ### The post of a payload -/

section Post

variable {σ : Type} (d : Destination) (recipient : String)

lemma nodup_addressFields : ((addressFields d recipient).map Prod.fst).Nodup := by
  have hkeys : (addressFields d recipient).map Prod.fst =
      "channel" :: "as_user" :: d.thread.toList.map fun _ => "thread_ts" := by
    unfold addressFields
    rw [List.map_cons, List.map_cons, List.map_map]
    rfl
  rw [hkeys]
  cases d.thread with
  | none => simp
  | some t => simp

lemma fields_customPost (payload : Members) :
    (d.customPost recipient payload).fields =
      payload ++ (addressFields d recipient).filter fun m => lacks payload m.1 := by
  rw [← foldl_putIfAbsent (nodup_addressFields d recipient)]
  unfold Destination.customPost addressFields
  cases d.thread with
  | none => rfl
  | some t => rfl

/-- What a post holds that completes a payload: the members of the payload as they are, and behind
them the fields of the address whose keys the payload lacks. -/
structure Completes (payload : Members) (p : Post) : Prop where
  fields : p.fields = payload ++ (addressFields d recipient).filter fun m => lacks payload m.1
  get? : ∀ key, p.get? key =
    (Members.get? key payload).or (Members.get? key (addressFields d recipient))
  distinct : (payload.map Prod.fst).Nodup → (p.fields.map Prod.fst).Nodup

lemma completes_customPost (payload : Members) :
    Completes d recipient payload (d.customPost recipient payload) := by
  have hfields := fields_customPost d recipient payload
  refine ⟨hfields, fun key => ?_, fun hkeys => ?_⟩
  · unfold Post.get?
    rw [hfields]
    exact get?_append_filter_lacks payload _ key
  · rw [hfields]
    exact nodup_append_filter_lacks hkeys (nodup_addressFields d recipient)

/-- Sending a payload is making one post. -/
lemma send_custom (post : σ → Post → Called σ Posted) (s : σ) (payload : Members) :
    d.send post s ⟨recipient, .custom (.object payload)⟩ =
      d.sendPost post s (d.customPost recipient payload) := by
  have hrun : d.send post s ⟨recipient, .custom (.object payload)⟩ =
      (runAll (d.sendPost post) [d.customPost recipient payload] s).after [] := rfl
  rw [hrun, runAll_singleton]
  rfl

lemma send_custom_of_ne (post : σ → Post → Called σ Posted) (s : σ) {v : Value}
    (h : ∀ payload, v ≠ .object payload) :
    d.send post s ⟨recipient, .custom v⟩ =
      ⟨s, [], some (.invalidPayload "custom slack payload must be a JSON object")⟩ := by
  have hrefused := (posts_eq_error_iff d recipient (.custom v) _).mpr ⟨v, rfl, h, rfl⟩
  unfold Destination.send
  rw [hrefused]

end Post

/-- A payload that is an object is posted once, completed by the fields of the address that it
lacks, and what comes of that post is what comes of sending it. Any other payload is refused, and
nothing is posted. -/
theorem custom_payload_completed {σ : Type} (d : Destination) (recipient : String)
    (post : σ → Post → Called σ Posted) (s : σ) :
    (∀ payload : Members, ∃ p, Completes d recipient payload p ∧
      d.send post s ⟨recipient, .custom (.object payload)⟩ = d.sendPost post s p ∧
      (d.send (recordingPost post) (s, []) ⟨recipient, .custom (.object payload)⟩).state.2 =
        [p]) ∧
    ∀ v : Value, (∀ payload, v ≠ .object payload) →
      d.send post s ⟨recipient, .custom v⟩ =
        ⟨s, [], some (.invalidPayload "custom slack payload must be a JSON object")⟩ ∧
      (d.send (recordingPost post) (s, []) ⟨recipient, .custom v⟩).state.2 = [] := by
  constructor
  · intro payload
    refine ⟨d.customPost recipient payload, completes_customPost d recipient payload,
      send_custom d recipient post s payload, ?_⟩
    rw [send_custom, recorded_sendPost]
    rfl
  · intro v hv
    refine ⟨send_custom_of_ne d recipient post s hv, ?_⟩
    rw [send_custom_of_ne d recipient (recordingPost post) (s, []) hv]

/-- Null stands in the place of a channel that the payload does not leave open. -/
example : (Destination.customPost ⟨none, some "7.0"⟩ "D1" [("channel", .null)]).fields =
    [("channel", .null), ("as_user", .bool true), ("thread_ts", .string "7.0")] := rfl

end SlackBridge.Proofs
