import SlackBridge.Dialogue.Reply
import SlackBridge.Proofs.KeptValues

/-!
# Replies and their written form

A reply that is written and read again is the same reply, provided that it holds no explicit null
as its attachment or its custom payload. No reply that has been read holds one. So what has been
read is written in a normal form: each field that is there, and no other.
-/

namespace SlackBridge.Proofs

open Json Dialogue

/-! ### Fields of a written reply -/

/-- An array of the items, if there are any. -/
def arrayOf? : List Value → Option Value
  | [] => none
  | items => some (.array items)

/-- What a reply holds under the name of each of its fields, if anything. -/
def fieldTable (r : Reply) : List (String × Option Value) :=
  [("recipient_id", r.recipient.map .string), ("text", r.text.map .string),
    ("image", r.image.map .string), ("buttons", arrayOf? (r.buttons.map Button.value)),
    ("attachment", r.attachment), ("custom", r.custom), ("elements", arrayOf? r.elements)]

/-- The members for what is there. -/
def present : List (String × Option Value) → Members
  | [] => []
  | (name, some v) :: rest => (name, v) :: present rest
  | (_, none) :: rest => present rest

section Fields

lemma member?_append {α : Type} (name : String) (f : α → Value) (a : Option α)
    (rest : List (String × Option Value)) :
    Reply.member? name f a ++ present rest = present ((name, a.map f) :: rest) := by
  cases a <;> rfl

lemma listMember?_append {α : Type} (name : String) (f : α → Value) (items : List α)
    (rest : List (String × Option Value)) :
    Reply.listMember? name f items ++ present rest =
      present ((name, arrayOf? (items.map f)) :: rest) := by
  cases items <;> rfl

/-- A written reply is an object of the fields that are there. -/
lemma value_eq_present (r : Reply) : r.value = .object (present (fieldTable r)) := by
  have hend : ∀ ms : Members, ms = ms ++ present [] := fun ms => (List.append_nil ms).symm
  rw [Reply.value, hend (Reply.listMember? "elements" id r.elements)]
  simp only [List.append_assoc, member?_append, listMember?_append, Option.map_id, List.map_id]
  rfl

lemma keys_present (fields : List (String × Option Value)) :
    ((present fields).map Prod.fst).Sublist (fields.map Prod.fst) := by
  induction fields with
  | nil => exact .slnil
  | cons f rest ih =>
    obtain ⟨name, _ | v⟩ := f
    · exact ih.cons name
    · exact ih.cons_cons name

lemma lookup_present {fields : List (String × Option Value)}
    (hkeys : (fields.map Prod.fst).Nodup) (name : String) :
    (present fields).lookup name = (fields.lookup name).join := by
  induction fields with
  | nil => rfl
  | cons f rest ih =>
    obtain ⟨key, v⟩ := f
    rw [List.map_cons, List.nodup_cons] at hkeys
    rw [List.lookup_cons]
    by_cases hname : name = key
    · subst hname
      rw [beq_self_eq_true]
      cases v with
      | some v => rw [present, List.lookup_cons_self, Option.join_some]
      | none =>
        rw [present, ih hkeys.2, (lookup_eq_none_iff_notMem _ _).mpr hkeys.1]
        rfl
    · rw [beq_eq_false_iff_ne.mpr hname, ← ih hkeys.2]
      cases v with
      | some v => rw [present, List.lookup_cons, beq_eq_false_iff_ne.mpr hname]
      | none => rfl

end Fields

/-! ### Reading a written reply -/

/-- Reads a reply whose values may nest `room` levels, its elements one less. -/
def decodeWithin (room : ℕ) : Decoder Reply := fun t => do
  let r ← Record.read? Reply.fieldNames t
  let keep := Tree.keep? room
  let recipient ← r.optional "recipient_id" .string
  let text ← r.optional "text" .string
  let image ← r.optional "image" .string
  let buttons ← r.withDefault "buttons" [] (.list Button.decode)
  let attachment ← r.optional "attachment" keep
  let custom ← r.optional "custom" keep
  let elements ← r.withDefault "elements" [] (.list (Tree.keep? (room - 1)))
  return ⟨recipient, text, image, buttons, attachment, custom, elements⟩

lemma decode_buttonValue (b : Button) : Button.decode (valueTree b.value) = some b := by
  rfl

/-- A reply whose values are kept as they are where there is the given room for them. -/
structure Survives (room : ℕ) (r : Reply) : Prop where
  attachment : ∀ v, r.attachment = some v → Tree.keep? room (valueTree v) = some v
  custom : ∀ v, r.custom = some v → Tree.keep? room (valueTree v) = some v
  elements : ∀ v ∈ r.elements, Tree.keep? (room - 1) (valueTree v) = some v

def isNull : Value → Bool
  | .null => true
  | _ => false

/-- The reply without an explicit null. -/
def dropNulls (r : Reply) : Reply :=
  { r with
    attachment := r.attachment.filter (!isNull ·)
    custom := r.custom.filter (!isNull ·) }

section Decode

variable {room : ℕ} {α : Type} {record : Record} {name : String} {decode : Decoder α}
  {encode : α → Value}

lemma optional_of_get? {a : Option α} (hget : record.get? name = (a.map encode).map valueTree)
    (hdecode : ∀ x, Decoder.nullable decode (valueTree (encode x)) = some (some x)) :
    record.optional name decode = some a := by
  unfold Record.optional Record.withDefault
  rw [hget]
  cases a with
  | none => rfl
  | some x => exact hdecode x

lemma withDefault_of_get? {items : List α}
    (hget : record.get? name = (arrayOf? (items.map encode)).map valueTree)
    (hdecode : ∀ x ∈ items, decode (valueTree (encode x)) = some x) :
    record.withDefault name [] (.list decode) = some items := by
  unfold Record.withDefault
  rw [hget]
  cases items with
  | nil => rfl
  | cons x rest =>
    have hitems : ((x :: rest).map fun y => valueTree (encode y)).mapM decode =
        some (x :: rest) := by
      rw [mapM_eq_some_iff, List.forall₂_map_left_iff, List.forall₂_same]
      exact hdecode
    change (valueTrees ((x :: rest).map encode)).mapM decode = some (x :: rest)
    rw [valueTrees_eq_map, List.map_map]
    exact hitems

/-- An explicit null is read as if nothing were there. -/
lemma optional_keep? {v : Option Value} (hget : record.get? name = v.map valueTree)
    (hkeep : ∀ w, v = some w → Tree.keep? room (valueTree w) = some w) :
    record.optional name (Tree.keep? room) = some (v.filter (!isNull ·)) := by
  unfold Record.optional Record.withDefault
  rw [hget]
  cases v with
  | none => rfl
  | some w =>
    have hw := hkeep w rfl
    cases w with
    | null => rfl
    | _ =>
      simp only [valueTree] at hw
      simp only [Option.map_some, valueTree, Decoder.nullable, hw]
      rfl

end Decode

lemma nodup_fieldNames : Reply.fieldNames.Nodup := by
  decide

lemma map_fst_fieldTable (r : Reply) : (fieldTable r).map Prod.fst = Reply.fieldNames :=
  rfl

lemma lookup_map_snd {α β : Type} (f : α → β) (members : List (String × α)) (name : String) :
    (members.map fun m => (m.1, f m.2)).lookup name = (members.lookup name).map f := by
  induction members with
  | nil => rfl
  | cons m rest ih =>
    rw [List.map_cons, List.lookup_cons, List.lookup_cons, ih]
    cases name == m.1 <;> rfl

/-- A written reply is read as the reply, without its explicit nulls. -/
theorem decodeWithin_value {room : ℕ} {r : Reply} (h : Survives room r) :
    decodeWithin room (valueTree r.value) = some (dropNulls r) := by
  have hnodup : ((fieldTable r).map Prod.fst).Nodup := nodup_fieldNames
  have htree : valueTree r.value =
      objectTree ((present (fieldTable r)).map fun m => (m.1, valueTree m.2)) := by
    rw [value_eq_present, valueTree, valueMembers_eq_map, objectTree, List.map_map]
    rfl
  have hkeys : (((present (fieldTable r)).map fun m => (m.1, valueTree m.2)).map
      Prod.fst).Nodup := by
    rw [List.map_map]
    exact hnodup.sublist (keys_present _)
  obtain ⟨record, hread, hshows⟩ := exists_shows Reply.fieldNames hkeys
  have hget : ∀ name ∈ Reply.fieldNames,
      record.get? name = (((fieldTable r).lookup name).join).map valueTree := by
    intro name hname
    rw [hshows name hname, lookup_map_snd, lookup_present hnodup]
  have hrecipient : record.optional "recipient_id" .string = some r.recipient :=
    optional_of_get? (hget _ (by decide)) fun _ => rfl
  have htext : record.optional "text" .string = some r.text :=
    optional_of_get? (hget _ (by decide)) fun _ => rfl
  have himage : record.optional "image" .string = some r.image :=
    optional_of_get? (hget _ (by decide)) fun _ => rfl
  have hbuttons : record.withDefault "buttons" [] (.list Button.decode) = some r.buttons :=
    withDefault_of_get? (hget _ (by decide)) fun b _ => decode_buttonValue b
  have hattachment := optional_keep? (hget "attachment" (by decide)) h.attachment
  have hcustom := optional_keep? (hget "custom" (by decide)) h.custom
  have helements : record.withDefault "elements" [] (.list (Tree.keep? (room - 1))) =
      some r.elements := by
    have hitems : record.get? "elements" = (arrayOf? (r.elements.map id)).map valueTree := by
      rw [List.map_id]
      exact hget _ (by decide)
    exact withDefault_of_get? hitems h.elements
  unfold decodeWithin
  rw [htree, hread]
  simp only [Option.bind_eq_bind, Option.bind_some, hrecipient, htext, himage, hbuttons,
    hattachment, hcustom, helements]
  rfl

/-! ### Replies that have been read -/

/-- The values that a reply holds as they are. -/
def heldValues (r : Reply) : List Value :=
  r.attachment.toList ++ r.custom.toList ++ r.elements

/-- Neither the attachment nor the custom payload of the reply is an explicit null. -/
structure HoldsNoNull (r : Reply) : Prop where
  attachment : r.attachment ≠ some .null
  custom : r.custom ≠ some .null

lemma filter_isNull_eq_self_iff (v : Option Value) :
    v.filter (!isNull ·) = v ↔ v ≠ some .null := by
  match v with
  | none => simp
  | some .null => simp [isNull]
  | some (.bool _) | some (.number _) | some (.string _) | some (.array _) | some (.object _) =>
    simp [isNull]

lemma dropNulls_eq_self_iff (r : Reply) : dropNulls r = r ↔ HoldsNoNull r := by
  constructor
  · intro h
    exact ⟨(filter_isNull_eq_self_iff _).mp (congrArg Reply.attachment h),
      (filter_isNull_eq_self_iff _).mp (congrArg Reply.custom h)⟩
  · rintro ⟨hattachment, hcustom⟩
    unfold dropNulls
    rw [(filter_isNull_eq_self_iff _).mpr hattachment, (filter_isNull_eq_self_iff _).mpr hcustom]

lemma mem_present {fields : List (String × Option Value)} {name : String} {v : Value}
    (h : (name, some v) ∈ fields) : (name, v) ∈ present fields := by
  induction fields with
  | nil => cases h
  | cons f rest ih =>
    obtain ⟨key, _ | w⟩ := f
    · exact ih ((List.mem_cons.mp h).resolve_left fun heq => nomatch congrArg Prod.snd heq)
    · rcases List.mem_cons.mp h with heq | hrest
      · cases heq
        exact List.mem_cons_self
      · exact List.mem_cons_of_mem _ (ih hrest)

/-- Where there is room for the whole reply there is room for each of its values. -/
lemma survives_of_height {room : ℕ} {r : Reply} (hkeys : ∀ v ∈ heldValues r, DistinctKeys v)
    (hroom : height r.value ≤ room) : Survives room r := by
  rw [value_eq_present, height] at hroom
  have hfields : ∀ name v, (name, some v) ∈ fieldTable r → height v + 1 ≤ room := by
    intro name v hmem
    have hle := (membersHeight_le_iff _ _).mp (Nat.le_refl _) (name, v) (mem_present hmem)
    dsimp only at hle
    omega
  unfold heldValues at hkeys
  simp only [List.mem_append, Option.mem_toList] at hkeys
  refine ⟨fun v hv => ?_, fun v hv => ?_, fun v hv => ?_⟩
  · have hheight := hfields "attachment" v (by simp [fieldTable, hv])
    exact keep?_valueTree (hkeys v (.inl (.inl hv))) (by omega)
  · have hheight := hfields "custom" v (by simp [fieldTable, hv])
    exact keep?_valueTree (hkeys v (.inl (.inr hv))) (by omega)
  · have harray : arrayOf? r.elements = some (.array r.elements) := by
      cases helements : r.elements with
      | nil => rw [helements] at hv; cases hv
      | cons e rest => rfl
    have hheight := hfields "elements" (.array r.elements) (by simp [fieldTable, harray])
    rw [height] at hheight
    have hitem := (itemsHeight_le_iff _ _).mp (Nat.le_refl _) v hv
    exact keep?_valueTree (hkeys v (.inr hv)) (by omega)

section Decoded

variable {room : ℕ} {α : Type} {record : Record} {name : String}

lemma ne_null_of_keep? {t : Tree} {v : Value} (ht : t ≠ .null)
    (h : Tree.keep? room t = some v) : v ≠ .null := by
  rintro rfl
  cases t with
  | null => exact ht rfl
  | bool b =>
    rw [Tree.keep?] at h
    cases h
  | number n =>
    rw [Tree.keep?, Option.map_eq_some_iff] at h
    obtain ⟨_, -, h⟩ := h
    cases h
  | string s =>
    rw [Tree.keep?, Option.map_eq_some_iff] at h
    obtain ⟨_, -, h⟩ := h
    cases h
  | array items =>
    cases room with
    | zero => cases h
    | succ room =>
      obtain ⟨_, -, h⟩ := (keep?_array_eq_some_iff items .null).mp h
      cases h
  | object members =>
    cases room with
    | zero => cases h
    | succ room =>
      obtain ⟨_, -, h⟩ := (keep?_object_eq_some_iff members .null).mp h
      cases h

lemma exists_of_optional_keep? {v : Value}
    (h : record.optional name (Tree.keep? room) = some (some v)) :
    v ≠ .null ∧ ∃ t, Tree.keep? room t = some v := by
  unfold Record.optional Record.withDefault at h
  split at h
  · unfold Decoder.nullable at h
    split at h
    · cases h
    · next ht =>
      obtain ⟨w, hw, heq⟩ := Option.map_eq_some_iff.mp h
      cases heq
      exact ⟨ne_null_of_keep? ht hw, _, hw⟩
  · cases h

lemma exists_of_withDefault_list {decode : Decoder α} {as : List α}
    (h : record.withDefault name [] (.list decode) = some as) :
    ∀ a ∈ as, ∃ t, decode t = some a := by
  unfold Record.withDefault at h
  split at h
  · unfold Decoder.list at h
    split at h
    · exact exists_of_forall₂ ((mapM_eq_some_iff _ _ _).mp h)
    · cases h
  · cases h
    exact List.forall_mem_nil _

/-- What has been read is read again: its values fit into the same room, and none is a null in
place of nothing. -/
theorem survives_of_decodeWithin {t : Tree} {r : Reply} (h : decodeWithin room t = some r) :
    Survives room r ∧ HoldsNoNull r ∧ ∀ v ∈ heldValues r, DistinctKeys v := by
  unfold decodeWithin at h
  obtain ⟨record, -, h⟩ := Option.bind_eq_some_iff.mp h
  obtain ⟨recipient, -, h⟩ := Option.bind_eq_some_iff.mp h
  obtain ⟨text, -, h⟩ := Option.bind_eq_some_iff.mp h
  obtain ⟨image, -, h⟩ := Option.bind_eq_some_iff.mp h
  obtain ⟨buttons, -, h⟩ := Option.bind_eq_some_iff.mp h
  obtain ⟨attachment, hattachment, h⟩ := Option.bind_eq_some_iff.mp h
  obtain ⟨custom, hcustom, h⟩ := Option.bind_eq_some_iff.mp h
  obtain ⟨elements, helements, h⟩ := Option.bind_eq_some_iff.mp h
  cases h
  have hoptional : ∀ {name v}, record.optional name (Tree.keep? room) = some (some v) →
      v ≠ .null ∧ DistinctKeys v ∧ Tree.keep? room (valueTree v) = some v := by
    intro name v hv
    obtain ⟨hne, t, ht⟩ := exists_of_optional_keep? hv
    obtain ⟨hkeys, hheight⟩ := distinctKeys_of_keep? ht
    exact ⟨hne, hkeys, keep?_valueTree hkeys hheight⟩
  have hitem : ∀ v ∈ elements,
      DistinctKeys v ∧ Tree.keep? (room - 1) (valueTree v) = some v := by
    intro v hv
    obtain ⟨t, ht⟩ := exists_of_withDefault_list helements v hv
    obtain ⟨hkeys, hheight⟩ := distinctKeys_of_keep? ht
    exact ⟨hkeys, keep?_valueTree hkeys hheight⟩
  refine ⟨⟨?_, ?_, fun v hv => (hitem v hv).2⟩, ⟨?_, ?_⟩, fun v hv => ?_⟩
  · rintro v rfl
    exact (hoptional hattachment).2.2
  · rintro v rfl
    exact (hoptional hcustom).2.2
  · rintro rfl
    exact (hoptional hattachment).1 rfl
  · rintro rfl
    exact (hoptional hcustom).1 rfl
  · unfold heldValues at hv
    simp only [List.mem_append, Option.mem_toList] at hv
    rcases hv with (rfl | rfl) | hv
    · exact (hoptional hattachment).2.1
    · exact (hoptional hcustom).2.1
    · exact (hitem v hv).1

end Decoded

/-- Reads a list of replies. -/
def decodeListWithin (room : ℕ) : Decoder (List Reply) :=
  .list (decodeWithin room)

/-- The written form of a list of replies. -/
def listValue (replies : List Reply) : Value :=
  .array (replies.map Reply.value)

lemma decodeListWithin_listValue {room : ℕ} {replies : List Reply}
    (h : ∀ r ∈ replies, decodeWithin room (valueTree r.value) = some r) :
    decodeListWithin room (valueTree (listValue replies)) = some replies := by
  have hlist : decodeListWithin room (valueTree (listValue replies)) =
      (valueTrees (replies.map Reply.value)).mapM (decodeWithin room) := rfl
  rw [hlist, mapM_eq_some_iff, valueTrees_eq_map, List.map_map, List.forall₂_map_left_iff,
    List.forall₂_same]
  exact h

lemma exists_of_decodeListWithin {room : ℕ} {t : Tree} {replies : List Reply}
    (h : decodeListWithin room t = some replies) :
    ∀ r ∈ replies, ∃ item, decodeWithin room item = some r := by
  unfold decodeListWithin Decoder.list at h
  split at h
  · exact exists_of_forall₂ ((mapM_eq_some_iff _ _ _).mp h)
  · cases h

/-- A reply that is written and read again is the same reply exactly if it holds no explicit null,
however deep its values nest. Replies that have been read hold none: they are the same when they
are written and read again, each for itself and as a list, and are written the same once more. In
the written form stand the fields that hold something, and no other. -/
theorem replies_round_trip :
    (∀ (r : Reply) (room : ℕ), (∀ v ∈ heldValues r, DistinctKeys v) → height r.value ≤ room →
      (decodeWithin room (valueTree r.value) = some r ↔ HoldsNoNull r)) ∧
    (∀ (room : ℕ) (t : Tree) (replies : List Reply), decodeListWithin room t = some replies →
      decodeListWithin room (valueTree (listValue replies)) = some replies ∧
      (decodeListWithin room (valueTree (listValue replies))).map listValue =
        some (listValue replies) ∧
      ∀ r ∈ replies, HoldsNoNull r ∧ (∀ v ∈ heldValues r, DistinctKeys v) ∧
        decodeWithin room (valueTree r.value) = some r) ∧
    Reply.decodeList = decodeListWithin (maxDepth - 2) ∧
    ∀ r : Reply, ∃ fields, r.value = .object fields ∧
      (fields.map Prod.fst).Sublist Reply.fieldNames ∧
      (fieldTable r).map Prod.fst = Reply.fieldNames ∧
      ∀ f ∈ fieldTable r, Members.get? f.1 fields = f.2 := by
  refine ⟨fun r room hkeys hroom => ?_, fun room t replies h => ?_, rfl, fun r => ?_⟩
  · rw [decodeWithin_value (survives_of_height hkeys hroom), Option.some.injEq,
      dropNulls_eq_self_iff]
  · have hread : ∀ r ∈ replies, HoldsNoNull r ∧ (∀ v ∈ heldValues r, DistinctKeys v) ∧
        decodeWithin room (valueTree r.value) = some r := by
      intro r hr
      obtain ⟨item, hitem⟩ := exists_of_decodeListWithin h r hr
      obtain ⟨hsurvives, hnull, hkeys⟩ := survives_of_decodeWithin hitem
      refine ⟨hnull, hkeys, ?_⟩
      rw [decodeWithin_value hsurvives, (dropNulls_eq_self_iff r).mpr hnull]
    have hlist := decodeListWithin_listValue fun r hr => (hread r hr).2.2
    refine ⟨hlist, ?_, hread⟩
    rw [hlist, Option.map_some]
  · have hnodup : ((fieldTable r).map Prod.fst).Nodup := nodup_fieldNames
    refine ⟨present (fieldTable r), value_eq_present r, keys_present _, map_fst_fieldTable r, ?_⟩
    intro f hf
    unfold Members.get?
    rw [lookup_present hnodup, (lookup_eq_some_iff_mem hnodup f.1 f.2).mpr hf, Option.join_some]

/-- An explicit null is written, but it is read as if nothing were there. -/
example : (decodeWithin 1 (valueTree { Reply.empty with custom := some .null }.value)).map
    Reply.custom = some none := rfl

end SlackBridge.Proofs
