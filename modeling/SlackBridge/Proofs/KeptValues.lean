import SlackBridge.Proofs.JsonRecords
import SlackBridge.Proofs.JsonTrees

/-!
# Kept values

A value is kept from a tree where there is room for its levels; of members with the same key the
last one counts. So what is kept has no key twice, and a value without repeated keys is kept as it
is.
-/

namespace SlackBridge.Proofs

open Json

/-! ### Values without repeated keys -/

/-- A value in which no object, at any depth, has a key twice. -/
inductive DistinctKeys : Value → Prop
  | null : DistinctKeys .null
  | bool (b : Bool) : DistinctKeys (.bool b)
  | number (n : Number) : DistinctKeys (.number n)
  | string (s : String) : DistinctKeys (.string s)
  | array {items : List Value} (h : ∀ v ∈ items, DistinctKeys v) : DistinctKeys (.array items)
  | object {members : Members} (hkeys : (members.map Prod.fst).Nodup)
      (h : ∀ m ∈ members, DistinctKeys m.2) : DistinctKeys (.object members)

mutual

/-- How many levels of arrays and objects a value has. -/
def height : Value → ℕ
  | .array items => itemsHeight items + 1
  | .object members => membersHeight members + 1
  | _ => 0

def itemsHeight : List Value → ℕ
  | [] => 0
  | v :: rest => max (height v) (itemsHeight rest)

def membersHeight : List (String × Value) → ℕ
  | [] => 0
  | (_, v) :: rest => max (height v) (membersHeight rest)

end

lemma itemsHeight_le_iff (items : List Value) (n : ℕ) :
    itemsHeight items ≤ n ↔ ∀ v ∈ items, height v ≤ n := by
  induction items with
  | nil => simp [itemsHeight]
  | cons v rest ih => rw [itemsHeight, Nat.max_le, ih, List.forall_mem_cons]

lemma membersHeight_le_iff (members : Members) (n : ℕ) :
    membersHeight members ≤ n ↔ ∀ m ∈ members, height m.2 ≤ n := by
  induction members with
  | nil => simp [membersHeight]
  | cons m rest ih => rw [membersHeight, Nat.max_le, ih, List.forall_mem_cons]

section Put

lemma put_of_notMem {key : String} (v : Value) {ms : Members} (h : key ∉ ms.map Prod.fst) :
    Members.put key v ms = ms ++ [(key, v)] := by
  induction ms with
  | nil => rfl
  | cons m rest ih =>
    rw [List.map_cons, List.mem_cons, not_or] at h
    rw [Members.put, if_neg (Ne.symm h.1), ih h.2, List.cons_append]

/-- Members with different keys are put as they are. -/
lemma putAll_of_nodup {ms more : Members} (h : ((ms ++ more).map Prod.fst).Nodup) :
    Members.putAll ms more = ms ++ more := by
  induction more generalizing ms with
  | nil => exact (List.append_nil ms).symm
  | cons m rest ih =>
    obtain ⟨key, v⟩ := m
    have hkey : key ∉ ms.map Prod.fst := by
      intro hmem
      rw [List.map_append, List.nodup_append] at h
      exact h.2.2 key hmem key List.mem_cons_self rfl
    have hput := put_of_notMem v hkey
    have hstep : Members.putAll ms ((key, v) :: rest) =
        Members.putAll (Members.put key v ms) rest := rfl
    rw [hstep, hput, ih (by rwa [List.append_assoc]), List.append_assoc]
    rfl

lemma mem_put {key : String} {v : Value} {ms : Members} {m : String × Value}
    (h : m ∈ Members.put key v ms) : m = (key, v) ∨ m ∈ ms := by
  induction ms with
  | nil => exact .inl (List.mem_singleton.mp h)
  | cons n rest ih =>
    rw [Members.put] at h
    split at h
    · next heq =>
      rcases List.mem_cons.mp h with rfl | hrest
      · exact .inl (by rw [heq])
      · exact .inr (List.mem_cons_of_mem _ hrest)
    · rcases List.mem_cons.mp h with rfl | hrest
      · exact .inr List.mem_cons_self
      · exact (ih hrest).imp_right (List.mem_cons_of_mem _)

lemma nodup_put (key : String) (v : Value) {ms : Members} (h : (ms.map Prod.fst).Nodup) :
    ((Members.put key v ms).map Prod.fst).Nodup := by
  induction ms with
  | nil => exact List.nodup_singleton key
  | cons n rest ih =>
    rw [List.map_cons, List.nodup_cons] at h
    rw [Members.put]
    split
    · next heq =>
      rw [List.map_cons, List.nodup_cons]
      exact h
    · next hne =>
      rw [List.map_cons, List.nodup_cons]
      refine ⟨fun hmem => ?_, ih h.2⟩
      obtain ⟨m, hm, hm'⟩ := List.mem_map.mp hmem
      rcases mem_put hm with rfl | hold
      · exact hne hm'.symm
      · exact h.1 (List.mem_map.mpr ⟨m, hold, hm'⟩)

/-- Whatever is put, each key is there once, and every member is one of those that were put. -/
lemma putAll_spec (ms more : Members) (h : (ms.map Prod.fst).Nodup) :
    ((Members.putAll ms more).map Prod.fst).Nodup ∧
      ∀ m ∈ Members.putAll ms more, m ∈ ms ∨ m ∈ more := by
  induction more generalizing ms with
  | nil => exact ⟨h, fun m hm => .inl hm⟩
  | cons n rest ih =>
    obtain ⟨hnodup, hmem⟩ := ih (Members.put n.1 n.2 ms) (nodup_put n.1 n.2 h)
    refine ⟨hnodup, fun m hm => ?_⟩
    rcases hmem m hm with hput | hrest
    · rcases mem_put hput with rfl | hold
      · exact .inr List.mem_cons_self
      · exact .inl hold
    · exact .inr (List.mem_cons_of_mem _ hrest)

end Put

/-! ### Kept values -/

section Keep

variable {room : ℕ}

lemma keep?_array_eq_some_iff (items : List Tree) (v : Value) :
    Tree.keep? (room + 1) (.array items) = some v ↔
      ∃ kept, List.Forall₂ (fun t w => Tree.keep? room t = some w) items kept ∧
        .array kept = v := by
  rw [Tree.keep?, Option.map_eq_some_iff]
  simp only [mapM_eq_some_iff]

lemma keep?_object_eq_some_iff (members : List (Option String × Tree)) (v : Value) :
    Tree.keep? (room + 1) (.object members) = some v ↔
      ∃ kept, List.Forall₂ (fun m k => m.1 = some k.1 ∧ Tree.keep? room m.2 = some k.2)
        members kept ∧ .object (Members.putAll [] kept) = v := by
  have hpair : ∀ (m : Option String × Tree) (k : String × Value),
      (∃ key, m.1 = some key ∧ ∃ w, Tree.keep? room m.2 = some w ∧ (key, w) = k) ↔
        m.1 = some k.1 ∧ Tree.keep? room m.2 = some k.2 := by
    intro m k
    constructor
    · rintro ⟨key, hkey, w, hw, rfl⟩
      exact ⟨hkey, hw⟩
    · rintro ⟨hkey, hw⟩
      exact ⟨k.1, hkey, k.2, hw, rfl⟩
  rw [Tree.keep?]
  simp only [Option.bind_eq_bind, Option.bind_eq_some_iff, Option.pure_def, Option.some.injEq,
    mapM_eq_some_iff, hpair]

/-- A value is kept as it is where there is room for all of its levels. -/
theorem keep?_valueTree {v : Value} (h : DistinctKeys v) (hroom : height v ≤ room) :
    Tree.keep? room (valueTree v) = some v := by
  induction h generalizing room with
  | null => cases room <;> rfl
  | bool b => cases room <;> rfl
  | number n => cases room <;> rfl
  | string s => cases room <;> rfl
  | @array items _ ih =>
    rw [height] at hroom
    obtain ⟨room, rfl⟩ := Nat.exists_eq_add_one_of_ne_zero (by omega : room ≠ 0)
    have hitems := (itemsHeight_le_iff items room).mp (by omega)
    rw [valueTree, keep?_array_eq_some_iff, valueTrees_eq_map]
    refine ⟨items, ?_, rfl⟩
    rw [List.forall₂_map_left_iff, List.forall₂_same]
    exact fun v hv => ih v hv (hitems v hv)
  | @object members hkeys _ ih =>
    rw [height] at hroom
    obtain ⟨room, rfl⟩ := Nat.exists_eq_add_one_of_ne_zero (by omega : room ≠ 0)
    have hmembers := (membersHeight_le_iff members room).mp (by omega)
    rw [valueTree, keep?_object_eq_some_iff, valueMembers_eq_map]
    refine ⟨members, ?_, ?_⟩
    · rw [List.forall₂_map_left_iff, List.forall₂_same]
      exact fun m hm => ⟨rfl, ih m hm (hmembers m hm)⟩
    · rw [putAll_of_nodup (by simpa using hkeys), List.nil_append]

/-- What is kept has no key twice and fits into the room that there is. -/
theorem distinctKeys_of_keep? : ∀ {room : ℕ} {t : Tree} {v : Value},
    Tree.keep? room t = some v → DistinctKeys v ∧ height v ≤ room
  | _, .null, _, h => by
    rw [Tree.keep?] at h
    cases h
    exact ⟨.null, Nat.zero_le _⟩
  | _, .bool b, _, h => by
    rw [Tree.keep?] at h
    cases h
    exact ⟨.bool b, Nat.zero_le _⟩
  | _, .number n, _, h => by
    rw [Tree.keep?] at h
    obtain ⟨n, -, rfl⟩ := Option.map_eq_some_iff.mp h
    exact ⟨.number n, Nat.zero_le _⟩
  | _, .string s, _, h => by
    rw [Tree.keep?] at h
    obtain ⟨s, -, rfl⟩ := Option.map_eq_some_iff.mp h
    exact ⟨.string s, Nat.zero_le _⟩
  | 0, .array items, _, h => by cases h
  | 0, .object members, _, h => by cases h
  | room + 1, .array items, v, h => by
    obtain ⟨kept, hkept, rfl⟩ := (keep?_array_eq_some_iff items v).mp h
    have hitems : ∀ w ∈ kept, DistinctKeys w ∧ height w ≤ room := by
      intro w hw
      obtain ⟨t, ht⟩ := exists_of_forall₂ hkept w hw
      exact distinctKeys_of_keep? ht
    refine ⟨.array fun w hw => (hitems w hw).1, ?_⟩
    rw [height]
    exact Nat.succ_le_succ ((itemsHeight_le_iff kept room).mpr fun w hw => (hitems w hw).2)
  | room + 1, .object members, v, h => by
    obtain ⟨kept, hkept, rfl⟩ := (keep?_object_eq_some_iff members v).mp h
    obtain ⟨hkeys, hmem⟩ := putAll_spec [] kept List.nodup_nil
    have hmembers : ∀ m ∈ Members.putAll [] kept, DistinctKeys m.2 ∧ height m.2 ≤ room := by
      intro m hm
      have hkeptMem := (hmem m hm).resolve_left List.not_mem_nil
      obtain ⟨n, -, hn⟩ := exists_of_forall₂ hkept m hkeptMem
      exact distinctKeys_of_keep? hn
    refine ⟨.object hkeys fun m hm => (hmembers m hm).1, ?_⟩
    rw [height]
    exact Nat.succ_le_succ ((membersHeight_le_iff _ room).mpr fun m hm => (hmembers m hm).2)

end Keep

end SlackBridge.Proofs
