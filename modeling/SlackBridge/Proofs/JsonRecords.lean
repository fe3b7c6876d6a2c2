import Mathlib.Data.List.Forall2
import Mathlib.Data.List.Nodup
import Mathlib.Tactic.Common
import SlackBridge.Json.Record

/-!
# Fields of objects

What a decoder sees of an object without repeated keys: in each field that it knows, the member of
that name.
-/

namespace SlackBridge.Proofs

open Json

/-- An object whose keys are all texts. -/
def objectTree (members : List (String × Tree)) : Tree :=
  .object (members.map fun m => (some m.1, m.2))

/-- The text that a field holds, if it holds one. -/
inductive HoldsText (members : List (String × Tree)) (name : String) : Option String → Prop
  | absent (h : members.lookup name = none) : HoldsText members name none
  | null (h : members.lookup name = some .null) : HoldsText members name none
  | text {s : String} (h : members.lookup name = some (.string (some s))) :
      HoldsText members name (some s)

/-- The members of the object that a field holds, none if it holds nothing. -/
inductive HoldsObject (members : List (String × Tree)) (name : String) :
    List (String × Tree) → Prop
  | absent (h : members.lookup name = none) : HoldsObject members name []
  | null (h : members.lookup name = some .null) : HoldsObject members name []
  | object {inner : List (String × Tree)} (h : members.lookup name = some (objectTree inner))
      (hkeys : (inner.map Prod.fst).Nodup) : HoldsObject members name inner

/-! ### Looking up -/

section Lookup

variable {α : Type}

lemma lookup_eq_some_iff_mem {members : List (String × α)} (h : (members.map Prod.fst).Nodup)
    (name : String) (a : α) : members.lookup name = some a ↔ (name, a) ∈ members := by
  induction members with
  | nil => simp
  | cons m rest ih =>
    obtain ⟨k, b⟩ := m
    rw [List.map_cons, List.nodup_cons] at h
    rw [List.lookup_cons, List.mem_cons]
    by_cases hk : name = k
    · subst hk
      have hnot : (name, a) ∉ rest := fun hmem => h.1 (List.mem_map.mpr ⟨_, hmem, rfl⟩)
      simp only [beq_self_eq_true, Option.some.injEq, Prod.mk.injEq, true_and, hnot, or_false,
        eq_comm]
    · simp only [beq_eq_false_iff_ne.mpr hk, ih h.2, Prod.mk.injEq, hk, false_and, false_or]

lemma lookup_eq_none_iff_notMem (members : List (String × α)) (name : String) :
    members.lookup name = none ↔ name ∉ members.map Prod.fst := by
  rw [List.lookup_eq_none_iff, List.mem_map]
  constructor
  · rintro h ⟨m, hm, rfl⟩
    exact absurd rfl (bne_iff_ne.mp (h m hm))
  · intro h m hm
    rw [bne_iff_ne]
    rintro rfl
    exact h ⟨m, hm, rfl⟩

/-- The order of the members makes no difference. -/
lemma lookup_eq_of_perm {members others : List (String × α)} (h : members.Perm others)
    (hkeys : (members.map Prod.fst).Nodup) (name : String) :
    members.lookup name = others.lookup name := by
  have hothers : (others.map Prod.fst).Nodup := (h.map Prod.fst).nodup_iff.mp hkeys
  refine Option.ext fun a => ?_
  rw [lookup_eq_some_iff_mem hkeys, lookup_eq_some_iff_mem hothers, h.mem_iff]

lemma lookup_filter_contains {names : List String} {name : String} (hname : name ∈ names)
    (members : List (String × α)) :
    (members.filter fun m => names.contains m.1).lookup name = members.lookup name := by
  induction members with
  | nil => rfl
  | cons m rest ih =>
    by_cases hm : names.contains m.1 = true
    · rw [List.filter_cons, if_pos hm, List.lookup_cons, List.lookup_cons, ih]
    · have hne : name ≠ m.1 := by
        rintro rfl
        exact hm (List.contains_iff_mem.mpr hname)
      rw [List.filter_cons, if_neg hm, ih, List.lookup_cons, beq_eq_false_iff_ne.mpr hne]

end Lookup

/-! ### Lists -/

/-- Each item of a list is decoded, or none is. -/
lemma mapM_eq_some_iff {α β : Type} (f : α → Option β) (as : List α) (bs : List β) :
    as.mapM f = some bs ↔ List.Forall₂ (fun a b => f a = some b) as bs := by
  induction as generalizing bs with
  | nil => simp [eq_comm]
  | cons a rest ih =>
    simp only [List.mapM_cons, Option.bind_eq_bind, Option.bind_eq_some_iff, Option.pure_def,
      Option.some.injEq, List.forall₂_cons_left_iff, ih]
    constructor
    · rintro ⟨b, hb, bs, hbs, rfl⟩
      exact ⟨b, bs, hb, hbs, rfl⟩
    · rintro ⟨b, bs, hb, hbs, rfl⟩
      exact ⟨b, hb, bs, hbs, rfl⟩

lemma exists_of_forall₂ {α β : Type} {R : α → β → Prop} {as : List α} {bs : List β}
    (h : List.Forall₂ R as bs) : ∀ b ∈ bs, ∃ a, R a b := by
  induction h with
  | nil => exact List.forall_mem_nil _
  | cons hab _ ih => exact List.forall_mem_cons.mpr ⟨⟨_, hab⟩, ih⟩

/-! ### Records -/

lemma known?_objectTree (names : List String) (members : List (String × Tree)) :
    Record.known? names (members.map fun m => (some m.1, m.2)) =
      some (members.filter fun m => names.contains m.1) := by
  induction members with
  | nil => rfl
  | cons m rest ih =>
    rw [List.map_cons, Record.known?, ih, Option.map_some, List.filter_cons]

/-- An object without repeated keys is read as a record. -/
lemma read?_objectTree (names : List String) {members : List (String × Tree)}
    (hkeys : (members.map Prod.fst).Nodup) :
    Record.read? names (objectTree members) =
      some ⟨members.filter fun m => names.contains m.1, false⟩ := by
  have hknown : ((members.filter fun m => names.contains m.1).map Prod.fst).Nodup :=
    hkeys.sublist (List.filter_sublist.map Prod.fst)
  unfold Record.read? objectTree
  simp only [known?_objectTree, hknown, if_true]

section Fields

variable {α : Type} {members : List (String × Tree)} {names : List String} {name : String}

/-- What a record says of a field is what the object says. -/
def Shows (r : Record) (members : List (String × Tree)) (names : List String) : Prop :=
  ∀ name ∈ names, r.get? name = members.lookup name

lemma exists_shows (names : List String) (hkeys : (members.map Prod.fst).Nodup) :
    ∃ r, Record.read? names (objectTree members) = some r ∧ Shows r members names :=
  ⟨_, read?_objectTree names hkeys, fun _ hname => lookup_filter_contains hname members⟩

variable {r : Record} (hr : Shows r members names) (hname : name ∈ names)

include hr hname

lemma optional_of_holdsText {s : Option String} (h : HoldsText members name s) :
    r.optional name Decoder.string = some s := by
  unfold Record.optional Record.withDefault
  rw [hr name hname]
  cases h with
  | absent h => rw [h]
  | null h =>
    rw [h]
    rfl
  | text h =>
    rw [h]
    rfl

/-- An object that is held is decoded; nothing is read as if nothing were there. -/
lemma optional_of_holdsObject {inner : List (String × Tree)} (h : HoldsObject members name inner)
    {decode : Decoder α} {a : α}
    (hdecode : (inner.map Prod.fst).Nodup → decode (objectTree inner) = some a) :
    r.optional name decode = some (some a) ∨ (r.optional name decode = some none ∧ inner = []) := by
  unfold Record.optional Record.withDefault
  rw [hr name hname]
  cases h with
  | absent h =>
    rw [h]
    exact .inr ⟨rfl, rfl⟩
  | null h =>
    rw [h]
    exact .inr ⟨rfl, rfl⟩
  | object h hkeys =>
    rw [h]
    refine .inl ?_
    have hinner : Decoder.nullable decode (objectTree inner) =
        (decode (objectTree inner)).map some := rfl
    dsimp only
    rw [hinner, hdecode hkeys, Option.map_some]

end Fields

lemma eq_none_of_holdsText_nil {name : String} {s : Option String} (h : HoldsText [] name s) :
    s = none := by
  cases h with
  | absent => rfl
  | null => rfl
  | text h => cases h

end SlackBridge.Proofs
