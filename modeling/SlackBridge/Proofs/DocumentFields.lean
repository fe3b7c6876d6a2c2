import Mathlib.Data.List.Basic
import SlackBridge.Proofs.JsonRecords

/-!
# Fields of documents

What a decoder takes from a document, in terms of the document alone: the field under a key, or at
the place of the key where a record is written as an array, and the first item of a list. A document
that is decoded holds nothing else that the result could come from.
-/

namespace SlackBridge.Proofs

open Json

/-- The field of a record with the given names. An array lists the fields in their order. -/
def fieldIn? (names : List String) (name : String) : Tree → Option Tree
  | .object members => members.lookup (some name)
  | .array items => items[names.idxOf name]?
  | _ => none

/-- The text that a field holds. -/
def textIn? (names : List String) (name : String) (t : Tree) : Option String :=
  (fieldIn? names name t).bind Decoder.string

def firstItem? : Tree → Option Tree
  | .array items => items.head?
  | _ => none

/-! ### Records -/

section Records

variable {names : List String} {name : String} {t : Tree} {r : Record}

lemma lookup_zip {α : Type} (hname : name ∈ names) (items : List α) :
    (names.zip items).lookup name = items[names.idxOf name]? := by
  induction names generalizing items with
  | nil => cases hname
  | cons k names ih =>
    cases items with
    | nil => rfl
    | cons a items =>
      rw [List.zip_cons_cons, List.lookup_cons]
      by_cases hk : name = k
      · subst hk
        rw [beq_self_eq_true, List.idxOf_cons_self, List.getElem?_cons_zero]
      · have hmem := (List.mem_cons.mp hname).resolve_left hk
        rw [beq_eq_false_iff_ne.mpr hk, List.idxOf_cons_ne _ (Ne.symm hk),
          List.getElem?_cons_succ]
        exact ih hmem items

/-- Members that a record does not know make no difference to those it knows. -/
lemma lookup_known? (hname : name ∈ names) {members : List (Option String × Tree)}
    {given : List (String × Tree)} (h : Record.known? names members = some given) :
    given.lookup name = members.lookup (some name) := by
  induction members generalizing given with
  | nil =>
    cases h
    rfl
  | cons m rest ih =>
    obtain ⟨_ | k, t⟩ := m
    · cases h
    · rw [Record.known?, Option.map_eq_some_iff] at h
      obtain ⟨found, hfound, rfl⟩ := h
      rw [List.lookup_cons]
      by_cases hk : name = k
      · subst hk
        rw [if_pos (List.contains_iff_mem.mpr hname), List.lookup_cons, beq_self_eq_true,
          beq_self_eq_true]
      · have hkey : (some name == some k) = false :=
          beq_eq_false_iff_ne.mpr fun heq => hk (Option.some.inj heq)
        rw [hkey, ← ih hfound]
        split
        · rw [List.lookup_cons, beq_eq_false_iff_ne.mpr hk]
        · rfl

lemma get?_of_read? (hname : name ∈ names) (h : Record.read? names t = some r) :
    r.get? name = fieldIn? names name t := by
  unfold Record.read? at h
  split at h
  · split at h
    · cases h
      exact lookup_zip hname _
    · cases h
  · split at h
    · next members given hgiven =>
      split at h
      · cases h
        exact lookup_known? hname hgiven
      · cases h
    · cases h
  · cases h

end Records

/-! ### Fields that may be missing -/

section Fields

variable {α β : Type} {decode : Decoder α} {names : List String} {name : String} {t : Tree}
  {r : Record} (hr : Record.read? names t = some r) (hname : name ∈ names)

include hr hname

/-- What is taken from an optional field is what the document shows there. -/
lemma bind_optional {pick : α → Option β} {look : Tree → Option β} {v : Option α}
    (hlook : ∀ t a, decode t = some a → pick a = look t) (hnull : look .null = none)
    (h : r.optional name decode = some v) : v.bind pick = (fieldIn? names name t).bind look := by
  unfold Record.optional Record.withDefault at h
  rw [get?_of_read? hname hr] at h
  cases hfield : fieldIn? names name t with
  | none =>
    rw [hfield] at h
    cases h
    rfl
  | some inner =>
    rw [hfield] at h
    rw [Option.bind_some]
    dsimp only at h
    unfold Decoder.nullable at h
    split at h
    · cases h
      exact hnull.symm
    · obtain ⟨a, ha, rfl⟩ := Option.map_eq_some_iff.mp h
      exact hlook _ a ha

lemma eq_textIn? {v : Option String} (h : r.optional name Decoder.string = some v) :
    v = textIn? names name t := by
  have hbind : v.bind some = (fieldIn? names name t).bind Decoder.string :=
    bind_optional hr hname (fun _ _ ha => ha.symm) rfl h
  rwa [Option.bind_fun_some] at hbind

lemma eq_getD_textIn? {default v : String}
    (h : r.withDefault name default Decoder.string = some v) :
    v = (textIn? names name t).getD default := by
  unfold Record.withDefault at h
  rw [get?_of_read? hname hr] at h
  unfold textIn?
  cases hfield : fieldIn? names name t with
  | none =>
    rw [hfield] at h
    cases h
    rfl
  | some inner =>
    rw [hfield] at h
    rw [Option.bind_some, show Decoder.string inner = some v from h, Option.getD_some]

/-- The first of a list of items is decoded from the first item. -/
lemma head?_withDefault {as : List α} (h : r.withDefault name [] (.list decode) = some as) :
    Option.Rel (fun t a => decode t = some a) ((fieldIn? names name t).bind firstItem?)
      as.head? := by
  unfold Record.withDefault at h
  rw [get?_of_read? hname hr] at h
  cases hfield : fieldIn? names name t with
  | none =>
    rw [hfield] at h
    cases h
    exact .none
  | some inner =>
    rw [hfield] at h
    rw [Option.bind_some]
    dsimp only at h
    unfold Decoder.list at h
    split at h
    · next items =>
      rw [mapM_eq_some_iff] at h
      cases h with
      | nil => exact .none
      | cons ha _ => exact .some ha
    · cases h

end Fields

end SlackBridge.Proofs
