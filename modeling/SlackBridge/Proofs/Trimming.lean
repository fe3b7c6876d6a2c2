import Mathlib.Data.List.DropRight
import SlackBridge.Proofs.TextForms

/-!
# Blanks at the ends of a text

A text starts or ends solid if no blank character stands there. Trimming makes both ends solid and
touches nothing else, so it loses blanks only and leaves those between two solid ends alone.
-/

namespace SlackBridge.Proofs

open Text

/-- The text does not start with a blank character. -/
def StartsSolid (cs : List Char) : Prop :=
  ∀ c ∈ cs.head?, isBlank c = false

/-- The text does not end with a blank character. -/
def EndsSolid (cs : List Char) : Prop :=
  ∀ c ∈ cs.getLast?, isBlank c = false

/-- The characters of a text that are not blank. -/
def visible (cs : List Char) : List Char :=
  cs.filter fun c => !isBlank c

section Ends

variable {cs front back : List Char}

lemma StartsSolid.dropWhile (h : StartsSolid cs) : cs.dropWhile isBlank = cs := by
  cases cs with
  | nil => rfl
  | cons c cs =>
    apply List.dropWhile_cons_of_neg
    rw [h c rfl]
    exact Bool.false_ne_true

lemma StartsSolid.takeWhile (h : StartsSolid cs) : cs.takeWhile isBlank = [] := by
  cases cs with
  | nil => rfl
  | cons c cs =>
    apply List.takeWhile_cons_of_neg
    rw [h c rfl]
    exact Bool.false_ne_true

lemma startsSolid_dropWhile (cs : List Char) : StartsSolid (cs.dropWhile isBlank) := by
  intro c hc
  have hne : cs.dropWhile isBlank ≠ [] := by
    intro hnil
    rw [hnil] at hc
    cases hc
  rw [List.head?_eq_some_head hne] at hc
  cases hc
  exact List.head_dropWhile_not isBlank hne

lemma StartsSolid.of_append {front rest : List Char} (h : StartsSolid (front ++ rest)) :
    StartsSolid front := by
  intro c hc
  apply h
  rw [List.head?_append, Option.mem_def.mp hc]
  rfl

lemma EndsSolid.of_cons {c : Char} (h : EndsSolid (c :: cs)) : EndsSolid cs := by
  intro d hd
  apply h
  rw [List.getLast?_cons, Option.mem_def.mp hd]
  rfl

lemma not_endsSolid_of_blank (hne : cs ≠ []) (h : ∀ c ∈ cs, isBlank c = true) :
    ¬EndsSolid cs := by
  intro hsolid
  have hfalse := hsolid _ (List.getLast?_eq_some_getLast hne)
  rw [h _ (List.getLast_mem hne)] at hfalse
  cases hfalse

lemma notMem_of_blank {c : Char} (h : ∀ d ∈ cs, isBlank d = true) (hc : isBlank c = false) :
    c ∉ cs := by
  intro hmem
  rw [h c hmem] at hc
  cases hc

lemma EndsSolid.eq_nil_of_append {front blank : List Char} (h : EndsSolid (front ++ blank))
    (hblank : ∀ c ∈ blank, isBlank c = true) : blank = [] := by
  by_contra hne
  refine not_endsSolid_of_blank hne hblank fun c hc => h c ?_
  rw [List.getLast?_append, Option.mem_def.mp hc]
  rfl

lemma EndsSolid.of_append {front rest : List Char} (h : EndsSolid (front ++ rest)) :
    EndsSolid rest := by
  intro c hc
  apply h
  rw [List.getLast?_append, Option.mem_def.mp hc]
  rfl

/-! ### Dropping blanks -/

lemma endsSolid_dropBlankEnd (cs : List Char) : EndsSolid (dropBlankEnd cs) := by
  intro c hc
  unfold dropBlankEnd at hc
  rw [List.getLast?_reverse] at hc
  exact startsSolid_dropWhile cs.reverse c hc

lemma dropBlankEnd_append_rtakeWhile (cs : List Char) :
    dropBlankEnd cs ++ cs.rtakeWhile isBlank = cs :=
  List.rdropWhile_append_rtakeWhile

lemma dropWhile_append_of_endsSolid (hne : front ≠ []) (h : EndsSolid front) (rest : List Char) :
    (front ++ rest).dropWhile isBlank = front.dropWhile isBlank ++ rest := by
  have hkept : front.dropWhile isBlank ≠ [] := by
    rw [ne_eq, List.dropWhile_eq_nil_iff]
    intro hall
    exact not_endsSolid_of_blank hne hall h
  rw [List.dropWhile_append, if_neg]
  rwa [List.isEmpty_iff]

lemma dropBlankEnd_append_of_startsSolid (hne : back ≠ []) (h : StartsSolid back)
    (rest : List Char) : dropBlankEnd (rest ++ back) = rest ++ dropBlankEnd back := by
  have hend : EndsSolid back.reverse := by
    intro c hc
    rw [List.getLast?_reverse] at hc
    exact h c hc
  unfold dropBlankEnd
  rw [List.reverse_append,
    dropWhile_append_of_endsSolid (fun hnil => hne (List.reverse_eq_nil_iff.mp hnil)) hend,
    List.reverse_append, List.reverse_reverse]

lemma dropBlankEnd_append_blank {blank : List Char} (h : ∀ c ∈ blank, isBlank c = true)
    (rest : List Char) : dropBlankEnd (rest ++ blank) = dropBlankEnd rest := by
  unfold dropBlankEnd
  rw [List.reverse_append, List.dropWhile_append_of_pos fun c hc => h c (List.mem_reverse.mp hc)]

lemma startsSolid_trimChars (cs : List Char) : StartsSolid (trimChars cs) := by
  have hsolid := startsSolid_dropWhile cs
  rw [← dropBlankEnd_append_rtakeWhile (cs.dropWhile isBlank)] at hsolid
  exact hsolid.of_append

lemma endsSolid_trimChars (cs : List Char) : EndsSolid (trimChars cs) :=
  endsSolid_dropBlankEnd _

lemma trimChars_of_solid (hstart : StartsSolid cs) (hend : EndsSolid cs) : trimChars cs = cs := by
  have hkept := dropBlankEnd_append_rtakeWhile cs
  rw [← hkept] at hend
  have hnone := hend.eq_nil_of_append fun c hc => List.mem_rtakeWhile_imp hc
  rw [hnone, List.append_nil] at hkept
  rw [trimChars, hstart.dropWhile, hkept]

lemma trim_trim (text : String) : trim (trim text) = trim text := by
  unfold trim
  rw [String.toList_ofList, trimChars_of_solid (startsSolid_trimChars _) (endsSolid_trimChars _)]

lemma isInfix_trimChars (cs : List Char) : trimChars cs <:+: cs :=
  (List.rdropWhile_prefix isBlank _).isInfix.trans (List.dropWhile_suffix isBlank).isInfix

lemma exists_around_trimChars (cs : List Char) : ∃ front back,
    cs = front ++ (trimChars cs ++ back) ∧ (∀ c ∈ front, isBlank c = true) ∧
      ∀ c ∈ back, isBlank c = true := by
  refine ⟨cs.takeWhile isBlank, (cs.dropWhile isBlank).rtakeWhile isBlank, ?_,
    fun c hc => List.mem_takeWhile_imp hc, fun c hc => List.mem_rtakeWhile_imp hc⟩
  rw [trimChars, dropBlankEnd_append_rtakeWhile, List.takeWhile_append_dropWhile]

lemma trim_around {front back : String} (hfront : isBlankText front = true)
    (hback : isBlankText back = true) {text : String} (hstart : StartsSolid text.toList)
    (hend : EndsSolid text.toList) (hne : text.toList ≠ []) :
    trim (front ++ text ++ back) = text := by
  have hfrontBlank : ∀ c ∈ front.toList, isBlank c = true := List.all_eq_true.mp hfront
  have hbackBlank : ∀ c ∈ back.toList, isBlank c = true := List.all_eq_true.mp hback
  have hkept : text.toList.dropWhile isBlank = text.toList := hstart.dropWhile
  unfold trim trimChars
  rw [String.toList_append, String.toList_append, List.append_assoc,
    List.dropWhile_append_of_pos hfrontBlank, dropWhile_append_of_endsSolid hne hend, hkept,
    dropBlankEnd_append_blank hbackBlank]
  have htrim := trimChars_of_solid hstart hend
  rw [trimChars, hkept] at htrim
  rw [htrim, String.ofList_toList]

lemma exists_around_trim (text : String) : ∃ front back, text = front ++ trim text ++ back ∧
    isBlankText front = true ∧ isBlankText back = true := by
  obtain ⟨front, back, htext, hfront, hback⟩ := exists_around_trimChars text.toList
  refine ⟨String.ofList front, String.ofList back, ?_, ?_, ?_⟩
  · rw [trim, ← String.ofList_append, ← String.ofList_append, List.append_assoc, ← htext,
      String.ofList_toList]
  · rw [isBlankText, String.toList_ofList]
    exact List.all_eq_true.mpr hfront
  · rw [isBlankText, String.toList_ofList]
    exact List.all_eq_true.mpr hback

/-- Blanks in the middle of a text survive trimming. -/
lemma trimChars_append_inj (hfront : front ≠ []) (hend : EndsSolid front) (hback : StartsSolid back)
    {blank : List Char} (hblank : ∀ c ∈ blank, isBlank c = true) :
    trimChars (front ++ (blank ++ ' ' :: back)) = trimChars (front ++ ' ' :: back) ↔
      blank = [] ∨ back = [] := by
  unfold trimChars
  rw [dropWhile_append_of_endsSolid hfront hend, dropWhile_append_of_endsSolid hfront hend]
  constructor
  · intro h
    by_contra hnot
    obtain ⟨hblankNe, hbackNe⟩ := not_or.mp hnot
    have hleft : front.dropWhile isBlank ++ (blank ++ ' ' :: back) =
        (front.dropWhile isBlank ++ (blank ++ [' '])) ++ back := by simp
    have hright : front.dropWhile isBlank ++ ' ' :: back =
        (front.dropWhile isBlank ++ [' ']) ++ back := by simp
    -- trimming cuts the same off both texts, so they would be of one length
    rw [hleft, hright, dropBlankEnd_append_of_startsSolid hbackNe hback,
      dropBlankEnd_append_of_startsSolid hbackNe hback] at h
    have hlength := congrArg List.length h
    have hpos := List.length_pos_of_ne_nil hblankNe
    simp only [List.length_append, List.length_singleton] at hlength
    omega
  · rintro (rfl | rfl)
    · rfl
    · have hone : ∀ c ∈ [' '], isBlank c = true := by
        intro c hc
        rw [List.mem_singleton.mp hc]
        decide
      have hall : ∀ c ∈ blank ++ [' '], isBlank c = true := by
        intro c hc
        rcases List.mem_append.mp hc with hc | hc
        · exact hblank c hc
        · exact hone c hc
      rw [dropBlankEnd_append_blank hall, dropBlankEnd_append_blank hone]

end Ends

/-! ### The characters that are not blank -/

section Visible

variable {cs : List Char}

lemma visible_append (cs ds : List Char) : visible (cs ++ ds) = visible cs ++ visible ds :=
  List.filter_append ..

lemma visible_eq_nil_iff (cs : List Char) : visible cs = [] ↔ ∀ c ∈ cs, isBlank c = true := by
  unfold visible
  simp only [List.filter_eq_nil_iff, Bool.not_eq_true', Bool.not_eq_false]

lemma visible_of_blank (h : ∀ c ∈ cs, isBlank c = true) : visible cs = [] :=
  (visible_eq_nil_iff cs).mpr h

lemma visible_dropWhile (cs : List Char) : visible (cs.dropWhile isBlank) = visible cs := by
  conv_rhs => rw [← List.takeWhile_append_dropWhile (p := isBlank) (l := cs), visible_append]
  rw [visible_of_blank fun c hc => List.mem_takeWhile_imp hc, List.nil_append]

lemma visible_dropBlankEnd (cs : List Char) : visible (dropBlankEnd cs) = visible cs := by
  conv_rhs => rw [← dropBlankEnd_append_rtakeWhile cs, visible_append]
  rw [visible_of_blank fun c hc => List.mem_rtakeWhile_imp hc, List.append_nil]

lemma visible_trimChars (cs : List Char) : visible (trimChars cs) = visible cs := by
  rw [trimChars, visible_dropBlankEnd, visible_dropWhile]

end Visible

end SlackBridge.Proofs
