import Mathlib.Tactic.Common
import SlackBridge.Proofs.TextForms
import SlackBridge.Settings.Environment

/-!
# References to variables

A text is cut behind each of its references, and what is behind the last one is an ending. The
references are resolved cut by cut from the left: the value of a variable stands for the reference
as it is, and the first fault is the one that is reported.
-/

namespace SlackBridge.Proofs

open Settings

/-- A reference to a variable, as it is written. -/
def reference (name : List Char) : List Char :=
  '$' :: '\x7b' :: (name ++ ['\x7d'])

/-- A text up to the end of its first reference. Dollar signs that no brace follows belong to the
text, and a name may be any text up to the first closing brace. -/
structure Cut where
  text : List Char
  name : List Char
  quiet : ¬['$', '\x7b'] <:+: text
  closed : '\x7d' ∉ name

/-- What stands behind the last reference: no other one, or one that is never closed. -/
inductive Ending
  | quiet (text : List Char) (h : ¬['$', '\x7b'] <:+: text)
  | unclosed (text name : List Char) (h : ¬['$', '\x7b'] <:+: text) (hname : '\x7d' ∉ name)

namespace Cut

def chars (c : Cut) : List Char :=
  c.text ++ reference c.name

def resolve (env : Environment) (c : Cut) : Except Problem (List Char) :=
  match env (String.ofList c.name) with
  | none => .error (.unsetVariable (String.ofList c.name))
  | some value => .ok (c.text ++ value.toList)

end Cut

namespace Ending

def chars : Ending → List Char
  | quiet text _ => text
  | unclosed text name _ _ => text ++ '$' :: '\x7b' :: name

def resolve : Ending → Except Problem (List Char)
  | quiet text _ => .ok text
  | unclosed .. => .error .unterminatedReference

end Ending

/-- The text that is made of cuts and an ending. -/
def referring (cuts : List Cut) (e : Ending) : List Char :=
  cuts.flatMap Cut.chars ++ e.chars

/-- What becomes of cuts and an ending: all that they resolve to, or the first fault. -/
def resolved (env : Environment) (cuts : List Cut) (e : Ending) : Except Problem (List Char) := do
  let front ← cuts.mapM (Cut.resolve env)
  let back ← e.resolve
  return front.flatten ++ back

/-! ### Cutting a text -/

section Cutting

variable {cs : List Char}

lemma referring_cons (c : Cut) (cuts : List Cut) (e : Ending) :
    referring (c :: cuts) e = c.chars ++ referring cuts e := by
  simp [referring]

lemma exists_first_reference (h : ['$', '\x7b'] <:+: cs) :
    ∃ text rest, cs = text ++ '$' :: '\x7b' :: rest ∧ ¬['$', '\x7b'] <:+: text := by
  induction cs with
  | nil => exact absurd (List.infix_nil.mp h) (List.cons_ne_nil _ _)
  | cons c cs ih =>
    by_cases hstart : ['$', '\x7b'] <+: c :: cs
    · obtain ⟨rest, hrest⟩ := hstart
      exact ⟨[], rest, hrest.symm, by decide⟩
    · obtain ⟨text, rest, rfl, htext⟩ := ih ((List.infix_cons_iff.mp h).resolve_left hstart)
      refine ⟨c :: text, rest, rfl, fun hin => ?_⟩
      rcases List.infix_cons_iff.mp hin with hpre | hlater
      · exact hstart (hpre.trans (List.prefix_append (c :: text) _))
      · exact htext hlater

/-- Every text is made of cuts and an ending. -/
lemma exists_referring (cs : List Char) : ∃ cuts e, cs = referring cuts e := by
  -- each cut leaves a shorter text
  induction hlength : cs.length using Nat.strongRecOn generalizing cs with
  | _ n ih =>
    by_cases hquiet : ['$', '\x7b'] <:+: cs
    · obtain ⟨text, behind, rfl, htext⟩ := exists_first_reference hquiet
      by_cases hclosed : '\x7d' ∈ behind
      · obtain ⟨name, rest, rfl, hname⟩ := List.eq_append_cons_of_mem hclosed
        have hshorter : rest.length < n := by
          simp only [List.length_append, List.length_cons] at hlength
          omega
        obtain ⟨cuts, e, rfl⟩ := ih rest.length hshorter rest rfl
        exact ⟨⟨text, name, htext, hname⟩ :: cuts, e, by
          simp [referring, Cut.chars, reference]⟩
      · exact ⟨[], .unclosed text behind htext hclosed, rfl⟩
    · exact ⟨[], .quiet cs hquiet, rfl⟩

end Cutting

/-! ### Resolving references -/

section Resolving

variable (env : Environment)

lemma interpolate_cons {c : Char} {cs : List Char} (h : ¬['$', '\x7b'] <+: c :: cs) :
    interpolate env (c :: cs) = (interpolate env cs).map (c :: ·) := by
  rw [interpolate]
  rintro rest rfl rfl
  exact h (List.prefix_append ['$', '\x7b'] rest)

/-- A text without references stays in front of what follows, if no reference begins where the two
meet. -/
lemma interpolate_append {text rest : List Char} (hquiet : ¬['$', '\x7b'] <:+: text)
    (hrest : rest.head? ≠ some '\x7b') :
    interpolate env (text ++ rest) = (interpolate env rest).map (text ++ ·) := by
  induction text with
  | nil =>
    rw [List.nil_append]
    cases interpolate env rest <;> rfl
  | cons c text ih =>
    have htail : ¬['$', '\x7b'] <:+: text :=
      fun hin => hquiet (hin.trans (List.suffix_cons c text).isInfix)
    have hstart : ¬['$', '\x7b'] <+: c :: (text ++ rest) := by
      rw [List.cons_prefix_cons]
      rintro ⟨rfl, hpre⟩
      cases text with
      | nil =>
        obtain ⟨more, rfl⟩ := hpre
        exact hrest rfl
      | cons d text =>
        obtain ⟨rfl, -⟩ := List.cons_prefix_cons.mp hpre
        exact hquiet (List.prefix_append ['$', '\x7b'] text).isInfix
    rw [List.cons_append, interpolate_cons env hstart, ih htail]
    cases interpolate env rest <;> rfl

lemma interpolate_of_no_reference (cs : List Char) (h : ¬['$', '\x7b'] <:+: cs) :
    interpolate env cs = .ok cs := by
  have hend : ([] : List Char).head? ≠ some '\x7b' := nofun
  have happend := interpolate_append env h hend
  rwa [List.append_nil, interpolate, Except.map, List.append_nil] at happend

lemma interpolate_of_no_dollar {cs : List Char} (h : '$' ∉ cs) : interpolate env cs = .ok cs :=
  interpolate_of_no_reference env cs fun hopens => h (hopens.subset List.mem_cons_self)

/-- A reference is resolved to the value of its variable, and what follows is resolved by itself. -/
lemma interpolate_reference {name : List Char} (hname : '\x7d' ∉ name) (rest : List Char) :
    interpolate env (reference name ++ rest) = match env (String.ofList name) with
      | none => .error (.unsetVariable (String.ofList name))
      | some value => (interpolate env rest).map (value.toList ++ ·) := by
  obtain ⟨htake, hdrop⟩ := takeWhile_dropWhile_of_stop (bne_of_notMem hname)
    (bne_self_eq_false '\x7d') rest
  have hchars : reference name ++ rest = '$' :: '\x7b' :: (name ++ '\x7d' :: rest) := by
    simp [reference]
  rw [hchars, interpolate]
  split
  · next h => cases hdrop.symm.trans h
  · next h =>
    cases hdrop.symm.trans h
    cases henv : env (String.ofList name) with
    | none => simp only [htake, henv]
    | some value => simp only [htake, henv]

lemma interpolate_unclosed {name : List Char} (hname : '\x7d' ∉ name) :
    interpolate env ('$' :: '\x7b' :: name) = .error .unterminatedReference := by
  have hdrop : name.dropWhile (· != '\x7d') = [] :=
    List.dropWhile_eq_nil_iff.mpr (bne_of_notMem hname)
  rw [interpolate]
  split
  · rfl
  · next h => cases hdrop.symm.trans h

lemma interpolate_cut (c : Cut) (rest : List Char) :
    interpolate env (c.chars ++ rest) =
      (c.resolve env).bind fun front => (interpolate env rest).map (front ++ ·) := by
  unfold Cut.chars Cut.resolve
  have hmeet : (reference c.name ++ rest).head? ≠ some '\x7b' := by
    unfold reference
    simp
  rw [List.append_assoc, interpolate_append env c.quiet hmeet, interpolate_reference env c.closed]
  cases env (String.ofList c.name) with
  | none => rfl
  | some value => cases interpolate env rest <;> simp [Except.map, Except.bind]

lemma interpolate_ending (e : Ending) : interpolate env e.chars = e.resolve := by
  cases e with
  | quiet text h => exact interpolate_of_no_reference env text h
  | unclosed text name h hname =>
    have hmeet : ('$' :: '\x7b' :: name).head? ≠ some '\x7b' := by
      simp
    unfold Ending.chars Ending.resolve
    rw [interpolate_append env h hmeet, interpolate_unclosed env hname]
    rfl

/-- The cuts are resolved from the left and the ending after them. -/
lemma interpolate_referring (cuts : List Cut) (e : Ending) :
    interpolate env (referring cuts e) = resolved env cuts e := by
  induction cuts with
  | nil =>
    have hchars : referring [] e = e.chars := rfl
    rw [hchars, interpolate_ending]
    cases h : e.resolve with
    | error fault => simp [resolved, h, bind, Except.bind, pure, Except.pure]
    | ok back => simp [resolved, h, bind, Except.bind, pure, Except.pure]
  | cons c cuts ih =>
    rw [referring_cons, interpolate_cut, ih]
    unfold resolved
    rw [List.mapM_cons]
    cases c.resolve env with
    | error fault => rfl
    | ok front =>
      cases cuts.mapM (Cut.resolve env) with
      | error fault => rfl
      | ok fronts =>
        cases e.resolve with
        | error fault => rfl
        | ok back => simp [bind, Except.bind, pure, Except.pure, Except.map]

end Resolving

/-! ### Texts that can be resolved -/

section Found

variable {env : Environment}

lemma interpolate_cut_eq_ok_iff (c : Cut) (rest found : List Char) :
    interpolate env (c.chars ++ rest) = .ok found ↔ ∃ front back,
      c.resolve env = .ok front ∧ interpolate env rest = .ok back ∧ found = front ++ back := by
  rw [interpolate_cut]
  cases c.resolve env with
  | error fault => simp [Except.bind]
  | ok front => cases interpolate env rest <;> simp [Except.bind, Except.map, eq_comm]

/-- What a text resolves to stands in front of what follows, if no reference begins where the two
meet. -/
lemma interpolate_append_of_ok {text found rest : List Char}
    (h : interpolate env text = .ok found) (hrest : rest.head? ≠ some '\x7b') :
    interpolate env (text ++ rest) = (interpolate env rest).map (found ++ ·) := by
  obtain ⟨cuts, e, rfl⟩ := exists_referring text
  induction cuts generalizing found with
  | nil =>
    have hchars : referring [] e = e.chars := rfl
    rw [hchars, interpolate_ending] at h
    cases e with
    | quiet text hquiet =>
      cases h
      exact interpolate_append env hquiet hrest
    | unclosed => cases h
  | cons c cuts ih =>
    rw [referring_cons] at h ⊢
    obtain ⟨front, back, hfront, hback, rfl⟩ := (interpolate_cut_eq_ok_iff c _ found).mp h
    rw [List.append_assoc, interpolate_cut, hfront, ih hback]
    cases interpolate env rest <;> simp [Except.bind, Except.map]

/-- More variables change nothing of a text that can be resolved without them. -/
lemma interpolate_mono {env' : Environment}
    (hmore : ∀ name value, env name = some value → env' name = some value)
    {text found : List Char} (h : interpolate env text = .ok found) :
    interpolate env' text = .ok found := by
  obtain ⟨cuts, e, rfl⟩ := exists_referring text
  induction cuts generalizing found with
  | nil =>
    have hchars : referring [] e = e.chars := rfl
    rw [hchars, interpolate_ending] at h ⊢
    exact h
  | cons c cuts ih =>
    rw [referring_cons] at h ⊢
    obtain ⟨front, back, hfront, hback, rfl⟩ := (interpolate_cut_eq_ok_iff c _ found).mp h
    refine (interpolate_cut_eq_ok_iff c _ _).mpr ⟨front, back, ?_, ih hback, rfl⟩
    unfold Cut.resolve at hfront ⊢
    cases hvalue : env (String.ofList c.name) with
    | none =>
      rw [hvalue] at hfront
      cases hfront
    | some value =>
      rw [hvalue] at hfront
      rw [hmore _ value hvalue]
      exact hfront

end Found

/-- Every text is made of cuts and an ending, and what it resolves to is what they do. Of a text
without references nothing changes; the value of a variable stands for a reference to it as it is,
and what follows is resolved by itself; a variable that is not set and a reference that is not
closed are faults. The first fault from the left is the one that counts. -/
theorem interpolate_left_to_right (env : Environment) :
    (∀ cs, ∃ cuts e, cs = referring cuts e) ∧
    (∀ cuts e, interpolate env (referring cuts e) = resolved env cuts e) ∧
    (∀ e : Ending, interpolate env e.chars = e.resolve) ∧
    ∀ (c : Cut) (rest : List Char), interpolate env (c.chars ++ rest) =
      match env (String.ofList c.name) with
      | none => .error (.unsetVariable (String.ofList c.name))
      | some value => (interpolate env rest).map (c.text ++ value.toList ++ ·) := by
  refine ⟨exists_referring, interpolate_referring env, interpolate_ending env, fun c rest => ?_⟩
  rw [interpolate_cut]
  unfold Cut.resolve
  cases env (String.ofList c.name) with
  | none => rfl
  | some value => rfl

/-- A dollar sign before a reference and one at the end are kept, and what a value refers to is not
looked up. -/
example : interpolate (fun name => if name = "A" then some "$\x7bB\x7d" else none)
    "$$$\x7bA\x7d$".toList = .ok "$$$\x7bB\x7d$".toList := by
  cbv

end SlackBridge.Proofs
