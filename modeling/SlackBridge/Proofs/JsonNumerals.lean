import SlackBridge.Json.Number
import SlackBridge.Proofs.TextForms

/-!
# Numerals

The numerals of a JSON document as a grammar. The reader recognises these and no other texts. A
numeral may be too large to have a value; it is a numeral all the same.
-/

namespace SlackBridge.Proofs

open Json

/-- The fraction of a numeral, if it has one. -/
inductive IsFraction : List Char → Prop
  | nil : IsFraction []
  | point {digits : List Char} (h : IsDecimal digits) : IsFraction ('.' :: digits)

/-- The exponent of a numeral, if it has one. -/
inductive IsExponent : List Char → Prop
  | nil : IsExponent []
  | mark {mark : Char} {digits : List Char} (sign : List Char) (hmark : mark = 'e' ∨ mark = 'E')
      (hsign : sign ∈ [[], ['+'], ['-']]) (h : IsDecimal digits) :
      IsExponent (mark :: (sign ++ digits))

/-- A numeral without a sign: digits without a superfluous zero in front, perhaps a fraction and an
exponent. -/
inductive IsUnsigned : List Char → Prop
  | mk {whole fraction exponent : List Char} (hwhole : IsDecimal whole)
      (hzero : whole.head? = some '0' → whole = ['0']) (hfraction : IsFraction fraction)
      (hexponent : IsExponent exponent) : IsUnsigned (whole ++ (fraction ++ exponent))

/-- A numeral, perhaps with a minus sign. -/
inductive IsNumeral : List Char → Prop
  | plain {cs : List Char} (h : IsUnsigned cs) : IsNumeral cs
  | minus {cs : List Char} (h : IsUnsigned cs) : IsNumeral ('-' :: cs)

section Numerals

lemma isDecimal_iff (cs : List Char) :
    IsDecimal cs ↔ cs ≠ [] ∧ cs.all Text.isAsciiDigit = true := by
  rw [IsDecimal, List.all_eq_true]

lemma exists_exponent?_iff (cs : List Char) :
    (∃ e, exponent? cs = some e) ↔ IsExponent cs := by
  constructor
  · rintro ⟨e, h⟩
    cases cs with
    | nil => exact .nil
    | cons mark rest =>
      unfold exponent? at h
      dsimp only at h
      by_cases hmark : mark = 'e' ∨ mark = 'E'
      · rw [if_pos hmark] at h
        split at h
        · split at h
          · next hdigits => exact .mark ['+'] hmark (by decide) ((isDecimal_iff _).mpr hdigits)
          · cases h
        · split at h
          · next hdigits => exact .mark ['-'] hmark (by decide) ((isDecimal_iff _).mpr hdigits)
          · cases h
        · split at h
          · next hdigits => exact .mark [] hmark (by decide) ((isDecimal_iff _).mpr hdigits)
          · cases h
      · rw [if_neg hmark] at h
        cases h
  · intro h
    cases h with
    | nil => exact ⟨none, rfl⟩
    | @mark mark digits sign hmark hsign h =>
      have hall := (isDecimal_iff _).mp h
      unfold exponent?
      dsimp only
      rw [if_pos hmark]
      simp only [List.mem_cons, List.not_mem_nil, or_false] at hsign
      rcases hsign with rfl | rfl | rfl
      · rw [List.nil_append]
        split
        · exact absurd h (not_isDecimal_cons _ rfl)
        · exact absurd h (not_isDecimal_cons _ rfl)
        · exact ⟨_, if_pos hall⟩
      · exact ⟨_, if_pos hall⟩
      · exact ⟨_, if_pos hall⟩

lemma head_isExponent {cs : List Char} (h : IsExponent cs) :
    ∀ c ∈ cs.head?, c = 'e' ∨ c = 'E' := by
  cases h with
  | nil => exact fun c hc => absurd hc (Option.not_mem_none c)
  | mark sign hmark =>
    intro c hc
    cases hc
    exact hmark

lemma takeWhile_isDecimal {digits rest : List Char} (h : IsDecimal digits)
    (hrest : ∀ c ∈ rest.head?, Text.isAsciiDigit c = false) :
    (digits ++ rest).takeWhile Text.isAsciiDigit = digits ∧
      (digits ++ rest).dropWhile Text.isAsciiDigit = rest := by
  cases rest with
  | nil =>
    rw [List.append_nil]
    exact ⟨List.takeWhile_eq_self_iff.mpr h.2, List.dropWhile_eq_nil_iff.mpr h.2⟩
  | cons c rest => exact takeWhile_dropWhile_of_stop h.2 (hrest c rfl) rest

lemma isDecimal_takeWhile {cs : List Char} (h : cs.takeWhile Text.isAsciiDigit ≠ []) :
    IsDecimal (cs.takeWhile Text.isAsciiDigit) :=
  ⟨h, fun _ hc => List.mem_takeWhile_imp hc⟩

/-- What is read of a numeral after its sign. -/
def unsigned? (negative : Bool) (body : List Char) : Option (Option Number) :=
  let whole := body.takeWhile Text.isAsciiDigit
  if whole = [] ∨ (whole.head? = some '0' ∧ whole.length > 1) then none
  else match body.dropWhile Text.isAsciiDigit with
    | '.' :: tail =>
      if tail.takeWhile Text.isAsciiDigit = [] then none
      else (exponent? (tail.dropWhile Text.isAsciiDigit)).map
        (Number.ofDigits? negative (digitValues whole)
          (digitValues (tail.takeWhile Text.isAsciiDigit)))
    | tail => (exponent? tail).map (Number.ofDigits? negative (digitValues whole) [])

lemma numeral?_minus (body : List Char) : numeral? ('-' :: body) = unsigned? true body :=
  rfl

lemma numeral?_of_head {cs : List Char} (h : cs.head? ≠ some '-') :
    numeral? cs = unsigned? false cs := by
  cases cs with
  | nil => rfl
  | cons c cs =>
    have hc : c ≠ '-' := fun hc => h (congrArg some hc)
    unfold numeral?
    split
    rename_i negative body heq
    split at heq
    · next hcons => exact absurd (List.cons.inj hcons).1 hc
    · cases heq
      rfl

lemma eq_singleton_of_head? {α : Type} {as : List α} {a : α} (h : as.head? = some a)
    (hlength : as.length ≤ 1) : as = [a] := by
  match as with
  | [] => cases h
  | [b] =>
    cases h
    rfl
  | _ :: _ :: _ => exact absurd hlength (by simp)

lemma isUnsigned_of_unsigned? {negative : Bool} {body : List Char} {n : Option Number}
    (h : unsigned? negative body = some n) : IsUnsigned body := by
  have hbody := List.takeWhile_append_dropWhile (p := Text.isAsciiDigit) (l := body)
  unfold unsigned? at h
  dsimp only at h
  split at h
  · cases h
  · next hwhole =>
    rw [not_or, not_and, Nat.not_lt] at hwhole
    have hdigits := isDecimal_takeWhile hwhole.1
    have hzero : (body.takeWhile Text.isAsciiDigit).head? = some '0' →
        body.takeWhile Text.isAsciiDigit = ['0'] := by
      intro hhead
      exact eq_singleton_of_head? hhead (hwhole.2 hhead)
    rw [← hbody]
    split at h
    · next tail hrest =>
      split at h
      · cases h
      · next hfraction =>
        obtain ⟨e, he, -⟩ := Option.map_eq_some_iff.mp h
        have htail := List.takeWhile_append_dropWhile (p := Text.isAsciiDigit) (l := tail)
        rw [hrest, ← htail]
        exact .mk hdigits hzero (.point (isDecimal_takeWhile hfraction))
          ((exists_exponent?_iff _).mp ⟨e, he⟩)
    · obtain ⟨e, he, -⟩ := Option.map_eq_some_iff.mp h
      exact .mk hdigits hzero .nil ((exists_exponent?_iff _).mp ⟨e, he⟩)

lemma exists_unsigned?_of_isUnsigned {body : List Char} (h : IsUnsigned body) (negative : Bool) :
    ∃ n, unsigned? negative body = some n := by
  obtain ⟨hwhole, hzero, hfraction, hexponent⟩ := h
  rename_i whole fraction exponent
  obtain ⟨e, he⟩ := (exists_exponent?_iff exponent).mpr hexponent
  have hmark : ∀ c ∈ exponent.head?, Text.isAsciiDigit c = false := by
    intro c hc
    rcases head_isExponent hexponent c hc with rfl | rfl <;> rfl
  have hguard : ¬(whole = [] ∨ (whole.head? = some '0' ∧ whole.length > 1)) := by
    rintro (hnil | ⟨hhead, hlength⟩)
    · exact hwhole.1 hnil
    · rw [hzero hhead] at hlength
      exact absurd hlength (by decide)
  unfold unsigned?
  cases hfraction with
  | nil =>
    rw [List.nil_append]
    obtain ⟨htake, hdrop⟩ := takeWhile_isDecimal hwhole hmark
    dsimp only
    rw [htake, hdrop, if_neg hguard]
    split
    · exact absurd (head_isExponent hexponent '.' rfl) (by decide)
    · exact ⟨_, by rw [he]; rfl⟩
  | @point digits hdigits =>
    have hpoint : ∀ c ∈ ('.' :: digits ++ exponent).head?, Text.isAsciiDigit c = false := by
      intro c hc
      cases hc
      rfl
    obtain ⟨htake, hdrop⟩ := takeWhile_isDecimal hwhole hpoint
    obtain ⟨htake', hdrop'⟩ := takeWhile_isDecimal hdigits hmark
    dsimp only
    rw [htake, hdrop, if_neg hguard]
    split
    · next tail htail =>
      have htail : digits ++ exponent = tail := (List.cons.inj htail).2
      rw [← htail, htake', hdrop', if_neg hdigits.1, he]
      exact ⟨_, rfl⟩
    · next hne => exact absurd rfl (hne _)

lemma head_ne_of_isUnsigned {cs : List Char} (h : IsUnsigned cs) : cs.head? ≠ some '-' := by
  obtain ⟨hwhole, -, -, -⟩ := h
  rename_i whole _ _
  obtain ⟨d, rest, rfl⟩ := List.exists_cons_of_ne_nil hwhole.1
  intro hhead
  cases hhead
  exact not_isDecimal_cons rest rfl hwhole

/-- Every numeral is recognised, also where it has no value, and nothing else is. -/
theorem exists_numeral?_iff (cs : List Char) : (∃ n, numeral? cs = some n) ↔ IsNumeral cs := by
  constructor
  · rintro ⟨n, h⟩
    by_cases hhead : cs.head? = some '-'
    · obtain ⟨body, rfl⟩ := List.head?_eq_some_iff.mp hhead
      rw [numeral?_minus] at h
      exact .minus (isUnsigned_of_unsigned? h)
    · rw [numeral?_of_head hhead] at h
      exact .plain (isUnsigned_of_unsigned? h)
  · intro h
    cases h with
    | minus h => exact exists_unsigned?_of_isUnsigned h true
    | plain h =>
      rw [numeral?_of_head (head_ne_of_isUnsigned h)]
      exact exists_unsigned?_of_isUnsigned h false

/-- A numeral begins with a minus sign or a digit. -/
lemma first_of_numeral? {c : Char} {cs : List Char} {n : Option Number}
    (h : numeral? (c :: cs) = some n) : c = '-' ∨ Text.isAsciiDigit c = true := by
  generalize htext : c :: cs = text at h
  cases (exists_numeral?_iff text).mp ⟨n, h⟩ with
  | minus _ =>
    cases htext
    exact .inl rfl
  | plain h =>
    obtain ⟨hwhole, -, -, -⟩ := h
    rename_i whole _ _
    obtain ⟨d, rest, rfl⟩ := List.exists_cons_of_ne_nil hwhole.1
    cases htext
    exact .inr (hwhole.2 c List.mem_cons_self)

end Numerals

end SlackBridge.Proofs
