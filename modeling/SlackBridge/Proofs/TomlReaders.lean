import SlackBridge.Proofs.TextForms
import SlackBridge.Toml.Document

/-!
# Readers and line breaks

Each reader below the level of statements stops before the line break at the end of its text, and
makes the same of that text whatever stands behind the break.
-/

namespace SlackBridge.Proofs

open Toml

section Linewise

variable {α β : Type}

/-- What the reader finds at the start of the text, if a line break and nothing else follows, it
finds there whatever stands behind that break, and it leaves the break unread. -/
def LinewiseAt (read? : List Char → Option (α × List Char)) (front : List Char) : Prop :=
  ∀ x rest, read? (front ++ ['\n']) = some (x, rest) →
    ∃ back, rest = back ++ ['\n'] ∧
      ∀ more, read? (front ++ '\n' :: more) = some (x, back ++ '\n' :: more)

def Linewise (read? : List Char → Option (α × List Char)) : Prop :=
  ∀ front, LinewiseAt read? front

variable {read? : List Char → Option (α × List Char)} {front : List Char}

lemma LinewiseAt.of_none (h : read? (front ++ ['\n']) = none) : LinewiseAt read? front := by
  intro x rest hread
  rw [h] at hread
  cases hread

lemma LinewiseAt.of_some (x : α) (back : List Char)
    (h : ∀ more, read? (front ++ '\n' :: more) = some (x, back ++ '\n' :: more)) :
    LinewiseAt read? front := by
  intro y rest hread
  rw [h []] at hread
  cases hread
  exact ⟨back, rfl, h⟩

lemma LinewiseAt.of_map (found : Option α) (back : List Char)
    (h : ∀ more, read? (front ++ '\n' :: more) = found.map fun x => (x, back ++ '\n' :: more)) :
    LinewiseAt read? front := by
  cases found with
  | none => exact .of_none (h [])
  | some x => exact .of_some x back h

/-- A reader that goes on as another one does. -/
lemma LinewiseAt.of_eq {other? : List Char → Option (α × List Char)} {back : List Char}
    (h : ∀ more, read? (front ++ '\n' :: more) = other? (back ++ '\n' :: more))
    (hother : LinewiseAt other? back) : LinewiseAt read? front := by
  intro x rest hread
  rw [h []] at hread
  obtain ⟨last, hrest, hmore⟩ := hother x rest hread
  exact ⟨last, hrest, fun more => (h more).trans (hmore more)⟩

/-- A reader and another one after it. -/
lemma LinewiseAt.bind (h : LinewiseAt read? front) {then? : α → List Char → Option (β × List Char)}
    (hthen : ∀ x, Linewise (then? x)) :
    LinewiseAt (fun cs => (read? cs).bind fun found => then? found.1 found.2) front := by
  intro y rest hread
  obtain ⟨⟨x, between⟩, hx, hy⟩ := Option.bind_eq_some_iff.mp hread
  obtain ⟨back, rfl, hmore⟩ := h x between hx
  obtain ⟨last, hrest, hthenMore⟩ := hthen x back y rest hy
  refine ⟨last, hrest, fun more => ?_⟩
  dsimp only
  rw [hmore more]
  exact hthenMore more

lemma LinewiseAt.map (h : LinewiseAt read? front) (f : α → β) :
    LinewiseAt (fun cs => (read? cs).map fun found => (f found.1, found.2)) front := by
  intro y rest hread
  obtain ⟨⟨x, between⟩, hx, hy⟩ := Option.map_eq_some_iff.mp hread
  cases hy
  obtain ⟨back, hrest, hmore⟩ := h x between hx
  refine ⟨back, hrest, fun more => ?_⟩
  dsimp only
  rw [hmore more]
  rfl

/-- A reader and another one to try where it finds nothing. -/
lemma LinewiseAt.or (h : LinewiseAt read? front) {other? : List Char → Option (α × List Char)}
    (hother : LinewiseAt other? front)
    (hnone : other? (front ++ ['\n']) ≠ none → ∀ more, read? (front ++ '\n' :: more) = none) :
    LinewiseAt (fun cs => (read? cs).or (other? cs)) front := by
  intro x rest hread
  dsimp only at hread ⊢
  cases hfound : read? (front ++ ['\n']) with
  | some found =>
    rw [hfound, Option.some_or] at hread
    cases hread
    obtain ⟨back, hrest, hmore⟩ := h x rest hfound
    refine ⟨back, hrest, fun more => ?_⟩
    rw [hmore more, Option.some_or]
  | none =>
    rw [hfound, Option.none_or] at hread
    obtain ⟨back, hrest, hmore⟩ := hother x rest hread
    refine ⟨back, hrest, fun more => ?_⟩
    rw [hnone (by rw [hread]; nofun) more, Option.none_or]
    exact hmore more

end Linewise

/-! ### Quoted text -/

section Quoted

lemma escaped?_append {cs : List Char} {found : Char × ℕ} (h : escaped? cs = some found)
    (more : List Char) : escaped? (cs ++ more) = some found := by
  unfold escaped? at h
  split at h
  · next rest =>
    split_ifs at h with hshort
    rw [List.cons_append, escaped?, if_neg, List.take_append_of_le_length (by omega)]
    · exact h
    · rw [List.length_append]
      omega
  · next rest =>
    split_ifs at h with hshort
    rw [List.cons_append, escaped?, if_neg, List.take_append_of_le_length (by omega)]
    · exact h
    · rw [List.length_append]
      omega
  · next c rest hu hU =>
    rw [List.cons_append, escaped?]
    · exact h
    · exact hu
    · exact hU
  · cases h

lemma escaped?_more {front : List Char} {found : Char × ℕ}
    (h : escaped? (front ++ ['\n']) = some found) (more : List Char) :
    escaped? (front ++ '\n' :: more) = some found := by
  have happend := escaped?_append h more
  rwa [List.append_assoc] at happend

lemma linewise_basicFrom (skip : ℕ) (done : List Char) : Linewise (basicFrom skip done) := by
  intro front
  induction front generalizing skip done with
  | nil =>
    apply LinewiseAt.of_none
    cases skip <;> rfl
  | cons c front ih =>
    cases skip with
    | succ n => exact (ih n done).of_eq fun more => rfl
    | zero =>
      by_cases hquote : c = '"'
      · refine .of_some done.reverse front fun more => ?_
        rw [List.cons_append, basicFrom, if_pos hquote]
      by_cases hescape : c = '\\'
      · cases hfound : escaped? (front ++ ['\n']) with
        | none =>
          apply LinewiseAt.of_none
          rw [List.cons_append, basicFrom, if_neg hquote, if_pos hescape, hfound]
        | some found =>
          refine (ih found.2 (found.1 :: done)).of_eq fun more => ?_
          rw [List.cons_append, basicFrom, if_neg hquote, if_pos hescape, escaped?_more hfound]
      by_cases hplain : isPlain c = true
      · refine (ih 0 (c :: done)).of_eq fun more => ?_
        rw [List.cons_append, basicFrom, if_neg hquote, if_neg hescape, if_pos hplain]
      · apply LinewiseAt.of_none
        rw [List.cons_append, basicFrom, if_neg hquote, if_neg hescape, if_neg hplain]

lemma linewise_literalFrom (done : List Char) : Linewise (literalFrom done) := by
  intro front
  induction front generalizing done with
  | nil => exact .of_none rfl
  | cons c front ih =>
    by_cases hquote : c = '\''
    · refine .of_some done.reverse front fun more => ?_
      rw [List.cons_append, literalFrom, if_pos hquote]
    by_cases hplain : isPlain c = true
    · refine (ih (c :: done)).of_eq fun more => ?_
      rw [List.cons_append, literalFrom, if_neg hquote, if_pos hplain]
    · apply LinewiseAt.of_none
      rw [List.cons_append, literalFrom, if_neg hquote, if_neg hplain]

/-- The quotes that a text begins with stand before its line break. -/
lemma take_two_iff {quote : Char} (hquote : quote ≠ '\n') (front more : List Char) :
    (front ++ '\n' :: more).take 2 = [quote, quote] ↔
      ∃ back, front = quote :: quote :: back := by
  match front with
  | [] => simp [hquote.symm]
  | [c] => simp [hquote.symm]
  | c :: d :: back => simp

lemma head?_more (front more : List Char) :
    (front ++ '\n' :: more).head? = (front ++ ['\n']).head? := by
  cases front <;> rfl

lemma linewise_closeLong {quote : Char} (hquote : quote ≠ '\n') (done : List Char) :
    Linewise fun cs => some (closeLong quote done cs) := by
  intro front
  match front with
  | [] =>
    refine .of_some done.reverse [] fun more => ?_
    cases more <;> simp [closeLong, hquote.symm]
  | [c] =>
    by_cases hc : c = quote
    · refine .of_some (quote :: done).reverse [] fun more => ?_
      simp [closeLong, hc, hquote.symm]
    · refine .of_some done.reverse [c] fun more => ?_
      simp [closeLong, hc]
  | c :: d :: back =>
    by_cases hboth : c = quote ∧ d = quote
    · refine .of_some (quote :: quote :: done).reverse back fun more => ?_
      simp [closeLong, hboth]
    by_cases hc : c = quote
    · refine .of_some (quote :: done).reverse (d :: back) fun more => ?_
      simp only [List.cons_append, closeLong, if_neg hboth, if_pos hc]
    · refine .of_some done.reverse (c :: d :: back) fun more => ?_
      simp only [List.cons_append, closeLong, if_neg hboth, if_neg hc]

/-- A backslash before a blank or a line break is no escape. -/
lemma escaped?_of_blank {cs : List Char}
    (h : (cs.head?.any fun e => isInlineBlank e || e == '\n' || e == '\r') = true) :
    escaped? cs = none := by
  obtain ⟨e, he, hblank⟩ := (Option.any_eq_true _ _).mp h
  obtain ⟨rest, rfl⟩ := List.head?_eq_some_iff.mp he
  unfold isInlineBlank at hblank
  simp only [Bool.or_eq_true, beq_iff_eq] at hblank
  rcases hblank with ((rfl | rfl) | rfl) | rfl <;> rfl

/-- What follows in a long text from a character that is no line break and no blank to drop. -/
def solidFrom (done : List Char) (c : Char) (rest : List Char) :
    Option (List Char × List Char) :=
  if c = '"' then
    if rest.take 2 = ['"', '"'] then some (closeLong '"' done (rest.drop 2))
    else longBasicFrom .none 0 ('"' :: done) rest
  else if c = '\\' then
    match escaped? rest with
    | some (x, n) => longBasicFrom .none n (x :: done) rest
    | none =>
      if rest.head?.any fun e => isInlineBlank e || e == '\n' || e == '\r' then
        longBasicFrom .lineEnd 0 done rest
      else none
  else if isPlain c then longBasicFrom .none 0 (c :: done) rest
  else none

lemma longBasicFrom_of_solid {folding : Folding} {c : Char} (hbreak : c ≠ '\n')
    (hreturn : c ≠ '\r') (hblank : ¬(isInlineBlank c && folding ≠ .none) = true)
    (hend : folding ≠ .lineEnd) (done rest : List Char) :
    longBasicFrom folding 0 done (c :: rest) = solidFrom done c rest := by
  rw [longBasicFrom, if_neg hbreak, if_neg hreturn, if_neg hblank, if_neg hend]
  rfl

lemma linewise_solidFrom {front : List Char}
    (hfront : ∀ folding skip done, LinewiseAt (longBasicFrom folding skip done) front)
    (done : List Char) (c : Char) : LinewiseAt (solidFrom done c) front := by
  by_cases hquote : c = '"'
  · by_cases hclose : ∃ back, front = '"' :: '"' :: back
    · obtain ⟨back, rfl⟩ := hclose
      refine (linewise_closeLong (by decide : '"' ≠ '\n') done back).of_eq fun more => ?_
      rw [solidFrom, if_pos hquote, if_pos ((take_two_iff (by decide) _ _).mpr ⟨back, rfl⟩)]
      rfl
    · refine (hfront .none 0 ('"' :: done)).of_eq fun more => ?_
      rw [solidFrom, if_pos hquote, if_neg fun h => hclose ((take_two_iff (by decide) _ _).mp h)]
  by_cases hescape : c = '\\'
  · cases hfound : escaped? (front ++ ['\n']) with
    | some found =>
      refine (hfront .none found.2 (found.1 :: done)).of_eq fun more => ?_
      rw [solidFrom, if_neg hquote, if_pos hescape, escaped?_more hfound]
    | none =>
      by_cases hfold : ((front ++ ['\n']).head?.any
          fun e => isInlineBlank e || e == '\n' || e == '\r') = true
      · refine (hfront .lineEnd 0 done).of_eq fun more => ?_
        rw [← head?_more front more] at hfold
        rw [solidFrom, if_neg hquote, if_pos hescape, escaped?_of_blank hfold]
        exact if_pos hfold
      · apply LinewiseAt.of_none
        rw [solidFrom, if_neg hquote, if_pos hescape, hfound]
        exact if_neg hfold
  by_cases hplain : isPlain c = true
  · refine (hfront .none 0 (c :: done)).of_eq fun more => ?_
    rw [solidFrom, if_neg hquote, if_neg hescape, if_pos hplain]
  · apply LinewiseAt.of_none
    rw [solidFrom, if_neg hquote, if_neg hescape, if_neg hplain]

lemma linewise_longBasicFrom (folding : Folding) (skip : ℕ) (done : List Char) :
    Linewise (longBasicFrom folding skip done) := by
  intro front
  induction front generalizing folding skip done with
  | nil =>
    apply LinewiseAt.of_none
    cases skip <;> cases folding <;> rfl
  | cons c front ih =>
    cases skip with
    | succ n => exact (ih folding n done).of_eq fun more => rfl
    | zero =>
      by_cases hbreak : c = '\n'
      · by_cases hfolding : folding = .none
        · refine (ih .none 0 ('\n' :: done)).of_eq fun more => ?_
          rw [List.cons_append, longBasicFrom, if_pos hbreak, if_pos hfolding]
        · refine (ih .nextLines 0 done).of_eq fun more => ?_
          rw [List.cons_append, longBasicFrom, if_pos hbreak, if_neg hfolding]
      by_cases hreturn : c = '\r'
      · by_cases hnext : (front ++ ['\n']).head? = some '\n'
        · refine (ih folding 0 done).of_eq fun more => ?_
          rw [List.cons_append, longBasicFrom, if_neg hbreak, if_pos hreturn, head?_more,
            if_pos hnext]
        · apply LinewiseAt.of_none
          rw [List.cons_append, longBasicFrom, if_neg hbreak, if_pos hreturn, if_neg hnext]
      by_cases hblank : (isInlineBlank c && folding ≠ .none) = true
      · refine (ih folding 0 done).of_eq fun more => ?_
        rw [List.cons_append, longBasicFrom, if_neg hbreak, if_neg hreturn, if_pos hblank]
      by_cases hend : folding = .lineEnd
      · apply LinewiseAt.of_none
        rw [List.cons_append, longBasicFrom, if_neg hbreak, if_neg hreturn, if_neg hblank,
          if_pos hend]
      · exact (linewise_solidFrom ih done c).of_eq fun more =>
          longBasicFrom_of_solid hbreak hreturn hblank hend done _

lemma linewise_longLiteralFrom (done : List Char) : Linewise (longLiteralFrom done) := by
  intro front
  induction front generalizing done with
  | nil => exact .of_none rfl
  | cons c front ih =>
    by_cases hbreak : c = '\n'
    · refine (ih ('\n' :: done)).of_eq fun more => ?_
      rw [List.cons_append, longLiteralFrom, if_pos hbreak]
    by_cases hreturn : c = '\r'
    · by_cases hnext : (front ++ ['\n']).head? = some '\n'
      · refine (ih done).of_eq fun more => ?_
        rw [List.cons_append, longLiteralFrom, if_neg hbreak, if_pos hreturn, head?_more,
          if_pos hnext]
      · apply LinewiseAt.of_none
        rw [List.cons_append, longLiteralFrom, if_neg hbreak, if_pos hreturn, if_neg hnext]
    by_cases hclose : c = '\'' ∧ ∃ back, front = '\'' :: '\'' :: back
    · obtain ⟨hquote, back, rfl⟩ := hclose
      refine (linewise_closeLong (by decide : '\'' ≠ '\n') done back).of_eq fun more => ?_
      rw [List.cons_append, longLiteralFrom, if_neg hbreak, if_neg hreturn,
        if_pos ⟨hquote, (take_two_iff (by decide) _ _).mpr ⟨back, rfl⟩⟩]
      rfl
    have hopen : ∀ more, ¬(c = '\'' ∧ (front ++ '\n' :: more).take 2 = ['\'', '\'']) :=
      fun more h => hclose ⟨h.1, (take_two_iff (by decide) _ _).mp h.2⟩
    by_cases hplain : isPlain c = true
    · refine (ih (c :: done)).of_eq fun more => ?_
      rw [List.cons_append, longLiteralFrom, if_neg hbreak, if_neg hreturn, if_neg (hopen more),
        if_pos hplain]
    · apply LinewiseAt.of_none
      rw [List.cons_append, longLiteralFrom, if_neg hbreak, if_neg hreturn, if_neg (hopen []),
        if_neg hplain]

lemma linewise_quotedLine? : Linewise quotedLine? := by
  intro front
  match front with
  | [] => exact .of_none rfl
  | c :: front =>
    by_cases hbasic : c = '"'
    · subst hbasic
      exact ((linewise_basicFrom 0 [] front).map String.ofList).of_eq fun more => rfl
    by_cases hliteral : c = '\''
    · subst hliteral
      exact ((linewise_literalFrom [] front).map String.ofList).of_eq fun more => rfl
    · apply LinewiseAt.of_none
      rw [List.cons_append]
      unfold quotedLine?
      split
      · next heq => exact absurd (List.cons.inj heq).1 hbasic
      · next heq => exact absurd (List.cons.inj heq).1 hliteral
      · rfl

/-- The text begins with a quote that is written three times. -/
def OpensLong (quote : Char) (cs : List Char) : Prop :=
  ∃ rest, cs = quote :: quote :: quote :: rest

lemma quoted?_of_not_long {cs : List Char} (hbasic : ¬OpensLong '"' cs)
    (hliteral : ¬OpensLong '\'' cs) : quoted? cs = quotedLine? cs := by
  unfold quoted?
  split
  · next rest => exact absurd ⟨rest, rfl⟩ hbasic
  · next rest => exact absurd ⟨rest, rfl⟩ hliteral
  · rfl

lemma opensLong_more_iff {quote : Char} (hquote : quote ≠ '\n') (front more : List Char) :
    OpensLong quote (front ++ '\n' :: more) ↔ OpensLong quote front := by
  unfold OpensLong
  match front with
  | [] => simp [hquote.symm]
  | [c] => simp [hquote.symm]
  | [c, d] => simp [hquote.symm]
  | c :: d :: e :: back => simp

lemma dropBreak?_of_other {c : Char} {cs : List Char} (hbreak : c ≠ '\n')
    (hreturn : c = '\r' → cs.head? ≠ some '\n') : dropBreak? (c :: cs) = none := by
  unfold dropBreak?
  split
  · next h => exact absurd (List.cons.inj h).1 hbreak
  · next h =>
    cases h
    exact absurd rfl (hreturn rfl)
  · rfl

lemma dropBreak?_more {front : List Char} (hempty : front ≠ []) (hreturn : front ≠ ['\r'])
    (more : List Char) :
    dropBreak? (front ++ '\n' :: more) = (dropBreak? front).map (· ++ '\n' :: more) := by
  obtain ⟨c, back, rfl⟩ := List.exists_cons_of_ne_nil hempty
  by_cases hbreak : c = '\n'
  · subst hbreak
    rfl
  by_cases hboth : c = '\r' ∧ back.head? = some '\n'
  · obtain ⟨rfl, hhead⟩ := hboth
    obtain ⟨rest, rfl⟩ := List.head?_eq_some_iff.mp hhead
    rfl
  · have hother : c = '\r' → back.head? ≠ some '\n' := fun hc hhead => hboth ⟨hc, hhead⟩
    have hmore : c = '\r' → (back ++ '\n' :: more).head? ≠ some '\n' := by
      rintro rfl
      cases back with
      | nil => exact absurd rfl hreturn
      | cons d back => exact hother rfl
    rw [List.cons_append, dropBreak?_of_other hbreak hmore, dropBreak?_of_other hbreak hother]
    rfl

/-- Behind the opening quotes a line break is dropped, and then the text is read. -/
lemma linewise_afterBreak {α : Type} {read? : List Char → Option (α × List Char)}
    (hread : Linewise read?) (hnone : read? [] = none) :
    Linewise fun cs => read? ((dropBreak? cs).getD cs) := by
  intro front
  by_cases hempty : front = []
  · subst hempty
    exact .of_none hnone
  by_cases hreturn : front = ['\r']
  · subst hreturn
    exact .of_none hnone
  · refine (hread ((dropBreak? front).getD front)).of_eq fun more => ?_
    rw [dropBreak?_more hempty hreturn]
    cases dropBreak? front <;> rfl

lemma linewise_quoted? : Linewise quoted? := by
  intro front
  by_cases hbasic : OpensLong '"' front
  · obtain ⟨back, rfl⟩ := hbasic
    have hlong := linewise_afterBreak (linewise_longBasicFrom .none 0 []) rfl back
    exact (hlong.map String.ofList).of_eq fun more => rfl
  by_cases hliteral : OpensLong '\'' front
  · obtain ⟨back, rfl⟩ := hliteral
    have hlong := linewise_afterBreak (linewise_longLiteralFrom []) rfl back
    exact (hlong.map String.ofList).of_eq fun more => rfl
  · refine (linewise_quotedLine? front).of_eq fun more => quoted?_of_not_long ?_ ?_
    · rwa [opensLong_more_iff (by decide)]
    · rwa [opensLong_more_iff (by decide)]

end Quoted

/-! ### Keys -/

section Keys

variable {p : Char → Bool}

lemma takeWhile_more (hp : p '\n' = false) (front more : List Char) :
    (front ++ '\n' :: more).takeWhile p = front.takeWhile p := by
  induction front with
  | nil => simp [hp]
  | cons c front ih =>
    cases hc : p c <;> simp [hc, ih]

lemma dropWhile_more (hp : p '\n' = false) (front more : List Char) :
    (front ++ '\n' :: more).dropWhile p = front.dropWhile p ++ '\n' :: more := by
  induction front with
  | nil => simp [hp]
  | cons c front ih =>
    cases hc : p c <;> simp [hc, ih]

/-- What a text begins with stands before its line break. -/
lemma exists_cons_of_more {c : Char} (hc : c ≠ '\n') {front more rest : List Char}
    (h : front ++ '\n' :: more = c :: rest) : ∃ back, front = c :: back := by
  cases front with
  | nil => exact absurd (List.cons.inj h).1.symm hc
  | cons d back => exact ⟨back, by rw [(List.cons.inj h).1]⟩

lemma dropInlineBlank_more (front more : List Char) :
    dropInlineBlank (front ++ '\n' :: more) = dropInlineBlank front ++ '\n' :: more :=
  dropWhile_more (by decide) front more

lemma quotedLine?_of_other {c : Char} {cs : List Char} (hbasic : c ≠ '"') (hliteral : c ≠ '\'') :
    quotedLine? (c :: cs) = none := by
  unfold quotedLine?
  split
  · next h => exact absurd (List.cons.inj h).1 hbasic
  · next h => exact absurd (List.cons.inj h).1 hliteral
  · rfl

/-- A bare key and what follows it. -/
def bareKey? (cs : List Char) : Option (String × List Char) :=
  if cs.takeWhile isBareKeyChar = [] then none
  else some (String.ofList (cs.takeWhile isBareKeyChar), cs.dropWhile isBareKeyChar)

lemma keyPart?_eq (cs : List Char) : keyPart? cs = (quotedLine? cs).or (bareKey? cs) := by
  unfold keyPart? bareKey?
  cases quotedLine? cs <;> rfl

lemma linewise_bareKey? : Linewise bareKey? := by
  intro front
  have htake := takeWhile_more (p := isBareKeyChar) (by decide) front
  have hdrop := dropWhile_more (p := isBareKeyChar) (by decide) front
  by_cases hname : front.takeWhile isBareKeyChar = []
  · apply LinewiseAt.of_none
    rw [bareKey?, htake, if_pos hname]
  · refine .of_some (String.ofList (front.takeWhile isBareKeyChar))
      (front.dropWhile isBareKeyChar) fun more => ?_
    rw [bareKey?, htake, hdrop, if_neg hname]

lemma linewise_keyPart? : Linewise keyPart? := by
  intro front
  have hor := (linewise_quotedLine? front).or (linewise_bareKey? front) fun hbare more => ?_
  · exact hor.of_eq fun more => keyPart?_eq _
  · -- a bare key does not begin with a quote
    cases front with
    | nil => exact absurd rfl hbare
    | cons c front =>
      apply quotedLine?_of_other
      · rintro rfl
        exact hbare rfl
      · rintro rfl
        exact hbare rfl

/-- What follows the first part of a key: a dot and further parts, or the end of the key. -/
def furtherParts? (room : ℕ) (part : String) (cs : List Char) :
    Option (List String × List Char) :=
  match dropInlineBlank cs with
  | '.' :: more => do
    let (parts, rest) ← keyParts? room more
    return (part :: parts, rest)
  | rest => return ([part], rest)

lemma keyParts?_succ (room : ℕ) (cs : List Char) : keyParts? (room + 1) cs =
    (keyPart? (dropInlineBlank cs)).bind fun found => furtherParts? room found.1 found.2 :=
  rfl

lemma furtherParts?_of_dot {room : ℕ} {part : String} {cs more : List Char}
    (h : dropInlineBlank cs = '.' :: more) :
    furtherParts? room part cs =
      (keyParts? room more).map fun found => (part :: found.1, found.2) := by
  unfold furtherParts?
  rw [h]
  exact (Option.map_eq_bind ..).symm

lemma furtherParts?_of_end {room : ℕ} {part : String} {cs : List Char}
    (h : ∀ more, dropInlineBlank cs ≠ '.' :: more) :
    furtherParts? room part cs = some ([part], dropInlineBlank cs) := by
  unfold furtherParts?
  split
  · next more heq => exact absurd heq (h more)
  · rfl

lemma linewise_furtherParts? {room : ℕ} (h : Linewise (keyParts? room)) (part : String) :
    Linewise (furtherParts? room part) := by
  intro front
  by_cases hdot : ∃ back, dropInlineBlank front = '.' :: back
  · obtain ⟨back, hback⟩ := hdot
    refine ((h back).map fun parts => part :: parts).of_eq fun more => ?_
    apply furtherParts?_of_dot
    rw [dropInlineBlank_more, hback]
    rfl
  · refine .of_some [part] (dropInlineBlank front) fun more => ?_
    rw [furtherParts?_of_end, dropInlineBlank_more]
    intro rest heq
    rw [dropInlineBlank_more] at heq
    exact hdot (exists_cons_of_more (by decide) heq)

lemma linewise_keyParts? (room : ℕ) : Linewise (keyParts? room) := by
  induction room with
  | zero => exact fun front => .of_none rfl
  | succ room ih =>
    intro front
    have hpart := (linewise_keyPart? (dropInlineBlank front)).bind (linewise_furtherParts? ih)
    refine hpart.of_eq fun more => ?_
    rw [← dropInlineBlank_more, keyParts?_succ]

end Keys

/-! ### Values -/

section Values

/-- A date stands before a blank, so that a time may follow. -/
def BeforeTime (cs : List Char) : Prop :=
  dropDate? (cs.takeWhile isScalarChar) = some [] ∧ ∃ time, cs.dropWhile isScalarChar = ' ' :: time

lemma scalar?_of_not_beforeTime {cs : List Char} (h : ¬BeforeTime cs) :
    scalar? cs = (scalarValue? (cs.takeWhile isScalarChar)).map
      (·, cs.dropWhile isScalarChar) := by
  unfold scalar?
  dsimp only
  split
  · next time hdate hrest => exact absurd ⟨hdate, time, hrest⟩ h
  · rfl

lemma scalar?_of_beforeTime {cs time : List Char}
    (hdate : dropDate? (cs.takeWhile isScalarChar) = some [])
    (hrest : cs.dropWhile isScalarChar = ' ' :: time) :
    scalar? cs = if time.head?.any Text.isAsciiDigit then
        (scalarValue? (cs.takeWhile isScalarChar ++ ' ' :: time.takeWhile isScalarChar)).map
          (·, time.dropWhile isScalarChar)
      else (scalarValue? (cs.takeWhile isScalarChar)).map (·, ' ' :: time) := by
  unfold scalar?
  simp only [hdate, hrest]

lemma linewise_scalar? : Linewise scalar? := by
  intro front
  have htake := takeWhile_more (p := isScalarChar) (by decide)
  have hdrop := dropWhile_more (p := isScalarChar) (by decide)
  by_cases htime : BeforeTime front
  · obtain ⟨hdate, time, hrest⟩ := htime
    have hdateMore : ∀ more,
        dropDate? ((front ++ '\n' :: more).takeWhile isScalarChar) = some [] := by
      intro more
      rw [htake, hdate]
    have hrestMore : ∀ more,
        (front ++ '\n' :: more).dropWhile isScalarChar = ' ' :: (time ++ '\n' :: more) := by
      intro more
      rw [hdrop, hrest, List.cons_append]
    by_cases hdigit : (time ++ ['\n']).head?.any Text.isAsciiDigit = true
    · refine .of_map
        (scalarValue? (front.takeWhile isScalarChar ++ ' ' :: time.takeWhile isScalarChar))
        (time.dropWhile isScalarChar) fun more => ?_
      rw [scalar?_of_beforeTime (hdateMore more) (hrestMore more), head?_more, if_pos hdigit, htake,
        htake, hdrop]
    · refine .of_map (scalarValue? (front.takeWhile isScalarChar)) (' ' :: time) fun more => ?_
      rw [scalar?_of_beforeTime (hdateMore more) (hrestMore more), head?_more, if_neg hdigit, htake,
        List.cons_append]
  · refine .of_map (scalarValue? (front.takeWhile isScalarChar)) (front.dropWhile isScalarChar)
      fun more => ?_
    rw [scalar?_of_not_beforeTime, htake, hdrop]
    rintro ⟨hdate, time, hrest⟩
    rw [htake] at hdate
    rw [hdrop] at hrest
    exact htime ⟨hdate, exists_cons_of_more (by decide) hrest⟩

/-- Between values, blanks and line breaks are dropped: all of a text, or up to a character that is
neither. -/
lemma dropLines_more (inComment : Bool) (front : List Char) :
    (∀ more, dropLines inComment (front ++ '\n' :: more) = dropLines false more) ∨
    ∃ c back, ∀ more, dropLines inComment (front ++ '\n' :: more) = c :: back ++ '\n' :: more := by
  induction front generalizing inComment with
  | nil => exact .inl fun more => by cases inComment <;> rfl
  | cons c front ih =>
    simp only [List.cons_append, dropLines, head?_more front]
    split_ifs
    · exact ih true
    · exact ih false
    · exact ih false
    · exact ih true
    · exact .inr ⟨c, front, fun more => rfl⟩

/-- A reader that takes as many turns as its text is long, and needs no more. -/
lemma LinewiseAt.of_fuel {α : Type} (read? : ℕ → List Char → Option (α × List Char))
    {front : List Char} (h : ∀ fuel, LinewiseAt (read? fuel) front)
    (hmore : ∀ {fuel fuel' cs found}, fuel ≤ fuel' → read? fuel cs = some found →
      read? fuel' cs = some found) :
    LinewiseAt (fun cs => read? (cs.length + 1) cs) front := by
  intro x rest hread
  obtain ⟨back, hrest, hback⟩ := h _ x rest hread
  refine ⟨back, hrest, fun more => hmore ?_ (hback more)⟩
  simp only [List.length_append, List.length_cons, List.length_nil]
  omega

section Arrays

variable {item? : List Char → Option (Value × List Char)}

/-- What follows an item of an array: the closing bracket, or a comma and further items. -/
def furtherItems? (item? : List Char → Option (Value × List Char)) (fuel : ℕ) (done : List Value)
    (v : Value) (cs : List Char) : Option (List Value × List Char) :=
  match dropLines false cs with
  | ']' :: rest => some ((v :: done).reverse, rest)
  | ',' :: rest => items? item? fuel (v :: done) rest
  | _ => none

lemma items?_of_close {fuel : ℕ} {done : List Value} {cs rest : List Char}
    (h : dropLines false cs = ']' :: rest) :
    items? item? (fuel + 1) done cs = some (done.reverse, rest) := by
  rw [items?, h]
  rfl

lemma items?_of_item {fuel : ℕ} {done : List Value} {cs : List Char}
    (h : ∀ rest, dropLines false cs ≠ ']' :: rest) :
    items? item? (fuel + 1) done cs =
      (item? (dropLines false cs)).bind
        fun found => furtherItems? item? fuel done found.1 found.2 := by
  rw [items?]
  split
  · next rest heq => exact absurd heq (h rest)
  · cases item? (dropLines false cs) <;> rfl

lemma items?_of_le {fuel fuel' : ℕ} {done : List Value} {cs : List Char}
    {found : List Value × List Char} (hle : fuel ≤ fuel')
    (h : items? item? fuel done cs = some found) : items? item? fuel' done cs = some found := by
  induction fuel generalizing fuel' done cs with
  | zero => cases h
  | succ fuel ih =>
    obtain _ | fuel' := fuel'
    · omega
    by_cases hclose : ∃ rest, dropLines false cs = ']' :: rest
    · obtain ⟨rest, hrest⟩ := hclose
      rw [items?_of_close hrest] at h ⊢
      exact h
    · have hopen : ∀ rest, dropLines false cs ≠ ']' :: rest := fun rest heq => hclose ⟨rest, heq⟩
      rw [items?_of_item hopen] at h ⊢
      obtain ⟨⟨v, rest⟩, hv, hfurther⟩ := Option.bind_eq_some_iff.mp h
      rw [hv, Option.bind_some]
      unfold furtherItems? at hfurther ⊢
      split at hfurther
      · exact hfurther
      · exact ih (Nat.le_of_succ_le_succ hle) hfurther
      · cases hfurther

lemma linewise_furtherItems? {fuel : ℕ} (h : ∀ done, Linewise (items? item? fuel done))
    (done : List Value) (v : Value) : Linewise (furtherItems? item? fuel done v) := by
  intro front
  rcases dropLines_more false front with hgone | ⟨c, back, hstay⟩
  · apply LinewiseAt.of_none
    rw [furtherItems?, hgone]
    rfl
  by_cases hclose : c = ']'
  · refine .of_some (v :: done).reverse back fun more => ?_
    rw [furtherItems?, hstay, hclose, List.cons_append]
    rfl
  by_cases hcomma : c = ','
  · refine (h (v :: done) back).of_eq fun more => ?_
    rw [furtherItems?, hstay, hcomma, List.cons_append]
    rfl
  · apply LinewiseAt.of_none
    rw [furtherItems?, hstay, List.cons_append]
    split
    · next h => exact absurd (List.cons.inj h).1 hclose
    · next h => exact absurd (List.cons.inj h).1 hcomma
    · rfl

lemma linewise_items? (hitem : Linewise item?) (hnone : item? [] = none) (fuel : ℕ)
    (done : List Value) : Linewise (items? item? fuel done) := by
  induction fuel generalizing done with
  | zero => exact fun front => .of_none rfl
  | succ fuel ih =>
    intro front
    rcases dropLines_more false front with hgone | ⟨c, back, hstay⟩
    · apply LinewiseAt.of_none
      have hempty : dropLines false (front ++ ['\n']) = [] := hgone []
      rw [items?_of_item, hempty, hnone]
      · rfl
      · rw [hempty]
        nofun
    by_cases hclose : c = ']'
    · refine .of_some done.reverse back fun more => items?_of_close ?_
      rw [hstay, hclose, List.cons_append]
    · refine ((hitem (c :: back)).bind (linewise_furtherItems? ih done)).of_eq fun more => ?_
      rw [← hstay, items?_of_item]
      intro rest heq
      rw [hstay] at heq
      exact hclose (List.cons.inj heq).1

end Arrays

section Tables

variable {value? : List Char → Option (Value × List Char)}

/-- What follows the key of an assignment: an equals sign and the value. -/
def assigned? (value? : List Char → Option (Value × List Char)) (path : List String)
    (cs : List Char) : Option ((List String × Value) × List Char) :=
  match cs with
  | '=' :: rest => do
    let (v, rest) ← value? (dropInlineBlank rest)
    return ((path, v), rest)
  | _ => none

lemma assignment?_eq (cs : List Char) : assignment? value? cs =
    (keyParts? maxNesting cs).bind fun found => assigned? value? found.1 found.2 :=
  rfl

lemma assigned?_of_equals (path : List String) (cs : List Char) :
    assigned? value? path ('=' :: cs) =
      (value? (dropInlineBlank cs)).map fun found => ((path, found.1), found.2) :=
  (Option.map_eq_bind ..).symm

lemma assigned?_of_other {c : Char} (hc : c ≠ '=') (path : List String) (cs : List Char) :
    assigned? value? path (c :: cs) = none := by
  unfold assigned?
  split
  · next h => exact absurd (List.cons.inj h).1 hc
  · rfl

lemma linewise_assigned? (hvalue : Linewise value?) (path : List String) :
    Linewise (assigned? value? path) := by
  intro front
  cases front with
  | nil => exact .of_none rfl
  | cons c front =>
    by_cases hc : c = '='
    · subst hc
      refine ((hvalue (dropInlineBlank front)).map fun v => (path, v)).of_eq fun more => ?_
      rw [List.cons_append, assigned?_of_equals, dropInlineBlank_more]
    · exact .of_none (assigned?_of_other hc path _)

lemma linewise_assignment? (hvalue : Linewise value?) : Linewise (assignment? value?) := by
  intro front
  have hkey := (linewise_keyParts? maxNesting front).bind (linewise_assigned? hvalue)
  exact hkey.of_eq fun more => assignment?_eq _

/-- What follows a member of a table: the closing brace, or a comma and further members. -/
def furtherMembers? (value? : List Char → Option (Value × List Char)) (fuel : ℕ) (done : Members)
    (assignment : List String × Value) (cs : List Char) : Option (Members × List Char) :=
  match assign assignment.1 assignment.2 done, dropInlineBlank cs with
  | some ms, '}' :: rest => some (ms, rest)
  | some ms, ',' :: rest => members? value? fuel ms rest
  | _, _ => none

lemma members?_succ (fuel : ℕ) (done : Members) (cs : List Char) :
    members? value? (fuel + 1) done cs = (assignment? value? cs).bind
      fun found => furtherMembers? value? fuel done found.1 found.2 := by
  rw [members?]
  cases assignment? value? cs <;> rfl

lemma members?_of_le {fuel fuel' : ℕ} {done : Members} {cs : List Char}
    {found : Members × List Char} (hle : fuel ≤ fuel')
    (h : members? value? fuel done cs = some found) :
    members? value? fuel' done cs = some found := by
  induction fuel generalizing fuel' done cs with
  | zero => cases h
  | succ fuel ih =>
    obtain _ | fuel' := fuel'
    · omega
    rw [members?_succ] at h ⊢
    obtain ⟨⟨assignment, rest⟩, ha, hfurther⟩ := Option.bind_eq_some_iff.mp h
    rw [ha, Option.bind_some]
    unfold furtherMembers? at hfurther ⊢
    split at hfurther
    · exact hfurther
    · exact ih (Nat.le_of_succ_le_succ hle) hfurther
    · cases hfurther

lemma linewise_furtherMembers? {fuel : ℕ} (h : ∀ done, Linewise (members? value? fuel done))
    (done : Members) (assignment : List String × Value) :
    Linewise (furtherMembers? value? fuel done assignment) := by
  intro front
  cases hassign : assign assignment.1 assignment.2 done with
  | none =>
    apply LinewiseAt.of_none
    rw [furtherMembers?, hassign]
  | some ms =>
    cases hfront : dropInlineBlank front with
    | nil =>
      apply LinewiseAt.of_none
      rw [furtherMembers?, hassign, dropInlineBlank_more, hfront]
      rfl
    | cons c back =>
      by_cases hclose : c = '\x7d'
      · refine .of_some ms back fun more => ?_
        rw [furtherMembers?, hassign, dropInlineBlank_more, hfront, hclose, List.cons_append]
        rfl
      by_cases hcomma : c = ','
      · refine (h ms back).of_eq fun more => ?_
        rw [furtherMembers?, hassign, dropInlineBlank_more, hfront, hcomma, List.cons_append]
        rfl
      · apply LinewiseAt.of_none
        rw [furtherMembers?, hassign, dropInlineBlank_more, hfront, List.cons_append]
        split
        · next h => exact absurd (List.cons.inj h).1 hclose
        · next h => exact absurd (List.cons.inj h).1 hcomma
        · rfl

lemma linewise_members? (hvalue : Linewise value?) (fuel : ℕ) (done : Members) :
    Linewise (members? value? fuel done) := by
  induction fuel generalizing done with
  | zero => exact fun front => .of_none rfl
  | succ fuel ih =>
    intro front
    have hmember := (linewise_assignment? hvalue front).bind (linewise_furtherMembers? ih done)
    exact hmember.of_eq fun more => members?_succ fuel done _

end Tables

/-- A value that is neither an array nor a table between braces. -/
def plainValue? (cs : List Char) : Option (Value × List Char) :=
  ((quoted? cs).map fun found => (.string found.1, found.2)).or (scalar? cs)

lemma plainValue?_eq (cs : List Char) : plainValue? cs =
    match quoted? cs with
    | some (s, rest) => some (.string s, rest)
    | none => scalar? cs := by
  unfold plainValue?
  cases quoted? cs <;> rfl

lemma linewise_plainValue? : Linewise plainValue? := by
  intro front
  refine ((linewise_quoted? front).map Value.string).or (linewise_scalar? front)
    fun hscalar more => ?_
  -- a scalar does not begin with a quote
  cases front with
  | nil => exact absurd rfl hscalar
  | cons c front =>
    have hbasic : c ≠ '"' := by
      rintro rfl
      exact hscalar rfl
    have hliteral : c ≠ '\'' := by
      rintro rfl
      exact hscalar rfl
    rw [List.cons_append, quoted?_of_not_long, quotedLine?_of_other hbasic hliteral]
    · rfl
    · rintro ⟨rest, h⟩
      exact hbasic (List.cons.inj h).1
    · rintro ⟨rest, h⟩
      exact hliteral (List.cons.inj h).1

lemma value?_of_other {c : Char} (hbracket : c ≠ '[') (hbrace : c ≠ '\x7b') (room : ℕ)
    (cs : List Char) : value? (room + 1) (c :: cs) = plainValue? (c :: cs) := by
  unfold value?
  split
  · next h => exact absurd (List.cons.inj h).1 hbracket
  · next h => exact absurd (List.cons.inj h).1 hbrace
  · exact (plainValue?_eq _).symm

lemma value?_of_empty_table {room : ℕ} {cs rest : List Char}
    (h : dropInlineBlank cs = '\x7d' :: rest) :
    value? (room + 1) ('\x7b' :: cs) = some (.table .inline [], rest) := by
  rw [value?, h]
  rfl

lemma value?_of_table {room : ℕ} {cs : List Char}
    (h : ∀ rest, dropInlineBlank cs ≠ '\x7d' :: rest) :
    value? (room + 1) ('\x7b' :: cs) =
      (members? (value? room) (cs.length + 1) [] (dropInlineBlank cs)).map
        fun found => (.table .inline found.1, found.2) := by
  rw [value?]
  split
  · next rest heq => exact absurd heq (h rest)
  · rfl

lemma linewise_value? (room : ℕ) : Linewise (value? room) := by
  induction room with
  | zero =>
    exact fun front => (linewise_plainValue? front).of_eq fun more => (plainValue?_eq _).symm
  | succ room ih =>
    intro front
    cases front with
    | nil => exact .of_none rfl
    | cons c front =>
      by_cases hbracket : c = '['
      · subst hbracket
        have hempty : value? room [] = none := by
          cases room <;> rfl
        have hitems : LinewiseAt (fun cs => items? (value? room) (cs.length + 1) [] cs) front :=
          .of_fuel (fun fuel cs => items? (value? room) fuel [] cs)
            (fun fuel => linewise_items? ih hempty fuel [] front) items?_of_le
        exact (hitems.map Value.array).of_eq fun more => rfl
      by_cases hbrace : c = '\x7b'
      · subst hbrace
        by_cases hclose : ∃ back, dropInlineBlank front = '\x7d' :: back
        · obtain ⟨back, hback⟩ := hclose
          refine .of_some (.table .inline []) back fun more => ?_
          rw [List.cons_append, value?_of_empty_table]
          rw [dropInlineBlank_more, hback, List.cons_append]
        · have hmembers : LinewiseAt
              (fun cs => members? (value? room) (cs.length + 1) [] (dropInlineBlank cs)) front := by
            refine .of_fuel (fun fuel cs => members? (value? room) fuel [] (dropInlineBlank cs))
              (fun fuel => ?_) members?_of_le
            refine (linewise_members? ih fuel [] (dropInlineBlank front)).of_eq fun more => ?_
            rw [dropInlineBlank_more]
          refine (hmembers.map (Value.table .inline)).of_eq fun more => ?_
          rw [List.cons_append, value?_of_table]
          intro rest heq
          rw [dropInlineBlank_more] at heq
          exact hclose (exists_cons_of_more (by decide) heq)
      · refine (linewise_plainValue? (c :: front)).of_eq fun more => ?_
        exact value?_of_other hbracket hbrace room _

end Values

end SlackBridge.Proofs
