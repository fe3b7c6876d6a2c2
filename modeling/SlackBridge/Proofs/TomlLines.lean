import SlackBridge.Proofs.TomlReaders

/-!
# The statements of a document

A document is a sequence of statements, each read from where the one before it ends. Since a
statement ends with its line, the statements of complete lines are the same whatever follows, and
the document goes on with the statements of what follows.
-/

namespace SlackBridge.Proofs

open Toml

/-- The statements that a text is read as, one after the other. -/
inductive Reads : List Char → List Statement → Prop
  | done {cs : List Char} (h : dropLines false cs = []) : Reads cs []
  | step {cs rest : List Char} {s : Statement} {ss : List Statement}
      (hne : dropLines false cs ≠ []) (hs : statement? (dropLines false cs) = some (s, rest))
      (hrest : Reads rest ss) : Reads cs (s :: ss)

/-! ### How much is read -/

section Length

/-- The reader leaves no more than it was given. -/
def Shrinks {α : Type} (read? : List Char → Option (α × List Char)) : Prop :=
  ∀ cs x rest, read? cs = some (x, rest) → rest.length ≤ cs.length

lemma Shrinks.map {α β : Type} {read? : List Char → Option (α × List Char)} (h : Shrinks read?)
    {f : α → β} {cs rest : List Char} {y : β}
    (hread : (read? cs).map (fun found => (f found.1, found.2)) = some (y, rest)) :
    rest.length ≤ cs.length := by
  obtain ⟨⟨x, rest'⟩, hx, heq⟩ := Option.map_eq_some_iff.mp hread
  cases heq
  exact h cs x _ hx

lemma Shrinks.bind {α β : Type} {read? : List Char → Option (α × List Char)} (h : Shrinks read?)
    {then? : α → List Char → Option (β × List Char)} (hthen : ∀ x, Shrinks (then? x))
    {cs rest : List Char} {y : β}
    (hread : (read? cs).bind (fun found => then? found.1 found.2) = some (y, rest)) :
    rest.length ≤ cs.length := by
  obtain ⟨⟨x, between⟩, hx, hy⟩ := Option.bind_eq_some_iff.mp hread
  exact (hthen x between y rest hy).trans (h cs x between hx)

lemma length_dropWhile_le (p : Char → Bool) (cs : List Char) :
    (cs.dropWhile p).length ≤ cs.length :=
  (List.dropWhile_sublist p).length_le

lemma length_dropInlineBlank_le (cs : List Char) : (dropInlineBlank cs).length ≤ cs.length :=
  length_dropWhile_le isInlineBlank cs

lemma shrinks_basicFrom (skip : ℕ) (done : List Char) : Shrinks (basicFrom skip done) := by
  intro cs x rest h
  fun_induction basicFrom skip done cs <;> grind

lemma shrinks_literalFrom (done : List Char) : Shrinks (literalFrom done) := by
  intro cs x rest h
  fun_induction literalFrom done cs <;> grind

lemma length_closeLong_le (quote : Char) (done rest : List Char) :
    (closeLong quote done rest).2.length ≤ rest.length := by
  fun_cases closeLong quote done rest <;> grind

lemma shrinks_longBasicFrom (folding : Folding) (skip : ℕ) (done : List Char) :
    Shrinks (longBasicFrom folding skip done) := by
  intro cs x rest h
  have hclose := length_closeLong_le
  fun_induction longBasicFrom folding skip done cs <;> grind

lemma shrinks_longLiteralFrom (done : List Char) : Shrinks (longLiteralFrom done) := by
  intro cs x rest h
  have hclose := length_closeLong_le
  fun_induction longLiteralFrom done cs <;> grind

lemma length_dropBreak?_le (cs : List Char) : ((dropBreak? cs).getD cs).length ≤ cs.length := by
  fun_cases dropBreak? cs <;> grind

lemma shrinks_quotedLine? : Shrinks quotedLine? := by
  intro cs x rest h
  unfold quotedLine? at h
  split at h
  · exact Nat.le_succ_of_le ((shrinks_basicFrom 0 []).map h)
  · exact Nat.le_succ_of_le ((shrinks_literalFrom []).map h)
  · cases h

lemma shrinks_quoted? : Shrinks quoted? := by
  intro cs x rest h
  unfold quoted? at h
  split at h
  · next after =>
    have hlong := (shrinks_longBasicFrom .none 0 []).map h
    exact (hlong.trans (length_dropBreak?_le after)).trans (Nat.le_add_right _ 3)
  · next after =>
    have hlong := (shrinks_longLiteralFrom []).map h
    exact (hlong.trans (length_dropBreak?_le after)).trans (Nat.le_add_right _ 3)
  · exact shrinks_quotedLine? _ _ _ h

lemma shrinks_keyPart? : Shrinks keyPart? := by
  intro cs x rest h
  rw [keyPart?_eq] at h
  rcases Option.or_eq_some_iff.mp h with h | ⟨-, h⟩
  · exact shrinks_quotedLine? _ _ _ h
  · unfold bareKey? at h
    split_ifs at h
    cases h
    exact length_dropWhile_le _ cs

lemma shrinks_furtherParts? {room : ℕ} (hparts : Shrinks (keyParts? room)) (part : String) :
    Shrinks (furtherParts? room part) := by
  intro cs x rest h
  have hblank := length_dropInlineBlank_le cs
  by_cases hdot : ∃ more, dropInlineBlank cs = '.' :: more
  · obtain ⟨more, hmore⟩ := hdot
    rw [furtherParts?_of_dot hmore] at h
    rw [hmore] at hblank
    exact (hparts.map h).trans (Nat.le_of_succ_le hblank)
  · rw [furtherParts?_of_end fun more heq => hdot ⟨more, heq⟩] at h
    cases h
    exact hblank

lemma shrinks_keyParts? (room : ℕ) : Shrinks (keyParts? room) := by
  induction room with
  | zero => exact fun cs x rest h => nomatch h
  | succ room ih =>
    intro cs x rest h
    rw [keyParts?_succ] at h
    exact (shrinks_keyPart?.bind (shrinks_furtherParts? ih) h).trans (length_dropInlineBlank_le cs)

lemma shrinks_scalar? : Shrinks scalar? := by
  intro cs x rest h
  have hword := length_dropWhile_le isScalarChar cs
  unfold scalar? at h
  dsimp only at h
  split at h
  · next time hdate hrest =>
    have htime := length_dropWhile_le isScalarChar time
    rw [hrest, List.length_cons] at hword
    split_ifs at h
    · obtain ⟨v, -, heq⟩ := Option.map_eq_some_iff.mp h
      cases heq
      omega
    · obtain ⟨v, -, heq⟩ := Option.map_eq_some_iff.mp h
      cases heq
      rwa [hrest, List.length_cons]
  · obtain ⟨v, -, heq⟩ := Option.map_eq_some_iff.mp h
    cases heq
    exact hword

lemma length_dropLines_le (inComment : Bool) (cs : List Char) :
    (dropLines inComment cs).length ≤ cs.length := by
  fun_induction dropLines inComment cs <;> grind

lemma shrinks_furtherItems? {item? : List Char → Option (Value × List Char)} {fuel : ℕ}
    (hitems : ∀ done, Shrinks (items? item? fuel done)) (done : List Value) (v : Value) :
    Shrinks (furtherItems? item? fuel done v) := by
  intro cs x rest h
  have hlines := length_dropLines_le false cs
  unfold furtherItems? at h
  split at h
  · next heq =>
    cases h
    rw [heq] at hlines
    exact Nat.le_of_succ_le hlines
  · next heq =>
    rw [heq] at hlines
    exact (hitems _ _ _ _ h).trans (Nat.le_of_succ_le hlines)
  · cases h

lemma shrinks_items? {item? : List Char → Option (Value × List Char)} (hitem : Shrinks item?)
    (fuel : ℕ) (done : List Value) : Shrinks (items? item? fuel done) := by
  induction fuel generalizing done with
  | zero => exact fun cs x rest h => nomatch h
  | succ fuel ih =>
    intro cs x rest h
    have hlines := length_dropLines_le false cs
    by_cases hclose : ∃ rest, dropLines false cs = ']' :: rest
    · obtain ⟨rest', hrest⟩ := hclose
      rw [items?_of_close hrest] at h
      cases h
      rw [hrest] at hlines
      exact Nat.le_of_succ_le hlines
    · rw [items?_of_item fun rest heq => hclose ⟨rest, heq⟩] at h
      exact (hitem.bind (shrinks_furtherItems? ih done) h).trans hlines

lemma length_assignment?_lt {value? : List Char → Option (Value × List Char)}
    (hvalue : Shrinks value?) {cs rest : List Char} {x : List String × Value}
    (h : assignment? value? cs = some (x, rest)) : rest.length < cs.length := by
  rw [assignment?_eq] at h
  obtain ⟨⟨path, between⟩, hpath, hassigned⟩ := Option.bind_eq_some_iff.mp h
  have hkey := shrinks_keyParts? maxNesting cs path between hpath
  cases between with
  | nil => cases hassigned
  | cons c between =>
    by_cases hc : c = '='
    · subst hc
      rw [assigned?_of_equals] at hassigned
      have hblank := length_dropInlineBlank_le between
      have hrest := hvalue.map hassigned
      rw [List.length_cons] at hkey
      omega
    · rw [assigned?_of_other hc] at hassigned
      cases hassigned

lemma shrinks_furtherMembers? {value? : List Char → Option (Value × List Char)} {fuel : ℕ}
    (hmembers : ∀ done, Shrinks (members? value? fuel done)) (done : Members)
    (assignment : List String × Value) :
    Shrinks (furtherMembers? value? fuel done assignment) := by
  intro cs x rest h
  have hblank := length_dropInlineBlank_le cs
  unfold furtherMembers? at h
  split at h
  · next heq =>
    cases h
    rw [heq] at hblank
    exact Nat.le_of_succ_le hblank
  · next heq =>
    rw [heq] at hblank
    exact (hmembers _ _ _ _ h).trans (Nat.le_of_succ_le hblank)
  · cases h

lemma shrinks_members? {value? : List Char → Option (Value × List Char)} (hvalue : Shrinks value?)
    (fuel : ℕ) (done : Members) : Shrinks (members? value? fuel done) := by
  induction fuel generalizing done with
  | zero => exact fun cs x rest h => nomatch h
  | succ fuel ih =>
    have hassignment : Shrinks (assignment? value?) :=
      fun cs x rest h => (length_assignment?_lt hvalue h).le
    intro cs x rest h
    rw [members?_succ] at h
    exact hassignment.bind (shrinks_furtherMembers? ih done) h

lemma shrinks_plainValue? : Shrinks plainValue? := by
  intro cs x rest h
  rcases Option.or_eq_some_iff.mp h with h | ⟨-, h⟩
  · exact shrinks_quoted?.map h
  · exact shrinks_scalar? cs x rest h

lemma shrinks_value? (room : ℕ) : Shrinks (value? room) := by
  induction room with
  | zero => exact fun cs x rest h => shrinks_plainValue? cs x rest ((plainValue?_eq cs).trans h)
  | succ room ih =>
    intro cs x rest h
    cases cs with
    | nil => cases h
    | cons c cs =>
      by_cases hbracket : c = '['
      · subst hbracket
        exact Nat.le_succ_of_le ((shrinks_items? ih _ []).map h)
      by_cases hbrace : c = '\x7b'
      · subst hbrace
        have hblank := length_dropInlineBlank_le cs
        by_cases hclose : ∃ rest, dropInlineBlank cs = '\x7d' :: rest
        · obtain ⟨rest', hrest⟩ := hclose
          rw [value?_of_empty_table hrest] at h
          cases h
          rw [hrest, List.length_cons] at hblank
          rw [List.length_cons]
          omega
        · rw [value?_of_table fun rest heq => hclose ⟨rest, heq⟩] at h
          exact Nat.le_succ_of_le (((shrinks_members? ih _ []).map h).trans hblank)
      · rw [value?_of_other hbracket hbrace] at h
        exact shrinks_plainValue? _ x rest h

end Length

/-! ### The end of a statement -/

section Ends

/-- The text consists of complete lines. -/
def IsLines (cs : List Char) : Prop :=
  cs = [] ∨ ∃ front, cs = front ++ ['\n']

/-- What stands behind the blanks and the comment at the end of a line. -/
def afterComment (cs : List Char) : List Char :=
  match dropInlineBlank cs with
  | '#' :: comment => comment.dropWhile isPlain
  | rest => rest

lemma endLine?_eq (cs : List Char) : endLine? cs =
    if afterComment cs = [] then some [] else dropBreak? (afterComment cs) :=
  rfl

lemma afterComment_of_comment {cs comment : List Char} (h : dropInlineBlank cs = '#' :: comment) :
    afterComment cs = comment.dropWhile isPlain := by
  unfold afterComment
  rw [h]
  rfl

lemma afterComment_of_other {cs : List Char} (h : ∀ comment, dropInlineBlank cs ≠ '#' :: comment) :
    afterComment cs = dropInlineBlank cs := by
  unfold afterComment
  split
  · next comment heq => exact absurd heq (h comment)
  · rfl

lemma afterComment_more (front more : List Char) :
    afterComment (front ++ '\n' :: more) = afterComment front ++ '\n' :: more := by
  by_cases hcomment : ∃ comment, dropInlineBlank front = '#' :: comment
  · obtain ⟨comment, h⟩ := hcomment
    have hmore : dropInlineBlank (front ++ '\n' :: more) = '#' :: (comment ++ '\n' :: more) := by
      rw [dropInlineBlank_more, h, List.cons_append]
    rw [afterComment_of_comment hmore, afterComment_of_comment h, dropWhile_more (by decide)]
  · rw [afterComment_of_other, afterComment_of_other, dropInlineBlank_more]
    · exact fun comment h => hcomment ⟨comment, h⟩
    · intro comment h
      rw [dropInlineBlank_more] at h
      exact hcomment (exists_cons_of_more (by decide) h)

lemma length_endLine?_le {cs rest : List Char} (h : endLine? cs = some rest) :
    rest.length ≤ cs.length := by
  have hcomment : (afterComment cs).length ≤ cs.length := by
    have hblank := length_dropInlineBlank_le cs
    by_cases hcomment : ∃ comment, dropInlineBlank cs = '#' :: comment
    · obtain ⟨comment, heq⟩ := hcomment
      have hplain := length_dropWhile_le isPlain comment
      rw [afterComment_of_comment heq]
      rw [heq, List.length_cons] at hblank
      omega
    · rwa [afterComment_of_other fun comment heq => hcomment ⟨comment, heq⟩]
  rw [endLine?_eq] at h
  split_ifs at h
  · cases h
    exact Nat.zero_le _
  · have hbreak := length_dropBreak?_le (afterComment cs)
    rw [h, Option.getD_some] at hbreak
    exact hbreak.trans hcomment

lemma endLine?_more {front rest : List Char} (h : endLine? (front ++ ['\n']) = some rest) :
    IsLines rest ∧ ∀ more, endLine? (front ++ '\n' :: more) = some (rest ++ more) := by
  have hline : ∀ more,
      endLine? (front ++ '\n' :: more) = dropBreak? (afterComment front ++ '\n' :: more) := by
    intro more
    rw [endLine?_eq, afterComment_more, if_neg (by simp)]
  rw [hline] at h
  simp only [hline]
  by_cases hempty : afterComment front = []
  · rw [hempty] at h ⊢
    cases h
    exact ⟨.inl rfl, fun more => rfl⟩
  by_cases hreturn : afterComment front = ['\r']
  · rw [hreturn] at h ⊢
    cases h
    exact ⟨.inl rfl, fun more => rfl⟩
  · rw [dropBreak?_more hempty hreturn] at h
    obtain ⟨back, hback, rfl⟩ := Option.map_eq_some_iff.mp h
    refine ⟨.inr ⟨back, rfl⟩, fun more => ?_⟩
    rw [dropBreak?_more hempty hreturn, hback, Option.map_some, List.append_assoc]
    rfl

variable {α β : Type}

/-- Of complete lines the reader leaves complete lines, and it makes the same of them if more lines
stand behind. -/
def EndsLineAt (read? : List Char → Option (α × List Char)) (front : List Char) : Prop :=
  ∀ x rest, read? (front ++ ['\n']) = some (x, rest) →
    IsLines rest ∧ ∀ more, read? (front ++ '\n' :: more) = some (x, rest ++ more)

variable {read? : List Char → Option (α × List Char)} {front : List Char}

lemma EndsLineAt.of_none (h : read? (front ++ ['\n']) = none) : EndsLineAt read? front := by
  intro x rest hread
  rw [h] at hread
  cases hread

lemma EndsLineAt.of_eq {other? : List Char → Option (α × List Char)} {back : List Char}
    (h : ∀ more, read? (front ++ '\n' :: more) = other? (back ++ '\n' :: more))
    (hother : EndsLineAt other? back) : EndsLineAt read? front := by
  intro x rest hread
  rw [h []] at hread
  obtain ⟨hlines, hmore⟩ := hother x rest hread
  exact ⟨hlines, fun more => (h more).trans (hmore more)⟩

/-- A reader within a line and the one that ends the line. -/
lemma LinewiseAt.bind_end (h : LinewiseAt read? front)
    {then? : α → List Char → Option (β × List Char)} (hthen : ∀ x back, EndsLineAt (then? x) back) :
    EndsLineAt (fun cs => (read? cs).bind fun found => then? found.1 found.2) front := by
  intro y rest hread
  obtain ⟨⟨x, between⟩, hx, hy⟩ := Option.bind_eq_some_iff.mp hread
  obtain ⟨back, rfl, hmore⟩ := h x between hx
  obtain ⟨hlines, hthenMore⟩ := hthen x back y rest hy
  refine ⟨hlines, fun more => ?_⟩
  dsimp only
  rw [hmore more]
  exact hthenMore more

/-- A statement at the end of its line. -/
def ended? (s : α) (cs : List Char) : Option (α × List Char) := do
  return (s, ← endLine? cs)

lemma ended?_eq_some_iff {s x : α} {cs rest : List Char} :
    ended? s cs = some (x, rest) ↔ x = s ∧ endLine? cs = some rest := by
  unfold ended?
  cases endLine? cs <;> simp [eq_comm]

lemma endsLineAt_ended? (s : α) (front : List Char) : EndsLineAt (ended? s) front := by
  intro x rest hread
  obtain ⟨rfl, hrest⟩ := ended?_eq_some_iff.mp hread
  obtain ⟨hlines, hmore⟩ := endLine?_more hrest
  exact ⟨hlines, fun more => ended?_eq_some_iff.mpr ⟨rfl, hmore more⟩⟩

end Ends

/-! ### Statements -/

section Statements

/-- What follows the name of a table, or of an item of an array of tables. -/
def tableEnd? (path : List String) : List Char → Option (Statement × List Char)
  | ']' :: cs => ended? (.openTable path) cs
  | _ => none

def itemEnd? (path : List String) : List Char → Option (Statement × List Char)
  | ']' :: ']' :: cs => ended? (.openItem path) cs
  | _ => none

lemma statement?_item (cs : List Char) : statement? ('[' :: '[' :: cs) =
    (keyParts? maxNesting cs).bind fun found => itemEnd? found.1 found.2 :=
  rfl

lemma statement?_table {cs : List Char} (h : cs.head? ≠ some '[') : statement? ('[' :: cs) =
    (keyParts? maxNesting cs).bind fun found => tableEnd? found.1 found.2 := by
  rw [statement?]
  · rfl
  · rintro rest rfl
    exact h rfl

lemma statement?_assignment {cs : List Char} (h : cs.head? ≠ some '[') : statement? cs =
    (assignment? (value? maxNesting) cs).bind
      fun found => ended? (.assign found.1.1 found.1.2) found.2 := by
  rw [statement?]
  · rfl
  · rintro rest rfl
    exact h rfl
  · rintro rest rfl
    exact h rfl

lemma endsLineAt_tableEnd? (path : List String) (front : List Char) :
    EndsLineAt (tableEnd? path) front := by
  cases front with
  | nil => exact .of_none rfl
  | cons c front =>
    by_cases hc : c = ']'
    · subst hc
      exact (endsLineAt_ended? _ front).of_eq fun more => rfl
    · apply EndsLineAt.of_none
      rw [List.cons_append]
      unfold tableEnd?
      split
      · next h => exact absurd (List.cons.inj h).1 hc
      · rfl

lemma endsLineAt_itemEnd? (path : List String) (front : List Char) :
    EndsLineAt (itemEnd? path) front := by
  by_cases hclose : ∃ back, front = ']' :: ']' :: back
  · obtain ⟨back, rfl⟩ := hclose
    exact (endsLineAt_ended? _ back).of_eq fun more => rfl
  · apply EndsLineAt.of_none
    unfold itemEnd?
    split
    · next rest h =>
      have htwo := (take_two_iff (by decide : ']' ≠ '\n') front []).mp (by rw [h]; rfl)
      exact absurd htwo hclose
    · rfl

lemma endsLineAt_statement? (front : List Char) : EndsLineAt statement? front := by
  by_cases hitem : ∃ back, front = '[' :: '[' :: back
  · obtain ⟨back, rfl⟩ := hitem
    have hparts := (linewise_keyParts? maxNesting back).bind_end endsLineAt_itemEnd?
    exact hparts.of_eq fun more => rfl
  by_cases htable : ∃ back, front = '[' :: back
  · obtain ⟨back, rfl⟩ := htable
    have hparts := (linewise_keyParts? maxNesting back).bind_end endsLineAt_tableEnd?
    refine hparts.of_eq fun more => ?_
    rw [List.cons_append, statement?_table]
    intro hhead
    obtain ⟨rest, hrest⟩ := List.head?_eq_some_iff.mp hhead
    obtain ⟨back', rfl⟩ := exists_cons_of_more (by decide) hrest
    exact hitem ⟨back', rfl⟩
  · have hparts := (linewise_assignment? (linewise_value? maxNesting) front).bind_end
      fun found => endsLineAt_ended? (Statement.assign found.1 found.2)
    refine hparts.of_eq fun more => ?_
    rw [statement?_assignment]
    intro hhead
    obtain ⟨rest, hrest⟩ := List.head?_eq_some_iff.mp hhead
    exact htable (exists_cons_of_more (by decide) hrest)

lemma length_ended?_le {α : Type} {s x : α} {cs rest : List Char}
    (h : ended? s cs = some (x, rest)) : rest.length ≤ cs.length :=
  length_endLine?_le (ended?_eq_some_iff.mp h).2

lemma shrinks_tableEnd? (path : List String) : Shrinks (tableEnd? path) := by
  intro cs x rest h
  unfold tableEnd? at h
  split at h
  · exact Nat.le_succ_of_le (length_ended?_le h)
  · cases h

lemma shrinks_itemEnd? (path : List String) : Shrinks (itemEnd? path) := by
  intro cs x rest h
  unfold itemEnd? at h
  split at h
  · exact (length_ended?_le h).trans (Nat.le_add_right _ 2)
  · cases h

/-- A statement takes at least one character. -/
lemma length_statement?_lt {cs rest : List Char} {s : Statement}
    (h : statement? cs = some (s, rest)) : rest.length < cs.length := by
  by_cases hopen : cs.head? = some '['
  · obtain ⟨cs, rfl⟩ := List.head?_eq_some_iff.mp hopen
    by_cases hitem : cs.head? = some '['
    · obtain ⟨cs, rfl⟩ := List.head?_eq_some_iff.mp hitem
      rw [statement?_item] at h
      have hparts := (shrinks_keyParts? maxNesting).bind shrinks_itemEnd? h
      simp only [List.length_cons]
      omega
    · rw [statement?_table hitem] at h
      exact Nat.lt_succ_of_le ((shrinks_keyParts? maxNesting).bind shrinks_tableEnd? h)
  · rw [statement?_assignment hopen] at h
    obtain ⟨⟨assignment, between⟩, hassignment, hended⟩ := Option.bind_eq_some_iff.mp h
    exact (length_ended?_le hended).trans_lt (length_assignment?_lt (shrinks_value? _) hassignment)

end Statements

/-! ### Sequences of statements -/

section Sequences

variable {cs rest : List Char} {s : Statement} {ss : List Statement}

lemma reads_iff_of_gone (h : dropLines false cs = []) : Reads cs ss ↔ ss = [] := by
  constructor
  · intro hreads
    cases hreads with
    | done => rfl
    | step hne => exact absurd h hne
  · rintro rfl
    exact .done h

lemma reads_iff_of_statement (hne : dropLines false cs ≠ [])
    (hs : statement? (dropLines false cs) = some (s, rest)) :
    Reads cs ss ↔ ∃ tail, ss = s :: tail ∧ Reads rest tail := by
  constructor
  · intro hreads
    cases hreads with
    | done h => exact absurd h hne
    | step _ hs' hrest =>
      cases hs.symm.trans hs'
      exact ⟨_, rfl, hrest⟩
  · rintro ⟨tail, rfl, hrest⟩
    exact .step hne hs hrest

lemma reads_congr {cs' : List Char} (h : dropLines false cs = dropLines false cs') :
    Reads cs ss ↔ Reads cs' ss := by
  constructor
  · intro hreads
    cases hreads with
    | done hgone => exact .done (h.symm.trans hgone)
    | step hne hs hrest => exact .step (h ▸ hne) (h ▸ hs) hrest
  · intro hreads
    cases hreads with
    | done hgone => exact .done (h.trans hgone)
    | step hne hs hrest => exact .step (h ▸ hne) (h ▸ hs) hrest

lemma statements?_succ {fuel : ℕ} {done : List Statement} (h : dropLines false cs ≠ []) :
    statements? (fuel + 1) done cs = (statement? (dropLines false cs)).bind
      fun found => statements? fuel (found.1 :: done) found.2 := by
  rw [statements?]
  split
  · next heq => exact absurd heq h
  · cases statement? (dropLines false cs) <;> rfl

/-- A document is read into the statements of its text: there are turns enough. -/
lemma statements?_eq_some_iff {fuel : ℕ} (hfuel : cs.length < fuel) {done all : List Statement} :
    statements? fuel done cs = some all ↔ ∃ ss, all = done.reverse ++ ss ∧ Reads cs ss := by
  induction fuel generalizing cs done with
  | zero => cases hfuel
  | succ fuel ih =>
    by_cases hgone : dropLines false cs = []
    · simp only [statements?, hgone, reads_iff_of_gone hgone]
      simp [eq_comm]
    rw [statements?_succ hgone]
    cases hstatement : statement? (dropLines false cs) with
    | none =>
      rw [Option.bind_none]
      refine iff_of_false nofun ?_
      rintro ⟨ss, -, hreads⟩
      cases hreads with
      | done h => exact hgone h
      | step _ hs => cases hstatement.symm.trans hs
    | some found =>
      obtain ⟨s, rest⟩ := found
      have hshort := length_statement?_lt hstatement
      have hlines := length_dropLines_le false cs
      have hturns : rest.length < fuel := by
        omega
      rw [Option.bind_some, ih hturns]
      simp only [reads_iff_of_statement hgone hstatement]
      constructor
      · rintro ⟨tail, rfl, hrest⟩
        exact ⟨s :: tail, by simp, tail, rfl, hrest⟩
      · rintro ⟨_, rfl, tail, rfl, hrest⟩
        exact ⟨tail, by simp, hrest⟩

/-- Complete lines are read by themselves, and then what follows them. -/
lemma reads_append_iff (hlines : IsLines cs) (hreads : Reads cs ss) (more : List Char)
    (all : List Statement) :
    Reads (cs ++ more) all ↔ ∃ tail, all = ss ++ tail ∧ Reads more tail := by
  induction hreads generalizing all with
  | @done cs hgone =>
    have hsame : dropLines false (cs ++ more) = dropLines false more := by
      rcases hlines with rfl | ⟨front, rfl⟩
      · rfl
      rw [List.append_assoc]
      rcases dropLines_more false front with h | ⟨c, back, hstay⟩
      · exact h more
      · rw [hstay] at hgone
        cases hgone
    rw [reads_congr hsame]
    simp
  | @step cs rest s ss hne hs _ ih =>
    rcases hlines with rfl | ⟨front, rfl⟩
    · exact absurd rfl hne
    rcases dropLines_more false front with hgone | ⟨c, back, hstay⟩
    · exact absurd (hgone []) hne
    rw [hstay] at hs
    obtain ⟨hrestLines, hmore⟩ := endsLineAt_statement? (c :: back) s rest hs
    have hstatement : statement? (dropLines false (front ++ '\n' :: more)) =
        some (s, rest ++ more) := by
      rw [hstay]
      exact hmore more
    have hneMore : dropLines false (front ++ '\n' :: more) ≠ [] := by
      rw [hstay]
      nofun
    rw [List.append_assoc, List.singleton_append, reads_iff_of_statement hneMore hstatement]
    simp only [ih hrestLines]
    constructor
    · rintro ⟨_, rfl, tail, rfl, htail⟩
      exact ⟨tail, rfl, htail⟩
    · rintro ⟨tail, rfl, htail⟩
      exact ⟨ss ++ tail, rfl, tail, rfl, htail⟩

end Sequences

/-! ### Documents -/

/-- A text without the byte order mark at its start. -/
def withoutMark : List Char → List Char
  | '\ufeff' :: cs => cs
  | cs => cs

/-- The statements are carried out one after the other, on no tables at first. -/
def built? (ss : List Statement) : Option Building :=
  ss.foldlM Building.add ⟨[], []⟩

/-- The document of a text holds the tables that its statements make. -/
lemma read?_eq_some_iff_reads (text : String) (doc : Members) :
    Toml.read? text = some doc ↔
      ∃ ss path, Reads (withoutMark text.toList) ss ∧ built? ss = some ⟨doc, path⟩ := by
  have hread : Toml.read? text =
      (statements? ((withoutMark text.toList).length + 1) [] (withoutMark text.toList)).bind
        fun ss => (built? ss).bind fun b => some b.root :=
    rfl
  have hreads : ∀ ss,
      statements? ((withoutMark text.toList).length + 1) [] (withoutMark text.toList) = some ss ↔
        Reads (withoutMark text.toList) ss := by
    intro ss
    rw [statements?_eq_some_iff (Nat.lt_succ_self _)]
    simp
  simp only [hread, Option.bind_eq_some_iff, hreads, Option.some_inj]
  constructor
  · rintro ⟨ss, hss, b, hb, rfl⟩
    exact ⟨ss, b.path, hss, hb⟩
  · rintro ⟨ss, path, hss, hb⟩
    exact ⟨ss, hss, ⟨doc, path⟩, hb, rfl⟩

end SlackBridge.Proofs
