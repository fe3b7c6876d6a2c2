import SlackBridge.Json.Tree
import SlackBridge.Proofs.JsonLexemes

/-!
# Documents and their tokens

A document is a list of tokens, and from that list its tree is read. A document is read exactly if
it is a writing of the tokens of some tree, and then as that tree: no other text is accepted, and no
writing of a tree is refused, however deep the tree is.
-/

namespace SlackBridge.Proofs

open Json

/-! ### The tokens of a tree -/

mutual

/-- The tokens that a tree is written with. -/
def treeTokens : Tree → List Token
  | .null => [.null]
  | .bool b => [.bool b]
  | .number n => [.number n]
  | .string s => [.string s]
  | .array items => .openArray :: (itemTokens items ++ [.closeArray])
  | .object members => .openObject :: (memberTokens members ++ [.closeObject])

def itemTokens : List Tree → List Token
  | [] => []
  | [t] => treeTokens t
  | t :: u :: rest => treeTokens t ++ .comma :: itemTokens (u :: rest)

def memberTokens : List (Option String × Tree) → List Token
  | [] => []
  | [(k, t)] => .string k :: .colon :: treeTokens t
  | (k, t) :: m :: rest =>
    .string k :: .colon :: (treeTokens t ++ .comma :: memberTokens (m :: rest))

end

section Reading

open Tree

/-- The first item of an array does not look like the end of the array. -/
lemma foldlM_firstItem (frames : List Frame) {items : List Tree} (h : items ≠ [])
    (rest : List Token) :
    (itemTokens items ++ rest).foldlM step ⟨frames, .firstItem⟩ =
      (itemTokens items ++ rest).foldlM step ⟨frames, .value⟩ := by
  have hfirst : ∃ first more, itemTokens items = first :: more ∧
      step ⟨frames, .firstItem⟩ first = step ⟨frames, .value⟩ first := by
    match items with
    | [] => exact absurd rfl h
    | [t] => cases t <;> exact ⟨_, _, rfl, rfl⟩
    | t :: u :: items => cases t <;> exact ⟨_, _, rfl, rfl⟩
  obtain ⟨first, more, htokens, hstep⟩ := hfirst
  rw [htokens, List.cons_append, List.foldlM_cons, List.foldlM_cons, hstep]

mutual

/-- The tokens of a tree are read as that tree wherever a value may begin. -/
theorem foldlM_treeTokens (frames : List Frame) :
    ∀ t, (treeTokens t).foldlM step ⟨frames, .value⟩ = some ⟨frames, .after t⟩
  | .null | .bool _ | .number _ | .string _ => rfl
  | .array [] => rfl
  | .array (t :: items) => by
    change (itemTokens (t :: items) ++ [Token.closeArray]).foldlM step
      ⟨.array [] :: frames, .firstItem⟩ = _
    rw [foldlM_firstItem _ (List.cons_ne_nil t items)]
    exact foldlM_itemTokens frames [] (t :: items) (List.cons_ne_nil t items)
  | .object [] => rfl
  | .object (m :: members) =>
    foldlM_memberTokens frames [] (m :: members) (List.cons_ne_nil m members)

theorem foldlM_itemTokens (frames : List Frame) (done : List Tree) :
    ∀ items ≠ [],
      (itemTokens items ++ [Token.closeArray]).foldlM step ⟨.array done :: frames, .value⟩ =
        some ⟨frames, .after (.array (done.reverse ++ items))⟩
  | [], h => absurd rfl h
  | [t], _ => by
    rw [itemTokens, List.foldlM_append, foldlM_treeTokens _ t, ← List.reverse_cons]
    rfl
  | t :: u :: rest, _ => by
    have hrest := foldlM_itemTokens frames (t :: done) (u :: rest) (List.cons_ne_nil u rest)
    rw [itemTokens, List.append_assoc, List.foldlM_append, foldlM_treeTokens _ t]
    rw [List.reverse_cons, List.append_assoc, List.singleton_append] at hrest
    exact hrest

theorem foldlM_memberTokens (frames : List Frame) (done : List (Option String × Tree)) :
    ∀ members ≠ [], (memberTokens members ++ [Token.closeObject]).foldlM step ⟨frames, .key done⟩ =
      some ⟨frames, .after (.object (done.reverse ++ members))⟩
  | [], h => absurd rfl h
  | [(k, t)], _ => by
    change (treeTokens t ++ [Token.closeObject]).foldlM step ⟨.object done k :: frames, .value⟩ = _
    rw [List.foldlM_append, foldlM_treeTokens _ t, ← List.reverse_cons]
    rfl
  | (k, t) :: m :: rest, _ => by
    have hrest := foldlM_memberTokens frames ((k, t) :: done) (m :: rest) (List.cons_ne_nil m rest)
    change (treeTokens t ++ Token.comma :: memberTokens (m :: rest) ++
      [Token.closeObject]).foldlM step ⟨.object done k :: frames, .value⟩ = _
    rw [List.append_assoc, List.foldlM_append, foldlM_treeTokens _ t]
    rw [List.reverse_cons, List.append_assoc, List.singleton_append] at hrest
    exact hrest

end

/-! ### The tokens that have been read -/

/-- The tokens of the items before the current one, each with the comma after it. -/
def itemsBefore (items : List Tree) : List Token :=
  items.flatMap fun t => treeTokens t ++ [.comma]

def membersBefore (members : List (Option String × Tree)) : List Token :=
  members.flatMap fun m => .string m.1 :: .colon :: (treeTokens m.2 ++ [.comma])

/-- The tokens of a container up to its current part. -/
def frameTokens : Frame → List Token
  | .array done => .openArray :: itemsBefore done.reverse
  | .object done key => .openObject :: (membersBefore done.reverse ++ [.string key, .colon])

/-- The tokens of the open containers. -/
def framesTokens (frames : List Frame) : List Token :=
  frames.reverse.flatMap frameTokens

/-- The tokens of what is read at present. -/
def positionTokens : Position → List Token
  | .value | .firstItem => []
  | .key done => .openObject :: membersBefore done.reverse
  | .colon done key => .openObject :: (membersBefore done.reverse ++ [.string key])
  | .after t => treeTokens t

/-- The tokens that have been read: those of the open containers, the innermost one last, and those
of the current part. An array whose first item may come next has no items yet. -/
structure HasTaken (r : Reading) (tokens : List Token) : Prop where
  taken : tokens = framesTokens r.frames ++ positionTokens r.position
  first : r.position = .firstItem → r.frames.head? = some (.array [])

lemma itemTokens_concat (items : List Tree) (t : Tree) :
    itemTokens (items ++ [t]) = itemsBefore items ++ treeTokens t := by
  induction items with
  | nil => rfl
  | cons u items ih =>
    have hcons : ∃ v rest, items ++ [t] = v :: rest :=
      List.exists_cons_of_ne_nil (List.append_ne_nil_of_right_ne_nil items (List.cons_ne_nil t []))
    obtain ⟨v, rest, hrest⟩ := hcons
    have hbefore : itemsBefore (u :: items) = treeTokens u ++ .comma :: itemsBefore items := by
      rw [itemsBefore, List.flatMap_cons, List.append_assoc]
      rfl
    rw [List.cons_append, hrest, itemTokens, ← hrest, ih, hbefore, List.append_assoc,
      List.cons_append]

lemma memberTokens_concat (members : List (Option String × Tree)) (key : Option String)
    (t : Tree) : memberTokens (members ++ [(key, t)]) =
      membersBefore members ++ .string key :: .colon :: treeTokens t := by
  induction members with
  | nil => rfl
  | cons m members ih =>
    obtain ⟨k, u⟩ := m
    have hcons : ∃ v rest, members ++ [(key, t)] = v :: rest := List.exists_cons_of_ne_nil
      (List.append_ne_nil_of_right_ne_nil members (List.cons_ne_nil (key, t) []))
    obtain ⟨v, rest, hrest⟩ := hcons
    have hbefore : membersBefore ((k, u) :: members) =
        .string k :: .colon :: (treeTokens u ++ .comma :: membersBefore members) := by
      rw [membersBefore, List.flatMap_cons, List.cons_append, List.cons_append, List.append_assoc]
      rfl
    rw [List.cons_append, hrest, memberTokens, ← hrest, ih, hbefore, List.cons_append,
      List.cons_append, List.append_assoc, List.cons_append]

section Taken

variable {frames : List Frame} {tokens : List Token}

lemma framesTokens_cons (frame : Frame) (frames : List Frame) :
    framesTokens (frame :: frames) = framesTokens frames ++ frameTokens frame := by
  rw [framesTokens, List.reverse_cons, List.flatMap_append, List.flatMap_singleton]
  rfl

lemma hasTaken_beginValue {t : Token} {r : Reading} (hr : beginValue frames t = some r) :
    HasTaken r (framesTokens frames ++ [t]) := by
  cases t with
  | null | bool | number | string =>
    cases hr
    exact ⟨rfl, fun hfirst => by cases hfirst⟩
  | openArray =>
    cases hr
    refine ⟨?_, fun _ => rfl⟩
    rw [framesTokens_cons]
    exact (List.append_nil _).symm
  | openObject =>
    cases hr
    exact ⟨rfl, fun hfirst => by cases hfirst⟩
  | _ => cases hr

lemma itemsBefore_reverse_cons (done : List Tree) (t : Tree) :
    itemsBefore (t :: done).reverse = itemsBefore done.reverse ++ (treeTokens t ++ [.comma]) := by
  rw [itemsBefore, List.reverse_cons, List.flatMap_append, List.flatMap_singleton]
  rfl

lemma membersBefore_reverse_cons (done : List (Option String × Tree)) (key : Option String)
    (t : Tree) : membersBefore ((key, t) :: done).reverse =
      membersBefore done.reverse ++ .string key :: .colon :: (treeTokens t ++ [.comma]) := by
  rw [membersBefore, List.reverse_cons, List.flatMap_append, List.flatMap_singleton]
  rfl

/-- What a token adds after a complete value: it goes on in the innermost container or closes it. -/
lemma hasTaken_after {t : Tree} {token : Token} {r : Reading}
    (hr : step ⟨frames, .after t⟩ token = some r) :
    HasTaken r (framesTokens frames ++ treeTokens t ++ [token]) := by
  cases token with
  | comma =>
    match frames with
    | [] => cases hr
    | .array done :: frames =>
      cases hr
      refine ⟨?_, fun hfirst => by cases hfirst⟩
      simp only [framesTokens_cons, frameTokens, positionTokens, itemsBefore_reverse_cons,
        List.append_assoc, List.cons_append, List.append_nil]
    | .object done key :: frames =>
      cases hr
      refine ⟨?_, fun hfirst => by cases hfirst⟩
      simp only [framesTokens_cons, frameTokens, positionTokens, membersBefore_reverse_cons,
        List.append_assoc, List.cons_append, List.nil_append]
  | closeArray =>
    match frames with
    | [] => cases hr
    | .object _ _ :: _ => cases hr
    | .array done :: frames =>
      cases hr
      refine ⟨?_, fun hfirst => by cases hfirst⟩
      simp only [framesTokens_cons, frameTokens, positionTokens, treeTokens, List.reverse_cons,
        itemTokens_concat, List.append_assoc, List.cons_append]
  | closeObject =>
    match frames with
    | [] => cases hr
    | .array _ :: _ => cases hr
    | .object done key :: frames =>
      cases hr
      refine ⟨?_, fun hfirst => by cases hfirst⟩
      simp only [framesTokens_cons, frameTokens, positionTokens, treeTokens, List.reverse_cons,
        memberTokens_concat, List.append_assoc, List.cons_append, List.nil_append]
  | _ => cases hr

/-- One more token is taken. -/
lemma hasTaken_step {r r' : Reading} {token : Token} (h : HasTaken r tokens)
    (hr : step r token = some r') : HasTaken r' (tokens ++ [token]) := by
  obtain ⟨frames, position⟩ := r
  obtain ⟨rfl, hfirst⟩ := h
  cases position with
  | value =>
    have hbegin : HasTaken r' (framesTokens frames ++ [token]) := hasTaken_beginValue hr
    rwa [positionTokens, List.append_nil]
  | firstItem =>
    rw [positionTokens, List.append_nil]
    have hhead := hfirst rfl
    cases token with
    | closeArray =>
      match frames with
      | .array done :: frames =>
        cases hhead
        cases hr
        refine ⟨?_, fun hfirst => by cases hfirst⟩
        simp only [framesTokens_cons, frameTokens, positionTokens, treeTokens, itemTokens,
          List.reverse_nil, itemsBefore, List.flatMap_nil, List.append_assoc, List.cons_append,
          List.nil_append]
      | .object _ _ :: _ => cases hhead
      | [] => cases hhead
    | _ => exact hasTaken_beginValue hr
  | key done =>
    cases token with
    | string key =>
      cases hr
      refine ⟨?_, fun hfirst => by cases hfirst⟩
      simp only [positionTokens, List.append_assoc, List.cons_append]
    | closeObject =>
      cases done with
      | nil =>
        cases hr
        refine ⟨?_, fun hfirst => by cases hfirst⟩
        simp only [positionTokens, treeTokens, memberTokens, List.reverse_nil, membersBefore,
          List.flatMap_nil, List.append_assoc, List.cons_append, List.nil_append]
      | cons => cases hr
    | _ => cases done <;> cases hr
  | colon done key =>
    cases token with
    | colon =>
      cases hr
      refine ⟨?_, fun hfirst => by cases hfirst⟩
      simp only [framesTokens_cons, frameTokens, positionTokens, List.append_assoc,
        List.cons_append, List.nil_append]
    | _ => cases hr
  | after t => exact hasTaken_after hr

end Taken

/-- A list of tokens is read as a tree exactly if it is the list of tokens of that tree. -/
theorem ofTokens?_eq_some_iff (tokens : List Token) (t : Tree) :
    ofTokens? tokens = some t ↔ tokens = treeTokens t := by
  unfold ofTokens?
  constructor
  · intro h
    obtain ⟨r, hr, ht⟩ := Option.bind_eq_some_iff.mp h
    have hstart : HasTaken ⟨[], .value⟩ [] := ⟨rfl, fun hfirst => by cases hfirst⟩
    have htaken := (foldlM_preserves (P := HasTaken) hasTaken_step hstart hr).taken
    split at ht
    · cases ht
      exact htaken
    · cases ht
  · rintro rfl
    simp only [Option.bind_eq_bind, Option.bind_some, foldlM_treeTokens]

end Reading

/-! ### Writings of a document -/

/-- The bytes are a writing of the document. -/
def Written (t : Tree) (bytes : Bytes) : Prop :=
  Lexed (treeTokens t) bytes

section Separated

lemma isSeparated_cons {mark : Token} {ts : List Token} (hmark : isOpenEnded mark = false)
    (hts : IsSeparated ts) : IsSeparated (mark :: ts) :=
  List.isChain_cons.mpr ⟨fun _ _ hopen => absurd (hmark.symm.trans hopen) Bool.false_ne_true, hts⟩

lemma isSeparated_append {ts us : List Token} {mark : Token} (hts : IsSeparated ts)
    (hmark : isOpenEnded mark = false) (hus : IsSeparated us) :
    IsSeparated (ts ++ mark :: us) := by
  refine List.isChain_append.mpr ⟨hts, isSeparated_cons hmark hus, fun _ _ u hu _ => ?_⟩
  cases hu
  exact hmark

mutual

lemma isSeparated_treeTokens : ∀ t, IsSeparated (treeTokens t)
  | .null | .bool _ | .number _ | .string _ => List.isChain_singleton _
  | .array items =>
    isSeparated_cons rfl (isSeparated_append (isSeparated_itemTokens items) rfl List.isChain_nil)
  | .object members =>
    isSeparated_cons rfl
      (isSeparated_append (isSeparated_memberTokens members) rfl List.isChain_nil)

lemma isSeparated_itemTokens : ∀ items, IsSeparated (itemTokens items)
  | [] => List.isChain_nil
  | [t] => isSeparated_treeTokens t
  | t :: u :: rest =>
    isSeparated_append (isSeparated_treeTokens t) rfl (isSeparated_itemTokens (u :: rest))

lemma isSeparated_memberTokens : ∀ members, IsSeparated (memberTokens members)
  | [] => List.isChain_nil
  | [(_, t)] => isSeparated_cons rfl (isSeparated_cons rfl (isSeparated_treeTokens t))
  | (_, t) :: m :: rest =>
    isSeparated_cons rfl (isSeparated_cons rfl
      (isSeparated_append (isSeparated_treeTokens t) rfl (isSeparated_memberTokens (m :: rest))))

end

end Separated

/-- A document is read exactly from its writings. -/
theorem read?_iff_written (bytes : Bytes) (t : Tree) :
    Tree.read? bytes = some t ↔ Written t bytes := by
  unfold Tree.read?
  constructor
  · intro h
    obtain ⟨ts, hts, ht⟩ := Option.bind_eq_some_iff.mp h
    rw [ofTokens?_eq_some_iff] at ht
    subst ht
    exact lexed_of_scan? hts
  · intro h
    rw [scan?_of_lexed h (isSeparated_treeTokens t)]
    exact (ofTokens?_eq_some_iff _ t).mpr rfl

lemma lexed_of_spells {ts : List Token} {bytes : Bytes} (h : Spells ts bytes) :
    Lexed ts bytes := by
  induction h with
  | nil => exact .nil
  | blank hb _ ih => exact .blank hb ih
  | token ht _ _ ih => exact .token (.spelled ht) ih

/-- However a tree is written with texts as its strings, it is read again. -/
theorem read?_of_spells {t : Tree} {bytes : Bytes} (h : Spells (treeTokens t) bytes) :
    Tree.read? bytes = some t :=
  (read?_iff_written bytes t).mpr (lexed_of_spells h)

end SlackBridge.Proofs
