import SlackBridge.Proofs.TomlLines

/-!
# One place of a document

Two documents that differ in the text at one place stay so, whatever statements are carried out on
both: no statement looks at a text, and none can change one that is there. So they accept the same
statements, and everything outside the place is the same in both.
-/

namespace SlackBridge.Proofs

open Toml

/-- The tables hold the texts `s` and `s'` at the place that the keys lead to, and are the same
everywhere else. -/
inductive DifferAt (s s' : String) : List String → Members → Members → Prop
  | here {key : String} {rest : Members} :
      DifferAt s s' [key] ((key, .string s) :: rest) ((key, .string s') :: rest)
  | inside {key : String} {place : List String} {origin : Toml.Origin} {sub sub' rest : Members}
      (hsub : DifferAt s s' place sub sub') :
      DifferAt s s' (key :: place) ((key, .table origin sub) :: rest)
        ((key, .table origin sub') :: rest)
  | later {key : String} {place : List String} {entry : String × Value} {rest rest' : Members}
      (hne : entry.1 ≠ key) (hrest : DifferAt s s' (key :: place) rest rest') :
      DifferAt s s' (key :: place) (entry :: rest) (entry :: rest')

section Tables

variable {s s' key : String} {place : List String} {ms ms' : Members}

lemma lookup_cons_ne {k other : String} {v : Value} (hne : k ≠ other) :
    List.lookup other ((k, v) :: ms) = ms.lookup other := by
  rw [List.lookup_cons, beq_eq_false_iff_ne.mpr hne.symm]

lemma lookup_set_self (key : String) (v : Value) (ms : Members) :
    (Members.set key v ms).lookup key = some v := by
  induction ms with
  | nil => exact List.lookup_cons_self
  | cons entry ms ih =>
    obtain ⟨k, w⟩ := entry
    rw [Members.set]
    split_ifs with hk
    · rw [hk]
      exact List.lookup_cons_self
    · rw [lookup_cons_ne hk, ih]

/-! ### What is found in tables that differ -/

lemma DifferAt.lookup_ne (h : DifferAt s s' (key :: place) ms ms') {other : String}
    (hne : key ≠ other) : ms'.lookup other = ms.lookup other := by
  generalize hpath : key :: place = path at h
  induction h with
  | here =>
    cases hpath
    rw [lookup_cons_ne hne, lookup_cons_ne hne]
  | inside =>
    cases hpath
    rw [lookup_cons_ne hne, lookup_cons_ne hne]
  | later _ _ ih => rw [List.lookup_cons, List.lookup_cons, ih hpath]

lemma DifferAt.lookup_text (h : DifferAt s s' [key] ms ms') :
    ms.lookup key = some (.string s) ∧ ms'.lookup key = some (.string s') := by
  generalize hpath : [key] = path at h
  induction h with
  | here =>
    cases hpath
    exact ⟨List.lookup_cons_self, List.lookup_cons_self⟩
  | inside hsub =>
    cases hpath
    cases hsub
  | later hne _ ih =>
    cases hpath
    rw [lookup_cons_ne hne, lookup_cons_ne hne]
    exact ih rfl

lemma DifferAt.lookup_table {next : String} (h : DifferAt s s' (key :: next :: place) ms ms') :
    ∃ origin sub sub', ms.lookup key = some (.table origin sub) ∧
      ms'.lookup key = some (.table origin sub') ∧ DifferAt s s' (next :: place) sub sub' := by
  generalize hpath : key :: next :: place = path at h
  induction h with
  | here => cases hpath
  | inside hsub =>
    cases hpath
    exact ⟨_, _, _, List.lookup_cons_self, List.lookup_cons_self, hsub⟩
  | later hne _ ih =>
    cases hpath
    rw [lookup_cons_ne hne, lookup_cons_ne hne]
    exact ih rfl

/-! ### Changes of tables that differ -/

lemma DifferAt.append (h : DifferAt s s' place ms ms') (more : Members) :
    DifferAt s s' place (ms ++ more) (ms' ++ more) := by
  induction h with
  | here => exact .here
  | inside hsub => exact .inside hsub
  | later hne _ ih => exact .later hne ih

lemma DifferAt.set_ne (h : DifferAt s s' (key :: place) ms ms') {other : String} (hne : key ≠ other)
    (v : Value) : DifferAt s s' (key :: place) (Members.set other v ms)
      (Members.set other v ms') := by
  generalize hpath : key :: place = path at h
  induction h with
  | here =>
    cases hpath
    rw [Members.set, Members.set, if_neg hne, if_neg hne]
    exact .here
  | inside hsub =>
    cases hpath
    rw [Members.set, Members.set, if_neg hne, if_neg hne]
    exact .inside hsub
  | @later k place entry rest rest' hk hrest ih =>
    obtain ⟨name, w⟩ := entry
    cases hpath
    rw [Members.set, Members.set]
    split_ifs
    · exact .later hk hrest
    · exact .later hk (ih rfl)

lemma DifferAt.set_self {origin : Toml.Origin} {sub sub' : Members}
    (hsub : DifferAt s s' place sub sub') {path : List String}
    (h : DifferAt s s' (key :: path) ms ms') :
    DifferAt s s' (key :: place) (Members.set key (.table origin sub) ms)
      (Members.set key (.table origin sub') ms') := by
  generalize hpath : key :: path = whole at h
  induction h with
  | here =>
    cases hpath
    rw [Members.set, Members.set, if_pos rfl, if_pos rfl]
    exact .inside hsub
  | inside =>
    cases hpath
    rw [Members.set, Members.set, if_pos rfl, if_pos rfl]
    exact .inside hsub
  | @later k place entry rest rest' hk hrest ih =>
    obtain ⟨name, w⟩ := entry
    cases hpath
    rw [Members.set, Members.set, if_neg hk, if_neg hk]
    exact .later hk (ih rfl)

/-- A key leads to the same thing in both tables, or to the two texts, or on to the place where the
texts are. -/
lemma DifferAt.lookup_cases (h : DifferAt s s' place ms ms') (part : String) :
    (ms'.lookup part = ms.lookup part ∧
      ∀ v, DifferAt s s' place (Members.set part v ms) (Members.set part v ms')) ∨
    (ms.lookup part = some (.string s) ∧ ms'.lookup part = some (.string s')) ∨
    ∃ origin sub sub' next, ms.lookup part = some (.table origin sub) ∧
      ms'.lookup part = some (.table origin sub') ∧ DifferAt s s' next sub sub' ∧
      ∀ {o : Toml.Origin} {t t' : Members}, DifferAt s s' next t t' →
        DifferAt s s' place (Members.set part (.table o t) ms)
          (Members.set part (.table o t') ms') := by
  obtain _ | ⟨key, place⟩ := place
  · cases h
  by_cases hkey : key = part
  · subst hkey
    right
    obtain _ | ⟨next, place⟩ := place
    · exact .inl h.lookup_text
    · obtain ⟨origin, sub, sub', hms, hms', hsub⟩ := h.lookup_table
      exact .inr ⟨origin, sub, sub', _, hms, hms', hsub, fun ht => ht.set_self h⟩
  · exact .inl ⟨h.lookup_ne hkey, fun v => h.set_ne hkey v⟩

end Tables

/-! ### Statements -/

section Changes

variable {s s' : String} {place : List String} {ms ms' : Members}

lemma rel_map {α β : Type} {R : α → α → Prop} {T : β → β → Prop} {f g : α → β} {x y : Option α}
    (h : Option.Rel R x y) (hfg : ∀ {a b}, R a b → T (f a) (g b)) :
    Option.Rel T (x.map f) (y.map g) := by
  cases h with
  | none => exact .none
  | some hab => exact .some (hfg hab)

lemma rel_map_same {α β : Type} {T : β → β → Prop} {f g : α → β} (x : Option α)
    (hfg : ∀ a, T (f a) (g a)) : Option.Rel T (x.map f) (x.map g) := by
  cases x with
  | none => exact .none
  | some a => exact .some (hfg a)

/-- The change can be made to both of two tables that differ at one place, or to neither, and they
differ there as before. -/
def KeepsDifference (s s' : String) (change : Members → Option Members) : Prop :=
  ∀ {place ms ms'}, DifferAt s s' place ms ms' →
    Option.Rel (DifferAt s s' place) (change ms) (change ms')

lemma DifferAt.isSome_lookup (h : DifferAt s s' place ms ms') (part : String) :
    (ms'.lookup part).isSome = (ms.lookup part).isSome := by
  rcases h.lookup_cases part with ⟨hsame, -⟩ | ⟨hms, hms'⟩ | ⟨_, _, _, _, hms, hms', -⟩
  · rw [hsame]
  · rw [hms, hms']
    rfl
  · rw [hms, hms']
    rfl

lemma keepsDifference_putDotted (key : String) (v : Value) (path : List String) :
    KeepsDifference s s' (Members.putDotted key v path) := by
  induction path with
  | nil =>
    intro place ms ms' h
    rw [Members.putDotted, Members.putDotted, h.isSome_lookup]
    split_ifs
    · exact .none
    · exact .some (h.append _)
  | cons part path ih =>
    intro place ms ms' h
    rw [Members.putDotted, Members.putDotted]
    rcases h.lookup_cases part with ⟨hsame, hset⟩ | ⟨hms, hms'⟩ |
      ⟨origin, sub, sub', next, hms, hms', hsub, hset⟩
    · rw [hsame]
      split
      · exact rel_map_same _ fun sub => h.append _
      · split_ifs
        · exact rel_map_same _ fun sub => hset _
        · exact .none
      · split_ifs
        · exact .none
        · exact rel_map_same _ fun sub => hset _
      · exact .none
    · rw [hms, hms']
      exact .none
    · rw [hms, hms']
      dsimp only
      split_ifs
      · exact rel_map (ih hsub) hset
      · exact .none

lemma keepsDifference_within {change : Members → Option Members}
    (hchange : KeepsDifference s s' change) (path : List String) :
    KeepsDifference s s' (Members.within change path) := by
  induction path with
  | nil => exact fun h => hchange h
  | cons part path ih =>
    intro place ms ms' h
    rw [Members.within, Members.within]
    rcases h.lookup_cases part with ⟨hsame, hset⟩ | ⟨hms, hms'⟩ |
      ⟨origin, sub, sub', next, hms, hms', hsub, hset⟩
    · rw [hsame]
      split
      · exact rel_map_same _ fun sub => h.append _
      · exact .none
      · exact rel_map_same _ fun sub => hset _
      · exact rel_map_same _ fun sub => hset _
      · exact .none
    · rw [hms, hms']
      exact .none
    · rw [hms, hms']
      cases origin with
      | inline => exact .none
      | header | implied | dotted => exact rel_map (ih hsub) hset

lemma keepsDifference_openTable (key : String) : KeepsDifference s s' (Members.openTable key) := by
  intro place ms ms' h
  unfold Members.openTable
  rcases h.lookup_cases key with ⟨hsame, hset⟩ | ⟨hms, hms'⟩ |
    ⟨origin, sub, sub', next, hms, hms', hsub, hset⟩
  · rw [hsame]
    split
    · exact .some (h.append _)
    · exact .some (hset _)
    · exact .none
  · rw [hms, hms']
    exact .none
  · rw [hms, hms']
    cases origin with
    | implied => exact .some (hset hsub)
    | inline | header | dotted => exact .none

lemma keepsDifference_openItem (key : String) : KeepsDifference s s' (Members.openItem key) := by
  intro place ms ms' h
  unfold Members.openItem
  rcases h.lookup_cases key with ⟨hsame, hset⟩ | ⟨hms, hms'⟩ |
    ⟨origin, sub, sub', next, hms, hms', hsub, hset⟩
  · rw [hsame]
    split
    · exact .some (h.append _)
    · exact .some (hset _)
    · exact .none
  · rw [hms, hms']
    exact .none
  · rw [hms, hms']
    exact .none

lemma keepsDifference_assign (path : List String) (v : Value) :
    KeepsDifference s s' (assign path v) := by
  unfold assign
  cases path.getLast? with
  | none => exact fun h => .none
  | some key => exact fun h => keepsDifference_putDotted key v path.dropLast h

/-- Two documents that are being read have the same table open and differ at one place. -/
structure BuildingsDiffer (s s' : String) (place : List String) (b b' : Building) : Prop where
  path : b'.path = b.path
  root : DifferAt s s' place b.root b'.root

/-- The document once the header of a table has been carried out. -/
def headed? (b : Building) (change : String → Members → Option Members)
    (path : List String) : Option Building :=
  path.getLast?.bind fun key =>
    (Members.within (change key) path.dropLast b.root).map fun root => ⟨root, path⟩

lemma add_openTable (b : Building) (path : List String) :
    b.add (.openTable path) = headed? b Members.openTable path := by
  unfold headed? Building.add
  simp only [Option.map_eq_bind]
  rfl

lemma add_openItem (b : Building) (path : List String) :
    b.add (.openItem path) = headed? b Members.openItem path := by
  unfold headed? Building.add
  simp only [Option.map_eq_bind]
  rfl

lemma BuildingsDiffer.under_header {b b' : Building} (h : BuildingsDiffer s s' place b b')
    {change : String → Members → Option Members}
    (hchange : ∀ key, KeepsDifference s s' (change key)) (path : List String) :
    Option.Rel (BuildingsDiffer s s' place) (headed? b change path) (headed? b' change path) := by
  unfold headed?
  cases path.getLast? with
  | none => exact .none
  | some key =>
    exact rel_map (keepsDifference_within (hchange key) path.dropLast h.root)
      fun hroot => ⟨rfl, hroot⟩

lemma BuildingsDiffer.add {b b' : Building} (h : BuildingsDiffer s s' place b b')
    (statement : Statement) :
    Option.Rel (BuildingsDiffer s s' place) (b.add statement) (b'.add statement) := by
  cases statement with
  | assign path v =>
    rw [Building.add, Building.add, h.path]
    exact rel_map (keepsDifference_within (keepsDifference_assign path v) b.path h.root)
      fun hroot => ⟨rfl, hroot⟩
  | openTable path =>
    rw [add_openTable, add_openTable]
    exact h.under_header keepsDifference_openTable path
  | openItem path =>
    rw [add_openItem, add_openItem]
    exact h.under_header keepsDifference_openItem path

/-- Statements make of both documents documents that differ as before, or they fail on both. -/
lemma BuildingsDiffer.run {b b' : Building} (h : BuildingsDiffer s s' place b b')
    (ss : List Statement) : Option.Rel (BuildingsDiffer s s' place)
      (ss.foldlM Building.add b) (ss.foldlM Building.add b') := by
  induction ss generalizing b b' with
  | nil => exact .some h
  | cons statement ss ih =>
    rw [List.foldlM_cons, List.foldlM_cons]
    have hstep := h.add statement
    generalize b.add statement = x, b'.add statement = x' at hstep
    cases hstep with
    | none => exact .none
    | some hb => exact ih hb

end Changes

/-! ### The open section -/

section Sections

variable {name key : String} {b : Building}

/-- The last header among the statements is that of the table with the given name. -/
def InSection (name : String) (ss : List Statement) : Prop :=
  ∃ front inside, ss = front ++ .openTable [name] :: inside ∧
    ∀ statement ∈ inside, ∃ path v, statement = .assign path v

/-- The table with the given name is open, under a header of its own. -/
structure IsOpen (name : String) (b : Building) : Prop where
  path : b.path = [name]
  table : ∃ sub, b.root.lookup name = some (.table .header sub)

lemma isOpen_of_openTable {b' : Building} (h : b.add (.openTable [name]) = some b') :
    IsOpen name b' := by
  rw [add_openTable] at h
  obtain ⟨_, hkey, h⟩ := Option.bind_eq_some_iff.mp h
  cases hkey
  obtain ⟨root, hroot, rfl⟩ := Option.map_eq_some_iff.mp h
  refine ⟨rfl, ?_⟩
  have hopen : Members.openTable name b.root = some root := hroot
  unfold Members.openTable at hopen
  split at hopen
  · next hnone =>
    cases hopen
    refine ⟨[], ?_⟩
    rw [List.lookup_append, hnone, Option.none_or, List.lookup_cons_self]
  · cases hopen
    exact ⟨_, lookup_set_self name _ b.root⟩
  · cases hopen

/-- What an assignment makes of the document while a table is open. -/
lemma IsOpen.add_assign {sub : Members} (hpath : b.path = [name])
    (htable : b.root.lookup name = some (.table .header sub)) (path : List String) (v : Value) :
    b.add (.assign path v) = (assign path v sub).map
      fun sub => ⟨Members.set name (.table .header sub) b.root, b.path⟩ := by
  rw [Building.add, hpath, Members.within, htable]
  simp only [Members.within, Option.map_map]
  rfl

lemma IsOpen.of_assign (h : IsOpen name b) {b' : Building} {path : List String} {v : Value}
    (hadd : b.add (.assign path v) = some b') : IsOpen name b' := by
  obtain ⟨sub, htable⟩ := h.table
  rw [IsOpen.add_assign h.path htable] at hadd
  obtain ⟨sub', -, rfl⟩ := Option.map_eq_some_iff.mp hadd
  exact ⟨h.path, sub', lookup_set_self name _ b.root⟩

lemma IsOpen.run {b' : Building} {ss : List Statement} (h : IsOpen name b)
    (hss : ∀ statement ∈ ss, ∃ path v, statement = .assign path v)
    (hrun : ss.foldlM Building.add b = some b') : IsOpen name b' := by
  induction ss generalizing b with
  | nil =>
    cases hrun
    exact h
  | cons statement ss ih =>
    obtain ⟨path, v, rfl⟩ := hss statement List.mem_cons_self
    rw [List.foldlM_cons] at hrun
    obtain ⟨next, hadd, hrest⟩ := Option.bind_eq_some_iff.mp hrun
    exact ih (h.of_assign hadd) (fun st hst => hss st (List.mem_cons_of_mem _ hst)) hrest

lemma isOpen_of_inSection {ss : List Statement} (hss : InSection name ss)
    (hb : built? ss = some b) : IsOpen name b := by
  obtain ⟨front, inside, rfl, hinside⟩ := hss
  rw [built?, List.foldlM_append] at hb
  obtain ⟨b₀, -, hrun⟩ := Option.bind_eq_some_iff.mp hb
  rw [List.foldlM_cons] at hrun
  obtain ⟨b₁, hopen, hrest⟩ := Option.bind_eq_some_iff.mp hrun
  exact (isOpen_of_openTable hopen).run hinside hrest

lemma differAt_append_text {ms : Members} (h : ms.lookup key = none) (s s' : String) :
    DifferAt s s' [key] (ms ++ [(key, .string s)]) (ms ++ [(key, .string s')]) := by
  induction ms with
  | nil => exact .here
  | cons entry ms ih =>
    obtain ⟨k, v⟩ := entry
    by_cases hk : k = key
    · rw [hk, List.lookup_cons_self] at h
      cases h
    · rw [lookup_cons_ne hk] at h
      exact .later hk (ih h)

lemma differAt_set {s s' : String} {place : List String} {ms sub sub' : Members} {v : Value}
    (h : ms.lookup name = some v) (hsub : DifferAt s s' place sub sub') (origin : Toml.Origin) :
    DifferAt s s' (name :: place) (Members.set name (.table origin sub) ms)
      (Members.set name (.table origin sub') ms) := by
  induction ms with
  | nil => cases h
  | cons entry ms ih =>
    obtain ⟨k, w⟩ := entry
    rw [Members.set, Members.set]
    by_cases hk : k = name
    · rw [if_pos hk, if_pos hk, hk]
      exact .inside hsub
    · rw [if_neg hk, if_neg hk]
      rw [lookup_cons_ne hk] at h
      exact .later hk (ih h)

/-- Two texts that are assigned to a key of the open table make documents that differ there. -/
lemma IsOpen.assign_text (h : IsOpen name b) (key s s' : String) :
    Option.Rel (BuildingsDiffer s s' [name, key]) (b.add (.assign [key] (.string s)))
      (b.add (.assign [key] (.string s'))) := by
  obtain ⟨sub, htable⟩ := h.table
  rw [IsOpen.add_assign h.path htable, IsOpen.add_assign h.path htable]
  have hassign : ∀ v, assign [key] v sub =
      if (sub.lookup key).isSome then none else some (sub ++ [(key, v)]) := fun v => rfl
  rw [hassign, hassign]
  split_ifs with htaken
  · exact .none
  · have hfree : sub.lookup key = none := Option.not_isSome_iff_eq_none.mp htaken
    exact .some ⟨rfl, differAt_set htable (differAt_append_text hfree s s') .header⟩

/-- Documents that assign two texts to one key, while a table is open, differ at that key of the
table only. -/
lemma built?_assign_text {front : List Statement} (hfront : InSection name front)
    (key s s' : String) (back : List Statement) :
    Option.Rel (BuildingsDiffer s s' [name, key])
      (built? (front ++ .assign [key] (.string s) :: back))
      (built? (front ++ .assign [key] (.string s') :: back)) := by
  unfold built?
  rw [List.foldlM_append, List.foldlM_append]
  cases hb : front.foldlM Building.add ⟨[], []⟩ with
  | none => exact .none
  | some b =>
    have hassign := (isOpen_of_inSection hfront hb).assign_text key s s'
    simp only [List.foldlM_cons, Option.bind_eq_bind, Option.bind_some]
    generalize b.add (.assign [key] (.string s)) = x, b.add (.assign [key] (.string s')) = x'
      at hassign
    cases hassign with
    | none => exact .none
    | some hdiffer => exact hdiffer.run back

end Sections

end SlackBridge.Proofs
