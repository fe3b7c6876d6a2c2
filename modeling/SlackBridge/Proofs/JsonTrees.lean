import SlackBridge.Json.Printer
import SlackBridge.Proofs.JsonDocuments

/-!
# Printed values

What is printed of a value, on one line or over several, is a writing of the tokens of its tree. So
a printed value is read again as the tree that says what it holds.
-/

namespace SlackBridge.Proofs

open Json

/-! ### The tokens of a value -/

mutual

/-- The tree that says what a value holds. -/
def valueTree : Value → Tree
  | .null => .null
  | .bool b => .bool b
  | .number n => .number (some n)
  | .string s => .string (some s)
  | .array items => .array (valueTrees items)
  | .object members => .object (valueMembers members)

def valueTrees : List Value → List Tree
  | [] => []
  | v :: rest => valueTree v :: valueTrees rest

def valueMembers : List (String × Value) → List (Option String × Tree)
  | [] => []
  | (k, v) :: rest => (some k, valueTree v) :: valueMembers rest

end

lemma valueTrees_eq_map (items : List Value) : valueTrees items = items.map valueTree := by
  induction items with
  | nil => rfl
  | cons v rest ih => rw [valueTrees, ih, List.map_cons]

lemma valueMembers_eq_map (members : Members) :
    valueMembers members = members.map fun m => (some m.1, valueTree m.2) := by
  induction members with
  | nil => rfl
  | cons m rest ih => rw [valueMembers, ih, List.map_cons]

mutual

/-- The numbers that a value holds. -/
def numbers : Value → List Number
  | .number n => [n]
  | .array items => itemNumbers items
  | .object members => memberNumbers members
  | _ => []

def itemNumbers : List Value → List Number
  | [] => []
  | v :: rest => numbers v ++ itemNumbers rest

def memberNumbers : List (String × Value) → List Number
  | [] => []
  | (_, v) :: rest => numbers v ++ memberNumbers rest

end

/-- What is printed for a number is read as that number. -/
def IsLegible (n : Number) : Prop :=
  SpellsToken (.number (some n)) (charBytes n.chars)

lemma spellsChar_escapeChar (c : Char) : SpellsChar c (charBytes (escapeChar c)) := by
  unfold escapeChar
  split
  case h_8 hquote hescape _ _ _ _ _ =>
    split_ifs with hcontrol
    · have hdigit : ∀ n < 16, (Text.hexDigit n).toNat < 0x80 := by decide
      obtain ⟨x, hx, hxself⟩ := exists_byte_of_ascii (hdigit (c.toNat / 16) (by omega))
      obtain ⟨y, hy, hyself⟩ := exists_byte_of_ascii (hdigit (c.toNat % 16) (by omega))
      have hbytes : charBytes
          ['\\', 'u', '0', '0', Text.hexDigit (c.toNat / 16), Text.hexDigit (c.toNat % 16)] =
            [0x5c, 0x75, 0x30, 0x30, x, y] := by
        simp only [charBytes, List.flatMap_cons, List.flatMap_nil, hx, hy]
        rfl
      rw [hbytes]
      have hhigh : Text.hexValue? (Char.ofNat x.toNat) = some (c.toNat / 16) := by
        rw [hxself]
        exact Text.hexValue?_hexDigit ⟨c.toNat / 16, by omega⟩
      have hlow : Text.hexValue? (Char.ofNat y.toNat) = some (c.toNat % 16) := by
        rw [hyself]
        exact Text.hexValue?_hexDigit ⟨c.toNat % 16, by omega⟩
      have hzero : Text.hexValue? (Char.ofNat (0x30 : UInt8).toNat) = some 0 := rfl
      have hsum : ((0 * 16 + 0) * 16 + c.toNat / 16) * 16 + c.toNat % 16 = c.toNat := by omega
      refine .unit ?_
      simp only [StringPart.hex4?, hzero, hhigh, hlow, Option.bind_eq_bind, Option.bind_some, hsum,
        Option.pure_def]
    · have hself : charBytes [c] = String.utf8EncodeChar c := List.flatMap_singleton ..
      rw [hself]
      exact .plain (Nat.le_of_not_lt hcontrol) ⟨hquote, hescape⟩
  all_goals exact .letter (by decide)

lemma spellsText_escape (cs : List Char) : SpellsText cs (charBytes (cs.flatMap escapeChar)) := by
  induction cs with
  | nil => exact .nil
  | cons c cs ih =>
    rw [List.flatMap_cons, charBytes_append]
    exact .cons (spellsChar_escapeChar c) ih

lemma spellsToken_quoted (s : String) :
    SpellsToken (.string (some s)) (charBytes (quoted s)) := by
  have hbytes : charBytes (quoted s) =
      0x22 :: (charBytes (s.toList.flatMap escapeChar) ++ [0x22]) := by
    rw [quoted, charBytes_cons, charBytes_append]
    rfl
  rw [hbytes]
  exact .string (spellsText_escape s.toList)

section Printing

variable {ts : List Token} {bytes : Bytes}

lemma endsToken_cons {b : UInt8} (hword : Token.isWordByte b = false)
    (hnumeral : Token.isNumeralByte b = false) : EndsToken (b :: bytes) := by
  intro c hc
  cases hc
  exact ⟨hword, hnumeral⟩

lemma Spells.mark {t : Token} {b : UInt8} (ht : SpellsToken t [b]) (hclosed : isOpenEnded t = false)
    (h : Spells ts bytes) : Spells (t :: ts) (b :: bytes) :=
  .token ht (fun hopen => absurd (hclosed.symm.trans hopen) Bool.false_ne_true) h

lemma Spells.quoted (s : String) (h : Spells ts bytes) :
    Spells (.string (some s) :: ts) (charBytes (quoted s) ++ bytes) :=
  .token (spellsToken_quoted s) (fun hopen => nomatch hopen) h

end Printing

mutual

/-- What is printed of a value spells its tokens. -/
theorem spells_chars : ∀ v, (∀ n ∈ numbers v, IsLegible n) → ∀ {ts bytes}, EndsToken bytes →
    Spells ts bytes → Spells (treeTokens (valueTree v) ++ ts) (charBytes v.chars ++ bytes)
  | .null, _, _, _, hend, h => .token .null (fun _ => hend) h
  | .bool true, _, _, _, hend, h => .token .true (fun _ => hend) h
  | .bool false, _, _, _, hend, h => .token .false (fun _ => hend) h
  | .number n, hn, _, _, hend, h => .token (hn n (List.mem_singleton_self n)) (fun _ => hend) h
  | .string s, _, _, _, _, h => .quoted s h
  | .array items, hn, ts, bytes, _, h => by
    have hitems := spells_itemChars items hn (endsToken_cons rfl rfl) (h.mark .closeArray rfl)
    have hbytes : charBytes (Value.chars (.array items)) =
        0x5b :: (charBytes (Value.itemChars items) ++ [0x5d]) := by
      rw [Value.chars, charBytes_cons, charBytes_append]
      rfl
    rw [hbytes, valueTree, treeTokens, List.cons_append, List.cons_append, List.append_assoc,
      List.append_assoc]
    exact hitems.mark .openArray rfl
  | .object members, hn, ts, bytes, _, h => by
    have hmembers :=
      spells_memberChars members hn (endsToken_cons rfl rfl) (h.mark .closeObject rfl)
    have hbytes : charBytes (Value.chars (.object members)) =
        0x7b :: (charBytes (Value.memberChars members) ++ [0x7d]) := by
      rw [Value.chars, charBytes_cons, charBytes_append]
      rfl
    rw [hbytes, valueTree, treeTokens, List.cons_append, List.cons_append, List.append_assoc,
      List.append_assoc]
    exact hmembers.mark .openObject rfl

theorem spells_itemChars : ∀ items, (∀ n ∈ itemNumbers items, IsLegible n) → ∀ {ts bytes},
    EndsToken bytes → Spells ts bytes →
      Spells (itemTokens (valueTrees items) ++ ts) (charBytes (Value.itemChars items) ++ bytes)
  | [], _, _, _, _, h => h
  | [v], hn, _, _, hend, h =>
    spells_chars v (fun n hv => hn n (List.mem_append_left _ hv)) hend h
  | v :: w :: rest, hn, ts, bytes, hend, h => by
    have hrest := spells_itemChars (w :: rest) (fun n hr => hn n (List.mem_append_right _ hr))
      hend h
    have hbytes : charBytes (Value.itemChars (v :: w :: rest)) =
        charBytes v.chars ++ 0x2c :: charBytes (Value.itemChars (w :: rest)) := by
      rw [Value.itemChars, charBytes_append, charBytes_cons]
      rfl
    rw [hbytes, valueTrees, valueTrees, itemTokens, List.append_assoc, List.append_assoc]
    exact spells_chars v (fun n hv => hn n (List.mem_append_left _ hv)) (endsToken_cons rfl rfl)
      (hrest.mark .comma rfl)

theorem spells_memberChars : ∀ members, (∀ n ∈ memberNumbers members, IsLegible n) →
    ∀ {ts bytes}, EndsToken bytes → Spells ts bytes →
      Spells (memberTokens (valueMembers members) ++ ts)
        (charBytes (Value.memberChars members) ++ bytes)
  | [], _, _, _, _, h => h
  | [(k, v)], hn, ts, bytes, hend, h => by
    have hv := spells_chars v (fun n hv => hn n (List.mem_append_left _ hv)) hend h
    have hbytes : charBytes (Value.memberChars [(k, v)]) =
        charBytes (quoted k) ++ 0x3a :: charBytes v.chars := by
      rw [Value.memberChars, charBytes_append, charBytes_cons]
      rfl
    rw [hbytes, List.append_assoc]
    exact (hv.mark .colon rfl).quoted k
  | (k, v) :: m :: rest, hn, ts, bytes, hend, h => by
    have hrest := spells_memberChars (m :: rest) (fun n hr => hn n (List.mem_append_right _ hr))
      hend h
    have hv := spells_chars v (fun n hv => hn n (List.mem_append_left _ hv))
      (endsToken_cons rfl rfl) (hrest.mark .comma rfl)
    have hbytes : charBytes (Value.memberChars ((k, v) :: m :: rest)) =
        charBytes (quoted k) ++ 0x3a :: (charBytes v.chars ++
          0x2c :: charBytes (Value.memberChars (m :: rest))) := by
      rw [Value.memberChars, charBytes_append, charBytes_cons, charBytes_append, charBytes_cons]
      rfl
    obtain ⟨l, w⟩ := m
    rw [hbytes, List.append_assoc, List.cons_append, List.append_assoc, valueMembers, valueMembers,
      memberTokens, List.cons_append, List.cons_append, List.append_assoc]
    exact (hv.mark .colon rfl).quoted k

end

/-- The document that is printed of a value says what the value holds. -/
theorem spells_bytes {v : Value} (hn : ∀ n ∈ numbers v, IsLegible n) :
    Spells (treeTokens (valueTree v)) v.bytes := by
  have hend : EndsToken [] := fun b hb => absurd hb (Option.not_mem_none b)
  have h := spells_chars v hn hend .nil
  rw [List.append_nil, List.append_nil] at h
  unfold Value.bytes Value.compact
  rw [utf8_ofList]
  exact h

/-! ### Values over several lines -/

section Lines

variable {ts : List Token} {bytes : Bytes}

lemma charBytes_indent (depth : ℕ) :
    charBytes (Value.indent depth) = 0x0a :: List.replicate (2 * depth) 0x20 := by
  have hspace : String.utf8EncodeChar ' ' = [0x20] := rfl
  rw [Value.indent, charBytes_cons]
  unfold charBytes
  rw [List.flatMap_replicate, hspace, List.flatten_replicate_singleton]
  rfl

/-- An indented line break may stand before any token. -/
lemma Spells.indent (depth : ℕ) (h : Spells ts bytes) :
    Spells ts (charBytes (Value.indent depth) ++ bytes) := by
  have hspaces : ∀ n, Spells ts (List.replicate n 0x20 ++ bytes) := by
    intro n
    induction n with
    | zero => exact h
    | succ n ih => exact .blank (by decide) ih
  rw [charBytes_indent]
  exact .blank (by decide) (hspaces _)

lemma endsToken_indent (depth : ℕ) (bytes : Bytes) :
    EndsToken (charBytes (Value.indent depth) ++ bytes) := by
  rw [charBytes_indent]
  exact endsToken_cons rfl rfl

end Lines

mutual

/-- What is printed of a value over several lines spells its tokens. -/
theorem spells_prettyChars (depth : ℕ) : ∀ v, (∀ n ∈ numbers v, IsLegible n) → ∀ {ts bytes},
    EndsToken bytes → Spells ts bytes →
      Spells (treeTokens (valueTree v) ++ ts) (charBytes (v.prettyChars depth) ++ bytes)
  | .null, hn, _, _, hend, h => spells_chars .null hn hend h
  | .bool b, hn, _, _, hend, h => spells_chars (.bool b) hn hend h
  | .number n, hn, _, _, hend, h => spells_chars (.number n) hn hend h
  | .string s, hn, _, _, hend, h => spells_chars (.string s) hn hend h
  | .array [], hn, _, _, hend, h => spells_chars (.array []) hn hend h
  | .object [], hn, _, _, hend, h => spells_chars (.object []) hn hend h
  | .array (v :: rest), hn, ts, bytes, _, h => by
    have hitems := spells_prettyItems (depth + 1) (v :: rest) hn
      (endsToken_indent depth (0x5d :: bytes)) ((h.mark .closeArray rfl).indent depth)
    have hbytes : charBytes (Value.prettyChars depth (.array (v :: rest))) =
        0x5b :: (charBytes (Value.prettyItems (depth + 1) (v :: rest)) ++
          charBytes (Value.indent depth) ++ [0x5d]) := by
      rw [Value.prettyChars, charBytes_cons, charBytes_append, charBytes_append]
      · rfl
      · exact List.cons_ne_nil v rest
    rw [hbytes, valueTree, treeTokens, List.cons_append, List.cons_append, List.append_assoc,
      List.append_assoc, List.append_assoc]
    exact hitems.mark .openArray rfl
  | .object (m :: rest), hn, ts, bytes, _, h => by
    have hmembers := spells_prettyMembers (depth + 1) (m :: rest) hn
      (endsToken_indent depth (0x7d :: bytes)) ((h.mark .closeObject rfl).indent depth)
    have hbytes : charBytes (Value.prettyChars depth (.object (m :: rest))) =
        0x7b :: (charBytes (Value.prettyMembers (depth + 1) (m :: rest)) ++
          charBytes (Value.indent depth) ++ [0x7d]) := by
      rw [Value.prettyChars, charBytes_cons, charBytes_append, charBytes_append]
      · rfl
      · exact List.cons_ne_nil m rest
    rw [hbytes, valueTree, treeTokens, List.cons_append, List.cons_append, List.append_assoc,
      List.append_assoc, List.append_assoc]
    exact hmembers.mark .openObject rfl

theorem spells_prettyItems (depth : ℕ) : ∀ items, (∀ n ∈ itemNumbers items, IsLegible n) →
    ∀ {ts bytes}, EndsToken bytes → Spells ts bytes →
      Spells (itemTokens (valueTrees items) ++ ts)
        (charBytes (Value.prettyItems depth items) ++ bytes)
  | [], _, _, _, _, h => h
  | [v], hn, _, _, hend, h => by
    have hv := spells_prettyChars depth v (fun n hv => hn n (List.mem_append_left _ hv)) hend h
    rw [Value.prettyItems, charBytes_append, List.append_assoc]
    exact hv.indent depth
  | v :: w :: rest, hn, ts, bytes, hend, h => by
    have hrest := spells_prettyItems depth (w :: rest)
      (fun n hr => hn n (List.mem_append_right _ hr)) hend h
    have hv := spells_prettyChars depth v (fun n hv => hn n (List.mem_append_left _ hv))
      (endsToken_cons rfl rfl) (hrest.mark .comma rfl)
    have hbytes : charBytes (Value.prettyItems depth (v :: w :: rest)) =
        charBytes (Value.indent depth) ++ (charBytes (v.prettyChars depth) ++
          0x2c :: charBytes (Value.prettyItems depth (w :: rest))) := by
      rw [Value.prettyItems, charBytes_append, charBytes_append, charBytes_cons, List.append_assoc]
      rfl
    rw [hbytes, valueTrees, valueTrees, itemTokens, List.append_assoc, List.append_assoc,
      List.append_assoc]
    exact hv.indent depth

theorem spells_prettyMembers (depth : ℕ) : ∀ members, (∀ n ∈ memberNumbers members, IsLegible n) →
    ∀ {ts bytes}, EndsToken bytes → Spells ts bytes →
      Spells (memberTokens (valueMembers members) ++ ts)
        (charBytes (Value.prettyMembers depth members) ++ bytes)
  | [], _, _, _, _, h => h
  | [(k, v)], hn, _, _, hend, h => by
    have hv := spells_prettyChars depth v (fun n hv => hn n (List.mem_append_left _ hv)) hend h
    have hbytes : charBytes (Value.prettyMembers depth [(k, v)]) =
        charBytes (Value.indent depth) ++ (charBytes (quoted k) ++
          0x3a :: 0x20 :: charBytes (v.prettyChars depth)) := by
      rw [Value.prettyMembers, charBytes_append, charBytes_append, charBytes_cons, charBytes_cons,
        List.append_assoc]
      rfl
    rw [hbytes, List.append_assoc, List.append_assoc]
    exact (((hv.blank (by decide)).mark .colon rfl).quoted k).indent depth
  | (k, v) :: m :: rest, hn, ts, bytes, hend, h => by
    have hrest := spells_prettyMembers depth (m :: rest)
      (fun n hr => hn n (List.mem_append_right _ hr)) hend h
    have hv := spells_prettyChars depth v (fun n hv => hn n (List.mem_append_left _ hv))
      (endsToken_cons rfl rfl) (hrest.mark .comma rfl)
    have hbytes : charBytes (Value.prettyMembers depth ((k, v) :: m :: rest)) =
        charBytes (Value.indent depth) ++ (charBytes (quoted k) ++
          0x3a :: 0x20 :: (charBytes (v.prettyChars depth) ++
            0x2c :: charBytes (Value.prettyMembers depth (m :: rest)))) := by
      rw [Value.prettyMembers, charBytes_append, charBytes_append, charBytes_cons, charBytes_cons,
        charBytes_append, charBytes_cons, List.append_assoc]
      rfl
    obtain ⟨l, w⟩ := m
    rw [hbytes, List.append_assoc, List.append_assoc, List.cons_append, List.cons_append,
      List.append_assoc, valueMembers, valueMembers, memberTokens, List.cons_append,
      List.cons_append, List.append_assoc]
    exact (((hv.blank (by decide)).mark .colon rfl).quoted k).indent depth

end

/-- A value that is printed over several lines is read again. -/
theorem read?_pretty {v : Value} (hn : ∀ n ∈ numbers v, IsLegible n) :
    Tree.read? (Text.utf8 v.pretty) = some (valueTree v) := by
  have hend : EndsToken [] := fun b hb => absurd hb (Option.not_mem_none b)
  have h := spells_prettyChars 0 v hn hend .nil
  rw [List.append_nil, List.append_nil] at h
  unfold Value.pretty
  rw [utf8_ofList]
  exact read?_of_spells h

end SlackBridge.Proofs
