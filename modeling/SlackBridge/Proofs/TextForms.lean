import Mathlib.Data.List.TakeWhile
import Mathlib.Data.Nat.Digits.Lemmas
import Mathlib.Tactic.IntervalCases
import SlackBridge.Slack.Signature

/-!
# Written forms

Which texts read as which value. A numeral is described by the digits that it is made of and a
byte string by its hexadecimal text, without reference to the readers; the theorems say that the
readers accept exactly these forms.
-/

namespace SlackBridge.Proofs

open Text

/-! ### Decimal numerals -/

/-- The number that decimal digits write, the most significant digit first. -/
def decimalValue (digits : List Char) : ℕ :=
  Nat.ofDigits 10 (digits.reverse.map fun c => c.toNat - '0'.toNat)

/-- At least one character, and every one a decimal digit. -/
def IsDecimal (digits : List Char) : Prop :=
  digits ≠ [] ∧ ∀ c ∈ digits, isAsciiDigit c = true

/-- The texts that write an integer: decimal digits after an optional sign. -/
inductive WritesInteger : List Char → ℤ → Prop
  | unsigned {digits} (h : IsDecimal digits) : WritesInteger digits (decimalValue digits)
  | plus {digits} (h : IsDecimal digits) : WritesInteger ('+' :: digits) (decimalValue digits)
  | minus {digits} (h : IsDecimal digits) : WritesInteger ('-' :: digits) (-decimalValue digits)

lemma foldl_digits (digits : List Char) :
    digits.foldl (fun n c => n * 10 + (c.toNat - 48)) 0 = decimalValue digits := by
  rw [decimalValue, Nat.ofDigits_eq_foldr, List.foldr_map, List.foldr_reverse]
  congr 1
  funext n c
  simp [Nat.mul_comm, Nat.add_comm]

lemma digits?_eq_some_iff (digits : List Char) (n : ℕ) :
    digits? digits = some n ↔ IsDecimal digits ∧ decimalValue digits = n := by
  unfold digits? IsDecimal
  rw [foldl_digits]
  simp only [List.all_eq_true, Option.ite_none_right_eq_some, Option.some.injEq]

lemma isDecimal_toDigits (n : ℕ) : IsDecimal (Nat.toDigits 10 n) :=
  ⟨Nat.toDigits_ne_nil, fun _ hc => Nat.isDigit_of_mem_toDigits (by decide) (by decide) hc⟩

lemma decimalValue_toDigits (n : ℕ) : decimalValue (Nat.toDigits 10 n) = n := by
  rw [← foldl_digits]
  refine Eq.trans ?_ Nat.ofDigitChars_ten_toDigits
  unfold Nat.ofDigitChars
  congr 1
  funext m c
  rw [Nat.mul_comm]
  rfl

lemma not_isDecimal_cons {c : Char} (digits : List Char) (h : isAsciiDigit c = false) :
    ¬IsDecimal (c :: digits) := by
  rintro ⟨-, hall⟩
  have hc := hall c List.mem_cons_self
  rw [h] at hc
  exact Bool.noConfusion hc

lemma writesInteger_minus_iff (digits : List Char) (n : ℤ) :
    WritesInteger ('-' :: digits) n ↔ IsDecimal digits ∧ n = -decimalValue digits := by
  constructor
  · intro h
    cases h with
    | unsigned hd => exact absurd hd (not_isDecimal_cons digits (by decide))
    | minus hd => exact ⟨hd, rfl⟩
  · rintro ⟨hd, rfl⟩
    exact .minus hd

lemma writesInteger_plus_iff (digits : List Char) (n : ℤ) :
    WritesInteger ('+' :: digits) n ↔ IsDecimal digits ∧ n = decimalValue digits := by
  constructor
  · intro h
    cases h with
    | unsigned hd => exact absurd hd (not_isDecimal_cons digits (by decide))
    | plus hd => exact ⟨hd, rfl⟩
  · rintro ⟨hd, rfl⟩
    exact .plus hd

lemma writesInteger_iff_of_unsigned {cs : List Char} (hm : ∀ rest, cs ≠ '-' :: rest)
    (hp : ∀ rest, cs ≠ '+' :: rest) (n : ℤ) :
    WritesInteger cs n ↔ IsDecimal cs ∧ n = decimalValue cs := by
  constructor
  · intro h
    cases h with
    | unsigned hd => exact ⟨hd, rfl⟩
    | plus hd => exact absurd rfl (hp _)
    | minus hd => exact absurd rfl (hm _)
  · rintro ⟨hd, rfl⟩
    exact .unsigned hd

/-- A text reads as an integer exactly if it writes one of 64 bits. -/
theorem integer?_eq_some_iff (s : String) (n : ℤ) :
    integer? s = some n ↔ WritesInteger s.toList n ∧ -2 ^ 63 ≤ n ∧ n < 2 ^ 63 := by
  unfold integer?
  split
  · rename_i rest hs
    rw [hs, writesInteger_minus_iff]
    simp only [bind_pure_comp, Option.map_eq_map, Option.map_map, Option.map_eq_some_iff,
      Option.filter_eq_some_iff, digits?_eq_some_iff, decide_eq_true_eq, Function.comp_apply]
    constructor
    · rintro ⟨m, ⟨⟨hd, rfl⟩, hb⟩, rfl⟩
      exact ⟨⟨hd, rfl⟩, by omega, by omega⟩
    · rintro ⟨⟨hd, rfl⟩, hlow, -⟩
      exact ⟨_, ⟨⟨hd, rfl⟩, by omega⟩, rfl⟩
  · rename_i rest hs
    rw [hs, writesInteger_plus_iff]
    simp only [Option.map_eq_some_iff, Option.filter_eq_some_iff, digits?_eq_some_iff,
      decide_eq_true_eq, Int.ofNat_eq_natCast]
    constructor
    · rintro ⟨m, ⟨⟨hd, rfl⟩, hb⟩, rfl⟩
      exact ⟨⟨hd, rfl⟩, by omega, by omega⟩
    · rintro ⟨⟨hd, rfl⟩, -, hhigh⟩
      exact ⟨_, ⟨⟨hd, rfl⟩, by omega⟩, rfl⟩
  · rename_i hm hp
    rw [writesInteger_iff_of_unsigned hm hp]
    simp only [Option.map_eq_some_iff, Option.filter_eq_some_iff, digits?_eq_some_iff,
      decide_eq_true_eq, Int.ofNat_eq_natCast]
    constructor
    · rintro ⟨m, ⟨⟨hd, rfl⟩, hb⟩, rfl⟩
      exact ⟨⟨hd, rfl⟩, by omega, by omega⟩
    · rintro ⟨⟨hd, rfl⟩, -, hhigh⟩
      exact ⟨_, ⟨⟨hd, rfl⟩, by omega⟩, rfl⟩

example : integer? "-9223372036854775808" = some (-9223372036854775808) ∧
    integer? "9223372036854775808" = none := by
  decide

/-- A text reads as a natural number exactly if it writes one within the bound, with or without a
plus sign. -/
theorem natural?_eq_some_iff (bound : ℕ) (s : String) (n : ℕ) :
    natural? bound s = some n ↔
      ∃ digits, (s.toList = digits ∨ s.toList = '+' :: digits) ∧ IsDecimal digits ∧
        decimalValue digits = n ∧ n ≤ bound := by
  unfold natural?
  simp only [Option.filter_eq_some_iff, digits?_eq_some_iff, decide_eq_true_eq]
  constructor
  · rintro ⟨⟨hd, hvalue⟩, hbound⟩
    refine ⟨_, ?_, hd, hvalue, hbound⟩
    split
    · next rest hs => exact .inr hs
    · exact .inl rfl
  · rintro ⟨digits, hs, hd, hvalue, hbound⟩
    rcases hs with hs | hs
    · have hplus : ∀ rest, digits ≠ '+' :: rest := by
        rintro rest rfl
        exact not_isDecimal_cons rest (by decide) hd
      rw [hs]
      split
      · next rest => exact absurd rfl (hplus rest)
      · exact ⟨⟨hd, hvalue⟩, hbound⟩
    · rw [hs]
      exact ⟨⟨hd, hvalue⟩, hbound⟩

/-! ### Hexadecimal text -/

lemma toNat_toLower (c : Char) :
    c.toLower.toNat = if 65 ≤ c.toNat ∧ c.toNat ≤ 90 then c.toNat + 32 else c.toNat := by
  unfold Char.toLower
  have hiff : (c.val ≥ 'A'.val ∧ c.val ≤ 'Z'.val) ↔ 65 ≤ c.toNat ∧ c.toNat ≤ 90 := Iff.rfl
  split
  · rename_i h
    rw [if_pos (hiff.mp h)]
    have hz : c.toNat ≤ 90 := (hiff.mp h).2
    change (c.val + 32).toNat = c.val.toNat + 32
    rw [UInt32.toNat_add]
    exact Nat.mod_eq_of_lt (by change c.toNat + 32 < _; omega)
  · rename_i h
    rw [if_neg (fun hc => h (hiff.mpr hc))]

lemma toNat_hexDigit {n : ℕ} (hn : n < 16) :
    (hexDigit n).toNat = if n < 10 then 48 + n else 87 + n := by
  interval_cases n <;> rfl

lemma hexValue?_eq_some_iff (c : Char) (n : ℕ) :
    hexValue? c = some n ↔ n < 16 ∧ c.toLower = hexDigit n := by
  have hle (a b : Char) : a ≤ b ↔ a.toNat ≤ b.toNat := Iff.rfl
  have hvalue : hexValue? c = some n ↔
      (48 ≤ c.toNat ∧ c.toNat ≤ 57 ∧ n = c.toNat - 48) ∨
      (97 ≤ c.toNat ∧ c.toNat ≤ 102 ∧ n = c.toNat - 87) ∨
      (65 ≤ c.toNat ∧ c.toNat ≤ 70 ∧ n = c.toNat - 55) := by
    unfold hexValue?
    simp only [hle, Char.reduceToNat]
    split_ifs
    · rw [Option.some.injEq]; omega
    · rw [Option.some.injEq]; omega
    · rw [Option.some.injEq]; omega
    · rw [false_iff]
      omega
  rw [hvalue]
  constructor
  · intro h
    have hn : n < 16 := by omega
    refine ⟨hn, Char.toNat_inj.mp ?_⟩
    rw [toNat_toLower, toNat_hexDigit hn]
    split_ifs <;> omega
  · rintro ⟨hn, h⟩
    have hc := congrArg Char.toNat h
    rw [toNat_toLower, toNat_hexDigit hn] at hc
    split_ifs at hc <;> omega

lemma hexChars_cons (b : UInt8) (bytes : Bytes) :
    hexChars (b :: bytes) = hexDigit (b.toNat / 16) :: hexDigit (b.toNat % 16) :: hexChars bytes :=
  rfl

/-- A text reads as bytes exactly if it writes them in hexadecimal, in letters of either case. -/
theorem hexBytes?_eq_some_iff (cs : List Char) (bytes : Bytes) :
    hexBytes? cs = some bytes ↔ cs.map Char.toLower = hexChars bytes := by
  induction cs using hexBytes?.induct generalizing bytes with
  | case1 => cases bytes <;> simp [hexBytes?, hexChars]
  | case2 c => cases bytes <;> simp [hexBytes?, hexChars]
  | case3 a b rest ih =>
    simp only [hexBytes?, Option.bind_eq_bind, Option.bind_eq_some_iff, Option.pure_def,
      Option.some.injEq, hexValue?_eq_some_iff]
    constructor
    · rintro ⟨high, ⟨hhigh, ha⟩, low, ⟨hlow, hb⟩, tail, htail, rfl⟩
      have hnat : (UInt8.ofNat (high * 16 + low)).toNat = high * 16 + low := by
        rw [UInt8.toNat_ofNat']
        omega
      have hdiv : (high * 16 + low) / 16 = high := by omega
      have hmod : (high * 16 + low) % 16 = low := by omega
      rw [hexChars_cons, hnat, hdiv, hmod, List.map_cons, List.map_cons, ha, hb,
        (ih tail).mp htail]
    · intro h
      cases bytes with
      | nil => simp [hexChars] at h
      | cons x tail =>
        rw [hexChars_cons, List.map_cons, List.map_cons] at h
        obtain ⟨ha, h⟩ := List.cons.inj h
        obtain ⟨hb, htail⟩ := List.cons.inj h
        have hx := x.toNat_lt
        refine ⟨x.toNat / 16, ⟨by omega, ha⟩, x.toNat % 16, ⟨by omega, hb⟩, tail,
          (ih tail).mpr htail, ?_⟩
        have hnat : x.toNat / 16 * 16 + x.toNat % 16 = x.toNat := by omega
        rw [hnat, UInt8.ofNat_toNat]

lemma dropStart?_eq_some_iff (start s rest : String) :
    dropStart? start s = some rest ↔ s = start ++ rest := by
  unfold dropStart?
  rw [Option.ite_none_right_eq_some, List.isPrefixOf_iff_prefix, Option.some.injEq]
  constructor
  · rintro ⟨⟨tail, htail⟩, rfl⟩
    apply String.ext
    rw [String.toList_append, String.toList_ofList, ← htail, ← String.length_toList,
      List.drop_left]
  · rintro rfl
    rw [String.toList_append, ← String.length_toList, List.drop_left, String.ofList_toList]
    exact ⟨List.prefix_append _ _, rfl⟩

/-! ### Blank text -/

lemma trimChars_eq_nil_iff (cs : List Char) :
    trimChars cs = [] ↔ ∀ c ∈ cs, isBlank c = true := by
  unfold trimChars dropBlankEnd
  rw [List.reverse_eq_nil_iff, List.dropWhile_eq_nil_iff]
  simp only [List.mem_reverse]
  constructor
  · intro h
    have hnil : cs.dropWhile isBlank = [] := by
      by_contra hne
      have hfirst := List.head_dropWhile_not isBlank hne
      rw [h _ (List.head_mem hne)] at hfirst
      cases hfirst
    exact List.dropWhile_eq_nil_iff.mp hnil
  · intro h c hc
    exact h c ((List.dropWhile_sublist _).subset hc)

lemma trim_eq_empty_iff (s : String) : trim s = "" ↔ isBlankText s = true := by
  unfold trim isBlankText
  rw [String.ofList_eq_empty_iff, trimChars_eq_nil_iff, List.all_eq_true]

lemma mem_trimChars_of_not_blank {c : Char} {cs : List Char} (hc : c ∈ cs)
    (hblank : isBlank c = false) : c ∈ trimChars cs := by
  have hdrop : ∀ ds : List Char, c ∈ ds → c ∈ ds.dropWhile isBlank := by
    intro ds hds
    rw [← List.takeWhile_append_dropWhile (p := isBlank) (l := ds), List.mem_append] at hds
    rcases hds with htake | hdrop
    · have htrue := List.mem_takeWhile_imp htake
      rw [hblank] at htrue
      cases htrue
    · exact hdrop
  unfold trimChars dropBlankEnd
  rw [List.mem_reverse]
  apply hdrop
  rw [List.mem_reverse]
  exact hdrop cs hc

lemma dropWhile_isBlank_append {cs : List Char} (hne : cs ≠ [])
    (h : ∀ c ∈ cs, isBlank c = false) (rest : List Char) :
    (cs ++ rest).dropWhile isBlank = cs ++ rest := by
  cases cs with
  | nil => exact absurd rfl hne
  | cons c cs =>
    apply List.dropWhile_cons_of_neg
    rw [h c List.mem_cons_self]
    exact Bool.false_ne_true

/-- Trimming leaves a start without blank characters as it is. -/
lemma trimChars_append {cs : List Char} (hne : cs ≠ []) (h : ∀ c ∈ cs, isBlank c = false)
    (rest : List Char) : trimChars (cs ++ rest) = cs ++ dropBlankEnd rest := by
  have hreverse : cs.reverse ≠ [] := fun hnil => hne (List.reverse_eq_nil_iff.mp hnil)
  have hkept := dropWhile_isBlank_append hreverse (fun c hc => h c (List.mem_reverse.mp hc)) []
  unfold trimChars dropBlankEnd
  rw [dropWhile_isBlank_append hne h, List.reverse_append, List.dropWhile_append]
  by_cases hblank : (rest.reverse.dropWhile isBlank).isEmpty = true
  · rw [List.append_nil] at hkept
    rw [if_pos hblank, hkept, List.reverse_reverse, List.isEmpty_iff.mp hblank, List.reverse_nil,
      List.append_nil]
  · rw [if_neg hblank, List.reverse_append, List.reverse_reverse]

lemma trimChars_of_not_blank {cs : List Char} (h : ∀ c ∈ cs, isBlank c = false) :
    trimChars cs = cs := by
  by_cases hne : cs = []
  · rw [hne]
    rfl
  · have hkept := trimChars_append hne h []
    rwa [dropBlankEnd, List.reverse_nil, List.dropWhile_nil, List.reverse_nil, List.append_nil]
      at hkept

lemma trim_ofList_of_not_blank {cs : List Char} (h : ∀ c ∈ cs, isBlank c = false) :
    trim (String.ofList cs) = String.ofList cs := by
  unfold trim
  rw [String.toList_ofList, trimChars_of_not_blank h]

lemma isBlank_hexDigit (n : Fin 16) : isBlank (hexDigit n) = false := by
  revert n
  decide

lemma exists_hexDigit_of_mem_hexChars {bytes : Bytes} {c : Char} (h : c ∈ hexChars bytes) :
    ∃ n : Fin 16, hexDigit n = c := by
  obtain ⟨b, -, hb⟩ := List.mem_flatMap.mp h
  have hb256 := b.toNat_lt
  rw [List.mem_cons, List.mem_singleton] at hb
  rcases hb with rfl | rfl
  · exact ⟨⟨b.toNat / 16, by omega⟩, rfl⟩
  · exact ⟨⟨b.toNat % 16, by omega⟩, rfl⟩

lemma isBlank_of_mem_hexChars {bytes : Bytes} {c : Char} (h : c ∈ hexChars bytes) :
    isBlank c = false := by
  obtain ⟨n, rfl⟩ := exists_hexDigit_of_mem_hexChars h
  exact isBlank_hexDigit n

lemma isBlank_of_isAsciiDigit {c : Char} (h : isAsciiDigit c = true) : isBlank c = false := by
  unfold isAsciiDigit at h
  rw [Bool.and_eq_true, decide_eq_true_iff, decide_eq_true_iff] at h
  have hlow : 48 ≤ c.toNat := h.1
  have hhigh : c.toNat ≤ 57 := h.2
  unfold isBlank
  simp only [Bool.or_eq_false_iff, Bool.and_eq_false_iff, decide_eq_false_iff_not,
    beq_eq_false_iff_ne]
  omega

/-! ### Texts cut at a character -/

lemma bne_of_notMem {α : Type} [BEq α] [LawfulBEq α] {x : α} {part : List α} (h : x ∉ part) :
    ∀ a ∈ part, (a != x) = true := by
  intro a ha
  rw [bne_iff_ne]
  rintro rfl
  exact h ha

lemma takeWhile_dropWhile_of_stop {α : Type} {p : α → Bool} {part : List α} {x : α}
    (hpart : ∀ a ∈ part, p a = true) (hx : p x = false) (rest : List α) :
    (part ++ x :: rest).takeWhile p = part ∧ (part ++ x :: rest).dropWhile p = x :: rest := by
  have hstop : ¬p x = true := by
    rw [hx]
    exact Bool.false_ne_true
  rw [List.takeWhile_append_of_pos hpart, List.dropWhile_append_of_pos hpart,
    List.takeWhile_cons_of_neg hstop, List.dropWhile_cons_of_neg hstop, List.append_nil]
  exact ⟨rfl, rfl⟩

lemma append_cons_inj_of_first {α : Type} {x : α} {a a' b b' : List α} (ha : x ∉ a)
    (ha' : x ∉ a') (h : a ++ x :: b = a' ++ x :: b') : a = a' ∧ b = b' := by
  induction a generalizing a' with
  | nil =>
    cases a' with
    | nil => exact ⟨rfl, (List.cons.inj h).2⟩
    | cons y rest' =>
      have hx : x = y := (List.cons.inj h).1
      apply absurd _ ha'
      rw [hx]
      exact List.mem_cons_self
  | cons y rest ih =>
    cases a' with
    | nil =>
      have hx : y = x := (List.cons.inj h).1
      apply absurd _ ha
      rw [hx]
      exact List.mem_cons_self
    | cons z rest' =>
      obtain ⟨hhead, htail⟩ := List.cons.inj h
      have hrest : x ∉ rest := fun hx => ha (List.mem_cons_of_mem y hx)
      have hrest' : x ∉ rest' := fun hx => ha' (List.mem_cons_of_mem z hx)
      obtain ⟨heq, hb⟩ := ih hrest hrest' htail
      exact ⟨by rw [hhead, heq], hb⟩

/-- What starts with `x` starts behind what holds no `x`. -/
lemma suffix_of_cons_suffix {α : Type} {x : α} {tail front rest : List α} (hfront : x ∉ front)
    (h : x :: tail <:+ front ++ rest) : x :: tail <:+ rest := by
  obtain ⟨before, h⟩ := h
  rw [List.append_eq_append_iff] at h
  rcases h with ⟨extra, rfl, hextra⟩ | ⟨extra, -, rfl⟩
  · cases extra with
    | nil =>
      rw [List.nil_append] at hextra
      rw [hextra]
    | cons y extra =>
      obtain ⟨rfl, -⟩ := List.cons.inj hextra
      exact absurd (List.mem_append_right _ List.mem_cons_self) hfront
  · exact List.suffix_append _ _

/-- The characters of a text are looked at one by one, not all characters that there are. -/
lemma forall_of_all {p : Char → Prop} [DecidablePred p] {cs : List Char}
    (h : cs.all (p ·) = true) : ∀ c ∈ cs, p c :=
  fun c hc => of_decide_eq_true (List.all_eq_true.mp h c hc)

/-! ### Results -/

lemma bind_eq_ok_iff {ε α β : Type} (x : Except ε α) (f : α → Except ε β) (b : β) :
    (x >>= f) = .ok b ↔ ∃ a, x = .ok a ∧ f a = .ok b := by
  cases x with
  | error e => simp [bind, Except.bind]
  | ok a => simp [bind, Except.bind]

/-- Results that are right can be compared where errors cannot. -/
lemma eq_ok_of_toOption {ε α : Type} {x : Except ε α} {a : α} (h : x.toOption = some a) :
    x = .ok a := by
  cases x with
  | error e => cases h
  | ok b => rw [Option.some.inj h]

end SlackBridge.Proofs
