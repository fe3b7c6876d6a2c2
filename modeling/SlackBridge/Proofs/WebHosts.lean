import Mathlib.Data.List.DropRight
import Mathlib.Tactic.Common
import SlackBridge.Http.Request
import SlackBridge.Proofs.JsonRecords
import SlackBridge.Proofs.TextForms

/-!
# Hosts of the web

What reading a URL of the web makes of its host. Whatever is read as a host is written with
characters that may stand in a request or with one of four that may not, and it depends on nothing
that follows the slash behind it.
-/

namespace SlackBridge.Proofs

open Url

/-! ### The characters of a host -/

/-- The characters of hosts that no request can name. -/
def unsentChars : List Char := "\"`\x7b\x7d".toList

/-- The text of a host in its normal form. -/
def IsHostText (cs : List Char) : Prop :=
  ∀ c ∈ cs, Http.isHostChar c = true ∨ c ∈ unsentChars

/-- A character that a domain name may hold in its normal form. -/
def IsNameChar (c : Char) : Prop :=
  c.toNat < 128 ∧ isForbidden c = false

instance : DecidablePred IsNameChar := fun c =>
  inferInstanceAs (Decidable (c.toNat < 128 ∧ isForbidden c = false))

lemma isHostChar_of_mem_unsentChars {c : Char} (h : c ∈ unsentChars) :
    Http.isHostChar c = false := by
  have hall : unsentChars.all (!Http.isHostChar ·) = true := by decide
  have hc := List.all_eq_true.mp hall c h
  rwa [Bool.not_eq_true'] at hc

lemma IsHostText.all_isHostChar_iff {cs : List Char} (h : IsHostText cs) :
    cs.all Http.isHostChar = true ↔ ∀ c ∈ cs, c ∉ unsentChars := by
  rw [List.all_eq_true]
  constructor
  · intro hall c hc hunsent
    have hillegal := isHostChar_of_mem_unsentChars hunsent
    rw [hall c hc] at hillegal
    exact Bool.noConfusion hillegal
  · intro hnone c hc
    exact (h c hc).resolve_right (hnone c hc)

lemma IsNameChar.isHostChar_or {c : Char} (h : IsNameChar c) :
    Http.isHostChar c = true ∨ c ∈ unsentChars := by
  have hall : ∀ n : Fin 128, isForbidden (Char.ofNat n) = false →
      Http.isHostChar (Char.ofNat n) = true ∨ Char.ofNat n ∈ unsentChars := by
    decide +kernel
  have hc := hall ⟨c.toNat, h.1⟩
  rw [Char.ofNat_toNat] at hc
  exact hc h.2

lemma forall_mem_intercalate {P : Char → Prop} {separator : Char} {parts : List (List Char)}
    (hseparator : P separator) (h : ∀ part ∈ parts, ∀ c ∈ part, P c) :
    ∀ c ∈ [separator].intercalate parts, P c := by
  induction parts with
  | nil => exact List.forall_mem_nil _
  | cons part rest ih =>
    obtain ⟨hpart, hrest⟩ := List.forall_mem_cons.mp h
    cases rest with
    | nil =>
      rw [List.intercalate_singleton]
      exact hpart
    | cons next rest =>
      rw [List.intercalate_cons_cons, List.forall_mem_append, List.forall_mem_append,
        List.forall_mem_singleton]
      exact ⟨⟨hpart, hseparator⟩, ih hrest⟩

section Numbers

lemma isHostChar_digitChar {d : ℕ} (h : d < 16) : Http.isHostChar d.digitChar = true := by
  have hall : ∀ e : Fin 16, Http.isHostChar (Nat.digitChar e) = true := by decide +kernel
  exact hall ⟨d, h⟩

lemma isHostChar_of_mem_toDigits {radix : ℕ} (hlow : 1 < radix) (hhigh : radix ≤ 16) (n : ℕ) :
    ∀ c ∈ Nat.toDigits radix n, Http.isHostChar c = true := by
  induction n using Nat.strong_induction_on with
  | h n ih =>
    rw [Nat.toDigits_eq_if hlow]
    by_cases hn : n < radix
    · rw [if_pos hn, List.forall_mem_singleton]
      exact isHostChar_digitChar (Nat.lt_of_lt_of_le hn hhigh)
    · rw [if_neg hn, List.forall_mem_append, List.forall_mem_singleton]
      have hless : n / radix < n := Nat.div_lt_self (by omega) hlow
      have hdigit : n % radix < 16 := Nat.lt_of_lt_of_le (Nat.mod_lt n (by omega)) hhigh
      exact ⟨ih _ hless, isHostChar_digitChar hdigit⟩

lemma isHostChar_of_mem_ipv4Chars (address : ℕ) :
    ∀ c ∈ ipv4Chars address, Http.isHostChar c = true := by
  have hbyte : ∀ n, ∀ c ∈ Nat.toDigits 10 n, Http.isHostChar c = true :=
    isHostChar_of_mem_toDigits (by decide) (by decide)
  unfold ipv4Chars
  simp only [List.forall_mem_append, List.forall_mem_cons]
  exact ⟨⟨⟨hbyte _, by decide, hbyte _⟩, by decide, hbyte _⟩, by decide, hbyte _⟩

lemma isHostChar_of_mem_pieceChars (pieces : List ℕ) :
    ∀ c ∈ pieceChars pieces, Http.isHostChar c = true := by
  unfold pieceChars
  refine forall_mem_intercalate (P := fun c => Http.isHostChar c = true) (by decide) ?_
  rw [List.forall_mem_map]
  exact fun n _ => isHostChar_of_mem_toDigits (by decide) (by decide) n

lemma isHostChar_of_mem_ipv6Chars (pieces : List ℕ) :
    ∀ c ∈ ipv6Chars pieces, Http.isHostChar c = true := by
  unfold ipv6Chars
  split
  · exact isHostChar_of_mem_pieceChars pieces
  · simp only [List.forall_mem_append, List.forall_mem_cons]
    exact ⟨isHostChar_of_mem_pieceChars _, by decide, by decide, isHostChar_of_mem_pieceChars _⟩

end Numbers

section Punycode

open Url.Punycode

lemma isNameChar_digitChar {d : ℕ} (h : d < 36) : IsNameChar (digitChar d) := by
  have hall : ∀ e : Fin 36, (digitChar e).toNat < 128 ∧ isForbidden (digitChar e) = false := by
    decide +kernel
  exact hall ⟨d, h⟩

lemma threshold_le (k bias : ℕ) : threshold k bias ≤ 26 := by
  unfold threshold
  split
  · omega
  · split <;> omega

lemma isNameChar_of_mem_writeDistance (q k bias : ℕ) :
    ∀ c ∈ writeDistance q k bias, IsNameChar c := by
  induction q using Nat.strong_induction_on generalizing k with
  | h q ih =>
    have hlow := one_le_threshold k bias
    have hhigh := threshold_le k bias
    rw [writeDistance]
    by_cases hq : q < threshold k bias
    · rw [if_pos hq, List.forall_mem_singleton]
      exact isNameChar_digitChar (by omega)
    · rw [if_neg hq, List.forall_mem_cons]
      have hdigit : (q - threshold k bias) % (36 - threshold k bias) < 36 - threshold k bias :=
        Nat.mod_lt _ (by omega)
      have hless : (q - threshold k bias) / (36 - threshold k bias) < q :=
        Nat.lt_of_le_of_lt (Nat.div_le_self _ _) (by omega)
      exact ⟨isNameChar_digitChar (by omega), ih _ hless _⟩

lemma isNameChar_of_mem_writePoint (basic m : ℕ) (label : List ℕ) (w : Writing)
    (hw : ∀ c ∈ w.digits, IsNameChar c) :
    ∀ c ∈ (writePoint basic m label w).digits, IsNameChar c := by
  unfold writePoint
  induction label generalizing w with
  | nil => exact hw
  | cons c rest ih =>
    rw [List.foldl_cons]
    refine ih _ ?_
    split
    · exact hw
    split
    · rw [List.forall_mem_append]
      exact ⟨hw, isNameChar_of_mem_writeDistance _ _ _⟩
    · exact hw

lemma isNameChar_of_mem_writePoints (basic : ℕ) (label points : List ℕ) (n : ℕ) (w : Writing)
    (hw : ∀ c ∈ w.digits, IsNameChar c) :
    ∀ c ∈ (writePoints basic label points n w).digits, IsNameChar c := by
  induction points generalizing n w with
  | nil => exact hw
  | cons m rest ih => exact ih _ _ (isNameChar_of_mem_writePoint basic m label _ hw)

lemma isNameChar_of_mem_encode {label : List Char} (h : ∀ c ∈ label, isForbidden c = false) :
    ∀ c ∈ encode label, IsNameChar c := by
  have hbasic : ∀ c ∈ label.filter (fun c => c.toNat < 128), IsNameChar c := by
    intro c hc
    rw [List.mem_filter, decide_eq_true_iff] at hc
    exact ⟨hc.2, h c hc.1⟩
  unfold encode
  dsimp only
  rw [List.forall_mem_append]
  refine ⟨?_, isNameChar_of_mem_writePoints _ _ _ _ _ (List.forall_mem_nil _)⟩
  split
  · exact List.forall_mem_nil _
  · rw [List.forall_mem_append, List.forall_mem_singleton]
    exact ⟨hbasic, by decide, by decide⟩

end Punycode

section Names

lemma mem_of_mem_splitAtChar {sep : Char → Bool} {cs : List Char} :
    ∀ piece ∈ Text.splitAtChar sep cs, ∀ c ∈ piece, c ∈ cs := by
  induction cs with
  | nil =>
    intro piece hpiece c hc
    rw [Text.splitAtChar, List.mem_singleton] at hpiece
    rwa [hpiece] at hc
  | cons d rest ih =>
    rw [Text.splitAtChar]
    split
    · rw [List.forall_mem_cons]
      exact ⟨List.forall_mem_nil _, fun piece hpiece c hc =>
        List.mem_cons_of_mem d (ih piece hpiece c hc)⟩
    split
    · rw [List.forall_mem_singleton, List.forall_mem_singleton]
      exact List.mem_cons_self
    · rename_i first others heq
      rw [heq, List.forall_mem_cons] at ih
      rw [List.forall_mem_cons, List.forall_mem_cons]
      exact ⟨⟨List.mem_cons_self, fun c hc => List.mem_cons_of_mem d (ih.1 c hc)⟩,
        fun piece hpiece c hc => List.mem_cons_of_mem d (ih.2 piece hpiece c hc)⟩

lemma isAsciiLabel_iff (label : List Char) :
    isAsciiLabel label = true ↔ ∀ c ∈ label, c.toNat < 128 := by
  unfold isAsciiLabel
  simp only [List.all_eq_true, decide_eq_true_eq]

/-- A label in Punycode is written as it was read. -/
lemma eq_of_spelledLabel? {punycode label : List Char} (h : spelledLabel? punycode = some label) :
    (∀ c ∈ punycode, c.toNat < 128) ∧
      writeLabel label = 'x' :: 'n' :: '-' :: '-' :: punycode := by
  unfold spelledLabel? at h
  split at h
  · rename_i hread
    rw [Option.bind_eq_bind, Option.bind_eq_some_iff] at h
    obtain ⟨decoded, -, h⟩ := h
    split at h
    · rename_i hdecoded
      cases h
      rw [Bool.and_eq_true, Bool.and_eq_true, Bool.not_eq_true', beq_iff_eq] at hdecoded
      unfold writeLabel
      rw [hdecoded.1.1, hdecoded.2]
      exact ⟨(isAsciiLabel_iff punycode).mp hread.2, rfl⟩
    · cases h
  · cases h

lemma isNameChar_of_mem_prefixed {cs : List Char} (h : ∀ c ∈ cs, IsNameChar c) :
    ∀ c ∈ 'x' :: 'n' :: '-' :: '-' :: cs, IsNameChar c := by
  simp only [List.forall_mem_cons]
  exact ⟨by decide, by decide, by decide, by decide, h⟩

lemma isNameChar_of_mem_writeLabel {piece label : List Char} (h : readLabel? piece = some label)
    (hpiece : ∀ c ∈ piece, isForbidden c = false) : ∀ c ∈ writeLabel label, IsNameChar c := by
  unfold readLabel? at h
  split at h
  · rename_i punycode
    obtain ⟨hascii, hlabel⟩ := eq_of_spelledLabel? h
    simp only [List.forall_mem_cons] at hpiece
    rw [hlabel]
    exact isNameChar_of_mem_prefixed fun c hc => ⟨hascii c hc, hpiece.2.2.2.2 c hc⟩
  · split at h
    · cases h
      unfold writeLabel
      split
      · rename_i hascii
        exact fun c hc => ⟨(isAsciiLabel_iff _).mp hascii c hc, hpiece c hc⟩
      · exact isNameChar_of_mem_prefixed (isNameChar_of_mem_encode hpiece)
    · cases h

lemma isNameChar_of_mem_writeLabels {pieces labels : List (List Char)}
    (h : List.Forall₂ (fun piece label => readLabel? piece = some label) pieces labels)
    (hpieces : ∀ piece ∈ pieces, ∀ c ∈ piece, isForbidden c = false) :
    ∀ label ∈ labels, ∀ c ∈ writeLabel label, IsNameChar c := by
  induction h with
  | nil => exact List.forall_mem_nil _
  | cons hread _ ih =>
    rw [List.forall_mem_cons] at hpieces ⊢
    exact ⟨isNameChar_of_mem_writeLabel hread hpieces.1, ih hpieces.2⟩

lemma isNameChar_of_mem_domain? {bytes : Bytes} {name : List Char} (h : domain? bytes = some name) :
    ∀ c ∈ name, IsNameChar c := by
  unfold domain? at h
  simp only [Option.bind_eq_bind, Option.bind_eq_some_iff] at h
  obtain ⟨text, -, images, -, h⟩ := h
  split at h
  · cases h
  rename_i hallowed
  rw [Bool.not_eq_true, List.any_eq_false] at hallowed
  obtain ⟨labels, hlabels, h⟩ := Option.bind_eq_some_iff.mp h
  split at h
  · cases h
    rw [mapM_eq_some_iff] at hlabels
    have hpieces : ∀ piece ∈ Text.splitAtChar (· == '.') (composed images.flatten),
        ∀ c ∈ piece, isForbidden c = false := fun piece hpiece c hc =>
      Bool.eq_false_iff.mpr (hallowed c (mem_of_mem_splitAtChar piece hpiece c hc))
    refine forall_mem_intercalate ⟨by decide, by decide⟩ ?_
    rw [List.forall_mem_map]
    exact isNameChar_of_mem_writeLabels hlabels hpieces
  · cases h

end Names

section Hosts

lemma eq_of_bracketed? {cs : List Char} {host : Host} (h : bracketed? cs = some (.ok host)) :
    ∃ pieces, host = .ipv6 pieces := by
  unfold bracketed? at h
  split at h
  · split at h
    · split at h
      · cases h
        exact ⟨_, rfl⟩
      · cases h
    · cases h
  · cases h

/-- The hosts of the web: a domain name in its encoded form, or a numeric address. -/
lemma cases_of_webHost {cs : List Char} {host : Host} (h : webHost cs = .ok host) :
    (∃ name bytes, domain? bytes = some name ∧ name ≠ [] ∧ host = .name name) ∨
      (∃ address, host = .ipv4 address) ∨ ∃ pieces, host = .ipv6 pieces := by
  unfold webHost at h
  split at h
  · rename_i bracketed hbracketed
    rw [h] at hbracketed
    exact .inr (.inr (eq_of_bracketed? hbracketed))
  split at h
  · cases h
  · cases h
  rename_i name hne hname
  split at h
  · split at h
    · cases h
      exact .inr (.inl ⟨_, rfl⟩)
    · cases h
  · cases h
    exact .inl ⟨name, _, hname, hne, rfl⟩

lemma ne_of_webHost {cs : List Char} {host : Host} (h : webHost cs = .ok host) :
    host ≠ .name [] := by
  rcases cases_of_webHost h with ⟨name, _, -, hne, rfl⟩ | ⟨address, rfl⟩ | ⟨pieces, rfl⟩
  · exact fun hnil => hne (Host.name.inj hnil)
  · exact Host.noConfusion
  · exact Host.noConfusion

lemma isHostText_of_webHost {cs : List Char} {host : Host} (h : webHost cs = .ok host) :
    IsHostText host.chars := by
  rcases cases_of_webHost h with ⟨name, _, hname, -, rfl⟩ | ⟨address, rfl⟩ | ⟨pieces, rfl⟩
  · exact fun c hc => (isNameChar_of_mem_domain? hname c hc).isHostChar_or
  · exact fun c hc => .inl (isHostChar_of_mem_ipv4Chars _ c hc)
  · unfold IsHostText Host.chars
    simp only [List.forall_mem_cons, List.forall_mem_append]
    exact ⟨.inl (by decide), fun c hc => .inl (isHostChar_of_mem_ipv6Chars pieces c hc),
      .inl (by decide), List.forall_mem_nil _⟩

end Hosts

/-! ### Reading a URL of the web -/

section Reading

/-- The schemes of requests. -/
def IsWebScheme (scheme : List Char) : Prop :=
  scheme = "http".toList ∨ scheme = "https".toList

/-- What counts of a text that neither starts nor ends with a blank or a control character. -/
def unbroken (cs : List Char) : List Char :=
  cs.filter fun c => c != '\t' && c != '\n' && c != '\r'

/-- The text of the authority, of what follows the colon of the scheme. -/
def authorityText (cs : List Char) : List Char :=
  (cs.dropWhile (isSlash .web)).takeWhile (!endsAuthority .web ·)

/-- The scheme and the authority of a URL. -/
def origin? (text : String) : Option (List Char × Authority) :=
  (Url.parse text).toOption.bind fun u => u.authority.map (u.scheme, ·)

lemma rdropWhile_append_cons {α : Type} {p : α → Bool} {x : α} (hx : p x = false)
    (front back : List α) :
    (front ++ x :: back).rdropWhile p = front ++ x :: back.rdropWhile p := by
  have hstop : (x :: front.reverse).dropWhile p = x :: front.reverse :=
    List.dropWhile_cons_of_neg (Bool.eq_false_iff.mp hx)
  unfold List.rdropWhile
  rw [List.reverse_append, List.reverse_cons, List.append_assoc, List.singleton_append,
    List.dropWhile_append, hstop]
  split
  · rename_i hnil
    rw [List.isEmpty_iff.mp hnil, List.reverse_cons, List.reverse_reverse, List.reverse_nil]
  · rw [List.reverse_append, List.reverse_cons, List.reverse_reverse, List.append_assoc]
    rfl

variable {scheme : List Char}

lemma significant_of_ends {first last : Char} (hfirst : 0x20 < first.toNat)
    (hlast : 0x20 < last.toNat) (between : List Char) :
    significant (first :: (between ++ [last])) = unbroken (first :: (between ++ [last])) := by
  unfold significant
  dsimp only
  rw [List.dropWhile_cons_of_neg (by rw [decide_eq_true_iff]; omega), List.reverse_cons,
    List.reverse_append, List.reverse_singleton, List.singleton_append, List.cons_append,
    List.dropWhile_cons_of_neg (by rw [decide_eq_true_iff]; omega), List.reverse_cons,
    List.reverse_append, List.reverse_reverse]
  rfl

lemma significant_of_web (hscheme : IsWebScheme scheme) {last : Char} (hlast : 0x20 < last.toNat)
    (rest : List Char) : significant (scheme ++ ':' :: (rest ++ [last])) =
      scheme ++ ':' :: unbroken (rest ++ [last]) := by
  rcases hscheme with rfl | rfl
  · exact significant_of_ends (by decide) hlast ("ttp:".toList ++ rest)
  · exact significant_of_ends (by decide) hlast ("ttps:".toList ++ rest)

lemma parse_of_significant (hscheme : IsWebScheme scheme) {text : String} {rest : List Char}
    (h : significant text.toList = scheme ++ ':' :: rest) :
    Url.parse text = readWithAuthority .web scheme (rest.dropWhile (isSlash .web)) := by
  have hsplit : splitScheme? (scheme ++ ':' :: rest) = some (scheme, rest) := by
    rcases hscheme with rfl | rfl
    · rfl
    · rfl
  have hkind : schemeKind scheme = .web := by
    rcases hscheme with rfl | rfl
    · decide
    · decide
  unfold Url.parse
  rw [h, hsplit]
  dsimp only
  rw [hkind]

/-- Whether something follows the authority makes no difference for a scheme of the web, which
needs a host. -/
lemma readAuthority_final (final : Bool) (cs : List Char) :
    readAuthority .web scheme final cs = readAuthority .web scheme false cs := by
  unfold readAuthority
  rcases cutUser cs with ⟨user?, rest⟩
  dsimp only
  by_cases hrest : rest = []
  · have hhost : (cutHost false rest).1 = [] := by
      rw [hrest]
      rfl
    simp only [hhost, and_self, if_true, ite_self]
  · simp only [hrest, false_and, if_false]

/-- What the parts of an authority are read from. -/
lemma parts_of_readAuthority {final : Bool} {cs : List Char} {a : Authority}
    (h : readAuthority .web scheme final cs = .ok a) :
    ∃ user password hostText digits, a.username = percentEncode userSet user ∧
      a.password = percentEncode userSet password ∧ webHost hostText = .ok a.host ∧
      readPort scheme digits = .ok a.port := by
  unfold readAuthority at h
  dsimp only at h
  split at h
  · cases h
  split at h
  · cases h
  rw [if_neg SchemeKind.noConfusion, bind_eq_ok_iff] at h
  obtain ⟨host, hhost, h⟩ := h
  split at h
  · cases h
  obtain ⟨port, hport, h⟩ := (bind_eq_ok_iff _ _ _).mp h
  cases h
  exact ⟨_, _, _, _, rfl, rfl, hhost, hport⟩

lemma readWithAuthority_eq_ok {cs : List Char} {u : Url}
    (h : readWithAuthority .web scheme cs = .ok u) :
    u.scheme = scheme ∧ (∃ path, u.path = segmentPath .web path) ∧ ∃ a, u.authority = some a ∧
      readAuthority .web scheme false (cs.takeWhile (!endsAuthority .web ·)) = .ok a := by
  unfold readWithAuthority at h
  dsimp only at h
  rw [readAuthority_final, bind_eq_ok_iff] at h
  obtain ⟨a, ha, h⟩ := h
  cases h
  exact ⟨rfl, ⟨_, rfl⟩, a, rfl, ha⟩

lemma origin?_of_significant (hscheme : IsWebScheme scheme) {text : String} {rest : List Char}
    (h : significant text.toList = scheme ++ ':' :: rest) :
    origin? text =
      (readAuthority .web scheme false (authorityText rest)).toOption.map (scheme, ·) := by
  unfold origin?
  rw [parse_of_significant hscheme h]
  unfold readWithAuthority authorityText
  dsimp only
  rw [readAuthority_final]
  cases readAuthority .web scheme false _ with
  | error e => rfl
  | ok a => rfl

lemma isSome_origin?_iff (hscheme : IsWebScheme scheme) {text : String} {rest : List Char}
    (h : significant text.toList = scheme ++ ':' :: rest) :
    (origin? text).isSome = true ↔ ∃ u, Url.parse text = .ok u := by
  unfold origin?
  cases hparse : Url.parse text with
  | error e =>
    refine iff_of_false Bool.false_ne_true ?_
    rintro ⟨u, hu⟩
    cases hu
  | ok u =>
    refine iff_of_true ?_ ⟨u, rfl⟩
    rw [parse_of_significant hscheme h] at hparse
    obtain ⟨-, -, a, ha, -⟩ := readWithAuthority_eq_ok hparse
    change (u.authority.map (u.scheme, ·)).isSome = true
    rw [ha]
    rfl

lemma authorityText_append {front : List Char} (h : ¬∀ c ∈ front, isSlash .web c = true)
    (rest : List Char) : authorityText (front ++ '/' :: rest) = authorityText front := by
  have hkept : front.dropWhile (isSlash .web) ≠ [] := by
    rwa [ne_eq, List.dropWhile_eq_nil_iff]
  have hstop : ('/' :: rest).takeWhile (!endsAuthority .web ·) = [] :=
    List.takeWhile_cons_of_neg (by decide)
  unfold authorityText
  rw [List.dropWhile_append, if_neg (by rwa [List.isEmpty_iff]), List.takeWhile_append, hstop,
    List.append_nil]
  split
  · rename_i hwhole
    exact ((List.takeWhile_prefix _).eq_of_length hwhole).symm
  · rfl

lemma authorityText_slashes {front : List Char} (h : ∀ c ∈ front, isSlash .web c = true)
    (rest : List Char) : authorityText (front ++ rest) = authorityText rest := by
  unfold authorityText
  rw [List.dropWhile_append_of_pos h]

end Reading

end SlackBridge.Proofs
