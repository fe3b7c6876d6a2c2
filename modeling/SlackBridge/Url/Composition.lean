import SlackBridge.Url.CombiningTable

/-!
The composed form of text.

Texts that show the same characters are spelled alike in it: every composite character is taken
apart, the marks on a character are put into the order of their classes, and then everything that
has a composite is composed again.
-/

namespace SlackBridge.Url

def isMark (c : Char) : Bool :=
  Text.holds CombiningTable.marks c

/-- The canonical combining class of a character; it is 0 for characters that start anew. -/
def combiningClass (c : Char) : Nat :=
  if c.toNat < 0x300 then 0 else Text.valueOf CombiningTable.classes c

/-- The two parts of a Korean syllable: a syllable without its final letter and that letter, or
the first letter and the vowel. -/
def syllableParts? (c : Char) : Option (Char × Char) :=
  let n := c.toNat
  if 0xac00 ≤ n ∧ n ≤ 0xd7a3 then
    let place := n - 0xac00
    if place % 28 = 0 then
      some (Char.ofNat (0x1100 + place / 588), Char.ofNat (0x1161 + place % 588 / 28))
    else some (Char.ofNat (n - place % 28), Char.ofNat (0x11a7 + place % 28))
  else none

/-- The Korean syllable with the given parts. -/
def syllable? (a b : Char) : Option Char :=
  let m := a.toNat
  let n := b.toNat
  if 0x1100 ≤ m ∧ m ≤ 0x1112 ∧ 0x1161 ≤ n ∧ n ≤ 0x1175 then
    some (Char.ofNat (0xac00 + (m - 0x1100) * 588 + (n - 0x1161) * 28))
  else if 0xac00 ≤ m ∧ m ≤ 0xd7a3 ∧ (m - 0xac00) % 28 = 0 ∧ 0x11a8 ≤ n ∧ n ≤ 0x11c2 then
    some (Char.ofNat (m + (n - 0x11a7)))
  else none

/-- The two parts of a composite character. -/
def parts? (c : Char) : Option (Char × Char) :=
  (syllableParts? c).or (CombiningTable.composites.findSome? fun
    | [whole, first, second] =>
      if whole = c.toNat then some (Char.ofNat first, Char.ofNat second) else none
    | _ => none)

/-- The composite of two characters. -/
def composite? (a b : Char) : Option Char :=
  if b.toNat < 0x300 then none
  else (syllable? a b).or (CombiningTable.composites.findSome? fun
    | [whole, first, second] =>
      if first = a.toNat ∧ second = b.toNat then some (Char.ofNat whole) else none
    | _ => none)

/-- Takes a character apart, and the first part again as often as `depth` says. -/
def takeApart : (depth : Nat) → Char → List Char
  | 0, c => [c]
  | depth + 1, c =>
    match parts? c with
    | some (a, b) => takeApart depth a ++ [b]
    | none => [c]

/-- All parts of a character, of which there are four at most. -/
def decomposed (c : Char) : List Char :=
  if c.toNat < 0x80 then [c] else takeApart 3 c

/-- Puts a mark before the first one of its class or a higher one. -/
def insertMark (c : Char) : List Char → List Char
  | [] => [c]
  | d :: rest =>
    if combiningClass d ≠ 0 ∧ combiningClass d < combiningClass c then d :: insertMark c rest
    else c :: d :: rest

/-- Puts the marks on each character into the order of their classes. -/
def orderMarks (cs : List Char) : List Char :=
  cs.foldr insertMark []

/-- Composes the character `start` with what follows. The marks that stay apart from it are held,
the latest first, until another character starts. -/
def composeFrom (start : Char) (held : List Char) : List Char → List Char
  | [] => start :: held.reverse
  | c :: rest =>
    let isBlocked := held.head?.any fun mark => combiningClass c ≤ combiningClass mark
    match if isBlocked then none else composite? start c with
    | some both => composeFrom both held rest
    | none =>
      if combiningClass c = 0 then start :: (held.reverse ++ composeFrom c [] rest)
      else composeFrom start (c :: held) rest

/-- The composed form of a text. -/
def composed (cs : List Char) : List Char :=
  match orderMarks (cs.flatMap decomposed) with
  | [] => []
  | c :: rest => composeFrom c [] rest

end SlackBridge.Url
