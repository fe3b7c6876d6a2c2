import SlackBridge.Url.DirectionTable

/-!
The direction of writing in domain names.

A name with a label that is written from right to left stays readable only if no label of it mixes
the two directions and each one begins and ends with characters that show its own.
-/

namespace SlackBridge.Url

/-- How the characters of a name are written. -/
inductive Direction
  | left
  | right
  | european
  | arabic
  | mark
  | neutral
deriving DecidableEq, Repr

/-- The direction of a character that a domain name may hold. -/
def direction (c : Char) : Direction :=
  if c.toNat < 0x80 then
    if Text.isAsciiAlpha c then .left else if Text.isAsciiDigit c then .european else .neutral
  else if Text.holds DirectionTable.right c then .right
  else if Text.holds DirectionTable.european c then .european
  else if Text.holds DirectionTable.arabic c then .arabic
  else if Text.holds DirectionTable.marks c then .mark
  else if Text.holds DirectionTable.neutral c then .neutral
  else .left

/-- Whether a label has characters written from right to left, or Arabic digits. -/
def turns (label : List Char) : Bool :=
  label.any fun c => direction c == .right || direction c == .arabic

/-- Whether a label keeps to the direction of its first character up to its end. The marks at its
end count as parts of the character before them. -/
def keepsDirection (label : List Char) : Bool :=
  let directions := label.map direction
  let last := (directions.reverse.dropWhile (· == .mark)).head?
  match directions.head? with
  | none => true
  | some .left =>
    directions.all (fun d => d != .right && d != .arabic)
      && [some .left, some .european].contains last
  | some .right =>
    !directions.contains .left && [some .right, some .european, some .arabic].contains last
      && !(directions.contains .european && directions.contains .arabic)
  | some _ => false

/-- Whether the labels of a name can be read in one direction each. -/
def areReadable (labels : List (List Char)) : Bool :=
  !labels.any turns || labels.all keepsDirection

end SlackBridge.Url
