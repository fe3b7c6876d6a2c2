import SlackBridge.Text.Utf8
import SlackBridge.Url.Direction
import SlackBridge.Url.DomainTable
import SlackBridge.Url.Joining
import SlackBridge.Url.Punycode

/-!
Domain names in ASCII.

Every character is first replaced by its image and the result is composed; then each label that
still holds a character beyond ASCII is spelled in Punycode. A label that is already in Punycode
must spell one that this process would leave alone.
-/

namespace SlackBridge.Url

/-- The image of a character beyond ASCII. -/
def foreignImage? (c : Char) : Option (List Char) :=
  let n := c.toNat
  if Text.holds DomainTable.refused c then none
  else if Text.holds DomainTable.dropped c then some []
  else
    let shift := DomainTable.shifted.findSome? fun
      | [first, last, stride, image] =>
        if first ≤ n ∧ n ≤ last ∧ (n - first) % stride = 0 then some (image + (n - first)) else none
      | _ => none
    match shift with
    | some m => some [Char.ofNat m]
    | none =>
      match DomainTable.spelledOut.find? (·.head? == some n) with
      | some row => some (row.tail.map Char.ofNat)
      | none => some [c]

/-- What a character of a domain name stands for; nothing if it may not occur in one. -/
def image? (c : Char) : Option (List Char) :=
  if c.toNat < 128 then some [c.toLower] else foreignImage? c

def isAsciiLabel (label : List Char) : Bool :=
  label.all (·.toNat < 128)

/-- Whether a label beyond ASCII is in the form that images and composition produce. -/
def isForeignLabel (label : List Char) : Bool :=
  !label.head?.any isMark && areJoinersPlaced [] label
    && label.all (fun c => image? c == some [c]) && composed label == label

/-- The length of the longest label that is spelled in Punycode. -/
def foreignLimit : Nat := 1000

/-- The length of the longest Punycode that is read. -/
def punycodeLimit : Nat := 2000

/-- The label that Punycode spells, which has a character beyond ASCII. -/
def spelledLabel? (punycode : List Char) : Option (List Char) := do
  if punycode.length ≤ punycodeLimit ∧ isAsciiLabel punycode then
    let label ← Punycode.decode? punycode
    if !isAsciiLabel label && isForeignLabel label && Punycode.encode label == punycode then
      return label
    else none
  else none

/-- The label as it is read, out of Punycode if it is in it. -/
def readLabel? (label : List Char) : Option (List Char) :=
  match label with
  | 'x' :: 'n' :: '-' :: '-' :: punycode => spelledLabel? punycode
  | label =>
    if isAsciiLabel label || (label.length ≤ foreignLimit && isForeignLabel label) then some label
    else none

/-- The ASCII form of a label. -/
def writeLabel (label : List Char) : List Char :=
  if isAsciiLabel label then label else 'x' :: 'n' :: '-' :: '-' :: Punycode.encode label

/-- ASCII characters that no domain name holds. -/
def isForbidden (c : Char) : Bool :=
  c.toNat ≤ 0x20 || c == '\x7f' || "%#/:<>?@[\\]^|".toList.contains c

/-- The ASCII form of a domain name given by its bytes. -/
def domain? (bytes : Bytes) : Option (List Char) := do
  let text ← Text.text? bytes
  let images ← text.toList.mapM image?
  let name := composed images.flatten
  if name.any isForbidden then none
  else
    let labels ← (Text.splitAtChar (· == '.') name).mapM readLabel?
    if areReadable labels then return ['.'].intercalate (labels.map writeLabel) else none

end SlackBridge.Url
