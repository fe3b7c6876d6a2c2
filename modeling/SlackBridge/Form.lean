import SlackBridge.Url.Percent

/-!
Form bodies: fields between ampersands, each a name and a value around the first equals sign.

A plus sign stands for a blank, `%` with two digits for a byte, and the bytes are read as UTF-8.
-/

namespace SlackBridge.Form

/-- The pieces between ampersands, in reverse; `piece` holds the bytes of the current one in
reverse. -/
def splitFrom (done : List Bytes) (piece : Bytes) : Bytes → List Bytes
  | [] => piece.reverse :: done
  | b :: rest =>
    if b = 0x26 then splitFrom (piece.reverse :: done) [] rest else splitFrom done (b :: piece) rest

/-- The text of an encoded name or value. -/
def decodeText (bytes : Bytes) : String :=
  Text.lossyText (Url.percentDecode (bytes.map fun b => if b = 0x2b then 0x20 else b))

/-- The name and the value of one piece. -/
def field (piece : Bytes) : String × String :=
  (decodeText (piece.takeWhile (· ≠ 0x3d)), decodeText ((piece.dropWhile (· ≠ 0x3d)).drop 1))

/-- The fields of a form body in order. Empty pieces are no fields. -/
def fields (body : Bytes) : List (String × String) :=
  ((splitFrom [] [] body).reverse.filter (· ≠ [])).map field

/-- The value of the first field with the given name. -/
def value? (name : String) (body : Bytes) : Option String :=
  (fields body).lookup name

/-- How a byte stands in an encoded text: letters, digits and `*-._` as they are. -/
def encodeByte (b : UInt8) : List Char :=
  let c := Char.ofNat b.toNat
  if b < 0x80 ∧ (Text.isAsciiAlphanumeric c ∨ "*-._".toList.contains c) then [c]
  else if b = 0x20 then ['+']
  else Url.percentByte b

def encodeText (s : String) : List Char :=
  (Text.utf8 s).flatMap encodeByte

/-- The body of a form with the given fields. -/
def encode (fields : List (String × String)) : String :=
  let pieces := fields.map fun (name, value) => encodeText name ++ '=' :: encodeText value
  String.ofList (['&'].intercalate pieces)

end SlackBridge.Form
