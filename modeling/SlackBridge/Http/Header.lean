import SlackBridge.Text.Ascii

/-!
Header fields: finding one by name, and the values that may be sent and read.
-/

namespace SlackBridge.Http

/-- The header fields of a message, in order. -/
abbrev Headers := List (String × String)

/-- Whether a value may be sent: it holds no control character other than a tab. -/
def isLegalValue (value : String) : Bool :=
  value.toList.all fun c => c == '\t' || (0x20 ≤ c.toNat && c.toNat != 0x7f)

/-- Whether a value reads as text: all of it is visible ASCII, blanks or tabs. -/
def isVisibleValue (value : String) : Bool :=
  value.toList.all fun c => c == '\t' || (0x20 ≤ c.toNat && c.toNat < 0x7f)

namespace Headers

/-- The value of the first field with the given name, which is in lower case. -/
def get? (hs : Headers) (name : String) : Option String :=
  (hs.find? fun (n, _) => Text.lowerAscii n == name).map Prod.snd

/-- The value of the first field with the given name if it reads as text. -/
def text? (hs : Headers) (name : String) : Option String :=
  (hs.get? name).filter isVisibleValue

end Headers
end SlackBridge.Http
