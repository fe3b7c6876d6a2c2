/-!
Blank characters and trimming.

A character is blank when it has the Unicode property White_Space. Trimming removes blank
characters from both ends and nothing else.
-/

namespace SlackBridge.Text

/-- The characters with the Unicode property White_Space. -/
def isBlank (c : Char) : Bool :=
  let n := c.toNat
  (9 ≤ n && n ≤ 13) || n == 0x20 || n == 0x85 || n == 0xa0 || n == 0x1680 ||
    (0x2000 ≤ n && n ≤ 0x200a) || n == 0x2028 || n == 0x2029 || n == 0x202f ||
    n == 0x205f || n == 0x3000

/-- Drops blank characters at the end. -/
def dropBlankEnd (cs : List Char) : List Char :=
  (cs.reverse.dropWhile isBlank).reverse

/-- Drops blank characters at both ends. -/
def trimChars (cs : List Char) : List Char :=
  dropBlankEnd (cs.dropWhile isBlank)

def trim (s : String) : String :=
  String.ofList (trimChars s.toList)

/-- A text without any character that is not blank. -/
def isBlankText (s : String) : Bool :=
  s.toList.all isBlank

/-- The trimmed text, or nothing if the text is blank. -/
def trimmed? (s : String) : Option String :=
  if isBlankText s then none else some (trim s)

end SlackBridge.Text
