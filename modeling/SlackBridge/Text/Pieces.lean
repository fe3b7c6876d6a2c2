/-!
Cutting texts into pieces at a separator. The pieces with the separator between them are the
text again.
-/

namespace SlackBridge.Text

/-- The pieces between the characters that satisfy `sep`; always at least one. -/
def splitAtChar (sep : Char → Bool) : List Char → List (List Char)
  | [] => [[]]
  | c :: cs =>
    if sep c then [] :: splitAtChar sep cs
    else match splitAtChar sep cs with
      | [] => [[c]]
      | piece :: rest => (c :: piece) :: rest

/-- The pieces between pairs of line feeds, found from the left; `piece` holds the characters
of the current one in reverse. -/
def paragraphsFrom (piece : List Char) : List Char → List (List Char)
  | '\n' :: '\n' :: cs => piece.reverse :: paragraphsFrom [] cs
  | c :: cs => paragraphsFrom (c :: piece) cs
  | [] => [piece.reverse]

/-- The pieces of a text between empty lines. -/
def paragraphs (cs : List Char) : List (List Char) :=
  paragraphsFrom [] cs

/-- What follows the given start, if the text has it. -/
def dropStart? (start : String) (s : String) : Option String :=
  if start.toList.isPrefixOf s.toList then some (String.ofList (s.toList.drop start.length))
  else none

def hasStart (start : String) (s : String) : Bool :=
  start.toList.isPrefixOf s.toList

end SlackBridge.Text
