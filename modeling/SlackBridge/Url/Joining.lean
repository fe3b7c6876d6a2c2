import SlackBridge.Url.Composition
import SlackBridge.Url.JoiningTable

/-!
Joiners and their opposites in domain names. They cannot be seen, so a label may hold one only
where it changes how its neighbours are written.
-/

namespace SlackBridge.Url

/-- Whether a character silences the vowel of the letter before it. -/
def isVirama (c : Char) : Bool :=
  combiningClass c == 9

/-- The first character that takes part in joining. -/
def firstJoining? (cs : List Char) : Option Char :=
  (cs.dropWhile (Text.holds JoiningTable.transparent)).head?

def joinsNext (c : Char) : Bool :=
  Text.holds JoiningTable.left c || Text.holds JoiningTable.dual c

def joinsPrevious (c : Char) : Bool :=
  Text.holds JoiningTable.right c || Text.holds JoiningTable.dual c

/-- Whether a character may stand between what is before it, the nearest first, and what is after
it. A joiner stands after a virama; a non-joiner may also keep two letters apart. -/
def isPlaced (before : List Char) (c : Char) (after : List Char) : Bool :=
  if c == '\u200d' then before.head?.any isVirama
  else if c == '\u200c' then
    before.head?.any isVirama
      || ((firstJoining? before).any joinsNext && (firstJoining? after).any joinsPrevious)
  else true

/-- Whether all joiners of a label are placed well, given what is before it in reverse. -/
def areJoinersPlaced (before : List Char) : List Char → Bool
  | [] => true
  | c :: after => isPlaced before c after && areJoinersPlaced (c :: before) after

end SlackBridge.Url
