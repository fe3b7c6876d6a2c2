import SlackBridge.Text.Ascii
import SlackBridge.Text.Blank

/-!
Conversations: how finely the dialogue with a user is divided, and the key of each part.

A missing or empty channel or thread leaves the key at the coarser scope.
-/

namespace SlackBridge.Dialogue

/-- The scope of one conversation of a user: everywhere, in one channel, or in one thread. -/
inductive Granularity
  | sender
  | channel
  | thread
deriving DecidableEq, Repr, Inhabited

namespace Granularity

def name : Granularity → String
  | .sender => "sender"
  | .channel => "channel"
  | .thread => "thread"

def ofName? : String → Option Granularity
  | "sender" => some .sender
  | "channel" => some .channel
  | "thread" => some .thread
  | _ => none

/-- The name as it is compared: trimmed and in lower case. -/
def normalName (s : String) : String :=
  Text.lowerAscii (Text.trim s)

/-- Reads a name with any case and surrounding blanks. -/
def read? (s : String) : Option Granularity :=
  ofName? (normalName s)

theorem ofName?_name (g : Granularity) : ofName? g.name = some g := by
  cases g <;> rfl

end Granularity

/-- A text that is neither missing nor empty. -/
def present? (s : Option String) : Option String :=
  s.filter (· ≠ "")

/-- The key of the conversation of a sender in a channel and a thread. -/
def conversationKey (g : Granularity) (sender : String) (channel thread : Option String) :
    String :=
  match g, present? channel, present? thread with
  | .sender, _, _ => sender
  | _, none, _ => sender
  | .thread, some c, some t => sender ++ "_" ++ c ++ "_" ++ t
  | _, some c, _ => sender ++ "_" ++ c

end SlackBridge.Dialogue
