import SlackBridge.Json.Value

/-!
Posts: the fields of a call that posts a message to a channel.
-/

namespace SlackBridge.Slack

open Json

/-- The fields of one post. There is at most one for each key. -/
structure Post where
  fields : Members
deriving Repr

namespace Post

def empty : Post := ⟨[]⟩

/-- A post to a channel, made as the bot's user. -/
def toChannel (channel : String) : Post :=
  ⟨[("channel", .string channel), ("as_user", .bool true)]⟩

def withField (p : Post) (key : String) (v : Value) : Post :=
  ⟨Members.put key v p.fields⟩

/-- Puts further fields in place of those with the same keys. -/
def withFields (p : Post) (more : Members) : Post :=
  ⟨Members.putAll p.fields more⟩

/-- Puts the post in a thread, if one is given. -/
def inThread (p : Post) (thread : Option String) : Post :=
  match thread with
  | some t => p.withField "thread_ts" (.string t)
  | none => p

def get? (p : Post) (key : String) : Option Value :=
  Members.get? key p.fields

/-- The channel that the post names, if it names one by a string. -/
def channel? (p : Post) : Option String :=
  (p.get? "channel").bind Value.string?

end Post
end SlackBridge.Slack
