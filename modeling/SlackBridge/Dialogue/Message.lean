import SlackBridge.Json.Record

/-!
Messages of users on their way to the bot.
-/

namespace SlackBridge.Dialogue

open Json

/-- Where a message came from: the channel to answer in, the thread it belongs to, and the ids
under which the bot was addressed. -/
structure Metadata where
  outChannel : Option String
  threadId : Option String
  users : List String
deriving DecidableEq, Repr

/-- A message for the bot. The sender is the key of its conversation. -/
structure Message where
  text : String
  sender : String
  inputChannel : String
  metadata : Metadata
deriving DecidableEq, Repr

/-- Reads metadata. An object may leave out any field; an array gives at least the two ids. -/
def Metadata.decode : Decoder Metadata := fun t => do
  let r ← Record.read? ["out_channel", "thread_id", "users"] t
  if r.positional ∧ r.given.length < 2 then none
  else
    let outChannel ← r.optional "out_channel" .string
    let threadId ← r.optional "thread_id" .string
    let users ← r.withDefault "users" [] (.list .string)
    return ⟨outChannel, threadId, users⟩

def Metadata.value (m : Metadata) : Value :=
  .object [("out_channel", .ofText? m.outChannel), ("thread_id", .ofText? m.threadId),
    ("users", .array (m.users.map .string))]

end SlackBridge.Dialogue
