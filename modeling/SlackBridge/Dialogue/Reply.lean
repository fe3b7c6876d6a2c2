import SlackBridge.Json.Record

/-!
Replies of the bot: what they may hold, how they are written, and when they hold nothing.
-/

namespace SlackBridge.Dialogue

open Json

structure Button where
  title : String
  payload : String
deriving DecidableEq, Repr

/-- One reply to a message. Every part is optional. -/
structure Reply where
  recipient : Option String
  text : Option String
  image : Option String
  buttons : List Button
  attachment : Option Value
  custom : Option Value
  elements : List Value
deriving Repr

namespace Reply

def empty : Reply := ⟨none, none, none, [], none, none, []⟩

/-- A reply with nothing but a text. -/
def ofText (s : String) : Reply := { empty with text := some s }

/-- Whether there is nothing to send. -/
def isEmpty (r : Reply) : Bool :=
  r.text.all (· == "") && r.image.isNone && r.buttons.isEmpty && r.attachment.isNone &&
    r.custom.isNone && r.elements.isEmpty

end Reply

def Button.decode : Decoder Button := fun t => do
  let r ← Record.read? ["title", "payload"] t
  let title ← r.required "title" .string
  let payload ← r.required "payload" .string
  return ⟨title, payload⟩

def Button.value (b : Button) : Value :=
  .object [("title", .string b.title), ("payload", .string b.payload)]

namespace Reply

def fieldNames : List String :=
  ["recipient_id", "text", "image", "buttons", "attachment", "custom", "elements"]

/-- Reads a reply at the given level of a document. The values it keeps lie one level deeper, the
elements two. -/
def decodeAt (level : Nat) : Decoder Reply := fun t => do
  let r ← Record.read? fieldNames t
  let keep := Tree.keep? (maxDepth - level)
  let recipient ← r.optional "recipient_id" .string
  let text ← r.optional "text" .string
  let image ← r.optional "image" .string
  let buttons ← r.withDefault "buttons" [] (.list Button.decode)
  let attachment ← r.optional "attachment" keep
  let custom ← r.optional "custom" keep
  let elements ← r.withDefault "elements" [] (.list (Tree.keep? (maxDepth - level - 1)))
  return ⟨recipient, text, image, buttons, attachment, custom, elements⟩

/-- Reads a reply that is a document of its own. -/
def decode : Decoder Reply := decodeAt 1

/-- Reads the list of replies that a bot answers with. -/
def decodeList : Decoder (List Reply) := .list (decodeAt 2)

/-- A member unless it is absent. -/
def member? (key : String) (value : α → Value) : Option α → Members
  | some a => [(key, value a)]
  | none => []

/-- A member unless the list is empty. -/
def listMember? (key : String) (value : α → Value) : List α → Members
  | [] => []
  | items => [(key, .array (items.map value))]

/-- The written form of a reply, without what it does not hold. -/
def value (r : Reply) : Value :=
  .object (member? "recipient_id" .string r.recipient ++ member? "text" .string r.text ++
    member? "image" .string r.image ++ listMember? "buttons" Button.value r.buttons ++
    member? "attachment" id r.attachment ++ member? "custom" id r.custom ++
    listMember? "elements" id r.elements)

end Reply
end SlackBridge.Dialogue
