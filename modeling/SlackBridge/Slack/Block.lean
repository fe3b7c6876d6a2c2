import SlackBridge.Dialogue.Reply

/-!
Blocks: the building pieces of a rich message, and the messages that the bridge builds from them.
-/

namespace SlackBridge.Slack

open Json Dialogue

/-- A text, shown as it is or with markup. -/
inductive TextObject
  | plain (text : String)
  | markup (text : String)
deriving DecidableEq, Repr

def TextObject.value : TextObject → Value
  | .plain text => .object [("type", .string "plain_text"), ("text", .string text)]
  | .markup text => .object [("type", .string "mrkdwn"), ("text", .string text)]

/-- A button that sends its value back when it is pressed. -/
structure ButtonElement where
  actionId : String
  label : String
  value : Option String
deriving DecidableEq, Repr

def ButtonElement.toValue (b : ButtonElement) : Value :=
  .object ([("type", .string "button"), ("action_id", .string b.actionId),
    ("text", (TextObject.plain b.label).value)] ++
      b.value.toList.map fun v => ("value", .string v))

inductive Block
  | textSection (id : String) (text : TextObject)
  | actions (id : String) (elements : List ButtonElement)
  | image (id url altText : String)
deriving DecidableEq, Repr

def Block.value : Block → Value
  | .textSection id text =>
    .object [("type", .string "section"), ("block_id", .string id), ("text", text.value)]
  | .actions id elements =>
    .object [("type", .string "actions"), ("block_id", .string id),
      ("elements", .array (elements.map ButtonElement.toValue))]
  | .image id url altText =>
    .object [("type", .string "image"), ("block_id", .string id), ("image_url", .string url),
      ("alt_text", .string altText)]

/-- A message of blocks, with a text for where blocks are not shown. -/
structure Template where
  fallback : String
  blocks : List Block
deriving DecidableEq, Repr

namespace Template

def blockValues (t : Template) : Value :=
  .array (t.blocks.map Block.value)

/-- The fields of a post that carry the message. -/
def fields (t : Template) : Members :=
  [("text", .string t.fallback), ("blocks", t.blockValues)]

/-- The most buttons that one message can hold. -/
def maxButtons : Nat := 5

/-- The button elements for a list of buttons, numbered from `index`. -/
def buttonElements (index : Nat) : List Button → List ButtonElement
  | [] => []
  | b :: rest =>
    ⟨"parley.button." ++ toString index, b.title, some b.payload⟩ :: buttonElements (index + 1) rest

/-- A question with a button for each answer. -/
def ofButtons (text : String) (buttons : List Button) : Template where
  fallback := text
  blocks :=
    [.textSection "parley.prompt.v1" (.plain text),
      .actions "parley.buttons.v1" (buttonElements 0 buttons)]

def ofImage (url : String) : Template :=
  ⟨url, [.image "parley.image.v1" url url]⟩

end Template
end SlackBridge.Slack
