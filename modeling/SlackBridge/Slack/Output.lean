import SlackBridge.Dialogue.Delivery
import SlackBridge.Slack.Block
import SlackBridge.Slack.Inbox
import SlackBridge.Slack.WebApi

/-!
Replies as posts.

Each part of a reply becomes a list of posts to its destination. A custom payload keeps all of its
own fields and only gains those that it lacks.
-/

namespace SlackBridge.Slack

open Json Dialogue

namespace Destination

/-- The channel that a post for the given recipient goes to. -/
def channelFor (d : Destination) (recipient : String) : String :=
  d.channel.getD recipient

/-- A post for the given recipient, without content. -/
def post (d : Destination) (recipient : String) : Post :=
  (Post.toChannel (d.channelFor recipient)).inThread d.thread

/-- The pieces that a text is posted in: its paragraphs, without the blank ones. -/
def textPieces (text : String) : List String :=
  ((Text.paragraphs (Text.trimChars text.toList)).filter (!·.all Text.isBlank)).map String.ofList

def textPost (d : Destination) (recipient piece : String) : Post :=
  ((d.post recipient).withField "text" (.string piece)).withField "type" (.string "mrkdwn")

def textPosts (d : Destination) (recipient text : String) : List Post :=
  (textPieces text).map (d.textPost recipient)

def templatePost (d : Destination) (recipient : String) (t : Template) : Post :=
  (d.post recipient).withFields t.fields

/-- The post that a custom payload asks for. -/
def customPost (d : Destination) (recipient : String) (payload : Members) : Post :=
  let fields := Members.putIfAbsent "channel" (.string (d.channelFor recipient)) payload
  let fields := Members.putIfAbsent "as_user" (.bool true) fields
  ⟨match d.thread with
    | some t => Members.putIfAbsent "thread_ts" (.string t) fields
    | none => fields⟩

/-- The posts that a part is made of. -/
def posts (d : Destination) (recipient : String) : Part → Except Failure (List Post)
  | .text text => .ok (d.textPosts recipient text)
  | .image url => .ok [d.templatePost recipient (.ofImage url)]
  | .attachment v => .ok [(d.post recipient).withField "attachments" (.array [v])]
  | .buttons text choices =>
    if choices.length > Template.maxButtons then .ok (d.textPosts recipient text)
    else .ok [d.templatePost recipient (.ofButtons text choices)]
  | .custom (.object payload) => .ok [d.customPost recipient payload]
  | .custom _ => .error (.invalidPayload "custom slack payload must be a JSON object")

/-- What is logged before a part is posted. -/
def notices : Part → List Log.Event
  | .buttons _ choices =>
    if choices.length > Template.maxButtons then
      [.tooManyButtons choices.length Template.maxButtons]
    else []
  | _ => []

/-- Makes one post of a reply. -/
def sendPost (d : Destination) (post : σ → Post → Called σ Posted) (s : σ) (p : Post) :
    Outcome σ Failure :=
  let called := post s p
  match called.result with
  | .ok posted =>
    ⟨called.state, called.log ++ [.replyPosted posted.channel (d.thread.getD "")], none⟩
  | .error e => ⟨called.state, called.log, some e.failure⟩

/-- Sends a part to its recipient by way of `post`. -/
def send (d : Destination) (post : σ → Post → Called σ Posted) (s : σ) (sending : Sending) :
    Outcome σ Failure :=
  match d.posts sending.recipient sending.part with
  | .error e => ⟨s, [], some e⟩
  | .ok posts => (runAll (d.sendPost post) posts s).after (notices sending.part)

end Destination
end SlackBridge.Slack
