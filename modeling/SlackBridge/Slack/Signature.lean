import SlackBridge.Crypto.Hmac
import SlackBridge.Text.Blank
import SlackBridge.Text.Hex
import SlackBridge.Text.Numeral
import SlackBridge.Text.Pieces

/-!
Signed requests.

A request is signed with the authentication code of its timestamp and its body under a secret. The
timestamp must lie close enough to the clock, so that an old request cannot be sent again.
-/

namespace SlackBridge.Slack

/-- A secret text. It can be used but is not shown. -/
structure Secret where
  reveal : String
deriving DecidableEq, Inhabited

instance : ToString Secret := ⟨fun _ => "[REDACTED]"⟩

instance : Repr Secret := ⟨fun s _ => toString s⟩

def timestampHeader : String := "x-slack-request-timestamp"

def signatureHeader : String := "x-slack-signature"

/-- Why a request does not count as signed. -/
inductive Rejection
  | missingHeader (name : String)
  | malformedTimestamp (text : String)
  | staleTimestamp (age : Nat)
  | malformedSignature
  | mismatch
deriving DecidableEq, Repr

def Rejection.message : Rejection → String
  | .missingHeader name => "missing `" ++ name ++ "` header"
  | .malformedTimestamp text => "request timestamp `" ++ text ++ "` is not a unix timestamp"
  | .staleTimestamp age =>
    "request timestamp is " ++ toString age ++ "s away from server time"
  | .malformedSignature => "signature header is not a `v0=` hex digest"
  | .mismatch => "signature does not match request body"

/-- The secret that requests are signed with, and how many seconds they stay valid. -/
structure Verifier where
  secret : Secret
  maxAge : Nat
deriving DecidableEq, Repr

/-- What is signed: the version, the timestamp and the body, with colons between them. -/
def signedBytes (timestamp : String) (body : Bytes) : Bytes :=
  Text.utf8 "v0:" ++ Text.utf8 timestamp ++ Text.utf8 ":" ++ body

/-- The digest that a hexadecimal signature names. -/
def digest? (signature : String) : Option Bytes :=
  (Text.dropStart? "v0=" (Text.trim signature)).bind fun hex => Text.hexBytes? hex.toList

namespace Verifier

def digest (v : Verifier) (timestamp : String) (body : Bytes) : Bytes :=
  Crypto.Hmac.tag (Text.utf8 v.secret.reveal) (signedBytes timestamp body)

/-- The signature of a body sent at the given time. -/
def sign (v : Verifier) (timestamp : String) (body : Bytes) : String :=
  String.ofList ("v0=".toList ++ Text.hexChars (v.digest timestamp body))

/-- Checks the headers of a request against its body. `now` is the time of the server in seconds. -/
def verify (v : Verifier) (timestamp signature : Option String) (body : Bytes) (now : Int) :
    Except Rejection Unit := do
  let some timestamp := timestamp | throw (.missingHeader timestampHeader)
  let some signature := signature | throw (.missingHeader signatureHeader)
  let some issued := Text.integer? (Text.trim timestamp) | throw (.malformedTimestamp timestamp)
  let age := (now - issued).natAbs
  if age > v.maxAge then throw (.staleTimestamp age)
  let some digest := digest? signature | throw .malformedSignature
  if digest = v.digest (Text.trim timestamp) body then return () else throw .mismatch

end Verifier
end SlackBridge.Slack
