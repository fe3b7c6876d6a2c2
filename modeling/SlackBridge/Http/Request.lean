import SlackBridge.Http.Header
import SlackBridge.Json.Printer
import SlackBridge.Json.Record
import SlackBridge.Url.Parse

/-!
Outgoing requests.

A request is built before it is sent: its URL must name a host of the web that can be written in a
request, and its header values must be legal. What comes of sending it is up to the wire, which is
a parameter of everything that sends.
-/

namespace SlackBridge.Http

open Json

/-- A POST request with an optional JSON body, sent through a proxy if one is given. -/
structure Request where
  url : String
  headers : Headers
  body : Option Value
  proxy : Option String
  timeoutMs : Nat

/-- An answer. `complete` says whether all of its body arrived. -/
structure Response where
  status : Nat
  headers : Headers
  body : Bytes
  complete : Bool

/-- What can come of sending a request. -/
inductive Exchange
  | refused
  | timedOut
  | closed
  | answered (r : Response)

/-- How requests are carried out; the state is whatever an exchange may depend on. -/
abbrev Wire (σ : Type) := σ → Request → Exchange × σ

/-- Why a request has no usable answer. -/
inductive Failure
  | unbuildable
  | unsupportedUrl (url : Url)
  | refused (url : Url)
  | timedOut (url : Url)
  | closed (url : Url)
  | unreadable
deriving DecidableEq, Repr

namespace Failure

def message : Failure → String
  | .unbuildable => "builder error"
  | .unsupportedUrl url => "builder error for url (" ++ url.text ++ ")"
  | .refused url | .timedOut url | .closed url =>
    "error sending request for url (" ++ url.text ++ ")"
  | .unreadable => "error decoding response body"

/-- Whether the same request may well succeed later: no connection was made or no answer came in
time. -/
def isTransient : Failure → Bool
  | .refused _ | .timedOut _ => true
  | _ => false

end Failure

/-- The schemes that requests can be sent over. -/
def requestSchemes : List (List Char) := ["http".toList, "https".toList]

/-- A URL as it is sent. The user in it, if it is readable, goes into a header instead. -/
def sentUrl (url : Url) : Url :=
  match url.authority with
  | none => url
  | some a =>
    let text? (encoded : List Char) : Option String :=
      Text.text? (Url.percentDecode (Text.utf8 (String.ofList encoded)))
    match text? a.username with
    | none => url
    | some user =>
      if user ≠ "" ∨ (a.password ≠ [] ∧ (text? a.password).isSome) then url.withoutUser else url

/-- Whether a character may stand in the host of a request. A URL may hold quotation marks, grave
accents and braces there, a request may not. -/
def isHostChar (c : Char) : Bool :=
  Text.isAsciiAlphanumeric c || "-._~!$&'()*+,;=:[]".toList.contains c

/-- The length of the longest URL of a request, in bytes. -/
def urlLimit : Nat := 65534

/-- Whether a request can be sent to a URL. The user in it and all that follows the host may stand
in a request as they are. -/
def isSendable (url : Url) : Bool :=
  requestSchemes.contains url.scheme
    && (url.authority.any fun a => a.host.chars.all isHostChar)
    && url.text.utf8ByteSize ≤ urlLimit

namespace Request

/-- The URL to send a request to, if it can be sent at all. That there is a host is looked at
before the header values, and the rest of the URL after them. -/
def target (r : Request) : Except Failure Url :=
  match Url.parse r.url with
  | .error _ => .error .unbuildable
  | .ok url =>
    if !url.hasHost then .error (.unsupportedUrl url)
    else if !(r.headers.all fun (_, value) => isLegalValue value) then .error .unbuildable
    else if isSendable (sentUrl url) then .ok (sentUrl url)
    else .error (.unsupportedUrl (sentUrl url))

end Request

/-- Sends a request once. -/
def send (wire : Wire σ) (s : σ) (r : Request) : Except Failure Response × σ :=
  match r.target with
  | .error e => (.error e, s)
  | .ok url =>
    match wire s r with
    | (.refused, s) => (.error (.refused url), s)
    | (.timedOut, s) => (.error (.timedOut url), s)
    | (.closed, s) => (.error (.closed url), s)
    | (.answered response, s) => (.ok response, s)

namespace Response

def isSuccess (r : Response) : Bool :=
  200 ≤ r.status && r.status < 300

/-- The body read as a JSON document. -/
def json? (r : Response) (decode : Decoder α) : Option α :=
  if r.complete then (Tree.read? r.body).bind decode else none

/-- The body as text, or nothing if it did not arrive. -/
def text (r : Response) : String :=
  if r.complete then Text.lossyText r.body else ""

end Response

/-- Whether a text names a proxy. A scheme may be left out. -/
def isProxy (proxy : String) : Bool :=
  let hasHost (s : String) : Bool :=
    match Url.parse s with
    | .ok url => url.hasHost
    | .error _ => false
  match Url.parse proxy with
  | .ok url => url.hasHost || hasHost ("http://" ++ proxy)
  | .error .relative => hasHost ("http://" ++ proxy)
  | .error _ => false

end SlackBridge.Http
