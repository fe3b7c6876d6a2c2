import SlackBridge.Url.Basic
import SlackBridge.Url.Domain
import SlackBridge.Url.Percent

/-!
Reading URLs.

Control characters and blanks around the text and all tabs and line breaks are dropped. The
schemes of the web need an authority, whatever slashes introduce it, and treat a backslash like a
slash; every other scheme has one only after two slashes.
-/

namespace SlackBridge.Url

/-- The kinds of scheme that read differently. -/
inductive SchemeKind
  | web
  | file
  | other
deriving DecidableEq, Repr

def webSchemes : List String := ["http", "https", "ws", "wss", "ftp"]

def schemeKind (scheme : List Char) : SchemeKind :=
  let name := String.ofList scheme
  if webSchemes.contains name then .web else if name = "file" then .file else .other

def defaultPort? (scheme : List Char) : Option Nat :=
  match String.ofList scheme with
  | "http" | "ws" => some 80
  | "https" | "wss" => some 443
  | "ftp" => some 21
  | _ => none

def isSchemeChar (c : Char) : Bool :=
  Text.isAsciiAlphanumeric c || c == '+' || c == '-' || c == '.'

/-- The lower-case scheme and what follows its colon. -/
def splitScheme? (cs : List Char) : Option (List Char × List Char) :=
  if cs.head?.any Text.isAsciiAlpha then
    match cs.dropWhile isSchemeChar with
    | ':' :: rest => some ((cs.takeWhile isSchemeChar).map Char.toLower, rest)
    | _ => none
  else none

def isSlash (kind : SchemeKind) (c : Char) : Bool :=
  c == '/' || (c == '\\' && kind != .other)

/-- Whether a character ends the authority. -/
def endsAuthority (kind : SchemeKind) (c : Char) : Bool :=
  isSlash kind c || c == '?' || c == '#'

def fragmentSet : List Char := [' ', '"', '<', '>', '`']

def pathSet : List Char := fragmentSet ++ ['#', '?', '{', '}']

def userSet : List Char := pathSet ++ ['/', ':', ';', '=', '@', '[', '\\', ']', '^', '|']

def querySet (kind : SchemeKind) : List Char :=
  [' ', '"', '#', '<', '>'] ++ (if kind = .other then [] else ['\''])

/-- The text before the last `@`, if there is one, and the text after it. -/
def cutUser (cs : List Char) : Option (List Char) × List Char :=
  let after := (cs.reverse.takeWhile (· ≠ '@')).reverse
  if after.length < cs.length then (some (cs.take (cs.length - after.length - 1)), after)
  else (none, cs)

/-- Splits the text before a port: a colon inside brackets is not a separator. -/
def cutHost (inside : Bool) : List Char → List Char × List Char
  | [] => ([], [])
  | c :: rest =>
    if c = ':' ∧ !inside then ([], c :: rest)
    else
      let inside := if c = '[' then true else if c = ']' then false else inside
      let (host, after) := cutHost inside rest
      (c :: host, after)

/-- A bracketed host, or nothing if the text has no bracket in front. -/
def bracketed? (cs : List Char) : Option (Except ParseError Host) :=
  match cs with
  | '[' :: rest =>
    some (if rest.getLast? = some ']' then
      match ipv6? rest.dropLast with
      | some pieces => .ok (.ipv6 pieces)
      | none => .error .invalidIpv6
    else .error .invalidIpv6)
  | _ => none

/-- The host of a scheme of the web: a domain name or a numeric address. -/
def webHost (cs : List Char) : Except ParseError Host :=
  match bracketed? cs with
  | some host => host
  | none =>
    match domain? (percentDecode (Text.utf8 (String.ofList cs))) with
    | none => .error .invalidDomain
    | some [] => .error .emptyHost
    | some name =>
      if endsInNumber name then
        match ipv4? name with
        | some address => .ok (.ipv4 address)
        | none => .error .invalidIpv4
      else .ok (.name name)

def isOpaqueForbidden (c : Char) : Bool :=
  "\x00\t\n\x0d #/:<>?@[\\]^|".toList.contains c

/-- The host of any other scheme, which is kept as it is. -/
def opaqueHost (cs : List Char) : Except ParseError Host :=
  match bracketed? cs with
  | some host => host
  | none =>
    if cs.any isOpaqueForbidden then .error .invalidHostCharacter
    else .ok (.name (percentEncode [] cs))

/-- The port after the colon; the default port of the scheme counts as none. -/
def readPort (scheme digits : List Char) : Except ParseError (Option Nat) :=
  if digits.all Text.isAsciiDigit then
    let n := (radixValue? 10 digits).getD 0
    if n > 65535 then .error .invalidPort
    else .ok (if digits = [] ∨ defaultPort? scheme = some n then none else some n)
  else .error .invalidPort

/-- Reads an authority; `final` says that nothing follows it. Only a scheme outside the web may
leave the host out, and then there is neither user nor port. -/
def readAuthority (kind : SchemeKind) (scheme : List Char) (final : Bool) (cs : List Char) :
    Except ParseError Authority := do
  let (user?, rest) := cutUser cs
  let user := user?.getD []
  let username := percentEncode userSet (user.takeWhile (· ≠ ':'))
  let password := percentEncode userSet ((user.dropWhile (· ≠ ':')).drop 1)
  let (hostText, after) := cutHost false rest
  if rest = [] ∧ user? = some [] ∧ !final then .error .emptyHost
  else if kind = .web ∧ hostText = [] then .error .emptyHost
  else
    let host ← if kind = .other then opaqueHost hostText else webHost hostText
    if host = .name [] ∧ (after ≠ [] ∨ username ≠ [] ∨ password ≠ []) then .error .emptyHost
    else
      let port ← readPort scheme (after.drop 1)
      return ⟨username, password, host, port⟩

def isSingleDot (segment : List Char) : Bool :=
  ["." , "%2e"].contains (String.ofList (segment.map Char.toLower))

def isDoubleDot (segment : List Char) : Bool :=
  ["..", "%2e.", ".%2e", "%2e%2e"].contains (String.ofList (segment.map Char.toLower))

/-- Resolves dots among the segments of a path. The segments before are in reverse; a dot at the
end leaves an empty segment. -/
def resolveDots (done : List (List Char)) : List (List Char) → List (List Char)
  | [] => done.reverse
  | segment :: rest =>
    if isDoubleDot segment then
      resolveDots (if rest = [] then [] :: done.drop 1 else done.drop 1) rest
    else if isSingleDot segment then resolveDots (if rest = [] then [] :: done else done) rest
    else resolveDots (segment :: done) rest

/-- The normal form of a path that is made of segments. -/
def segmentPath (kind : SchemeKind) (cs : List Char) : List Char :=
  match cs with
  | [] => if kind = .other then [] else ['/']
  | c :: rest =>
    let body := if isSlash kind c then rest else cs
    let segments := (Text.splitAtChar (isSlash kind) body).map (percentEncode pathSet)
    (resolveDots [] segments).flatMap ('/' :: ·)

/-- Splits off the fragment and the query. -/
def cutTail (kind : SchemeKind) (cs : List Char) :
    List Char × Option (List Char) × Option (List Char) :=
  let beforeHash := cs.takeWhile (· ≠ '#')
  let fragment := match cs.dropWhile (· ≠ '#') with
    | _ :: f => some (percentEncode fragmentSet f)
    | [] => none
  let query := match beforeHash.dropWhile (· ≠ '?') with
    | _ :: q => some (percentEncode (querySet kind) q)
    | [] => none
  (beforeHash.takeWhile (· ≠ '?'), query, fragment)

/-- A URL whose authority begins the text. -/
def readWithAuthority (kind : SchemeKind) (scheme cs : List Char) : Except ParseError Url := do
  let after := cs.dropWhile (!endsAuthority kind ·)
  let authority ← readAuthority kind scheme after.isEmpty (cs.takeWhile (!endsAuthority kind ·))
  let (path, query, fragment) := cutTail kind after
  return ⟨scheme, some authority, segmentPath kind path, query, fragment⟩

def isDriveLetter (cs : List Char) : Bool :=
  match cs with
  | [c, m] => Text.isAsciiAlpha c && (m == ':' || m == '|')
  | _ => false

/-- A URL of a local file: the host counts only after two slashes. -/
def readFile (scheme cs : List Char) : Except ParseError Url := do
  let (host, rest) ← (match cs with
    | a :: b :: after =>
      if isSlash .file a && isSlash .file b then do
        let name := after.takeWhile (!endsAuthority .file ·)
        let rest := after.dropWhile (!endsAuthority .file ·)
        if name = [] then return (Host.name [], rest)
        else if isDriveLetter name then return (Host.name [], after)
        else
          let host ← webHost name
          return (if host = .name "localhost".toList then Host.name [] else host, rest)
      else return (Host.name [], cs)
    | _ => return (Host.name [], cs) : Except ParseError (Host × List Char))
  let (path, query, fragment) := cutTail .file rest
  return ⟨scheme, some ⟨[], [], host, none⟩, segmentPath .file path, query, fragment⟩

/-- A URL of any other scheme. -/
def readOther (scheme cs : List Char) : Except ParseError Url :=
  match cs with
  | '/' :: '/' :: rest => readWithAuthority .other scheme rest
  | cs =>
    let (path, query, fragment) := cutTail .other cs
    let path := if path.head? = some '/' then segmentPath .other path else percentEncode [] path
    .ok ⟨scheme, none, path, query, fragment⟩

/-- The characters that count: without control characters and blanks around them and without tabs
and line breaks. -/
def significant (cs : List Char) : List Char :=
  let isEdge (c : Char) : Bool := c.toNat ≤ 0x20
  let inner := ((cs.dropWhile isEdge).reverse.dropWhile isEdge).reverse
  inner.filter fun c => c != '\t' && c != '\n' && c != '\r'

/-- Reads an absolute URL. -/
def parse (s : String) : Except ParseError Url :=
  match splitScheme? (significant s.toList) with
  | none => .error .relative
  | some (scheme, rest) =>
    match schemeKind scheme with
    | .web => readWithAuthority .web scheme (rest.dropWhile (isSlash .web))
    | .file => readFile scheme rest
    | .other => readOther scheme rest

end SlackBridge.Url
