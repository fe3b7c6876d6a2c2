import SlackBridge.Url.Address

/-!
Uniform resource locators: their parts and their text.
-/

namespace SlackBridge

namespace Url

/-- Why a text is no URL. -/
inductive ParseError
  | emptyHost
  | invalidDomain
  | invalidPort
  | invalidIpv4
  | invalidIpv6
  | invalidHostCharacter
  | relative
deriving DecidableEq, Repr

def ParseError.message : ParseError → String
  | .emptyHost => "empty host"
  | .invalidDomain => "invalid international domain name"
  | .invalidPort => "invalid port number"
  | .invalidIpv4 => "invalid IPv4 address"
  | .invalidIpv6 => "invalid IPv6 address"
  | .invalidHostCharacter => "invalid domain character"
  | .relative => "relative URL without a base"

/-- A host: a name in its encoded form, or a numeric address. -/
inductive Host
  | name (text : List Char)
  | ipv4 (address : Nat)
  | ipv6 (pieces : List Nat)
deriving DecidableEq, Repr

def Host.chars : Host → List Char
  | .name text => text
  | .ipv4 address => ipv4Chars address
  | .ipv6 pieces => '[' :: (ipv6Chars pieces ++ [']'])

/-- Who is at which host. The user name and the password are encoded. -/
structure Authority where
  username : List Char
  password : List Char
  host : Host
  port : Option Nat
deriving DecidableEq, Repr

def Authority.chars (a : Authority) : List Char :=
  let password := if a.password = [] then [] else ':' :: a.password
  let user := if a.username = [] ∧ a.password = [] then [] else a.username ++ password ++ ['@']
  let port := match a.port with
    | some n => ':' :: Nat.toDigits 10 n
    | none => []
  user ++ a.host.chars ++ port

end Url

/-- A URL in its normal form. Path, query and fragment are encoded; the path begins with a slash
if there is an authority and it is not empty. -/
structure Url where
  scheme : List Char
  authority : Option Url.Authority
  path : List Char
  query : Option (List Char)
  fragment : Option (List Char)
deriving DecidableEq, Repr

namespace Url

def chars (u : Url) : List Char :=
  let authority := match u.authority with
    | some a => '/' :: '/' :: a.chars
    | none => if ['/', '/'].isPrefixOf u.path then ['/', '.'] else []
  let query := match u.query with
    | some q => '?' :: q
    | none => []
  let fragment := match u.fragment with
    | some f => '#' :: f
    | none => []
  u.scheme ++ ':' :: (authority ++ u.path ++ query ++ fragment)

def text (u : Url) : String :=
  String.ofList u.chars

/-- Whether there is a host with a name or an address. -/
def hasHost (u : Url) : Bool :=
  u.authority.any fun a => a.host != .name []

/-- The same URL for anyone. -/
def withoutUser (u : Url) : Url :=
  { u with authority := u.authority.map fun a => { a with username := [], password := [] } }

end Url
end SlackBridge
