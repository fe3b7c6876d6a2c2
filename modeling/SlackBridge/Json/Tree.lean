import SlackBridge.Json.Token

/-!
JSON documents as they are written.

A tree keeps what a document says before anyone decides what to make of it: repeated keys, strings
without a text, numbers without a value. Reading works on a list of tokens with an explicit stack,
so the depth of a document is not limited.
-/

namespace SlackBridge.Json

inductive Tree
  | null
  | bool (b : Bool)
  | number (n : Option Number)
  | string (s : Option String)
  | array (items : List Tree)
  | object (members : List (Option String × Tree))
deriving Inhabited, Repr

namespace Tree

/-- A container that is still open: the parts before the current one, in reverse. -/
inductive Frame
  | array (done : List Tree)
  | object (done : List (Option String × Tree)) (key : Option String)

/-- What may come next. -/
inductive Position
  | value
  | firstItem
  | key (done : List (Option String × Tree))
  | colon (done : List (Option String × Tree)) (key : Option String)
  | after (t : Tree)

structure Reading where
  frames : List Frame
  position : Position

/-- Reads a token where a value must begin. -/
def beginValue (frames : List Frame) : Token → Option Reading
  | .null => some ⟨frames, .after .null⟩
  | .bool b => some ⟨frames, .after (.bool b)⟩
  | .number n => some ⟨frames, .after (.number n)⟩
  | .string s => some ⟨frames, .after (.string s)⟩
  | .openArray => some ⟨.array [] :: frames, .firstItem⟩
  | .openObject => some ⟨frames, .key []⟩
  | _ => none

def step (r : Reading) (token : Token) : Option Reading :=
  match r.position, token with
  | .value, t => beginValue r.frames t
  | .firstItem, .closeArray =>
    match r.frames with
    | .array done :: frames => some ⟨frames, .after (.array done.reverse)⟩
    | _ => none
  | .firstItem, t => beginValue r.frames t
  | .key done, .string s => some ⟨r.frames, .colon done s⟩
  | .key [], .closeObject => some ⟨r.frames, .after (.object [])⟩
  | .key _, _ => none
  | .colon done key, .colon => some ⟨.object done key :: r.frames, .value⟩
  | .colon _ _, _ => none
  | .after t, .comma =>
    match r.frames with
    | .array done :: frames => some ⟨.array (t :: done) :: frames, .value⟩
    | .object done key :: frames => some ⟨frames, .key ((key, t) :: done)⟩
    | [] => none
  | .after t, .closeArray =>
    match r.frames with
    | .array done :: frames => some ⟨frames, .after (.array (t :: done).reverse)⟩
    | _ => none
  | .after t, .closeObject =>
    match r.frames with
    | .object done key :: frames => some ⟨frames, .after (.object ((key, t) :: done).reverse)⟩
    | _ => none
  | .after _, _ => none

/-- The tree that the tokens spell, if they spell exactly one. -/
def ofTokens? (tokens : List Token) : Option Tree := do
  let r ← tokens.foldlM step ⟨[], .value⟩
  match r with
  | ⟨[], .after t⟩ => some t
  | _ => none

/-- Reads a document. -/
def read? (bytes : Bytes) : Option Tree := do
  ofTokens? (← Token.scan? bytes)

end Tree
end SlackBridge.Json
