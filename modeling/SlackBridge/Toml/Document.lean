import SlackBridge.Toml.Quoted
import SlackBridge.Toml.Scalar

/-!
TOML documents.

A document is read line by line into statements, and the statements are carried out one after the
other on the tables so far.
-/

namespace SlackBridge.Toml

/-- The deepest nesting of values and of keys. -/
def maxNesting : Nat := 79

def dropInlineBlank (cs : List Char) : List Char :=
  cs.dropWhile isInlineBlank

/-- Drops blanks, line breaks and comments. -/
def dropLines (inComment : Bool) : List Char → List Char
  | [] => []
  | c :: rest =>
    if inComment && isPlain c then dropLines true rest
    else if isInlineBlank c || c == '\n' then dropLines false rest
    else if c = '\r' ∧ rest.head? = some '\n' then dropLines false rest
    else if c = '#' then dropLines true rest
    else c :: rest

/-- Drops what may stand after a statement: a comment and the line break. -/
def endLine? (cs : List Char) : Option (List Char) :=
  let rest := match dropInlineBlank cs with
    | '#' :: comment => comment.dropWhile isPlain
    | rest => rest
  if rest = [] then some [] else dropBreak? rest

def isBareKeyChar (c : Char) : Bool :=
  Text.isAsciiAlphanumeric c || c == '_' || c == '-'

/-- One part of a key. -/
def keyPart? (cs : List Char) : Option (String × List Char) :=
  match quotedLine? cs with
  | some found => some found
  | none =>
    let name := cs.takeWhile isBareKeyChar
    if name = [] then none else some (String.ofList name, cs.dropWhile isBareKeyChar)

/-- The parts of a dotted key, at most `room` of them. -/
def keyParts? : (room : Nat) → List Char → Option (List String × List Char)
  | 0, _ => none
  | room + 1, cs => do
    let (part, rest) ← keyPart? (dropInlineBlank cs)
    match dropInlineBlank rest with
    | '.' :: more =>
      let (parts, rest) ← keyParts? room more
      return (part :: parts, rest)
    | rest => return ([part], rest)

/-- The items of an array up to its closing bracket. -/
def items? (item? : List Char → Option (Value × List Char)) :
    (fuel : Nat) → List Value → List Char → Option (List Value × List Char)
  | 0, _, _ => none
  | fuel + 1, done, cs =>
    match dropLines false cs with
    | ']' :: rest => some (done.reverse, rest)
    | cs =>
      match item? cs with
      | none => none
      | some (v, rest) =>
        match dropLines false rest with
        | ']' :: rest => some ((v :: done).reverse, rest)
        | ',' :: rest => items? item? fuel (v :: done) rest
        | _ => none

/-- A key, an equals sign and a value. -/
def assignment? (value? : List Char → Option (Value × List Char)) (cs : List Char) :
    Option ((List String × Value) × List Char) := do
  let (path, rest) ← keyParts? maxNesting cs
  match rest with
  | '=' :: rest =>
    let (v, rest) ← value? (dropInlineBlank rest)
    return ((path, v), rest)
  | _ => none

/-- Adds the value of an assignment to a table. -/
def assign (path : List String) (v : Value) (ms : Members) : Option Members :=
  match path.getLast? with
  | some key => Members.putDotted key v path.dropLast ms
  | none => none

/-- The members of a table between braces. -/
def members? (value? : List Char → Option (Value × List Char)) :
    (fuel : Nat) → Members → List Char → Option (Members × List Char)
  | 0, _, _ => none
  | fuel + 1, done, cs =>
    match assignment? value? cs with
    | none => none
    | some ((path, v), rest) =>
      match assign path v done, dropInlineBlank rest with
      | some ms, '}' :: rest => some (ms, rest)
      | some ms, ',' :: rest => members? value? fuel ms rest
      | _, _ => none

/-- The value that a text begins with, nested at most `room` levels. -/
def value? : (room : Nat) → List Char → Option (Value × List Char)
  | 0, cs =>
    match quoted? cs with
    | some (s, rest) => some (.string s, rest)
    | none => scalar? cs
  | room + 1, cs =>
    match cs with
    | '[' :: rest =>
      (items? (value? room) cs.length [] rest).map fun (vs, rest) => (.array vs, rest)
    | '\x7b' :: rest =>
      match dropInlineBlank rest with
      | '\x7d' :: rest => some (.table .inline [], rest)
      | rest =>
        (members? (value? room) cs.length [] rest).map fun (ms, rest) => (.table .inline ms, rest)
    | cs =>
      match quoted? cs with
      | some (s, rest) => some (.string s, rest)
      | none => scalar? cs

/-- One line of a document. -/
inductive Statement
  | openTable (path : List String)
  | openItem (path : List String)
  | assign (path : List String) (v : Value)

/-- The statement that a text begins with. -/
def statement? (cs : List Char) : Option (Statement × List Char) :=
  match cs with
  | '[' :: '[' :: rest => do
    let (path, rest) ← keyParts? maxNesting rest
    match rest with
    | ']' :: ']' :: rest => return (.openItem path, ← endLine? rest)
    | _ => none
  | '[' :: rest => do
    let (path, rest) ← keyParts? maxNesting rest
    match rest with
    | ']' :: rest => return (.openTable path, ← endLine? rest)
    | _ => none
  | cs => do
    let ((path, v), rest) ← assignment? (value? maxNesting) cs
    return (.assign path v, ← endLine? rest)

/-- The statements of a document. -/
def statements? : (fuel : Nat) → List Statement → List Char → Option (List Statement)
  | 0, _, _ => none
  | fuel + 1, done, cs =>
    match dropLines false cs with
    | [] => some done.reverse
    | cs =>
      match statement? cs with
      | some (s, rest) => statements? fuel (s :: done) rest
      | none => none

/-- A document that is being read: its tables and the path of the open one. -/
structure Building where
  root : Members
  path : List String

def Building.add (b : Building) : Statement → Option Building
  | .assign path v => (Members.within (assign path v) b.path b.root).map ({ b with root := · })
  | .openTable path => do
    let key ← path.getLast?
    return ⟨← Members.within (Members.openTable key) path.dropLast b.root, path⟩
  | .openItem path => do
    let key ← path.getLast?
    return ⟨← Members.within (Members.openItem key) path.dropLast b.root, path⟩

/-- Reads a document. A byte order mark at its start does not count. -/
def read? (text : String) : Option Members := do
  let cs := match text.toList with
    | '\ufeff' :: cs => cs
    | cs => cs
  let statements ← statements? (cs.length + 1) [] cs
  return (← statements.foldlM Building.add ⟨[], []⟩).root

end SlackBridge.Toml
