import SlackBridge.Text.Ascii

/-!
Quoted text in TOML: with escapes between double quotes, as it stands between single quotes, on one
line or, with the quotes written three times, on several.

Each reader starts after the opening quotes and gives the text and what follows the closing ones.
-/

namespace SlackBridge.Toml

/-- The characters that may stand for themselves: no control characters but the tab. -/
def isPlain (c : Char) : Bool :=
  c == '\t' || (0x20 ≤ c.toNat && c.toNat != 0x7f)

def isInlineBlank (c : Char) : Bool :=
  c == ' ' || c == '\t'

/-- The character that a hexadecimal code stands for. -/
def codePoint? (digits : List Char) : Option Char := do
  let values ← digits.mapM Text.hexValue?
  let code := values.foldl (fun n d => n * 16 + d) 0
  if code.isValidChar then some (Char.ofNat code) else none

/-- The escapes of one letter. -/
def escape? : Char → Option Char
  | 'b' => some '\x08'
  | 't' => some '\t'
  | 'n' => some '\n'
  | 'f' => some '\x0c'
  | 'r' => some '\r'
  | '"' => some '"'
  | '\\' => some '\\'
  | _ => none

/-- What an escape stands for and how many characters it takes after the backslash. -/
def escaped? (cs : List Char) : Option (Char × Nat) :=
  match cs with
  | 'u' :: rest => if rest.length < 4 then none else (codePoint? (rest.take 4)).map (·, 5)
  | 'U' :: rest => if rest.length < 8 then none else (codePoint? (rest.take 8)).map (·, 9)
  | c :: _ => (escape? c).map (·, 1)
  | [] => none

/-- Text between double quotes on one line. `skip` characters belong to an escape that was read. -/
def basicFrom (skip : Nat) (done : List Char) : List Char → Option (List Char × List Char)
  | [] => none
  | c :: rest =>
    match skip with
    | n + 1 => basicFrom n done rest
    | 0 =>
      if c = '"' then some (done.reverse, rest)
      else if c = '\\' then
        match escaped? rest with
        | some (x, n) => basicFrom n (x :: done) rest
        | none => none
      else if isPlain c then basicFrom 0 (c :: done) rest
      else none

/-- Text between single quotes on one line. -/
def literalFrom (done : List Char) : List Char → Option (List Char × List Char)
  | [] => none
  | c :: rest =>
    if c = '\'' then some (done.reverse, rest)
    else if isPlain c then literalFrom (c :: done) rest
    else none

/-- The line break that a text begins with, and what follows it. -/
def dropBreak? : List Char → Option (List Char)
  | '\n' :: rest => some rest
  | '\r' :: '\n' :: rest => some rest
  | _ => none

/-- Up to two quotes before the closing three belong to the text. -/
def closeLong (quote : Char) (done rest : List Char) : List Char × List Char :=
  match rest with
  | a :: b :: after =>
    if a = quote ∧ b = quote then ((quote :: quote :: done).reverse, after)
    else if a = quote then ((quote :: done).reverse, b :: after)
    else (done.reverse, rest)
  | [a] => if a = quote then ((quote :: done).reverse, []) else (done.reverse, rest)
  | [] => (done.reverse, [])

/-- What a backslash at the end of a line has left to drop: blanks up to the line break, or all
blanks and line breaks after it. -/
inductive Folding
  | none
  | lineEnd
  | nextLines
deriving DecidableEq

/-- Text between three double quotes. -/
def longBasicFrom (folding : Folding) (skip : Nat) (done : List Char) :
    List Char → Option (List Char × List Char)
  | [] => none
  | c :: rest =>
    match skip with
    | n + 1 => longBasicFrom folding n done rest
    | 0 =>
      if c = '\n' then
        if folding = .none then longBasicFrom .none 0 ('\n' :: done) rest
        else longBasicFrom .nextLines 0 done rest
      else if c = '\r' then
        if rest.head? = some '\n' then longBasicFrom folding 0 done rest else none
      else if isInlineBlank c && folding ≠ .none then longBasicFrom folding 0 done rest
      else if folding = .lineEnd then none
      else if c = '"' then
        if rest.take 2 = ['"', '"'] then some (closeLong '"' done (rest.drop 2))
        else longBasicFrom .none 0 ('"' :: done) rest
      else if c = '\\' then
        match escaped? rest with
        | some (x, n) => longBasicFrom .none n (x :: done) rest
        | none =>
          if rest.head?.any fun e => isInlineBlank e || e == '\n' || e == '\r' then
            longBasicFrom .lineEnd 0 done rest
          else none
      else if isPlain c then longBasicFrom .none 0 (c :: done) rest
      else none

/-- Text between three single quotes. -/
def longLiteralFrom (done : List Char) : List Char → Option (List Char × List Char)
  | [] => none
  | c :: rest =>
    if c = '\n' then longLiteralFrom ('\n' :: done) rest
    else if c = '\r' then
      if rest.head? = some '\n' then longLiteralFrom done rest else none
    else if c = '\'' ∧ rest.take 2 = ['\'', '\''] then some (closeLong '\'' done (rest.drop 2))
    else if isPlain c then longLiteralFrom (c :: done) rest
    else none

/-- The text on one line that a quote begins. -/
def quotedLine? : List Char → Option (String × List Char)
  | '"' :: rest => (basicFrom 0 [] rest).map fun (text, after) => (String.ofList text, after)
  | '\'' :: rest => (literalFrom [] rest).map fun (text, after) => (String.ofList text, after)
  | _ => none

/-- The text that one or three quotes begin. A line break right after three quotes does not
count. -/
def quoted? (cs : List Char) : Option (String × List Char) :=
  match cs with
  | '"' :: '"' :: '"' :: rest =>
    (longBasicFrom .none 0 [] ((dropBreak? rest).getD rest)).map fun (text, after) =>
      (String.ofList text, after)
  | '\'' :: '\'' :: '\'' :: rest =>
    (longLiteralFrom [] ((dropBreak? rest).getD rest)).map fun (text, after) =>
      (String.ofList text, after)
  | cs => quotedLine? cs

end SlackBridge.Toml
