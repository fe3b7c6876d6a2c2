import SlackBridge.Json.Decimal
import SlackBridge.Json.Value
import SlackBridge.Text.Ascii
import SlackBridge.Text.Utf8

/-!
Writing JSON values, without any space or with one member or item a line.
-/

namespace SlackBridge.Json

/-- How a character stands inside quotes: control characters, quotes and backslashes are escaped,
all else stands for itself. -/
def escapeChar (c : Char) : List Char :=
  match c with
  | '"' => ['\\', '"']
  | '\\' => ['\\', '\\']
  | '\n' => ['\\', 'n']
  | '\r' => ['\\', 'r']
  | '\t' => ['\\', 't']
  | '\x08' => ['\\', 'b']
  | '\x0c' => ['\\', 'f']
  | c =>
    if c.toNat < 0x20 then
      ['\\', 'u', '0', '0', Text.hexDigit (c.toNat / 16), Text.hexDigit (c.toNat % 16)]
    else [c]

def quoted (s : String) : List Char :=
  '"' :: (s.toList.flatMap escapeChar ++ ['"'])

def Number.chars : Number → List Char
  | .integer n => (toString n).toList
  | .real bits => Decimal.text bits

namespace Value

mutual

def chars : Value → List Char
  | .null => ['n', 'u', 'l', 'l']
  | .bool true => ['t', 'r', 'u', 'e']
  | .bool false => ['f', 'a', 'l', 's', 'e']
  | .number n => n.chars
  | .string s => quoted s
  | .array items => '[' :: (itemChars items ++ [']'])
  | .object members => '{' :: (memberChars members ++ ['}'])

def itemChars : List Value → List Char
  | [] => []
  | [v] => chars v
  | v :: w :: rest => chars v ++ ',' :: itemChars (w :: rest)

def memberChars : List (String × Value) → List Char
  | [] => []
  | [(k, v)] => quoted k ++ ':' :: chars v
  | (k, v) :: m :: rest => quoted k ++ ':' :: (chars v ++ ',' :: memberChars (m :: rest))

end

/-- The value on one line. -/
def compact (v : Value) : String :=
  String.ofList v.chars

def indent (depth : Nat) : List Char :=
  '\n' :: List.replicate (2 * depth) ' '

mutual

def prettyChars (depth : Nat) : Value → List Char
  | .array [] => ['[', ']']
  | .object [] => ['{', '}']
  | .array items => '[' :: (prettyItems (depth + 1) items ++ indent depth ++ [']'])
  | .object members => '{' :: (prettyMembers (depth + 1) members ++ indent depth ++ ['}'])
  | v => v.chars

def prettyItems (depth : Nat) : List Value → List Char
  | [] => []
  | [v] => indent depth ++ prettyChars depth v
  | v :: w :: rest => indent depth ++ prettyChars depth v ++ ',' :: prettyItems depth (w :: rest)

def prettyMembers (depth : Nat) : List (String × Value) → List Char
  | [] => []
  | [(k, v)] => indent depth ++ quoted k ++ ':' :: ' ' :: prettyChars depth v
  | (k, v) :: m :: rest =>
    indent depth ++ quoted k ++ ':' :: ' ' :: (prettyChars depth v ++
      ',' :: prettyMembers depth (m :: rest))

end

/-- The value over several lines, each level indented by two blanks. -/
def pretty (v : Value) : String :=
  String.ofList (v.prettyChars 0)

/-- The bytes of the value on one line. -/
def bytes (v : Value) : Bytes :=
  Text.utf8 v.compact

end Value
end SlackBridge.Json
