import SlackBridge.Text.Pieces

/-!
TOML values, and the tables of a document while it is read.

A table remembers how it was written, because that decides what may still be added to it.
-/

namespace SlackBridge.Toml

/-- How a table was written: between braces, under a header of its own, as a part of the name in
another header, or as a part of a dotted key. -/
inductive Origin
  | inline
  | header
  | implied
  | dotted
deriving DecidableEq, Repr

/-- A value. Numbers and times that nothing depends on keep their text; `tables` is an array whose
items stand under headers. -/
inductive Value
  | string (s : String)
  | integer (n : Int)
  | float (text : String)
  | boolean (b : Bool)
  | datetime (text : String)
  | array (items : List Value)
  | table (origin : Origin) (members : List (String × Value))
  | tables (items : List (List (String × Value)))
deriving Inhabited, Repr

abbrev Members := List (String × Value)

namespace Members

/-- Gives a key a value, in place of the one that it has. -/
def set (key : String) (v : Value) : Members → Members
  | [] => [(key, v)]
  | (k, w) :: rest => if k = key then (k, v) :: rest else (k, w) :: set key v rest

/-- Adds a value under a dotted key. Each part before the last names a table that was not written
under a header or between braces. -/
def putDotted (key : String) (v : Value) : List String → Members → Option Members
  | [], ms => if (ms.lookup key).isSome then none else some (ms ++ [(key, v)])
  | part :: path, ms =>
    match ms.lookup part with
    | none => (putDotted key v path []).map fun sub => ms ++ [(part, .table .dotted sub)]
    | some (.table origin sub) =>
      if origin = .dotted ∨ (origin = .implied ∧ path ≠ []) then
        (putDotted key v path sub).map fun sub => set part (.table origin sub) ms
      else none
    | some (.tables items) =>
      if path = [] then none
      else
        (putDotted key v path (items.getLast?.getD [])).map fun sub =>
          set part (.tables (items.dropLast ++ [sub])) ms
    | some _ => none

/-- Changes the table that a header names. Of an array of tables it is the last one. -/
def within (change : Members → Option Members) : List String → Members → Option Members
  | [], ms => change ms
  | part :: path, ms =>
    match ms.lookup part with
    | none => (within change path []).map fun sub => ms ++ [(part, .table .implied sub)]
    | some (.table .inline _) => none
    | some (.table origin sub) =>
      (within change path sub).map fun sub => set part (.table origin sub) ms
    | some (.tables items) =>
      (within change path (items.getLast?.getD [])).map fun sub =>
        set part (.tables (items.dropLast ++ [sub])) ms
    | some _ => none

/-- Begins the table under a header. It must not have been written before. -/
def openTable (key : String) (ms : Members) : Option Members :=
  match ms.lookup key with
  | none => some (ms ++ [(key, .table .header [])])
  | some (.table .implied sub) => some (set key (.table .header sub) ms)
  | some _ => none

/-- Begins the next table of an array of tables. -/
def openItem (key : String) (ms : Members) : Option Members :=
  match ms.lookup key with
  | none => some (ms ++ [(key, .tables [[]])])
  | some (.tables items) => some (set key (.tables (items ++ [[]])) ms)
  | some _ => none

end Members
end SlackBridge.Toml
