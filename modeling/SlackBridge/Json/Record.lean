import SlackBridge.Json.Tree
import SlackBridge.Json.Value

/-!
Decoding trees.

A record is an object whose keys name its fields, or an array of its fields in order. Keys of an
object that name no field are ignored, whatever their values; a field may be given once only. An
array may stop early but not hold more items than there are fields.
-/

namespace SlackBridge.Json

abbrev Decoder (α : Type) := Tree → Option α

/-- The fields that a record gives. In an array the missing ones are cut off at the end. -/
structure Record where
  given : List (String × Tree)
  positional : Bool

namespace Record

/-- The members whose keys are in `names`, provided that every key has a text. -/
def known? (names : List String) : List (Option String × Tree) → Option (List (String × Tree))
  | [] => some []
  | (none, _) :: _ => none
  | (some k, t) :: rest =>
    (known? names rest).map fun found => if names.contains k then (k, t) :: found else found

def read? (names : List String) : Tree → Option Record
  | .array items =>
    if items.length ≤ names.length then some ⟨names.zip items, true⟩ else none
  | .object members =>
    match known? names members with
    | some given => if (given.map Prod.fst).Nodup then some ⟨given, false⟩ else none
    | none => none
  | _ => none

def get? (r : Record) (name : String) : Option Tree :=
  r.given.lookup name

/-- A field that must be given. -/
def required (r : Record) (name : String) (decode : Decoder α) : Option α :=
  (r.get? name).bind decode

/-- A field with a default. -/
def withDefault (r : Record) (name : String) (default : α) (decode : Decoder α) : Option α :=
  match r.get? name with
  | some t => decode t
  | none => some default

end Record

namespace Decoder

def string : Decoder String
  | .string s => s
  | _ => none

def bool : Decoder Bool
  | .bool b => some b
  | _ => none

/-- Null stands for nothing. -/
def nullable (decode : Decoder α) : Decoder (Option α)
  | .null => some none
  | t => (decode t).map some

def list (decode : Decoder α) : Decoder (List α)
  | .array items => items.mapM decode
  | _ => none

end Decoder

namespace Record

/-- A field that may be null and is null when it is not given. -/
def optional (r : Record) (name : String) (decode : Decoder α) : Option (Option α) :=
  r.withDefault name none (Decoder.nullable decode)

end Record

/-- The deepest nesting of a document in which a value can be kept. -/
def maxDepth : Nat := 127

/-- The value of a tree that may nest `room` more levels. Of members with the same key the last
one counts. -/
def Tree.keep? : (room : Nat) → Tree → Option Value
  | _, .null => some .null
  | _, .bool b => some (.bool b)
  | _, .number n => n.map .number
  | _, .string s => s.map .string
  | 0, _ => none
  | room + 1, .array items => (items.mapM (keep? room)).map .array
  | room + 1, .object members => do
    let pairs ← members.mapM fun (key, t) => do
      return (← key, ← keep? room t)
    return .object (Members.putAll [] pairs)

end SlackBridge.Json
