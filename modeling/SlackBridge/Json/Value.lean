import SlackBridge.Json.Number

/-!
JSON values and the members of objects.

The members of an object are a list of pairs; `put` keeps at most one pair per key, so a later
value for a key takes the place of the earlier one.
-/

namespace SlackBridge.Json

inductive Value
  | null
  | bool (b : Bool)
  | number (n : Number)
  | string (s : String)
  | array (items : List Value)
  | object (members : List (String × Value))
deriving Inhabited, Repr

abbrev Members := List (String × Value)

namespace Members

def get? (key : String) (ms : Members) : Option Value :=
  ms.lookup key

/-- Gives the key its value in place, or adds the pair at the end. -/
def put (key : String) (v : Value) : Members → Members
  | [] => [(key, v)]
  | (k, w) :: rest => if k = key then (k, v) :: rest else (k, w) :: put key v rest

/-- Adds the pair at the end unless the key has a value. -/
def putIfAbsent (key : String) (v : Value) (ms : Members) : Members :=
  if (get? key ms).isSome then ms else ms ++ [(key, v)]

/-- Puts every pair of the second list, in order. -/
def putAll (ms : Members) (more : Members) : Members :=
  more.foldl (fun acc (k, v) => put k v acc) ms

theorem get?_put_self (key : String) (v : Value) (ms : Members) :
    get? key (put key v ms) = some v := by
  induction ms with
  | nil => simp [put, get?]
  | cons m rest ih =>
    obtain ⟨k, w⟩ := m
    by_cases h : k = key
    · simp [put, get?, h]
    · simp only [put, h, if_false, get?, List.lookup_cons] at ih ⊢
      simp [beq_eq_false_iff_ne.mpr (Ne.symm h), ih]

theorem get?_put_of_ne {key other : String} (h : other ≠ key) (v : Value) (ms : Members) :
    get? other (put key v ms) = get? other ms := by
  induction ms with
  | nil => simp [put, get?, List.lookup_cons, beq_eq_false_iff_ne.mpr h]
  | cons m rest ih =>
    obtain ⟨k, w⟩ := m
    by_cases hk : k = key
    · simp [put, get?, hk, List.lookup_cons, beq_eq_false_iff_ne.mpr h]
    · simp only [put, hk, if_false, get?, List.lookup_cons] at ih ⊢
      rw [ih]

end Members

namespace Value

def string? : Value → Option String
  | .string s => some s
  | _ => none

def member? (key : String) : Value → Option Value
  | .object ms => Members.get? key ms
  | _ => none

def ofNat (n : Nat) : Value :=
  .number (.integer n)

/-- A string, or null in its absence. -/
def ofText? : Option String → Value
  | some s => .string s
  | none => .null

end Value
end SlackBridge.Json
