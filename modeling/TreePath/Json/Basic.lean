import TreePath.Value.Basic

/-!
# JSON values

The values that a JSON text can write. An integer lies between `-2 ^ 63` and `2 ^ 64 - 1`; any other number is a
finite floating-point number. The members of an object are in ascending order of their names.
-/

namespace TreePath

/-- A JSON value. -/
inductive Json where
  | null
  | boolean (truth : Bool)
  | integer (n : Int) (bounds : -2 ^ (63 : Nat) ≤ n ∧ n < 2 ^ (64 : Nat))
  | real (x : Binary64) (isFinite : x.isFinite = true)
  | string (text : String)
  | array (items : List Json)
  | object (members : List (String × Json))

namespace Json

/-- A number as JSON; there is none for what is not finite. -/
def ofFloat? (x : Binary64) : Option Json :=
  if isFinite : x.isFinite = true then some (real x isFinite) else none

/-- A 64-bit integer as JSON. -/
def ofInt64 (n : Int64) : Json :=
  integer n.toInt ⟨Int64.le_toInt n, Int.lt_trans (Int64.toInt_lt n) (by decide)⟩

/-- An integer as JSON, if it lies in the range of JSON integers. -/
def ofInt? (n : Int) : Option Json :=
  if bounds : -2 ^ (63 : Nat) ≤ n ∧ n < 2 ^ (64 : Nat) then some (integer n bounds) else none

/-- The object with the given members, of which the last with a name counts. -/
def ofMembers (pairs : List (String × Json)) : Json :=
  object (Members.ofList pairs)

end Json

/-! ## Conversion -/

mutual

/-- The value of a JSON value. An integer beyond the 64-bit range becomes a floating-point number. -/
def Value.ofJson : Json → Value
  | .null => .null
  | .boolean truth => .boolean truth
  | .integer n _ => match int64? n with
    | some n => .integer n
    | none => .float (.ofInt n)
  | .real x _ => .float x
  | .string text => .string text
  | .array items => .array (ofJsonItems items)
  | .object members => .object (ofJsonMembers members)

def Value.ofJsonItems : List Json → List Value
  | [] => []
  | item :: items => ofJson item :: ofJsonItems items

def Value.ofJsonMembers : List (String × Json) → List (String × Value)
  | [] => []
  | (name, value) :: members => (name, ofJson value) :: ofJsonMembers members

end

mutual

/-- The JSON value of a value. An instant becomes its text, and a number that is not finite becomes null. -/
def Value.toJson : Value → Json
  | .null => .null
  | .boolean truth => .boolean truth
  | .integer n => .ofInt64 n
  | .float x => (Json.ofFloat? x).getD .null
  | .string text => .string text
  | .time instant => .string (String.ofList instant.toText)
  | .array items => .array (toJsonItems items)
  | .object members => .object (toJsonMembers members)

def Value.toJsonItems : List Value → List Json
  | [] => []
  | item :: items => toJson item :: toJsonItems items

def Value.toJsonMembers : List (String × Value) → List (String × Json)
  | [] => []
  | (name, value) :: members => (name, toJson value) :: toJsonMembers members

end

end TreePath
