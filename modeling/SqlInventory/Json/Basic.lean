import SqlInventory.Number.Shortest
import SqlInventory.Text.Quoted

/-!
# JSON values

A value keeps the order of an object's members. Whole numbers are integers; a number with a
fraction or an exponent has double precision and never counts as a whole number. Truth values count
as whole numbers where a whole number is wanted (`whole?`).
-/

namespace SqlInventory

/-- A JSON value. -/
inductive Json where
  /-- `null` -/
  | null
  /-- A truth value. -/
  | bool (value : Bool)
  /-- A whole number. -/
  | integer (value : Int)
  /-- A number with a fraction or an exponent. -/
  | decimal (value : Double)
  /-- A text. -/
  | string (value : Text)
  /-- A sequence of values. -/
  | array (items : List Json)
  /-- Members in order. -/
  | object (members : List (Text × Json))
  deriving Repr

namespace Json

/-- The member of an object with this key. -/
def member? (key : Text) : Json → Option Json
  | .object members => (members.find? fun m => m.1 == key).map (·.2)
  | _ => none

theorem member?_cons (key : Text) (m : Text × Json) (rest : List (Text × Json)) :
    member? key (.object (m :: rest)) = if m.1 = key then some m.2 else member? key (.object rest) := by
  by_cases h : m.1 = key <;> simp [member?, h]

/-- A key that no member has leads to nothing. -/
theorem member?_eq_none {key : Text} {members : List (Text × Json)}
    (h : key ∉ members.map Prod.fst) : member? key (.object members) = none := by
  induction members with
  | nil => rfl
  | cons m rest ih =>
    rw [List.map_cons, List.mem_cons, not_or] at h
    rw [member?_cons, if_neg (Ne.symm h.1), ih h.2]

/-- The number that a value counts as where a whole number is wanted. -/
def whole? : Json → Option Int
  | .integer n => some n
  | .bool b => some (if b then 1 else 0)
  | _ => none

/-- The place of a number on the number line: at which end of it, or 0 for between them, and where.
Truth values count as numbers, and what is no number has no place. -/
def onLine? : Json → Option (Int × Rat)
  | .decimal (.infinite negative) => some (if negative then -1 else 1, 0)
  | .decimal d => d.value?.map fun r => (0, r)
  | value => value.whole?.map fun n => (0, n)

/-- Whether a value counts as a number. -/
def isNumber : Json → Bool
  | .decimal _ => true
  | value => value.whole?.isSome

/-- Whether one number is at most another; what is no number is not. -/
def atMost (a b : Json) : Bool :=
  match a.onLine?, b.onLine? with
  | some (e, r), some (f, s) => decide (e < f) || (e == f && decide (r ≤ s))
  | _, _ => false

/-- Whether a value counts as true: all do but `null`, false, zero, and what is empty. -/
def isTruthy : Json → Bool
  | .null => false
  | .bool b => b
  | .integer n => n != 0
  | .decimal d => !d.isZero
  | .string t => !t.isEmpty
  | .array items => !items.isEmpty
  | .object members => !members.isEmpty

/-- `put key value members` gives `key` its value: in its place if it is there, else at the end. -/
def put (key : Text) (value : Json) : List (Text × Json) → List (Text × Json)
  | [] => [(key, value)]
  | m :: rest => if m.1 == key then (key, value) :: rest else m :: put key value rest

/-- The name of a value's type in messages. -/
def typeName : Json → Text
  | .null => "NoneType"
  | .bool _ => "bool"
  | .integer _ => "int"
  | .decimal _ => "float"
  | .string _ => "str"
  | .array _ => "list"
  | .object _ => "dict"

mutual

/-- A value as messages show it. -/
def display : Json → Text
  | .null => "None"
  | .bool b => if b then "True" else "False"
  | .integer n => Text.ofInt n
  | .decimal d => d.text
  | .string t => Text.quoted t
  | .array items => ['['] ++ Text.joinWith ", " (displayAll items) ++ [']']
  | .object members => ['{'] ++ Text.joinWith ", " (displayMembers members) ++ ['}']

/-- Some values as messages show them. -/
def displayAll : List Json → List Text
  | [] => []
  | item :: rest => display item :: displayAll rest

/-- Some members as messages show them. -/
def displayMembers : List (Text × Json) → List Text
  | [] => []
  | (key, value) :: rest => (Text.quoted key ++ ": " ++ display value) :: displayMembers rest

end

/-- A value as messages show it where it stands for itself: a text without quotation marks. -/
def plainText : Json → Text
  | .string t => t
  | value => value.display

end Json

end SqlInventory
