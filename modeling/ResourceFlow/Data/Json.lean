/-! # JSON values

  Payloads travel through flows as JSON, and audit records and reports are
  written as JSON. A number is kept as a decimal: its digits and how many of
  them stand behind the point, so that `1` and `1.0` stay apart.
-/

namespace ResourceFlow

/-- A JSON value. The fields of an object keep their order. -/
inductive Json where
  /-- The null value. -/
  | null
  /-- A truth value. -/
  | bool (b : Bool)
  /-- The decimal `mantissa / 10 ^ places`. -/
  | num (mantissa : Int) (places : Nat)
  /-- A text. -/
  | str (s : String)
  /-- A list of values. -/
  | arr (items : List Json)
  /-- An object, as its fields in order. -/
  | obj (fields : List (String × Json))
  deriving Inhabited

namespace Json

/-! ### Writing -/

/-- A whole number. -/
def int (n : Int) : Json := .num n 0

/-- A natural number. -/
def nat (n : Nat) : Json := .num (Int.ofNat n) 0

/-- A value that may be absent; absence is null. -/
def ofOption {α : Type} (f : α → Json) : Option α → Json
  | none => .null
  | some a => f a

/-- A list of texts. -/
def texts (l : List String) : Json := .arr (l.map .str)

/-! ### Reading -/

/-- The fields of an object; anything else has none. -/
def fields : Json → List (String × Json)
  | .obj fs => fs
  | _ => []

/-- The field of that name, if the value is an object that has it. -/
def field? (j : Json) (name : String) : Option Json := j.fields.lookup name

/-- The field of that name; a missing one reads as null. -/
def field (j : Json) (name : String) : Json := (j.field? name).getD .null

/-- Whether the value is null. -/
def isNull : Json → Bool
  | .null => true
  | _ => false

/-- The field of that name, unless it is missing or null. -/
def given? (j : Json) (name : String) : Option Json :=
  match j.field? name with
  | none => none
  | some v => if v.isNull then none else some v

/-- The text of a text value. -/
def text? : Json → Option String
  | .str s => some s
  | _ => none

/-- The items of a list value. -/
def items? : Json → Option (List Json)
  | .arr l => some l
  | _ => none

/-- The integer of a number without places behind the point. -/
def int? : Json → Option Int
  | .num n 0 => some n
  | _ => none

/-- The object with one field set: replaced where it stands, else added behind. -/
def setField (name : String) (v : Json) : List (String × Json) → List (String × Json)
  | [] => [(name, v)]
  | (k, w) :: rest => if k = name then (name, v) :: rest else (k, w) :: setField name v rest

end Json

end ResourceFlow
