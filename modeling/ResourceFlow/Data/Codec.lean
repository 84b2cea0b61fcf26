import ResourceFlow.Data.Json
import ResourceFlow.Data.Named
import ResourceFlow.Data.Order
/-! # JSON forms of data types

  A `Codec` writes the values of a type as JSON and reads them back. Reading
  is exact about what is required and lenient about the rest:

  - an enumerated value is its name, or an object whose only field bears the
    name and holds null;
  - a record is an object in which unknown fields are skipped and no known one
    is named twice, or the list of all its fields in the order of their
    declaration;
  - an optional field may be missing or null, any other must be there;
  - an integer must be in the range of its type and written without a point.

  A set is written as a list of its items, and is read from a list in any
  order. `encode` lists them in the order in which sets are reported.
-/

namespace ResourceFlow

/-- A type whose values have a JSON form. -/
class Codec (α : Type) where
  /-- The JSON form of a value. -/
  encode : α → Json
  /-- The value of a JSON form, if it is one. -/
  decode? : Json → Option α

namespace Codec

/-! ### Basic types -/

instance : Codec String where
  encode := .str
  decode? := Json.text?

instance : Codec Int64 where
  encode n := .int n.toInt
  decode? j := j.int?.bind fun n =>
    if -9223372036854775808 ≤ n ∧ n < 9223372036854775808 then some (Int64.ofInt n) else none

instance : Codec UInt64 where
  encode n := .nat n.toNat
  decode? j := j.int?.bind fun n =>
    if 0 ≤ n ∧ n < 18446744073709551616 then some (UInt64.ofNat n.toNat) else none

instance {α : Type} [Codec α] : Codec (Option α) where
  encode := Json.ofOption encode
  decode? j := if j.isNull then some none else (decode? j).map some

instance {α : Type} [Codec α] : Codec (List α) where
  encode l := .arr (l.map encode)
  decode? j := j.items?.bind fun l => l.mapM decode?

/-! ### Enumerated values -/

/-- The name under which a JSON value may stand for an enumerated value. -/
def variant? : Json → Option String
  | .str s => some s
  | .obj [(s, .null)] => some s
  | _ => none

/-- The form of a type whose values are written by name. -/
abbrev named {α : Type} [Named α] : Codec α where
  encode a := .str (Named.name a)
  decode? j := (variant? j).bind Named.ofName?

/-! ### Records -/

/-- No field with one of these names is there twice. -/
def namedOnce (names : List String) (fields : List (String × Json)) : Bool :=
  names.all fun name => (fields.map Prod.fst).count name ≤ 1

/-- The fields of a record with these field names. -/
def record? (names : List String) : Json → Option (List (String × Json))
  | .obj fields => if namedOnce names fields then some fields else none
  | .arr items => if items.length = names.length then some (names.zip items) else none
  | _ => none

/-- A field that must be there. -/
def required? {α : Type} [Codec α] (fields : List (String × Json)) (name : String) : Option α :=
  (fields.lookup name).bind decode?

/-- A field that may be missing. -/
def optional? {α : Type} [Codec α] (fields : List (String × Json)) (name : String) :
    Option (Option α) :=
  match fields.lookup name with
  | none => some none
  | some j => decode? j

/-! ### Sets -/

/-- A set of texts, listed in the order in which sets are reported. -/
def encodeTexts (l : List String) : Json := Json.texts (textSet l)

/-- A required field that holds a set of texts. -/
def requiredTexts? (fields : List (String × Json)) (name : String) : Option (List String) :=
  (required? fields name).map textSet

end Codec

end ResourceFlow
