/-! # Flow ids

  Every opened flow gets an id of its own. Ids are told apart by a serial
  number: `F1`, `F2`, … in the order in which flows are opened. An id that was
  not given out here is a 128-bit number and is written as a UUID.
-/

namespace ResourceFlow

/-- The identity of a flow run. -/
inductive FlowId where
  /-- The flow that was opened with this serial number. -/
  | opened (serial : Nat)
  /-- An id from outside, by its 128-bit value. -/
  | foreign (value : Nat)
  deriving DecidableEq, Inhabited

namespace FlowId

/-- The id whose value is zero; no flow has it. -/
def nil : FlowId := .foreign 0

/-- The lower-case hexadecimal digit of a number below sixteen. -/
def hexDigit (n : Nat) : Char :=
  if n < 10 then Char.ofNat (48 + n) else Char.ofNat (87 + n)

/-- The lowest `count` hexadecimal digits of `n`, the highest first. -/
def hexDigits : Nat → Nat → List Char
  | 0, _ => []
  | count + 1, n => hexDigits count (n / 16) ++ [hexDigit (n % 16)]

/-- The text of a 128-bit value in groups of 8, 4, 4, 4 and 12 digits. -/
def uuidText (value : Nat) : String :=
  let ds := hexDigits 32 value
  let group (start len : Nat) := String.ofList ((ds.drop start).take len)
  String.intercalate "-" [group 0 8, group 8 4, group 12 4, group 16 4, group 20 12]

/-- The text of an id. -/
def text : FlowId → String
  | .opened serial => "F" ++ toString serial
  | .foreign value => uuidText value

end FlowId

end ResourceFlow
