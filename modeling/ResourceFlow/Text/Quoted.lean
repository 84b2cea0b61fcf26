import ResourceFlow.Text.Shapeless
/-! # Quoted texts

  A quoted text stands between double quotes. Inside, a quote or a backslash
  follows a backslash; tab, line feed, carriage return and the null character
  are written by letter, every other character without a shape of its own by
  its hexadecimal number; all else stands for itself.
-/

namespace ResourceFlow.Text

/-- The hexadecimal digits of `n`, without leading zeros. -/
def hexNumber (n : Nat) : List Char := Nat.toDigits 16 n

/-- One character inside a quoted text. -/
def quoteChar (c : Char) : List Char :=
  if c = '"' then ['\\', '"']
  else if c = '\\' then ['\\', '\\']
  else if c = '\t' then ['\\', 't']
  else if c = '\n' then ['\\', 'n']
  else if c = '\r' then ['\\', 'r']
  else if c.toNat = 0 then ['\\', '0']
  else if isShapeless c then ['\\', 'u', '\x7b'] ++ hexNumber c.toNat ++ ['\x7d']
  else [c]

/-- A text between quotes. -/
def quoted (s : String) : String :=
  String.ofList ('"' :: s.toList.flatMap quoteChar ++ ['"'])

/-- A list of quoted texts between brackets. -/
def quotedList (l : List String) : String :=
  "[" ++ String.intercalate ", " (l.map quoted) ++ "]"

end ResourceFlow.Text
