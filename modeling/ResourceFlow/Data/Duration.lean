/-! # Durations

  A duration is a whole number of nanoseconds. Its text is a decimal number in
  the largest unit that leaves at least one before the point, with as many
  places as it needs: `1.5s`, `200ms`, `3µs`, `7ns`. Zero is `0ns`.
-/

namespace ResourceFlow

/-- A length of time, or a point in time since the start, in nanoseconds. -/
abbrev Duration := Nat

namespace Duration

/-- Nanoseconds in a microsecond, a millisecond and a second. -/
def micro : Nat := 1000

@[inherit_doc micro] def milli : Nat := 1000000

@[inherit_doc micro] def second : Nat := 1000000000

/-- A number of milliseconds. -/
def ofMillis (n : Nat) : Duration := n * milli

/-- A number of seconds. -/
def ofSeconds (n : Nat) : Duration := n * second

/-- The whole milliseconds of a duration. -/
def millis (d : Duration) : Nat := d / milli

/-- The whole seconds of a duration. -/
def seconds (d : Duration) : Nat := d / second

/-- The decimal digits of `n`, at least `width` of them. -/
def paddedDigits (width n : Nat) : List Char :=
  let ds := (toString n).toList
  List.replicate (width - ds.length) '0' ++ ds

/-- The digits without the zeros at their end. -/
def dropTrailingZeros (ds : List Char) : List Char :=
  (ds.reverse.dropWhile (· = '0')).reverse

/-- `d` in a unit of so many nanoseconds, a power of ten with so many zeros, with no digit that says
    nothing. -/
def inUnit (d unit : Duration) (places : Nat) (name : String) : String :=
  let whole := toString (d / unit)
  let rest := d % unit
  if rest = 0 then whole ++ name
  else whole ++ "." ++ String.ofList (dropTrailingZeros (paddedDigits places rest)) ++ name

/-- The text of a duration. -/
def text (d : Duration) : String :=
  if second ≤ d then inUnit d second 9 "s"
  else if milli ≤ d then inUnit d milli 6 "ms"
  else if micro ≤ d then inUnit d micro 3 "µs"
  else inUnit d 1 0 "ns"

end Duration

end ResourceFlow
