import ConnectionPool.Time

set_option autoImplicit false

/-! # The text of a duration

A duration is written in its largest fitting unit (seconds, milliseconds, microseconds,
nanoseconds) as a decimal number whose fraction has no trailing zeros, and no point if nothing is
left of it: `1.5s`, `250ms`, `1.01µs`, `0ns`. No digit is ever rounded away. -/

namespace ConnectionPool

namespace Duration

/-- The given number of low decimal digits of `n`, with leading zeros. -/
def lowDigits (n : Nat) : Nat → List Char
  | 0 => []
  | width + 1 => lowDigits (n / 10) width ++ [Nat.digitChar (n % 10)]

/-- The fraction `part / 10 ^ width` as written behind a whole number: the point and the digits up
to the last one that is not zero, or nothing. -/
def fraction (part width : Nat) : String :=
  match ((lowDigits part width).reverse.dropWhile (· == '0')).reverse with
  | [] => ""
  | digits => String.ofList ('.' :: digits)

/-- The number `whole + part / 10 ^ width` with its unit. -/
def decimal (whole part width : Nat) (unit : String) : String :=
  toString whole ++ fraction part width ++ unit

/-- The duration in its largest fitting unit. -/
def text (d : Duration) : String :=
  if 0 < d.seconds then decimal d.seconds d.subsecond 9 "s"
  else if 1000000 ≤ d.nanos then decimal (d.nanos / 1000000) (d.nanos % 1000000) 6 "ms"
  else if 1000 ≤ d.nanos then decimal (d.nanos / 1000) (d.nanos % 1000) 3 "µs"
  else decimal d.nanos 0 0 "ns"

end Duration

end ConnectionPool
