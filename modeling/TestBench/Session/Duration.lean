/-!
# Durations

A length of time is a whole number of microseconds, and so is every limit; the command line sets
whole seconds. It is shown in the largest unit of which it has at least one, with the digits of a
fraction only as far as they count. Time itself passes in milliseconds, so a limit is waited for up to
the next of them.
-/

set_option autoImplicit false

namespace TestBench

/-- A length of time, in whole microseconds. -/
structure Duration where
  /-- Its number of microseconds. -/
  micros : Nat
deriving DecidableEq, Repr

namespace Duration

/-- So many seconds. -/
def ofSeconds (n : Nat) : Duration := ⟨n * 1000000⟩

/-- The milliseconds after which the time is over. -/
def ticks (d : Duration) : Nat := (d.micros + 999) / 1000

/-- A number of so many digits, without the zeros at its end. -/
def fraction (width n : Nat) : List Char :=
  let digits := Nat.toDigits 10 n
  let padded := List.replicate (width - digits.length) '0' ++ digits
  (padded.reverse.dropWhile (· == '0')).reverse

/-- A number of microseconds in a unit of `10 ^ width` of them. -/
def inUnit (micros width : Nat) (unit : String) : String :=
  let whole := toString (micros / Nat.pow 10 width)
  match fraction width (micros % Nat.pow 10 width) with
  | [] => whole ++ unit
  | digits => whole ++ "." ++ String.ofList digits ++ unit

/-- How a length of time is shown. -/
def text (d : Duration) : String :=
  if 1000000 ≤ d.micros then inUnit d.micros 6 "s"
  else if 1000 ≤ d.micros then inUnit d.micros 3 "ms"
  else if 0 < d.micros then inUnit d.micros 0 "µs"
  else "0ns"

end Duration

end TestBench
