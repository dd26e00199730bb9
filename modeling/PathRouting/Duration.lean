import PathRouting.Text.Basic

/-! # Durations

A duration is a number of microseconds.  It is written in the largest unit of seconds, milliseconds
and microseconds that it fills, with as many decimals as it needs.
-/

namespace PathRouting

structure Duration where
  micros : Nat
  deriving DecidableEq

namespace Duration

/-- The decimals of a fraction given in units of `10 ^ -places`. -/
def decimals (places fraction : Nat) : Text :=
  let digits := Text.ofNat fraction
  let digits := List.replicate (places - digits.length) '0' ++ digits
  (digits.reverse.dropWhile (· == '0')).reverse

def withDecimals (whole places fraction : Nat) : Text :=
  Text.ofNat whole ++ if fraction = 0 then [] else '.' :: decimals places fraction

def render (d : Duration) : Text :=
  if d.micros ≥ 1000000 then
    withDecimals (d.micros / 1000000) 6 (d.micros % 1000000) ++ ['s']
  else if d.micros ≥ 1000 then
    withDecimals (d.micros / 1000) 3 (d.micros % 1000) ++ "ms".toList
  else if d.micros > 0 then Text.ofNat d.micros ++ "µs".toList
  else "0ns".toList

end Duration

end PathRouting
