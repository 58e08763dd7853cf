import PadLink.Text.Digits

set_option autoImplicit false

/-! # Durations

Durations are whole milliseconds. In messages they are written in milliseconds below one second, and
from one second on in seconds with as many of three decimals as are needed. -/

namespace PadLink.Duration

/-- The decimals of a number of thousandths, without the zeros at the end. -/
def decimals (thousandths : Nat) : List Char :=
  let digits := [thousandths / 100 % 10, thousandths / 10 % 10, thousandths % 10].map Nat.digitChar
  (digits.reverse.dropWhile (· == '0')).reverse

/-- The text of a duration in milliseconds. -/
def text (ms : Nat) : String :=
  if ms = 0 then "0ns"
  else if ms < 1000 then Digits.decimal ms ++ "ms"
  else
    let whole := Digits.decimal (ms / 1000)
    match decimals (ms % 1000) with
    | [] => whole ++ "s"
    | digits => whole ++ "." ++ String.ofList digits ++ "s"

end PadLink.Duration
