import Playbook.Decimal.Rounding
import Playbook.Text

/-! # Decimals with a fixed number of places

Times are written with a fixed number of decimal places, correctly rounded from the exact value. -/

namespace Playbook.Decimal

/-- Put a character in front of a text until it has the given width. -/
def padLeft (width : Nat) (fill : CodePoint) (text : Text) : Text :=
  Text.ofList (text.toList.leftpad width fill)

/-- Write the whole number `n` as the decimal `n / 10 ^ places`. -/
def placed (places n : Nat) : Text :=
  if places = 0 then toString n
  else
    toString (n / Nat.pow 10 places) ++ "." ++ padLeft places '0' (toString (n % Nat.pow 10 places))

/-- Write `num / den`, with a minus sign in front if it is negative. -/
def fixed (places : Nat) (negative : Bool) (num den : Nat) : Text :=
  (if negative then "-" else "") ++ placed places (roundHalfEven (num * Nat.pow 10 places) den)

end Playbook.Decimal
