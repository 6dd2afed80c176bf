import SparkGateway.Json.Basic
import SparkGateway.Number.Numeral

/-!
# Values as whole numbers

A service may send a whole number as a number of any kind, as a truth value or as a numeral.  This
module reads all of them, and says how a value fails to be a whole number.

Main statement: `toWhole_int` (a whole number is itself).
-/

namespace SparkGateway.Json

/-- A value as a whole number: a fraction loses its part after the point, and a text is read as a
numeral. -/
def toWhole : Json → Except Misfit Int
  | .num (.whole n) => .ok n
  | .num (.real x) =>
    match Decimal.Value.ofFloat x with
    | .nan => .error .badValue
    | .infinite _ => .error .outOfRange
    | .finite _ _ _ => .ok ((Decimal.truncated x).getD 0)
  | .bool b => .ok (if b then 1 else 0)
  | .str s =>
    match Numeral.int? s with
    | some n => .ok n
    | none => .error .badValue
  | _ => .error .wrongKind

theorem toWhole_int (n : Int) : (int n).toWhole = .ok n := rfl

end SparkGateway.Json
