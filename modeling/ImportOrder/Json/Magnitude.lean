/-!
# ImportOrder.Json.Magnitude

Which numbers of a JSON text have a double.

A number is read as a significand below 2⁶⁴ and a power of ten: digits that no longer fit count as
zeros before the point and as nothing behind it. The significand and the power are each rounded to
the nearest double and then multiplied. The product must not round to infinity.
-/

namespace ImportOrder
namespace Json

/-- Significands are below this. -/
def significandLimit : Nat := Nat.pow 2 64

/-- Greater powers of ten are not doubles. -/
def maxPower : Nat := 308

/-- The nearest number of at most 53 binary digits, zeros behind them apart. Halfway between two,
the one with an even last digit is taken. -/
def roundToDouble (n : Nat) : Nat :=
  let unit := Nat.pow 2 (n.log2 - 52)
  let low := n / unit * unit
  let rest := 2 * (n - low)
  if rest < unit || (rest = unit && n / unit % 2 = 0) then low else low + unit

/-- The least product that rounds to infinity: halfway between the largest double and the next power
of two. -/
def infinityBound : Nat := Nat.pow 2 1024 - Nat.pow 2 970

/-- Whether `significand · 10 ^ exponent` is too large for a double. -/
def isTooLarge (significand : Nat) (exponent : Int) : Bool :=
  if significand = 0 || exponent < 0 then false
  else if (maxPower : Int) < exponent then true
  else infinityBound ≤ roundToDouble significand * roundToDouble (Nat.pow 10 exponent.toNat)

/-- A significand, and the power of ten that it is to be multiplied with. -/
structure Decimal where
  significand : Nat := 0
  exponent : Int := 0
  deriving Repr, DecidableEq

namespace Decimal

/-- Adds digits as long as the significand stays below its limit. Gives also the digits left. -/
def addDigits (d : Decimal) : List Nat → Decimal × List Nat
  | [] => (d, [])
  | digit :: digits =>
    let next := d.significand * 10 + digit
    if significandLimit ≤ next then (d, digit :: digits)
    else addDigits { d with significand := next } digits

/-- The decimal with the given digits before and behind the point. -/
def ofDigits (whole fraction : List Nat) : Decimal :=
  let (d, unread) := addDigits {} whole
  let (d, rest) := d.addDigits fraction
  { d with exponent := (unread.length : Int) - (fraction.length - rest.length : Nat) }

/-- Whether the decimal, multiplied with a further power of ten, is too large for a double. -/
def isTooLarge (d : Decimal) (exponent : Int) : Bool :=
  Json.isTooLarge d.significand (d.exponent + exponent)

end Decimal
end Json
end ImportOrder
