import LateBinding.Number.Binary64

/-!
# The shortest decimal text of a floating-point number

Among the decimals that read back as a given number, the printed one has the fewest digits,
and of those it is the nearest; between two equally near ones it is the larger. The search
works on exact integers. For one, two, … seventeen digits it looks at the two neighbours of
the number on that decimal grid and stops at the first grid where one of them reads back.

How the digits are laid out is a separate decision, kept in `Layout`.
-/
namespace LateBinding

namespace Binary64

/-- A positive number as a quotient, with the bounds of the reals that round to it: all three
are numerators over `denominator`. -/
structure Neighbourhood where
  lower : Nat
  value : Nat
  upper : Nat
  denominator : Nat
  closed : Bool
deriving DecidableEq, Repr

/-- The bounds lie half way to the adjacent numbers; the lower one is nearer below a power of
two, where the numbers get denser. They round to this number when its significand is even. -/
def neighbourhood (x : Binary64) : Neighbourhood :=
  let unit := Nat.pow 2 x.exponent.toNat
  let value := 4 * x.significand * unit
  let below := if x.fraction = 0 ∧ 1 < x.exponentField then unit else 2 * unit
  { lower := value - below
    value := value
    upper := value + 2 * unit
    denominator := 4 * Nat.pow 2 (-x.exponent).toNat
    closed := x.significand % 2 = 0 }

namespace Neighbourhood

/-- Whether the decimal `digits * top / bottom` lies within the bounds. -/
def admits (n : Neighbourhood) (digits top bottom : Nat) : Bool :=
  let decimal := digits * top * n.denominator
  if n.closed then n.lower * bottom ≤ decimal && decimal ≤ n.upper * bottom
  else n.lower * bottom < decimal && decimal < n.upper * bottom

/-- The power `k` of ten with `10 ^ (k - 1) ≤ value < 10 ^ k`. -/
def magnitude (n : Neighbourhood) : Int :=
  if n.denominator ≤ n.value then (Nat.toDigits 10 (n.value / n.denominator)).length
  else
    let places := (Nat.toDigits 10 (n.denominator / n.value)).length
    if n.denominator ≤ n.value * Nat.pow 10 (places - 1) then 2 - (places : Int)
    else 1 - (places : Int)

/-- The decimal of at most `count` digits that reads back and lies nearest, as digits and a
power of ten. -/
def atLength? (n : Neighbourhood) (count : Nat) : Option (Nat × Int) :=
  let power := n.magnitude - count
  let top := Nat.pow 10 power.toNat
  let bottom := Nat.pow 10 (-power).toNat
  let floor := n.value * bottom / (top * n.denominator)
  let below := n.admits floor top bottom
  let above := n.admits (floor + 1) top bottom
  let fromBelow := n.value * bottom - floor * top * n.denominator
  let toAbove := (floor + 1) * top * n.denominator - n.value * bottom
  if below && above then some (if fromBelow < toAbove then floor else floor + 1, power)
  else if below then some (floor, power)
  else if above then some (floor + 1, power)
  else none

/-- The first grid that has a hit, seventeen digits at most. -/
def shortest (n : Neighbourhood) : Nat × Int :=
  ((List.range 17).findSome? fun index => n.atLength? (index + 1)).getD (0, 0)

end Neighbourhood

/-- Drop zeros at the end of a list of digits. -/
def dropTrailingZeros (digits : List Char) : List Char :=
  (digits.reverse.dropWhile (· = '0')).reverse

/-- Digits `d₁ d₂ … dₙ` and a position `k`: the number is `0.d₁d₂…dₙ * 10 ^ k`. -/
structure Digits where
  digits : List Char
  position : Int
deriving DecidableEq, Repr

/-- The shortest digits of a finite number other than zero. -/
def shortestDigits (x : Binary64) : Digits :=
  let (number, power) := x.neighbourhood.shortest
  let digits := Nat.toDigits 10 number
  ⟨dropTrailingZeros digits, digits.length + power⟩

/-- How digits are laid out. Numbers below `10 ^ (least - 1)` or from `10 ^ (greatest - 1)` on,
in terms of the digits' position, are written with an exponent. -/
structure Layout where
  least : Int
  greatest : Int
deriving DecidableEq, Repr

/-- Positional from `0.0001` up to below `10 ^ 16`, always with a point; otherwise one digit
before the point, no point after a lone digit, and an exponent without plus or padding. -/
def Layout.standard : Layout := ⟨-3, 16⟩

/-- Digits with a point in their midst. -/
def Digits.positional (d : Digits) : String :=
  let count := d.digits.length
  if d.position ≤ 0 then
    "0." ++ String.ofList (List.replicate (-d.position).toNat '0' ++ d.digits)
  else
    let place := d.position.toNat
    if count ≤ place then
      String.ofList (d.digits ++ List.replicate (place - count) '0') ++ ".0"
    else String.ofList (d.digits.take place) ++ "." ++ String.ofList (d.digits.drop place)

/-- Digits with an exponent. -/
def Digits.scientific (d : Digits) : String :=
  let lead := String.ofList (d.digits.take 1)
  let tail := d.digits.drop 1
  let mantissa := if tail.isEmpty then lead else lead ++ "." ++ String.ofList tail
  mantissa ++ "e" ++ toString (d.position - 1)

/-- The text of a number in a layout. -/
def render (layout : Layout) (x : Binary64) : String :=
  let sign := if x.isNegative then "-" else ""
  if x.isNaN then "NaN"
  else if x.isInfinite then sign ++ "inf"
  else if x.magnitude = 0 then sign ++ "0.0"
  else
    let digits := x.shortestDigits
    if layout.least ≤ digits.position ∧ digits.position ≤ layout.greatest then
      sign ++ digits.positional
    else sign ++ digits.scientific

/-- The text of a number. -/
def text (x : Binary64) : String := x.render Layout.standard

end Binary64

end LateBinding
