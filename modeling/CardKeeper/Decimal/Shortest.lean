/-!
# The shortest decimal of a floating-point number

A finite positive double is `significand * 2 ^ power`.  The reals that round to it form an
interval, closed when the significand is even.  For each power of ten there is a grid of decimals;
the coarsest grid with a point in the interval gives the fewest digits, and of the points next to
the number on that grid the nearer one is taken, an even one when both are equally near.
-/

namespace CardKeeper
namespace Decimal

/-- A positive decimal number, `digits * 10 ^ power`. -/
structure Scaled where
  /-- The digits, as a number. -/
  digits : Nat
  /-- The power of ten of the last digit. -/
  power : Int
  deriving DecidableEq

/-- The size of a finite double. -/
structure Binary where
  /-- The integer in front. -/
  significand : Nat
  /-- The power of two. -/
  power : Int
  /-- Whether the next double below lies only half as far away as the next one above. -/
  narrowBelow : Bool

/-- The double with these bits, without its sign. -/
def Binary.ofBits (bits : Nat) : Binary :=
  let fraction := bits % Nat.pow 2 52
  let exponent : Nat := bits / Nat.pow 2 52 % Nat.pow 2 11
  if exponent = 0 then ⟨fraction, -1074, false⟩
  else ⟨Nat.pow 2 52 + fraction, (exponent : Int) - 1075, fraction = 0 && 1 < exponent⟩

/-- The point nearest to a double on the grid of a power of ten, if it rounds to the double. -/
def Binary.onGrid? (number : Binary) (power : Int) : Option Nat :=
  let grid := Nat.pow 10 power.toNat * Nat.pow 2 (2 - number.power).toNat
  let unit := Nat.pow 2 (number.power - 2).toNat * Nat.pow 10 (-power).toNat
  let value := 4 * number.significand * unit
  let low := (4 * number.significand - if number.narrowBelow then 1 else 2) * unit
  let high := (4 * number.significand + 2) * unit
  let rounds (point : Nat) : Bool :=
    if number.significand % 2 = 0 then low ≤ point * grid && point * grid ≤ high
    else low < point * grid && point * grid < high
  let below := value / grid
  let above := below + 1
  let first := value - below * grid
  let second := above * grid - value
  let nearer := if first < second || (first = second && below % 2 = 0) then below else above
  let farther := if nearer = below then above else below
  if 0 < nearer && rounds nearer then some nearer
  else if 0 < farther && rounds farther then some farther
  else none

/-- The coarsest of the grids from a power of ten down that has a point rounding to the double. -/
def Binary.coarsest? (number : Binary) (power : Int) : Nat → Option Scaled
  | 0 => none
  | grids + 1 =>
      match number.onGrid? power with
      | some digits => some ⟨digits, power⟩
      | none => number.coarsest? (power - 1) grids

/-- The shortest decimal that rounds to a positive double; zero has none.  No finite double needs
a grid above `10 ^ 308` or below `10 ^ (-324)`. -/
def Binary.shortest? (number : Binary) : Option Scaled :=
  if number.significand = 0 then none else number.coarsest? 308 633

/-- A decimal in positional notation, with at least one digit on each side of the point. -/
def Scaled.positional (number : Scaled) : String :=
  let digits := Nat.toDigits 10 number.digits
  if 0 ≤ number.power then
    String.ofList (digits ++ List.replicate number.power.toNat '0') ++ ".0"
  else
    let places := (-number.power).toNat
    let padded := List.replicate (places + 1 - digits.length) '0' ++ digits
    String.ofList (padded.take (padded.length - places)) ++ "." ++
      String.ofList (padded.drop (padded.length - places))

/-- The power of ten of the first digit. -/
def Scaled.magnitude (number : Scaled) : Int :=
  number.power + (Nat.toDigits 10 number.digits).length - 1

/-- A decimal with one digit before the point and an exponent with its sign. -/
def Scaled.scientific (number : Scaled) : String :=
  let digits := Nat.toDigits 10 number.digits
  let fraction := if digits.length ≤ 1 then "" else "." ++ String.ofList (digits.drop 1)
  String.ofList (digits.take 1) ++ fraction ++ (if number.magnitude < 0 then "e-" else "e+") ++
    toString number.magnitude.natAbs

/-- A double as reports show it: positional as long as the first digit stands for `10 ^ (-5)` to
`10 ^ 15`. -/
def floatText (value : Float) : String :=
  let bits := value.toBits.toNat
  let shown :=
    match (Binary.ofBits (bits % Nat.pow 2 63)).shortest? with
    | some number =>
        if -5 ≤ number.magnitude ∧ number.magnitude ≤ 15 then number.positional
        else number.scientific
    | none => "0.0"
  if bits / Nat.pow 2 63 = 1 then "-" ++ shown else shown

end Decimal
end CardKeeper
