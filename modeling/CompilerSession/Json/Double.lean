namespace CompilerSession.Json

/-!
# Doubles and their shortest decimal text

A double is kept as its 64 bits, so that equal doubles are equal values.

`Double.ofDecimal?` reads a decimal by one rounding of the significand and one
multiplication or division by a power of ten, with a further division for
exponents below the range of the powers.  `Double.shortest` finds the fewest
digits that read back as the same double, and of those the nearest to it, in
exact arithmetic on natural numbers.
-/

/-- A finite number in the binary format of 64 bits. -/
structure Double where
  bits : UInt64
  deriving Repr, DecidableEq

namespace Double

/-- The double of a runtime number. -/
def ofFloat (value : Float) : Double := ⟨value.toBits⟩

/-- A power of ten, correctly rounded. -/
def powerOfTen (exponent : Nat) : Float := Float.ofScientific 1 false exponent

/-- The largest exponent whose power of ten is finite. -/
def maxPower : Nat := 308

/-- Divide by a power of ten in steps that each stay in range. -/
def scaleDown
    (value : Float)
    (exponent : Nat) : Float :=
  if exponent ≤ maxPower then value / powerOfTen exponent
  else if value == 0 then value
  else scaleDown (value / powerOfTen maxPower) (exponent - maxPower)
termination_by exponent
decreasing_by
  simp only [maxPower] at *
  omega

/-- Multiply by a power of ten; none if the product is beyond every double. -/
def scaleUp?
    (value : Float)
    (exponent : Nat) : Option Float :=
  if exponent ≤ maxPower then
    let product := value * powerOfTen exponent
    if product.isInf then none else some product
  else if value == 0 then some value
  else none

/-- The double read for a significand below `2 ^ 64` times a power of ten. -/
def ofDecimal?
    (negative : Bool)
    (significand : Nat)
    (exponent : Int) : Option Double :=
  let value := (UInt64.ofNat significand).toFloat
  let scaled :=
    if exponent < 0 then some (scaleDown value exponent.natAbs)
    else scaleUp? value exponent.natAbs
  scaled.map fun magnitude =>
    ofFloat (if negative then -magnitude else magnitude)

/-- Whether the sign bit is set. -/
def isNegative (double : Double) : Bool := double.bits.toNat >>> 63 == 1

/-- The eleven bits of the biased exponent. -/
def exponentField (double : Double) : Nat := (double.bits.toNat >>> 52) % 0x800

/-- The 52 bits of the fraction. -/
def fractionField
    (double : Double) : Nat :=
  double.bits.toNat % 0x10000000000000

/-- The magnitude as a natural number times a power of two. -/
def magnitude (double : Double) : Nat × Int :=
  if double.exponentField = 0 then (double.fractionField, -1074)
  else (double.fractionField + 0x10000000000000, double.exponentField - 1075)

/--
The numbers that round to a double, as two bounds in quarters of its last place.
The bounds themselves belong to the interval when the significand is even.
-/
structure RoundingInterval where
  lower : Nat
  value : Nat
  upper : Nat
  exponent : Int
  closed : Bool

/-- Below a power of two the neighbour is only half as far away. -/
def roundingInterval (double : Double) : RoundingInterval :=
  let (significand, exponent) := double.magnitude
  let halved := double.fractionField = 0 ∧ 1 < double.exponentField
  { lower := 4 * significand - (if halved then 1 else 2)
    value := 4 * significand
    upper := 4 * significand + 2
    exponent := exponent - 2
    closed := significand % 2 = 0 }

/--
The point of the grid of multiples of a power of ten that lies in the interval,
the nearer one to the value if there are two, and the even one of a tie.
-/
def RoundingInterval.gridPoint?
    (interval : RoundingInterval)
    (power : Int) : Option Nat :=
  let numerator := Nat.pow 2 interval.exponent.toNat * Nat.pow 10 (-power).toNat
  let denominator :=
    Nat.pow 2 (-interval.exponent).toNat * Nat.pow 10 power.toNat
  let inside (point : Nat) : Bool :=
    let scaled := point * denominator
    if interval.closed then
      interval.lower * numerator ≤ scaled && scaled ≤ interval.upper * numerator
    else
      interval.lower * numerator < scaled && scaled < interval.upper * numerator
  let value := interval.value * numerator
  let below := value / denominator
  let above := below + 1
  match inside below, inside above with
  | true, true =>
    let downwards := value - below * denominator
    let upwards := above * denominator - value
    if downwards < upwards then some below
    else if upwards < downwards then some above
    else some (if below % 2 = 0 then below else above)
  | true, false => some below
  | false, true => some above
  | false, false => none

/-- The first grid with a point in the interval, trying ever finer ones. -/
def RoundingInterval.coarsestPoint
    (interval : RoundingInterval) : Nat → Int → Nat × Int
  | 0, power => (0, power)
  | tries + 1, power =>
    match interval.gridPoint? power with
    | some point => (point, power)
    | none => interval.coarsestPoint tries (power - 1)

/--
The shortest decimal of a double that is not zero, as digits and a power of ten.
No double exceeds ten to the 309th, and every double is a multiple of ten to the
minus 1074th.
-/
def shortest (double : Double) : List Char × Int :=
  let (point, power) := double.roundingInterval.coarsestPoint 1384 309
  (Nat.toDigits 10 point, power)

/--
The text of digits times a power of ten.  It is positional while the point
stands at most sixteen places after the first digit or four zeros before it,
with one digit at least after the point; otherwise it has an exponent, which
always has a sign and never a leading zero.
-/
def layout
    (digits : List Char)
    (power : Int) : List Char :=
  let count : Int := digits.length
  let point := count + power
  if 0 ≤ power ∧ point ≤ 16 then
    digits ++ List.replicate power.toNat '0' ++ ['.', '0']
  else if 0 < point ∧ point ≤ 16 then
    digits.take point.toNat ++ '.' :: digits.drop point.toNat
  else if -5 < point ∧ point ≤ 0 then
    '0' :: '.' :: (List.replicate (-point).toNat '0' ++ digits)
  else
    let exponent := point - 1
    let sign := if exponent < 0 then '-' else '+'
    let tail := 'e' :: sign :: Nat.toDigits 10 exponent.natAbs
    match digits with
    | [] => tail
    | [digit] => digit :: tail
    | first :: others => first :: '.' :: (others ++ tail)

/-- The text of a double. -/
def render (double : Double) : List Char :=
  let sign := if double.isNegative then ['-'] else []
  if double.magnitude.1 = 0 then sign ++ ['0', '.', '0']
  else
    let (digits, power) := double.shortest
    sign ++ layout digits power

end Double

end CompilerSession.Json
