/-!
# Shortest decimals

A finite double is written with the fewest digits that read back as the same
double, and among those with the digits nearest to it.  A decimal reads back
when it lies in the interval of reals that round to the double; the ends belong
to the interval exactly when the mantissa is even.  If a decimal grid has a
point in that interval, then one of the two grid points next to the double is
in it, so only those two are tried, on one grid after another.

Everything is exact arithmetic on natural numbers.  The double is
`quarters * 2 ^ exponent`, with a factor of four to spare so that the ends of
the interval are whole as well.
-/

namespace NestedQuery.Decimal

/-- A positive double and the interval of reals that round to it, as multiples
of `2 ^ exponent`. -/
structure Interval where
  lower : Nat
  quarters : Nat
  upper : Nat
  exponent : Int
  closed : Bool

/-- The interval of a positive finite double, from its bits. -/
def Interval.ofBits (bits : UInt64) : Interval :=
  let fraction := bits.toNat % Nat.pow 2 52
  let biased := bits.toNat / Nat.pow 2 52 % Nat.pow 2 11
  let mantissa := if biased = 0 then fraction else fraction + Nat.pow 2 52
  let exponent : Int := (max biased 1 : Nat) - 1077
  -- Below a power of two the doubles lie twice as close.
  let below := if fraction = 0 ∧ 1 < biased then 1 else 2
  { lower := 4 * mantissa - below
    quarters := 4 * mantissa
    upper := 4 * mantissa + 2
    exponent
    closed := mantissa % 2 = 0 }

/-- `digits * 10 ^ exponent`. -/
structure Scientific where
  digits : Nat
  exponent : Int
  deriving DecidableEq

/-- The number of decimal digits of a positive number. -/
def width (value : Nat) : Nat := (Nat.toDigits 10 value).length

/-- The factors `2 ^ e` and `10 ^ k` contribute to either side of a comparison
of `m * 2 ^ e` with `c * 10 ^ k`. -/
def balance (binary decimal : Int) : Nat × Nat :=
  (Nat.pow 2 binary.toNat * Nat.pow 10 (-decimal).toNat,
    Nat.pow 2 (-binary).toNat * Nat.pow 10 decimal.toNat)

namespace Interval

/-- The exponent of the first digit of the double. -/
def magnitude (interval : Interval) : Int :=
  let (scale, divisor) := balance interval.exponent 0
  let whole := interval.quarters * scale / divisor
  if 0 < whole then width whole - 1
  else
    let inverse := (divisor + interval.quarters - 1) / interval.quarters
    Int.negOfNat (width (inverse - 1))

/-- Whether `digits * 10 ^ decimal` rounds to the double. -/
def contains (interval : Interval) (digits : Nat) (decimal : Int) : Bool :=
  let (scale, divisor) := balance interval.exponent decimal
  let point := digits * divisor
  if interval.closed then
    interval.lower * scale ≤ point ∧ point ≤ interval.upper * scale
  else
    interval.lower * scale < point ∧ point < interval.upper * scale

/-- The point of the grid `10 ^ decimal` that reads back, the nearer one if
both neighbours do, the even one if they are equally near. -/
def onGrid? (interval : Interval) (decimal : Int) : Option Scientific :=
  let (scale, divisor) := balance interval.exponent decimal
  let target := interval.quarters * scale
  let below := target / divisor
  let excess := 2 * (target - below * divisor)
  let nearBelow := excess < divisor ∨ (excess = divisor ∧ below % 2 = 0)
  match interval.contains below decimal, interval.contains (below + 1) decimal with
  | true, true => some ⟨if nearBelow then below else below + 1, decimal⟩
  | true, false => some ⟨below, decimal⟩
  | false, true => some ⟨below + 1, decimal⟩
  | false, false => none

/-- Grids get finer by a factor of ten; seventeen digits always suffice. -/
def refine (interval : Interval) : Nat → Int → Scientific
  | 0, decimal => ⟨0, decimal⟩
  | grids + 1, decimal =>
      match interval.onGrid? decimal with
      | some point => point
      | none => interval.refine grids (decimal - 1)

end Interval

/-- Moves trailing zeros into the exponent. -/
def Scientific.trim : Nat → Scientific → Scientific
  | 0, value => value
  | fuel + 1, value =>
      if value.digits ≠ 0 ∧ value.digits % 10 = 0 then
        trim fuel ⟨value.digits / 10, value.exponent + 1⟩
      else value

/-- The shortest decimal of a positive finite double. -/
def shortest (bits : UInt64) : Scientific :=
  let interval := Interval.ofBits bits
  let found := interval.refine 17 interval.magnitude
  found.trim (width found.digits)

/-- Where positional notation ends: the least and the greatest exponent of the
first digit that is still written without an exponent. -/
structure Layout where
  least : Int
  greatest : Int

namespace Layout

/-- Positional notation keeps a fraction, if only `.0`; the other notation has
one digit before the point and a signed exponent. -/
def write (layout : Layout) (value : Scientific) : List Char :=
  let digits := Nat.toDigits 10 value.digits
  let first : Int := value.exponent + digits.length - 1
  if layout.least ≤ first ∧ first ≤ layout.greatest then
    if first < 0 then
      ['0', '.'] ++ List.replicate (-first - 1).toNat '0' ++ digits
    else
      let whole := first.toNat + 1
      if digits.length ≤ whole then
        digits ++ List.replicate (whole - digits.length) '0' ++ ['.', '0']
      else digits.take whole ++ '.' :: digits.drop whole
  else
    let mantissa :=
      match digits with
      | lead :: [] => [lead]
      | lead :: rest => lead :: '.' :: rest
      | [] => []
    let sign := if first < 0 then '-' else '+'
    mantissa ++ 'e' :: sign :: Nat.toDigits 10 first.natAbs

end Layout

/-- The text of a finite double; zero keeps its sign. -/
def Layout.float (layout : Layout) (value : Float) : List Char :=
  let bits := value.toBits
  let sign := if bits.toNat < Nat.pow 2 63 then [] else ['-']
  let size := bits &&& 0x7fffffffffffffff
  if size = 0 then sign ++ ['0', '.', '0']
  else sign ++ layout.write (shortest size)

end NestedQuery.Decimal
