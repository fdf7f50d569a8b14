/-!
# Shortest decimals

The decimal with the fewest digits that rounds back to a binary floating-point number. A finite
number is `mantissa · 2 ^ exponent`; the decimals that round to it form an interval around it, closed
when the mantissa is even. Grids of 1, 2, … 17 digits are tried in turn, and on each only the two
neighbours of the number can lie in the interval.
-/

namespace Outbox.Decimal

/-- A finite non-negative number `mantissa · 2 ^ exponent`. -/
structure Binary where
  mantissa : Nat
  exponent : Int
  /-- Whether the next smaller number is only half as far away as the next larger one. -/
  narrowBelow : Bool
  deriving DecidableEq, Repr

/-- A decimal `digits · 10 ^ exponent`. -/
structure Scaled where
  digits : Nat
  exponent : Int
  deriving DecidableEq, Repr

/-- The number that the lower 63 bits of a double-precision word stand for. -/
def Binary.ofBits (bits : UInt64) : Binary :=
  let hidden := 1 <<< 52
  let fraction := bits.toNat % hidden
  let biased := bits.toNat / hidden % 2048
  if biased = 0 then ⟨fraction, -1074, false⟩
  else ⟨fraction + hidden, (biased : Int) - 1075, fraction = 0 && biased > 1⟩

/-- Four times the number as a fraction, so that the ends of its interval are whole numerators. -/
def Binary.quadruple (b : Binary) : Nat × Nat :=
  if 0 ≤ b.exponent then ((4 * b.mantissa) <<< b.exponent.toNat, 1)
  else (4 * b.mantissa, 1 <<< (-b.exponent).toNat)

/-- Whether `d · 10 ^ k` rounds to the number. -/
def Binary.accepts (b : Binary) (d : Nat) (k : Int) : Bool :=
  let below := if b.narrowBelow then 1 else 2
  let scale := if 0 ≤ b.exponent then 1 <<< b.exponent.toNat else 1
  let den := if 0 ≤ b.exponent then 1 else 1 <<< (-b.exponent).toNat
  let low := (4 * b.mantissa - below) * scale
  let high := (4 * b.mantissa + 2) * scale
  let (value, low, high) :=
    if 0 ≤ k then (4 * d * Nat.pow 10 k.toNat * den, low, high)
    else (4 * d * den, low * Nat.pow 10 (-k).toNat, high * Nat.pow 10 (-k).toNat)
  if b.mantissa % 2 = 0 then low ≤ value && value ≤ high else low < value && value < high

/-- The power of ten of a positive fraction's first digit. -/
def leadingPower (num den : Nat) : Int :=
  if den ≤ num then (Nat.toDigits 10 (num / den)).length - 1
  else
    let zeros := (Nat.toDigits 10 (den / num)).length
    if den ≤ num * Nat.pow 10 (zeros - 1) then -((zeros : Int) - 1) else -zeros

/-- The decimal nearest to the number among its two neighbours on the grid of step `10 ^ k`, if
one of them rounds to it; of two equally near ones the even. -/
def Binary.onGrid (b : Binary) (k : Int) : Option Scaled :=
  let (num, den) := b.quadruple
  let (num, den) :=
    if 0 ≤ k then (num, 4 * den * Nat.pow 10 k.toNat)
    else (num * Nat.pow 10 (-k).toNat, 4 * den)
  let lower := num / den
  let twiceRest := 2 * (num % den)
  let lowerFirst := twiceRest < den || (twiceRest = den && lower % 2 = 0)
  match b.accepts lower k, b.accepts (lower + 1) k with
  | true, true => some ⟨if lowerFirst then lower else lower + 1, k⟩
  | true, false => some ⟨lower, k⟩
  | false, true => some ⟨lower + 1, k⟩
  | false, false => none

/-- The shortest decimal of a positive number. -/
def Binary.shortest (b : Binary) : Scaled :=
  let (num, den) := b.quadruple
  let top := leadingPower num (4 * den)
  let grids := (List.range 17).map fun n : Nat => top - (n : Int)
  (grids.findSome? b.onGrid).getD ⟨0, 0⟩

/-- A decimal's digits without the zeros at their end, and the power of ten just above them. -/
def Scaled.significant (s : Scaled) : List Char × Int :=
  let ds := Nat.toDigits 10 s.digits
  let kept := (ds.reverse.dropWhile (· == '0')).reverse
  (kept, s.exponent + ds.length)

/-- How a decimal is laid out on a line. -/
structure Layout where
  /-- The least power of ten above the digits that is written with a plain point. -/
  leastPlain : Int
  /-- The greatest such power. -/
  greatestPlain : Int
  /-- What is written in front of an exponent that is not negative. -/
  positiveMark : List Char

/-- Between 1e-5 and 1e16 a number has a plain point with a digit on either side; beyond, an
exponent with its sign. -/
def Layout.plain : Layout :=
  ⟨-4, 16, ['+']⟩

/-- The text of significant digits whose point stands at the power of ten `point`. -/
def Layout.write (l : Layout) (ds : List Char) (point : Int) : List Char :=
  if l.leastPlain ≤ point && point ≤ 0 then
    ['0', '.'] ++ List.replicate (-point).toNat '0' ++ ds
  else if 0 < point && point ≤ l.greatestPlain then
    let whole := ds.take point.toNat
    let rest := ds.drop point.toNat
    whole ++ List.replicate (point.toNat - ds.length) '0' ++ ['.'] ++
      (if rest.isEmpty then ['0'] else rest)
  else
    let power := point - 1
    let sign := if 0 ≤ power then l.positiveMark else ['-']
    let tail := if ds.length ≤ 1 then [] else '.' :: ds.drop 1
    ds.take 1 ++ tail ++ ['e'] ++ sign ++ Nat.toDigits 10 power.natAbs

/-- The text of a finite floating-point number: its shortest decimal in the plain layout. -/
def ofFloat (f : Float) : String :=
  let bits := f.toBits
  let sign := if bits >>> 63 = 0 then [] else ['-']
  let b := Binary.ofBits bits
  if b.mantissa = 0 then String.ofList (sign ++ ['0', '.', '0'])
  else
    let (ds, point) := b.shortest.significant
    String.ofList (sign ++ Layout.plain.write ds point)

end Outbox.Decimal
