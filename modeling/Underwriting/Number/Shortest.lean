import Underwriting.Number.Binary64

/-!
The shortest decimal digits that stand for a 64-bit binary number: of all decimals that round to the
number those with the fewest digits, and of these the nearest, the upper one of two that are equally
near. They are printed positionally.
-/

namespace Underwriting.Binary64

/-- The numbers that round to a positive finite number: half a unit to either side, or a quarter
below a power of two, with the ends if the last bit is even. -/
structure Interval where
  low : Rat
  high : Rat
  closed : Bool

def Interval.contains (interval : Interval) (number : Rat) : Bool :=
  (interval.low < number && number < interval.high) ||
    (interval.closed && (number == interval.low || number == interval.high))

def roundingInterval (value : Rat) : Interval :=
  let exponent := binaryExponent value.num.natAbs value.den
  let unit := max (exponent + 1 - significantBits) leastExponent
  let count := countUnits value.num.natAbs value.den unit
  let half := (Dyadic.ofIntWithPrec 1 (1 - unit)).toRat
  let narrow := count == powerOfTwo (significantBits - 1) && leastExponent < unit
  ⟨value - (if narrow then half / 2 else half), value + half, count % 2 == 0⟩

def decimalExponent (value : Rat) : Int :=
  let estimate := binaryExponent value.num.natAbs value.den * 30103 / 100000
  if tenPower (estimate + 1) ≤ value then estimate + 1
  else if tenPower estimate ≤ value then estimate
  else estimate - 1

def candidate? (value : Rat) (interval : Interval) (count : Nat) : Option (Nat × Int) :=
  let exponent := decimalExponent value + 1 - count
  let unit := tenPower exponent
  let below := (value / unit).floor.toNat
  let lower := (below : Rat) * unit
  let upper := (below + 1 : Rat) * unit
  match interval.contains lower, interval.contains upper with
  | true, true => some (if upper - value ≤ value - lower then below + 1 else below, exponent)
  | true, false => some (below, exponent)
  | false, true => some (below + 1, exponent)
  | false, false => none

/-- Digits and exponent of the shortest decimal; 17 digits always suffice. -/
def shortest (value : Rat) : Nat × Int :=
  let interval := roundingInterval value
  ((List.range 17).findSome? fun count => candidate? value interval (count + 1)).getD (0, 0)

def positional (digits : Nat) (exponent : Int) : List Char :=
  match exponent with
  | .ofNat zeros => Text.digitsOf (digits * powerOfTen zeros)
  | .negSucc places =>
      let padded := Text.paddedDigits (places + 2) digits
      padded.take (padded.length - (places + 1)) ++
        '.' :: padded.drop (padded.length - (places + 1))

/-- The shortest text of a finite number. Trailing zeros behind the point never arise, since a
shorter decimal would do. -/
def toShortestChars (value : Dyadic) : List Char :=
  if value = 0 then ['0']
  else
    let (digits, exponent) := shortest (absDyadic value).toRat
    (if value < 0 then ['-'] else []) ++ positional digits exponent

end Underwriting.Binary64
