/-!
The shortest decimal form of a double. A finite double is `m · 2^q`; the reals that round to it form
an interval around it, with its ends included when `m` is even. For one, two, ... seventeen
significant digits we look at the two points of that decimal grid next to the value: the first grid
with a point inside the interval gives the digits, the nearer point when both are inside, and the
one with an even last digit on an exact tie. All arithmetic is exact, on natural numbers.
-/
namespace IssueSync.Number

/-- A finite, non-zero double without its sign: the value `mantissa · 2^exponent`. -/
structure Binary where
  mantissa : Nat
  exponent : Int
  /-- The next smaller double is closer than the next larger one (a power of two that is not the
  smallest normal number). -/
  narrowBelow : Bool

/-- The sign and the magnitude of a double, or `none` for zero, infinities and NaN. -/
def Binary.ofFloat? (x : Float) : Option (Bool × Binary) :=
  let bits : Nat := x.toBits.toNat
  let negative := bits / Nat.pow 2 63 == 1
  let e : Nat := (bits / Nat.pow 2 52) % 2048
  let f : Nat := bits % Nat.pow 2 52
  if e == 2047 then none
  else if e == 0 then
    if f == 0 then none else some (negative, ⟨f, -1074, false⟩)
  else some (negative, ⟨f + Nat.pow 2 52, (e : Int) - 1075, f == 0 && e > 1⟩)

/-- `a · 10^p` compared with `b · 2^s`, in exact arithmetic. -/
def compareScaled (a : Nat) (p : Int) (b : Nat) (s : Int) : Ordering :=
  let tens := (-p).toNat
  let twos := (-s).toNat
  compare (a * Nat.pow 10 p.toNat * Nat.pow 2 twos) (b * Nat.pow 2 s.toNat * Nat.pow 10 tens)

/-- `⌊mantissa · 2^exponent / 10^p⌋`, and whether the division is exact. -/
def Binary.floorGrid (x : Binary) (p : Int) : Nat × Bool :=
  let num := x.mantissa * Nat.pow 2 x.exponent.toNat * Nat.pow 10 (-p).toNat
  let den := Nat.pow 2 (-x.exponent).toNat * Nat.pow 10 p.toNat
  (num / den, num % den == 0)

/-- The decimal exponent of the leading digit: `10^e ≤ x < 10^(e+1)`. -/
def Binary.leadingExponent (x : Binary) : Int :=
  let scaled := x.mantissa * Nat.pow 2 x.exponent.toNat * Nat.pow 10 400 / Nat.pow 2 (-x.exponent).toNat
  ((Nat.toDigits 10 scaled).length : Int) - 401

/-- The lower end of the rounding interval, as a multiple of `2^(exponent - 2)`. -/
def Binary.lowerEnd (x : Binary) : Nat :=
  if x.narrowBelow then 4 * x.mantissa - 1 else 4 * x.mantissa - 2

/-- The upper end of the rounding interval, as a multiple of `2^(exponent - 2)`. -/
def Binary.upperEnd (x : Binary) : Nat := 4 * x.mantissa + 2

/-- Whether `d · 10^p` reads back as the double. -/
def Binary.readsBack (x : Binary) (d : Nat) (p : Int) : Bool :=
  let inclusive := x.mantissa % 2 == 0
  let lo := compareScaled d p x.lowerEnd (x.exponent - 2)
  let hi := compareScaled d p x.upperEnd (x.exponent - 2)
  (lo == .gt || (inclusive && lo == .eq)) && (hi == .lt || (inclusive && hi == .eq))

/-- The grid point `d · 10^p` nearest to the double among `lo` and `lo + 1` that reads back. -/
def Binary.pick (x : Binary) (lo : Nat) (p : Int) : Option Nat :=
  let below := x.readsBack lo p
  let above := x.readsBack (lo + 1) p
  if below && above then
    -- twice the value against the midpoint of the two grid points
    match compareScaled (2 * lo + 1) p x.mantissa (x.exponent + 1) with
    | .lt => some (lo + 1)
    | .gt => some lo
    | .eq => some (if lo % 2 == 0 then lo else lo + 1)
  else if below then some lo
  else if above then some (lo + 1)
  else none

/-- Strips the trailing zeros of `d · 10^p`. -/
def dropTrailingZeros : Nat → Nat → Int → Nat × Int
  | 0, d, p => (d, p)
  | fuel + 1, d, p => if d != 0 && d % 10 == 0 then dropTrailingZeros fuel (d / 10) (p + 1) else (d, p)

/-- The shortest digits `d` and exponent `p` with `d · 10^p` reading back as the double, searched
among `1 + k` to seventeen significant digits. -/
def Binary.search (x : Binary) (lead : Int) : Nat → Nat → Option (Nat × Int)
  | 0, _ => none
  | fuel + 1, k =>
    let p := lead + 1 - (k + 1 : Nat)
    let (lo, exact) := x.floorGrid p
    if exact then some (lo, p)
    else match x.pick lo p with
      | some d => some (d, p)
      | none => x.search lead fuel (k + 1)

/-- The shortest decimal digits of a finite non-zero double, as `digits · 10^exponent` with no
trailing zero in `digits`. -/
def Binary.shortest (x : Binary) : Nat × Int :=
  match x.search x.leadingExponent 17 0 with
  | some (d, p) => dropTrailingZeros 20 d p
  | none => (x.mantissa, 0)

end IssueSync.Number
