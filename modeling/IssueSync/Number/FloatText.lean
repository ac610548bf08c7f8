import IssueSync.Number.Shortest
import IssueSync.Text.Blank
import IssueSync.Text.Digit
/-!
Doubles as text. Writing uses the shortest digits that read back: positional notation when the
decimal point falls within sixteen places left of the digits and four places right of them, with
`.0` after a whole number, and otherwise one digit, a point, the rest and an exponent of at least two
digits with its sign. Reading accepts surrounding white space, a sign, `inf`, `infinity` and `nan` in
any case, and decimal numerals whose digits may be grouped by single underscores.
-/
namespace IssueSync.Number

open IssueSync.Text

/-- Decimal digits of a natural number. -/
def decimalDigits (n : Nat) : List Char := Nat.toDigits 10 n

/-- Positional or exponent layout of `digits · 10^(point - digits.length)`. -/
def layoutDigits (ds : List Char) (point : Int) : List Char :=
  let n : Int := ds.length
  if -4 < point && point ≤ 16 then
    if point ≤ 0 then '0' :: '.' :: (List.replicate (-point).toNat '0' ++ ds)
    else if n ≤ point then ds ++ List.replicate (point - n).toNat '0' ++ ['.', '0']
    else ds.take point.toNat ++ '.' :: ds.drop point.toNat
  else
    let e := point - 1
    let mantissa := match ds with
      | [] => []
      | [d] => [d]
      | d :: rest => d :: '.' :: rest
    let expDigits := decimalDigits e.natAbs
    let expDigits := if expDigits.length < 2 then '0' :: expDigits else expDigits
    mantissa ++ 'e' :: (if e < 0 then '-' else '+') :: expDigits

/-- The text of a double: shortest digits, `inf`, `-inf` or `nan`. -/
def renderFloat (x : Float) : String :=
  if x.isNaN then "nan"
  else if x.isInf then (if x < 0 then "-inf" else "inf")
  else match Binary.ofFloat? x with
    | none => if x.toBits.toNat / Nat.pow 2 63 == 1 then "-0.0" else "0.0"
    | some (negative, b) =>
      let (d, p) := b.shortest
      let ds := decimalDigits d
      String.ofList ((if negative then ['-'] else []) ++ layoutDigits ds (ds.length + p))

/-- White space as numerals see it once other scripts are mapped: the six ASCII blanks. -/
def isAsciiBlank (c : Char) : Bool :=
  c == ' ' || c == '\t' || c == '\n' || c == '\x0b' || c == '\x0c' || c == '\r'

/-- Numerals read digits of every script and white space of every kind: each other character maps
to its ASCII digit or to a space, and any other non-ASCII character makes the text no numeral. -/
def asciiNumeral? (cs : List Char) : Option (List Char) :=
  cs.mapM fun c =>
    if c.toNat < 0x7f then some c
    else if isBlank c then some ' '
    else (digitValue? c).map fun d => Char.ofNat (48 + d)

/-- Removes the underscores that group digits: each must stand between two digits. -/
def dropGroupingUnderscores : Option Char → List Char → Option (List Char)
  | prev, '_' :: rest =>
    if prev.any isAsciiDigit then
      match rest with
      | c :: _ => if isAsciiDigit c then dropGroupingUnderscores (some '_') rest else none
      | [] => none
    else none
  | _, c :: rest => (dropGroupingUnderscores (some c) rest).map (c :: ·)
  | _, [] => some []

/-- The digits at the front of a list, and the rest. -/
def spanDigits (cs : List Char) : List Char × List Char :=
  (cs.takeWhile isAsciiDigit, cs.dropWhile isAsciiDigit)

/-- The value of a list of ASCII digits. -/
def digitsValue (ds : List Char) : Nat :=
  ds.foldl (fun acc c => 10 * acc + (c.toNat - 48)) 0

/-- Positive infinity. -/
def infinity : Float := 1.0 / 0.0

/-- The double nearest to `m · 10^e`, with overflow to infinity and underflow to zero decided
before any large power is formed. -/
def scientificToFloat (m : Nat) (e : Int) : Float :=
  if m == 0 then 0.0
  else
    let size : Int := (decimalDigits m).length
    if size + e > 310 then infinity
    else if size + e < -330 then 0.0
    else Float.ofScientific m (e < 0) e.natAbs

/-- Case-insensitive comparison of ASCII text. -/
def sameLetters (cs : List Char) (word : String) : Bool :=
  cs.map Char.toLower == word.toList

/-- The value of an unsigned decimal numeral `digits [. digits] [e [sign] digits]`, which must
hold at least one digit before the exponent. -/
def readUnsignedDecimal? (cs : List Char) : Option Float :=
  if sameLetters cs "inf" || sameLetters cs "infinity" then some infinity
  else if sameLetters cs "nan" then some (0.0 / 0.0)
  else
    let (whole, rest) := spanDigits cs
    let (frac, rest) := match rest with
      | '.' :: r => spanDigits r
      | _ => ([], rest)
    if whole.isEmpty && frac.isEmpty then none
    else
      let expo : Option Int := match rest with
        | [] => some 0
        | c :: r =>
          if c == 'e' || c == 'E' then
            let (negative, r) := match r with
              | '-' :: r' => (true, r')
              | '+' :: r' => (false, r')
              | _ => (false, r)
            let (ds, tail) := spanDigits r
            if ds.isEmpty || !tail.isEmpty then none
            else some (if negative then -(digitsValue ds : Int) else digitsValue ds)
          else none
      expo.map fun e => scientificToFloat (digitsValue (whole ++ frac)) (e - frac.length)

/-- Reads a double from text the way a numeric conversion of text does; `none` when the text is no
numeral. -/
def readFloat? (s : String) : Option Float := do
  let cs ← asciiNumeral? s.toList
  let cs := ((cs.dropWhile isAsciiBlank).reverse.dropWhile isAsciiBlank).reverse
  let cs ← if cs.contains '_' then dropGroupingUnderscores none cs else some cs
  if cs.contains '\x00' then none
  else match cs with
    | '-' :: rest => (readUnsignedDecimal? rest).map fun x => -x
    | '+' :: rest => readUnsignedDecimal? rest
    | _ => readUnsignedDecimal? cs

end IssueSync.Number
