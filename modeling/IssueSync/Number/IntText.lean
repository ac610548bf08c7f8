import IssueSync.Number.FloatText
import IssueSync.Text.Quoted
/-!
Integer numerals. Decimal numerals hold digits of any script and are limited to 4300 digits.
Hexadecimal numerals follow the rules of integer conversion in base sixteen: surrounding white
space, a sign, an optional `0x` prefix that one underscore may follow, and single underscores between
digits.
-/
namespace IssueSync.Number

open IssueSync.Text

/-- The most digits a decimal numeral may have. -/
def digitLimit : Nat := 4300

/-- Why a decimal numeral was refused: it has more digits than the limit. -/
def digitLimitMessage (digits : Nat) : String :=
  s!"Exceeds the limit (4300 digits) for integer string conversion: value has {digits} digits; " ++
    "use sys.set_int_max_str_digits() to increase the limit"

/-- The value of a numeral of decimal digits of any script, or the number of digits when there
are more than the limit. -/
def readDigits (cs : List Char) : Except Nat Nat :=
  if cs.length > digitLimit then .error cs.length
  else .ok (cs.foldl (fun acc c => 10 * acc + (digitValue? c).getD 0) 0)

/-- The value of an ASCII hexadecimal digit. -/
def hexValue? (c : Char) : Option Nat :=
  if '0' ≤ c && c ≤ '9' then some (c.toNat - 48)
  else if 'a' ≤ c && c ≤ 'f' then some (c.toNat - 87)
  else if 'A' ≤ c && c ≤ 'F' then some (c.toNat - 55)
  else none

/-- The value of an ASCII digit in a base up to sixteen. -/
def digitIn (base : Nat) (c : Char) : Option Nat := (hexValue? c).filter (· < base)

/-- Digits of a base with single underscores between them; `none` on a doubled or trailing
underscore or another character. The first result is the value, the second the digit count. -/
def bodyIn (base : Nat) : List Char → Nat → Nat → Bool → Option (Nat × Nat)
  | [], acc, count, lastUnderscore => if lastUnderscore then none else some (acc, count)
  | '_' :: rest, acc, count, lastUnderscore =>
    if lastUnderscore then none else bodyIn base rest acc count true
  | c :: rest, acc, count, _ =>
    match digitIn base c with
    | some d => bodyIn base rest (base * acc + d) (count + 1) false
    | none => none

/-- The letter that may follow a leading `0` to name a base: `b`, `o` or `x`. -/
def prefixLetter : Nat → Option Char
  | 2 => some 'b'
  | 8 => some 'o'
  | 16 => some 'x'
  | _ => none

/-- Reads an integer numeral of a base: surrounding white space, a sign, the base's optional
prefix (which one underscore may follow), then digits with single underscores between them.
The results are the value and the number of digits; `none` when the text is no numeral. -/
def readIntIn? (base : Nat) (s : String) : Option (Int × Nat) := do
  let cs ← asciiNumeral? s.toList
  if cs.contains '\x00' then none
  else
    let cs := ((cs.dropWhile isAsciiBlank).reverse.dropWhile isAsciiBlank).reverse
    let (negative, cs) := match cs with
      | '-' :: r => (true, r)
      | '+' :: r => (false, r)
      | _ => (false, cs)
    let cs := match cs, prefixLetter base with
      | '0' :: l :: r, some p =>
        if l.toLower == p then (match r with | '_' :: r' => r' | _ => r) else cs
      | _, _ => cs
    match cs with
    | '_' :: _ => none
    | _ =>
      let (value, count) ← bodyIn base cs 0 0 false
      if count == 0 then none else some (if negative then -(value : Int) else value, count)

/-- Reads a hexadecimal integer numeral, sign included; `none` when the text is no numeral. -/
def readHexInt? (s : String) : Option Int := (readIntIn? 16 s).map (·.1)

/-- Integer conversion of text in a base, or the message of its refusal. Decimal numerals are
limited to 4300 digits; the refused text is quoted and cut to 200 characters. -/
def intOfText (base : Nat) (s : String) : Except String Int :=
  match readIntIn? base s with
  | none => .error (s!"invalid literal for int() with base {base}: " ++
      String.ofList ((quote s).toList.take 200))
  | some (v, count) =>
    if base == 10 && count > digitLimit then .error (digitLimitMessage count) else .ok v

end IssueSync.Number
