import IssueSync.Data.Value
import IssueSync.Text.Quoted
/-!
Values as text. The literal form is how messages show a value: texts quoted, `None`, `True` and
`False`, shortest doubles, days as a constructor call, byte strings quoted after a `b`, and
sequences, sets and mappings in brackets with their items in literal form (an empty set as
`set()`). The display form differs only for texts, which stand as they are, and for days, which
are written `YYYY-MM-DD`.
-/
namespace IssueSync

open IssueSync.Text IssueSync.Number

/-- Decimal digits of `n`, padded with zeros to `width`. -/
def padDecimal (width n : Nat) : String :=
  let ds := Nat.toDigits 10 n
  String.ofList (List.replicate (width - ds.length) '0' ++ ds)

/-- A day as `YYYY-MM-DD`. -/
def Day.iso (d : Day) : String :=
  padDecimal 4 d.year ++ "-" ++ padDecimal 2 d.month ++ "-" ++ padDecimal 2 d.day

/-- A day in literal form. -/
def Day.literal (d : Day) : String :=
  s!"datetime.date({d.year}, {d.month}, {d.day})"

/-- A duration in microseconds in literal form: days, seconds and microseconds, the last two
never negative, zero fields left out. -/
def durationLiteral (us : Int) : String :=
  let days := us / 86400000000
  let rest := us % 86400000000
  let fields := (if days != 0 then [s!"days={days}"] else []) ++
    (if rest / 1000000 != 0 then [s!"seconds={rest / 1000000}"] else []) ++
    (if rest % 1000000 != 0 then [s!"microseconds={rest % 1000000}"] else [])
  "datetime.timedelta(" ++ (if fields.isEmpty then "0" else ", ".intercalate fields) ++ ")"

/-- An offset from UTC in literal form. -/
def offsetLiteral (o : Int) : String :=
  if o == 0 then "datetime.timezone.utc" else "datetime.timezone(" ++ durationLiteral o ++ ")"

/-- A moment in literal form: seconds and microseconds only when not zero (microseconds keep
the seconds), then the offset. -/
def Stamp.literal (t : Stamp) : String :=
  let clock := if t.microsecond != 0 then [t.second, t.microsecond]
    else if t.second != 0 then [t.second] else []
  let fields := [t.year, t.month, t.day, t.hour, t.minute] ++ clock
  let base := ", ".intercalate (fields.map toString)
  match t.offset with
  | some o => s!"datetime.datetime({base}, tzinfo={offsetLiteral o})"
  | none => s!"datetime.datetime({base})"

/-- The text of an offset from UTC: `±HH:MM`, with seconds and microseconds when present. -/
def offsetText (o : Int) : String :=
  let sign := if o < 0 then "-" else "+"
  let a := o.natAbs
  let us := a % 1000000
  let secs := a / 1000000
  let base := sign ++ padDecimal 2 (secs / 3600) ++ ":" ++ padDecimal 2 (secs / 60 % 60)
  if us != 0 then base ++ ":" ++ padDecimal 2 (secs % 60) ++ "." ++ padDecimal 6 us
  else if secs % 60 != 0 then base ++ ":" ++ padDecimal 2 (secs % 60)
  else base

/-- The ISO text of a moment with a separator between date and time. -/
def Stamp.isoWith (sep : String) (t : Stamp) : String :=
  padDecimal 4 t.year ++ "-" ++ padDecimal 2 t.month ++ "-" ++ padDecimal 2 t.day ++ sep ++
    padDecimal 2 t.hour ++ ":" ++ padDecimal 2 t.minute ++ ":" ++ padDecimal 2 t.second ++
    (if t.microsecond != 0 then "." ++ padDecimal 6 t.microsecond else "") ++
    (match t.offset with | some o => offsetText o | none => "")

/-- A byte in the literal form of a byte string quoted by `q`: an ASCII byte as the character
it codes would be written, any other as `\x` and two hexadecimal digits. -/
def byteLiteral (q : Char) (b : UInt8) : List Char :=
  if b < 0x80 then escapeChar q (Char.ofNat b.toNat) else '\\' :: 'x' :: hexDigits 2 b.toNat

/-- The literal form of a byte string: `b` and the quoted bytes, in double quotes when the bytes
hold a single quote and no double quote. -/
def bytesLiteral (bs : List UInt8) : String :=
  let q := if bs.contains 0x27 && !bs.contains 0x22 then '"' else '\''
  String.ofList ('b' :: q :: (bs.flatMap (byteLiteral q) ++ [q]))

namespace Value

mutual
/-- The literal form of a value. -/
def literal : Value → String
  | .null => "None"
  | .bool b => if b then "True" else "False"
  | .int n => toString n
  | .float x => renderFloat x
  | .str s => quote s
  | .date d => d.literal
  | .time t => t.literal
  | .bytes bs => bytesLiteral bs
  | .set xs => if xs.isEmpty then "set()" else "\x7b" ++ literalItems xs ++ "\x7d"
  | .list xs => "[" ++ literalItems xs ++ "]"
  | .dict es => "\x7b" ++ literalEntries es ++ "\x7d"
/-- The items of a sequence in literal form, separated by commas. -/
def literalItems : List Value → String
  | [] => ""
  | [x] => literal x
  | x :: xs => literal x ++ ", " ++ literalItems xs
/-- The entries of a mapping in literal form, separated by commas. -/
def literalEntries : List (Value × Value) → String
  | [] => ""
  | [(k, v)] => literal k ++ ": " ++ literal v
  | (k, v) :: es => literal k ++ ": " ++ literal v ++ ", " ++ literalEntries es
end

/-- The display form of a value: texts as they are, days as `YYYY-MM-DD`, all else literal. -/
def display : Value → String
  | .str s => s
  | .date d => d.iso
  | .time t => t.isoWith " "
  | v => v.literal

end Value

end IssueSync
