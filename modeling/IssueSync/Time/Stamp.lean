import IssueSync.Failure
/-!
Timestamps in ISO 8601 text, as resolution records store them. Reading works on the UTF-8 bytes of
the text: a date `YYYY-MM-DD`, `YYYYMMDD` or an ISO week date (`YYYY-Www[-D]`, `YYYYWww[D]`), then,
after any single separator byte, a time `HH[:MM[:SS[.f...]]]` (colons optional throughout) and an
offset `Z` or `±HH[:MM[:SS[.f...]]]`. Fractions keep six digits and drop the rest. A text that
breaks this grammar is refused as a whole; one that fits it but names no moment (month 13, hour 24)
is refused with the reason. Writing gives `YYYY-MM-DDTHH:MM:SS`, then `.ffffff` when there are
microseconds, then the offset as `±HH:MM`, with seconds and microseconds only when present.
-/
namespace IssueSync

namespace Stamp

/-- A byte of the text, or zero past its end (the text ends in a zero byte). -/
def byteAt (bs : Array UInt8) (i : Nat) : Nat := (bs[i]?.map UInt8.toNat).getD 0

/-- An ASCII digit byte. -/
def isDigitByte (b : Nat) : Bool := 48 ≤ b && b ≤ 57

/-- Reads `count` digits at `i`: the value and the offset after them. -/
def digitsAt (bs : Array UInt8) : Nat → Nat → Nat → Option (Nat × Nat)
  | 0, i, acc => some (acc, i)
  | count + 1, i, acc =>
    let b := byteAt bs i
    if isDigitByte b then digitsAt bs count (i + 1) (10 * acc + (b - 48)) else none

/-- Where the date ends and the separator stands, from the shape of the first bytes. -/
def separatorAt (bs : Array UInt8) (len : Nat) : Option Nat :=
  if len == 7 then some 7
  else if byteAt bs 4 == 45 then
    if byteAt bs 5 == 87 then
      if len < 8 then none
      else if len > 8 && byteAt bs 8 == 45 then
        if len == 9 then none
        else if len > 10 && isDigitByte (byteAt bs 10) then some 8
        else some 10
      else some 8
    else some 10
  else if byteAt bs 4 == 87 then
    let idx := (((List.range len).drop 7).find? fun i => !isDigitByte (byteAt bs i)).getD len
    if idx < 9 then some idx
    else if idx % 2 == 0 then some 7 else some 8
  else some 8

/-- Whether a year has 366 days. -/
def isLeap (y : Nat) : Bool := y % 4 == 0 && (y % 100 != 0 || y % 400 == 0)

/-- Days in a month of a year. -/
def daysIn (y m : Nat) : Nat :=
  if m == 2 then (if isLeap y then 29 else 28)
  else if m == 4 || m == 6 || m == 9 || m == 11 then 30 else 31

/-- Days from 0001-01-01 to the first day of a year. -/
def daysBeforeYear (y : Nat) : Nat :=
  let p := y - 1
  p * 365 + p / 4 - p / 100 + p / 400

/-- Days from the first of the year to the first of a month. -/
def daysBeforeMonth (y m : Nat) : Nat :=
  (List.range (m - 1)).foldl (fun acc i => acc + daysIn y (i + 1)) 0

/-- The ordinal of a date: day 1 is 0001-01-01. -/
def ordinal (y m d : Nat) : Nat := daysBeforeYear y + daysBeforeMonth y m + d

/-- The date of an ordinal. -/
def ofOrdinal (n : Nat) : Nat × Nat × Nat :=
  let y := ((List.range 10001).find? fun y => daysBeforeYear (y + 1) ≥ n).getD 1
  let y := if y == 0 then 1 else y
  let doy := n - daysBeforeYear y
  let m := ((List.range 12).find? fun m => daysBeforeMonth y (m + 2) ≥ doy || m == 11).getD 11 + 1
  (y, m, doy - daysBeforeMonth y m)

/-- The ordinal of the first day of a year; year 0, before the calendar starts, has 366 days. -/
def yearStart (y : Nat) : Int := if y == 0 then -365 else daysBeforeYear y + 1

/-- The date of an ISO week date, or why there is none. Weekdays are counted with a remainder
that keeps the sign of the ordinal, so a week date of year 0 lands on an ordinal before the first
day of the calendar; such a day reads as month 0 of year 1, which the range checks refuse. -/
def ofWeekDate (year week day : Nat) : Except String (Nat × Nat × Nat) :=
  let firstWeekday := Int.tmod (yearStart year) 7  -- 1 is a Monday
  let longYear := firstWeekday == 4 || (firstWeekday == 3 && isLeap year)
  if week == 0 || week > 53 || (week == 53 && !longYear) then .error s!"Invalid week: {week}"
  else if day == 0 || day > 7 then .error s!"Invalid weekday: {day} (range is [1, 7])"
  else
    let wd := Int.tmod (yearStart year + 6) 7
    let weekOneMonday : Int := yearStart year - wd + (if wd > 3 then 7 else 0)
    let n := weekOneMonday + 7 * ((week : Int) - 1) + ((day : Int) - 1)
    .ok (if n ≤ 0 then (1, 0, 0) else ofOrdinal n.toNat)

/-- How reading the date part ended. -/
inductive DateRead where
  | date (y m d : Nat)
  | malformed
  | week (reason : String)

/-- Reads the date part, which runs up to `len`. -/
def readDate (bs : Array UInt8) (len : Nat) : DateRead :=
  match digitsAt bs 4 0 0 with
  | none => .malformed
  | some (year, i) =>
    let sep := byteAt bs i == 45
    let i := if sep then i + 1 else i
    if byteAt bs i == 87 then
      match digitsAt bs 2 (i + 1) 0 with
      | none => .malformed
      | some (week, j) =>
        let day? : Option Nat :=
          if j < len then
            if sep && byteAt bs j != 45 then none
            else (digitsAt bs 1 (if sep then j + 1 else j) 0).map Prod.fst
          else some 1
        match day? with
        | none => .malformed
        | some day =>
          match ofWeekDate year week day with
          | .ok (y, m, d) => .date y m d
          | .error _ => .malformed
    else
      match digitsAt bs 2 i 0 with
      | none => .malformed
      | some (month, j) =>
        if sep && byteAt bs j != 45 then .malformed
        else match digitsAt bs 2 (if sep then j + 1 else j) 0 with
          | none => .malformed
          | some (day, _) => .date year month day

/-- Reads `HH[:MM[:SS[.f...]]]` between `start` and `stop`: the fields, and whether bytes were
left over. -/
def readClock (bs : Array UInt8) (start stop : Nat) : Option (List Nat × Nat × Bool) :=
  let rec fields : Nat → Nat → Bool → List Nat → Option (List Nat × Option Nat × Bool)
    | 0, i, _, acc => some (acc.reverse, some i, false)
    | k + 1, i, hasSep, acc =>
      match digitsAt bs 2 i 0 with
      | none => none
      | some (v, j) =>
        let c := byteAt bs j
        let hasSep := if acc.isEmpty then c == 58 else hasSep
        let j := j + 1
        if j ≥ stop then some ((v :: acc).reverse, none, c != 0)
        else if hasSep && c == 58 then fields k j hasSep (v :: acc)
        else if c == 46 || c == 44 then some ((v :: acc).reverse, some j, false)
        else if !hasSep then fields k (j - 1) hasSep (v :: acc)
        else none
  match fields 3 start true [] with
  | none => none
  | some (vals, none, rest) => some (vals, 0, rest)
  | some (vals, some j, _) =>
    let remains := stop - j
    let take := if remains ≥ 6 then 6 else remains
    match digitsAt bs take j 0 with
    | none => none
    | some (f, k) =>
      let f := if take < 6 then f * Nat.pow 10 (6 - take) else f
      let k := (((List.range (bs.size + 1)).drop k).find? fun i => !isDigitByte (byteAt bs i)).getD (bs.size)
      some (vals, f, byteAt bs k != 0)

/-- The hour, minute and second of clock fields, zero where missing. -/
def clockParts (vals : List Nat) : Nat × Nat × Nat :=
  (vals.getD 0 0, vals.getD 1 0, vals.getD 2 0)

/-- Reads the time and offset after the separator; `none` when malformed. -/
def readTime (bs : Array UInt8) (start : Nat) : Option (Nat × Nat × Nat × Nat × Option Int) :=
  let stop := bs.size
  let tz := (((List.range stop).drop start).find? fun i =>
    let b := byteAt bs i; b == 90 || b == 43 || b == 45).getD (max stop (start + 1))
  match readClock bs start tz with
  | none => none
  | some (vals, micro, rest) =>
    let (h, m, s) := clockParts vals
    if tz ≥ stop then (if rest then none else some (h, m, s, micro, none))
    else if byteAt bs tz == 90 then
      if byteAt bs (tz + 1) != 0 then none else some (h, m, s, micro, some 0)
    else
      let sign : Int := if byteAt bs tz == 45 then -1 else 1
      match readClock bs (tz + 1) stop with
      | none => none
      | some (tvals, tmicro, trest) =>
        if trest then none
        else
          let (th, tm, ts) := clockParts tvals
          -- an offset of zero seconds is UTC, whatever its fraction
          let secs := th * 3600 + tm * 60 + ts
          let total : Int := if secs == 0 then 0 else sign * ((secs * 1000000 + tmicro : Nat) : Int)
          some (h, m, s, micro, some total)

/-- The message of text that is no timestamp. -/
def invalidMessage (s : String) : String := "Invalid isoformat string: " ++ (Value.str s).literal

/-- Checks that the fields name a moment; the offset is checked first. -/
def check (t : Stamp) : Except Failure Stamp :=
  match t.offset with
  | some o =>
    if o.natAbs ≥ 86400000000 then
      .error (.badValue ("offset must be a timedelta strictly between -timedelta(hours=24) and " ++
        "timedelta(hours=24), not " ++ durationLiteral o ++ "."))
    else checkFields t
  | none => checkFields t
where
  checkFields (t : Stamp) : Except Failure Stamp :=
  if t.year < 1 || t.year > 9999 then .error (.badValue s!"year {t.year} is out of range")
  else if t.month < 1 || t.month > 12 then .error (.badValue "month must be in 1..12")
  else if t.day < 1 || t.day > daysIn t.year t.month then .error (.badValue "day is out of range for month")
  else if t.hour > 23 then .error (.badValue "hour must be in 0..23")
  else if t.minute > 59 then .error (.badValue "minute must be in 0..59")
  else if t.second > 59 then .error (.badValue "second must be in 0..59")
  else .ok t

/-- The text with its separator made ASCII: the first non-ASCII character at one of the places a
separator can stand (7, 8 or 10) becomes `T`. -/
def asciiSeparator (cs : List Char) : List Char :=
  match [7, 8, 10].find? fun i => i < cs.length && (cs.getD i 'T').toNat ≥ 0x80 with
  | some i => cs.set i 'T'
  | none => cs

/-- Reads a timestamp from text. -/
def read (s : String) : Except Failure Stamp :=
  let bs := (String.ofList (asciiSeparator s.toList)).toUTF8.data
  let len := bs.size
  if s.length < 7 then .error (.badValue (invalidMessage s))
  else match separatorAt bs len with
    | none => .error (.badValue (invalidMessage s))
    | some sepAt =>
      match readDate bs sepAt with
      | .malformed => .error (.badValue (invalidMessage s))
      | .week _ => .error (.badValue (invalidMessage s))
      | .date y mo d =>
        if len > sepAt then
          match readTime bs (sepAt + 1) with
          | none => .error (.badValue (invalidMessage s))
          | some (h, mi, sec, us, off) => check ⟨y, mo, d, h, mi, sec, us, off⟩
        else check { year := y, month := mo, day := d }

/-- Reads a timestamp from any value: only text can be read. -/
def ofValue (v : Value) : Except Failure Stamp :=
  match v with
  | .str s => read s
  | _ => .error (.badType "fromisoformat: argument must be str")

/-- The ISO text of a timestamp. -/
def text (t : Stamp) : String := t.isoWith "T"

end Stamp

end IssueSync
