import IssueSync.Text.Pattern

/-!
# YAML tags of plain scalars

The tags of YAML 1.1 and the rules that give an untagged plain scalar its tag: booleans
(`yes`, `on`, `true` and their negations, in three spellings each), integers (binary, octal
with a leading zero, decimal, hexadecimal and base 60), floats (with a point, base 60, infinity
and not-a-number), null (`~`, `null` or nothing), dates and timestamps, and the two keys `<<`
(merge) and `=` (value). Every other plain scalar, and every quoted one, is text.
-/

namespace IssueSync.Yaml

/-- The full names of the standard tags. -/
def tagNamed (name : String) : String := "tag:yaml.org,2002:" ++ name

/-- The tag of text. -/
def strTag : String := tagNamed "str"
/-- The tag of sequences. -/
def seqTag : String := tagNamed "seq"
/-- The tag of mappings. -/
def mapTag : String := tagNamed "map"

open Pattern

/-- A decimal digit. -/
def digit : Pattern := range '0' '9'

/-- A decimal digit or a grouping underscore. -/
def digitOrGap : Pattern := oneOf "0123456789_"

/-- An optional sign. -/
def sign : Pattern := .opt (oneOf "-+")

/-- A base-60 group: `:` then one digit, or two with the first at most 5. -/
def sixtyGroup : Pattern := seq [lit ":", .opt (range '0' '5'), digit]

/-- The texts that read as booleans. -/
def boolWords : List String :=
  ["yes", "Yes", "YES", "no", "No", "NO", "true", "True", "TRUE", "false", "False", "FALSE",
   "on", "On", "ON", "off", "Off", "OFF"]

/-- The texts that read as floats. -/
def floatPattern : Pattern :=
  let exponent := seq [oneOf "eE", oneOf "-+", plus digit]
  anyOf [
    seq [sign, digit, .many digitOrGap, lit ".", .many digitOrGap, .opt exponent],
    seq [lit ".", digit, .many digitOrGap, .opt exponent],
    seq [sign, digit, .many digitOrGap, plus sixtyGroup, lit ".", .many digitOrGap],
    seq [sign, lit ".", anyOf [lit "inf", lit "Inf", lit "INF"]],
    seq [lit ".", anyOf [lit "nan", lit "NaN", lit "NAN"]]]

/-- The texts that read as integers. -/
def intPattern : Pattern :=
  anyOf [
    seq [sign, lit "0b", plus (oneOf "01_")],
    seq [sign, lit "0", plus (oneOf "01234567_")],
    seq [sign, anyOf [lit "0", seq [range '1' '9', .many digitOrGap]]],
    seq [sign, lit "0x", plus (oneOf "0123456789abcdefABCDEF_")],
    seq [sign, range '1' '9', .many digitOrGap, plus sixtyGroup]]

/-- The texts that read as null. -/
def nullWords : List String := ["~", "null", "Null", "NULL", ""]

/-- The texts that read as dates or timestamps: `YYYY-MM-DD`, or a date with one- or two-digit
month and day followed by a time of day, an optional fraction and an optional zone. -/
def timestampPattern : Pattern :=
  let twoDigits := seq [digit, digit]
  let upToTwo := seq [digit, .opt digit]
  let zone := seq [.many (oneOf " \t"),
    anyOf [lit "Z", seq [oneOf "-+", upToTwo, .opt (seq [lit ":", twoDigits])]]]
  anyOf [
    seq [twoDigits, twoDigits, lit "-", twoDigits, lit "-", twoDigits],
    seq [twoDigits, twoDigits, lit "-", upToTwo, lit "-", upToTwo,
      anyOf [oneOf "Tt", plus (oneOf " \t")], upToTwo, lit ":", twoDigits, lit ":", twoDigits,
      .opt (seq [lit ".", .many digit]), .opt zone]]

/-- The tag of an untagged plain scalar. Rules are tried by the first character, in the order
bool, float, int, merge, null, timestamp, value. -/
def plainTag (text : String) : String :=
  let first := text.toList.head?
  let starts (cs : String) := match first with
    | some c => cs.toList.contains c
    | none => false
  if starts "yYnNtTfFoO" && boolWords.contains text then tagNamed "bool"
  else if starts "-+0123456789." && floatPattern.fullMatch text then tagNamed "float"
  else if starts "-+0123456789" && intPattern.fullMatch text then tagNamed "int"
  else if text == "<<" then tagNamed "merge"
  else if nullWords.contains text then tagNamed "null"
  else if starts "0123456789" && timestampPattern.fullMatch text then tagNamed "timestamp"
  else if text == "=" then tagNamed "value"
  else strTag

example : plainTag "1:30" = tagNamed "int" := by decide +kernel
example : plainTag "0o17" = strTag := by decide +kernel
example : plainTag "1e3" = strTag := by decide +kernel
example : plainTag "" = tagNamed "null" := by decide +kernel

end IssueSync.Yaml
