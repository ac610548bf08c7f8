import IssueSync.Data.ValueText
/-!
Writing values as compact JSON text. Texts are escaped where JSON requires it and otherwise kept as
they are; doubles are written with their shortest digits. Values that JSON cannot spell are written
as tagged objects: an infinite or NaN double as `{"$float": "inf"}` (or `"-inf"`, `"nan"`), a day as
`{"$repr": ...}` with its literal form. Keys that are not texts are written as JSON would name them:
`true`, `false`, `null`, or their digits.
-/
namespace IssueSync.Json

open IssueSync.Number IssueSync.Text

/-- How one character of a text is written inside JSON quotes. -/
def escapeChar (c : Char) : List Char :=
  if c == '"' then ['\\', '"']
  else if c == '\\' then ['\\', '\\']
  else if c == '\n' then ['\\', 'n']
  else if c == '\r' then ['\\', 'r']
  else if c == '\t' then ['\\', 't']
  else if c.toNat < 0x20 then '\\' :: 'u' :: hexDigits 4 c.toNat
  else [c]

/-- A text as a JSON string. -/
def quoteText (s : String) : String :=
  String.ofList ('"' :: (s.toList.flatMap escapeChar ++ ['"']))

/-- The key under which a mapping entry is written. -/
def keyText : Value → String
  | .str s => s
  | .bool b => if b then "true" else "false"
  | .null => "null"
  | .float x =>
    if x.isNaN then "NaN" else if x.isInf then (if x < 0 then "-Infinity" else "Infinity")
    else renderFloat x
  | v => v.display

/-- An object of one member whose value is a text. -/
def tagged (tag text : String) : String := "\x7b" ++ quoteText tag ++ ":" ++ quoteText text ++ "\x7d"

mutual
/-- A value as compact JSON text. -/
def write : Value → String
  | .null => "null"
  | .bool b => if b then "true" else "false"
  | .int n => toString n
  | .float x =>
    if x.isNaN then tagged "$float" "nan"
    else if x.isInf then (if x < 0 then tagged "$float" "-inf" else tagged "$float" "inf")
    else renderFloat x
  | .str s => quoteText s
  | .date d => tagged "$repr" d.literal
  | .time t => tagged "$repr" t.literal
  | .bytes bs => tagged "$repr" (bytesLiteral bs)
  | .set xs => tagged "$repr" (Value.set xs).literal
  | .list xs => "[" ++ writeItems xs ++ "]"
  | .dict es => "\x7b" ++ writeEntries es ++ "\x7d"
/-- Items of an array, separated by commas. -/
def writeItems : List Value → String
  | [] => ""
  | [x] => write x
  | x :: xs => write x ++ "," ++ writeItems xs
/-- Members of an object, separated by commas. -/
def writeEntries : List (Value × Value) → String
  | [] => ""
  | [(k, v)] => quoteText (keyText k) ++ ":" ++ write v
  | (k, v) :: es => quoteText (keyText k) ++ ":" ++ write v ++ "," ++ writeEntries es
end

/-- JSON text with every character beyond ASCII in the basic plane written as a `\u` escape,
which any JSON or YAML reader turns back into the same character. -/
def asciiOnly (s : String) : String :=
  String.ofList (s.toList.flatMap fun c =>
    if c.toNat < 0x80 || c.toNat ≥ 0x10000 then [c] else '\\' :: 'u' :: hexDigits 4 c.toNat)

end IssueSync.Json
