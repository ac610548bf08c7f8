/-!
Percent-encoding of a text for use as one path component: the UTF-8 bytes of the text, where every
byte other than an ASCII letter, digit, `_`, `.`, `-` or `~` becomes `%` and two upper-case
hexadecimal digits.
-/
namespace IssueSync.Text

/-- A byte that percent-encoding keeps as it is. -/
def isUnreserved (b : UInt8) : Bool :=
  let c := Char.ofNat b.toNat
  c.isAlphanum || c == '_' || c == '.' || c == '-' || c == '~'

/-- The upper-case hexadecimal digit of a value below sixteen. -/
def upperHexDigit (n : Nat) : Char :=
  if n < 10 then Char.ofNat (48 + n) else Char.ofNat (55 + n)

/-- How one byte is written. -/
def encodeByte (b : UInt8) : List Char :=
  if isUnreserved b then [Char.ofNat b.toNat]
  else ['%', upperHexDigit (b.toNat / 16), upperHexDigit (b.toNat % 16)]

/-- The percent-encoded form of a text. -/
def percentEncode (s : String) : String :=
  String.ofList (s.toUTF8.toList.flatMap encodeByte)

example : percentEncode "a/b ü~" = "a%2Fb%20%C3%BC~" := by decide +kernel

end IssueSync.Text
