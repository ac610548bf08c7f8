/-!
Full case mapping, as far as it can end in ASCII text. Names and wire codes are ASCII, so a text can
only map onto one of them if every character maps to ASCII letters: ASCII characters map as usual,
and a handful of other characters (sharp s, dotless i, long s, the Latin ligatures and the Kelvin
sign) map onto ASCII letters too. Every other character maps outside ASCII.
-/
namespace IssueSync.Text

/-- The upper-case form of a character, when that form is ASCII. -/
def upperCharAscii? (c : Char) : Option (List Char) :=
  if c.toNat < 0x80 then some [c.toUpper]
  else match c.toNat with
    | 0xdf => some ['S', 'S']
    | 0x131 => some ['I']
    | 0x17f => some ['S']
    | 0xfb00 => some ['F', 'F']
    | 0xfb01 => some ['F', 'I']
    | 0xfb02 => some ['F', 'L']
    | 0xfb03 => some ['F', 'F', 'I']
    | 0xfb04 => some ['F', 'F', 'L']
    | 0xfb05 => some ['S', 'T']
    | 0xfb06 => some ['S', 'T']
    | _ => none

/-- The lower-case form of a character, when that form is ASCII. -/
def lowerCharAscii? (c : Char) : Option (List Char) :=
  if c.toNat < 0x80 then some [c.toLower]
  else if c.toNat == 0x212a then some ['k']
  else none

/-- The upper-case form of a text, when it is ASCII; `none` when it is not. -/
def upperAscii? (s : String) : Option String :=
  (s.toList.mapM upperCharAscii?).map fun parts => String.ofList parts.flatten

/-- The lower-case form of a text, when it is ASCII; `none` when it is not. -/
def lowerAscii? (s : String) : Option String :=
  (s.toList.mapM lowerCharAscii?).map fun parts => String.ofList parts.flatten

example : upperAscii? "false_posıtıve" = some "FALSE_POSITIVE" ∧ upperAscii? "é" = none := by
  decide

end IssueSync.Text
