import IssueSync.Text.Printable
/-!
Quoted text: a text between quotes, as error messages show offending values. The quote is `'`
unless the text holds a `'` and no `"`. Inside, the chosen quote and the backslash are escaped, tab,
line feed and carriage return get their letter escapes, and every other character that is not
printable is written as a hexadecimal escape of two, four or eight digits.
-/
namespace IssueSync.Text

/-- The lower-case hexadecimal digits of `n`, padded with zeros to `width`. -/
def hexDigits (width n : Nat) : List Char :=
  let ds := Nat.toDigits 16 n
  List.replicate (width - ds.length) '0' ++ ds

/-- How one character is written between the quote `q`. -/
def escapeChar (q c : Char) : List Char :=
  if c == q || c == '\\' then ['\\', c]
  else if c == '\t' then ['\\', 't']
  else if c == '\n' then ['\\', 'n']
  else if c == '\r' then ['\\', 'r']
  else if isPrintable c then [c]
  else if c.toNat < 0x100 then '\\' :: 'x' :: hexDigits 2 c.toNat
  else if c.toNat < 0x10000 then '\\' :: 'u' :: hexDigits 4 c.toNat
  else '\\' :: 'U' :: hexDigits 8 c.toNat

/-- The quote a text is written between. -/
def quoteFor (cs : List Char) : Char :=
  if cs.contains '\'' && !cs.contains '"' then '"' else '\''

/-- A text between quotes, with escapes. -/
def quote (s : String) : String :=
  let cs := s.toList
  let q := quoteFor cs
  String.ofList (q :: (cs.flatMap (escapeChar q) ++ [q]))

example : quote "it's" = "\"it's\"" ∧ quote "a\x00b" = "'a\\x00b'" ∧ quote "x​" = "'x\\u200b'" := by
  decide +kernel

end IssueSync.Text
