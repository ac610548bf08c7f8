/-!
Base64 text read leniently: characters outside the alphabet are skipped, and a padding `=` that
completes a group of four ends the data. The data must fill whole groups: one character beyond a
group is refused, and so are two or three characters without their padding.
-/
namespace IssueSync.Text

/-- The value of a character of the base64 alphabet. -/
def base64Value? (c : Char) : Option Nat :=
  if 'A' ≤ c && c ≤ 'Z' then some (c.toNat - 65)
  else if 'a' ≤ c && c ≤ 'z' then some (c.toNat - 71)
  else if '0' ≤ c && c ≤ '9' then some (c.toNat + 4)
  else if c == '+' then some 62
  else if c == '/' then some 63
  else none

/-- Decodes characters from a place in a group of four: `pos` characters of the group are read,
`left` holds their bits not yet written, `pads` counts the padding met since the last character of
the alphabet, and `out` holds the bytes written so far, last first. -/
def base64Bytes : List Char → Nat → Nat → Nat → List UInt8 → Option (List UInt8)
  | [], pos, _, _, out => if pos == 0 then some out.reverse else none
  | c :: rest, pos, left, pads, out =>
    if c == '=' then
      if pos ≥ 2 then
        if pos + pads + 1 ≥ 4 then some out.reverse else base64Bytes rest pos left (pads + 1) out
      else base64Bytes rest pos left pads out
    else match base64Value? c with
      | none => base64Bytes rest pos left pads out
      | some v =>
        match pos with
        | 0 => base64Bytes rest 1 v 0 out
        | 1 => base64Bytes rest 2 (v % 16) 0 ((left * 4 + v / 16).toUInt8 :: out)
        | 2 => base64Bytes rest 3 (v % 4) 0 ((left * 16 + v / 4).toUInt8 :: out)
        | _ => base64Bytes rest 0 0 0 ((left * 64 + v).toUInt8 :: out)

/-- The bytes base64 text stands for, or `none` when its data does not fill whole groups. -/
def decodeBase64 (s : String) : Option (List UInt8) := base64Bytes s.toList 0 0 0 []

example : decodeBase64 "aGVsbG8=" = some [104, 101, 108, 108, 111] := by decide +kernel
example : decodeBase64 "aGk" = none ∧ decodeBase64 "a" = none ∧ decodeBase64 "aG\n k=" = some [104, 105] := by
  decide +kernel

end IssueSync.Text
