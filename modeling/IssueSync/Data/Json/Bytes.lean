import IssueSync.Data.Json.Reader
import IssueSync.Text.Utf8

/-!
# JSON documents in bytes

A JSON document sent as bytes is read in the encoding its first bytes show: a byte order mark of
UTF-32, UTF-16 or UTF-8 names it, and otherwise the places of zero bytes among the first four
tell UTF-32 or UTF-16 and their byte order; the rest is UTF-8. Encoded surrogates are accepted
and read as the replacement character.
-/

namespace IssueSync.Json

open IssueSync.Text

/-- The encodings a JSON document in bytes may be in. -/
inductive ByteEncoding where
  | utf8
  | utf8Marked
  | utf16Marked
  | utf16 (bigEndian : Bool)
  | utf32Marked
  | utf32 (bigEndian : Bool)
deriving DecidableEq, Repr

/-- The encoding of a JSON document by its first bytes. -/
def detectEncoding (bs : List Nat) : ByteEncoding :=
  match bs with
  | 0xFF :: 0xFE :: 0 :: 0 :: _ | 0 :: 0 :: 0xFE :: 0xFF :: _ => .utf32Marked
  | 0xFF :: 0xFE :: _ | 0xFE :: 0xFF :: _ => .utf16Marked
  | 0xEF :: 0xBB :: 0xBF :: _ => .utf8Marked
  | b0 :: b1 :: b2 :: b3 :: _ =>
    if b0 == 0 then (if b1 != 0 then .utf16 true else .utf32 true)
    else if b1 == 0 then (if b2 != 0 || b3 != 0 then .utf16 false else .utf32 false)
    else .utf8
  | [b0, b1] =>
    if b0 == 0 then .utf16 true else if b1 == 0 then .utf16 false else .utf8
  | _ => .utf8

/-- Code units of a width from bytes in a byte order; `none` when bytes are left over. -/
def units (width : Nat) (bigEndian : Bool) (bs : List Nat) : Option (List Nat) :=
  if bs.isEmpty then some []
  else if short : bs.length < width ∨ width = 0 then none
  else
    let group := bs.take width
    let ordered := if bigEndian then group else group.reverse
    (units width bigEndian (bs.drop width)).map
      (ordered.foldl (fun acc b => acc * 256 + b) 0 :: ·)
termination_by bs.length
decreasing_by
  simp only [List.length_drop]
  have : 0 < bs.length := by
    cases bs with
    | nil => simp at *
    | cons _ _ => simp
  omega

/-- Characters from UTF-16 code units: a high surrogate followed by a low one is one character,
and a lone surrogate reads as the replacement character. -/
def utf16Chars : List Nat → List Char
  | [] => []
  | hi :: lo :: rest =>
    if 0xD800 ≤ hi && hi < 0xDC00 && 0xDC00 ≤ lo && lo < 0xE000 then
      Char.ofNat (0x10000 + (hi - 0xD800) * 0x400 + (lo - 0xDC00)) :: utf16Chars rest
    else charOfCode hi :: utf16Chars (lo :: rest)
  | [u] => [charOfCode u]

/-- The text of bytes in an encoding; `none` when they are malformed in it. -/
def decodeIn (enc : ByteEncoding) (bs : List Nat) : Option String :=
  match enc with
  | .utf8 => decodeStrict true (ByteArray.mk (bs.map (·.toUInt8)).toArray)
  | .utf8Marked => decodeStrict true (ByteArray.mk ((bs.drop 3).map (·.toUInt8)).toArray)
  | .utf16Marked => (units 2 (bs.head? == some 0xFE) (bs.drop 2)).map (String.ofList ∘ utf16Chars)
  | .utf16 big => (units 2 big bs).map (String.ofList ∘ utf16Chars)
  | .utf32Marked => decode32 (bs.head? == some 0) (bs.drop 4)
  | .utf32 big => decode32 big bs
where
  decode32 (big : Bool) (bs : List Nat) : Option String := do
    let us ← units 4 big bs
    if us.any (· ≥ 0x110000) then none else some (String.ofList (us.map charOfCode))

/-- Reads a JSON document from bytes; `none` when the bytes or the text are malformed. -/
def readBytes (data : ByteArray) : Option Value :=
  let bs := data.toList.map (·.toNat)
  match decodeIn (detectEncoding bs) bs with
  | some text => (read text).toOption
  | none => none

end IssueSync.Json
