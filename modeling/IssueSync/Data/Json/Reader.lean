import IssueSync.Data.Value
import IssueSync.Number.IntText
/-!
Reading JSON text. Besides the standard grammar the reader takes `NaN`, `Infinity` and `-Infinity`,
keeps a key that occurs twice at its first place with its last value, and reads a number with a
fraction or an exponent as a double and any other as an integer of at most 4300 digits. A failure
names the first place where the text stops being JSON, as a character offset that the message turns
into a line and a column.
-/
namespace IssueSync.Json

open IssueSync.Number IssueSync.Text

/-- Why a text is not JSON. -/
inductive ReadError where
  /-- The text breaks the grammar at a character offset. -/
  | grammar (reason : String) (pos : Nat)
  /-- An integer has more digits than the limit. -/
  | digitLimit (digits : Nat)
deriving DecidableEq, Repr

/-- Line and column (both from 1) of a character offset. -/
def lineColumn (doc : List Char) (pos : Nat) : Nat × Nat :=
  let before := doc.take pos
  let line := before.count '\n' + 1
  let column := (before.reverse.takeWhile (· != '\n')).length + 1
  (line, column)

/-- The message of a reading error, for the text that was read. -/
def ReadError.message (doc : String) : ReadError → String
  | .grammar reason pos =>
    let (line, column) := lineColumn doc.toList pos
    s!"{reason}: line {line} column {column} (char {pos})"
  | .digitLimit n => digitLimitMessage n

/-- What a step of reading returns: the value, the rest of the text and its offset. -/
abbrev Step (α : Type) := Except ReadError (α × List Char × Nat)

/-- JSON white space. -/
def isSpace (c : Char) : Bool := c == ' ' || c == '\t' || c == '\n' || c == '\r'

/-- Skips white space. -/
def skipSpace : List Char → Nat → List Char × Nat
  | c :: rest, pos => if isSpace c then skipSpace rest (pos + 1) else (c :: rest, pos)
  | [], pos => ([], pos)

/-- The value of four hexadecimal digits. -/
def hex4? (a b c d : Char) : Option Nat := do
  let a ← hexValue? a
  let b ← hexValue? b
  let c ← hexValue? c
  let d ← hexValue? d
  some (((a * 16 + b) * 16 + c) * 16 + d)

/-- The character of a code point; a lone surrogate becomes the replacement character. -/
def codeChar (n : Nat) : Char :=
  if 0xd800 ≤ n && n ≤ 0xdfff then '�' else Char.ofNat n

/-- The character of a one-letter escape. -/
def shortEscape? : Char → Option Char
  | '"' => some '"'
  | '\\' => some '\\'
  | '/' => some '/'
  | 'b' => some '\x08'
  | 'f' => some '\x0c'
  | 'n' => some '\n'
  | 'r' => some '\r'
  | 't' => some '\t'
  | _ => none

/-- Whether a code point is the first half of a surrogate pair. -/
def isHighSurrogate (n : Nat) : Bool := 0xd800 ≤ n && n ≤ 0xdbff

/-- Reads the rest of a string after its opening quote at offset `begin`; `acc` holds the
characters read so far, last first. -/
def readString (begin : Nat) : List Char → Nat → List Char → Step String
  | [], _, _ => .error (.grammar "Unterminated string starting at" begin)
  | '"' :: rest, pos, acc => .ok (String.ofList acc.reverse, rest, pos + 1)
  | '\\' :: [], _, _ => .error (.grammar "Unterminated string starting at" begin)
  | '\\' :: 'u' :: a :: b :: c :: d :: '\\' :: 'u' :: a' :: b' :: c' :: d' :: x :: more, pos, acc =>
    match hex4? a b c d with
    | none => .error (.grammar "Invalid \\uXXXX escape" (pos + 1))
    | some hi =>
      if isHighSurrogate hi then
        match hex4? a' b' c' d' with
        | none => .error (.grammar "Invalid \\uXXXX escape" (pos + 7))
        | some lo =>
          if 0xdc00 ≤ lo && lo ≤ 0xdfff then
            let n := 0x10000 + (hi - 0xd800) * 0x400 + (lo - 0xdc00)
            readString begin (x :: more) (pos + 12) (Char.ofNat n :: acc)
          else readString begin ('\\' :: 'u' :: a' :: b' :: c' :: d' :: x :: more) (pos + 6)
            (codeChar hi :: acc)
      else readString begin ('\\' :: 'u' :: a' :: b' :: c' :: d' :: x :: more) (pos + 6)
        (codeChar hi :: acc)
  | '\\' :: 'u' :: a :: b :: c :: d :: e :: more, pos, acc =>
    match hex4? a b c d with
    | none => .error (.grammar "Invalid \\uXXXX escape" (pos + 1))
    | some hi => readString begin (e :: more) (pos + 6) (codeChar hi :: acc)
  | '\\' :: 'u' :: _, pos, _ => .error (.grammar "Invalid \\uXXXX escape" (pos + 1))
  | '\\' :: c :: rest, pos, acc =>
    match shortEscape? c with
    | some e => readString begin rest (pos + 2) (e :: acc)
    | none => .error (.grammar "Invalid \\escape" pos)
  | c :: rest, pos, acc =>
    if c.toNat ≤ 0x1f then .error (.grammar "Invalid control character at" pos)
    else readString begin rest (pos + 1) (c :: acc)
termination_by cs => cs.length

/-- Splits off the ASCII digits at the front. -/
def takeDigits (cs : List Char) : List Char × List Char :=
  (cs.takeWhile isAsciiDigit, cs.dropWhile isAsciiDigit)

/-- Reads a number starting at offset `start`; `none` when no number starts there. -/
def readNumber (cs : List Char) (start : Nat) : Option (Except ReadError (Value × List Char × Nat)) :=
  let (negative, body) := match cs with
    | '-' :: r => (true, r)
    | _ => (false, cs)
  let intPart? : Option (List Char × List Char) := match body with
    | '0' :: r => some (['0'], r)
    | c :: r => if '1' ≤ c && c ≤ '9' then some (c :: (takeDigits r).1, (takeDigits r).2) else none
    | [] => none
  intPart?.map fun (whole, rest) =>
    let (frac, rest) := match rest with
      | '.' :: d :: r => if isAsciiDigit d then (d :: (takeDigits r).1, (takeDigits r).2) else ([], rest)
      | _ => ([], rest)
    let (expo, rest) : Option Int × List Char := match rest with
      | e :: r =>
        if (e == 'e' || e == 'E') && !r.isEmpty then
          let (sign, r') := match r with
            | '-' :: x :: more => (some true, x :: more)
            | '+' :: x :: more => (some false, x :: more)
            | _ => (none, r)
          let (ds, r'') := takeDigits r'
          if ds.isEmpty then (none, rest)
          else
            let n : Int := digitsValue ds
            (some (if sign == some true then -n else n), r'')
        else (none, rest)
      | [] => (none, rest)
    let used := cs.length - rest.length
    if frac.isEmpty && expo.isNone then
      match readDigits whole with
      | .error n => .error (.digitLimit n)
      | .ok n => .ok (.int (if negative then -(n : Int) else n), rest, start + used)
    else
      let x := scientificToFloat (digitsValue (whole ++ frac)) (expo.getD 0 - frac.length)
      .ok (.float (if negative then -x else x), rest, start + used)

mutual
/-- Reads one value; `fuel` bounds the nesting. -/
def readValue : Nat → List Char → Nat → Step Value
  | 0, _, pos => .error (.grammar "Expecting value" pos)
  | fuel + 1, cs, pos =>
    match cs with
    | [] => .error (.grammar "Expecting value" pos)
    | '"' :: rest => (readString pos rest (pos + 1) []).map fun (s, r, p) => (.str s, r, p)
    | '{' :: rest =>
      let (rest, p) := skipSpace rest (pos + 1)
      match rest with
      | '}' :: r => .ok (.dict [], r, p + 1)
      | _ => readMembers fuel rest p []
    | '[' :: rest =>
      let (rest, p) := skipSpace rest (pos + 1)
      match rest with
      | ']' :: r => .ok (.list [], r, p + 1)
      | _ => readItems fuel rest p []
    | 'n' :: 'u' :: 'l' :: 'l' :: rest => .ok (.null, rest, pos + 4)
    | 't' :: 'r' :: 'u' :: 'e' :: rest => .ok (.bool true, rest, pos + 4)
    | 'f' :: 'a' :: 'l' :: 's' :: 'e' :: rest => .ok (.bool false, rest, pos + 5)
    | 'N' :: 'a' :: 'N' :: rest => .ok (.float (0.0 / 0.0), rest, pos + 3)
    | 'I' :: 'n' :: 'f' :: 'i' :: 'n' :: 'i' :: 't' :: 'y' :: rest => .ok (.float infinity, rest, pos + 8)
    | '-' :: 'I' :: 'n' :: 'f' :: 'i' :: 'n' :: 'i' :: 't' :: 'y' :: rest =>
      .ok (.float (-infinity), rest, pos + 9)
    | _ => (readNumber cs pos).getD (.error (.grammar "Expecting value" pos))
/-- Reads the members of an object after its first blank; `acc` holds those read so far. -/
def readMembers : Nat → List Char → Nat → List (Value × Value) → Step Value
  | 0, _, pos, _ => .error (.grammar "Expecting value" pos)
  | fuel + 1, cs, pos, acc =>
    match cs with
    | '"' :: rest =>
      match readString pos rest (pos + 1) [] with
      | .error e => .error e
      | .ok (key, rest, p) =>
        let (rest, p) := skipSpace rest p
        match rest with
        | ':' :: rest =>
          let (rest, p) := skipSpace rest (p + 1)
          match readValue fuel rest p with
          | .error e => .error e
          | .ok (v, rest, p) =>
            let acc := Value.insertEntry acc (.str key) v
            let (rest, p) := skipSpace rest p
            match rest with
            | '}' :: r => .ok (.dict acc, r, p + 1)
            | ',' :: r =>
              let (r, p) := skipSpace r (p + 1)
              readMembers fuel r p acc
            | _ => .error (.grammar "Expecting ',' delimiter" p)
        | _ => .error (.grammar "Expecting ':' delimiter" p)
    | _ => .error (.grammar "Expecting property name enclosed in double quotes" pos)
/-- Reads the items of an array after its first blank; `acc` holds those read so far, last
first. -/
def readItems : Nat → List Char → Nat → List Value → Step Value
  | 0, _, pos, _ => .error (.grammar "Expecting value" pos)
  | fuel + 1, cs, pos, acc =>
    match readValue fuel cs pos with
    | .error e => .error e
    | .ok (v, rest, p) =>
      let (rest, p) := skipSpace rest p
      match rest with
      | ']' :: r => .ok (.list (v :: acc).reverse, r, p + 1)
      | ',' :: r =>
        let (r, p) := skipSpace r (p + 1)
        readItems fuel r p (v :: acc)
      | _ => .error (.grammar "Expecting ',' delimiter" p)
end

/-- Reads a whole JSON text: one value between optional white space. -/
def read (s : String) : Except ReadError Value :=
  let cs := s.toList
  match cs with
  | '﻿' :: _ => .error (.grammar "Unexpected UTF-8 BOM (decode using utf-8-sig)" 0)
  | _ =>
    let (rest, p) := skipSpace cs 0
    match readValue (2 * cs.length + 2) rest p with
    | .error e => .error e
    | .ok (v, rest, p) =>
      let (rest, p) := skipSpace rest p
      if rest.isEmpty then .ok v else .error (.grammar "Extra data" p)

end IssueSync.Json
