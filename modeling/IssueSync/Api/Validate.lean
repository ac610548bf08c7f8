import IssueSync.Finding.Key
import IssueSync.Number.IntText
import IssueSync.Remote.Exchange

/-!
# Checking request bodies

A request body is checked against the shape its endpoint expects before anything runs. Every
field is checked, and all refusals are reported together, each with its location (the body,
then field names and item positions) and its kind.

The checks are lenient in the usual ways: a boolean also reads from `0` and `1` (as integers,
integral doubles or text) and from words such as `yes` and `off`; an integer also reads from
integral doubles and from text with digits, and a boolean counts as `0` or `1`. Text is never made
from another kind of value. An id must be written in one of the four usual forms of a UUID.
-/

namespace IssueSync.Api

open IssueSync.Number

/-- A refused field: where it is and why. -/
structure FieldError where
  loc : List Value
  kind : String

/-- The result of a check: the value read, or every refusal. -/
abbrev Checked (α : Type) := Except (List FieldError) α

/-- One refusal. -/
def refuse {α : Type} (loc : List Value) (kind : String) : Checked α := .error [⟨loc, kind⟩]

/-- Two checks together; the refusals of both are kept. -/
def Checked.and {α β : Type} (a : Checked α) (b : Checked β) : Checked (α × β) :=
  match a, b with
  | .ok x, .ok y => .ok (x, y)
  | .error e1, .error e2 => .error (e1 ++ e2)
  | .error e, .ok _ => .error e
  | .ok _, .error e => .error e

/-- White space as text trimming for numbers knows it. -/
def isTrimmed (c : Char) : Bool :=
  let n := c.toNat
  (9 ≤ n && n ≤ 13) || n == 0x20 || n == 0x85 || n == 0xA0 || n == 0x1680 ||
    (0x2000 ≤ n && n ≤ 0x200A) || n == 0x2028 || n == 0x2029 || n == 0x202F || n == 0x205F ||
    n == 0x3000

/-- Text without surrounding white space. -/
def trimBlank (s : String) : String :=
  String.ofList ((s.toList.dropWhile isTrimmed).reverse.dropWhile isTrimmed).reverse

/-- The value of plain ASCII digits, at least one. -/
def asciiNumber? (cs : List Char) : Option Nat :=
  if cs.isEmpty || !cs.all (fun c => '0' ≤ c && c ≤ '9') then none
  else some (cs.foldl (fun n c => 10 * n + (c.toNat - 48)) 0)

/-- A short integer: an optional sign and ASCII digits. -/
def shortInt? (cs : List Char) : Option Int :=
  match cs with
  | '-' :: ds => (asciiNumber? ds).map fun n => -(n : Int)
  | '+' :: ds => (asciiNumber? ds).map Int.ofNat
  | ds => (asciiNumber? ds).map Int.ofNat

/-- A long integer: an optional `-`, an optional `+`, then digits with underscores between
them allowed. -/
def longInt? (cs : List Char) : Option Int :=
  let (negative, cs) := match cs with
    | '-' :: rest => if rest.head? == some '+' then (false, cs) else (true, rest)
    | _ => (false, cs)
  let cs := match cs with
    | '+' :: rest => if rest.head? == some '+' then cs else rest
    | _ => cs
  if cs.head? == some '_' then none
  else
    (asciiNumber? (cs.filter (· != '_'))).bind fun n =>
      if cs.isEmpty then none else some (if negative then -(n : Int) else n)

/-- Integer text of a given length class: short texts read plainly, long ones leniently. -/
def intOfDigits? (cs : List Char) (long : Bool) : Option Int :=
  if long then longInt? cs else shortInt? cs

/-- Reads an integer from text: trimmed, at most 4300 bytes, and a point followed only by zeros
is dropped. -/
def intOfText (loc : List Value) (s : String) : Checked Int :=
  let t := trimBlank s
  let size := t.utf8ByteSize
  let long := size ≥ 19
  if size > 4300 then refuse loc "int_parsing_size"
  else match intOfDigits? t.toList long with
    | some n => .ok n
    | none =>
      match t.toList.splitOn '.' with
      | whole :: fraction@(_ :: _) =>
        let rest := ".".intercalate (fraction.map String.ofList)
        if rest.all (· == '0') then
          match intOfDigits? whole long with
          | some n => .ok n
          | none => refuse loc "int_parsing"
        else refuse loc "int_parsing"
      | _ => refuse loc "int_parsing"

/-- The largest magnitude a double may have to be read as an integer. -/
def intLimit : Float := 9223372036854775807.0

/-- Reads an integer from a double: it must be finite, integral and within 64 bits. -/
def intOfDouble (loc : List Value) (x : Float) : Checked Int :=
  if x.isNaN || x.isInf then refuse loc "finite_number"
  else if x.floor != x then refuse loc "int_from_float"
  else if -intLimit < x && x < intLimit then .ok x.toInt64.toInt
  else refuse loc "int_parsing_size"

/-- Checks an integer. -/
def checkInt (loc : List Value) : Value → Checked Int
  | .int n => .ok n
  | .bool b => .ok (if b then 1 else 0)
  | .str s => intOfText loc s
  | .float x => intOfDouble loc x
  | _ => refuse loc "int_type"

/-- The words that read as false. -/
def falseWords : List String := ["f", "n", "no", "off", "false"]

/-- The words that read as true. -/
def trueWords : List String := ["t", "y", "on", "yes", "true"]

/-- Lower-case ASCII letters of a text. -/
def asciiLower (s : String) : String :=
  s.map fun c => if 'A' ≤ c && c ≤ 'Z' then Char.ofNat (c.toNat + 32) else c

/-- Checks a boolean. -/
def checkBool (loc : List Value) : Value → Checked Bool
  | .bool b => .ok b
  | .str s =>
    if s == "0" || falseWords.contains (asciiLower s) then .ok false
    else if s == "1" || trueWords.contains (asciiLower s) then .ok true
    else refuse loc "bool_parsing"
  | .int n =>
    if n == 0 then .ok false else if n == 1 then .ok true
    else if -(Nat.pow 2 63 : Int) ≤ n && n < (Nat.pow 2 63 : Int) then refuse loc "bool_parsing"
    else refuse loc "bool_type"
  | .float x =>
    match intOfDouble loc x with
    | .ok n => if n == 0 then .ok false else if n == 1 then .ok true else refuse loc "bool_parsing"
    | .error _ => refuse loc "bool_type"
  | _ => refuse loc "bool_type"

/-- Checks text. -/
def checkText (loc : List Value) : Value → Checked String
  | .str s => .ok s
  | _ => refuse loc "string_type"

/-- Checks text of at least one character. -/
def checkNonEmpty (loc : List Value) (v : Value) : Checked String := do
  let s ← checkText loc v
  if s.isEmpty then refuse loc "string_too_short" else .ok s

/-- Checks a value that may be null. -/
def checkNullable {α : Type} (check : List Value → Value → Checked α) (loc : List Value) :
    Value → Checked (Option α)
  | .null => .ok none
  | v => (check loc v).map some

/-- Whether a character is a hexadecimal digit. -/
def isHex (c : Char) : Bool := (Remote.hexValue? c).isSome

/-- The 32 digits of a hyphenated id: groups of 8, 4, 4, 4 and 12. -/
def hyphenatedDigits? (cs : List Char) : Option (List Char) :=
  if cs.length == 36 && [8, 13, 18, 23].all (fun i => cs[i]? == some '-') then
    some (cs.filter (· != '-'))
  else none

/-- Reads an id written as 32 digits, hyphenated, braced or as a URN. -/
def parseUuid? (s : String) : Option Uuid :=
  let cs := s.toList
  let digits := match cs.length with
    | 32 => some cs
    | 36 => hyphenatedDigits? cs
    | 38 => if cs.head? == some '\x7b' && cs.getLast? == some '\x7d' then
        hyphenatedDigits? (cs.drop 1).dropLast else none
    | 45 => if "urn:uuid:".toList.isPrefixOf cs then hyphenatedDigits? (cs.drop 9) else none
    | _ => none
  match digits with
  | some ds =>
    if ds.length == 32 && ds.all isHex then
      let n := ds.foldl (fun n c => 16 * n + ((Remote.hexValue? c).getD 0)) 0
      if h : n < Nat.pow 2 128 then some ⟨n, h⟩ else none
    else none
  | none => none

/-- Checks an id. -/
def checkUuid (loc : List Value) : Value → Checked Uuid
  | .str s => match parseUuid? s with
    | some u => .ok u
    | none => refuse loc "uuid_parsing"
  | _ => refuse loc "uuid_type"

/-- The fields of an object; anything else is refused as having no fields. -/
def fieldsOf (loc : List Value) : Value → Checked (List (Value × Value))
  | .dict es => .ok es
  | _ => refuse loc "model_attributes_type"

/-- Checks a required field. -/
def required {α : Type} (es : List (Value × Value)) (loc : List Value) (name : String)
    (check : List Value → Value → Checked α) : Checked α :=
  match Value.field? es name with
  | some v => check (loc ++ [.str name]) v
  | none => refuse (loc ++ [.str name]) "missing"

/-- Checks a field with a default. -/
def optional {α : Type} (es : List (Value × Value)) (loc : List Value) (name : String)
    (check : List Value → Value → Checked α) (fallback : α) : Checked α :=
  match Value.field? es name with
  | some v => check (loc ++ [.str name]) v
  | none => .ok fallback

/-- Checks every item of a list. -/
def checkItems {α : Type} (check : List Value → Value → Checked α) (loc : List Value) :
    Nat → List Value → Checked (List α)
  | _, [] => .ok []
  | i, x :: xs =>
    match (check (loc ++ [.int i]) x).and (checkItems check loc (i + 1) xs) with
    | .ok (y, ys) => .ok (y :: ys)
    | .error e => .error e

/-- Checks a list. -/
def checkList {α : Type} (check : List Value → Value → Checked α) (loc : List Value) :
    Value → Checked (List α)
  | .list xs => checkItems check loc 0 xs
  | _ => refuse loc "list_type"

/-- The body of a permission question. -/
structure PermissionIn where
  connectionId : String
  issueKey : String

/-- The body of a status change. -/
structure ChangeStatusIn where
  scopeId : String
  issueKey : String
  newStatus : String
  isTaint : Bool

/-- The body of a comment. -/
structure CommentIn where
  scopeId : String
  issueKey : String
  text : String

/-- The body of a reopening. -/
structure ReopenIn where
  scopeId : String
  issueId : String
  isTaint : Bool

/-- The body of the reopening of a file's findings. -/
structure ReopenFileIn where
  scopeId : String
  filePath : String

/-- A local finding in a request; an id is made up when none is given. -/
structure LocalFindingIn where
  id : Option Uuid
  filePath : String
  ruleKey : String
  message : String
  line : Option Int
  lineHash : Option String

/-- A server finding in a request. -/
structure ServerFindingIn where
  key : String
  ruleKey : String
  resolved : Bool
  taint : Bool

/-- Checks the body of a permission question. -/
def PermissionIn.check (loc : List Value) (v : Value) : Checked PermissionIn := do
  let es ← fieldsOf loc v
  let (connectionId, issueKey) ← (required es loc "connection_id" checkText).and
    (required es loc "issue_key" checkText)
  return { connectionId, issueKey }

/-- Checks the body of a status change. -/
def ChangeStatusIn.check (loc : List Value) (v : Value) : Checked ChangeStatusIn := do
  let es ← fieldsOf loc v
  let (scopeId, issueKey, newStatus, isTaint) ← (required es loc "scope_id" checkText).and
    ((required es loc "issue_key" checkText).and ((required es loc "new_status" checkText).and
      (optional es loc "is_taint" checkBool false)))
  return { scopeId, issueKey, newStatus, isTaint }

/-- Checks the body of a comment. -/
def CommentIn.check (loc : List Value) (v : Value) : Checked CommentIn := do
  let es ← fieldsOf loc v
  let (scopeId, issueKey, text) ← (required es loc "scope_id" checkText).and
    ((required es loc "issue_key" checkText).and (required es loc "text" checkNonEmpty))
  return { scopeId, issueKey, text }

/-- Checks the body of a reopening. -/
def ReopenIn.check (loc : List Value) (v : Value) : Checked ReopenIn := do
  let es ← fieldsOf loc v
  let (scopeId, issueId, isTaint) ← (required es loc "scope_id" checkText).and
    ((required es loc "issue_id" checkText).and (optional es loc "is_taint" checkBool false))
  return { scopeId, issueId, isTaint }

/-- Checks the body of the reopening of a file's findings. -/
def ReopenFileIn.check (loc : List Value) (v : Value) : Checked ReopenFileIn := do
  let es ← fieldsOf loc v
  let (scopeId, filePath) ← (required es loc "scope_id" checkText).and
    (required es loc "file_path" checkText)
  return { scopeId, filePath }

/-- Checks a local finding. -/
def LocalFindingIn.check (loc : List Value) (v : Value) : Checked LocalFindingIn := do
  let es ← fieldsOf loc v
  let (id, filePath, ruleKey, message, line, lineHash) ←
    (optional es loc "id" (checkNullable checkUuid) none).and
    ((required es loc "file_path" checkNonEmpty).and
    ((required es loc "rule_key" checkNonEmpty).and
    ((optional es loc "message" checkText "").and
    ((optional es loc "line" (checkNullable checkInt) none).and
    (optional es loc "line_hash" (checkNullable checkText) none)))))
  return { id, filePath, ruleKey, message, line, lineHash }

/-- Checks a server finding. -/
def ServerFindingIn.check (loc : List Value) (v : Value) : Checked ServerFindingIn := do
  let es ← fieldsOf loc v
  let (key, ruleKey, resolved, taint) ← (required es loc "key" checkNonEmpty).and
    ((required es loc "rule_key" checkText).and ((optional es loc "resolved" checkBool false).and
      (optional es loc "taint" checkBool false)))
  return { key, ruleKey, resolved, taint }

/-- Checks a body holding a list of findings. -/
def checkFindings {α : Type} (check : List Value → Value → Checked α) (loc : List Value)
    (v : Value) : Checked (List α) := do
  let es ← fieldsOf loc v
  required es loc "findings" (checkList check)

end IssueSync.Api
