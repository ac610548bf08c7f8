import IssueSync.Data.Yaml.Node
import IssueSync.Number.IntText
import IssueSync.Time.Stamp
import IssueSync.Text.Base64

/-!
# YAML documents as values

The last stage of reading YAML: a node tree becomes a `Value`. Scalars are read by their tag
(null, boolean, integer, float, timestamp, base64 bytes, text), sequences become lists and
mappings become dictionaries, or sets of their keys. A mapping takes the pairs of the mappings
under its `<<` keys first, so that its own pairs override them. A mapping key that is a list, a
set or a dictionary is a fault, as is a tag without a reading.
-/

namespace IssueSync.Yaml

open IssueSync.Number IssueSync.Text

/-- A fault of reading a node as a value. -/
def constructorFault {α : Type} : Except Failure α := .error (.text .constructor)

/-- Reading the first character of an empty text. -/
def emptyIndex {α : Type} : Except Failure α := .error (.outOfRange "string index out of range")

/-- The text with every underscore removed. -/
def dropUnderscores (s : String) : String := String.ofList (s.toList.filter (· != '_'))

/-- The sign and the rest of a numeral. -/
def splitSign (s : String) : Except Failure (Int × String) :=
  match s.toList with
  | [] => emptyIndex
  | '-' :: rest => .ok (-1, String.ofList rest)
  | '+' :: rest => .ok (1, String.ofList rest)
  | _ => .ok (1, s)

/-- Integer conversion of text in a base, refusals as value errors. -/
def intIn (base : Nat) (s : String) : Except Failure Int :=
  (intOfText base s).mapError .badValue

/-- Reads an integer scalar: underscores dropped, then a sign, then `0`, binary after `0b`,
hexadecimal after `0x`, octal after another leading `0`, base 60 when `:` separates digit
groups, and decimal otherwise. -/
def readInt (text : String) : Except Failure Int := do
  let (sign, body) ← splitSign (dropUnderscores text)
  if body == "0" then return 0
  if body.startsWith "0b" then return sign * (← intIn 2 (String.ofList (body.toList.drop 2)))
  if body.startsWith "0x" then return sign * (← intIn 16 (String.ofList (body.toList.drop 2)))
  match body.toList with
  | [] => emptyIndex
  | '0' :: _ => return sign * (← intIn 8 body)
  | cs =>
    if cs.contains ':' then
      let groups ← (body.splitOn ":").mapM (intIn 10)
      return sign * groups.foldl (fun acc g => acc * 60 + g) 0
    return sign * (← intIn 10 body)

/-- Float conversion of text, a refusal as a value error. -/
def floatOf (s : String) : Except Failure Float :=
  match readFloat? s with
  | some x => .ok x
  | none => .error (.badValue ("could not convert string to float: " ++ quote s))

/-- The value of base-60 groups, the last group counting ones. -/
def sixtyValue (groups : List Float) : Float :=
  (groups.reverse.foldl (fun (acc, unit) g => (acc + g * unit, unit * 60.0)) (0.0, 1.0)).1

/-- Reads a float scalar: underscores dropped and letters lowered, then a sign, then `.inf`,
`.nan`, base 60 when `:` separates groups, or a decimal numeral. -/
def readFloat (text : String) : Except Failure Float := do
  let (sign, body) ← splitSign (String.ofList ((dropUnderscores text).toList.map Char.toLower))
  let signed := fun (x : Float) => if sign < 0 then -x else x
  if body == ".inf" then return signed infinity
  if body == ".nan" then return 0.0 / 0.0
  if body.toList.contains ':' then
    return signed (sixtyValue (← (body.splitOn ":").mapM floatOf))
  return signed (← floatOf body)

/-- Exactly `n` ASCII digits at the front, and the rest. -/
def digitsExactly (n : Nat) (cs : List Char) : Option (Nat × List Char) :=
  let ds := cs.take n
  if ds.length == n && ds.all isDigitChar then
    some (ds.foldl (fun acc c => acc * 10 + (c.toNat - '0'.toNat)) 0, cs.drop n)
  else none

/-- One or two ASCII digits at the front, as many as there are, and the rest. -/
def digitsUpToTwo (cs : List Char) : Option (Nat × List Char) :=
  match digitsExactly 2 cs with
  | some r => some r
  | none => digitsExactly 1 cs

/-- Drops one expected character. -/
def expectChar (c : Char) : List Char → Option (List Char)
  | d :: rest => if c == d then some rest else none
  | [] => none

/-- The moment a timestamp scalar names: `YYYY-M-D`, or that with `T`, `t` or blanks then
`H:MM:SS`, an optional fraction (six digits kept) and an optional zone (`Z` or a signed hour
with optional minutes). A date alone has no time of day; `none` when the text has neither
shape. -/
def timestampFields (text : String) : Option (Stamp × Bool) := do
  let (year, cs) ← digitsExactly 4 text.toList
  let (month, cs) ← digitsUpToTwo (← expectChar '-' cs)
  let (day, cs) ← digitsUpToTwo (← expectChar '-' cs)
  if cs.isEmpty then return ({ year, month, day }, false)
  let cs ← match cs with
    | c :: rest =>
      if c == 'T' || c == 't' then some rest
      else if c == ' ' || c == '\t' then some (cs.dropWhile fun c => c == ' ' || c == '\t')
      else none
    | [] => none
  let (hour, cs) ← digitsUpToTwo cs
  let (minute, cs) ← digitsExactly 2 (← expectChar ':' cs)
  let (second, cs) ← digitsExactly 2 (← expectChar ':' cs)
  let (fraction, cs) := match cs with
    | '.' :: rest => (rest.takeWhile isDigitChar, rest.dropWhile isDigitChar)
    | _ => ([], cs)
  let microsecond := ((fraction.take 6) ++ List.replicate (6 - min 6 fraction.length) '0').foldl
    (fun acc c => acc * 10 + (c.toNat - '0'.toNat)) 0
  let offset ← if cs.isEmpty then some none else do
    let cs := cs.dropWhile fun c => c == ' ' || c == '\t'
    match cs with
    | ['Z'] => some (some 0)
    | s :: rest =>
      if s != '+' && s != '-' then none else do
      let (h, rest) ← digitsUpToTwo rest
      let (m, rest) ← match rest with
        | ':' :: more => digitsExactly 2 more
        | _ => some (0, rest)
      if !rest.isEmpty then none
      let size : Int := ((h * 60 + m) * 60 * 1000000 : Nat)
      some (some (if s == '-' then -size else size))
    | [] => none
  return ({ year, month, day, hour, minute, second, microsecond, offset }, true)

/-- Reads a timestamp scalar as a date, or as a moment when it has a time of day. -/
def readTimestamp (text : String) : Except Failure Value :=
  match timestampFields text with
  | none => .error (Failure.noAttribute .null "groupdict")
  | some (t, timed) => do
    let t ← Stamp.check t
    return if timed then .time t else .date ⟨t.year, t.month, t.day⟩

/-- The values of the words a boolean scalar may be, in lower case. -/
def boolWord? : String → Option Bool
  | "yes" | "true" | "on" => some true
  | "no" | "false" | "off" => some false
  | _ => none

/-- Reads a scalar by its tag. -/
def scalarValue (tag text : String) : Except Failure Value :=
  if tag == tagNamed "null" then .ok .null
  else if tag == tagNamed "bool" then
    let lowered := String.ofList (text.toList.map Char.toLower)
    match boolWord? lowered with
    | some b => .ok (.bool b)
    | none => .error (.missingKey (.str lowered))
  else if tag == tagNamed "int" then (readInt text).map .int
  else if tag == tagNamed "float" then (readFloat text).map .float
  else if tag == tagNamed "timestamp" then readTimestamp text
  else if tag == tagNamed "binary" then
    if text.toList.all fun c => c.toNat < 0x80 then
      match decodeBase64 text with
      | some bs => .ok (.bytes bs)
      | none => constructorFault
    else constructorFault
  else if tag == strTag then .ok (.str text)
  else constructorFault

/-- The same node under another tag. -/
def Node.retag (t : String) : Node → Node
  | .scalar _ x => .scalar t x
  | .sequence _ xs => .sequence t xs
  | .mapping _ es => .mapping t es

/-- The pairs of a mapping with merged pairs first: a `<<` key brings in the pairs of its
mapping, or of each mapping of its sequence with the later ones first; a `=` key becomes
text. -/
def mergedEntries : Nat → List (Node × Node) → Except Failure (List (Node × Node))
  | 0, _ => constructorFault
  | fuel + 1, entries => do
    let mut merged : List (Node × Node) := []
    let mut own : List (Node × Node) := []
    for (k, v) in entries do
      if k.tag == tagNamed "merge" then
        match v with
        | .mapping _ es => merged := merged ++ (← mergedEntries fuel es)
        | .sequence _ subs =>
          let mut parts : List (List (Node × Node)) := []
          for sub in subs do
            match sub with
            | .mapping _ es => parts := parts ++ [← mergedEntries fuel es]
            | _ => constructorFault
          merged := merged ++ parts.reverse.flatten
        | _ => constructorFault
      else if k.tag == tagNamed "value" then own := own ++ [(k.retag strTag, v)]
      else own := own ++ [(k, v)]
    return merged ++ own

mutual

/-- The value of a node. -/
def Node.toValue : Nat → Node → Except Failure Value
  | 0, _ => constructorFault
  | _ + 1, .scalar tag text => scalarValue tag text
  | fuel + 1, .sequence tag items =>
    if tag == seqTag then (itemValues fuel items).map .list
    else if tag == tagNamed "omap" || tag == tagNamed "pairs" then (pairValues fuel items).map .list
    else constructorFault
  | fuel + 1, .mapping tag entries =>
    if tag == mapTag || tag == tagNamed "set" then do
      let entries ← mergedEntries fuel entries
      let pairs ← entryValues fuel entries []
      return if tag == mapTag then .dict pairs else .set (pairs.map Prod.fst)
    else constructorFault

/-- The values of a sequence's items. -/
def itemValues : Nat → List Node → Except Failure (List Value)
  | 0, _ => constructorFault
  | _, [] => .ok []
  | fuel + 1, n :: rest => do
    let v ← Node.toValue fuel n
    return v :: (← itemValues fuel rest)

/-- The pairs of an ordered mapping written as a sequence of one-pair mappings. -/
def pairValues : Nat → List Node → Except Failure (List Value)
  | 0, _ => constructorFault
  | _, [] => .ok []
  | fuel + 1, .mapping _ [(k, v)] :: rest => do
    let key ← Node.toValue fuel k
    let value ← Node.toValue fuel v
    return .list [key, value] :: (← pairValues fuel rest)
  | _ + 1, _ :: _ => constructorFault

/-- Builds a dictionary from pairs; a later equal key replaces the value of the earlier one. -/
def entryValues : Nat → List (Node × Node) → List (Value × Value) →
    Except Failure (List (Value × Value))
  | 0, _, _ => constructorFault
  | _, [], acc => .ok acc
  | fuel + 1, (k, v) :: rest, acc => do
    let key ← Node.toValue fuel k
    if !key.hashable then constructorFault
    let value ← Node.toValue fuel v
    entryValues fuel rest (Value.insertEntry acc key value)

end

/-- The value of a YAML text holding at most one document; an empty stream is null. -/
def readYaml (text : String) : Except Failure Value := do
  match ← Node.ofText text with
  | none => return .null
  | some n => n.toValue (16 * (text.length + 2))

end IssueSync.Yaml
