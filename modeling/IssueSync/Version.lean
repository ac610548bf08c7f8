import IssueSync.Failure
import IssueSync.Text.Blank
import IssueSync.Number.IntText
/-!
Server versions such as `10.4`, `10.4.0.87286` or `9.9-SNAPSHOT`: dotted decimal parts, then an
optional qualifier. Reading trims the text; the parts are the longest dotted run of decimal digits
(of any script) at the front, and the qualifier is what follows, less one leading `-` or `.` when
more follows it. Text whose rest holds a line break is no version. Versions compare by their parts,
padded with zeros to equal length; the qualifier plays no part.
-/
namespace IssueSync

open IssueSync.Text IssueSync.Number

/-- A server version. -/
structure Version where
  parts : List Nat
  qualifier : String
  /-- The trimmed text the version was read from. -/
  raw : String
deriving Repr

namespace Version

/-- Splits a dotted run of decimal digit groups off the front: `digits (. digits)*`. -/
def spanParts : Nat → List Char → List (List Char) × List Char
  | 0, cs => ([], cs)
  | fuel + 1, cs =>
    let group := cs.takeWhile isDecimal
    let rest := cs.dropWhile isDecimal
    if group.isEmpty then ([], cs)
    else match rest with
      | '.' :: d :: more =>
        if isDecimal d then
          let (groups, tail) := spanParts fuel (d :: more)
          (group :: groups, tail)
        else ([group], rest)
      | _ => ([group], rest)

/-- The qualifier of the text after the parts, or `none` when that text holds a line break. -/
def qualifierOf (rest : List Char) : Option String :=
  if rest.contains '\n' then none
  else match rest with
    | c :: more@(_ :: _) => if c == '-' || c == '.' then some (String.ofList more) else some (String.ofList rest)
    | _ => some (String.ofList rest)

/-- The message of text that is no version. -/
def invalidMessage (given : Value) : String := "Invalid version: " ++ given.literal

/-- Reads a version from text; `given` is the value shown when the text is no version. -/
def readText (given : Value) (s : String) : Except Failure Version :=
  let cs := trimList s.toList
  let (groups, rest) := spanParts (cs.length + 1) cs
  if groups.isEmpty then .error (.badValue (invalidMessage given))
  else match qualifierOf rest with
    | none => .error (.badValue (invalidMessage given))
    | some q =>
      match groups.mapM readDigits with
      | .error n => .error (.badValue (digitLimitMessage n))
      | .ok parts => .ok ⟨parts, q, String.ofList cs⟩

/-- Reads a version from text. -/
def create (s : String) : Except Failure Version := readText (.str s) s

/-- Reads a version from any value: a false value counts as empty text, and a true value that is
not text has no text to trim. -/
def ofValue (v : Value) : Except Failure Version :=
  match v with
  | .str s => readText v s
  | _ => if v.truthy then .error (Failure.noAttribute v "strip") else .error (.badValue (invalidMessage v))

/-- The text of a version. -/
def text (v : Version) : String :=
  if v.raw.isEmpty then ".".intercalate (v.parts.map toString) else v.raw

/-- Parts padded with zeros to `width`. -/
def padded (v : Version) (width : Nat) : List Nat :=
  v.parts ++ List.replicate (width - v.parts.length) 0

/-- Compares the parts, padded with zeros to equal length. -/
def compareIgnoringQualifier (a b : Version) : Ordering :=
  let width := max a.parts.length b.parts.length
  compare (a.padded width) (b.padded width)

/-- The comparison as `-1`, `0` or `1`. -/
def compareSign (a b : Version) : Int :=
  match compareIgnoringQualifier a b with
  | .lt => -1
  | .eq => 0
  | .gt => 1

/-- A version satisfies a minimum when it does not compare below it. -/
def satisfies (v minimum : Version) : Bool :=
  compareIgnoringQualifier v minimum != .lt

/-- Versions are the same when their parts are, padding not applied. -/
def sameParts (a b : Version) : Bool := a.parts == b.parts

end Version

end IssueSync
