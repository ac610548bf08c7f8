import IssueSync.Failure

/-!
# YAML tokens

The first stage of reading YAML 1.1 text: a cursor over the characters that hands out tokens
one at a time. Tokens are produced lazily, so a fault far down the text is reported only when
a later stage asks for a token past an earlier fault of its own.

A plain scalar, a flow scalar, an alias, an anchor, a tag or a `[`/`{` may turn out to be the
key of a mapping once a `:` follows on the same line. The cursor keeps one such possible key
per flow level and holds back tokens until each is settled; when the `:` comes, a `key` token
(and a `blockMappingStart` when the key opens a block mapping) is inserted in front of it.
-/

namespace IssueSync.Yaml

/-- A token of YAML text. -/
inductive Token where
  | streamStart
  | streamEnd
  | versionDirective (major minor : Nat)
  | tagDirective (handle tagPrefix : String)
  | otherDirective (name : String)
  | documentStart
  | documentEnd
  | blockSequenceStart
  | blockMappingStart
  | blockEnd
  | flowSequenceStart
  | flowMappingStart
  | flowSequenceEnd
  | flowMappingEnd
  | key
  | value
  | blockEntry
  | flowEntry
  | alias (name : String)
  | anchor (name : String)
  | tag (handle : Option String) (suffix : String)
  | scalar (text : String) (plain : Bool)
deriving Repr, BEq, Inhabited

/-- A place where a key of a mapping may have begun. -/
structure SimpleKey where
  tokenNumber : Nat
  required : Bool
  index : Nat
  line : Nat
  column : Nat
deriving Repr

/-- The state of tokenising: the text ended by a NUL, the position, the indentation levels of
open block collections, the tokens fetched but not yet handed out, and the possible keys. -/
structure Scanner where
  text : Array Char
  index : Nat := 0
  line : Nat := 0
  column : Nat := 0
  done : Bool := false
  flowLevel : Int := 0
  queue : List Token := []
  taken : Nat := 0
  indent : Int := -1
  indents : List Int := []
  allowSimpleKey : Bool := true
  simpleKeys : List (Int × SimpleKey) := []

/-- A step of tokenising. -/
abbrev Scan := StateT Scanner (Except Failure)

/-- Characters that end a line. -/
def isBreak (c : Char) : Bool :=
  c == '\r' || c == '\n' || c == '\x85' || c == '\u2028' || c == '\u2029'

/-- A line end or the end of the text. -/
def isBreakZ (c : Char) : Bool := c == '\x00' || isBreak c

/-- A space, a line end or the end of the text. -/
def isSpaceZ (c : Char) : Bool := c == ' ' || isBreakZ c

/-- A space, a tab, a line end or the end of the text. -/
def isBlankZ (c : Char) : Bool := c == '\t' || isSpaceZ c

/-- ASCII letters, digits, `-` and `_`: the characters of anchors, directives and tag handles. -/
def isWordChar (c : Char) : Bool :=
  ('0' ≤ c && c ≤ '9') || ('A' ≤ c && c ≤ 'Z') || ('a' ≤ c && c ≤ 'z') || c == '-' || c == '_'

/-- ASCII digits. -/
def isDigitChar (c : Char) : Bool := '0' ≤ c && c ≤ '9'

/-- The value of a hexadecimal digit. -/
def hexDigit? (c : Char) : Option Nat :=
  if '0' ≤ c && c ≤ '9' then some (c.toNat - '0'.toNat)
  else if 'a' ≤ c && c ≤ 'f' then some (c.toNat - 'a'.toNat + 10)
  else if 'A' ≤ c && c ≤ 'F' then some (c.toNat - 'A'.toNat + 10)
  else none

/-- Characters that YAML text may hold: tab, line feed, carriage return, printable ASCII, NEL,
and the rest of Unicode but surrogates and the two non-characters `U+FFFE` and `U+FFFF`. -/
def isAcceptable (c : Char) : Bool :=
  c == '\t' || c == '\n' || c == '\r' || (' ' ≤ c && c ≤ '~') || c == '\x85' ||
    ('\xA0' ≤ c && c ≤ '\uFFFD') || c.toNat ≥ 0x10000

namespace Scanner

/-- A cursor at the start of a text. -/
def start (text : String) : Scanner :=
  { text := (text.toList ++ ['\x00']).toArray, queue := [.streamStart] }

/-- The number of steps that bounds every loop over the text. -/
def bound (s : Scanner) : Nat := s.text.size + 2

end Scanner

namespace Scan

/-- A fault of the tokens. -/
def fault {α : Type} : Scan α := throw (.text .scanner)

/-- The character `k` places ahead. -/
def peekAt (k : Nat) : Scan Char := do
  let s ← get
  return s.text.getD (s.index + k) '\x00'

/-- The current character. -/
def peek : Scan Char := peekAt 0

/-- The next `n` characters. -/
def ahead (n : Nat) : Scan String := do
  let s ← get
  return String.ofList (s.text.extract s.index (s.index + n)).toList

/-- The bound for loops over the text. -/
def bound : Scan Nat := return (← get).bound

/-- Moves past one character, counting lines and columns; a byte order mark takes no column. -/
def forwardOne : Scan Unit := modify fun s =>
  let ch := s.text.getD s.index '\x00'
  let next := s.text.getD (s.index + 1) '\x00'
  if ch == '\n' || ch == '\x85' || ch == '\u2028' || ch == '\u2029' || (ch == '\r' && next != '\n') then
    { s with index := s.index + 1, line := s.line + 1, column := 0 }
  else if ch == '\uFEFF' then { s with index := s.index + 1 }
  else { s with index := s.index + 1, column := s.column + 1 }

/-- Moves past `n` characters. -/
def forward (n : Nat) : Scan Unit := do
  for _ in [0:n] do forwardOne

/-- Moves past the characters that satisfy `p`. -/
def skipWhile (p : Char → Bool) : Scan Unit := do
  for _ in [0:← bound] do
    if p (← peek) then forwardOne else break

/-- The length of the run of characters from here that satisfy `p`. -/
def runLength (p : Char → Bool) : Scan Nat := do
  let s ← get
  let mut n := 0
  for _ in [0:s.bound] do
    if p (s.text.getD (s.index + n) '\x00') then n := n + 1 else break
  return n

/-- Takes the next `n` characters. -/
def take (n : Nat) : Scan String := do
  let text ← ahead n
  forward n
  return text

/-- Reads a line end: `\r\n`, `\r`, `\n` and NEL become `\n`, the two Unicode separators stay,
and anything else is no line end (the empty text). -/
def lineBreak : Scan String := do
  let ch ← peek
  if ch == '\r' || ch == '\n' || ch == '\x85' then
    if (← ahead 2) == "\r\n" then forward 2 else forward 1
    return "\n"
  else if ch == '\u2028' || ch == '\u2029' then
    forward 1
    return ch.toString
  else return ""

/-- Whether a document marker (`---` or `...` then a blank) starts here. -/
def atDocumentMarker : Scan Bool := do
  let three ← ahead 3
  return (three == "---" || three == "...") && isBlankZ (← peekAt 3)

/-- Appends a token to the queue. -/
def push (t : Token) : Scan Unit := modify fun s => { s with queue := s.queue ++ [t] }

/-- Inserts a token at a place of the queue. -/
def insertAt (i : Nat) (t : Token) : Scan Unit :=
  modify fun s => { s with queue := s.queue.take i ++ t :: s.queue.drop i }

/-- Sets whether a key may start here. -/
def allowKey (b : Bool) : Scan Unit := modify fun s => { s with allowSimpleKey := b }

/-- Drops the possible keys that can no longer be keys: a key must end on its line and within
1024 characters. Such a key that was required is a fault. -/
def dropStaleKeys : Scan Unit := do
  let s ← get
  let stale := fun (k : SimpleKey) => k.line != s.line || s.index - k.index > 1024
  if s.simpleKeys.any fun (_, k) => stale k && k.required then fault
  set { s with simpleKeys := s.simpleKeys.filter fun (_, k) => !stale k }

/-- Forgets the possible key of the current flow level; a required one is a fault. -/
def removeKey : Scan Unit := do
  let s ← get
  match s.simpleKeys.find? (fun (e : Int × SimpleKey) => e.1 == s.flowLevel) with
  | some (_, k) =>
    if k.required then fault
    set { s with simpleKeys := s.simpleKeys.filter (fun (e : Int × SimpleKey) => e.1 != s.flowLevel) }
  | none => pure ()

/-- Remembers that the next token may be a key. In block context it must be one when it
stands at the indentation of the current mapping. -/
def saveKey : Scan Unit := do
  let s ← get
  let required := s.flowLevel == 0 && s.indent == s.column
  if s.allowSimpleKey then
    removeKey
    let s ← get
    let k : SimpleKey := ⟨s.taken + s.queue.length, required, s.index, s.line, s.column⟩
    set { s with simpleKeys := (s.simpleKeys.filter (fun (e : Int × SimpleKey) => e.1 != s.flowLevel)) ++ [(s.flowLevel, k)] }

/-- Closes the block collections indented deeper than `column`; flow context ignores
indentation. -/
def unwindIndent (column : Int) : Scan Unit := do
  if (← get).flowLevel != 0 then return
  for _ in [0:← bound] do
    let s ← get
    match s.indents with
    | outer :: rest =>
      if s.indent > column then
        set { s with indent := outer, indents := rest, queue := s.queue ++ [Token.blockEnd] }
      else break
    | [] => break

/-- Opens an indentation level at `column` when it is deeper than the current one. -/
def addIndent (column : Int) : Scan Bool := do
  let s ← get
  if s.indent < column then
    set { s with indents := s.indent :: s.indents, indent := column }
    return true
  else return false

/-- Skips spaces, comments and line ends up to the next token; a line end in block context
lets a key start again. A byte order mark at the very start is skipped. -/
def toNextToken : Scan Unit := do
  if (← get).index == 0 && (← peek) == '\uFEFF' then forward 1
  for _ in [0:← bound] do
    skipWhile (· == ' ')
    if (← peek) == '#' then skipWhile fun c => !isBreakZ c
    if (← lineBreak) != "" then
      if (← get).flowLevel == 0 then allowKey true
    else break

/-- Reads a name of word characters; an empty name is a fault. -/
def wordName : Scan String := do
  let n ← runLength isWordChar
  if n == 0 then fault
  take n

/-- Reads a decimal number of a version directive. -/
def directiveNumber : Scan Nat := do
  if !isDigitChar (← peek) then fault
  let n ← runLength isDigitChar
  let digits ← take n
  return digits.foldl (fun acc c => acc * 10 + (c.toNat - '0'.toNat)) 0

/-- Reads a tag handle: `!`, `!!` or `!word!`. -/
def tagHandle : Scan String := do
  if (← peek) != '!' then fault
  let s ← get
  let charAt := fun k => s.text.getD (s.index + k) '\x00'
  let mut length := 1
  if charAt 1 != ' ' then
    for _ in [0:s.bound] do
      if isWordChar (charAt length) then length := length + 1 else break
    if charAt length != '!' then
      forward length
      fault
    length := length + 1
  take length

/-- Whether a character may stand in a tag without escaping. -/
def isUriChar (c : Char) : Bool :=
  isWordChar c || "-;/?:@&=+$,_.!~*'()[]%".toList.contains c

/-- Reads `%XX` escapes of a tag and decodes their bytes as UTF-8. -/
def uriEscapes : Scan String := do
  let mut bytes : Array UInt8 := #[]
  for _ in [0:← bound] do
    if (← peek) != '%' then break
    forward 1
    match hexDigit? (← peekAt 0), hexDigit? (← peekAt 1) with
    | some a, some b =>
      bytes := bytes.push (a * 16 + b).toUInt8
      forward 2
    | _, _ => fault
  match String.fromUTF8? (ByteArray.mk bytes) with
  | some text => return text
  | none => fault

/-- Reads the text of a tag, decoding escapes; an empty tag is a fault. -/
def tagUri : Scan String := do
  let mut chunks : String := ""
  let mut any := false
  for _ in [0:← bound] do
    let c ← peek
    if !isUriChar c then break
    if c == '%' then
      chunks := chunks ++ (← uriEscapes)
    else
      chunks := chunks.push c
      forward 1
    any := true
  if !any then fault
  return chunks

/-- Reads the rest of a directive line: spaces, a comment, then a line end. -/
def ignoredLine : Scan Unit := do
  skipWhile (· == ' ')
  if (← peek) == '#' then skipWhile fun c => !isBreakZ c
  if !isBreakZ (← peek) then fault
  discard lineBreak

/-- Reads a directive: `%YAML major.minor`, `%TAG handle prefix`, or another name whose line
is skipped. -/
def directive : Scan Token := do
  forward 1
  let name ← wordName
  if !isSpaceZ (← peek) then fault
  let token ← if name == "YAML" then do
      skipWhile (· == ' ')
      let major ← directiveNumber
      if (← peek) != '.' then fault
      forward 1
      let minor ← directiveNumber
      if !isSpaceZ (← peek) then fault
      pure (Token.versionDirective major minor)
    else if name == "TAG" then do
      skipWhile (· == ' ')
      let handle ← tagHandle
      if (← peek) != ' ' then fault
      skipWhile (· == ' ')
      let tagPrefix ← tagUri
      if !isSpaceZ (← peek) then fault
      pure (Token.tagDirective handle tagPrefix)
    else do
      skipWhile fun c => !isBreakZ c
      pure (Token.otherDirective name)
  ignoredLine
  return token

/-- Reads the name of an anchor or alias, which must be followed by a blank or an indicator. -/
def anchorName : Scan String := do
  forward 1
  let name ← wordName
  let c ← peek
  if !(isBlankZ c || "?:,]\x7d%@`".toList.contains c) then fault
  return name

/-- Reads a tag: verbatim `!<uri>`, the lone `!`, or a handle and a suffix. -/
def tagToken : Scan Token := do
  let c1 ← peekAt 1
  let (handle, suffix) ← if c1 == '<' then do
      forward 2
      let suffix ← tagUri
      if (← peek) != '>' then fault
      forward 1
      pure (none, suffix)
    else if isBlankZ c1 then do
      forward 1
      pure (none, "!")
    else do
      let s ← get
      let mut length := 1
      let mut useHandle := false
      for _ in [0:s.bound] do
        let c := s.text.getD (s.index + length) '\x00'
        if isSpaceZ c then break
        if c == '!' then
          useHandle := true
          break
        length := length + 1
      let handle ← if useHandle then tagHandle else do forward 1; pure "!"
      let suffix ← tagUri
      pure (some handle, suffix)
  if !isSpaceZ (← peek) then fault
  return .tag handle suffix

/-- Reads the header of a block scalar: chomping (`+` keep, `-` strip) and an explicit
indentation digit, in either order. -/
def blockIndicators : Scan (Option Bool × Option Nat) := do
  let mut chomping : Option Bool := none
  let mut increment : Option Nat := none
  let c ← peek
  if c == '+' || c == '-' then
    chomping := some (c == '+')
    forward 1
    let d ← peek
    if isDigitChar d then
      if d == '0' then fault
      increment := some (d.toNat - '0'.toNat)
      forward 1
  else if isDigitChar c then
    if c == '0' then fault
    increment := some (c.toNat - '0'.toNat)
    forward 1
    let d ← peek
    if d == '+' || d == '-' then
      chomping := some (d == '+')
      forward 1
  if !isSpaceZ (← peek) then fault
  return (chomping, increment)

/-- Skips the blank lines before a block scalar's first line and measures the deepest
indentation among them. -/
def blockIndentation : Scan (List String × Nat) := do
  let mut breaks : List String := []
  let mut deepest := 0
  for _ in [0:← bound] do
    let c ← peek
    if c == ' ' then
      forward 1
      let col := (← get).column
      if col > deepest then deepest := col
    else if isBreak c then
      breaks := breaks ++ [← lineBreak]
    else break
  return (breaks, deepest)

/-- Reads the line ends that follow a block scalar's line, skipping indentation up to
`indent`. -/
def blockBreaks (indent : Nat) : Scan (List String) := do
  let skipIndent : Scan Unit := do
    for _ in [0:← bound] do
      if (← get).column < indent && (← peek) == ' ' then forward 1 else break
  skipIndent
  let mut breaks : List String := []
  for _ in [0:← bound] do
    if isBreak (← peek) then
      breaks := breaks ++ [← lineBreak]
      skipIndent
    else break
  return breaks

/-- Reads a literal (`|`) or folded (`>`) block scalar. -/
def blockScalar (folded : Bool) : Scan Token := do
  forward 1
  let (chomping, increment) ← blockIndicators
  ignoredLine
  let s ← get
  let least : Nat := if s.indent + 1 < 1 then 1 else (s.indent + 1).toNat
  let (firstBreaks, indent) ← match increment with
    | none => do
      let (breaks, deepest) ← blockIndentation
      pure (breaks, max least deepest)
    | some inc => do
      let indent := least + inc - 1
      pure (← blockBreaks indent, indent)
  let mut breaks := firstBreaks
  let mut chunks : String := ""
  let mut lastBreak : String := ""
  for _ in [0:← bound] do
    if !((← get).column == indent && (← peek) != '\x00') then break
    chunks := chunks ++ String.join breaks
    let leadingNonSpace := !((← peek) == ' ' || (← peek) == '\t')
    let n ← runLength fun c => !isBreakZ c
    chunks := chunks ++ (← take n)
    lastBreak ← lineBreak
    breaks ← blockBreaks indent
    if (← get).column == indent && (← peek) != '\x00' then
      if folded && lastBreak == "\n" && leadingNonSpace && !((← peek) == ' ' || (← peek) == '\t') then
        if breaks.isEmpty then chunks := chunks.push ' '
      else chunks := chunks ++ lastBreak
    else break
  if chomping != some false then chunks := chunks ++ lastBreak
  if chomping == some true then chunks := chunks ++ String.join breaks
  return .scalar chunks false

/-- The character an escape letter of a double-quoted scalar stands for. -/
def escapeLetter (c : Char) : Option Char :=
  match c with
  | '0' => some '\x00'
  | 'a' => some '\x07'
  | 'b' => some '\x08'
  | 't' => some '\t'
  | '\t' => some '\t'
  | 'n' => some '\n'
  | 'v' => some '\x0B'
  | 'f' => some '\x0C'
  | 'r' => some '\r'
  | 'e' => some '\x1B'
  | ' ' => some ' '
  | '"' => some '"'
  | '\\' => some '\\'
  | '/' => some '/'
  | 'N' => some '\x85'
  | '_' => some '\xA0'
  | 'L' => some '\u2028'
  | 'P' => some '\u2029'
  | _ => none

/-- The number of hexadecimal digits after `\x`, `\u` and `\U`. -/
def escapeWidth (c : Char) : Option Nat :=
  match c with
  | 'x' => some 2
  | 'u' => some 4
  | 'U' => some 8
  | _ => none

/-- The line ends inside a quoted scalar after a first one; a document marker there is a
fault. -/
def quotedBreaks : Scan String := do
  let mut chunks : String := ""
  for _ in [0:← bound] do
    if ← atDocumentMarker then fault
    skipWhile fun c => c == ' ' || c == '\t'
    if isBreak (← peek) then chunks := chunks ++ (← lineBreak) else break
  return chunks

/-- The character of a code point written as an escape. Surrogates have no character of
their own and read as the replacement character. -/
def codeChar (code : Nat) : Scan Char := do
  if code ≥ 0x110000 then throw (.badValue "chr() arg not in range(0x110000)")
  if 0xD800 ≤ code && code < 0xE000 then return '\uFFFD'
  return Char.ofNat code

/-- Reads the part of a quoted scalar up to a blank or its closing quote. -/
def quotedText (double : Bool) : Scan String := do
  let mut chunks : String := ""
  for _ in [0:← bound] do
    let n ← runLength fun c => !("'\"\\\x00 \t".toList.contains c || isBreak c)
    if n > 0 then chunks := chunks ++ (← take n)
    let c ← peek
    if !double && c == '\'' && (← peekAt 1) == '\'' then
      chunks := chunks.push '\''
      forward 2
    else if (double && c == '\'') || (!double && (c == '"' || c == '\\')) then
      chunks := chunks.push c
      forward 1
    else if double && c == '\\' then
      forward 1
      let e ← peek
      match escapeLetter e, escapeWidth e with
      | some r, _ =>
        chunks := chunks.push r
        forward 1
      | none, some width =>
        forward 1
        let digits ← ahead width
        let values := digits.toList.filterMap hexDigit?
        if values.length != width then fault
        chunks := chunks.push (← codeChar (values.foldl (fun acc d => acc * 16 + d) 0))
        forward width
      | none, none =>
        if isBreak e then
          discard lineBreak
          chunks := chunks ++ (← quotedBreaks)
        else fault
    else break
  return chunks

/-- Reads blanks inside a quoted scalar: spaces stay as written, a single line end folds to a
space, and further line ends stay. The end of the text here is a fault. -/
def quotedSpaces : Scan String := do
  let n ← runLength fun c => c == ' ' || c == '\t'
  let blanks ← take n
  let c ← peek
  if c == '\x00' then fault
  if isBreak c then
    let first ← lineBreak
    let rest ← quotedBreaks
    let head := if first != "\n" then first else if rest.isEmpty then " " else ""
    return head ++ rest
  return blanks

/-- Reads a single- or double-quoted scalar. -/
def quotedScalar (double : Bool) : Scan Token := do
  let quote ← peek
  forward 1
  let mut chunks ← quotedText double
  for _ in [0:← bound] do
    if (← peek) == quote then break
    chunks := chunks ++ (← quotedSpaces)
    chunks := chunks ++ (← quotedText double)
  forward 1
  return .scalar chunks false

/-- Reads the blanks after a piece of a plain scalar. Line ends fold as in quoted scalars and
let a key start again; a document marker at a line start ends the scalar (empty result). -/
def plainSpaces : Scan (List String) := do
  let n ← runLength (· == ' ')
  let blanks ← take n
  let c ← peek
  if isBreak c then
    let first ← lineBreak
    allowKey true
    if ← atDocumentMarker then return []
    let mut breaks : List String := []
    for _ in [0:← bound] do
      let d ← peek
      if d == ' ' then forward 1
      else if isBreak d then
        breaks := breaks ++ [← lineBreak]
        if ← atDocumentMarker then return []
      else break
    let head := if first != "\n" then [first] else if breaks.isEmpty then [" "] else []
    return head ++ breaks
  else if blanks != "" then return [blanks]
  else return []

/-- Reads a plain scalar. It ends at a comment, at `: ` (or `:` before a flow indicator in
flow context), at a flow indicator in flow context, or at a line indented less than the
current block. -/
def plainScalar : Scan Token := do
  let indent := (← get).indent + 1
  let mut chunks : String := ""
  let mut spaces : List String := []
  for _ in [0:← bound] do
    if (← peek) == '#' then break
    let s ← get
    let inFlow := s.flowLevel != 0
    let mut length := 0
    for _ in [0:s.bound] do
      let c := s.text.getD (s.index + length) '\x00'
      let d := s.text.getD (s.index + length + 1) '\x00'
      if isBlankZ c || (c == ':' && (isBlankZ d || (inFlow && ",[]\x7b\x7d".toList.contains d))) ||
          (inFlow && ",?[]\x7b\x7d".toList.contains c) then break
      length := length + 1
    if length == 0 then break
    allowKey false
    chunks := chunks ++ String.join spaces ++ (← take length)
    spaces ← plainSpaces
    let s ← get
    if spaces.isEmpty || (← peek) == '#' || (s.flowLevel == 0 && (s.column : Int) < indent) then break
  return .scalar chunks true

/-- Whether a plain scalar may start here: not at an indicator, except `-`, `?` and `:`
followed by a non-blank (`?` and `:` only in block context). -/
def plainStarts : Scan Bool := do
  let c ← peek
  let next ← peekAt 1
  let inFlow := (← get).flowLevel != 0
  return !(isBlankZ c || "-?:,[]\x7b\x7d#&*!|>'\"%@`".toList.contains c) ||
    (!isBlankZ next && (c == '-' || (!inFlow && (c == '?' || c == ':'))))

/-- Closes everything at the end of the text. -/
def streamEnd : Scan Unit := do
  unwindIndent (-1)
  removeKey
  modify fun s => { s with allowSimpleKey := false, simpleKeys := [] }
  push .streamEnd
  modify fun s => { s with done := true }

/-- A document marker or directive closes the block collections of the document before it. -/
def closeDocument : Scan Unit := do
  unwindIndent (-1)
  removeKey
  allowKey false

/-- Fetches the token at `:`: either a key begun earlier on this line, or a complex value. -/
def valueIndicator : Scan Unit := do
  let s ← get
  match s.simpleKeys.find? (fun (e : Int × SimpleKey) => e.1 == s.flowLevel) with
  | some (_, k) =>
    set { s with simpleKeys := s.simpleKeys.filter (fun (e : Int × SimpleKey) => e.1 != s.flowLevel) }
    insertAt (k.tokenNumber - s.taken) .key
    if s.flowLevel == 0 then
      if ← addIndent k.column then insertAt (k.tokenNumber - s.taken) .blockMappingStart
    allowKey false
  | none =>
    if s.flowLevel == 0 then
      if !s.allowSimpleKey then fault
      if ← addIndent s.column then push .blockMappingStart
    allowKey (s.flowLevel == 0)
    removeKey
  forward 1
  push .value

/-- Fetches the next token or tokens. -/
def fetch : Scan Unit := do
  toNextToken
  dropStaleKeys
  unwindIndent (← get).column
  let c ← peek
  let s ← get
  let inFlow := s.flowLevel != 0
  let nextBlank := isBlankZ (← peekAt 1)
  if c == '\x00' then streamEnd
  else if c == '%' && s.column == 0 then
    closeDocument
    push (← directive)
  else if (c == '-' || c == '.') && s.column == 0 &&
      (← ahead 3) == String.ofList [c, c, c] && isBlankZ (← peekAt 3) then
    closeDocument
    forward 3
    push (if c == '-' then .documentStart else .documentEnd)
  else if c == '[' || c == '{' then
    saveKey
    modify fun s => { s with flowLevel := s.flowLevel + 1 }
    allowKey true
    forward 1
    push (if c == '[' then .flowSequenceStart else .flowMappingStart)
  else if c == ']' || c == '}' then
    removeKey
    modify fun s => { s with flowLevel := s.flowLevel - 1 }
    allowKey false
    forward 1
    push (if c == ']' then .flowSequenceEnd else .flowMappingEnd)
  else if c == ',' then
    allowKey true
    removeKey
    forward 1
    push .flowEntry
  else if c == '-' && nextBlank then
    if !inFlow then
      if !s.allowSimpleKey then fault
      if ← addIndent s.column then push .blockSequenceStart
    allowKey true
    removeKey
    forward 1
    push .blockEntry
  else if c == '?' && (inFlow || nextBlank) then
    if !inFlow then
      if !s.allowSimpleKey then fault
      if ← addIndent s.column then push .blockMappingStart
    allowKey !inFlow
    removeKey
    forward 1
    push .key
  else if c == ':' && (inFlow || nextBlank) then valueIndicator
  else if c == '*' || c == '&' then
    saveKey
    allowKey false
    let name ← anchorName
    push (if c == '*' then .alias name else .anchor name)
  else if c == '!' then
    saveKey
    allowKey false
    push (← tagToken)
  else if (c == '|' || c == '>') && !inFlow then
    allowKey true
    removeKey
    push (← blockScalar (c == '>'))
  else if c == '\'' || c == '"' then
    saveKey
    allowKey false
    push (← quotedScalar (c == '"'))
  else if ← plainStarts then
    saveKey
    allowKey false
    push (← plainScalar)
  else fault

/-- Whether the queue must grow before its first token can be handed out: it is empty, or its
first token may still turn out to follow an inserted key. -/
def needsMore : Scan Bool := do
  let s ← get
  if s.done then return false
  if s.queue.isEmpty then return true
  dropStaleKeys
  let s ← get
  let earliest := s.simpleKeys.foldl (fun acc (_, k) => match acc with
    | some m => some (min m k.tokenNumber)
    | none => some k.tokenNumber) none
  return earliest == some s.taken

/-- Fetches until the first token of the queue is settled. -/
def fill : Scan Unit := do
  for _ in [0:← bound] do
    if ← needsMore then fetch else break

/-- The next token, left in place. -/
def peekToken : Scan Token := do
  fill
  match (← get).queue with
  | t :: _ => return t
  | [] => return .streamEnd

/-- The next token, handed out. -/
def nextToken : Scan Token := do
  fill
  let s ← get
  match s.queue with
  | t :: rest =>
    set { s with queue := rest, taken := s.taken + 1 }
    return t
  | [] => return .streamEnd

end Scan

end IssueSync.Yaml
