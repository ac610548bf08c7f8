import IssueSync.Data.Yaml.Token

/-!
# YAML events

The second stage of reading YAML: the tokens become a flat stream of events (start and end of
the stream, of documents, of sequences and mappings, scalars and aliases), produced one at a
time by a state machine with a stack of states to return to. Omitted keys and values become
empty scalars here, and tag handles are expanded by the document's directives.
-/

namespace IssueSync.Yaml

/-- An event of YAML structure. A scalar records whether its tag is left to the plain-scalar
rules (`plain`). -/
inductive Event where
  | streamStart
  | streamEnd
  | documentStart (explicit : Bool)
  | documentEnd
  | alias (anchor : String)
  | scalar (anchor tag : Option String) (plain : Bool) (text : String)
  | sequenceStart (anchor tag : Option String)
  | sequenceEnd
  | mappingStart (anchor tag : Option String)
  | mappingEnd
deriving Repr, BEq, Inhabited

/-- What the event stream expects next. -/
inductive Expect where
  | streamStart
  | implicitDocumentStart
  | documentStart
  | documentEnd
  | documentContent
  | blockNode
  | blockSequenceFirstEntry
  | blockSequenceEntry
  | indentlessSequenceEntry
  | blockMappingFirstKey
  | blockMappingKey
  | blockMappingValue
  | flowSequenceFirstEntry
  | flowSequenceEntry
  | flowSequenceEntryMappingKey
  | flowSequenceEntryMappingValue
  | flowSequenceEntryMappingEnd
  | flowMappingFirstKey
  | flowMappingKey
  | flowMappingValue
  | flowMappingEmptyValue
  | finished
deriving Repr, BEq, Inhabited

/-- The state of the event stream over a token stream. -/
structure Parser where
  scanner : Scanner
  expect : Expect := .streamStart
  stack : List Expect := []
  handles : List (String × String) := []
  current : Option Event := none

/-- A step of the event stream. -/
abbrev Parse := StateT Parser (Except Failure)

/-- The tag handles every document knows. -/
def defaultHandles : List (String × String) := [("!", "!"), ("!!", "tag:yaml.org,2002:")]

/-- The event of an omitted node. -/
def emptyScalar : Event := .scalar none none true ""

namespace Parse

/-- A fault of the structure. -/
def fault {α : Type} : Parse α := throw (.text .parser)

/-- Runs a step of tokenising. -/
def tokens {α : Type} (m : Scan α) : Parse α := fun p => do
  let (a, s) ← m p.scanner
  return (a, { p with scanner := s })

/-- The next token, left in place. -/
def peekToken : Parse Token := tokens Scan.peekToken

/-- Drops the next token. -/
def skipToken : Parse Unit := discard (tokens Scan.nextToken)

/-- Sets what comes next. -/
def expectNext (e : Expect) : Parse Unit := modify fun p => { p with expect := e }

/-- Remembers a state to return to. -/
def pushState (e : Expect) : Parse Unit := modify fun p => { p with stack := e :: p.stack }

/-- Returns to the last remembered state. -/
def popState : Parse Unit := modify fun p =>
  match p.stack with
  | e :: rest => { p with expect := e, stack := rest }
  | [] => { p with expect := .finished }

/-- Whether a token is a directive. -/
def Token.isDirective : Token → Bool
  | .versionDirective .. | .tagDirective .. | .otherDirective _ => true
  | _ => false

/-- Reads a node: an alias, or properties (anchor and tag, either order) then a scalar, a
collection start, or nothing (an empty scalar, allowed only after a property). -/
def node (block indentless : Bool) : Parse Event := do
  if let .alias name ← peekToken then
    skipToken
    popState
    return .alias name
  let mut anchor : Option String := none
  let mut written : Option (Option String × String) := none
  match ← peekToken with
  | .anchor a =>
    skipToken
    anchor := some a
    if let .tag h s ← peekToken then
      skipToken
      written := some (h, s)
  | .tag h s =>
    skipToken
    written := some (h, s)
    if let .anchor a ← peekToken then
      skipToken
      anchor := some a
  | _ => pure ()
  let handles := (← get).handles
  let tag ← match written with
    | some (some handle, suffix) =>
      match handles.lookup handle with
      | some pre => pure (some (pre ++ suffix))
      | none => fault
    | some (none, suffix) => pure (some suffix)
    | none => pure none
  let implicit := tag.isNone || tag == some "!"
  let t ← peekToken
  if indentless && t matches .blockEntry then
    expectNext .indentlessSequenceEntry
    return .sequenceStart anchor tag
  match t with
  | .scalar text plain =>
    skipToken
    popState
    return .scalar anchor tag ((plain && tag.isNone) || tag == some "!") text
  | .flowSequenceStart =>
    expectNext .flowSequenceFirstEntry
    return .sequenceStart anchor tag
  | .flowMappingStart =>
    expectNext .flowMappingFirstKey
    return .mappingStart anchor tag
  | _ =>
    if block && t matches .blockSequenceStart then
      expectNext .blockSequenceFirstEntry
      return .sequenceStart anchor tag
    if block && t matches .blockMappingStart then
      expectNext .blockMappingFirstKey
      return .mappingStart anchor tag
    if anchor.isSome || tag.isSome then
      popState
      return .scalar anchor tag implicit ""
    fault

/-- Reads the directives before an explicit document and sets its tag handles. -/
def directives : Parse Unit := do
  let mut version : Option (Nat × Nat) := none
  let mut handles : List (String × String) := []
  for _ in [0:(← get).scanner.bound] do
    match ← peekToken with
    | .versionDirective major minor =>
      skipToken
      if version.isSome || major != 1 then fault
      version := some (major, minor)
    | .tagDirective handle pre =>
      skipToken
      if (handles.lookup handle).isSome then fault
      handles := handles ++ [(handle, pre)]
    | .otherDirective _ => skipToken
    | _ => break
  let missing := defaultHandles.filter fun (h, _) => (handles.lookup h).isNone
  modify fun p => { p with handles := handles ++ missing }

/-- Reads the start of an explicit document, or the end of the stream. -/
def documentStart : Parse Event := do
  for _ in [0:(← get).scanner.bound] do
    if (← peekToken) matches .documentEnd then skipToken else break
  if (← peekToken) matches .streamEnd then
    skipToken
    expectNext .finished
    return .streamEnd
  directives
  if !((← peekToken) matches .documentStart) then fault
  skipToken
  pushState .documentEnd
  expectNext .documentContent
  return .documentStart true

/-- Reads a document that starts without a marker, or hands over to `documentStart`. -/
def implicitDocumentStart : Parse Event := do
  let t ← peekToken
  if Token.isDirective t || t matches .documentStart || t matches .streamEnd then
    documentStart
  else
    modify fun p => { p with handles := defaultHandles }
    pushState .documentEnd
    expectNext .blockNode
    return .documentStart false

/-- An entry of a block sequence, or its end. -/
def blockSequenceEntry : Parse Event := do
  match ← peekToken with
  | .blockEntry =>
    skipToken
    let t ← peekToken
    if t matches .blockEntry || t matches .blockEnd then
      expectNext .blockSequenceEntry
      return emptyScalar
    pushState .blockSequenceEntry
    node true false
  | .blockEnd =>
    skipToken
    popState
    return .sequenceEnd
  | _ => fault

/-- An entry of a sequence written at its mapping's indentation, or its end. -/
def indentlessSequenceEntry : Parse Event := do
  if (← peekToken) matches .blockEntry then
    skipToken
    let t ← peekToken
    if t matches .blockEntry || t matches .key || t matches .value || t matches .blockEnd then
      expectNext .indentlessSequenceEntry
      return emptyScalar
    pushState .indentlessSequenceEntry
    node true false
  else
    popState
    return .sequenceEnd

/-- A key of a block mapping, or its end. -/
def blockMappingKey : Parse Event := do
  match ← peekToken with
  | .key =>
    skipToken
    let t ← peekToken
    if t matches .key || t matches .value || t matches .blockEnd then
      expectNext .blockMappingValue
      return emptyScalar
    pushState .blockMappingValue
    node true true
  | .blockEnd =>
    skipToken
    popState
    return .mappingEnd
  | _ => fault

/-- A value of a block mapping; a missing one is empty. -/
def blockMappingValue : Parse Event := do
  if (← peekToken) matches .value then
    skipToken
    let t ← peekToken
    if t matches .key || t matches .value || t matches .blockEnd then
      expectNext .blockMappingKey
      return emptyScalar
    pushState .blockMappingKey
    node true true
  else
    expectNext .blockMappingKey
    return emptyScalar

/-- An entry of a flow sequence (after a comma unless it is the first), or its end. A `?` opens
a single-pair mapping. -/
def flowSequenceEntry (first : Bool) : Parse Event := do
  if !((← peekToken) matches .flowSequenceEnd) then
    if !first then
      if (← peekToken) matches .flowEntry then skipToken else fault
    let t ← peekToken
    if t matches .key then
      expectNext .flowSequenceEntryMappingKey
      return .mappingStart none none
    if !(t matches .flowSequenceEnd) then
      pushState .flowSequenceEntry
      return ← node false false
  skipToken
  popState
  return .sequenceEnd

/-- The key of a single-pair mapping inside a flow sequence. -/
def flowSequenceEntryMappingKey : Parse Event := do
  skipToken
  let t ← peekToken
  if t matches .value || t matches .flowEntry || t matches .flowSequenceEnd then
    expectNext .flowSequenceEntryMappingValue
    return emptyScalar
  pushState .flowSequenceEntryMappingValue
  node false false

/-- The value of a single-pair mapping inside a flow sequence. -/
def flowSequenceEntryMappingValue : Parse Event := do
  if (← peekToken) matches .value then
    skipToken
    let t ← peekToken
    if t matches .flowEntry || t matches .flowSequenceEnd then
      expectNext .flowSequenceEntryMappingEnd
      return emptyScalar
    pushState .flowSequenceEntryMappingEnd
    node false false
  else
    expectNext .flowSequenceEntryMappingEnd
    return emptyScalar

/-- A key of a flow mapping (after a comma unless it is the first), or its end. -/
def flowMappingKey (first : Bool) : Parse Event := do
  if !((← peekToken) matches .flowMappingEnd) then
    if !first then
      if (← peekToken) matches .flowEntry then skipToken else fault
    let t ← peekToken
    if t matches .key then
      skipToken
      let u ← peekToken
      if u matches .value || u matches .flowEntry || u matches .flowMappingEnd then
        expectNext .flowMappingValue
        return emptyScalar
      pushState .flowMappingValue
      return ← node false false
    if !(t matches .flowMappingEnd) then
      pushState .flowMappingEmptyValue
      return ← node false false
  skipToken
  popState
  return .mappingEnd

/-- A value of a flow mapping; a missing one is empty. -/
def flowMappingValue : Parse Event := do
  if (← peekToken) matches .value then
    skipToken
    let t ← peekToken
    if t matches .flowEntry || t matches .flowMappingEnd then
      expectNext .flowMappingKey
      return emptyScalar
    pushState .flowMappingKey
    node false false
  else
    expectNext .flowMappingKey
    return emptyScalar

/-- Produces the next event from the current state. -/
def step : Parse Event := do
  match (← get).expect with
  | .streamStart =>
    skipToken
    expectNext .implicitDocumentStart
    return .streamStart
  | .implicitDocumentStart => implicitDocumentStart
  | .documentStart => documentStart
  | .documentEnd =>
    if (← peekToken) matches .documentEnd then skipToken
    expectNext .documentStart
    return .documentEnd
  | .documentContent =>
    let t ← peekToken
    if Token.isDirective t || t matches .documentStart || t matches .documentEnd ||
        t matches .streamEnd then
      popState
      return emptyScalar
    node true false
  | .blockNode => node true false
  | .blockSequenceFirstEntry =>
    skipToken
    blockSequenceEntry
  | .blockSequenceEntry => blockSequenceEntry
  | .indentlessSequenceEntry => indentlessSequenceEntry
  | .blockMappingFirstKey =>
    skipToken
    blockMappingKey
  | .blockMappingKey => blockMappingKey
  | .blockMappingValue => blockMappingValue
  | .flowSequenceFirstEntry =>
    skipToken
    flowSequenceEntry true
  | .flowSequenceEntry => flowSequenceEntry false
  | .flowSequenceEntryMappingKey => flowSequenceEntryMappingKey
  | .flowSequenceEntryMappingValue => flowSequenceEntryMappingValue
  | .flowSequenceEntryMappingEnd =>
    expectNext .flowSequenceEntry
    return .mappingEnd
  | .flowMappingFirstKey =>
    skipToken
    flowMappingKey true
  | .flowMappingKey => flowMappingKey false
  | .flowMappingValue => flowMappingValue
  | .flowMappingEmptyValue =>
    expectNext .flowMappingKey
    return emptyScalar
  | .finished => return .streamEnd

/-- The next event, left in place. -/
def peekEvent : Parse Event := do
  match (← get).current with
  | some e => return e
  | none =>
    let e ← step
    modify fun p => { p with current := some e }
    return e

/-- The next event, handed out. -/
def nextEvent : Parse Event := do
  let e ← peekEvent
  modify fun p => { p with current := none }
  return e

end Parse

end IssueSync.Yaml
