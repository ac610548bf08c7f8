import IssueSync.Data.Yaml.Event
import IssueSync.Data.Yaml.Tag

/-!
# YAML nodes

The third stage of reading YAML: the events of one document become a tree of tagged nodes.
Every node gets its tag here, written or given by the plain-scalar rules. An alias stands for
a copy of the node its anchor named; an alias before its anchor, or an anchor named twice,
is a fault. A stream holds at most one document.
-/

namespace IssueSync.Yaml

/-- A tagged node of a YAML document. -/
inductive Node where
  | scalar (tag : String) (text : String)
  | sequence (tag : String) (items : List Node)
  | mapping (tag : String) (entries : List (Node × Node))
deriving Repr, Inhabited

/-- The tag of a node. -/
def Node.tag : Node → String
  | .scalar t _ | .sequence t _ | .mapping t _ => t

/-- The state of building nodes: the event stream and the anchors seen in this document. -/
structure Composer where
  parser : Parser
  anchors : List (String × Node) := []

/-- A step of building nodes. -/
abbrev Compose := StateT Composer (Except Failure)

namespace Compose

/-- A fault of the node graph. -/
def fault {α : Type} : Compose α := throw (.text .composer)

/-- Runs a step of the event stream. -/
def events {α : Type} (m : Parse α) : Compose α := fun c => do
  let (a, p) ← m c.parser
  return (a, { c with parser := p })

/-- The next event, left in place. -/
def peekEvent : Compose Event := events Parse.peekEvent

/-- The next event, handed out. -/
def nextEvent : Compose Event := events Parse.nextEvent

/-- Checks that an anchor is new in the document. -/
def freshAnchor : Option String → Compose Unit
  | some a => do if ((← get).anchors.lookup a).isSome then fault
  | none => pure ()

/-- Names a node by its anchor. -/
def remember (anchor : Option String) (n : Node) : Compose Unit :=
  match anchor with
  | some a => modify fun c => { c with anchors := c.anchors ++ [(a, n)] }
  | none => pure ()

/-- The tag of a node: the written one, or for no tag or `!` the rules for its kind. -/
def tagFor (written : Option String) (resolve : String) : String :=
  match written with
  | some t => if t == "!" then resolve else t
  | none => resolve

mutual

/-- Builds the node that starts at the next event. -/
def node : Nat → Compose Node
  | 0 => fault
  | fuel + 1 => do
    match ← peekEvent with
    | .alias a =>
      discard nextEvent
      match (← get).anchors.lookup a with
      | some n => return n
      | none => fault
    | .scalar anchor tag plain text =>
      freshAnchor anchor
      discard nextEvent
      let n := Node.scalar (tagFor tag (if plain then plainTag text else strTag)) text
      remember anchor n
      return n
    | .sequenceStart anchor tag =>
      freshAnchor anchor
      discard nextEvent
      let n := Node.sequence (tagFor tag seqTag) (← items fuel [])
      remember anchor n
      return n
    | .mappingStart anchor tag =>
      freshAnchor anchor
      discard nextEvent
      let n := Node.mapping (tagFor tag mapTag) (← entries fuel [])
      remember anchor n
      return n
    | _ => fault

/-- Builds the items of a sequence up to its end. -/
def items : Nat → List Node → Compose (List Node)
  | 0, _ => fault
  | fuel + 1, acc => do
    if (← peekEvent) matches .sequenceEnd then
      discard nextEvent
      return acc.reverse
    let n ← node fuel
    items fuel (n :: acc)

/-- Builds the pairs of a mapping up to its end. -/
def entries : Nat → List (Node × Node) → Compose (List (Node × Node))
  | 0, _ => fault
  | fuel + 1, acc => do
    if (← peekEvent) matches .mappingEnd then
      discard nextEvent
      return acc.reverse
    let k ← node fuel
    let v ← node fuel
    entries fuel ((k, v) :: acc)

end

/-- Builds the single document of a stream, if there is one; a second document is a fault. -/
def document : Compose (Option Node) := do
  discard nextEvent
  let fuel := 16 * (← get).parser.scanner.bound
  let root ← if (← peekEvent) matches .streamEnd then pure none else do
    discard nextEvent
    let n ← node fuel
    discard nextEvent
    modify fun c => { c with anchors := [] }
    pure (some n)
  if !((← peekEvent) matches .streamEnd) then
    discard nextEvent
    fault
  discard nextEvent
  return root

end Compose

/-- The node of the single document of a YAML text, or none for an empty stream. Characters
that YAML text may not hold are a fault before anything else is read. -/
def Node.ofText (text : String) : Except Failure (Option Node) :=
  if text.toList.all isAcceptable then
    (Compose.document.run { parser := { scanner := Scanner.start text } }).map (·.1)
  else .error (.text .reader)

end IssueSync.Yaml
