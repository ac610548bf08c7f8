import IssueSync.Failure
import IssueSync.Text.Digit

/-!
# The sweep's command line

The sweep takes `--config FILE` (the configuration to use) and `--scope ID`, which may be
repeated; `-h` and `--help` print the usage and end the process with status 0. Every other
refusal ends it with status 2.

Words are read in two passes. The first names each word: a flag (spelt out, abbreviated to an
unambiguous prefix of a long flag, or with its value after `=`), a plain word, the separator
`--`, or a stray word that looks like a flag of no known name. A word that starts with a dash
reads as plain when it looks like a negative number or holds a blank, and every word after the
separator is plain. The second pass takes the flags from left to right: a flag that needs a value
takes the word right after it, which must be plain. Plain and stray words nobody took are refused
at the end, so a help flag anywhere wins over them, but not over a refusal met before it.
-/

namespace IssueSync.Sweep

open IssueSync.Text

/-- A flag of the sweep. -/
inductive Flag where
  | help
  | config
  | scope
deriving DecidableEq, Repr

/-- The spellings of the flags, in the order abbreviations are matched. -/
def spellings : List (String × Flag) :=
  [("-h", .help), ("--help", .help), ("--config", .config), ("--scope", .scope)]

/-- Whether a flag takes a value. -/
def Flag.takesValue : Flag → Bool
  | .help => false
  | _ => true

/-- What one word of the command line is. -/
inductive Word where
  /-- A value, or a word left over. -/
  | plain (text : String)
  /-- The separator `--`. -/
  | separator
  /-- A flag; `attached` holds the separator and the value written in the same word. -/
  | flag (f : Flag) (spelling : String) (attached : Option (String × String))
  /-- A word that looks like a flag but names none. -/
  | stray (text : String)
deriving Repr

/-- The options read from a command line. -/
structure SweepOptions where
  config : Option String := none
  /-- The scopes asked for, in order, or none when no `--scope` was given. -/
  scopes : Option (List String) := none
deriving DecidableEq, Repr

/-- A refused command line. -/
def refused : Failure := .exit 2

/-- The help flag: the process ends after printing the usage. -/
def helped : Failure := .exit 0

/-- The text before the first `=`, and what follows it when there is one. -/
def splitAtEquals (s : String) : String × Option String :=
  match s.splitOn "=" with
  | [] => (s, none)
  | [whole] => (whole, none)
  | head :: rest => (head, some ("=".intercalate rest))

/-- Digits, at least one. -/
def allDigits (cs : List Char) : Bool := !cs.isEmpty && cs.all isDecimal

/-- Whether a word reads as a negative number: a dash, then digits, or digits around a point
with at least one after it; one line break may end it. -/
def looksNegative (s : String) : Bool :=
  match s.toList with
  | '-' :: body =>
    let body := if body.getLast? == some '\n' then body.dropLast else body
    allDigits body ||
      match body.splitOn '.' with
      | [whole, fraction] => whole.all isDecimal && allDigits fraction
      | _ => false
  | _ => false

/-- The flags a word may abbreviate, with the separator and value it carries. -/
def candidates (w : String) : List (Flag × String × Option (String × String)) :=
  match w.toList with
  | '-' :: '-' :: _ =>
    let (head, value) := splitAtEquals w
    spellings.filterMap fun (spelling, f) =>
      if spelling.startsWith head then some (f, spelling, value.map fun v => ("=", v)) else none
  | '-' :: c :: rest =>
    spellings.filterMap fun (spelling, f) =>
      if spelling == String.ofList ['-', c] then some (f, spelling, some ("", String.ofList rest))
      else if spelling.startsWith w then some (f, spelling, none)
      else none
  | _ => []

/-- Names one word. A word that abbreviates more than one flag is refused. -/
def classify (w : String) : Except Failure Word :=
  if w == "--" then .ok .separator
  else match w.toList with
    | [] | [_] => .ok (.plain w)
    | c :: _ =>
      if c != '-' then .ok (.plain w)
      else match spellings.lookup w with
        | some f => .ok (.flag f w none)
        | none =>
          let (head, value) := splitAtEquals w
          match value, spellings.lookup head with
          | some v, some f => .ok (.flag f head (some ("=", v)))
          | _, _ =>
            match candidates w with
            | [(f, spelling, attached)] => .ok (.flag f spelling attached)
            | _ :: _ :: _ => .error refused
            | [] =>
              if looksNegative w || w.contains ' ' then .ok (.plain w)
              else .ok (.stray w)

/-- Options with a flag's value recorded. -/
def SweepOptions.record (opts : SweepOptions) : Flag → String → SweepOptions
  | .config, v => { opts with config := some v }
  | .scope, v => { opts with scopes := some (opts.scopes.getD [] ++ [v]) }
  | .help, _ => opts

/-- The rest of a short help flag written together with more letters (`-hh`, `-hx`): each
further `h` is help again, any other letter is left over; a dash or an `=` is refused. The
help is taken unless refused. -/
def helpCluster {α : Type} : List Char → Except Failure α
  | [] => .error helped
  | '-' :: _ => .error refused
  | 'h' :: rest =>
    match rest with
    | '=' :: _ => .error refused
    | _ => helpCluster rest
  | _ :: _ => .error helped

/-- Takes the flags of the named words from left to right; `leftover` tells whether a word was
left that no flag took. -/
def takeWords : List Word → SweepOptions → Bool → Except Failure SweepOptions
  | [], opts, leftover => if leftover then .error refused else .ok opts
  | .plain _ :: rest, opts, _ => takeWords rest opts true
  | .separator :: rest, opts, _ => takeWords rest opts true
  | .stray _ :: rest, opts, _ => takeWords rest opts true
  | .flag f spelling attached :: rest, opts, leftover =>
    match attached with
    | none =>
      if f.takesValue then
        match rest with
        | .plain v :: rest' => takeWords rest' (opts.record f v) leftover
        | _ => .error refused
      else .error helped
    | some (sep, value) =>
      if f.takesValue then takeWords rest (opts.record f value) leftover
      else if spelling.length == 2 && !value.isEmpty && sep.isEmpty then
        helpCluster value.toList
      else .error refused

/-- Names the words of a command line; every word after the separator is plain. -/
def classifyAll : List String → Except Failure (List Word)
  | [] => .ok []
  | w :: rest => do
    let word ← classify w
    match word with
    | .separator => return .separator :: rest.map .plain
    | _ => return word :: (← classifyAll rest)

/-- Reads the sweep's command line. -/
def parseOptions (argv : List String) : Except Failure SweepOptions := do
  let words ← classifyAll argv
  takeWords words {} false

/-- Words that are all plain leave nothing to take but are refused. -/
theorem takeWords_plain_refused (text : String) (rest : List Word) (opts : SweepOptions)
    (leftover : Bool) (h : takeWords rest opts true = .error refused) :
    takeWords (.plain text :: rest) opts leftover = .error refused := by
  simp only [takeWords, h]

end IssueSync.Sweep
