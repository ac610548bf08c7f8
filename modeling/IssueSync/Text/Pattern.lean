/-!
# Patterns over characters

A small language of regular patterns (a character class, concatenation, choice, option and
repetition) with a matcher that computes every way a pattern can consume a prefix of the
input. A text matches when one of those ways consumes all of it, so the matcher needs no
backtracking order: greedy and lazy repetition accept the same texts.
-/

namespace IssueSync

/-- A regular pattern over characters. -/
inductive Pattern where
  | empty
  | one (accepts : Char → Bool)
  | cat (first second : Pattern)
  | choice (left right : Pattern)
  | opt (p : Pattern)
  | many (p : Pattern)

namespace Pattern

/-- Every rest of the input after `step` has consumed a non-empty part of it, repeated as often
as it can: at most once per character, which bounds the repetition. -/
def repeatRests (step : List Char → List (List Char)) : Nat → List Char → List (List Char)
  | 0, cs => [cs]
  | fuel + 1, cs =>
    cs :: ((step cs).filter (·.length < cs.length)).flatMap (repeatRests step fuel)

/-- Every rest of the input after the pattern has consumed a prefix of it. -/
def rests : Pattern → List Char → List (List Char)
  | .empty, cs => [cs]
  | .one _, [] => []
  | .one accepts, c :: cs => if accepts c then [cs] else []
  | .cat a b, cs => (rests a cs).flatMap (rests b)
  | .choice a b, cs => rests a cs ++ rests b cs
  | .opt a, cs => rests a cs ++ [cs]
  | .many a, cs => repeatRests (rests a) cs.length cs

/-- Whether the pattern consumes the whole text. -/
def fullMatch (p : Pattern) (s : String) : Bool :=
  (p.rests s.toList).any (·.isEmpty)

/-- A sequence of patterns. -/
def seq : List Pattern → Pattern
  | [] => .empty
  | [p] => p
  | p :: ps => .cat p (seq ps)

/-- A choice among patterns. -/
def anyOf : List Pattern → Pattern
  | [] => .one fun _ => false
  | [p] => p
  | p :: ps => .choice p (anyOf ps)

/-- One or more repetitions. -/
def plus (p : Pattern) : Pattern := .cat p (.many p)

/-- Exactly the given text. -/
def lit (s : String) : Pattern := seq (s.toList.map fun c => .one (· == c))

/-- One character of the given set. -/
def oneOf (s : String) : Pattern := .one fun c => s.toList.contains c

/-- One character of an inclusive range. -/
def range (lo hi : Char) : Pattern := .one fun c => lo ≤ c && c ≤ hi

example : (seq [.many (range '0' '9'), lit ".5"]).fullMatch "12.5" = true := by decide +kernel
example : (plus (range '0' '9')).fullMatch "" = false := by decide +kernel

end Pattern

end IssueSync
