/-!
# UTF-8 bytes as text

Decoding UTF-8 in two ways: strictly, where any malformed sequence refuses the whole input, and
leniently, where each maximal malformed part becomes one replacement character. The strict
decoder may accept encoded surrogates; a surrogate has no character of its own here and reads
as the replacement character.
-/

namespace IssueSync.Text

/-- The shape of a sequence that starts with a leading byte: how many continuation bytes follow
and the range the first of them must lie in (later ones lie in `0x80`–`0xBF`). -/
def leadShape (surrogates : Bool) (b : Nat) : Option (Nat × Nat × Nat) :=
  if 0xC2 ≤ b && b ≤ 0xDF then some (1, 0x80, 0xBF)
  else if b == 0xE0 then some (2, 0xA0, 0xBF)
  else if b == 0xED then some (2, 0x80, if surrogates then 0xBF else 0x9F)
  else if 0xE1 ≤ b && b ≤ 0xEF then some (2, 0x80, 0xBF)
  else if b == 0xF0 then some (3, 0x90, 0xBF)
  else if 0xF1 ≤ b && b ≤ 0xF3 then some (3, 0x80, 0xBF)
  else if b == 0xF4 then some (3, 0x80, 0x8F)
  else none

/-- The value bits of a leading byte of a sequence with `n` continuation bytes. -/
def leadBits (n b : Nat) : Nat :=
  match n with
  | 1 => b % 0x20
  | 2 => b % 0x10
  | _ => b % 0x08

/-- The character of a code point; surrogates read as the replacement character. -/
def charOfCode (code : Nat) : Char :=
  if 0xD800 ≤ code && code < 0xE000 then '\uFFFD' else Char.ofNat code

/-- Reads continuation bytes: how many of the `n` wanted are well-formed, and the value so far. -/
def continuation (lo hi : Nat) : Nat → Nat → List Nat → Nat × Nat
  | 0, acc, _ => (0, acc)
  | _ + 1, acc, [] => (0, acc)
  | n + 1, acc, b :: rest =>
    if lo ≤ b && b ≤ hi then
      let (k, v) := continuation 0x80 0xBF n (acc * 64 + b % 64) rest
      (k + 1, v)
    else (0, acc)

/-- Reads one character at the front of the bytes: the character, or none for a malformed part,
and the number of bytes read (at least one). -/
def readChar (surrogates : Bool) : List Nat → Option Char × Nat
  | [] => (none, 1)
  | b :: rest =>
    if b < 0x80 then (some (Char.ofNat b), 1)
    else match leadShape surrogates b with
      | none => (none, 1)
      | some (n, lo, hi) =>
        let (k, v) := continuation lo hi n (leadBits n b) rest
        if k == n then (some (charOfCode v), n + 1) else (none, k + 1)

/-- Decodes bytes, each malformed part read by `onFault`; `none` when it refuses. -/
def decodeWith (surrogates : Bool) (onFault : Option Char) : List Nat → Option (List Char)
  | [] => some []
  | b :: rest =>
    let (c, k) := readChar surrogates (b :: rest)
    match c.orElse fun _ => onFault with
    | some ch => (decodeWith surrogates onFault ((b :: rest).drop (max k 1))).map (ch :: ·)
    | none => none
termination_by bs => bs.length
decreasing_by simp only [List.length_drop, List.length_cons]; omega

/-- Strict UTF-8 decoding, encoded surrogates allowed or not. -/
def decodeStrict (surrogates : Bool) (bs : ByteArray) : Option String :=
  (decodeWith surrogates none (bs.toList.map (·.toNat))).map String.ofList

/-- Lenient UTF-8 decoding: each maximal malformed part becomes one replacement character. -/
def decodeLenient (bs : ByteArray) : String :=
  String.ofList ((decodeWith false (some '\uFFFD') (bs.toList.map (·.toNat))).getD [])

example : decodeLenient "aü".toUTF8 = "aü" := by decide +kernel
example : decodeLenient (ByteArray.mk #[0x61, 0xE2, 0x82, 0x62]) = "a\uFFFDb" := by decide +kernel

end IssueSync.Text
