import IssueSync.Failure
import IssueSync.Number.IntText
import IssueSync.Text.Quoted
/-!
Finding keys. A key is either a local id, a 128-bit number the program made up for a finding the
server has never seen, or a server key. Local ids are written as 32 lower-case hexadecimal digits in
groups of 8, 4, 4, 4 and 12. Reading is lenient: every `urn:` and `uuid:` is removed, braces are
stripped from both ends and hyphens dropped; the 32 characters left must be a hexadecimal integer
numeral. Any key that does not read as a local id is a server key.
-/
namespace IssueSync

open IssueSync.Number IssueSync.Text

/-- A local finding id. -/
structure Uuid where
  value : Nat
  isLt : value < Nat.pow 2 128

namespace Uuid

instance : DecidableEq Uuid := fun a b =>
  if h : a.value = b.value then isTrue (by cases a; cases b; simp_all) else isFalse (by intro e; cases e; exact h rfl)

/-- The 32 hexadecimal digits of an id. -/
def digits (u : Uuid) : List Char := hexDigits 32 u.value

/-- The canonical text of an id: hexadecimal digits in groups of 8, 4, 4, 4 and 12. -/
def text (u : Uuid) : String :=
  let ds := u.digits
  String.ofList (ds.take 8 ++ '-' :: (ds.drop 8).take 4 ++ '-' :: (ds.drop 12).take 4 ++
    '-' :: (ds.drop 16).take 4 ++ '-' :: ds.drop 20)

/-- Removes every occurrence of a non-empty pattern, scanning from the left. -/
def removeAll (pat : List Char) (cs : List Char) : List Char :=
  match cs with
  | [] => []
  | c :: rest =>
    if _fits : pat ≠ [] ∧ pat.isPrefixOf (c :: rest) then
      removeAll pat ((c :: rest).drop pat.length)
    else c :: removeAll pat rest
termination_by cs.length
decreasing_by
  · have : pat.length ≠ 0 := by simpa [List.length_eq_zero_iff] using _fits.1
    simp only [List.length_drop, List.length_cons]
    omega
  · simp

/-- The characters an id text is left with once its decoration is removed. -/
def hexOf (s : String) : List Char :=
  let cs := removeAll "uuid:".toList (removeAll "urn:".toList s.toList)
  (stripChars (fun c => c == '{' || c == '}') cs).filter (· != '-')

/-- Reads an id; the error is the message of the refusal. -/
def read (s : String) : Except String Uuid :=
  let hex := hexOf s
  if hex.length != 32 then .error "badly formed hexadecimal UUID string"
  else match readHexInt? (String.ofList hex) with
    | none =>
      .error ("invalid literal for int() with base 16: " ++ String.ofList ((quote (String.ofList hex)).toList.take 200))
    | some n =>
      if h : 0 ≤ n ∧ n.toNat < Nat.pow 2 128 then .ok ⟨n.toNat, h.2⟩
      else .error "int is out of range (need a 128-bit value)"

/-- Reads an id from any value, as the record reader does: text is read, null names no id, and
other values have no text to read. -/
def ofValue (v : Value) : Except Failure Uuid :=
  match v with
  | .str s => match read s with
    | .ok u => .ok u
    | .error m => .error (.badValue m)
  | .null => .error (.badType "one of the hex, bytes, bytes_le, fields, or int arguments must be given")
  | _ => .error (Failure.noAttribute v "replace")

end Uuid

/-- What a finding key names. -/
inductive FindingIdentity where
  | localId (id : Uuid)
  | serverKey (key : Value)

/-- Tells a local id apart from a server key: text that reads as an id is a local id, everything
else a server key. -/
def classifyKey (key : Value) : FindingIdentity :=
  match key with
  | .str s => match Uuid.read s with
    | .ok u => .localId u
    | .error _ => .serverKey key
  | _ => .serverKey key

/-- The local id a text key names, if it names one. -/
def asLocalId (key : String) : Option Uuid :=
  match Uuid.read key with
  | .ok u => some u
  | .error _ => none

end IssueSync
