import IssueSync.Number.FloatText
/-!
Values of data files: what a JSON or YAML document holds, YAML's byte strings and sets included.
Mappings keep their entries in insertion order and may have keys of any scalar kind. Two values
are equal as keys when they are equal numbers (a boolean counts as 0 or 1, an integral double as
its integer), equal texts, days, byte strings, sequences, sets or mappings; a double NaN equals
nothing.
-/
namespace IssueSync

/-- A calendar day. -/
structure Day where
  year : Nat
  month : Nat
  day : Nat
deriving DecidableEq, Repr

/-- A moment: date, time of day and an optional offset from UTC in microseconds. -/
structure Stamp where
  year : Nat
  month : Nat
  day : Nat
  hour : Nat := 0
  minute : Nat := 0
  second : Nat := 0
  microsecond : Nat := 0
  offset : Option Int := none
deriving DecidableEq, Repr

/-- A value of a data file. -/
inductive Value where
  | null
  | bool (b : Bool)
  | int (n : Int)
  | float (x : Float)
  | str (s : String)
  | date (d : Day)
  | time (t : Stamp)
  | bytes (data : List UInt8)
  | set (items : List Value)
  | list (items : List Value)
  | dict (entries : List (Value × Value))

namespace Value

instance : Inhabited Value := ⟨.null⟩

/-- The name of the kind of a value, as messages about values of the wrong kind give it. -/
def typeName : Value → String
  | .null => "NoneType"
  | .bool _ => "bool"
  | .int _ => "int"
  | .float _ => "float"
  | .str _ => "str"
  | .date _ => "datetime.date"
  | .time _ => "datetime.datetime"
  | .bytes _ => "bytes"
  | .set _ => "set"
  | .list _ => "list"
  | .dict _ => "dict"

/-- Whether a value counts as true in a condition: everything but null, false, zero, and empty
text, sequences and mappings. -/
def truthy : Value → Bool
  | .null => false
  | .bool b => b
  | .int n => n != 0
  | .float x => x != 0.0
  | .str s => !s.isEmpty
  | .date _ => true
  | .time _ => true
  | .bytes bs => !bs.isEmpty
  | .set xs => !xs.isEmpty
  | .list xs => !xs.isEmpty
  | .dict es => !es.isEmpty

/-- The integer a double stands for, when it is finite and integral. -/
def floatInteger? (x : Float) : Option Int :=
  match Number.Binary.ofFloat? x with
  | none => if x.isNaN || x.isInf then none else some 0
  | some (negative, b) =>
    if b.exponent ≥ 0 then
      let n : Int := ((b.mantissa * Nat.pow 2 b.exponent.toNat : Nat) : Int)
      some (if negative then -n else n)
    else if b.mantissa % Nat.pow 2 (-b.exponent).toNat == 0 then
      let n : Int := ((b.mantissa / Nat.pow 2 (-b.exponent).toNat : Nat) : Int)
      some (if negative then -n else n)
    else none

/-- The integer a number stands for when it is integral: booleans as 0 and 1. -/
def integer? : Value → Option Int
  | .bool b => some (if b then 1 else 0)
  | .int n => some n
  | .float x => floatInteger? x
  | _ => none

/-- Whether a value is a number (booleans included). -/
def isNumber : Value → Bool
  | .bool _ | .int _ | .float _ => true
  | _ => false

mutual
/-- Equality of values as keys and in comparisons. -/
def equal : Value → Value → Bool
  | .null, .null => true
  | .str a, .str b => a == b
  | .date a, .date b => a == b
  | .time a, .time b => a == b
  | .bytes a, .bytes b => a == b
  | .set xs, .set ys => xs.length == ys.length && subItems xs ys
  | .list xs, .list ys => equalLists xs ys
  | .dict es, .dict fs => es.length == fs.length && subEntries es fs
  | .float a, .float b => a == b
  | .float a, b => b.isNumber && (floatInteger? a).isSome && floatInteger? a == b.integer?
  | a, .float b => a.isNumber && (floatInteger? b).isSome && a.integer? == floatInteger? b
  | a, b => a.isNumber && b.isNumber && a.integer? == b.integer?
termination_by a b => sizeOf a + sizeOf b
/-- Element-wise equality of two sequences. -/
def equalLists : List Value → List Value → Bool
  | [], [] => true
  | x :: xs, y :: ys => equal x y && equalLists xs ys
  | _, _ => false
termination_by xs ys => sizeOf xs + sizeOf ys
/-- Every item of the first collection has an equal item in the second. -/
def subItems : List Value → List Value → Bool
  | [], _ => true
  | x :: xs, ys => memberOf ys x && subItems xs ys
termination_by xs ys => sizeOf xs + sizeOf ys
/-- Whether a collection has an item equal to a value. -/
def memberOf : List Value → Value → Bool
  | [], _ => false
  | y :: ys, x => equal y x || memberOf ys x
termination_by ys x => sizeOf ys + sizeOf x
/-- Every entry of the first mapping is in the second with an equal value. -/
def subEntries : List (Value × Value) → List (Value × Value) → Bool
  | [], _ => true
  | (k, v) :: es, fs => lookupIn fs k v && subEntries es fs
termination_by es fs => sizeOf es + sizeOf fs
/-- The entry of `k` in a mapping holds a value equal to `v`. -/
def lookupIn : List (Value × Value) → Value → Value → Bool
  | [], _, _ => false
  | (k', v') :: fs, k, v => if equal k' k then equal v' v else lookupIn fs k v
termination_by fs k v => sizeOf fs + sizeOf k + sizeOf v
end

/-- Sequences, sets and mappings cannot be keys. -/
def hashable : Value → Bool
  | .list _ | .dict _ | .set _ => false
  | _ => true

/-- The value of a key in a mapping. -/
def lookup? (entries : List (Value × Value)) (key : Value) : Option Value :=
  (entries.find? fun e => equal e.1 key).map Prod.snd

/-- Sets the value of a key: an entry with an equal key keeps its key and place and takes the new
value; otherwise the entry is appended. -/
def insertEntry (entries : List (Value × Value)) (key value : Value) : List (Value × Value) :=
  if entries.any (fun e => equal e.1 key) then
    entries.map fun e => if equal e.1 key then (e.1, value) else e
  else entries ++ [(key, value)]

/-- The value of a text key in a mapping. -/
def field? (entries : List (Value × Value)) (name : String) : Option Value :=
  lookup? entries (.str name)

/-- The value of a text key, or null when it is missing. -/
def fieldD (entries : List (Value × Value)) (name : String) : Value :=
  (field? entries name).getD .null

/-- A mapping with text keys. -/
def object (fields : List (String × Value)) : Value :=
  .dict (fields.map fun f => (.str f.1, f.2))

/-- Text, or null for `none`. -/
def ofOption : Option String → Value
  | some s => .str s
  | none => .null

/-- The text of a text value. -/
def text? : Value → Option String
  | .str s => some s
  | _ => none

end Value

end IssueSync
