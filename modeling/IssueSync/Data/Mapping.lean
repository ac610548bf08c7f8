import IssueSync.Failure

/-!
# Dictionary operations on values

The operations the stores apply to documents read from files: looking up a key with a default,
listing values or pairs, setting a key, indexing. They are operations of dictionaries; applied to
a value of another kind each fails the way that kind refuses it.
-/

namespace IssueSync.Value

/-- The value under a key, null when absent. -/
def getMember (v key : Value) : Except Failure Value :=
  match v with
  | .dict es => if key.hashable then .ok ((lookup? es key).getD .null)
    else .error (.badType s!"unhashable type: '{key.typeName}'")
  | _ => .error (Failure.noAttribute v "get")

/-- The values of a dictionary. -/
def valuesOf (v : Value) : Except Failure (List Value) :=
  match v with
  | .dict es => .ok (es.map (·.2))
  | _ => .error (Failure.noAttribute v "values")

/-- The pairs of a dictionary. -/
def itemsOf (v : Value) : Except Failure (List (Value × Value)) :=
  match v with
  | .dict es => .ok es
  | _ => .error (Failure.noAttribute v "items")

/-- The failure of setting a key on a value that is no dictionary. -/
def noItemAssignment (v : Value) : Failure :=
  match v with
  | .list _ => .badType "list indices must be integers or slices, not str"
  | _ => .badType s!"'{v.typeName}' object does not support item assignment"

/-- The dictionary with a key set to a value, in place of an equal key's value. -/
def setItem (v key value : Value) : Except Failure Value :=
  match v with
  | .dict es => .ok (.dict (insertEntry es key value))
  | _ => .error (noItemAssignment v)

/-- The failure of indexing a value that is no mapping with a text key. -/
def notSubscriptable (v : Value) : Failure :=
  match v with
  | .str _ => .badType "string indices must be integers, not 'str'"
  | .list _ => .badType "list indices must be integers or slices, not str"
  | _ => .badType s!"'{v.typeName}' object is not subscriptable"

/-- The value under a text key that must be present. -/
def subscript (v : Value) (name : String) : Except Failure Value :=
  match v with
  | .dict es => match field? es name with
    | some x => .ok x
    | none => .error (.missingKey (.str name))
  | _ => .error (notSubscriptable v)

end IssueSync.Value
