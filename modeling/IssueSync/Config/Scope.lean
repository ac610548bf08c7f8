import IssueSync.Failure
/-!
Configuration scopes and their bindings. A scope may name a connection and a project key, and may
name a parent scope. A scope is bound when it has both a connection and a project key; its effective
binding is that of the first bound scope on the chain of parents, which stops at a scope seen
before, a missing scope or a scope without parent.
-/
namespace IssueSync

/-- A configuration scope. -/
structure Scope where
  id : String
  connection : Value := .null
  projectKey : Value := .null
  parent : Value := .null

/-- A connection and the project on it that a scope is bound to. -/
structure Binding where
  connectionId : Value
  projectKey : Value

namespace Scope

/-- Reads a scope from its configuration entry; a false entry is an empty one. -/
def ofValue (id : String) (data : Value) : Except Failure Scope :=
  if !data.truthy then .ok (Scope.mk id .null .null .null)
  else match data with
    | .dict es =>
      .ok (Scope.mk id (Value.fieldD es "connection") (Value.fieldD es "project_key") (Value.fieldD es "parent"))
    | _ => .error (Failure.noAttribute data "get")

/-- The binding a scope names itself. -/
def binding? (s : Scope) : Option Binding :=
  if s.connection.truthy && s.projectKey.truthy then some ⟨s.connection, s.projectKey⟩ else none

end Scope

/-- The configured scopes, by id. -/
abbrev Scopes := List (String × Scope)

namespace Scopes

/-- The scope with an id; only text names a scope. -/
def find? (scopes : Scopes) (id : Value) : Option Scope :=
  match id with
  | .str s => (List.find? (·.1 == s) scopes).map Prod.snd
  | _ => none

/-- The binding a scope names itself. -/
def binding? (scopes : Scopes) (id : Value) : Option Binding :=
  (scopes.find? id).bind Scope.binding?

/-- The failure of using a sequence or mapping where a key is needed. -/
def unhashable (v : Value) : Failure := .badType s!"unhashable type: '{v.typeName}'"

/-- Follows the chain of parents from `current`, `seen` holding the scopes passed. -/
def chase (scopes : Scopes) : Nat → List Value → Value → Except Failure (Option Binding)
  | 0, _, _ => .ok none
  | fuel + 1, seen, current =>
    match current with
    | .null => .ok none
    | _ =>
      if !current.hashable then .error (unhashable current)
      else if seen.any (·.equal current) then .ok none
      else match scopes.binding? current with
        | some b => .ok (some b)
        | none => match scopes.find? current with
          | some s => chase scopes fuel (current :: seen) s.parent
          | none => .ok none

/-- The binding of a scope or of its closest bound ancestor. -/
def effectiveBinding (scopes : Scopes) (id : Value) : Except Failure (Option Binding) :=
  chase scopes (scopes.length + 1) [] id

/-- The scope ids in ascending order. -/
def ids (scopes : Scopes) : List String :=
  (scopes.map Prod.fst).mergeSort fun a b => decide (a ≤ b)

end Scopes

end IssueSync
