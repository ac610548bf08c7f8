import IssueSync.Failure
/-!
The API key gate. A request passes only when the server has a key configured and the request
carries exactly that key; the checks run in this order: no key configured (503), no key sent
(401), a different key (401).
-/
namespace IssueSync.Api

/-- Why a request was refused at the key gate. -/
inductive KeyRefusal where
  | notConfigured
  | missing
  | invalid
deriving DecidableEq, Repr

namespace KeyRefusal

/-- The machine-readable kind of a refusal. -/
def kind : KeyRefusal → String
  | .notConfigured => "not_configured"
  | .missing => "missing"
  | .invalid => "invalid"

/-- The message of a refusal. -/
def message : KeyRefusal → String
  | .notConfigured => "API Key is not configured on server"
  | .missing => "API Key is missing"
  | .invalid => "Invalid API Key"

/-- The HTTP status of a refusal. -/
def status : KeyRefusal → Nat
  | .notConfigured => 503
  | .missing | .invalid => 401

end KeyRefusal

/-- A key that is absent or empty. -/
def blankKey : Option String → Bool
  | none => true
  | some s => s.isEmpty

/-- Checks the key a request carries against the configured one. -/
def checkApiKey (provided expected : Option String) : Except KeyRefusal Unit :=
  if blankKey expected then .error .notConfigured
  else if blankKey provided then .error .missing
  else if provided != expected then .error .invalid
  else .ok ()

/-- Checks keys given as values of any kind: a key counts as absent when it is empty (null, empty
text, zero, false or an empty collection), and keys to compare must both be text. -/
def checkKeyValues (provided expected : Value) : Except Failure (Except KeyRefusal Unit) :=
  if !expected.truthy then .ok (.error .notConfigured)
  else if !provided.truthy then .ok (.error .missing)
  else match provided, expected with
    | .str p, .str e => .ok (if p == e then .ok () else .error .invalid)
    | .str _, e => .error (Failure.noAttribute e "encode")
    | p, _ => .error (Failure.noAttribute p "encode")

theorem checkApiKey_ok_iff (provided expected : Option String) :
    checkApiKey provided expected = .ok () ↔ blankKey expected = false ∧ provided = expected := by
  unfold checkApiKey
  by_cases he : blankKey expected <;> by_cases hp : blankKey provided <;>
    by_cases hq : provided = expected <;> simp_all

end IssueSync.Api
