import IssueSync.Session.Step

/-!
# What a step shows

After each step a session shows its answer, the log lines printed, the requests the server
received, the events appended, and every file of the store with its content. Timestamps are
left out of stored documents, and text that is no JSON document shows as `{"$text": ...}`.
-/

namespace IssueSync

open IssueSync.Remote IssueSync.Store

/-- What one step showed. -/
structure StepReport where
  outcome : Except Failure Value
  logs : List String
  requests : List Value
  events : List Value
  store : List (String × Value)

/-- Name-value pairs, sorted, as a list of two-item lists. -/
def pairsValue (pairs : List (String × String)) : Value :=
  .list ((pairs.mergeSort fun a b => decide (a.1 < b.1 ∨ (a.1 = b.1 ∧ a.2 ≤ b.2))).map
    fun (k, v) => .list [.str k, .str v])

/-- A received request as a value. -/
def Sent.toValue (s : Sent) : Value :=
  let r := s.request
  let base := [("conn", Value.str s.owner), ("method", .str r.method), ("url", .str r.url),
    ("params", pairsValue r.params), ("auth", Value.ofOption r.auth)]
  Value.object (base ++ match r.payload with
    | .none => []
    | .json v => [("json", v)]
    | .form fields => [("form", pairsValue fields)])

/-- Whether a key is a timestamp that stored documents do not show. -/
def isStampKey (k : Value) : Bool := k.equal (.str "resolved_at") || k.equal (.str "synced_at")

mutual

/-- A document without its timestamps, at every depth. -/
def withoutStamps : Value → Value
  | .list xs => .list (itemsWithoutStamps xs)
  | .dict es => .dict (entriesWithoutStamps es)
  | v => v

/-- Items without their timestamps. -/
def itemsWithoutStamps : List Value → List Value
  | [] => []
  | x :: xs => withoutStamps x :: itemsWithoutStamps xs

/-- Entries without the timestamp keys, and values without their timestamps. -/
def entriesWithoutStamps : List (Value × Value) → List (Value × Value)
  | [] => []
  | (k, v) :: es =>
    if isStampKey k then entriesWithoutStamps es
    else (k, withoutStamps v) :: entriesWithoutStamps es

end

/-- How a store file shows. -/
def Store.Entry.view : Entry → Value
  | .document v => withoutStamps v
  | .text t =>
    let t := Text.normalizeNewlines t
    match Json.read t with
    | .ok v => withoutStamps v
    | .error _ => Value.object [("$text", .str t)]
  | .folder => .null

/-- Every file of the store with its content, sorted by path. -/
def Store.Files.view (fs : Files) : List (String × Value) :=
  fs.listing.map fun (p, e) => (p, e.view)

namespace Session

/-- Runs a step and reports what it showed. -/
def step (sess : Session) (st : Step) : StepReport × Session :=
  let fresh := { sess with host := { sess.host with logs := [], events := [], sent := [] } }
  let (outcome, after) := fresh.run st
  ({ outcome, logs := after.host.logs, requests := after.host.sent.map Sent.toValue,
     events := after.host.events, store := after.host.files.view }, after)

/-- Runs the steps of a session in order. -/
def steps (sess : Session) : List Step → List StepReport
  | [] => []
  | st :: rest =>
    let (report, after) := sess.step st
    report :: steps after rest

end Session

end IssueSync
