import IssueSync.Proofs.Coroutine
import IssueSync.Proofs.PushAgreement

/-!
# The operations on a scope, cut at their await points

Each operation of the service written as the coroutine it is: every call the operation awaits is
one step, the scope's lock is held around the read, push and write of the scope's local findings,
and whatever the operation decides between two awaits belongs to the step before. Run alone, each
coroutine is the operation (`ScopeOp.co_run`).
-/

set_option autoImplicit false

namespace IssueSync

open IssueSync.Store IssueSync.Remote

/-- An operation on a scope: a call, or recording local findings. -/
inductive ScopeOp
  | call (c : ScopeCall)
  | record (findings : List LocalFinding)

/-- Runs an operation on a scope of a service; what it answers is dropped. -/
def ScopeOp.perform (s : Service) (scope : String) : ScopeOp → Run Unit
  | .call c => c.perform s scope
  | .record findings => discard (s.recordLocalOnly scope findings)

namespace Service

/-- The scope's findings are read, then the server is told. -/
def pushResolvedSetCo (conn : Connection) (b : Binding) (scope : String) (incl : Option LocalFinding)
    (exclude : List Uuid) (stage : FailedStage) : Co (List LocalFinding) := do
  let resolved := resolvedSet (← Co.lift (LocalOnly.loadAll scope)) incl exclude
  Co.lift (failedWith stage (pushMessage b) (anticipatedTransitions conn b.projectKey resolved))
  return resolved

def changeStatusCo (s : Service) (scope key : String) (status : ResolutionStatus) (taint : Bool) :
    Co Unit := do
  let some (b, conn) ← Co.lift (s.bound? scope) | return
  let file ← Co.lift (bindingFile b)
  if ← Co.lift (ServerFindings.contains file key taint) then
    Co.lift (failedWith .statusChange s!"Could not change status of issue {key}"
      (doTransition conn key status.transition.code))
    if let some m ← Co.lift (ServerFindings.updateResolution file key taint true) then
      Co.lift (s.statusChanged m.ruleKey)
    return
  let notFound := Failure.problem (.failed .statusChange s!"Issue key {key} was not found" none)
  let some id := asLocalId key | throw notFound
  let f ← Co.locked scope do
    let some f ← Co.lift (LocalOnly.find id) | throw notFound
    let f := f.resolve status
    discard (pushResolvedSetCo conn b scope (some f) [] .statusChange)
    Co.lift (LocalOnly.store scope f)
    return f
  Co.lift (s.statusChanged f.ruleKey)

def commentLocalOnlyCo (s : Service) (scope : String) (id : Uuid) (text : String) : Co Bool := do
  let some (b, conn) ← Co.lift (s.bound? scope) | return false
  Co.locked scope do
    let some f ← Co.lift (LocalOnly.find id) | return false
    let some r := f.resolution | return false
    let f := { f with resolution := some { r with comment := .str text } }
    discard (pushResolvedSetCo conn b scope (some f) [] .comment)
    Co.lift (LocalOnly.store scope f)
    return true

def addCommentCo (s : Service) (scope key text : String) : Co Unit := do
  if let some id := asLocalId key then
    if ← s.commentLocalOnlyCo scope id text then return
  let some (_, conn) ← Co.lift (s.bound? scope) | return
  Co.lift (failedWith .comment s!"Could not add comment to issue {key}" (Remote.addComment conn key text))

def reopenCo (s : Service) (scope key : String) (taint : Bool) : Co Bool := do
  let some (b, conn) ← Co.lift (s.bound? scope) | return false
  let file ← Co.lift (bindingFile b)
  if ← Co.lift (ServerFindings.contains file key taint) then
    Co.lift (failedWith .statusChange s!"Could not reopen issue {key}"
      (doTransition conn key Transition.reopen.code))
    if let some m ← Co.lift (ServerFindings.updateResolution file key taint false) then
      Co.lift (s.statusChanged m.ruleKey)
    return true
  let some id := asLocalId key | return false
  Co.locked scope do
    discard (pushResolvedSetCo conn b scope none [id] .statusChange)
    discard (Co.lift (LocalOnly.removeOne id))
  return true

def reopenAllCo (s : Service) (scope : String) (path : Value) : Co Bool := do
  let bound ← Co.lift (s.bound? scope)
  let removed ← Co.locked scope do
    if let some (b, conn) := bound then
      let forFile ← Co.lift (LocalOnly.loadForPath scope path)
      try discard (pushResolvedSetCo conn b scope none (forFile.map (·.id)) .statusChange)
      catch
        | f@(.problem (.failed .statusChange _ _)) =>
          Co.lift (Run.log s!"reopen_all: push for {scope}:{path.display} failed, cleaning up locally anyway: {f.message}")
        | f => throw f
    Co.lift (LocalOnly.removeForPath scope path)
  Co.lift (Run.log s!"reopen_all: removed {removed} local-only findings for {scope}:{path.display}")
  return true

def resyncCo (s : Service) (scope : String) : Co Bool := do
  let some (b, conn) ← Co.lift (s.bound? scope) | return false
  let resolved ← Co.locked scope (pushResolvedSetCo conn b scope none [] .operation)
  Co.lift (Run.log s!"resync: sent {resolved.length} resolved findings for {scope} ({b.projectKey.display})")
  return true

def recordLocalOnlyCo (_service : Service) (scope : String) (findings : List LocalFinding) :
    Co (List LocalFinding) := do
  let stored ← Co.locked scope (Co.lift (LocalOnly.storeAll scope findings))
  Co.lift (Run.log s!"recorded {stored.length} local-only findings for {scope}")
  return stored

end Service

/-- An operation on a scope as a coroutine; what it answers is dropped. -/
def ScopeOp.co (s : Service) (scope : String) : ScopeOp → Co Unit
  | .call (.changeStatus key status taint) => s.changeStatusCo scope key status taint
  | .call (.addComment key text) => s.addCommentCo scope key text
  | .call (.reopen key taint) => discard (s.reopenCo scope key taint)
  | .call (.reopenAll path) => discard (s.reopenAllCo scope path)
  | .call .resync => discard (s.resyncCo scope)
  | .record findings => discard (s.recordLocalOnlyCo scope findings)

theorem Co.run_discard {α : Type} (c : Co α) : (discard c).run = discard c.run := by
  funext h
  show (c >>= fun _ => pure ()).run.run h = (discard c.run).run h
  rw [Co.run_bind, EStateM.run_bind, Run.discard_run]
  cases c.run.run h <;> rfl

namespace Service

variable (s : Service) (scope : String)

theorem pushResolvedSetCo_run (conn : Connection) (b : Binding) (incl : Option LocalFinding)
    (exclude : List Uuid) (stage : FailedStage) :
    (pushResolvedSetCo conn b scope incl exclude stage).run = pushResolvedSet conn b scope incl exclude stage := by
  simp [pushResolvedSetCo, pushResolvedSet_eq]

-- each proof follows the operation: one case split per awaited answer it matches on
theorem changeStatusCo_run (key : String) (status : ResolutionStatus) (taint : Bool) :
    (s.changeStatusCo scope key status taint).run = s.changeStatus scope key status taint := by
  simp only [changeStatusCo, changeStatus, Co.run_bind, Co.run_lift]
  congr 1; funext bound
  rcases bound with _ | ⟨b, conn⟩
  · rfl
  simp only [Co.run_bind, Co.run_lift]
  congr 1; funext file
  congr 1; funext contained
  cases contained
  · simp only [Bool.false_eq_true, if_false]
    cases asLocalId key with
    | none => rfl
    | some id =>
      simp only [Co.run_bind, Co.run_lift, Co.run_locked, bind_assoc]
      congr 1; funext found
      cases found with
      | none => rfl
      | some f => simp [pushResolvedSetCo_run, Co.run_discard]
  · simp only [if_true, Co.run_bind, Co.run_lift]
    congr 1; funext u
    congr 1; funext updated
    cases updated <;> simp

theorem commentLocalOnlyCo_run (id : Uuid) (text : String) :
    (s.commentLocalOnlyCo scope id text).run = s.commentLocalOnly scope id text := by
  simp only [commentLocalOnlyCo, commentLocalOnly, Co.run_bind, Co.run_lift]
  congr 1; funext bound
  rcases bound with _ | ⟨b, conn⟩
  · rfl
  simp only [Co.run_locked, Co.run_bind, Co.run_lift]
  congr 1; funext found
  rcases found with _ | f
  · rfl
  dsimp only
  cases f.resolution with
  | none => rfl
  | some r => simp [pushResolvedSetCo_run, Co.run_discard]

theorem addCommentCo_run (key text : String) :
    (s.addCommentCo scope key text).run = s.addComment scope key text := by
  simp only [addCommentCo, addComment]
  -- when no resolved local finding takes the comment, it goes to the server
  cases asLocalId key with
  | none =>
    simp only [Co.run_bind, Co.run_lift]
    congr 1; funext bound
    rcases bound with _ | ⟨b, conn⟩ <;> simp
  | some id =>
    simp only [Co.run_bind, commentLocalOnlyCo_run]
    congr 1; funext commented
    cases commented
    · simp only [Bool.false_eq_true, if_false, Co.run_bind, Co.run_lift]
      congr 1; funext bound
      rcases bound with _ | ⟨b, conn⟩ <;> simp
    · simp

theorem reopenCo_run (key : String) (taint : Bool) :
    (s.reopenCo scope key taint).run = s.reopen scope key taint := by
  simp only [reopenCo, reopen, Co.run_bind, Co.run_lift]
  congr 1; funext bound
  rcases bound with _ | ⟨b, conn⟩
  · rfl
  simp only [Co.run_bind, Co.run_lift]
  congr 1; funext file
  congr 1; funext contained
  cases contained
  · simp only [Bool.false_eq_true, if_false]
    cases asLocalId key with
    | none => rfl
    | some id => simp [pushResolvedSetCo_run, Co.run_discard]
  · simp only [if_true, Co.run_bind, Co.run_lift]
    congr 1; funext u
    congr 1; funext updated
    cases updated <;> simp

theorem reopenAllCo_run (path : Value) : (s.reopenAllCo scope path).run = s.reopenAll scope path := by
  simp only [reopenAllCo, reopenAll, Co.run_bind, Co.run_lift]
  congr 1; funext bound
  rcases bound with _ | ⟨b, conn⟩
  · simp
  simp only [Co.run_locked, Co.run_bind, Co.run_lift, bind_assoc]
  congr 1; funext forFile
  simp only [Co.run_tryCatch, Co.run_discard, pushResolvedSetCo_run]
  congr 2; funext f
  split
  · simp
  · simp [Run.fail]

theorem resyncCo_run : (s.resyncCo scope).run = s.resync scope := by
  simp only [resyncCo, resync, Co.run_bind, Co.run_lift]
  congr 1; funext bound
  rcases bound with _ | ⟨b, conn⟩
  · rfl
  simp [pushResolvedSetCo_run]

theorem recordLocalOnlyCo_run (findings : List LocalFinding) :
    (s.recordLocalOnlyCo scope findings).run = s.recordLocalOnly scope findings := by
  simp [recordLocalOnlyCo, recordLocalOnly]

end Service

/-- Run alone, an operation cut at its await points is the operation. -/
theorem ScopeOp.co_run (s : Service) (scope : String) (op : ScopeOp) : (op.co s scope).run = op.perform s scope := by
  cases op with
  | call c =>
    cases c with
    | changeStatus key status taint => exact s.changeStatusCo_run scope key status taint
    | addComment key text => exact s.addCommentCo_run scope key text
    | reopen key taint => simp [co, perform, ScopeCall.perform, Co.run_discard, Service.reopenCo_run]
    | reopenAll path => simp [co, perform, ScopeCall.perform, Co.run_discard, Service.reopenAllCo_run]
    | resync => simp [co, perform, ScopeCall.perform, Co.run_discard, Service.resyncCo_run]
  | record findings => simp [co, perform, Co.run_discard, Service.recordLocalOnlyCo_run]

end IssueSync
