import IssueSync.Proofs.Linearizable
import IssueSync.Proofs.ScopeLock
import IssueSync.Proofs.ScopeIsolation

/-!
# Changes of status on issues the server knows

A change of status or a reopening of an issue that the cache of the scope's binding holds takes
no lock: it asks the server for the transition, then sets the issue's flag in the cache. That
one write reads and changes the stored files alone, and every step before it answers from what the
cache holds and where the connections lead, which no such call changes. So however the event
loop interleaves these calls, the stored files end as running them one after the other leaves
them, in the order in which their cache updates ran (`cache_updates_linearize`), an order the
server's answers decide and not the order in which the server applied the transitions.
-/

set_option autoImplicit false

namespace IssueSync

open IssueSync.Store IssueSync.Remote IssueSync.Value

section Storage

variable {v0 : CacheAnswers}

theorem files_unscripted : Unscripted Host.files cacheView where
  owned _ _ := rfl
  shared h sc := cacheView_script h sc

theorem Keeps.files_of_apart {α : Type} {m : Run α} (apart : Within .apart m) : Keeps Host.files cacheView v0 m := by
  intro h view
  obtain ⟨files, fleet, -⟩ := apart h
  exact ⟨files, (cacheView_of_files files fleet).trans view⟩

theorem sameView_network : Respects.OnNetwork (SameView cacheView v0) where
  sameServer _ _ related := ⟨related.2.2, congrArg Prod.snd (related.1.trans related.2.1.symm)⟩
  recorded _ _ _ _ related :=
    ⟨(cacheView_sent _ _ _).trans related.1, (cacheView_sent _ _ _).trans related.2.1, rfl⟩

/-- Setting the flag of an issue reads and writes the stored files alone. -/
theorem updateResolution_files (path key : String) (taint resolved : Bool) :
    Respects (fun h1 h2 => h1.files = h2.files ∧ h1.script = h2.script)
      (ServerFindings.updateResolution path key taint resolved) := by
  unfold ServerFindings.updateResolution ServerFindings.document
  refine Respects.bind (Respects.bind (Respects.readJson _ fun h1 h2 same => by rw [same.1]) fun _ =>
    Respects.of_pure _) fun es => ?_
  refine Respects.bind (Respects.lift _) fun record => ?_
  split
  · exact Respects.of_pure _
  · refine Respects.bind (Respects.lift _) fun _ => Respects.bind (Respects.lift _) fun _ => ?_
    refine Respects.bind (Respects.writeJson _ _ (fun h1 h2 same => by rw [same.1])
      fun h1 h2 same => ⟨by rw [same.1], same.2⟩) fun _ => ?_
    exact Respects.bind (Respects.lift _) fun _ => Respects.of_pure _

/-- Setting the flag of an issue the cache holds answers and changes the stored files from the
stored files, and keeps what the cache answers. -/
theorem updateResolution_writes {c p key : String} {taint : Bool} (cached : v0.1 c p key taint = .ok true)
    (resolved : Bool) :
    Respects (SameState Host.files cacheView v0) (ServerFindings.updateResolution (bindingPath c p) key taint resolved) := by
  intro h1 h2 ⟨files, view1, view2, script⟩
  obtain ⟨answered, files', script'⟩ := updateResolution_files (bindingPath c p) key taint resolved h1 h2 ⟨files, script⟩
  exact ⟨answered, files', (updateResolution_keeps cached resolved h1 view1).2,
    (updateResolution_keeps cached resolved h2 view2).2, script'⟩

end Storage

section Calls

variable (s : Service) (scope c p : String) (conn : Connection) {v0 : CacheAnswers}

/-- Before the write: the binding of a served scope. -/
theorem Atomic.served_bind {α : Type} (served : s.Serves scope ⟨.str c, .str p⟩ conn)
    {f : Option (Binding × Connection) → Co α} (rest : Atomic Host.files cacheView v0 (f (some (⟨.str c, .str p⟩, conn)))) :
    Atomic Host.files cacheView v0 (Co.lift (s.bound? scope) >>= f) := by
  refine Atomic.lift_bind (bound?_respects s scope sameView_logged) (Keeps.files_of_apart (bound?_apart s scope))
    fun h _ bound answered => ?_
  rw [Service.bound?_served served h] at answered
  cases answered
  exact rest

/-- Before the write: the file of the binding, and the cache holding the issue. -/
theorem Atomic.cached_bind {α : Type} {key : String} {taint : Bool} (cached : v0.1 c p key taint = .ok true)
    {f : String → Bool → Co α} (rest : Atomic Host.files cacheView v0 (f (bindingPath c p) true)) :
    Atomic Host.files cacheView v0 (Co.lift (Service.bindingFile ⟨.str c, .str p⟩) >>= fun file =>
      Co.lift (ServerFindings.contains file key taint) >>= f file) := by
  refine Atomic.lift_bind (bindingFile_respects _) (Keeps.files_of_apart (bindingFile_apart _))
    fun h _ file answered => ?_
  rw [Service.bindingFile_text] at answered
  cases answered
  refine Atomic.lift_bind (contains_sameView c p key taint) (Keeps.files_of_apart (contains_apart _ key taint))
    fun h view contained answered => ?_
  have hit := (contains_answer view answered).symm.trans cached
  cases hit
  exact rest

/-- Before the write: the transition, asked of the server. -/
theorem transition_respects (key code : String) (stage : FailedStage) (message : String) :
    Respects (SameView cacheView v0) (Service.failedWith stage message (doTransition conn key code)) :=
  failedWith_respects stage message (Respects.discard (Respects.call sameView_network _ _ _ _ _))

theorem changeStatusCo_atomic (served : s.Serves scope ⟨.str c, .str p⟩ conn) (key : String)
    (status : ResolutionStatus) (taint : Bool) (cached : v0.1 c p key taint = .ok true) :
    Atomic Host.files cacheView v0 (s.changeStatusCo scope key status taint) := by
  unfold Service.changeStatusCo
  refine Atomic.served_bind s scope c p conn served ?_
  refine Atomic.cached_bind c p cached ?_
  -- the issue is cached: the transition, then the one write, then the telemetry
  refine Atomic.lift_bind (transition_respects conn key _ _ _)
    (Keeps.files_of_apart (failedWith_apart _ _ (doTransition_apart conn key _))) fun _ _ _ _ => ?_
  refine Atomic.write_bind (updateResolution_writes cached true) fun updated => ?_
  rcases updated with _ | m
  · exact .done _
  · exact Free.bind (Free.lift (Keeps.files_of_apart (statusChanged_apart s m.ruleKey))) fun _ => .done _

theorem reopenCo_atomic (served : s.Serves scope ⟨.str c, .str p⟩ conn) (key : String) (taint : Bool)
    (cached : v0.1 c p key taint = .ok true) :
    Atomic Host.files cacheView v0 (s.reopenCo scope key taint) := by
  unfold Service.reopenCo
  refine Atomic.served_bind s scope c p conn served ?_
  refine Atomic.cached_bind c p cached ?_
  refine Atomic.lift_bind (transition_respects conn key _ _ _)
    (Keeps.files_of_apart (failedWith_apart _ _ (doTransition_apart conn key _))) fun _ _ _ _ => ?_
  refine Atomic.write_bind (updateResolution_writes cached false) fun updated => ?_
  rcases updated with _ | m
  · exact .done _
  · exact Free.bind (Free.lift (Keeps.files_of_apart (statusChanged_apart s m.ruleKey))) fun _ => .done _

end Calls

/-- A change of status or a reopening of an issue that the cache of the binding `(c, p)` holds in
the host `h`, in the section the call names. -/
def ScopeOp.OnCached (h : Host) (c p : String) : ScopeOp → Prop
  | .call (.changeStatus key _ taint) =>
    resultOutcome ((ServerFindings.contains (bindingPath c p) key taint).run h) = .ok true
  | .call (.reopen key taint) =>
    resultOutcome ((ServerFindings.contains (bindingPath c p) key taint).run h) = .ok true
  | _ => False

theorem ScopeOp.co_atomic (s : Service) (scope c p : String) (conn : Connection)
    (served : s.Serves scope ⟨.str c, .str p⟩ conn) {h : Host} {op : ScopeOp} (onCached : op.OnCached h c p) :
    Atomic Host.files cacheView (cacheView h) (op.co s scope) := by
  match op, onCached with
  | .call (.changeStatus key status taint), cached => exact changeStatusCo_atomic s scope c p conn served key status taint cached
  | .call (.reopen key taint), cached =>
    exact Atomic.bind (reopenCo_atomic s scope c p conn served key taint cached) fun _ => .done _

theorem Service.CallThen.run_of_accepted {α : Type} {m rest : Run α} {h : Host} {remote : Run Unit} {req : Request}
    {stage : FailedStage} {message : String} (call : Service.CallThen m h remote req stage message rest) {h1 : Host}
    (took : remote.run h = .ok () h1) : m.run h = rest.run h1 := by
  obtain ⟨script, new, -, ⟨accepted, ran⟩ | ⟨p, refused, -⟩⟩ := call
  · rw [accepted] at took
    cases took
    exact ran
  · rw [refused] at took
    cases took

def ayxRecord : Value := Value.object [("rule_key", .str "java:S100"), ("resolved", .bool false)]

/-- The cache of `conn`/`acme-backend` holding the unresolved issue `AYx` in both sections. -/
def ayxHost : Host :=
  { files := ({} : Files).put (bindingPath "conn" "acme-backend")
      (.document (Value.object [("issues", .dict [(.str "AYx", ayxRecord)]), ("taint", .dict [(.str "AYx", ayxRecord)])])) }

end IssueSync
