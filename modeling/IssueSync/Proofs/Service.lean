import IssueSync.Proofs.Frame
import IssueSync.Proofs.StorePaths
import IssueSync.Service.Operations

/-!
# The steps every operation of the service shares

A scope is served when its effective binding names a connection that is still configured; it is
unserved when it has no binding or the connection is gone. A configuration whose scopes name
connections, projects and parents by text (as its types declare) leaves no third case. Recording
a status change and updating the cache of server findings send nothing and leave the local store
alone. An operation that talks to the server through `failedWith` either goes on from where the
call left the host, or fails with the server's problem as the cause, in that host.
-/

set_option autoImplicit false

namespace IssueSync

open IssueSync.Store IssueSync.Remote

/-- A value that is text or nothing, as a field declared `str | None` holds. -/
def Value.OptionalText (v : Value) : Prop := v = .null ∨ ∃ t, v = .str t

/-- A scope whose connection, project key and parent are each text or nothing. -/
def Scope.Typed (sc : Scope) : Prop :=
  sc.connection.OptionalText ∧ sc.projectKey.OptionalText ∧ sc.parent.OptionalText

namespace Scopes

variable {scopes : Scopes}

theorem find?_typed (typed : ∀ e ∈ scopes, e.2.Typed) {id : Value} {sc : Scope}
    (found : scopes.find? id = some sc) : sc.Typed := by
  cases id with
  | str t =>
    obtain ⟨entry, member, rfl⟩ := Option.map_eq_some_iff.mp found
    exact typed entry (List.mem_of_find?_eq_some member)
  | _ => cases found

theorem binding?_typed (typed : ∀ e ∈ scopes, e.2.Typed) {id : Value} {b : Binding}
    (found : scopes.binding? id = some b) : ∃ c p, b = ⟨.str c, .str p⟩ := by
  obtain ⟨sc, located, named⟩ := Option.bind_eq_some_iff.mp found
  obtain ⟨connection, project, -⟩ := find?_typed typed located
  unfold Scope.binding? at named
  split at named
  · rename_i truthy
    cases named
    simp only [Bool.and_eq_true] at truthy
    rcases connection with absent | ⟨c, text⟩
    · simp [absent, Value.truthy] at truthy
    · rcases project with absent | ⟨p, key⟩
      · simp [absent, Value.truthy] at truthy
      · exact ⟨c, p, by rw [text, key]⟩
  · cases named

theorem chase_typed (typed : ∀ e ∈ scopes, e.2.Typed) (fuel : Nat) (seen : List Value)
    (current : Value) (text : current.OptionalText) :
    scopes.chase fuel seen current = .ok none ∨
      ∃ c p, scopes.chase fuel seen current = .ok (some ⟨.str c, .str p⟩) := by
  induction fuel generalizing seen current with
  | zero => exact .inl rfl
  | succ fuel ih =>
    rcases text with rfl | ⟨t, rfl⟩
    · exact .inl rfl
    · by_cases passed : seen.any (·.equal (.str t)) = true
      · left
        simp [chase, Value.hashable, passed]
      · cases bound : scopes.binding? (.str t) with
        | some b =>
          obtain ⟨c, p, rfl⟩ := binding?_typed typed bound
          exact .inr ⟨c, p, by simp [chase, Value.hashable, passed, bound]⟩
        | none =>
          cases found : scopes.find? (.str t) with
          | none => exact .inl (by simp [chase, Value.hashable, passed, bound, found])
          | some sc =>
            have parent := (find?_typed typed found).2.2
            simpa [chase, Value.hashable, passed, bound, found] using ih (.str t :: seen) sc.parent parent

end Scopes

namespace Service

/-- The scope's effective binding is `b`, and the connection it names is live as `conn`. -/
def Serves (s : Service) (scope : String) (b : Binding) (conn : Connection) : Prop :=
  s.scopes.effectiveBinding (.str scope) = .ok (some b) ∧
    ∃ c, b.connectionId = .str c ∧ s.connections.lookup c = some conn

/-- The scope has no effective binding, or the connection its binding names is gone. -/
def Unserved (s : Service) (scope : String) : Prop :=
  s.scopes.effectiveBinding (.str scope) = .ok none ∨
    ∃ b c, s.scopes.effectiveBinding (.str scope) = .ok (some b) ∧ b.connectionId = .str c ∧
      s.connections.lookup c = none

/-- With a configuration as its types declare, every scope is served by a binding of text, or
unserved: finding the binding never fails. -/
theorem served_or_unserved (s : Service) (typed : ∀ e ∈ s.scopes, e.2.Typed) (scope : String) :
    (∃ c p conn, s.Serves scope ⟨.str c, .str p⟩ conn) ∨ s.Unserved scope := by
  rcases Scopes.chase_typed typed (s.scopes.length + 1) [] (.str scope) (.inr ⟨scope, rfl⟩) with
    none | ⟨c, p, bound⟩
  · exact .inr (.inl none)
  · cases live : s.connections.lookup c with
    | none => exact .inr (.inr ⟨_, c, bound, rfl, live⟩)
    | some conn => exact .inl ⟨c, p, conn, bound, c, rfl, live⟩

variable {s : Service} {scope : String} {b : Binding} {conn : Connection}

theorem bound?_served (serves : s.Serves scope b conn) (h : Host) :
    (s.bound? scope).run h = .ok (some (b, conn)) h := by
  obtain ⟨bound, c, named, live⟩ := serves
  simp only [bound?, binding?, connection?, EStateM.run_bind, Run.lift_run, bound, named, live]
  rfl

theorem bound?_unserved (unserved : s.Unserved scope) (h : Host) :
    ∃ lines, (s.bound? scope).run h = .ok none { h with logs := h.logs ++ lines } := by
  rcases unserved with none | ⟨b, c, bound, named, gone⟩
  · refine ⟨[], ?_⟩
    simp only [bound?, binding?, EStateM.run_bind, Run.lift_run, none, List.append_nil]
    rfl
  · refine ⟨[s!"Connection '{c}' is gone"], ?_⟩
    simp only [bound?, binding?, connection?, EStateM.run_bind, Run.lift_run, bound, named, gone]
    rfl

theorem bindingFile_text (c p : String) (h : Host) :
    (bindingFile ⟨.str c, .str p⟩).run h = .ok (bindingPath c p) h := rfl

theorem statusChanged_quiet (s : Service) (rule : Value) : Within .quiet (s.statusChanged rule) := by
  unfold statusChanged
  split
  · exact Within.of_pure _
  · -- the event is appended after the change is counted, or at once when changes are not counted
    have appended := Within.tryCatch (Within.appendEvent (Value.object
      [("type", .str "issue_status_changed"), ("rule_key", rule)])) fun f => Within.log
        s!"telemetry: could not record status change for {rule.display}: {f.message}"
    dsimp only
    split
    · exact Within.bind (Within.countChange rule) fun _ => appended
    · exact appended

/-- Recording a status change never fails: a failure to append the event is logged instead. -/
theorem statusChanged_returns (s : Service) (rule : Value) (h : Host) :
    ∃ h', (s.statusChanged rule).run h = .ok () h' := by
  have appended : ∀ h : Host, ∃ h', (tryCatch (Run.appendEvent (Value.object
      [("type", .str "issue_status_changed"), ("rule_key", rule)])) fun f => Run.log
        s!"telemetry: could not record status change for {rule.display}: {f.message}").run h = .ok () h' := by
    intro h
    rw [Run.tryCatch_run]
    unfold Run.appendEvent
    simp only [EStateM.run_bind, EStateM.run_get]
    split <;> exact ⟨_, rfl⟩
  unfold statusChanged
  split
  · exact ⟨h, rfl⟩
  · dsimp only
    split
    · simpa only [EStateM.run_bind, Run.countChange, EStateM.run_modify] using appended _
    · exact appended h

theorem contains_same (path key : String) (taint : Bool) :
    Within .same (ServerFindings.contains path key taint) := by
  unfold ServerFindings.contains ServerFindings.get ServerFindings.document
  refine Within.bind (Within.bind (Within.bind (Within.readJson _) fun _ => Within.of_pure _) fun es => ?_)
    fun _ => Within.of_pure _
  -- the record under the key, and if there is one, its rule and whether it is resolved
  refine Within.bind (Within.lift _) fun record => ?_
  split
  · exact Within.of_pure _
  · exact Within.bind (Within.lift _) fun _ => Within.map _ (Within.lift _)

theorem contains_absent {h : Host} {path : String} (absent : h.files.readJson path = .ok none) (key : String)
    (taint : Bool) : (ServerFindings.contains path key taint).run h = .ok false h := by
  cases taint <;>
  simp [ServerFindings.contains, ServerFindings.get, ServerFindings.document, EStateM.run_bind, Run.readJson_run,
    absent, Run.lift_run, Value.getMember, Value.fieldD, Value.field?, Value.lookup?, Value.equal,
    ServerFindings.sectionName, Value.hashable]

theorem updateResolution_quiet {path : String} (apart : Apart path localOnlyPath) (key : String)
    (taint resolved : Bool) : Within .quiet (ServerFindings.updateResolution path key taint resolved) := by
  unfold ServerFindings.updateResolution ServerFindings.document
  refine Within.bind (Within.bind (Within.readJson _) fun _ => Within.of_pure _) fun es => ?_
  refine Within.bind (Within.lift _) fun record => ?_
  split
  · exact Within.of_pure _
  · refine Within.bind (Within.lift _) fun _ => Within.bind (Within.lift _) fun _ => ?_
    exact Within.bind (Within.writeJson apart _) fun _ =>
      Within.bind (Within.lift _) fun _ => Within.of_pure _

/-- The message of an operation whose push of a resolved set the server refused. -/
def pushMessage (b : Binding) : String :=
  s!"Could not send anticipated transitions for project {b.projectKey.display}"

theorem pushResolvedSet_eq (conn : Connection) (b : Binding) (scope : String)
    (incl : Option LocalFinding) (exclude : List Uuid) (stage : FailedStage) :
    pushResolvedSet conn b scope incl exclude stage = (do
      let resolved := resolvedSet (← LocalOnly.loadAll scope) incl exclude
      failedWith stage (pushMessage b) (anticipatedTransitions conn b.projectKey resolved)
      return resolved) := rfl

/-- `m` calls the server through `remote`, which sends `req` and its redirections. When the
server answers, `m` goes on as `rest` from the host the call left; when it refuses with a
problem, `m` fails for `stage` with `message` and that problem as the cause, in that host. -/
def CallThen {α : Type} (m : Run α) (h : Host) (remote : Run Unit) (req : Request)
    (stage : FailedStage) (message : String) (rest : Run α) : Prop :=
  ∃ script new, Hops req (new.map Sent.request) ∧
    ((remote.run h = .ok () { h with script, sent := h.sent ++ new } ∧
        m.run h = rest.run { h with script, sent := h.sent ++ new }) ∨
      ∃ p, remote.run h = .error (.problem p) { h with script, sent := h.sent ++ new } ∧
        m.run h = .error (.problem (.failed stage message (some p))) { h with script, sent := h.sent ++ new })

/-- `m` sends the resolved set `rs` to the project of `b` on `conn` and goes on as `rest` once
the server took it; a refusal fails `m` for `stage`. -/
def PushThen {α : Type} (m : Run α) (h : Host) (conn : Connection) (b : Binding)
    (rs : List LocalFinding) (stage : FailedStage) (rest : Run α) : Prop :=
  ∃ entries, rs.mapM LocalFinding.anticipatedTransition = .ok entries ∧
    CallThen m h (anticipatedTransitions conn b.projectKey rs) (pushRequest conn b.projectKey entries)
      stage (pushMessage b) rest

section Calls

variable {α : Type} {m m' rest : Run α} {h : Host} {remote : Run Unit} {req : Request}
  {stage : FailedStage} {message : String}

theorem CallThen.congr (same : m.run h = m'.run h) (call : CallThen m' h remote req stage message rest) :
    CallThen m h remote req stage message rest := by
  simpa only [CallThen, same] using call

theorem PushThen.congr {rs : List LocalFinding} (same : m.run h = m'.run h)
    (push : PushThen m' h conn b rs stage rest) : PushThen m h conn b rs stage rest := by
  obtain ⟨entries, encoded, call⟩ := push
  exact ⟨entries, encoded, call.congr same⟩

theorem failedWith_callThen (answered : Answered remote h req) (stage : FailedStage) (message : String)
    (rest : Unit → Run α) :
    CallThen (failedWith stage message remote >>= rest) h remote req stage message (rest ()) := by
  obtain ⟨script, new, hops, ⟨a, took⟩ | ⟨p, refused⟩⟩ := answered
  · refine ⟨script, new, hops, .inl ⟨took, ?_⟩⟩
    simp only [failedWith, EStateM.run_bind, Run.tryCatch_run, took]
  · refine ⟨script, new, hops, .inr ⟨p, refused, ?_⟩⟩
    simp only [failedWith, EStateM.run_bind, Run.tryCatch_run, refused, Run.fail_run]

end Calls

theorem mapM_anticipated (rs : List LocalFinding) (resolved : ∀ r ∈ rs, r.isResolved = true) :
    ∃ entries, rs.mapM LocalFinding.anticipatedTransition = .ok entries := by
  induction rs with
  | nil => exact ⟨[], rfl⟩
  | cons r rest ih =>
    obtain ⟨entries, encoded⟩ := ih fun g member => resolved g (List.mem_cons_of_mem r member)
    have first := resolved r (List.mem_cons_self ..)
    unfold LocalFinding.isResolved at first
    obtain ⟨res, named⟩ := Option.isSome_iff_exists.mp first
    have head : ∃ v, r.anticipatedTransition = .ok v := by
      simp [LocalFinding.anticipatedTransition, named]
    obtain ⟨v, encodedHead⟩ := head
    exact ⟨v :: entries, by
      simp [List.mapM_cons, encodedHead, encoded, bind, Except.bind, pure, Except.pure]⟩

/-- Pushing the resolved set of a scope: the stored findings of the scope with `incl` and without
`exclude`, resolved ones only. -/
theorem pushResolvedSet_then {st : LocalStore} {h : Host} (holds : LocalOnly.Holds h.files st)
    {α : Type} (incl : Option LocalFinding) (exclude : List Uuid) (stage : FailedStage)
    (rest : List LocalFinding → Run α) :
    let resolved := resolvedSet (st.findings.filter (·.inScope scope)) incl exclude
    PushThen (pushResolvedSet conn b scope incl exclude stage >>= rest) h conn b resolved stage
      (rest resolved) := by
  intro resolved
  obtain ⟨entries, encoded⟩ := mapM_anticipated resolved (resolvedSet_isResolved _ _ _)
  have answered := anticipatedTransitions_answered conn b.projectKey resolved entries encoded h
  refine ⟨entries, encoded, (failedWith_callThen answered stage (pushMessage b) fun _ => rest resolved).congr ?_⟩
  simp only [pushResolvedSet_eq, EStateM.run_bind, LocalOnly.loadAll_run holds, EStateM.run_pure]
  cases (failedWith stage (pushMessage b) (anticipatedTransitions conn b.projectKey resolved)).run h <;> rfl

theorem pushResolvedSet_discard_then {st : LocalStore} {h : Host} (holds : LocalOnly.Holds h.files st)
    {α : Type} (incl : Option LocalFinding) (exclude : List Uuid) (stage : FailedStage) (rest : Run α) :
    PushThen (discard (pushResolvedSet conn b scope incl exclude stage) >>= fun _ => rest) h conn b
      (resolvedSet (st.findings.filter (·.inScope scope)) incl exclude) stage rest :=
  (pushResolvedSet_then holds incl exclude stage fun _ => rest).congr (Run.discard_bind_run ..)

end Service

end IssueSync
