import IssueSync.Proofs.Operations

/-!
# A server with nothing scripted

A server whose script says nothing answers every request with the default of its endpoint: a
success with an empty document for the issue endpoints and the push of resolved findings, an
empty result for the search. Which endpoint a request reaches is read from the path after the
URL's origin, and the origin is found by splitting the URL at `://`. The library's split is
defined by well-founded recursion, which evaluation cannot open; `splitOnWithin` takes the same
steps with a bound on their number, so that the split of a concrete URL is computed and then
carried over.
-/

set_option autoImplicit false

namespace IssueSync.Remote

/-- The steps of the library's split of `s` at `sep`, at most `fuel` of them; nothing when the
steps run out. -/
def splitOnWithin (s sep : String) : Nat → String.Pos.Raw → String.Pos.Raw → String.Pos.Raw →
    List String → Option (List String)
  | 0, _, _, _, _ => none
  | fuel + 1, b, i, j, r =>
    if i.atEnd s then some ((b.extract s i) :: r).reverse
    else if i.get s == j.get sep then
      if (j.next sep).atEnd sep then
        splitOnWithin s sep fuel (i.next s) (i.next s) 0
          (b.extract s ((i.next s).unoffsetBy (j.next sep)) :: r)
      else splitOnWithin s sep fuel b (i.next s) (j.next sep) r
    else splitOnWithin s sep fuel b ((i.unoffsetBy j).next s) 0 r

theorem splitOnAux_of_within (s sep : String) (fuel : Nat) (b i j : String.Pos.Raw) (r : List String)
    {parts : List String} (finished : splitOnWithin s sep fuel b i j r = some parts) :
    String.splitOnAux s sep b i j r = parts := by
  -- one step of the bounded split is one unfolding of the library's
  induction fuel generalizing b i j r with
  | zero => cases finished
  | succ fuel ih =>
    rw [String.splitOnAux.eq_1]
    simp only [splitOnWithin] at finished
    by_cases atEnd : i.atEnd s
    · simpa only [atEnd, if_true, Option.some.injEq] using finished
    · simp only [atEnd, Bool.false_eq_true, if_false] at finished ⊢
      by_cases matched : (i.get s == j.get sep) = true
      · simp only [matched, if_true] at finished ⊢
        by_cases last : (j.next sep).atEnd sep
        · simp only [last, if_true] at finished ⊢
          exact ih _ _ _ _ finished
        · simp only [last, Bool.false_eq_true, if_false] at finished ⊢
          exact ih _ _ _ _ finished
      · simp only [matched, Bool.false_eq_true, if_false] at finished ⊢
        exact ih _ _ _ _ finished

theorem splitOn_of_within {s sep : String} (nonempty : sep ≠ "") (fuel : Nat) {parts : List String}
    (finished : splitOnWithin s sep fuel 0 0 0 [] = some parts) : s.splitOn sep = parts := by
  rw [String.splitOn, if_neg (by simpa using nonempty)]
  exact splitOnAux_of_within s sep fuel 0 0 0 [] finished

theorem respond_unscripted (owner : String) (req : Request) {e : Endpoint}
    (known : Endpoint.ofPath? (splitOrigin req.url).2 = some e) :
    ({} : Script).respond owner req = (e.fallback, {}) := by
  simp [Script.respond, known, Script.take?, Script.behaviour?]

/-- Every endpoint but the server's status answers a success that leads nowhere else. -/
theorem fallback_accepted {e : Endpoint} (served : e ≠ .status) :
    ∃ r, e.fallback = .reply r ∧ r.isSuccess = true ∧ r.redirectsTo? = none := by
  cases e with
  | status => exact absurd rfl served
  | _ => exact ⟨_, rfl, rfl, rfl⟩

theorem call_accepted (c : Connection) (method path : String) (params : List (String × String))
    (payload : Payload) {h : Host} (unscripted : h.script = {}) {e : Endpoint}
    (known : Endpoint.ofPath? (splitOrigin (c.url ++ path)).2 = some e) (served : e ≠ .status) :
    ∃ r, (call c method path params payload).run h = .ok r
      { h with sent := h.sent ++ [⟨ownerOf h.fleet (c.url ++ path), callRequest c method path params payload⟩] } := by
  obtain ⟨r, answer, success, final⟩ := fallback_accepted served
  have sending : (send (callRequest c method path params payload)).run h = .ok (.reply r)
      { h with sent := h.sent ++ [⟨ownerOf h.fleet (c.url ++ path), callRequest c method path params payload⟩] } := by
    show (sendWithin (20 + 1) (callRequest c method path params payload)).run h = _
    rw [sendWithin, EStateM.run_bind, exchange_run, unscripted,
      respond_unscripted _ (callRequest c method path params payload) known]
    simp only [answer, final]
    rfl
  refine ⟨r, ?_⟩
  unfold call
  simp only [EStateM.run_bind]
  split
  · rename_i got after answered
    -- the request `call` builds is `callRequest` written out
    have settled := answered.symm.trans sending
    simp only [EStateM.Result.ok.injEq] at settled
    obtain ⟨rfl, rfl⟩ := settled
    simp [success]
  · rename_i f after failed
    cases failed.symm.trans sending

theorem anticipatedTransitions_accepted (c : Connection) (project : Value) {rs : List LocalFinding}
    {entries : List Value} (encoded : rs.mapM LocalFinding.anticipatedTransition = .ok entries) {h : Host}
    (unscripted : h.script = {})
    (known : Endpoint.ofPath? (splitOrigin (c.url ++ Endpoint.anticipated.path)).2 = some .anticipated) :
    (anticipatedTransitions c project rs).run h = .ok ()
      { h with sent := h.sent ++ [⟨ownerOf h.fleet (c.url ++ Endpoint.anticipated.path),
        pushRequest c project entries⟩] } := by
  obtain ⟨r, accepted⟩ := call_accepted c "POST" Endpoint.anticipated.path (paramPairs "projectKey" project)
    (.json (.list entries)) unscripted known (by decide)
  simp only [anticipatedTransitions, EStateM.run_bind, encoded, Run.lift_ok_run, Run.discard_run, accepted]
  rfl

theorem doTransition_accepted (c : Connection) (key code : String) {h : Host} (unscripted : h.script = {})
    (known : Endpoint.ofPath? (splitOrigin (c.url ++ Endpoint.doTransition.path)).2 = some .doTransition) :
    (doTransition c key code).run h = .ok ()
      { h with sent := h.sent ++ [⟨ownerOf h.fleet (c.url ++ Endpoint.doTransition.path),
        transitionRequest c key code⟩] } := by
  obtain ⟨r, accepted⟩ := call_accepted c "POST" Endpoint.doTransition.path []
    (.form [("issue", key), ("transition", code)]) unscripted known (by decide)
  simp only [doTransition, Run.discard_run, accepted]
  rfl

end IssueSync.Remote

namespace IssueSync.Service

open IssueSync.Remote IssueSync.Store

variable {s : Service} {scope : String} {conn : Connection} {h : Host} {st : LocalStore}

theorem PushThen.run_of_accepted {α : Type} {m rest : Run α} {b : Binding} {rs : List LocalFinding}
    {stage : FailedStage} (push : PushThen m h conn b rs stage rest) {h1 : Host}
    (took : (anticipatedTransitions conn b.projectKey rs).run h = .ok () h1) : m.run h = rest.run h1 := by
  obtain ⟨es, -, script, new, -, ⟨accepted, ran⟩ | ⟨p, refused, -⟩⟩ := push
  · rw [accepted] at took
    cases took
    exact ran
  · rw [refused] at took
    cases took

/-- Recording a status change touches the telemetry and the log, and nothing else. -/
theorem statusChanged_telemetry (s : Service) (rule : Value) (h : Host) :
    ∃ events statusChanges logs,
      (s.statusChanged rule).run h = .ok () { h with events, statusChanges, logs } := by
  have appended : ∀ H : Host, ∃ events logs, (tryCatch (Run.appendEvent (Value.object
      [("type", .str "issue_status_changed"), ("rule_key", rule)])) fun f => Run.log
        s!"telemetry: could not record status change for {rule.display}: {f.message}").run H =
          .ok () { H with events, logs } := by
    intro H
    -- a blocked event log turns the event into a log line
    obtain ⟨files, spare, script, fleet, sent, logs, events, eventsBlocked, logsBlocked, statusChanges⟩ := H
    cases eventsBlocked
    · exact ⟨_, logs, rfl⟩
    · exact ⟨events, _, rfl⟩
  unfold statusChanged
  split
  · exact ⟨h.events, h.statusChanges, h.logs, rfl⟩
  · dsimp only
    split
    · simp only [EStateM.run_bind, Run.countChange, EStateM.run_modify]
      obtain ⟨events, logs, ran⟩ := appended _
      exact ⟨events, _, logs, ran⟩
    · obtain ⟨events, logs, ran⟩ := appended h
      exact ⟨events, h.statusChanges, logs, ran⟩

/-- On a server with nothing scripted, resolving a stored local finding completes: the server
takes the scope's resolved set with the finding resolved, the store keeps the finding, resolved,
under the scope, and besides the telemetry and the log nothing else changes. -/
theorem changeStatus_local_accepted {c p : String} (served : s.Serves scope ⟨.str c, .str p⟩ conn)
    (holds : LocalOnly.Holds h.files st) (unscripted : h.script = {})
    (known : Endpoint.ofPath? (splitOrigin (conn.url ++ Endpoint.anticipated.path)).2 = some .anticipated)
    {key : String} {status : ResolutionStatus} {taint : Bool}
    (uncached : (ServerFindings.contains (bindingPath c p) key taint).run h = .ok false h)
    {id : Uuid} (parsed : asLocalId key = some id) {g : LocalFinding}
    (stored : st.findings.find? (·.id == id) = some g) :
    ∃ entries fs events statusChanges logs st',
      (resolvedSet (st.findings.filter (·.inScope scope)) (some (g.resolve status)) []).mapM
        LocalFinding.anticipatedTransition = .ok entries ∧
      (s.changeStatus scope key status taint).run h = .ok () { h with
        sent := h.sent ++ [⟨ownerOf h.fleet (conn.url ++ Endpoint.anticipated.path), pushRequest conn (.str p) entries⟩],
        files := fs, events, statusChanges, logs } ∧
      LocalOnly.Holds fs st' ∧ st'.findings = LocalStore.upsert st.findings { g.resolve status with scopeId := .str scope } := by
  obtain ⟨entries, encoded⟩ := mapM_anticipated _ (resolvedSet_isResolved _ (some (g.resolve status)) [])
  have took := anticipatedTransitions_accepted conn (.str p) encoded unscripted known
  have faithful := (st.faithful g (List.mem_of_find?_eq_some stored)).resolve status
  have ran := (changeStatus_local key status taint served holds uncached parsed stored).run_of_accepted took
  -- the finding is stored, then its status change recorded
  have holdsPushed : LocalOnly.Holds ({ h with sent := h.sent ++ [⟨ownerOf h.fleet (conn.url ++
      Endpoint.anticipated.path), pushRequest conn (.str p) entries⟩] } : Host).files st := holds
  obtain ⟨fs, storedRun, holdsAfter⟩ := LocalOnly.store_run holdsPushed scope (g.resolve status) faithful
  obtain ⟨events, statusChanges, logs, recorded⟩ := statusChanged_telemetry s (g.resolve status).ruleKey
    { h with sent := h.sent ++ [⟨ownerOf h.fleet (conn.url ++ Endpoint.anticipated.path),
      pushRequest conn (.str p) entries⟩], files := fs }
  refine ⟨entries, fs, events, statusChanges, logs, _, encoded, ?_, holdsAfter, rfl⟩
  rw [ran, EStateM.run_bind, storedRun]
  exact recorded

/-- On a server with nothing scripted, resending a served scope completes: the server takes the
scope's resolved set, and besides the log nothing else changes. -/
theorem resync_accepted {b : Binding} (served : s.Serves scope b conn) (holds : LocalOnly.Holds h.files st)
    (unscripted : h.script = {})
    (known : Endpoint.ofPath? (splitOrigin (conn.url ++ Endpoint.anticipated.path)).2 = some .anticipated) :
    ∃ entries logs, (resolvedSet (st.findings.filter (·.inScope scope)) none []).mapM
        LocalFinding.anticipatedTransition = .ok entries ∧
      (s.resync scope).run h = .ok true { h with
        sent := h.sent ++ [⟨ownerOf h.fleet (conn.url ++ Endpoint.anticipated.path), pushRequest conn b.projectKey entries⟩],
        logs } := by
  obtain ⟨entries, encoded⟩ := mapM_anticipated _ (resolvedSet_isResolved _ none [])
  have took := anticipatedTransitions_accepted conn b.projectKey encoded unscripted known
  have ran := (resync_served served holds).run_of_accepted took
  -- what follows the push writes one log line
  exact ⟨entries, _, encoded, ran.trans rfl⟩

end IssueSync.Service

namespace IssueSync

/-- A finding without resolution whose id reads back from its text reads back from its record. -/
theorem LocalFinding.faithful_unresolved {f : LocalFinding} (unresolved : f.resolution = none)
    (readable : (Uuid.ofValue (.str f.id.text)).toOption = some f.id) : f.Faithful := by
  refine (LocalFinding.faithful_iff f).mpr ⟨by rw [unresolved]; rfl, ?_⟩
  cases read : Uuid.ofValue (.str f.id.text) with
  | error e => simp [read, Except.toOption] at readable
  | ok u =>
    simp only [read, Except.toOption, Option.some.injEq] at readable
    rw [readable]

/-- The store holding one finding. -/
def LocalStore.single (f : LocalFinding) (faithful : f.Faithful) : LocalStore where
  findings := [f]
  faithful := fun g member => by
    rw [List.mem_singleton.mp member]
    exact faithful
  distinct := List.pairwise_singleton _ _

@[simp] theorem LocalStore.single_findings (f : LocalFinding) (faithful : f.Faithful) :
    (LocalStore.single f faithful).findings = [f] := rfl

/-- A host whose storage holds the store `st` and nothing else, and whose server has nothing
scripted. -/
def LocalOnly.hostOf (st : LocalStore) : Host :=
  { files := ({} : Store.Files).put Store.localOnlyPath (.document (LocalOnly.document (st.findings.map LocalFinding.entry))) }

theorem LocalOnly.hostOf_holds (st : LocalStore) : LocalOnly.Holds (LocalOnly.hostOf st).files st :=
  LocalOnly.holds_written (Store.Files.writable_of_around_nil (show ({} : Store.Files).around _ = [] from rfl)) st

/-- Such a host holds no binding's cache. -/
theorem LocalOnly.hostOf_binding_absent (st : LocalStore) (c p : String) :
    (LocalOnly.hostOf st).files.readJson (Store.bindingPath c p) = .ok none :=
  Store.Files.readJson_of_around_nil
    ((Store.Files.around_put_of_apart (Store.bindingPath_apart_local c p).symm _ _).trans rfl)

end IssueSync

namespace IssueSync.Remote

/-- A self-hosted server at `http://sq.example`, under the connection id `conn`. -/
def sqConnection : Connection :=
  { id := "conn", url := "http://sq.example", kind := .selfHosted, token := none, organization := .null }

theorem sqConnection_routes (e : Endpoint) :
    Endpoint.ofPath? (splitOrigin (sqConnection.url ++ e.path)).2 = some e := by
  have split : (sqConnection.url ++ e.path).splitOn "://" = ["http", "sq.example" ++ e.path] := by
    cases e <;> exact splitOn_of_within (by decide) 100 (by decide +kernel)
  rw [splitOrigin, split]
  cases e <;> decide +kernel

end IssueSync.Remote
