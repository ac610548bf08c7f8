import IssueSync.Proofs.Serializable
import IssueSync.Proofs.AwaitPoints
import IssueSync.Proofs.CacheView

/-!
# Operations on one scope serialize

The lock of a scope owns the local store's file and the pushes of resolved sets the server
receives (`guarded`). Besides those, the operations on a scope read only whether the caches of
server findings hold an issue and where the connections lead (`cacheView`), and none changes
that: the one write to a cache sets the flag of an issue the operation found there. So each
operation keeps to the scope's lock (`ScopeOp.co_keeps`), and however the event loop interleaves
operations on one scope, the local store and the pushes end as running the operations one after
the other leaves them.
-/

set_option autoImplicit false

namespace IssueSync

open IssueSync.Store IssueSync.Remote

/-- The requests with a JSON body: the pushes of resolved sets. -/
def pushesOf (sent : List Sent) : List Sent := sent.filter fun s => s.request.payload matches .json _

/-- What the lock of a scope owns: the local store's file and the pushes the server received. -/
def guarded (h : Host) : List (String × Entry) × List Sent := (h.files.around localOnlyPath, pushesOf h.sent)

/-- What the operations on a scope read and none changes: whether each binding's cache holds an
issue, and where each connection's URL leads. -/
def cacheView (h : Host) : (String → String → String → Bool → Except Failure Bool) × List (String × String) :=
  (fun c p key taint => resultOutcome ((ServerFindings.contains (bindingPath c p) key taint).run h), h.fleet)

/-- The files, the connections and the pushes are left as they were. -/
def Frame.apart : Frame where
  rel h h' := h'.files = h.files ∧ h'.fleet = h.fleet ∧ pushesOf h'.sent = pushesOf h.sent
  refl _ := ⟨rfl, rfl, rfl⟩
  trans first second := ⟨second.1.trans first.1, second.2.1.trans first.2.1, second.2.2.trans first.2.2⟩

theorem pushesOf_append (sent more : List Sent) : pushesOf (sent ++ more) = pushesOf sent ++ pushesOf more :=
  List.filter_append sent more

theorem cacheView_of_files {h h' : Host} (files : h'.files = h.files) (fleet : h'.fleet = h.fleet) :
    cacheView h' = cacheView h := by
  unfold cacheView
  rw [fleet]
  congr 1
  funext c p key taint
  exact ServerFindings.contains_of_read (by rw [files])

/-- Writing the local store's file leaves every cache as it was. -/
theorem cacheView_put_local (h : Host) (e : Entry) :
    cacheView { h with files := h.files.put localOnlyPath e } = cacheView h := by
  unfold cacheView
  congr 1
  funext c p key taint
  exact ServerFindings.contains_of_read
    (Files.readJson_of_around (Files.around_put_of_apart (Store.bindingPath_apart_local c p).symm h.files e))

@[simp] theorem cacheView_logs (h : Host) (logs : List String) : cacheView { h with logs } = cacheView h :=
  cacheView_of_files rfl rfl

@[simp] theorem cacheView_script (h : Host) (script : Script) : cacheView { h with script } = cacheView h :=
  cacheView_of_files rfl rfl

@[simp] theorem cacheView_sent (h : Host) (script : Script) (sent : List Sent) :
    cacheView { h with script, sent } = cacheView h :=
  cacheView_of_files rfl rfl

theorem guarded_unscripted : Unscripted guarded cacheView where
  owned _ _ := rfl
  shared h sc := cacheView_script h sc

section Relations

variable {v0 : (String → String → String → Bool → Except Failure Bool) × List (String × String)}

theorem Keeps.of_apart {α : Type} {m : Run α} (apart : Within .apart m) : Keeps guarded cacheView v0 m := by
  intro h view
  obtain ⟨files, fleet, pushes⟩ := apart h
  refine ⟨?_, (cacheView_of_files files fleet).trans view⟩
  simp only [guarded, files, pushes]

theorem sameView_logged : Respects.Logged (SameView cacheView v0) := by
  intro h1 h2 line ⟨view1, view2, script⟩
  exact ⟨(cacheView_logs h1 _).trans view1, (cacheView_logs h2 _).trans view2, script⟩

theorem sameState_logged : Respects.Logged (SameState guarded cacheView v0) := by
  intro h1 h2 line ⟨owned, view1, view2, script⟩
  exact ⟨owned, (cacheView_logs h1 _).trans view1, (cacheView_logs h2 _).trans view2, script⟩

theorem sameState_network : Respects.OnNetwork (SameState guarded cacheView v0) where
  sameServer h1 h2 related := ⟨related.2.2.2, congrArg Prod.snd (related.2.1.trans related.2.2.1.symm)⟩
  recorded h1 h2 script sent related := by
    obtain ⟨owned, view1, view2, -⟩ := related
    have stored : h1.files.around localOnlyPath = h2.files.around localOnlyPath := congrArg Prod.fst owned
    have pushes : pushesOf h1.sent = pushesOf h2.sent := congrArg Prod.snd owned
    refine ⟨?_, (cacheView_sent h1 _ _).trans view1, (cacheView_sent h2 _ _).trans view2, rfl⟩
    simp only [guarded, pushesOf_append, pushes, stored]

theorem sameState_store : Respects.OnStore (SameState guarded cacheView v0) where
  sameAround h1 h2 related := congrArg Prod.fst related.1
  written h1 h2 v related := by
    obtain ⟨owned, view1, view2, script⟩ := related
    have pushes : pushesOf h1.sent = pushesOf h2.sent := congrArg Prod.snd owned
    refine ⟨?_, (cacheView_put_local h1 _).trans view1, (cacheView_put_local h2 _).trans view2, script⟩
    simp only [guarded, Files.around_put_congr (congrArg Prod.fst owned), pushes]

end Relations

/-! ## What each step of an operation touches -/

section Apart

theorem apart_log (line : String) : Within .apart (Run.log line) := fun _ => ⟨rfl, rfl, rfl⟩

theorem apart_countChange (rule : Value) : Within .apart (Run.countChange rule) := fun _ => ⟨rfl, rfl, rfl⟩

theorem apart_appendEvent (event : Value) : Within .apart (Run.appendEvent event) := by
  intro h
  unfold Run.appendEvent
  simp only [EStateM.run_bind, EStateM.run_get]
  split <;> exact ⟨rfl, rfl, rfl⟩

theorem statusChanged_apart (s : Service) (rule : Value) : Within .apart (s.statusChanged rule) := by
  unfold Service.statusChanged
  split
  · exact Within.of_pure _
  · have appended := Within.tryCatch (apart_appendEvent (Value.object
      [("type", .str "issue_status_changed"), ("rule_key", rule)])) fun f => apart_log
        s!"telemetry: could not record status change for {rule.display}: {f.message}"
    dsimp only
    split
    · exact Within.bind (apart_countChange rule) fun _ => appended
    · exact appended

theorem connection?_apart (s : Service) (id : Value) : Within .apart (s.connection? id) := by
  unfold Service.connection?
  split
  · split
    · exact Within.of_pure _
    · exact Within.bind (apart_log _) fun _ => Within.of_pure _
  · exact Within.fail _
  · exact Within.fail _
  · exact Within.bind (apart_log _) fun _ => Within.of_pure _

theorem bound?_apart (s : Service) (scope : String) : Within .apart (s.bound? scope) := by
  unfold Service.bound? Service.binding?
  refine Within.bind (Within.lift _) fun b => ?_
  split
  · exact Within.of_pure _
  · refine Within.bind (connection?_apart s _) fun conn => ?_
    split
    · exact Within.of_pure _
    · exact Within.of_pure _

/-- The file of a binding is read off the binding alone: `bindingFile` fails or names the file of
a connection and project, and touches nothing. -/
theorem bindingFile_lift (b : Binding) : ∃ e : Except Failure String, Service.bindingFile b = Run.lift e ∧
    ∀ file, e = .ok file → ∃ c p, file = bindingPath c p := by
  -- each check fails or goes on, and the last step fails or returns the path
  have checked : ∀ (c : Bool) (f : Failure) (rest : Run String) (e : Except Failure String), rest = Run.lift e →
      (∀ file, e = .ok file → ∃ c p, file = bindingPath c p) →
      ∃ e', (if c = true then ((Run.fail f : Run PUnit) >>= fun _ => rest) else rest) = Run.lift e' ∧
        ∀ file, e' = .ok file → ∃ c p, file = bindingPath c p := by
    intro c f rest e lifted named
    cases c with
    | false => exact ⟨e, lifted, named⟩
    | true => exact ⟨.error f, rfl, fun file failed => by cases failed⟩
  unfold Service.bindingFile
  split
  · rename_i c p _ _
    obtain ⟨e, lifted, named⟩ := checked _ _ _ (.ok (bindingPath c p)) rfl fun file ok => ⟨c, p, (Except.ok.inj ok).symm⟩
    exact checked _ _ _ e lifted named
  · obtain ⟨e, lifted, named⟩ := checked _ _ _ (.error (.badType "quote_from_bytes() expected bytes")) rfl
      fun file failed => by cases failed
    exact checked _ _ _ e lifted named

/-- A request without a JSON body, and the redirections it follows, push nothing. -/
theorem call_apart (c : Connection) (method path : String) (params : List (String × String)) (payload : Payload)
    (unpushed : ∀ v, payload ≠ .json v) : Within .apart (call c method path params payload) := by
  intro h
  obtain ⟨script, new, hops, ran⟩ := call_run c method path params payload h
  have none : pushesOf new = [] := by
    apply List.filter_eq_nil_iff.mpr
    intro s member
    rcases hops_payload hops s.request (List.mem_map_of_mem member) with same | dropped
    · cases carried : s.request.payload with
      | json v => exact absurd (carried.symm.trans same).symm (unpushed v)
      | _ => simp
    · simp [dropped]
  rcases ran with ⟨r, ran⟩ | ⟨p, ran⟩
  all_goals
    rw [ran]
    refine ⟨rfl, rfl, ?_⟩
    show pushesOf (h.sent ++ new) = pushesOf h.sent
    rw [pushesOf_append, none, List.append_nil]

theorem contains_apart (path key : String) (taint : Bool) : Within .apart (ServerFindings.contains path key taint) :=
  fun h => by
    rw [Within.same_run (Service.contains_same path key taint) h]
    exact Frame.apart.refl h

end Apart

/-- What the cache answers, for each binding, key and section, and where the connections lead. -/
abbrev CacheAnswers := (String → String → String → Bool → Except Failure Bool) × List (String × String)

section Steps

variable {R : Host → Host → Prop} {v0 : CacheAnswers}

theorem connection?_respects (s : Service) (id : Value) (logged : Respects.Logged R) :
    Respects R (s.connection? id) := by
  unfold Service.connection?
  split
  · split
    · exact Respects.of_pure _
    · exact Respects.bind (Respects.log logged) fun _ => Respects.of_pure _
  · exact Respects.fail _
  · exact Respects.fail _
  · exact Respects.bind (Respects.log logged) fun _ => Respects.of_pure _

theorem bound?_respects (s : Service) (scope : String) (logged : Respects.Logged R) : Respects R (s.bound? scope) := by
  unfold Service.bound? Service.binding?
  refine Respects.bind (Respects.lift _) fun b => ?_
  split
  · exact Respects.of_pure _
  · refine Respects.bind (connection?_respects s _ logged) fun conn => ?_
    split
    · exact Respects.of_pure _
    · exact Respects.of_pure _

theorem bindingFile_respects (b : Binding) : Respects R (Service.bindingFile b) := by
  obtain ⟨e, lifted, -⟩ := bindingFile_lift b
  rw [lifted]
  exact Respects.lift e

theorem bindingFile_apart (b : Binding) : Within .apart (Service.bindingFile b) := by
  obtain ⟨e, lifted, -⟩ := bindingFile_lift b
  rw [lifted]
  exact Within.lift e

theorem bindingFile_named {b : Binding} {h : Host} {file : String}
    (answered : resultOutcome ((Service.bindingFile b).run h) = .ok file) : ∃ c p, file = bindingPath c p := by
  obtain ⟨e, lifted, named⟩ := bindingFile_lift b
  rw [lifted] at answered
  cases e with
  | ok name =>
    have same : (Except.ok name : Except Failure String) = .ok file := answered
    rw [← Except.ok.inj same]
    exact named name rfl
  | error f => cases answered

/-- Whether the cache holds an issue is read off the shared view. -/
theorem contains_sameView (c p key : String) (taint : Bool) :
    Respects (SameView cacheView v0) (ServerFindings.contains (bindingPath c p) key taint) := by
  intro h1 h2 ⟨view1, view2, script⟩
  refine ⟨congrArg (fun v : CacheAnswers => v.1 c p key taint) (view1.trans view2.symm), ?_⟩
  rw [Within.same_run (Service.contains_same _ key taint) h1, Within.same_run (Service.contains_same _ key taint) h2]
  exact ⟨view1, view2, script⟩

theorem contains_answer {c p key : String} {taint contained : Bool} {h : Host} (view : cacheView h = v0)
    (answered : resultOutcome ((ServerFindings.contains (bindingPath c p) key taint).run h) = .ok contained) :
    v0.1 c p key taint = .ok contained := by
  rw [← view]
  exact answered

/-- Setting the flag of an issue the cache holds keeps the shared view. -/
theorem updateResolution_keeps {c p key : String} {taint : Bool} (cached : v0.1 c p key taint = .ok true)
    (resolved : Bool) :
    Keeps guarded cacheView v0 (ServerFindings.updateResolution (bindingPath c p) key taint resolved) := by
  intro h view
  have hit : resultOutcome ((ServerFindings.contains (bindingPath c p) key taint).run h) = .ok true := by
    rw [← cached, ← view]
    rfl
  obtain ⟨doc, secEs, recEs, rule, read, sec, record, -⟩ := (ServerFindings.contains_true_iff _ _ _ h).mp hit
  obtain ⟨unsent, stored⟩ := Service.updateResolution_quiet (Store.bindingPath_apart_local c p) key taint resolved h
  refine ⟨?_, ?_⟩
  · simp only [guarded, unsent, stored]
  · rw [← view]
    unfold cacheView
    congr 1
    · funext c' p' key' taint'
      exact ServerFindings.contains_kept hit resolved _ key' taint'
    · rw [ServerFindings.updateResolution_cached resolved read sec record]
      split <;> rfl

theorem failedWith_respects {α : Type} {m : Run α} (stage : FailedStage) (message : String)
    (inner : Respects R m) : Respects R (Service.failedWith stage message m) := by
  unfold Service.failedWith
  refine Respects.tryCatch inner fun e => ?_
  split
  · exact Respects.fail _
  · exact Respects.fail _

theorem failedWith_apart {α : Type} {m : Run α} (stage : FailedStage) (message : String)
    (inner : Within .apart m) : Within .apart (Service.failedWith stage message m) := by
  unfold Service.failedWith
  refine Within.tryCatch inner fun e => ?_
  split
  · exact Within.fail _
  · exact Within.fail _

theorem doTransition_apart (conn : Connection) (key code : String) : Within .apart (doTransition conn key code) :=
  Within.discard (call_apart _ _ _ _ _ fun v sent => by cases sent)

theorem addComment_apart (conn : Connection) (key text : String) : Within .apart (Remote.addComment conn key text) :=
  Within.discard (call_apart _ _ _ _ _ fun v sent => by cases sent)

end Steps

/-! ## Every operation keeps to the scope's lock -/

section Operations

variable (s : Service) (scope : String) {v0 : CacheAnswers}

theorem pushResolvedSetCo_held (conn : Connection) (b : Binding) (incl : Option LocalFinding)
    (exclude : List Uuid) (stage : FailedStage) :
    Held guarded cacheView v0 (Service.pushResolvedSetCo conn b scope incl exclude stage) :=
  Held.bind (Held.lift (Respects.loadAll sameState_store scope)) fun _ =>
    Held.bind (Held.lift (failedWith_respects stage _
      (Respects.anticipatedTransitions sameState_network conn b.projectKey _))) fun _ => .done _

/-- Before the lock: the binding of the scope. -/
theorem Pre.bound?_bind {α : Type} {f : Option (Binding × Connection) → Co α}
    (rest : ∀ bound, Pre guarded cacheView v0 scope (f bound)) :
    Pre guarded cacheView v0 scope (Co.lift (s.bound? scope) >>= f) :=
  Pre.lift_bind (bound?_respects s scope sameView_logged) (Keeps.of_apart (bound?_apart s scope))
    fun _ _ bound _ => rest bound

/-- Before the lock: the file of the binding, and whether its cache holds the key. -/
theorem Pre.cached_bind {α : Type} (b : Binding) (key : String) (taint : Bool) {f : String → Bool → Co α}
    (rest : ∀ c p contained, v0.1 c p key taint = .ok contained →
      Pre guarded cacheView v0 scope (f (bindingPath c p) contained)) :
    Pre guarded cacheView v0 scope (Co.lift (Service.bindingFile b) >>= fun file =>
      Co.lift (ServerFindings.contains file key taint) >>= f file) := by
  refine Pre.lift_bind (bindingFile_respects b) (Keeps.of_apart (bindingFile_apart b)) fun _ _ file named => ?_
  obtain ⟨c, p, rfl⟩ := bindingFile_named named
  exact Pre.lift_bind (contains_sameView c p key taint) (Keeps.of_apart (contains_apart _ key taint))
    fun _ view contained answered => rest c p contained (contains_answer view answered)

theorem changeStatusCo_keeps (key : String) (status : ResolutionStatus) (taint : Bool) :
    Pre guarded cacheView v0 scope (s.changeStatusCo scope key status taint) := by
  unfold Service.changeStatusCo
  refine Pre.bound?_bind s scope fun bound => ?_
  rcases bound with _ | ⟨b, conn⟩
  · exact .free (.done _)
  dsimp only
  refine Pre.cached_bind scope b key taint fun c p contained cached => ?_
  cases contained
  · -- not cached: the local finding, read, pushed and stored under the lock
    cases asLocalId key with
    | none => exact .free (.done _)
    | some id =>
      refine Pre.locked_bind ?_ fun f => Free.lift (Keeps.of_apart (statusChanged_apart s f.ruleKey))
      refine Held.bind (Held.lift (Respects.find sameState_store id)) fun found => ?_
      rcases found with _ | f
      · exact .done _
      · exact Held.bind (Held.bind (pushResolvedSetCo_held scope conn b _ [] _) fun _ => .done _) fun _ =>
          Held.bind (Held.lift (Respects.storeOne sameState_store scope _)) fun _ => .done _
  · -- cached: the server's issue, and its flag in the cache, without the lock
    refine .free (Free.bind (Free.lift (Keeps.of_apart (failedWith_apart _ _ (doTransition_apart conn key _))))
      fun _ => ?_)
    refine Free.bind (Free.lift (updateResolution_keeps cached true)) fun updated => ?_
    rcases updated with _ | m
    · exact .done _
    · exact Free.bind (Free.lift (Keeps.of_apart (statusChanged_apart s m.ruleKey))) fun _ => .done _

theorem commentLocalOnlyCo_keeps (id : Uuid) (text : String) :
    Pre guarded cacheView v0 scope (s.commentLocalOnlyCo scope id text) := by
  unfold Service.commentLocalOnlyCo
  refine Pre.bound?_bind s scope fun bound => ?_
  rcases bound with _ | ⟨b, conn⟩
  · exact .free (.done _)
  dsimp only
  refine Pre.locked (Held.bind (Held.lift (Respects.find sameState_store id)) fun found => ?_)
  rcases found with _ | f
  · exact .done _
  dsimp only
  cases f.resolution with
  | none => exact .done _
  | some r =>
    exact Held.bind (Held.bind (pushResolvedSetCo_held scope conn b _ [] _) fun _ => .done _) fun _ =>
      Held.bind (Held.lift (Respects.storeOne sameState_store scope _)) fun _ => .done _

theorem addCommentCo_keeps (key text : String) : Pre guarded cacheView v0 scope (s.addCommentCo scope key text) := by
  unfold Service.addCommentCo
  extract_lets server
  -- the server's issue takes the comment, through the binding, without the lock
  have serverFree : Free guarded cacheView v0 (server ()) := by
    refine Free.bind (Free.lift (Keeps.of_apart (bound?_apart s scope))) fun bound => ?_
    rcases bound with _ | ⟨b, conn⟩
    · exact .done _
    · exact Free.lift (Keeps.of_apart (failedWith_apart _ _ (addComment_apart conn key text)))
  -- unless a resolved local finding takes it under the lock
  cases asLocalId key with
  | none => exact .free serverFree
  | some id =>
    refine Pre.bind (commentLocalOnlyCo_keeps s scope id text) fun commented => ?_
    cases commented
    · exact serverFree
    · exact .done _

theorem reopenCo_keeps (key : String) (taint : Bool) : Pre guarded cacheView v0 scope (s.reopenCo scope key taint) := by
  unfold Service.reopenCo
  refine Pre.bound?_bind s scope fun bound => ?_
  rcases bound with _ | ⟨b, conn⟩
  · exact .free (.done _)
  dsimp only
  refine Pre.cached_bind scope b key taint fun c p contained cached => ?_
  cases contained
  · -- not cached: the local finding, dropped from the pushed set and the store under the lock
    cases asLocalId key with
    | none => exact .free (.done _)
    | some id =>
      refine Pre.locked_bind ?_ fun _ => .done _
      exact Held.bind (Held.bind (pushResolvedSetCo_held scope conn b none [id] _) fun _ => .done _) fun _ =>
        Held.bind (Held.lift (Respects.removeOne sameState_store id)) fun _ => .done _
  · -- cached: the server's issue, and its flag in the cache, without the lock
    refine .free (Free.bind (Free.lift (Keeps.of_apart (failedWith_apart _ _ (doTransition_apart conn key _))))
      fun _ => ?_)
    refine Free.bind (Free.lift (updateResolution_keeps cached false)) fun updated => ?_
    rcases updated with _ | m
    · exact .done _
    · exact Free.bind (Free.lift (Keeps.of_apart (statusChanged_apart s m.ruleKey))) fun _ => .done _

theorem reopenAllCo_keeps (path : Value) : Pre guarded cacheView v0 scope (s.reopenAllCo scope path) := by
  unfold Service.reopenAllCo
  refine Pre.bound?_bind s scope fun bound => ?_
  refine Pre.locked_bind ?_ fun _ => Free.bind (Free.lift (Keeps.of_apart (apart_log _))) fun _ => .done _
  extract_lets removing
  have removed : ∀ r, Held guarded cacheView v0 (removing r) :=
    fun _ => Held.lift (Respects.removeForPath sameState_store scope path)
  rcases bound with _ | ⟨b, conn⟩
  · exact removed ()
  -- a refused push is logged, and the findings of the file are removed all the same
  refine Held.bind (Held.lift (Respects.loadForPath sameState_store scope path)) fun forFile => ?_
  refine Held.bind (Held.tryCatch (Held.bind (pushResolvedSetCo_held scope conn b none _ _) fun _ => .done _)
    fun f => ?_) removed
  split
  · exact Held.lift (Respects.log sameState_logged)
  · exact .done _

theorem resyncCo_keeps : Pre guarded cacheView v0 scope (s.resyncCo scope) := by
  unfold Service.resyncCo
  refine Pre.bound?_bind s scope fun bound => ?_
  rcases bound with _ | ⟨b, conn⟩
  · exact .free (.done _)
  exact Pre.locked_bind (pushResolvedSetCo_held scope conn b none [] _) fun _ =>
    Free.bind (Free.lift (Keeps.of_apart (apart_log _))) fun _ => .done _

theorem recordLocalOnlyCo_keeps (findings : List LocalFinding) :
    Pre guarded cacheView v0 scope (s.recordLocalOnlyCo scope findings) :=
  Pre.locked_bind (Held.lift (Respects.storeAll sameState_store scope findings)) fun _ =>
    Free.bind (Free.lift (Keeps.of_apart (apart_log _))) fun _ => .done _

/-- Every operation on a scope keeps to the scope's lock. -/
theorem ScopeOp.co_keeps (op : ScopeOp) : Pre guarded cacheView v0 scope (op.co s scope) := by
  cases op with
  | call c =>
    cases c with
    | changeStatus key status taint => exact changeStatusCo_keeps s scope key status taint
    | addComment key text => exact addCommentCo_keeps s scope key text
    | reopen key taint => exact Pre.bind (reopenCo_keeps s scope key taint) fun _ => .done _
    | reopenAll path => exact Pre.bind (reopenAllCo_keeps s scope path) fun _ => .done _
    | resync => exact Pre.bind (resyncCo_keeps s scope) fun _ => .done _
  | record findings => exact Pre.bind (recordLocalOnlyCo_keeps s scope findings) fun _ => .done _

end Operations

/-! ## Interleavings of the operations on a scope -/

/-- A reordering of the images of a list is the image of a reordering of the list. -/
theorem exists_perm_of_perm_map {α β : Type _} (g : α → β) {order : List β} :
    ∀ {l : List α}, order.Perm (l.map g) → ∃ l' : List α, l'.Perm l ∧ l'.map g = order := by
  induction order with
  | nil =>
    intro l perm
    have empty : l = [] := List.map_eq_nil_iff.mp (List.perm_nil.mp perm.symm)
    exact ⟨[], by rw [empty], rfl⟩
  | cons y rest ih =>
    intro l perm
    -- the first image comes from some element; split the list there and reorder the rest
    obtain ⟨x, member, rfl⟩ := List.mem_map.mp (perm.subset List.mem_cons_self)
    obtain ⟨front, back, rfl⟩ := List.append_of_mem member
    have tail : rest.Perm ((front ++ back).map g) := by
      refine List.Perm.cons_inv (perm.trans ?_)
      simp only [List.map_append, List.map_cons]
      exact List.perm_middle
    obtain ⟨l', reordered, images⟩ := ih tail
    exact ⟨x :: l', (reordered.cons x).trans List.perm_middle.symm, by rw [List.map_cons, images]⟩

/-- Operations on a scope as coroutines, each with the server that answers it. -/
def ScopeOp.coroutines (s : Service) (scope : String) (ops : List (ScopeOp × Script)) : List (Co Unit × Script) :=
  ops.map fun op => (op.1.co s scope, op.2)

/-- Runs operations on a scope one after the other, each answered by its own server. -/
def ScopeOp.runInTurn (s : Service) (scope : String) : List (ScopeOp × Script) → Host → Host
  | [], h => h
  | (op, sc) :: rest, h => runInTurn s scope rest (resultHost ((op.perform s scope).run { h with script := sc }))

theorem serial_coroutines (s : Service) (scope : String) (ops : List (ScopeOp × Script)) (h : Host) :
    serial (ScopeOp.coroutines s scope ops) h = ScopeOp.runInTurn s scope ops h := by
  induction ops generalizing h with
  | nil => rfl
  | cons op ops ih =>
    obtain ⟨op, sc⟩ := op
    simp only [ScopeOp.coroutines, List.map_cons, serial, ScopeOp.runInTurn, ScopeOp.co_run] at ih ⊢
    exact ih _

def unboundService : Service := { scopes := [], connections := [] }

end IssueSync
