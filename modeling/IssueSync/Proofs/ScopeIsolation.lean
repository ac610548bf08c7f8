import IssueSync.Proofs.StoreEffect
import IssueSync.Proofs.UnscriptedServer

/-!
# What a call on one scope does to the findings of the others

A call names a scope and, to resolve, comment or reopen, a key; the two are never checked
against each other. The store finds a local id among the findings of every scope, so a key that is
the id of another scope's finding reaches that finding: resolving or commenting stores it again
under the called scope, reopening drops it, and the scope it came from is neither locked nor sent
its resolved set again. Apart from that one finding, every call leaves the findings of every other
scope as they were, on every route and whether it completes or fails.
-/

set_option autoImplicit false

namespace IssueSync

open IssueSync.Store IssueSync.Remote IssueSync.Service IssueSync.LocalStore

namespace ScopeCall

/-- The id a call's key names when it is read as the id of a local finding; the calls without
a key name none. -/
def localId? : ScopeCall → Option Uuid
  | .changeStatus key _ _ => asLocalId key
  | .addComment key _ => asLocalId key
  | .reopen key _ => asLocalId key
  | .reopenAll _ => none
  | .resync => none

end ScopeCall

/-- The changes a call on `scope`, whose key names `named`, can make to the local store `st`. -/
inductive StoreChange (scope : String) (named : Option Uuid) (st : LocalStore) : LocalStore → Prop
  /-- The store is left as it was. -/
  | keep : StoreChange scope named st st
  /-- The stored finding with the named id is stored again under the scope, changed. -/
  | restore {g f : LocalFinding} (stored : g ∈ st.findings) (name : named = some g.id) (sameId : f.id = g.id)
      (faithful : { f with scopeId := .str scope }.Faithful) :
      StoreChange scope named st (st.put { f with scopeId := .str scope } faithful)
  /-- The finding with the named id is dropped. -/
  | erase {id : Uuid} (name : named = some id) : StoreChange scope named st (st.erase id)
  /-- The scope's findings of one file are dropped. -/
  | dropFile (path : Value) : StoreChange scope named st (st.dropFile scope path)

section Elsewhere

variable {scope other : String}

theorem inScope_elsewhere {f : LocalFinding} (inOther : f.inScope other = true) (apart : other ≠ scope) :
    f.inScope scope = false := by
  rw [LocalFinding.inScope_iff] at inOther
  cases inHere : f.inScope scope with
  | false => rfl
  | true =>
    rw [LocalFinding.inScope_iff, inOther] at inHere
    exact absurd (Value.str.inj inHere) apart

theorem filter_replace_elsewhere (findings : List LocalFinding) {f : LocalFinding}
    (away : f.inScope other = false) :
    (findings.map fun g => if g.id == f.id then f else g).filter (·.inScope other) =
      (findings.filter (·.inScope other)).filter (·.id != f.id) := by
  induction findings with
  | nil => rfl
  | cons g rest ih =>
    simp only [List.map_cons, List.filter_cons, ih]
    by_cases same : g.id = f.id <;> by_cases inOther : g.inScope other <;> simp [same, inOther, away]

theorem filter_upsert_elsewhere {findings : List LocalFinding} {g f : LocalFinding} (stored : g ∈ findings)
    (sameId : f.id = g.id) (apart : other ≠ scope) :
    (upsert findings { f with scopeId := .str scope }).filter (·.inScope other) =
      (findings.filter (·.inScope other)).filter (·.id != g.id) := by
  have present : findings.any (·.id == ({ f with scopeId := .str scope } : LocalFinding).id) = true := by
    simpa [sameId] using ⟨g, stored, rfl⟩
  have away : ({ f with scopeId := .str scope } : LocalFinding).inScope other = false := by
    simpa [LocalFinding.inScope, Value.equal] using apart.symm
  rw [upsert, if_pos present, filter_replace_elsewhere _ away, sameId]

theorem filter_erase (st : LocalStore) (id : Uuid) (other : String) :
    (st.erase id).findings.filter (·.inScope other) = (st.findings.filter (·.inScope other)).filter (·.id != id) := by
  simp only [LocalStore.erase, LocalStore.keep, List.filter_filter, Bool.and_comm]

theorem filter_dropFile_elsewhere (st : LocalStore) (path : Value) (apart : other ≠ scope) :
    (st.dropFile scope path).findings.filter (·.inScope other) = st.findings.filter (·.inScope other) := by
  simp only [LocalStore.dropFile, LocalStore.keep, List.filter_filter]
  apply List.filter_congr
  intro f _
  cases inOther : f.inScope other with
  | false => simp
  | true => simp [inScope_elsewhere inOther apart]

end Elsewhere

/-- The findings of scope `other` in `st'` are those of `st`, or those of `st` but the finding with
the named id, when that finding was one of them. -/
def ScopeKept (named : Option Uuid) (st st' : LocalStore) (other : String) : Prop :=
  st'.findings.filter (·.inScope other) = st.findings.filter (·.inScope other) ∨
    ∃ id, named = some id ∧ (∃ g ∈ st.findings, g.id = id ∧ g.inScope other = true) ∧
      st'.findings.filter (·.inScope other) = (st.findings.filter (·.inScope other)).filter (·.id != id)

theorem scopeKept_of_drop {named : Option Uuid} {st st' : LocalStore} {other : String} {id : Uuid}
    (name : named = some id)
    (dropped : st'.findings.filter (·.inScope other) = (st.findings.filter (·.inScope other)).filter (·.id != id)) :
    ScopeKept named st st' other := by
  -- dropping by id changes the scope only when the finding with the id is there
  by_cases there : ∃ g ∈ st.findings, g.id = id ∧ g.inScope other = true
  · exact .inr ⟨id, name, there, dropped⟩
  · refine .inl (dropped.trans (List.filter_eq_self.mpr ?_))
    intro g member
    have ⟨kept, inOther⟩ := List.mem_filter.mp member
    have differ : g.id ≠ id := fun same => there ⟨g, kept, same, inOther⟩
    simpa using differ

theorem StoreChange.scopeKept {scope : String} {named : Option Uuid} {st st' : LocalStore}
    (change : StoreChange scope named st st') (other : String) (apart : other ≠ scope) :
    ScopeKept named st st' other := by
  cases change with
  | keep => exact .inl rfl
  | restore stored name sameId faithful =>
    exact scopeKept_of_drop name (filter_upsert_elsewhere stored sameId apart)
  | erase name => exact scopeKept_of_drop name (filter_erase st _ other)
  | dropFile path => exact .inl (filter_dropFile_elsewhere st path apart)

/-- The host `m` leaves from `h`, whether it returns or fails, holds a store that `P` admits. -/
def ChangesTo {α : Type} (m : Run α) (h : Host) (P : LocalStore → Prop) : Prop :=
  ∃ st', LocalOnly.Holds (resultHost (m.run h)).files st' ∧ P st'

section Changes

variable {α : Type} {m rest : Run α} {h : Host} {st st' : LocalStore} {P : LocalStore → Prop}

theorem changesTo_of_files (holds : LocalOnly.Holds h.files st) (kept : P st)
    (same : (resultHost (m.run h)).files = h.files) : ChangesTo m h P :=
  ⟨st, by rw [same]; exact holds, kept⟩

theorem ChangesTo.discard (changes : ChangesTo m h P) : ChangesTo (discard m) h P := by
  obtain ⟨st', holdsAfter, admitted⟩ := changes
  refine ⟨st', ?_, admitted⟩
  rw [Run.discard_run]
  cases ran : m.run h <;> rw [ran] at holdsAfter <;> exact holdsAfter

theorem Service.CallThen.changesTo {remote : Run Unit} {req : Request} {stage : FailedStage} {message : String}
    (call : CallThen m h remote req stage message rest) (quiet : Within .quiet rest)
    (holds : LocalOnly.Holds h.files st) (kept : P st) : ChangesTo m h P := by
  obtain ⟨script, new, -, ⟨-, ran⟩ | ⟨p, -, failed⟩⟩ := call
  · -- the call moved only the script and the requests; the rest leaves the store's file alone
    have untouched := quiet { h with script, sent := h.sent ++ new }
    refine ⟨st, ?_, kept⟩
    rw [ran]
    exact LocalOnly.holds_of_kept untouched.2 holds
  · exact changesTo_of_files holds kept (by rw [failed]; rfl)

theorem Service.PushThen.changesTo {conn : Connection} {b : Binding} {rs : List LocalFinding}
    {stage : FailedStage} (push : PushThen m h conn b rs stage rest) (settles : Settles rest st st')
    (holds : LocalOnly.Holds h.files st) (kept : P st) (changed : P st') : ChangesTo m h P := by
  obtain ⟨es, -, script, new, -, ⟨-, ran⟩ | ⟨p, -, failed⟩⟩ := push
  · -- the server took the push: the rest settles the store
    obtain ⟨a, H', settled, -, holdsAfter⟩ := settles { h with script, sent := h.sent ++ new } holds
    refine ⟨st', ?_, changed⟩
    rw [ran, settled]
    exact holdsAfter
  · exact changesTo_of_files holds kept (by rw [failed]; rfl)

end Changes

namespace Service

/-- The scope has no live connection: finding one writes log lines and gives none, or fails
before anything happens. -/
def Idle (s : Service) (scope : String) : Prop :=
  ∀ h : Host, (∃ lines, (s.bound? scope).run h = .ok none { h with logs := h.logs ++ lines }) ∨
    ∃ f, (s.bound? scope).run h = .error f h

/-- A scope is served by a live connection, or idle. -/
theorem served_or_idle (s : Service) (scope : String) : (∃ b conn, s.Serves scope b conn) ∨ s.Idle scope := by
  cases bound : s.scopes.effectiveBinding (.str scope) with
  | error f =>
    exact .inr fun h => .inr ⟨f, by simp only [bound?, binding?, EStateM.run_bind, Run.lift_run, bound]⟩
  | ok found =>
    cases found with
    | none =>
      exact .inr fun h => .inl ⟨[], by
        simp only [bound?, binding?, EStateM.run_bind, Run.lift_run, bound, List.append_nil]; rfl⟩
    | some b =>
      -- a binding whose connection id is no text names no live connection
      cases named : b.connectionId with
      | str c =>
        cases live : s.connections.lookup c with
        | some conn => exact .inl ⟨b, conn, bound, c, named, live⟩
        | none =>
          exact .inr fun h => .inl ⟨_, by
            simp only [bound?, binding?, connection?, EStateM.run_bind, Run.lift_run, bound, named, live]; rfl⟩
      | list items =>
        exact .inr fun h => .inr ⟨_, by
          simp only [bound?, binding?, connection?, EStateM.run_bind, Run.lift_run, bound, named]; rfl⟩
      | dict es =>
        exact .inr fun h => .inr ⟨_, by
          simp only [bound?, binding?, connection?, EStateM.run_bind, Run.lift_run, bound, named]; rfl⟩
      | _ =>
        exact .inr fun h => .inl ⟨_, by
          simp only [bound?, binding?, connection?, EStateM.run_bind, Run.lift_run, bound, named]; rfl⟩

end Service

namespace Service

section Idle

variable {s : Service} {scope : String} (idle : s.Idle scope) (h : Host)
include idle

theorem changeStatus_idle (key : String) (status : ResolutionStatus) (taint : Bool) :
    (resultHost ((s.changeStatus scope key status taint).run h)).files = h.files := by
  rcases idle h with ⟨lines, declined⟩ | ⟨f, failed⟩
  · simp only [changeStatus, EStateM.run_bind, declined]
    rfl
  · simp only [changeStatus, EStateM.run_bind, failed]
    rfl

theorem addComment_idle (key text : String) :
    (resultHost ((s.addComment scope key text).run h)).files = h.files := by
  rcases idle h with ⟨lines, declined⟩ | ⟨f, failed⟩
  · -- the local attempt finds no connection, and neither does the server route after it
    rcases idle { h with logs := h.logs ++ lines } with ⟨more, again⟩ | ⟨f, failedAgain⟩
    · cases parsed : asLocalId key <;>
        simp only [addComment, commentLocalOnly, parsed, EStateM.run_bind, EStateM.run_pure, declined, again,
          Bool.false_eq_true, if_false] <;> rfl
    · cases parsed : asLocalId key <;>
        simp only [addComment, commentLocalOnly, parsed, EStateM.run_bind, EStateM.run_pure, declined,
          failedAgain, Bool.false_eq_true, if_false] <;> rfl
  · cases parsed : asLocalId key <;>
      simp only [addComment, commentLocalOnly, parsed, EStateM.run_bind, failed] <;> rfl

theorem reopen_idle (key : String) (taint : Bool) :
    (resultHost ((s.reopen scope key taint).run h)).files = h.files := by
  rcases idle h with ⟨lines, declined⟩ | ⟨f, failed⟩
  · simp only [reopen, EStateM.run_bind, declined]
    rfl
  · simp only [reopen, EStateM.run_bind, failed]
    rfl

theorem resync_idle : (resultHost ((s.resync scope).run h)).files = h.files := by
  rcases idle h with ⟨lines, declined⟩ | ⟨f, failed⟩
  · simp only [resync, EStateM.run_bind, declined]
    rfl
  · simp only [resync, EStateM.run_bind, failed]
    rfl

/-- Without a live connection, reopening a file still drops its findings from the store. -/
theorem reopenAll_idle {st : LocalStore} (holds : LocalOnly.Holds h.files st) (path : Value) :
    LocalOnly.Holds (resultHost ((s.reopenAll scope path).run h)).files st ∨
      LocalOnly.Holds (resultHost ((s.reopenAll scope path).run h)).files (st.dropFile scope path) := by
  rcases idle h with ⟨lines, declined⟩ | ⟨f, failed⟩
  · have holdsLogged : LocalOnly.Holds { h with logs := h.logs ++ lines }.files st := holds
    obtain ⟨removed, fs, dropped, holdsAfter⟩ := LocalOnly.removeForPath_run holdsLogged scope path
    refine .inr ?_
    simp only [reopenAll, EStateM.run_bind, declined]
    rw [dropped]
    exact holdsAfter
  · refine .inl ?_
    simp only [reopenAll, EStateM.run_bind, failed]
    exact holds

end Idle

section Served

variable {s : Service} {scope : String} {b : Binding} {conn : Connection} {h : Host} {st : LocalStore}

theorem changeStatus_changes (served : s.Serves scope b conn) (holds : LocalOnly.Holds h.files st)
    (key : String) (status : ResolutionStatus) (taint : Bool) :
    ChangesTo (s.changeStatus scope key status taint) h (StoreChange scope (asLocalId key) st) := by
  rcases text_or_refused b h with ⟨c, p, rfl⟩ | ⟨f, refused⟩
  swap
  · exact changesTo_of_files holds .keep (by rw [changeStatus_unnamed key status taint served refused]; rfl)
  rcases Within.same_cases (contains_same (bindingPath c p) key taint) h with ⟨cached, checked⟩ | ⟨f, failed⟩
  swap
  · exact changesTo_of_files holds .keep (by rw [changeStatus_unchecked key status taint served failed]; rfl)
  cases cached with
  | true =>
    exact (changeStatus_server key status taint served checked).changesTo
      (afterTransition_quiet s (bindingPath_apart_local c p) key taint true ()) holds .keep
  | false =>
    -- a key the cache does not hold is resolved as a local id when the store has it, and is not
    -- found otherwise
    have notFound : (∀ id, asLocalId key = some id → st.findings.find? (·.id == id) = none) →
        ChangesTo (s.changeStatus scope key status taint) h (StoreChange scope (asLocalId key) st) :=
      fun unknown => changesTo_of_files holds .keep
        (by rw [changeStatus_notFound key status taint served holds checked unknown]; rfl)
    cases parsed : asLocalId key with
    | none => exact parsed ▸ notFound fun id named => by rw [parsed] at named; cases named
    | some id =>
      cases stored : st.findings.find? (·.id == id) with
      | none =>
        refine parsed ▸ notFound fun id' named => ?_
        rw [parsed, Option.some.injEq] at named
        rw [← named]
        exact stored
      | some g =>
        have member := List.mem_of_find?_eq_some stored
        have found : g.id = id := by simpa using List.find?_some stored
        have faithful := (st.faithful g member).resolve status
        have restored := @StoreChange.restore scope (some id) st g (g.resolve status) member
          (by rw [found]) rfl (faithful.withScope _)
        exact (changeStatus_local key status taint served holds checked parsed stored).changesTo
          ((settles_store scope faithful).bind fun _ => settles_statusChanged s _) holds .keep restored

theorem addComment_changes (served : s.Serves scope b conn) (holds : LocalOnly.Holds h.files st)
    (key text : String) :
    ChangesTo (s.addComment scope key text) h (StoreChange scope (asLocalId key) st) := by
  by_cases onStore : ∃ id g r, asLocalId key = some id ∧ st.findings.find? (·.id == id) = some g ∧
      g.resolution = some r
  · obtain ⟨id, g, r, parsed, stored, resolvedAs⟩ := onStore
    have member := List.mem_of_find?_eq_some stored
    have found : g.id = id := by simpa using List.find?_some stored
    have faithful := (st.faithful g member).withComment resolvedAs text
    have restored := @StoreChange.restore scope (asLocalId key) st g (g.withComment text) member
      (by rw [parsed, found]) rfl (faithful.withScope _)
    exact (addComment_local text served holds parsed stored resolvedAs).changesTo (settles_store scope faithful)
      holds .keep restored
  · -- no resolved stored finding: the comment goes to the server
    have notLocal : ∀ id, asLocalId key = some id →
        ∀ g, st.findings.find? (·.id == id) = some g → g.resolution = none := by
      intro id parsed g stored
      cases resolvedAs : g.resolution with
      | none => rfl
      | some r => exact absurd ⟨id, g, r, parsed, stored, resolvedAs⟩ onStore
    exact (addComment_server text served holds key notLocal).changesTo (Within.of_pure ()) holds .keep

theorem reopen_changes (served : s.Serves scope b conn) (holds : LocalOnly.Holds h.files st)
    (key : String) (taint : Bool) :
    ChangesTo (s.reopen scope key taint) h (StoreChange scope (asLocalId key) st) := by
  rcases text_or_refused b h with ⟨c, p, rfl⟩ | ⟨f, refused⟩
  swap
  · exact changesTo_of_files holds .keep (by rw [reopen_unnamed key taint served refused]; rfl)
  rcases Within.same_cases (contains_same (bindingPath c p) key taint) h with ⟨cached, checked⟩ | ⟨f, failed⟩
  swap
  · exact changesTo_of_files holds .keep (by rw [reopen_unchecked key taint served failed]; rfl)
  cases cached with
  | true =>
    exact (reopen_server key taint served checked).changesTo
      (afterTransition_quiet s (bindingPath_apart_local c p) key taint false true) holds .keep
  | false =>
    cases parsed : asLocalId key with
    | none => exact changesTo_of_files holds .keep (by rw [reopen_notLocal key taint served checked parsed]; rfl)
    | some id =>
      exact (reopen_local key taint served holds checked parsed).changesTo
        ((settles_removeOne id).bind fun _ => settles_pure true) holds .keep (.erase rfl)

theorem reopenAll_changes (served : s.Serves scope b conn) (holds : LocalOnly.Holds h.files st) (path : Value) :
    ChangesTo (s.reopenAll scope path) h (StoreChange scope none st) := by
  obtain ⟨entries, -, script, new, -, -, fs, lines, ran, holdsAfter⟩ := reopenAll_served served holds path
  exact ⟨_, by rw [ran]; exact holdsAfter, .dropFile path⟩

theorem resync_changes (served : s.Serves scope b conn) (holds : LocalOnly.Holds h.files st) :
    ChangesTo (s.resync scope) h (StoreChange scope none st) :=
  (resync_served served holds).changesTo ((settles_log _).bind fun _ => settles_pure true) holds .keep .keep

end Served

end Service

/-- Every call on a scope, whether it completes or fails, leaves a store that differs from the
one it started from by one change: none, the finding its key names stored again under the scope,
that finding dropped, or the scope's findings of a file dropped. -/
theorem ScopeCall.perform_changes (s : Service) (scope : String) {h : Host} {st : LocalStore}
    (holds : LocalOnly.Holds h.files st) (call : ScopeCall) :
    ChangesTo (call.perform s scope) h (StoreChange scope call.localId? st) := by
  rcases Service.served_or_idle s scope with ⟨b, conn, served⟩ | idle
  · cases call with
    | changeStatus key status taint => exact Service.changeStatus_changes served holds key status taint
    | addComment key text => exact Service.addComment_changes served holds key text
    | reopen key taint => exact (Service.reopen_changes served holds key taint).discard
    | reopenAll path => exact (Service.reopenAll_changes served holds path).discard
    | resync => exact (Service.resync_changes served holds).discard
  · cases call with
    | changeStatus key status taint =>
      exact changesTo_of_files holds .keep (Service.changeStatus_idle idle h key status taint)
    | addComment key text => exact changesTo_of_files holds .keep (Service.addComment_idle idle h key text)
    | reopen key taint => exact (changesTo_of_files holds .keep (Service.reopen_idle idle h key taint)).discard
    | reopenAll path =>
      rcases Service.reopenAll_idle idle h holds path with kept | dropped
      · exact ChangesTo.discard ⟨st, kept, .keep⟩
      · exact ChangesTo.discard ⟨_, dropped, .dropFile path⟩
    | resync => exact (changesTo_of_files holds .keep (Service.resync_idle idle h)).discard

/-- A call on `scope` leaves the findings of every other scope as they were, but for the finding
its key names: when that finding belongs to another scope, resolving or commenting moves it into
`scope`, and reopening drops it. This holds on every route, whether the call completes or fails. -/
theorem other_scopes_lose_only_the_named_finding (s : Service) (scope : String) (st : LocalStore) (h : Host)
    (holds : LocalOnly.Holds h.files st) (call : ScopeCall) :
    ∃ st', LocalOnly.Holds (resultHost ((call.perform s scope).run h)).files st' ∧
      ∀ other, other ≠ scope → ScopeKept call.localId? st st' other := by
  obtain ⟨st', holdsAfter, change⟩ := call.perform_changes s scope holds
  exact ⟨st', holdsAfter, change.scopeKept⟩

/-- Two scopes bound to two projects on one server. -/
def twoProjects : Service :=
  { scopes := [("scope", { id := "scope", connection := .str "conn", projectKey := .str "acme-backend" }),
      ("other", { id := "other", connection := .str "conn", projectKey := .str "acme-frontend" })],
    connections := [("conn", sqConnection)] }

/-- The key of a finding of scope `other`. -/
def uiKey : String := "00000000-0000-4000-8000-000000000002"

def uiFinding : LocalFinding :=
  { id := ⟨0x40008000000000000002, by decide⟩, scopeId := .str "other", filePath := .str "src/ui.py",
    ruleKey := .str "python:S1481" }

/-- The store as recording `uiFinding` for scope `other` leaves it. -/
def uiStore : LocalStore :=
  .single uiFinding (LocalFinding.faithful_unresolved rfl (by decide +kernel))

theorem uiHost_holds : LocalOnly.Holds (LocalOnly.hostOf uiStore).files uiStore := LocalOnly.hostOf_holds uiStore

/-- Resolving the key of `uiFinding` from `scope` keeps the findings of every other scope, but for
`uiFinding` itself. -/
theorem resolving_uiKey_keeps_other_scopes_but_uiFinding :
    LocalOnly.Holds (LocalOnly.hostOf uiStore).files uiStore ∧
      ∃ st', LocalOnly.Holds (resultHost (((ScopeCall.changeStatus uiKey .accept false).perform twoProjects
        "scope").run (LocalOnly.hostOf uiStore))).files st' ∧
        ∀ other, other ≠ "scope" → ScopeKept (asLocalId uiKey) uiStore st' other :=
  ⟨uiHost_holds, other_scopes_lose_only_the_named_finding twoProjects "scope" uiStore (LocalOnly.hostOf uiStore) uiHost_holds _⟩

/-- Resolving the key of `uiFinding` from `scope` completes, and moves the finding out of scope
`other`: the findings of `other` are not left as they were. -/
theorem resolving_from_another_scope_moves_its_finding :
    LocalOnly.Holds (LocalOnly.hostOf uiStore).files uiStore ∧ uiStore.findings.filter (·.inScope "other") = [uiFinding] ∧
      ∃ h' st', (twoProjects.changeStatus "scope" uiKey .accept false).run (LocalOnly.hostOf uiStore) = .ok () h' ∧
        LocalOnly.Holds h'.files st' ∧ st'.findings.filter (·.inScope "other") = [] := by
  have served : twoProjects.Serves "scope" ⟨.str "conn", .str "acme-backend"⟩ sqConnection :=
    ⟨rfl, "conn", rfl, rfl⟩
  have uncached : (ServerFindings.contains (bindingPath "conn" "acme-backend") uiKey false).run (LocalOnly.hostOf uiStore) =
      .ok false (LocalOnly.hostOf uiStore) := contains_absent (LocalOnly.hostOf_binding_absent _ _ _) uiKey false
  have parsed : asLocalId uiKey = some uiFinding.id := by decide +kernel
  have stored : uiStore.findings.find? (·.id == uiFinding.id) = some uiFinding := by simp [uiStore]
  obtain ⟨entries, fs, events, statusChanges, logs, st', -, ran, holdsAfter, moved⟩ :=
    changeStatus_local_accepted served uiHost_holds rfl (sqConnection_routes .anticipated) uncached parsed stored
  have inOther : uiStore.findings.filter (·.inScope "other") = [uiFinding] := by
    simp [uiStore, uiFinding, LocalFinding.inScope, Value.equal]
  refine ⟨uiHost_holds, inOther, _, st', ran, holdsAfter, ?_⟩
  rw [moved, @filter_upsert_elsewhere "scope" "other" uiStore.findings uiFinding (uiFinding.resolve .accept)
    (List.mem_singleton_self uiFinding) rfl (by decide), inOther]
  simp

end IssueSync
