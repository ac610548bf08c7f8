import IssueSync.Remote.Gateway
import IssueSync.Proofs.Run

/-!
# What a call of an endpoint sends

A call sends one request and then follows redirections, so the server sees that request and then
each redirection of the one before. Nothing but the server's script and the log of requests moves
while a call runs, and a call that fails fails with a transport problem.
-/

set_option autoImplicit false

namespace IssueSync

open IssueSync.Remote

namespace Remote

/-- The requests one request turns into on its way: itself, then each redirection of the one
before it. -/
inductive Hops : Request → List Request → Prop
  | last (req : Request) : Hops req [req]
  | redirect (req : Request) (status : Nat) (location : String) {rest : List Request} :
      Hops (redirected req status location) rest → Hops req (req :: rest)

/-- The credential a connection's requests carry. -/
def bearer (c : Connection) : Option String :=
  match c.token with
  | some t => if t.isEmpty then none else some ("Bearer " ++ t)
  | none => none

/-- The request a call of an endpoint sends first. -/
def callRequest (c : Connection) (method path : String) (params : List (String × String))
    (payload : Payload) : Request :=
  { method, url := c.url ++ path, params, auth := bearer c, payload }

/-- The request that applies a transition to an issue. -/
def transitionRequest (c : Connection) (key code : String) : Request :=
  callRequest c "POST" Endpoint.doTransition.path [] (.form [("issue", key), ("transition", code)])

/-- The request that comments an issue. -/
def commentRequest (c : Connection) (key text : String) : Request :=
  callRequest c "POST" Endpoint.addComment.path [] (.form [("issue", key), ("text", text)])

/-- The request that sends the resolved set of a project. -/
def pushRequest (c : Connection) (project : Value) (entries : List Value) : Request :=
  callRequest c "POST" Endpoint.anticipated.path (paramPairs "projectKey" project) (.json (.list entries))

/-- The host a result leaves, whether the run returned or failed. -/
def resultHost {α : Type} : EStateM.Result Failure Host α → Host
  | .ok _ h => h
  | .error _ h => h

theorem redirected_payload (req : Request) (status : Nat) (location : String) :
    (redirected req status location).payload = req.payload ∨
      (redirected req status location).payload = .none := by
  have dropped : ∀ (drop : Bool) (p : Payload),
      (if drop = true then Payload.none else p) = p ∨ (if drop = true then Payload.none else p) = .none := by
    intro drop p
    cases drop <;> simp
  unfold redirected
  split
  exact dropped _ _

theorem hops_payload {req : Request} {sent : List Request} (hops : Hops req sent) :
    ∀ r ∈ sent, r.payload = req.payload ∨ r.payload = .none := by
  induction hops with
  | last req => simp
  | redirect req status location later ih =>
    intro r member
    rcases List.mem_cons.mp member with rfl | rest
    · exact .inl rfl
    · rcases ih r rest with same | none
      · rw [same]
        exact redirected_payload req status location
      · exact .inr none

theorem exchange_run (req : Request) (h : Host) :
    (Run.exchange req).run h = .ok (h.script.respond (ownerOf h.fleet req.url) req).1
      { h with script := (h.script.respond (ownerOf h.fleet req.url) req).2,
               sent := h.sent ++ [{ owner := ownerOf h.fleet req.url, request := req }] } := rfl

theorem sendWithin_run (n : Nat) (req : Request) (h : Host) :
    ∃ answer script new, (sendWithin (n + 1) req).run h = .ok answer { h with script, sent := h.sent ++ new } ∧
      Hops req (new.map Sent.request) := by
  induction n generalizing req h with
  | zero =>
    simp only [sendWithin, EStateM.run_bind, exchange_run]
    split
    · exact ⟨_, _, _, rfl, .last req⟩
    · split
      · exact ⟨_, _, _, rfl, .last req⟩
      · exact ⟨_, _, _, rfl, .last req⟩
  | succ n ih =>
    rw [sendWithin]
    simp only [EStateM.run_bind, exchange_run]
    split
    · exact ⟨_, _, _, rfl, .last req⟩
    · rename_i r _
      split
      · rename_i location _
        obtain ⟨answer, script, new, sent, hops⟩ := ih (redirected req r.status location)
          { h with script := (h.script.respond (ownerOf h.fleet req.url) req).2,
                   sent := h.sent ++ [{ owner := ownerOf h.fleet req.url, request := req }] }
        refine ⟨answer, script, { owner := ownerOf h.fleet req.url, request := req } :: new, ?_, ?_⟩
        · rw [sent]
          simp
        · exact .redirect req r.status location hops
      · exact ⟨_, _, _, rfl, .last req⟩

theorem call_run (c : Connection) (method path : String) (params : List (String × String))
    (payload : Payload) (h : Host) :
    ∃ script new, Hops (callRequest c method path params payload) (new.map Sent.request) ∧
      ((∃ r, (call c method path params payload).run h = .ok r { h with script, sent := h.sent ++ new }) ∨
        ∃ p, (call c method path params payload).run h = .error (.problem p) { h with script, sent := h.sent ++ new }) := by
  obtain ⟨answer, script, new, sent, hops⟩ := sendWithin_run 20 (callRequest c method path params payload) h
  refine ⟨script, new, hops, ?_⟩
  have sending : (send (callRequest c method path params payload)).run h =
      .ok answer { h with script, sent := h.sent ++ new } := sent
  unfold call
  simp only [EStateM.run_bind]
  split
  · rename_i got after answered
    -- the request `call` builds is `callRequest` written out
    have settled : EStateM.Result.ok got after = .ok answer { h with script, sent := h.sent ++ new } :=
      answered.symm.trans sending
    simp only [EStateM.Result.ok.injEq] at settled
    obtain ⟨rfl, rfl⟩ := settled
    cases got with
    | fail message => exact .inr ⟨_, rfl⟩
    | reply r =>
      by_cases success : r.isSuccess
      · exact .inl ⟨r, by simp [success]⟩
      · simp only [success, Bool.false_eq_true, if_false]
        exact .inr ⟨_, rfl⟩
  · rename_i e after failed
    cases failed.symm.trans sending

/-- A call sent `req` and its redirections from `h`, and either returned or failed with a problem;
nothing but the script and the log of requests moved. -/
def Answered {α : Type} (m : Run α) (h : Host) (req : Request) : Prop :=
  ∃ script new, Hops req (new.map Sent.request) ∧
    ((∃ a, m.run h = .ok a { h with script, sent := h.sent ++ new }) ∨
      ∃ p, m.run h = .error (.problem p) { h with script, sent := h.sent ++ new })

theorem answered_discard {α : Type} {m : Run α} {h : Host} {req : Request} (answered : Answered m h req) :
    Answered (discard m) h req := by
  obtain ⟨script, new, hops, done | failed⟩ := answered
  · obtain ⟨a, ran⟩ := done
    exact ⟨script, new, hops, .inl ⟨(), by simp [ran]⟩⟩
  · obtain ⟨p, ran⟩ := failed
    exact ⟨script, new, hops, .inr ⟨p, by simp [ran]⟩⟩

theorem call_answered (c : Connection) (method path : String) (params : List (String × String))
    (payload : Payload) (h : Host) :
    Answered (call c method path params payload) h (callRequest c method path params payload) :=
  call_run c method path params payload h

theorem doTransition_answered (c : Connection) (key code : String) (h : Host) :
    Answered (doTransition c key code) h (transitionRequest c key code) :=
  answered_discard (call_answered ..)

theorem addComment_answered (c : Connection) (key text : String) (h : Host) :
    Answered (Remote.addComment c key text) h (commentRequest c key text) :=
  answered_discard (call_answered ..)

theorem anticipatedTransitions_answered (c : Connection) (project : Value)
    (findings : List LocalFinding) (entries : List Value)
    (encoded : findings.mapM LocalFinding.anticipatedTransition = .ok entries) (h : Host) :
    Answered (anticipatedTransitions c project findings) h (pushRequest c project entries) := by
  have sending : Answered (discard (call c "POST" Endpoint.anticipated.path (paramPairs "projectKey" project)
      (.json (.list entries)))) h (pushRequest c project entries) :=
    answered_discard (call_answered ..)
  simpa only [Answered, anticipatedTransitions, EStateM.run_bind, encoded, Run.lift_ok_run] using sending

end Remote

end IssueSync
