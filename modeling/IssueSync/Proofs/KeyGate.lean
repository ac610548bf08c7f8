import IssueSync.Api.App
import IssueSync.Proofs.UnscriptedServer

/-!
# The API key gate

Every endpoint but the health check answers only requests that carry the configured key. The
interface reads a request in a fixed order: its path picks the endpoint, a body the endpoint takes
is read as JSON, and only then is the key checked. A failed key check answers at once and leaves
the host as it was, so the service never runs. The refusal is the first that applies of: no key
configured (503), no key sent (401), a different key (401), keys being compared as their UTF-8
bytes. A JSON body that does not read is answered before the key is looked at.
-/

set_option autoImplicit false

namespace IssueSync.Api

open IssueSync.Text

/-- Where routing sends a request. -/
def Call.routed (call : Call) : Routed :=
  route ((upperAscii? call.method).getD (asciiUpper call.method)) (requestPath call.target)

/-- The body of a request as an endpoint receives it: read when the endpoint takes one. -/
def Call.received (call : Call) (e : Endpoint) : Except Response Received :=
  if App.takesBody e then receive call else .ok .absent

/-- The key a request carries. -/
def Call.apiKey (call : Call) : Option String := header? call.headers "x-api-key"

section Checks

variable {provided expected : Option String}

theorem checkApiKey_unconfigured (blank : blankKey expected = true) :
    checkApiKey provided expected = .error .notConfigured := by
  simp [checkApiKey, blank]

theorem checkApiKey_missing (configured : blankKey expected = false) (blank : blankKey provided = true) :
    checkApiKey provided expected = .error .missing := by
  simp [checkApiKey, configured, blank]

theorem checkApiKey_invalid (configured : blankKey expected = false) (sent : blankKey provided = false)
    (differs : provided.map String.toUTF8 ≠ expected.map String.toUTF8) :
    checkApiKey provided expected = .error .invalid := by
  have other : provided ≠ expected := fun same => differs (by rw [same])
  simp [checkApiKey, configured, sent, other]

/-- A key is refused unless one is configured and the request carries it. -/
theorem checkApiKey_refused (refused : blankKey expected = true ∨ provided ≠ expected) :
    ∃ refusal, checkApiKey provided expected = .error refusal := by
  cases checked : checkApiKey provided expected with
  | error refusal => exact ⟨refusal, rfl⟩
  | ok u =>
    have accepted := (checkApiKey_ok_iff provided expected).mp checked
    rcases refused with blank | other
    · simp [accepted.1] at blank
    · exact absurd accepted.2 other

end Checks

namespace App

variable (app : App) {call : Call} {e : Endpoint} {scope : String}

theorem answer_unread (routed : call.routed = .found e scope) (guarded : e ≠ .healthz) {r : Response}
    (unread : call.received e = .error r) (h : Host) : (app.answer call).run h = .ok r h := by
  unfold answer
  rw [show route _ _ = _ from routed]
  unfold Call.received at unread
  cases e with
  | healthz => exact absurd rfl guarded
  | _ => simp only [unread]; rfl

theorem answer_refused (routed : call.routed = .found e scope) (guarded : e ≠ .healthz)
    {received : Received} (read : call.received e = .ok received) {refusal : KeyRefusal}
    (refused : checkApiKey call.apiKey app.settings.apiKey = .error refusal) (h : Host) :
    (app.answer call).run h = .ok (detailAnswer refusal.status refusal.message) h := by
  unfold answer
  rw [show route _ _ = _ from routed]
  unfold Call.received at read
  unfold Call.apiKey at refused
  cases e with
  | healthz => exact absurd rfl guarded
  | _ => simp only [read, refused]; rfl

end App

/-- The key gate in front of every endpoint but the health check. Unless a key is configured and
the request carries exactly that key, the answer leaves the host as it was: the service never
runs. A body that does not read as JSON is answered first; once the body is read, the request is
refused because no key is configured (503), else because it carries none (401), else because its
key differs, as UTF-8 bytes, from the configured one (401). -/
theorem key_gate_guards_service (app : App) (call : Call) (e : Endpoint) (scope : String) (h : Host)
    (routed : call.routed = .found e scope) (guarded : e ≠ .healthz) :
    ((blankKey app.settings.apiKey = true ∨ call.apiKey ≠ app.settings.apiKey) →
        ∃ r, (app.answer call).run h = .ok r h) ∧
      (∀ r, call.received e = .error r → (app.answer call).run h = .ok r h) ∧
      ∀ received, call.received e = .ok received →
        (blankKey app.settings.apiKey = true →
          checkApiKey call.apiKey app.settings.apiKey = .error .notConfigured ∧
            (app.answer call).run h = .ok (detailAnswer 503 "API Key is not configured on server") h) ∧
        (blankKey app.settings.apiKey = false → blankKey call.apiKey = true →
          checkApiKey call.apiKey app.settings.apiKey = .error .missing ∧
            (app.answer call).run h = .ok (detailAnswer 401 "API Key is missing") h) ∧
        (blankKey app.settings.apiKey = false → blankKey call.apiKey = false →
          call.apiKey.map String.toUTF8 ≠ app.settings.apiKey.map String.toUTF8 →
          checkApiKey call.apiKey app.settings.apiKey = .error .invalid ∧
            (app.answer call).run h = .ok (detailAnswer 401 "Invalid API Key") h) := by
  refine ⟨fun refused => ?_, fun r unread => app.answer_unread routed guarded unread h, fun received read => ?_⟩
  · -- a refused key answers whatever the body: the body's own refusal, or the key's
    cases read : call.received e with
    | error r => exact ⟨r, app.answer_unread routed guarded read h⟩
    | ok received =>
      obtain ⟨refusal, checked⟩ := checkApiKey_refused refused
      exact ⟨_, app.answer_refused routed guarded read checked h⟩
  · refine ⟨fun blank => ?_, fun configured blank => ?_, fun configured sent differs => ?_⟩
    · have checked : checkApiKey call.apiKey app.settings.apiKey = .error .notConfigured :=
        checkApiKey_unconfigured blank
      exact ⟨checked, app.answer_refused routed guarded read checked h⟩
    · have checked := checkApiKey_missing configured blank
      exact ⟨checked, app.answer_refused routed guarded read checked h⟩
    · have checked := checkApiKey_invalid configured sent differs
      exact ⟨checked, app.answer_refused routed guarded read checked h⟩

/-- The path of the comment endpoint, written plainly, routes there whatever the request carries. -/
theorem routed_comment (headers : List (String × String)) (body : RequestBody) :
    ({ target := "/issues/comment", headers, body } : Call).routed = .found .comment "" := by
  -- the library's split cannot be evaluated, so the two splits of the path are computed first
  have noScheme : "/issues/comment".splitOn "://" = ["/issues/comment"] :=
    Remote.splitOn_of_within (by decide) 40 (by decide +kernel)
  have segments : "/issues/comment".splitOn "/" = ["", "issues", "comment"] :=
    Remote.splitOn_of_within (by decide) 40 (by decide +kernel)
  have plain : beforeAny ['?', '#'] "/issues/comment" = "/issues/comment" := by decide +kernel
  have target : targetPath "/issues/comment" = "/issues/comment" := by
    simp only [targetPath, plain, noScheme]
    decide +kernel
  have resolved : removeDotSegments "/issues/comment" = "/issues/comment" := by
    simp only [removeDotSegments, segments]
    decide +kernel
  simp only [Call.routed, requestPath, target, resolved]
  decide +kernel

/-- An interface that expects the key `k`. -/
def keyedApp : App := { settings := { apiKey := some "k" }, service := { scopes := [], connections := [] } }

/-- A comment sent without a key to an interface that expects one is refused as missing its key,
and nothing changes. -/
theorem comment_without_key_is_missing :
    ({ target := "/issues/comment" } : Call).routed = .found .comment "" ∧ Endpoint.comment ≠ .healthz ∧
      (keyedApp.answer { target := "/issues/comment" }).run {} = .ok (detailAnswer 401 "API Key is missing") {} := by
  have routed := routed_comment [] .none
  have guarded : Endpoint.comment ≠ .healthz := by decide
  obtain ⟨-, -, ordered⟩ := key_gate_guards_service keyedApp _ .comment "" {} routed guarded
  exact ⟨routed, guarded, ((ordered .absent rfl).2.1 rfl rfl).2⟩

/-- An interface with no key configured. -/
def keylessApp : App := { settings := {}, service := { scopes := [], connections := [] } }

/-- A comment whose body is no JSON text, sent to an interface with no key configured, is refused
for its body (422) and not for the missing key (503). -/
theorem unreadable_body_refused_before_key :
    keylessApp.settings.apiKey = none ∧
      ∃ r, (keylessApp.answer { target := "/issues/comment", body := .raw "\x7b" }).run {} = .ok r {} ∧
        r.status = 422 := by
  have routed := routed_comment [] (.raw "\x7b")
  have unread : ∃ r, ({ target := "/issues/comment", body := .raw "\x7b" } : Call).received .comment = .error r ∧
      r.status = 422 := by
    -- the status of the refusal, none when the body reads; the recursor keeps the kernel's evaluation
    -- free of a matcher of its own
    have refused : Except.casesOn (motive := fun _ => Option Nat)
        (({ target := "/issues/comment", body := .raw "\x7b" } : Call).received .comment)
        (fun r => some r.status) (fun _ => none) = some 422 := by decide +kernel
    cases read : ({ target := "/issues/comment", body := .raw "\x7b" } : Call).received .comment with
    | error r => exact ⟨r, rfl, by simpa [read] using refused⟩
    | ok _ => simp [read] at refused
  obtain ⟨r, read, status⟩ := unread
  exact ⟨rfl, r, keylessApp.answer_unread routed (by decide) read {}, status⟩

end IssueSync.Api
