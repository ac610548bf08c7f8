import Mathlib.Data.List.Perm.Basic
import IssueSync.Proofs.Scheduler
import IssueSync.Proofs.Discipline

/-!
# Coroutines that take one lock serialize

Every interleaving of coroutines that keep to the lock of a scope (`Pre`) leaves the part of the
host that the lock owns as running them one after the other does, each answered by its own
server, in the order in which they took the lock (`interleaving_serializes`).

The proof keeps, for each coroutine, what running it alone from a host with the same shared view
reaches: while it waits, the same point with the owned part untouched; while it holds the lock,
the same point with the owned part the shared host has; once it gave the lock back, a point from
which the owned part stays as it left it. The owned part of the shared host is at each moment the
one the coroutines that took the lock so far left, chained in the order they took it.
-/

set_option autoImplicit false

namespace IssueSync

open IssueSync.Remote

/-- A coroutine run alone reaches a point. -/
abbrev Co.Reach {α : Type} : Co α × Host → Co α × Host → Prop := Relation.ReflTransGen Co.Moves

theorem Co.Reach.run_eq {α : Type} {a b : Co α × Host} (reach : Co.Reach a b) : a.1.run.run a.2 = b.1.run.run b.2 := by
  induction reach with
  | refl => rfl
  | tail _ move ih => exact ih.trans move.run_eq

/-- Runs programs one after the other, each answered by its own server. -/
def serial : List (Co Unit × Script) → Host → Host
  | [], h => h
  | (c, sc) :: rest, h => serial rest (resultHost (c.run.run { h with script := sc }))

/-! ## What a coroutine reaches alone -/

section Solo

variable {P Q : Type} (π : Host → P) (σ : Host → Q) (σ0 : Q)

/-- Run alone from any host with the shared view and the owned part `pin`, the coroutine started
as `c0` with the server `sc0` reaches `c`, with the server `sc` and the owned part `pout`. -/
def Leads (c0 : Co Unit) (sc0 : Script) (c : Co Unit) (sc : Script) (pin pout : P) : Prop :=
  ∀ H, σ H = σ0 → π H = pin → ∃ H', Co.Reach (c0, { H with script := sc0 }) (c, H') ∧
    H'.script = sc ∧ π H' = pout ∧ σ H' = σ0

/-- Run alone from any host with the shared view and the owned part `pin`, the coroutine started
as `c0` with the server `sc0` reaches a point from which it never takes the lock, with the owned
part `pout`. -/
def PassesOn (c0 : Co Unit) (sc0 : Script) (pin pout : P) : Prop :=
  ∀ H, σ H = σ0 → π H = pin → ∃ c H', Co.Reach (c0, { H with script := sc0 }) (c, H') ∧
    Free π σ σ0 c ∧ π H' = pout ∧ σ H' = σ0

/-- The owned part and the shared view do not see which server answers. -/
structure Unscripted : Prop where
  owned : ∀ (h : Host) (sc : Script), π { h with script := sc } = π h
  shared : ∀ (h : Host) (sc : Script), σ { h with script := sc } = σ h

variable {π σ σ0} {c0 c c' : Co Unit} {sc0 sc : Script} {pin pout : P}

theorem Leads.start (unscripted : Unscripted π σ) (c0 : Co Unit) (sc0 : Script) (p : P) :
    Leads π σ σ0 c0 sc0 c0 sc0 p p := by
  intro H view owned
  exact ⟨{ H with script := sc0 }, .refl, rfl, (unscripted.owned H sc0).trans owned,
    (unscripted.shared H sc0).trans view⟩

/-- Taking or giving back a lock moves the coroutine alone just as well. -/
theorem Leads.moves (lead : Leads π σ σ0 c0 sc0 c sc pin pout) (move : ∀ H, Co.Moves (c, H) (c', H)) :
    Leads π σ σ0 c0 sc0 c' sc pin pout := by
  intro H view owned
  obtain ⟨H', reach, script, owned', view'⟩ := lead H view owned
  exact ⟨H', reach.tail (move H'), script, owned', view'⟩

theorem Leads.passesOn (lead : Leads π σ σ0 c0 sc0 c sc pin pout) (free : Free π σ σ0 c) :
    PassesOn π σ σ0 c0 sc0 pin pout := by
  intro H view owned
  obtain ⟨H', reach, -, owned', view'⟩ := lead H view owned
  exact ⟨c, H', reach, free, owned', view'⟩

/-- Holding the lock, the coroutine alone takes the step it takes on the shared host: the owned
part it reached is the shared host's, and the step reads nothing else. -/
theorem Leads.holding_step {β : Type} {m : Run β} {k : Except Failure β → Co Unit} {H : Host}
    (lead : Leads π σ σ0 c0 sc0 (.step m k) H.script pin (π H)) (view : σ H = σ0)
    (reads : Respects (SameState π σ σ0) m) :
    Leads π σ σ0 c0 sc0 (k (resultOutcome (m.run H))) (resultHost (m.run H)).script pin
      (π (resultHost (m.run H))) := by
  intro H0 view0 owned0
  obtain ⟨H1, reach, script1, owned1, view1⟩ := lead H0 view0 owned0
  obtain ⟨answered, owned', view', -, script'⟩ := reads H1 H ⟨owned1, view1, view, script1⟩
  refine ⟨resultHost (m.run H1), reach.tail ?_, script', owned', view'⟩
  rw [← answered]
  exact Co.Moves.step m k H1

/-- Waiting for the lock, the coroutine alone takes the step it takes on the shared host: the
step reads only the shared view, and keeps the owned part. -/
theorem Leads.waiting_step {β : Type} {m : Run β} {k : Except Failure β → Co Unit} {H : Host}
    (view : σ H = σ0) (lead : ∀ p, Leads π σ σ0 c0 sc0 (.step m k) H.script p p)
    (reads : Respects (SameView σ σ0) m) (keeps : Keeps π σ σ0 m) (p : P) :
    Leads π σ σ0 c0 sc0 (k (resultOutcome (m.run H))) (resultHost (m.run H)).script p p := by
  intro H0 view0 owned0
  obtain ⟨H1, reach, script1, owned1, view1⟩ := lead p H0 view0 owned0
  obtain ⟨answered, -, -, script'⟩ := reads H1 H ⟨view1, view, script1⟩
  obtain ⟨owned', view'⟩ := keeps H1 view1
  refine ⟨resultHost (m.run H1), reach.tail ?_, script', owned'.trans owned1, view'⟩
  rw [← answered]
  exact Co.Moves.step m k H1

/-- Run alone to its end, the coroutine leaves the owned part `pout`. -/
theorem PassesOn.run (leaves : PassesOn π σ σ0 c0 sc0 pin pout) {H : Host} (view : σ H = σ0) (owned : π H = pin) :
    π (resultHost (c0.run.run { H with script := sc0 })) = pout ∧
      σ (resultHost (c0.run.run { H with script := sc0 })) = σ0 := by
  obtain ⟨c, H', reach, free, owned', view'⟩ := leaves H view owned
  rw [reach.run_eq]
  obtain ⟨kept, shared⟩ := free.run_keeps view'
  exact ⟨kept.trans owned', shared⟩

end Solo

/-! ## The lock's history -/

/-- What taking the lock has left so far: the coroutine holding it, those that gave it back in the
order they took it, the owned part each found and left, and the owned part the last one left. -/
structure Ghost (P : Type) where
  holder : Option Nat
  released : List Nat
  pins : Nat → P
  pouts : Nat → P
  pend : P

/-- The owned part passes from each coroutine that took the lock to the next: each found it as
the one before it left it, from `p` on to `q`. -/
def Chained {P : Type} (pins pouts : Nat → P) : P → List Nat → P → Prop
  | p, [], q => p = q
  | p, i :: rest, q => pins i = p ∧ Chained pins pouts (pouts i) rest q

section Chain

variable {P : Type} {pins pouts pins' pouts' : Nat → P} {p q : P}

theorem Chained.congr {l : List Nat} (chain : Chained pins pouts p l q)
    (same : ∀ i ∈ l, pins' i = pins i ∧ pouts' i = pouts i) : Chained pins' pouts' p l q := by
  induction l generalizing p with
  | nil => exact chain
  | cons i rest ih =>
    obtain ⟨found, chain⟩ := chain
    obtain ⟨samePin, sameOut⟩ := same i List.mem_cons_self
    refine ⟨samePin.trans found, ?_⟩
    rw [sameOut]
    exact ih chain fun j member => same j (List.mem_cons_of_mem i member)

theorem Chained.snoc {l : List Nat} {i : Nat} (chain : Chained pins pouts p l q) (found : pins i = q) :
    Chained pins pouts p (l ++ [i]) (pouts i) := by
  induction l generalizing p with
  | nil => exact ⟨found.trans chain.symm, rfl⟩
  | cons j rest ih => exact ⟨chain.1, ih chain.2⟩

theorem Chained.const (p : P) (l : List Nat) : Chained (fun _ => p) (fun _ => p) p l p := by
  induction l with
  | nil => rfl
  | cons i rest ih => exact ⟨rfl, ih⟩

end Chain

theorem serial_append (first rest : List (Co Unit × Script)) (h : Host) :
    serial (first ++ rest) h = serial rest (serial first h) := by
  induction first generalizing h with
  | nil => rfl
  | cons head first ih => exact ih _

theorem filterMap_getElem?_range {α : Type _} (l : List α) : (List.range l.length).filterMap (l[·]?) = l := by
  induction l with
  | nil => rfl
  | cons x l ih =>
    rw [List.length_cons, List.range_succ_eq_map, List.filterMap_cons, List.filterMap_map]
    simpa using ih

/-- Programs run one after the other, each leaving the owned part the next one starts from,
leave the last one's. -/
theorem serial_chained {P Q : Type} {π : Host → P} {σ : Host → Q} {σ0 : Q}
    {programs : List (Co Unit × Script)} {pins pouts : Nat → P} {l : List Nat} {p q : P}
    (chain : Chained pins pouts p l q)
    (leaves : ∀ i ∈ l, ∃ c0 sc0, programs[i]? = some (c0, sc0) ∧ PassesOn π σ σ0 c0 sc0 (pins i) (pouts i))
    {H : Host} (view : σ H = σ0) (owned : π H = p) :
    π (serial (l.filterMap (programs[·]?)) H) = q ∧ σ (serial (l.filterMap (programs[·]?)) H) = σ0 := by
  induction l generalizing p H with
  | nil => exact ⟨owned.trans chain, view⟩
  | cons i rest ih =>
    obtain ⟨c0, sc0, program, first⟩ := leaves i List.mem_cons_self
    obtain ⟨found, chain⟩ := chain
    obtain ⟨owned', view'⟩ := first.run view (owned.trans found.symm)
    simp only [List.filterMap_cons, program, serial]
    exact ih chain (fun j member => leaves j (List.mem_cons_of_mem i member)) view' owned'

/-- A history in which the owned part passes from `π h` through the coroutines in `released`, in
that order, and which each other coroutine leaves as it finds it, is the one of running them one
after the other: first those in `released`, then the others. -/
theorem serializes_of_history {P Q : Type} {π : Host → P} {σ : Host → Q} {σ0 : Q}
    {programs : List (Co Unit × Script)} {released : List Nat} {pins pouts : Nat → P} {pend : P} {h : Host}
    (distinct : released.Nodup) (releasedIn : ∀ i ∈ released, i < programs.length)
    (chain : Chained pins pouts (π h) released pend)
    (leaves : ∀ i, i < programs.length → ∃ c0 sc0, programs[i]? = some (c0, sc0) ∧
      (i ∈ released → PassesOn π σ σ0 c0 sc0 (pins i) (pouts i)) ∧
      (i ∉ released → ∀ p, PassesOn π σ σ0 c0 sc0 p p))
    (view : σ h = σ0) :
    ∃ order, order.Perm programs ∧ π (serial order h) = pend := by
  let rest := (List.range programs.length).filter (· ∉ released)
  refine ⟨(released ++ rest).filterMap (programs[·]?), ?_, ?_⟩
  · -- those in the history and the rest are all the coroutines, each once
    have chosen : ((List.range programs.length).filter (· ∈ released)).Perm released := by
      apply (List.perm_ext_iff_of_nodup (List.nodup_range.filter _) distinct).mpr
      intro i
      simp only [List.mem_filter, List.mem_range, decide_eq_true_eq]
      exact ⟨fun chosen => chosen.2, fun member => ⟨releasedIn i member, member⟩⟩
    have indices : (released ++ rest).Perm (List.range programs.length) := by
      refine (chosen.symm.append_right _).trans ?_
      simpa [rest] using List.filter_append_perm (· ∈ released) (List.range programs.length)
    have perm := indices.filterMap (programs[·]?)
    rwa [filterMap_getElem?_range] at perm
  · rw [List.filterMap_append, serial_append]
    obtain ⟨owned, shared⟩ := serial_chained chain (fun i member => by
      obtain ⟨c0, sc0, program, taken, -⟩ := leaves i (releasedIn i member)
      exact ⟨c0, sc0, program, taken member⟩) view rfl
    obtain ⟨owned', -⟩ := serial_chained (Chained.const pend rest) (fun i member => by
      obtain ⟨inside, outside⟩ : i < programs.length ∧ i ∉ released := by
        simpa [rest] using member
      obtain ⟨c0, sc0, program, -, never⟩ := leaves i inside
      exact ⟨c0, sc0, program, never outside pend⟩) shared owned
    exact owned'

section Tracking

variable {P Q : Type} (π : Host → P) (σ : Host → Q) (σ0 : Q) (scope : String)

/-- Where coroutine `i`, started as `c0` with the server `sc0`, stands as `t`: holding the lock,
having reached alone from the owned part it found the shared host's, `here`; having given it
back, settled alone on the owned part it left; or before taking it, or on a path that never takes
it, having changed nothing of the owned part. -/
def Phase (g : Ghost P) (here : P) (i : Nat) (c0 : Co Unit) (sc0 : Script) (t : Thread) : Prop :=
  if g.holder = some i then
    t.holds = true ∧ (∃ n, t.lock = some (scope, n)) ∧ Body π σ σ0 scope t.prog ∧
      Leads π σ σ0 c0 sc0 t.prog t.script (g.pins i) here
  else if i ∈ g.released then
    t.holds = false ∧ Free π σ σ0 t.prog ∧ PassesOn π σ σ0 c0 sc0 (g.pins i) (g.pouts i)
  else
    t.holds = false ∧ ((Pre π σ σ0 scope t.prog ∧ ∀ p, Leads π σ σ0 c0 sc0 t.prog t.script p p) ∨
      (Free π σ σ0 t.prog ∧ ∀ p, PassesOn π σ σ0 c0 sc0 p p))

/-- The history is one of `n` coroutines, the owned part passed on from `p0` in it. -/
structure Ghost.Sound (p0 : P) (n : Nat) (g : Ghost P) : Prop where
  distinct : g.released.Nodup
  releasedIn : ∀ i ∈ g.released, i < n
  holderIn : ∀ i, g.holder = some i → i < n ∧ i ∉ g.released
  chain : Chained g.pins g.pouts p0 g.released g.pend
  taken : ∀ i, g.holder = some i → g.pins i = g.pend

/-- The event loop as the history `g` sees it: each coroutine stands where its phase says, the
shared view is unchanged, and with no holder the shared host has the owned part the last holder
left. -/
structure Tracked (p0 : P) (programs : List (Co Unit × Script)) (g : Ghost P) (w : World) : Prop where
  sound : g.Sound p0 programs.length
  length : w.threads.length = programs.length
  view : σ w.host = σ0
  phase : ∀ i t c0 sc0, w.threads[i]? = some t → programs[i]? = some (c0, sc0) →
    Phase π σ σ0 scope g (π w.host) i c0 sc0 t
  idle : g.holder = none → π w.host = g.pend

variable {π σ σ0 scope} {p0 : P} {programs : List (Co Unit × Script)} {g g' : Ghost P} {w w' : World}
  {i : Nat} {t t' : Thread}

/-- Only the holder's phase reads the shared host's owned part. -/
theorem Phase.here {here here' : P} {c0 : Co Unit} {sc0 : Script} (other : g.holder ≠ some i)
    (phase : Phase π σ σ0 scope g here i c0 sc0 t) : Phase π σ σ0 scope g here' i c0 sc0 t := by
  unfold Phase at phase ⊢
  rw [if_neg other] at phase ⊢
  exact phase

/-- A coroutine that does not hold the lock stands where it stood while it goes on the same way. -/
theorem Phase.relock {here : P} {c0 : Co Unit} {sc0 : Script} (phase : Phase π σ σ0 scope g here i c0 sc0 t)
    (other : g.holder ≠ some i) (prog : t'.prog = t.prog) (script : t'.script = t.script)
    (holds : t'.holds = t.holds) : Phase π σ σ0 scope g here i c0 sc0 t' := by
  unfold Phase at phase ⊢
  rw [if_neg other] at phase ⊢
  rw [prog, script, holds]
  exact phase

theorem Tracked.thread (tracked : Tracked π σ σ0 scope p0 programs g w) (inside : i < programs.length) :
    ∃ t c0 sc0, w.threads[i]? = some t ∧ programs[i]? = some (c0, sc0) := by
  have insideThreads : i < w.threads.length := tracked.length ▸ inside
  exact ⟨w.threads[i], programs[i].1, programs[i].2, List.getElem?_eq_getElem insideThreads,
    List.getElem?_eq_getElem inside⟩

theorem Tracked.program (tracked : Tracked π σ σ0 scope p0 programs g w) (found : w.threads[i]? = some t) :
    ∃ c0 sc0, programs[i]? = some (c0, sc0) := by
  have inside : i < programs.length := tracked.length ▸ (List.getElem?_eq_some_iff.mp found).1
  exact ⟨programs[i].1, programs[i].2, List.getElem?_eq_getElem inside⟩

/-- Replacing one coroutine: the others' phases carry over, and the new one's is given. -/
theorem Tracked.set (tracked : Tracked π σ σ0 scope p0 programs g w) (found : w.threads[i]? = some t)
    (threads : w'.threads = w.threads.set i t') (view : σ w'.host = σ0) (sound : g'.Sound p0 programs.length)
    (phaseI : ∀ c0 sc0, programs[i]? = some (c0, sc0) → Phase π σ σ0 scope g' (π w'.host) i c0 sc0 t')
    (others : ∀ j u c0 sc0, j ≠ i → Phase π σ σ0 scope g (π w.host) j c0 sc0 u →
      Phase π σ σ0 scope g' (π w'.host) j c0 sc0 u)
    (idle : g'.holder = none → π w'.host = g'.pend) : Tracked π σ σ0 scope p0 programs g' w' where
  sound := sound
  length := by rw [threads, List.length_set, tracked.length]
  view := view
  phase := by
    intro j u c0 sc0 atJ program
    rw [threads] at atJ
    rcases World.getElem?_set_cases found atJ with ⟨rfl, rfl⟩ | ⟨other, old⟩
    · exact phaseI c0 sc0 program
    · exact others j u c0 sc0 other (tracked.phase j u c0 sc0 old program)
  idle := idle

/-- Replacing one coroutine by one that kept the owned part of the shared host. -/
theorem Tracked.set_kept (tracked : Tracked π σ σ0 scope p0 programs g w) (found : w.threads[i]? = some t)
    (threads : w'.threads = w.threads.set i t') (kept : π w'.host = π w.host) (view : σ w'.host = σ0)
    (phaseI : ∀ c0 sc0, programs[i]? = some (c0, sc0) → Phase π σ σ0 scope g (π w.host) i c0 sc0 t') :
    Tracked π σ σ0 scope p0 programs g w' := by
  refine tracked.set found threads view tracked.sound ?_ ?_ ?_
  · intro c0 sc0 program
    rw [kept]
    exact phaseI c0 sc0 program
  · intro j u c0 sc0 _ phase
    rw [kept]
    exact phase
  · intro free
    exact kept.trans (tracked.idle free)

/-- A coroutine's step: the holder moves the owned part of the shared host as it moves its own
alone; any other keeps it. -/
theorem Tracked.ran (unscripted : Unscripted π σ) (tracked : Tracked π σ σ0 scope p0 programs g w)
    {β : Type} {m : Run β} {k : Except Failure β → Co Unit} (found : w.threads[i]? = some t)
    (next : t.prog = .step m k) : Tracked π σ σ0 scope p0 programs g (w.ran i t m k) := by
  have view : σ (w.hostFor t) = σ0 := (unscripted.shared _ _).trans tracked.view
  have owned : π (w.hostFor t) = π w.host := unscripted.owned _ _
  have owned' : π (w.ran i t m k).host = π (resultHost (m.run (w.hostFor t))) := unscripted.owned _ _
  have shared' : σ (w.ran i t m k).host = σ (resultHost (m.run (w.hostFor t))) := unscripted.shared _ _
  -- a step that keeps the owned part leaves every other phase as it was
  have keeping : Keeps π σ σ0 m → π (w.ran i t m k).host = π w.host ∧ σ (w.ran i t m k).host = σ0 :=
    fun keeps => ⟨owned'.trans ((keeps _ view).1.trans owned), shared'.trans (keeps _ view).2⟩
  obtain ⟨c0, sc0, program⟩ := tracked.program found
  have phase := tracked.phase i t c0 sc0 found program
  have same : ∀ {c0' sc0'}, programs[i]? = some (c0', sc0') → c0' = c0 ∧ sc0' = sc0 := by
    intro c0' sc0' program'
    rw [program] at program'
    cases program'
    exact ⟨rfl, rfl⟩
  unfold Phase at phase
  rw [next] at phase
  split_ifs at phase with holder released
  · -- the holder's step reads what it reads alone
    obtain ⟨held, lockShape, body, lead⟩ := phase
    obtain ⟨reads, rest⟩ := body.step_inv
    rw [← owned] at lead
    have shared : σ (w.ran i t m k).host = σ0 :=
      shared'.trans (reads (w.hostFor t) (w.hostFor t) ⟨rfl, view, view, rfl⟩).2.2.1
    refine tracked.set found (w.ran_threads i t m k) shared tracked.sound ?_ ?_ ?_
    · intro c0' sc0' program'
      obtain ⟨rfl, rfl⟩ := same program'
      unfold Phase
      rw [if_pos holder, owned']
      exact ⟨held, lockShape, rest _ view, lead.holding_step view reads⟩
    · intro j u c0' sc0' other phaseJ
      exact phaseJ.here fun holderJ => other (Option.some.inj (holder.symm.trans holderJ)).symm
    · intro free
      rw [holder] at free
      cases free
  · -- after the lock, nothing of the owned part changes
    obtain ⟨idle, free, leaves⟩ := phase
    obtain ⟨keeps, rest⟩ := free.step_inv
    obtain ⟨kept, shared⟩ := keeping keeps
    refine tracked.set_kept found (w.ran_threads i t m k) kept shared fun c0' sc0' program' => ?_
    obtain ⟨rfl, rfl⟩ := same program'
    unfold Phase
    rw [if_neg holder, if_pos released]
    exact ⟨idle, rest _ view, leaves⟩
  · obtain ⟨idle, waiting⟩ := phase
    -- a step before the lock either answers from the shared view or starts a path without it
    have split : (Respects (SameView σ σ0) m ∧ Keeps π σ σ0 m ∧
        (∀ h, σ h = σ0 → Pre π σ σ0 scope (k (resultOutcome (m.run h)))) ∧
        ∀ p, Leads π σ σ0 c0 sc0 (.step m k) t.script p p) ∨
        (Free π σ σ0 (.step m k) ∧ ∀ p, PassesOn π σ σ0 c0 sc0 p p) := by
      rcases waiting with ⟨pre, lead⟩ | unlocked
      · rcases pre.step_inv with free | ⟨reads, keeps, rest⟩
        · exact .inr ⟨free, fun p => (lead p).passesOn free⟩
        · exact .inl ⟨reads, keeps, rest, lead⟩
      · exact .inr unlocked
    rcases split with ⟨reads, keeps, rest, lead⟩ | ⟨free, leaves⟩
    · obtain ⟨kept, shared⟩ := keeping keeps
      refine tracked.set_kept found (w.ran_threads i t m k) kept shared fun c0' sc0' program' => ?_
      obtain ⟨rfl, rfl⟩ := same program'
      unfold Phase
      rw [if_neg holder, if_neg released]
      exact ⟨idle, .inl ⟨rest _ view, Leads.waiting_step view lead reads keeps⟩⟩
    · obtain ⟨keeps, rest⟩ := free.step_inv
      obtain ⟨kept, shared⟩ := keeping keeps
      refine tracked.set_kept found (w.ran_threads i t m k) kept shared fun c0' sc0' program' => ?_
      obtain ⟨rfl, rfl⟩ := same program'
      unfold Phase
      rw [if_neg holder, if_neg released]
      exact ⟨idle, .inr ⟨rest _ view, leaves⟩⟩

/-- Asking the registry for a lock changes no phase: only the holder was handed a lock already,
and the one asking was not. -/
theorem Tracked.lookedUp (tracked : Tracked π σ σ0 scope p0 programs g w) {s : String}
    (found : w.threads[i]? = some t) (unlocked : t.lock = none) :
    Tracked π σ σ0 scope p0 programs g (w.lookedUp i t s) := by
  obtain ⟨n, threads⟩ := w.lookedUp_threads i t s
  have host := w.lookedUp_host i t s
  refine tracked.set_kept found threads (by rw [host]) (by rw [host]; exact tracked.view) ?_
  intro c0 sc0 program
  have phase := tracked.phase i t c0 sc0 found program
  have notHolder : g.holder ≠ some i := by
    intro holder
    unfold Phase at phase
    rw [if_pos holder] at phase
    obtain ⟨-, ⟨n', handed⟩, -⟩ := phase
    rw [unlocked] at handed
    cases handed
  exact phase.relock notHolder rfl rfl rfl

/-- The history after coroutine `i` took the lock: it holds it, and finds the owned part the last
holder left. -/
def Ghost.take {P : Type} (g : Ghost P) (i : Nat) : Ghost P :=
  { g with holder := some i, pins := Function.update g.pins i g.pend }

/-- The history after the holder `i` gave the lock back, leaving the owned part `here`. -/
def Ghost.release {P : Type} (g : Ghost P) (i : Nat) (here : P) : Ghost P where
  holder := none
  released := g.released ++ [i]
  pins := g.pins
  pouts := Function.update g.pouts i here
  pend := here

/-- Taking the lock: no one holds it, since a holder would hold the very lock the registry handed
the taker, so the taker finds the owned part the last holder left. -/
theorem Tracked.take (tracked : Tracked π σ σ0 scope p0 programs g w) (reg : w.Registered) {s : String}
    {next : Co Unit} {n : Nat} (found : w.threads[i]? = some t) (waiting : t.prog = .acquire s next)
    (handed : t.lock = some (s, n)) (free : ∀ u ∈ w.threads, u.holds = true → ∀ s, u.lock ≠ some (s, n)) :
    Tracked π σ σ0 scope p0 programs (g.take i)
      { w with threads := w.threads.set i { t with prog := next, holds := true } } := by
  obtain ⟨c0, sc0, program⟩ := tracked.program found
  have phase := tracked.phase i t c0 sc0 found program
  unfold Phase at phase
  rw [waiting] at phase
  split_ifs at phase with holder released
  · exact absurd handed (free t (List.mem_of_getElem? found) phase.1 s)
  · exact phase.2.1.not_acquire.elim
  obtain ⟨-, ⟨pre, lead⟩ | ⟨unlocked, -⟩⟩ := phase
  swap
  · exact unlocked.not_acquire.elim
  obtain ⟨same, body⟩ := pre.acquire_inv
  subst s
  have noHolder : g.holder = none := by
    cases holderIs : g.holder with
    | none => rfl
    | some j =>
      exfalso
      obtain ⟨tj, c0j, sc0j, atJ, programJ⟩ := tracked.thread (tracked.sound.holderIn j holderIs).1
      have phaseJ := tracked.phase j tj c0j sc0j atJ programJ
      unfold Phase at phaseJ
      rw [if_pos holderIs] at phaseJ
      obtain ⟨heldJ, ⟨nj, lockJ⟩, -⟩ := phaseJ
      have sameLock := reg.same_lock (List.mem_of_getElem? found) (List.mem_of_getElem? atJ) handed lockJ
      subst sameLock
      exact free tj (List.mem_of_getElem? atJ) heldJ scope lockJ
  have pend := tracked.idle noHolder
  have others : ∀ j, j ≠ i → (g.take i).pins j = g.pins j := fun j other => Function.update_of_ne other _ _
  refine tracked.set found rfl tracked.view ?_ ?_ ?_ ?_
  · exact {
      distinct := tracked.sound.distinct
      releasedIn := tracked.sound.releasedIn
      holderIn := by
        intro j holderJ
        cases holderJ
        exact ⟨(tracked.length ▸ (List.getElem?_eq_some_iff.mp found).1), released⟩
      chain := tracked.sound.chain.congr fun j member =>
        ⟨others j fun same => released (same ▸ member), rfl⟩
      taken := by
        intro j holderJ
        cases holderJ
        exact Function.update_self _ _ _ }
  · intro c0' sc0' program'
    rw [program] at program'
    cases program'
    have taker : (g.take i).holder = some i := rfl
    have pinI : (g.take i).pins i = g.pend := Function.update_self _ _ _
    unfold Phase
    rw [if_pos taker, pinI, ← pend]
    exact ⟨rfl, ⟨n, handed⟩, body, (lead (π w.host)).moves fun H => .acquire scope next H⟩
  · intro j u c0' sc0' other phaseJ
    have notTaker : (g.take i).holder ≠ some j := fun same => other (Option.some.inj same).symm
    have notHolder : g.holder ≠ some j := by
      rw [noHolder]
      exact (Option.some_ne_none j).symm
    unfold Phase at phaseJ ⊢
    rw [if_neg notHolder] at phaseJ
    rw [if_neg notTaker, others j other]
    exact phaseJ
  · intro none
    cases none

/-- Giving the lock back: the holder settles on the owned part it leaves in the shared host. -/
theorem Tracked.release (tracked : Tracked π σ σ0 scope p0 programs g w) {s : String} {next : Co Unit}
    (found : w.threads[i]? = some t) (leaving : t.prog = .release s next) (held : t.holds = true) :
    Tracked π σ σ0 scope p0 programs (g.release i (π w.host))
      { w with threads := w.threads.set i { t with prog := next, lock := none, holds := false } } := by
  obtain ⟨c0, sc0, program⟩ := tracked.program found
  have phase := tracked.phase i t c0 sc0 found program
  unfold Phase at phase
  rw [leaving] at phase
  split_ifs at phase with holder released
  rotate_left
  · rw [held] at phase
    cases phase.1
  · rw [held] at phase
    cases phase.1
  obtain ⟨-, -, body, lead⟩ := phase
  have free := body.release_inv
  obtain ⟨inside, fresh⟩ := tracked.sound.holderIn i holder
  have others : ∀ j, j ≠ i → (g.release i (π w.host)).pouts j = g.pouts j :=
    fun j other => Function.update_of_ne other _ _
  have notHolder' : ∀ j, (g.release i (π w.host)).holder ≠ some j := fun j => (Option.some_ne_none j).symm
  refine tracked.set found rfl tracked.view ?_ ?_ ?_ ?_
  · have kept : Chained g.pins (g.release i (π w.host)).pouts p0 g.released g.pend :=
      tracked.sound.chain.congr fun j member => ⟨rfl, others j fun same => fresh (same ▸ member)⟩
    exact {
      distinct := List.nodup_append.mpr ⟨tracked.sound.distinct, List.nodup_singleton i,
        fun a member b single same => fresh (by rw [List.mem_singleton.mp single] at same; exact same ▸ member)⟩
      releasedIn := by
        intro j member
        rcases List.mem_append.mp member with old | single
        · exact tracked.sound.releasedIn j old
        · rw [List.mem_singleton.mp single]
          exact inside
      holderIn := fun j none => by cases none
      chain := by simpa only [Ghost.release, Function.update_self] using kept.snoc (tracked.sound.taken i holder)
      taken := fun j none => by cases none }
  · intro c0' sc0' program'
    rw [program] at program'
    cases program'
    have member : i ∈ (g.release i (π w.host)).released := List.mem_append_right _ (List.mem_singleton_self i)
    have poutI : (g.release i (π w.host)).pouts i = π w.host := Function.update_self _ _ _
    unfold Phase
    rw [if_neg (notHolder' i), if_pos member, poutI]
    exact ⟨rfl, free, (lead.moves fun H => .release s next H).passesOn free⟩
  · intro j u c0' sc0' other phaseJ
    have notHolder : g.holder ≠ some j := fun same => other (Option.some.inj (holder.symm.trans same)).symm
    have member : j ∈ (g.release i (π w.host)).released ↔ j ∈ g.released := by
      simp [Ghost.release, other]
    unfold Phase at phaseJ ⊢
    rw [if_neg notHolder] at phaseJ
    rw [if_neg (notHolder' j)]
    by_cases memberJ : j ∈ g.released
    · rw [if_pos memberJ] at phaseJ
      rw [if_pos (member.mpr memberJ), others j other]
      exact phaseJ
    · rw [if_neg memberJ] at phaseJ
      rw [if_neg (mt member.mp memberJ)]
      exact phaseJ
  · intro _
    rfl

/-- Every move of the event loop keeps some history of the lock. -/
theorem Tracked.step (unscripted : Unscripted π σ) (tracked : Tracked π σ σ0 scope p0 programs g w)
    (reg : w.Registered) (move : World.Step w w') : ∃ g', Tracked π σ σ0 scope p0 programs g' w' := by
  cases move with
  | run i t m k found next => exact ⟨g, tracked.ran unscripted found next⟩
  | lookup i t s next found waiting unlocked => exact ⟨g, tracked.lookedUp found unlocked⟩
  | take i t s next n found waiting handed free => exact ⟨g.take i, tracked.take reg found waiting handed free⟩
  | release i t s next found leaving held => exact ⟨g.release i (π w.host), tracked.release found leaving held⟩
  | collect s n entry unreferenced => exact ⟨g, tracked.sound, tracked.length, tracked.view, tracked.phase, tracked.idle⟩

theorem Tracked.reaches (unscripted : Unscripted π σ) (tracked : Tracked π σ σ0 scope p0 programs g w)
    (reg : w.Registered) (reach : World.Reaches w w') : ∃ g', Tracked π σ σ0 scope p0 programs g' w' := by
  induction reach with
  | refl => exact ⟨g, tracked⟩
  | tail steps move ih =>
    obtain ⟨g', tracked'⟩ := ih
    exact tracked'.step unscripted (reg.reaches steps) move

/-- No one took the lock yet. -/
def Ghost.initial (p0 : P) : Ghost P where
  holder := none
  released := []
  pins _ := p0
  pouts _ := p0
  pend := p0

theorem tracked_start (unscripted : Unscripted π σ) {h : Host} (view : σ h = σ0)
    (disciplined : ∀ p ∈ programs, Pre π σ σ0 scope p.1) :
    Tracked π σ σ0 scope (π h) programs (Ghost.initial (π h)) (World.start h programs) where
  sound := {
    distinct := List.nodup_nil
    releasedIn := fun _ none => by cases none
    holderIn := fun _ none => by cases none
    chain := rfl
    taken := fun _ none => by cases none }
  length := List.length_map _
  view := view
  phase := by
    intro i t c0 sc0 found program
    simp only [World.start, List.getElem?_map, program, Option.map_some, Option.some.injEq] at found
    subst found
    have notHolder : (Ghost.initial (π h)).holder ≠ some i := (Option.some_ne_none i).symm
    have outside : i ∉ (Ghost.initial (π h)).released := List.not_mem_nil
    unfold Phase
    rw [if_neg notHolder, if_neg outside]
    exact ⟨rfl, .inl ⟨disciplined _ (List.mem_of_getElem? program), Leads.start unscripted c0 sc0⟩⟩
  idle := fun _ => rfl

/-- Disciplined coroutines serialize: however the event loop interleaves them, once all have
returned the owned part of the host is the one that running them one after the other leaves,
first those that took the lock, in the order they took it, then the others. -/
theorem interleaving_serializes (unscripted : Unscripted π σ) {h : Host} (view : σ h = σ0)
    (disciplined : ∀ p ∈ programs, Pre π σ σ0 scope p.1) {w : World}
    (reach : World.Reaches (World.start h programs) w) (finished : w.Finished) :
    ∃ order, order.Perm programs ∧ π (serial order h) = π w.host := by
  obtain ⟨g, tracked⟩ :=
    (tracked_start unscripted view disciplined).reaches unscripted (World.start_registered h programs) reach
  -- every coroutine has returned, so none holds the lock
  have noHolder : g.holder = none := by
    cases holderIs : g.holder with
    | none => rfl
    | some i =>
      exfalso
      obtain ⟨t, c0, sc0, found, program⟩ := tracked.thread (tracked.sound.holderIn i holderIs).1
      obtain ⟨r, done⟩ := finished t (List.mem_of_getElem? found)
      have phase := tracked.phase i t c0 sc0 found program
      unfold Phase at phase
      rw [if_pos holderIs, done] at phase
      exact phase.2.2.1.not_done
  -- run alone, each coroutine leaves what the history says it left
  have leaves : ∀ i, i < programs.length → ∃ c0 sc0, programs[i]? = some (c0, sc0) ∧
      (i ∈ g.released → PassesOn π σ σ0 c0 sc0 (g.pins i) (g.pouts i)) ∧
      (i ∉ g.released → ∀ p, PassesOn π σ σ0 c0 sc0 p p) := by
    intro i inside
    obtain ⟨t, c0, sc0, found, program⟩ := tracked.thread inside
    obtain ⟨r, done⟩ := finished t (List.mem_of_getElem? found)
    have phase := tracked.phase i t c0 sc0 found program
    have notHolder : g.holder ≠ some i := by
      rw [noHolder]
      exact (Option.some_ne_none i).symm
    unfold Phase at phase
    rw [if_neg notHolder] at phase
    refine ⟨c0, sc0, program, fun member => ?_, fun outside => ?_⟩
    · rw [if_pos member] at phase
      exact phase.2.2
    · rw [if_neg outside, done] at phase
      rcases phase.2 with ⟨-, lead⟩ | ⟨-, alone⟩
      · exact fun p => (lead p).passesOn (.done r)
      · exact alone
  obtain ⟨order, perm, owned⟩ := serializes_of_history tracked.sound.distinct tracked.sound.releasedIn
    tracked.sound.chain leaves view
  exact ⟨order, perm, owned.trans (tracked.idle noHolder).symm⟩

end Tracking

end IssueSync
