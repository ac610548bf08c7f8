import IssueSync.Proofs.Serializable

/-!
# Coroutines that write once, without a lock

A coroutine that never takes a lock still leaves the owned part as if it ran alone when, at most
once, one of its steps answers and changes the owned part from the owned part alone, and every
other step keeps the owned part and, before that write, answers from the shared view (`Atomic`).
However the event loop interleaves such coroutines, once all have returned the owned part is the
one that running them one after the other leaves, in the order in which their writes ran
(`interleaving_linearizes`). The history of the writes is the history of a lock taken and given
back within one step.
-/

set_option autoImplicit false

namespace IssueSync

open IssueSync.Remote

section Discipline

variable {P Q : Type} (π : Host → P) (σ : Host → Q) (σ0 : Q)

/-- Steps that keep the owned part and answer from the shared view, then at most one step that
answers and changes the owned part from the owned part, then steps that keep it. -/
inductive Atomic {α : Type} : Co α → Prop
  | free {c : Co α} (unwritten : Free π σ σ0 c) : Atomic c
  | step {β : Type} {m : Run β} {k : Except Failure β → Co α} (reads : Respects (SameView σ σ0) m)
      (keeps : Keeps π σ σ0 m) (rest : ∀ h, σ h = σ0 → Atomic (k (resultOutcome (m.run h)))) :
      Atomic (.step m k)
  | write {β : Type} {m : Run β} {k : Except Failure β → Co α} (reads : Respects (SameState π σ σ0) m)
      (rest : ∀ h, σ h = σ0 → Free π σ σ0 (k (resultOutcome (m.run h)))) : Atomic (.step m k)

end Discipline

section Building

variable {P Q : Type} {π : Host → P} {σ : Host → Q} {σ0 : Q} {α β : Type}

theorem Atomic.step_inv {m : Run β} {k : Except Failure β → Co α} (atomic : Atomic π σ σ0 (.step m k)) :
    Free π σ σ0 (.step m k) ∨
      (Respects (SameView σ σ0) m ∧ Keeps π σ σ0 m ∧ ∀ h, σ h = σ0 → Atomic π σ σ0 (k (resultOutcome (m.run h)))) ∨
      (Respects (SameState π σ σ0) m ∧ ∀ h, σ h = σ0 → Free π σ σ0 (k (resultOutcome (m.run h)))) := by
  cases atomic with
  | free unwritten => exact .inl unwritten
  | step reads keeps rest => exact .inr (.inl ⟨reads, keeps, rest⟩)
  | write reads rest => exact .inr (.inr ⟨reads, rest⟩)

theorem Atomic.not_acquire {s : String} {next : Co α} (atomic : Atomic π σ σ0 (.acquire s next)) : False := by
  cases atomic with
  | free unwritten => exact unwritten.not_acquire

theorem Atomic.not_release {s : String} {next : Co α} (atomic : Atomic π σ σ0 (.release s next)) : False := by
  cases atomic with
  | free unwritten => exact unwritten.not_release

theorem Atomic.andThen {c : Co α} {f : Except Failure α → Co β} (atomic : Atomic π σ σ0 c)
    (rest : ∀ r, Free π σ σ0 (f r)) : Atomic π σ σ0 (c.andThen f) := by
  induction atomic with
  | free unwritten => exact .free (unwritten.andThen rest)
  | step reads keeps _ ih => exact .step reads keeps ih
  | write reads after => exact .write reads fun h view => (after h view).andThen rest

theorem Atomic.bind {c : Co α} {f : α → Co β} (atomic : Atomic π σ σ0 c) (rest : ∀ a, Free π σ σ0 (f a)) :
    Atomic π σ σ0 (c >>= f) := by
  refine atomic.andThen fun r => ?_
  cases r with
  | ok a => exact rest a
  | error e => exact .done _

/-- A step before the write, on to what follows from each answer it may give from the shared
view `σ0`. -/
theorem Atomic.lift_bind {m : Run α} {f : α → Co β} (reads : Respects (SameView σ σ0) m)
    (keeps : Keeps π σ σ0 m) (rest : ∀ h, σ h = σ0 → ∀ a, resultOutcome (m.run h) = .ok a → Atomic π σ σ0 (f a)) :
    Atomic π σ σ0 (Co.lift m >>= f) := by
  refine .step reads keeps fun h view => ?_
  cases answered : resultOutcome (m.run h) with
  | ok a => exact rest h view a answered
  | error e => exact .free (.done _)

/-- The write, then steps that keep the owned part. -/
theorem Atomic.write_bind {m : Run α} {f : α → Co β} (reads : Respects (SameState π σ σ0) m)
    (rest : ∀ a, Free π σ σ0 (f a)) : Atomic π σ σ0 (Co.lift m >>= f) := by
  refine .write reads fun h _ => ?_
  cases resultOutcome (m.run h) with
  | ok a => exact rest a
  | error e => exact .done _

end Building

/-! ## The history of the writes -/

/-- The history after coroutine `i` wrote, leaving the owned part `here`: it found the owned part
the last writer left. -/
def Ghost.write {P : Type} (g : Ghost P) (i : Nat) (here : P) : Ghost P :=
  (g.take i).release i here

section Tracking

variable {P Q : Type} (π : Host → P) (σ : Host → Q) (σ0 : Q)

/-- Where coroutine `i`, started as `c0` with the server `sc0`, stands as `t`: past its write,
settled alone on the owned part it left; or before it, or on a path without one, having changed
nothing of the owned part. -/
def Stage (g : Ghost P) (i : Nat) (c0 : Co Unit) (sc0 : Script) (t : Thread) : Prop :=
  if i ∈ g.released then Free π σ σ0 t.prog ∧ PassesOn π σ σ0 c0 sc0 (g.pins i) (g.pouts i)
  else (Atomic π σ σ0 t.prog ∧ ∀ p, Leads π σ σ0 c0 sc0 t.prog t.script p p) ∨
    (Free π σ σ0 t.prog ∧ ∀ p, PassesOn π σ σ0 c0 sc0 p p)

/-- The event loop as the history of writes `g` sees it: each coroutine stands where its stage
says, the shared view is unchanged, and the shared host has the owned part the last writer left. -/
structure Linear (p0 : P) (programs : List (Co Unit × Script)) (g : Ghost P) (w : World) : Prop where
  sound : g.Sound p0 programs.length
  unheld : g.holder = none
  length : w.threads.length = programs.length
  view : σ w.host = σ0
  stage : ∀ i t c0 sc0, w.threads[i]? = some t → programs[i]? = some (c0, sc0) → Stage π σ σ0 g i c0 sc0 t
  owned : π w.host = g.pend

variable {π σ σ0} {p0 : P} {programs : List (Co Unit × Script)} {g : Ghost P} {w w' : World}
  {i : Nat} {t t' : Thread}

theorem Linear.program (linear : Linear π σ σ0 p0 programs g w) (found : w.threads[i]? = some t) :
    ∃ c0 sc0, programs[i]? = some (c0, sc0) := by
  have inside : i < programs.length := linear.length ▸ (List.getElem?_eq_some_iff.mp found).1
  exact ⟨programs[i].1, programs[i].2, List.getElem?_eq_getElem inside⟩

theorem Linear.thread (linear : Linear π σ σ0 p0 programs g w) (inside : i < programs.length) :
    ∃ t c0 sc0, w.threads[i]? = some t ∧ programs[i]? = some (c0, sc0) := by
  have insideThreads : i < w.threads.length := linear.length ▸ inside
  exact ⟨w.threads[i], programs[i].1, programs[i].2, List.getElem?_eq_getElem insideThreads,
    List.getElem?_eq_getElem inside⟩

/-- Replacing one coroutine by one that kept the owned part of the shared host. -/
theorem Linear.set_kept (linear : Linear π σ σ0 p0 programs g w) (found : w.threads[i]? = some t)
    (threads : w'.threads = w.threads.set i t') (kept : π w'.host = π w.host) (view : σ w'.host = σ0)
    (stageI : ∀ c0 sc0, programs[i]? = some (c0, sc0) → Stage π σ σ0 g i c0 sc0 t') :
    Linear π σ σ0 p0 programs g w' where
  sound := linear.sound
  unheld := linear.unheld
  length := by rw [threads, List.length_set, linear.length]
  view := view
  stage := by
    intro j u c0 sc0 atJ program
    rw [threads] at atJ
    rcases World.getElem?_set_cases found atJ with ⟨rfl, rfl⟩ | ⟨-, old⟩
    · exact stageI c0 sc0 program
    · exact linear.stage j u c0 sc0 old program
  owned := kept.trans linear.owned

/-- The write of coroutine `i` is the next one in the history; the others stand where they stood. -/
theorem Linear.wrote (linear : Linear π σ σ0 p0 programs g w) (found : w.threads[i]? = some t)
    (threads : w'.threads = w.threads.set i t') (view : σ w'.host = σ0) (fresh : i ∉ g.released)
    (stageI : ∀ c0 sc0, programs[i]? = some (c0, sc0) → Free π σ σ0 t'.prog ∧
      PassesOn π σ σ0 c0 sc0 g.pend (π w'.host)) :
    Linear π σ σ0 p0 programs (g.write i (π w'.host)) w' := by
  have inside : i < programs.length := linear.length ▸ (List.getElem?_eq_some_iff.mp found).1
  have pinI : (g.write i (π w'.host)).pins i = g.pend := Function.update_self _ _ _
  have poutI : (g.write i (π w'.host)).pouts i = π w'.host := Function.update_self _ _ _
  have pins : ∀ j, j ≠ i → (g.write i (π w'.host)).pins j = g.pins j := fun j other => Function.update_of_ne other _ _
  have pouts : ∀ j, j ≠ i → (g.write i (π w'.host)).pouts j = g.pouts j :=
    fun j other => Function.update_of_ne other _ _
  have member : ∀ j, j ∈ (g.write i (π w'.host)).released ↔ j ∈ g.released ∨ j = i := by
    simp [Ghost.write, Ghost.release, Ghost.take]
  refine {
    sound := ?_
    unheld := rfl
    length := by rw [threads, List.length_set, linear.length]
    view := view
    stage := ?_
    owned := rfl }
  · -- the history grows by the write, chained on from the owned part the last writer left
    have kept : Chained (g.write i (π w'.host)).pins (g.write i (π w'.host)).pouts p0 g.released g.pend :=
      linear.sound.chain.congr fun j old =>
        ⟨pins j fun same => fresh (same ▸ old), pouts j fun same => fresh (same ▸ old)⟩
    exact {
      distinct := List.nodup_append.mpr ⟨linear.sound.distinct, List.nodup_singleton i,
        fun a old b single same => fresh (by rw [List.mem_singleton.mp single] at same; exact same ▸ old)⟩
      releasedIn := by
        intro j written
        rcases List.mem_append.mp written with old | single
        · exact linear.sound.releasedIn j old
        · rw [List.mem_singleton.mp single]
          exact inside
      holderIn := fun j none => by cases none
      chain := by simpa only [Ghost.write, Ghost.release, Ghost.take, Function.update_self] using kept.snoc pinI
      taken := fun j none => by cases none }
  · intro j u c0 sc0 atJ program
    rw [threads] at atJ
    unfold Stage
    rcases World.getElem?_set_cases found atJ with ⟨rfl, rfl⟩ | ⟨other, old⟩
    · rw [if_pos ((member j).mpr (.inr rfl)), pinI, poutI]
      exact stageI c0 sc0 program
    · have stageJ := linear.stage j u c0 sc0 old program
      have outside : j ∈ (g.write i (π w'.host)).released ↔ j ∈ g.released := by
        simp only [member, other, or_false]
      unfold Stage at stageJ
      by_cases written : j ∈ g.released
      · rw [if_pos written] at stageJ
        rw [if_pos (outside.mpr written), pins j other, pouts j other]
        exact stageJ
      · rw [if_neg written] at stageJ
        rw [if_neg (mt outside.mp written)]
        exact stageJ

/-- A coroutine's step: its write moves the owned part of the shared host as it moves its own
alone; any other step keeps it. -/
theorem Linear.ran (unscripted : Unscripted π σ) (linear : Linear π σ σ0 p0 programs g w)
    {β : Type} {m : Run β} {k : Except Failure β → Co Unit} (found : w.threads[i]? = some t)
    (next : t.prog = .step m k) : ∃ g', Linear π σ σ0 p0 programs g' (w.ran i t m k) := by
  have view : σ (w.hostFor t) = σ0 := (unscripted.shared _ _).trans linear.view
  have owned : π (w.hostFor t) = π w.host := unscripted.owned _ _
  have owned' : π (w.ran i t m k).host = π (resultHost (m.run (w.hostFor t))) := unscripted.owned _ _
  have shared' : σ (w.ran i t m k).host = σ (resultHost (m.run (w.hostFor t))) := unscripted.shared _ _
  -- a step that keeps the owned part leaves the history as it was
  have keeping : Keeps π σ σ0 m → π (w.ran i t m k).host = π w.host ∧ σ (w.ran i t m k).host = σ0 :=
    fun keeps => ⟨owned'.trans ((keeps _ view).1.trans owned), shared'.trans (keeps _ view).2⟩
  obtain ⟨c0, sc0, program⟩ := linear.program found
  have stage := linear.stage i t c0 sc0 found program
  have same : ∀ {c0' sc0'}, programs[i]? = some (c0', sc0') → c0' = c0 ∧ sc0' = sc0 := by
    intro c0' sc0' program'
    rw [program] at program'
    cases program'
    exact ⟨rfl, rfl⟩
  -- a step on a path without a write: the coroutine alone stays settled
  have unwritten : Free π σ σ0 (.step m k) → (i ∈ g.released → PassesOn π σ σ0 c0 sc0 (g.pins i) (g.pouts i)) →
      (i ∉ g.released → ∀ p, PassesOn π σ σ0 c0 sc0 p p) → Linear π σ σ0 p0 programs g (w.ran i t m k) := by
    intro free settled alone
    obtain ⟨keeps, rest⟩ := free.step_inv
    obtain ⟨kept, shared⟩ := keeping keeps
    refine linear.set_kept found (w.ran_threads i t m k) kept shared fun c0' sc0' program' => ?_
    obtain ⟨rfl, rfl⟩ := same program'
    unfold Stage
    by_cases written : i ∈ g.released
    · rw [if_pos written]
      exact ⟨rest _ view, settled written⟩
    · rw [if_neg written]
      exact .inr ⟨rest _ view, alone written⟩
  unfold Stage at stage
  rw [next] at stage
  by_cases written : i ∈ g.released
  · rw [if_pos written] at stage
    exact ⟨g, unwritten stage.1 (fun _ => stage.2) fun outside => absurd written outside⟩
  rw [if_neg written] at stage
  rcases stage with ⟨atomic, lead⟩ | ⟨free, alone⟩
  swap
  · exact ⟨g, unwritten free (fun inside => absurd inside written) fun _ => alone⟩
  rcases atomic.step_inv with free | ⟨reads, keeps, rest⟩ | ⟨reads, rest⟩
  · exact ⟨g, unwritten free (fun inside => absurd inside written) fun _ p => (lead p).passesOn free⟩
  · -- before the write: the step answers from the shared view
    obtain ⟨kept, shared⟩ := keeping keeps
    refine ⟨g, linear.set_kept found (w.ran_threads i t m k) kept shared fun c0' sc0' program' => ?_⟩
    obtain ⟨rfl, rfl⟩ := same program'
    unfold Stage
    rw [if_neg written]
    exact .inl ⟨rest _ view, Leads.waiting_step view lead reads keeps⟩
  · -- the write: the coroutine alone writes from the owned part the last writer left
    have shared : σ (w.ran i t m k).host = σ0 :=
      shared'.trans (reads (w.hostFor t) (w.hostFor t) ⟨rfl, view, view, rfl⟩).2.2.1
    have lead' := lead (π (w.hostFor t))
    refine ⟨_, linear.wrote found (w.ran_threads i t m k) shared written fun c0' sc0' program' => ?_⟩
    obtain ⟨rfl, rfl⟩ := same program'
    rw [← linear.owned, ← owned, owned']
    exact ⟨rest _ view, (lead'.holding_step view reads).passesOn (rest _ view)⟩

/-- Every move of the event loop keeps some history of the writes: no coroutine asks for a lock. -/
theorem Linear.step (unscripted : Unscripted π σ) (linear : Linear π σ σ0 p0 programs g w)
    (move : World.Step w w') : ∃ g', Linear π σ σ0 p0 programs g' w' := by
  -- a coroutine at a lock would stand where no stage puts it
  have unlocked : ∀ {i : Nat} {t : Thread} {c : Co Unit}, w.threads[i]? = some t → t.prog = c →
      (Free π σ σ0 c → False) → (Atomic π σ σ0 c → False) → False := by
    intro i t c found prog notFree notAtomic
    obtain ⟨c0, sc0, program⟩ := linear.program found
    have stage := linear.stage i t c0 sc0 found program
    unfold Stage at stage
    rw [prog] at stage
    split_ifs at stage
    · exact notFree stage.1
    · rcases stage with ⟨atomic, -⟩ | ⟨free, -⟩
      · exact notAtomic atomic
      · exact notFree free
  cases move with
  | run i t m k found next => exact linear.ran unscripted found next
  | lookup i t s next found waiting _ =>
    exact (unlocked found waiting (fun free => free.not_acquire) fun atomic => atomic.not_acquire).elim
  | take i t s next n found waiting _ _ =>
    exact (unlocked found waiting (fun free => free.not_acquire) fun atomic => atomic.not_acquire).elim
  | release i t s next found leaving _ =>
    exact (unlocked found leaving (fun free => free.not_release) fun atomic => atomic.not_release).elim
  | collect s n entry unreferenced =>
    exact ⟨g, linear.sound, linear.unheld, linear.length, linear.view, linear.stage, linear.owned⟩

theorem Linear.reaches (unscripted : Unscripted π σ) (linear : Linear π σ σ0 p0 programs g w)
    (reach : World.Reaches w w') : ∃ g', Linear π σ σ0 p0 programs g' w' := by
  induction reach with
  | refl => exact ⟨g, linear⟩
  | tail _ move ih =>
    obtain ⟨g', linear'⟩ := ih
    exact linear'.step unscripted move

theorem linear_start (unscripted : Unscripted π σ) {h : Host} (view : σ h = σ0)
    (atomic : ∀ p ∈ programs, Atomic π σ σ0 p.1) :
    Linear π σ σ0 (π h) programs (Ghost.initial (π h)) (World.start h programs) where
  sound := {
    distinct := List.nodup_nil
    releasedIn := fun _ none => by cases none
    holderIn := fun _ none => by cases none
    chain := rfl
    taken := fun _ none => by cases none }
  unheld := rfl
  length := List.length_map _
  view := view
  stage := by
    intro i t c0 sc0 found program
    simp only [World.start, List.getElem?_map, program, Option.map_some, Option.some.injEq] at found
    subst found
    have outside : i ∉ (Ghost.initial (π h)).released := List.not_mem_nil
    unfold Stage
    rw [if_neg outside]
    exact .inl ⟨atomic _ (List.mem_of_getElem? program), Leads.start unscripted c0 sc0⟩
  owned := rfl

/-- Coroutines that write once without a lock linearize: however the event loop interleaves them,
once all have returned the owned part of the host is the one that running them one after the
other leaves, first those that wrote, in the order of their writes, then the others. -/
theorem interleaving_linearizes (unscripted : Unscripted π σ) {h : Host} (view : σ h = σ0)
    (atomic : ∀ p ∈ programs, Atomic π σ σ0 p.1) {w : World}
    (reach : World.Reaches (World.start h programs) w) (finished : w.Finished) :
    ∃ order, order.Perm programs ∧ π (serial order h) = π w.host := by
  obtain ⟨g, linear⟩ := (linear_start unscripted view atomic).reaches unscripted reach
  -- run alone, each coroutine leaves what the history says it left
  have leaves : ∀ i, i < programs.length → ∃ c0 sc0, programs[i]? = some (c0, sc0) ∧
      (i ∈ g.released → PassesOn π σ σ0 c0 sc0 (g.pins i) (g.pouts i)) ∧
      (i ∉ g.released → ∀ p, PassesOn π σ σ0 c0 sc0 p p) := by
    intro i inside
    obtain ⟨t, c0, sc0, found, program⟩ := linear.thread inside
    obtain ⟨r, done⟩ := finished t (List.mem_of_getElem? found)
    have stage := linear.stage i t c0 sc0 found program
    unfold Stage at stage
    refine ⟨c0, sc0, program, fun written => ?_, fun outside => ?_⟩
    · rw [if_pos written] at stage
      exact stage.2
    · rw [if_neg outside, done] at stage
      rcases stage with ⟨-, lead⟩ | ⟨-, alone⟩
      · exact fun p => (lead p).passesOn (.done r)
      · exact alone
  obtain ⟨order, perm, owned⟩ := serializes_of_history linear.sound.distinct linear.sound.releasedIn
    linear.sound.chain leaves view
  exact ⟨order, perm, owned.trans linear.owned.symm⟩

end Tracking

end IssueSync
