import Mathlib.Logic.Relation
import Mathlib.Data.List.Nodup
import IssueSync.Proofs.Coroutine

/-!
# Coroutines sharing a host, and the locks of scopes

The event loop runs several coroutines on one host. At each move it picks one: that coroutine
runs to its next await point, or asks the registry for the lock of a scope, or takes that lock
once no one holds it, or gives it back. Each coroutine's requests are answered by a server of its
own, so what a coroutine is told does not depend on when the others ask.

The registry of locks holds its locks weakly: a lock lives as long as some coroutine holds it or
waits for it, and may be dropped at any move after that; a coroutine asking for the lock of a
scope that has none gets a new one. The registry still hands every coroutine that asks for the
lock of a scope the lock that the others holding or waiting for that scope have, so at most one
coroutine at a time holds the lock of a scope (`Registered.exclusive`).
-/

set_option autoImplicit false

namespace IssueSync

open IssueSync.Remote

/-- A coroutine of the event loop: what it has left to do, the server that answers it, and the
lock it was handed (the scope and the lock's number), with whether it holds it. -/
structure Thread where
  prog : Co Unit
  script : Script
  lock : Option (String × Nat) := none
  holds : Bool := false

/-- The event loop: the shared host, the coroutines, the registry of scope locks, and the number
the next new lock gets. -/
structure World where
  host : Host
  threads : List Thread
  registry : List (String × Nat) := []
  fresh : Nat := 0

namespace World

/-- The host a coroutine's step runs on: the shared one, answered by the coroutine's server. -/
def hostFor (w : World) (t : Thread) : Host := { w.host with script := t.script }

/-- The world after coroutine `i`, that is `t`, ran `m` and goes on as `k`. -/
def ran (w : World) (i : Nat) (t : Thread) {β : Type} (m : Run β) (k : Except Failure β → Co Unit) : World :=
  let r := m.run (w.hostFor t)
  { w with
    host := { resultHost r with script := w.host.script }
    threads := w.threads.set i { t with prog := k (resultOutcome r), script := (resultHost r).script } }

/-- The world after coroutine `i`, that is `t`, asked for the lock of `scope`: the registry's
lock of the scope, or a new one the registry now holds. -/
def lookedUp (w : World) (i : Nat) (t : Thread) (scope : String) : World :=
  match w.registry.lookup scope with
  | some n => { w with threads := w.threads.set i { t with lock := some (scope, n) } }
  | none =>
    { w with
      threads := w.threads.set i { t with lock := some (scope, w.fresh) }
      registry := (scope, w.fresh) :: w.registry
      fresh := w.fresh + 1 }

theorem ran_host (w : World) (i : Nat) (t : Thread) {β : Type} (m : Run β) (k : Except Failure β → Co Unit) :
    (w.ran i t m k).host = { resultHost (m.run (w.hostFor t)) with script := w.host.script } := rfl

theorem ran_threads (w : World) (i : Nat) (t : Thread) {β : Type} (m : Run β) (k : Except Failure β → Co Unit) :
    (w.ran i t m k).threads = w.threads.set i
      { t with prog := k (resultOutcome (m.run (w.hostFor t))), script := (resultHost (m.run (w.hostFor t))).script } :=
  rfl

theorem lookedUp_host (w : World) (i : Nat) (t : Thread) (scope : String) : (w.lookedUp i t scope).host = w.host := by
  unfold lookedUp
  split <;> rfl

theorem lookedUp_threads (w : World) (i : Nat) (t : Thread) (scope : String) :
    ∃ n, (w.lookedUp i t scope).threads = w.threads.set i { t with lock := some (scope, n) } := by
  unfold lookedUp
  split
  · exact ⟨_, rfl⟩
  · exact ⟨_, rfl⟩

/-- One move of the event loop. -/
inductive Step : World → World → Prop
  | run (w : World) (i : Nat) (t : Thread) {β : Type} (m : Run β) (k : Except Failure β → Co Unit)
      (found : w.threads[i]? = some t) (next : t.prog = .step m k) : Step w (w.ran i t m k)
  | lookup (w : World) (i : Nat) (t : Thread) (scope : String) (next : Co Unit)
      (found : w.threads[i]? = some t) (waiting : t.prog = .acquire scope next) (unlocked : t.lock = none) :
      Step w (w.lookedUp i t scope)
  | take (w : World) (i : Nat) (t : Thread) (scope : String) (next : Co Unit) (n : Nat)
      (found : w.threads[i]? = some t) (waiting : t.prog = .acquire scope next)
      (handed : t.lock = some (scope, n)) (free : ∀ u ∈ w.threads, u.holds = true → ∀ s, u.lock ≠ some (s, n)) :
      Step w { w with threads := w.threads.set i { t with prog := next, holds := true } }
  | release (w : World) (i : Nat) (t : Thread) (scope : String) (next : Co Unit)
      (found : w.threads[i]? = some t) (leaving : t.prog = .release scope next) (held : t.holds = true) :
      Step w { w with threads := w.threads.set i { t with prog := next, lock := none, holds := false } }
  | collect (w : World) (scope : String) (n : Nat) (entry : (scope, n) ∈ w.registry)
      (unreferenced : ∀ u ∈ w.threads, ∀ s, u.lock ≠ some (s, n)) :
      Step w { w with registry := w.registry.erase (scope, n) }

/-- The worlds the event loop reaches. -/
abbrev Reaches : World → World → Prop := Relation.ReflTransGen Step

/-- Every coroutine has returned or failed. -/
def Finished (w : World) : Prop := ∀ t ∈ w.threads, ∃ r, t.prog = .done r

/-- Coroutines that have not asked for a lock yet, on a host with an empty registry. -/
def start (h : Host) (programs : List (Co Unit × Script)) : World where
  host := h
  threads := programs.map fun (prog, script) => { prog, script }

/-- Every lock a coroutine was handed is one the registry has. -/
def HandedFrom (threads : List Thread) (registry : List (String × Nat)) : Prop :=
  ∀ t ∈ threads, ∀ scope n, t.lock = some (scope, n) → (scope, n) ∈ registry

/-- No two coroutines hold the same lock. -/
def SingleHolder (threads : List Thread) : Prop :=
  ∀ (i j : Nat) (ti tj : Thread) (s s' : String) (n : Nat), threads[i]? = some ti → threads[j]? = some tj →
    ti.holds = true → tj.holds = true → ti.lock = some (s, n) → tj.lock = some (s', n) → i = j

/-- What the registry keeps true: a coroutine was handed a lock the registry has, the registry
has one lock per scope, all numbered below `fresh`, a coroutine holds only a lock it was handed,
and no two coroutines hold the same lock. -/
structure Registered (w : World) : Prop where
  handed : HandedFrom w.threads w.registry
  oneEach : (w.registry.map Prod.fst).Nodup
  below : ∀ p ∈ w.registry, p.2 < w.fresh
  holdsHanded : ∀ t ∈ w.threads, t.holds = true → t.lock.isSome
  single : SingleHolder w.threads

theorem getElem?_set_cases {l : List Thread} {i j : Nat} {t t' u : Thread} (found : l[i]? = some t)
    (at_j : (l.set i t')[j]? = some u) : (j = i ∧ u = t') ∨ (j ≠ i ∧ l[j]? = some u) := by
  have inside : i < l.length := (List.getElem?_eq_some_iff.mp found).1
  rw [List.getElem?_set] at at_j
  by_cases same : i = j
  · subst same
    simp only [if_true, inside] at at_j
    exact .inl ⟨rfl, (Option.some.inj at_j).symm⟩
  · rw [if_neg same] at at_j
    exact .inr ⟨Ne.symm same, at_j⟩

section Replace

variable {l : List Thread} {i : Nat} {t t' : Thread}

theorem HandedFrom.set {registry : List (String × Nat)} (handed : HandedFrom l registry)
    (new : ∀ scope n, t'.lock = some (scope, n) → (scope, n) ∈ registry) : HandedFrom (l.set i t') registry := by
  intro u member scope n handedU
  rcases List.mem_or_eq_of_mem_set member with old | rfl
  · exact handed u old scope n handedU
  · exact new scope n handedU

theorem holdsHanded_set (holdsHanded : ∀ u ∈ l, u.holds = true → u.lock.isSome)
    (new : t'.holds = true → t'.lock.isSome) : ∀ u ∈ l.set i t', u.holds = true → u.lock.isSome := by
  intro u member held
  rcases List.mem_or_eq_of_mem_set member with old | rfl
  · exact holdsHanded u old held
  · exact new held

/-- A coroutine that holds nothing cannot be one of two holders of a lock. -/
theorem SingleHolder.set_idle (single : SingleHolder l) (found : l[i]? = some t) (idle : t'.holds = false) :
    SingleHolder (l.set i t') := by
  intro a b ta tb s s' n atA atB heldA heldB lockA lockB
  rcases getElem?_set_cases found atA with ⟨-, rfl⟩ | ⟨-, oldA⟩
  · rw [idle] at heldA
    cases heldA
  rcases getElem?_set_cases found atB with ⟨-, rfl⟩ | ⟨-, oldB⟩
  · rw [idle] at heldB
    cases heldB
  exact single a b ta tb s s' n oldA oldB heldA heldB lockA lockB

theorem SingleHolder.set_same (single : SingleHolder l) (found : l[i]? = some t) (sameLock : t'.lock = t.lock)
    (sameHolds : t'.holds = t.holds) : SingleHolder (l.set i t') := by
  -- the coroutine at the replaced place reads back as `t`, handed and holding the same
  have back : ∀ {j : Nat} {u : Thread}, (l.set i t')[j]? = some u →
      ∃ v : Thread, l[j]? = some v ∧ v.holds = u.holds ∧ v.lock = u.lock := by
    intro j u atJ
    rcases getElem?_set_cases found atJ with ⟨rfl, rfl⟩ | ⟨-, old⟩
    · exact ⟨t, found, sameHolds.symm, sameLock.symm⟩
    · exact ⟨u, old, rfl, rfl⟩
  intro a b ta tb s s' n atA atB heldA heldB lockA lockB
  obtain ⟨va, oldA, holdsA, lockA'⟩ := back atA
  obtain ⟨vb, oldB, holdsB, lockB'⟩ := back atB
  exact single a b va vb s s' n oldA oldB (holdsA ▸ heldA) (holdsB ▸ heldB) (lockA' ▸ lockA) (lockB' ▸ lockB)

/-- A coroutine that takes a lock no one holds is its only holder. -/
theorem SingleHolder.set_take (single : SingleHolder l) (found : l[i]? = some t) {scope : String} {n : Nat}
    (taken : t'.lock = some (scope, n)) (free : ∀ u ∈ l, u.holds = true → ∀ s, u.lock ≠ some (s, n)) :
    SingleHolder (l.set i t') := by
  intro a b ta tb s s' m atA atB heldA heldB lockA lockB
  rcases getElem?_set_cases found atA with ⟨rfl, rfl⟩ | ⟨otherA, oldA⟩ <;>
    rcases getElem?_set_cases found atB with ⟨rfl, rfl⟩ | ⟨otherB, oldB⟩
  · rfl
  · -- the other holder held the taken lock already
    obtain ⟨-, same⟩ := Prod.mk.inj (Option.some.inj (taken.symm.trans lockA))
    exact absurd (same ▸ lockB) (free tb (List.mem_of_getElem? oldB) heldB s')
  · obtain ⟨-, same⟩ := Prod.mk.inj (Option.some.inj (taken.symm.trans lockB))
    exact absurd (same ▸ lockA) (free ta (List.mem_of_getElem? oldA) heldA s)
  · exact single a b ta tb s s' m oldA oldB heldA heldB lockA lockB

end Replace

theorem HandedFrom.mono {l : List Thread} {registry registry' : List (String × Nat)}
    (handed : HandedFrom l registry) (grown : ∀ p ∈ registry, p ∈ registry') : HandedFrom l registry' :=
  fun u member scope n handedU => grown _ (handed u member scope n handedU)

/-- A coroutine that was handed no lock holds none. -/
theorem Registered.idle {w : World} (reg : w.Registered) {i : Nat} {t : Thread} (found : w.threads[i]? = some t)
    (unlocked : t.lock = none) : t.holds = false := by
  cases held : t.holds with
  | false => rfl
  | true =>
    have handed := reg.holdsHanded t (List.mem_of_getElem? found) held
    rw [unlocked] at handed
    cases handed

theorem Registered.lookedUp {w : World} (reg : w.Registered) {i : Nat} {t : Thread} (found : w.threads[i]? = some t)
    (unlocked : t.lock = none) (scope : String) : (w.lookedUp i t scope).Registered := by
  have idle := reg.idle found unlocked
  unfold World.lookedUp
  cases known : w.registry.lookup scope with
  | some n =>
    -- the registry's lock of the scope
    have member : (scope, n) ∈ w.registry := by
      obtain ⟨before, after, split, -⟩ := List.lookup_eq_some_iff.mp known
      rw [split]
      exact List.mem_append_right _ List.mem_cons_self
    exact {
      handed := reg.handed.set fun s m got => by
        cases got
        exact member
      oneEach := reg.oneEach
      below := reg.below
      holdsHanded := holdsHanded_set reg.holdsHanded fun _ => rfl
      single := reg.single.set_idle found idle }
  | none =>
    -- a new lock, numbered past every lock the registry has
    have absent : scope ∉ w.registry.map Prod.fst := by
      intro named
      obtain ⟨p, member, rfl⟩ := List.mem_map.mp named
      have differs := List.lookup_eq_none_iff.mp known p member
      simp at differs
    exact {
      handed := (reg.handed.mono fun p member => List.mem_cons_of_mem _ member).set fun s m got => by
        cases got
        exact List.mem_cons_self
      oneEach := List.nodup_cons.mpr ⟨absent, reg.oneEach⟩
      below := by
        intro p member
        rcases List.mem_cons.mp member with rfl | old
        · exact Nat.lt_succ_self _
        · exact Nat.lt_succ_of_lt (reg.below p old)
      holdsHanded := holdsHanded_set reg.holdsHanded fun _ => rfl
      single := reg.single.set_idle found idle }

/-- Every move keeps what the registry keeps true. -/
theorem Registered.step {w w' : World} (reg : w.Registered) (move : Step w w') : w'.Registered := by
  cases move with
  | run i t m k found next =>
    have member := List.mem_of_getElem? found
    exact {
      handed := reg.handed.set (reg.handed t member)
      oneEach := reg.oneEach
      below := reg.below
      holdsHanded := holdsHanded_set reg.holdsHanded (reg.holdsHanded t member)
      single := reg.single.set_same found rfl rfl }
  | lookup i t scope next found waiting unlocked => exact reg.lookedUp found unlocked scope
  | take i t scope next n found waiting handed free =>
    have member := List.mem_of_getElem? found
    exact {
      handed := reg.handed.set (reg.handed t member)
      oneEach := reg.oneEach
      below := reg.below
      holdsHanded := holdsHanded_set reg.holdsHanded fun _ => by simp [handed]
      single := reg.single.set_take found handed free }
  | release i t scope next found leaving held =>
    exact {
      handed := reg.handed.set fun s m got => by cases got
      oneEach := reg.oneEach
      below := reg.below
      holdsHanded := holdsHanded_set reg.holdsHanded fun dropped => by cases dropped
      single := reg.single.set_idle found rfl }
  | collect scope n entry unreferenced =>
    exact {
      handed := by
        intro u member s m handedU
        -- the dropped lock is referenced by no one, so `u`'s lock is another
        have other : (s, m) ≠ (scope, n) := by
          intro same
          cases same
          exact unreferenced u member _ handedU
        exact (List.mem_erase_of_ne other).mpr (reg.handed u member s m handedU)
      oneEach := reg.oneEach.sublist (List.erase_sublist.map Prod.fst)
      below := fun p member => reg.below p (List.erase_sublist.subset member)
      holdsHanded := reg.holdsHanded
      single := reg.single }

theorem Registered.reaches {w w' : World} (reg : w.Registered) (reach : Reaches w w') : w'.Registered := by
  induction reach with
  | refl => exact reg
  | tail _ move ih => exact ih.step move

theorem start_registered (h : Host) (programs : List (Co Unit × Script)) : (start h programs).Registered where
  handed := by
    intro t member scope n handedT
    obtain ⟨⟨prog, script⟩, -, rfl⟩ := List.mem_map.mp member
    cases handedT
  oneEach := List.nodup_nil
  below := fun p member => by cases member
  holdsHanded := by
    intro t member held
    obtain ⟨⟨prog, script⟩, -, rfl⟩ := List.mem_map.mp member
    cases held
  single := by
    intro i j ti tj s s' n atI atJ heldI heldJ lockI lockJ
    obtain ⟨⟨prog, script⟩, -, rfl⟩ := List.mem_map.mp (List.mem_of_getElem? atI)
    cases heldI

/-- The weak registry hands the same lock to every coroutine that asks for a scope while another
holds or waits for its lock. -/
theorem Registered.same_lock {w : World} (reg : w.Registered) {ti tj : Thread} {scope : String} {ni nj : Nat}
    (memberI : ti ∈ w.threads) (memberJ : tj ∈ w.threads) (lockI : ti.lock = some (scope, ni))
    (lockJ : tj.lock = some (scope, nj)) : ni = nj := by
  have inI := reg.handed ti memberI scope ni lockI
  have inJ := reg.handed tj memberJ scope nj lockJ
  -- one lock per scope in the registry, so both were handed the same one
  have same : (scope, ni) = (scope, nj) := List.inj_on_of_nodup_map reg.oneEach inI inJ rfl
  cases same
  rfl

/-- At most one coroutine at a time holds the lock of a scope. -/
theorem Registered.exclusive {w : World} (reg : w.Registered) {i j : Nat} {ti tj : Thread} {scope : String}
    {ni nj : Nat} (atI : w.threads[i]? = some ti) (atJ : w.threads[j]? = some tj) (heldI : ti.holds = true)
    (heldJ : tj.holds = true) (lockI : ti.lock = some (scope, ni)) (lockJ : tj.lock = some (scope, nj)) : i = j := by
  have same := reg.same_lock (List.mem_of_getElem? atI) (List.mem_of_getElem? atJ) lockI lockJ
  subst same
  exact reg.single i j ti tj scope scope ni atI atJ heldI heldJ lockI lockJ

end World

end IssueSync
