import Mathlib.Data.Nat.Find
import Mathlib.Data.List.Nodup
import IssueSync.Config.Scope
/-!
# The chain of parents a binding is looked up on

A scope's effective binding is looked up on the chain of references that starts at the scope and
goes on from each scope to its parent. The chain stops at a reference that is null (past a missing
scope or a scope without parent) or that equals one met before. Until it stops, every reference but
the last names a configured scope it has not passed yet, so a chain has at most one more reference
than there are scopes, and the lookup, which may take that many steps, never runs out of them.

The lookup reads this chain and nothing else. The first reference on it that cannot be a key
(a sequence or a mapping given as a parent) makes it fail; the first that names a bound scope gives
that scope's binding; a chain with neither has no binding.
-/

set_option autoImplicit false

namespace IssueSync

/-- A value equal to a key is a key: sequences, sets and mappings equal only their own kind. -/
theorem Value.hashable_of_equal {a b : Value} (same : a.equal b = true) (key : a.hashable = true) :
    b.hashable = true := by
  cases b <;> simp only [Value.hashable] <;> cases a <;>
    simp_all [Value.hashable, Value.equal, Value.isNumber]

namespace Scopes

section Chain

variable (scopes : Scopes)

/-- The reference after `v` on a chain: the parent of the scope `v` names, and null after a
reference that names no scope. -/
def next (v : Value) : Value :=
  ((scopes.find? v).map Scope.parent).getD .null

/-- The `i`-th reference on the chain of parents from `v`. -/
def chainAt (v : Value) : Nat → Value
  | 0 => v
  | i + 1 => scopes.next (chainAt v i)

/-- The chain from `v` stops at its `i`-th reference: it is null, or equal to one met before. -/
def StopsAt (v : Value) (i : Nat) : Prop :=
  scopes.chainAt v i = .null ∨ ∃ j < i, (scopes.chainAt v j).equal (scopes.chainAt v i) = true

/-- The chain from `v` passes `k` references before it stops. -/
def EndsAt (v : Value) (k : Nat) : Prop :=
  scopes.StopsAt v k ∧ ∀ i < k, ¬ scopes.StopsAt v i

/-- What a list of references decides, the first that decides anything winning: a reference that
cannot be a key fails, one that names a bound scope gives its binding, and with neither there is
no binding. -/
def firstBinding (refs : List Value) : Except Failure (Option Binding) :=
  match refs.find? (fun t => !t.hashable || (scopes.binding? t).isSome) with
  | none => .ok none
  | some t => if t.hashable then .ok (scopes.binding? t) else .error (unhashable t)

end Chain

variable {scopes : Scopes}

theorem next_of_find? {v : Value} {sc : Scope} (found : scopes.find? v = some sc) :
    scopes.next v = sc.parent := by
  simp [next, found]

theorem next_of_find?_none {v : Value} (missing : scopes.find? v = none) : scopes.next v = .null := by
  simp [next, missing]

theorem key_of_find? {v : Value} {sc : Scope} (found : scopes.find? v = some sc) :
    ∃ s, v = .str s ∧ s ∈ scopes.map Prod.fst := by
  cases v with
  | str s =>
    obtain ⟨entry, member, rfl⟩ := Option.map_eq_some_iff.mp found
    have named : entry.1 = s := by simpa using List.find?_some member
    exact ⟨s, rfl, List.mem_map.mpr ⟨entry, List.mem_of_find?_eq_some member, named⟩⟩
  | _ => cases found

theorem named_of_next {v : Value} {i : Nat} (passes : scopes.chainAt v (i + 1) ≠ .null) :
    ∃ s, scopes.chainAt v i = .str s ∧ s ∈ scopes.map Prod.fst := by
  cases found : scopes.find? (scopes.chainAt v i) with
  | none => exact (passes (next_of_find?_none found)).elim
  | some sc => exact key_of_find? found

/-- A chain that has not stopped after `m` references has passed `m - 1` distinct configured
scopes, so `m` is at most one more than the number of scopes. -/
theorem length_before_stop {v : Value} {m : Nat} (running : ∀ i < m, ¬ scopes.StopsAt v i) :
    m ≤ scopes.length + 1 := by
  have named : ∀ i, i + 1 < m → ∃ s, scopes.chainAt v i = .str s ∧ s ∈ scopes.map Prod.fst :=
    fun i before => named_of_next fun null => running (i + 1) before (.inl null)
  -- a later reference equal to an earlier one would have stopped the chain
  have apart : ∀ a b, a < b → b < m - 1 → scopes.chainAt v a ≠ scopes.chainAt v b := by
    intro a b less bound same
    obtain ⟨s, text, -⟩ := named a (by omega)
    exact running b (by omega) (.inr ⟨a, less, by simp [← same, text, Value.equal]⟩)
  have distinct : ((List.range (m - 1)).map (scopes.chainAt v)).Nodup := by
    refine List.nodup_range.map_on fun a ha b hb same => ?_
    simp only [List.mem_range] at ha hb
    rcases Nat.lt_trichotomy a b with less | equal | more
    · exact absurd same (apart a b less hb)
    · exact equal
    · exact absurd same.symm (apart b a more ha)
  have within : (List.range (m - 1)).map (scopes.chainAt v) ⊆ (scopes.map Prod.fst).map .str := by
    intro w member
    obtain ⟨i, hi, rfl⟩ := List.mem_map.mp member
    obtain ⟨s, text, key⟩ := named i (by simp only [List.mem_range] at hi; omega)
    exact List.mem_map.mpr ⟨s, key, text.symm⟩
  have bound := distinct.length_le_of_subset within
  simp only [List.length_map, List.length_range] at bound
  omega

/-- The chain from every reference stops, within one more reference than there are scopes. -/
theorem exists_end (v : Value) : ∃ k ≤ scopes.length + 1, scopes.EndsAt v k := by
  classical
  have stops : ∃ i, scopes.StopsAt v i := by
    by_contra never
    have bound := length_before_stop (m := scopes.length + 2) fun i _ stop => never ⟨i, stop⟩
    omega
  exact ⟨Nat.find stops, length_before_stop fun _ => Nat.find_min stops,
    Nat.find_spec stops, fun _ => Nat.find_min stops⟩

theorem chase_null (fuel : Nat) (seen : List Value) : scopes.chase fuel seen .null = .ok none := by
  cases fuel <;> rfl

theorem chase_succ {fuel : Nat} {seen : List Value} {w : Value} (present : w ≠ .null) :
    scopes.chase (fuel + 1) seen w =
      if !w.hashable then .error (unhashable w)
      else if seen.any (·.equal w) then .ok none
      else match scopes.binding? w with
        | some b => .ok (some b)
        | none => match scopes.find? w with
          | some s => scopes.chase fuel (w :: seen) s.parent
          | none => .ok none := by
  cases w <;> first | exact absurd rfl present | rfl

theorem firstBinding_cons_unbound {t : Value} {rest : List Value} (key : t.hashable = true)
    (unbound : scopes.binding? t = none) : scopes.firstBinding (t :: rest) = scopes.firstBinding rest := by
  simp [firstBinding, key, unbound]

theorem seen_any_iff (v : Value) (i : Nat) :
    ((List.range i).map (scopes.chainAt v)).reverse.any (·.equal (scopes.chainAt v i)) = true ↔
      ∃ j < i, (scopes.chainAt v j).equal (scopes.chainAt v i) = true := by
  simp only [List.any_reverse, List.any_map, List.any_eq_true, List.mem_range, Function.comp_apply]

theorem chase_at_end {v : Value} {k : Nat} (ends : scopes.EndsAt v k) (fuel : Nat) :
    scopes.chase fuel ((List.range k).map (scopes.chainAt v)).reverse (scopes.chainAt v k) = .ok none := by
  cases fuel with
  | zero => rfl
  | succ fuel =>
    by_cases null : scopes.chainAt v k = .null
    · rw [null, chase_null]
    · obtain ⟨j, earlier, same⟩ := ends.1.resolve_left null
      -- the reference it repeats is a key, as the chain went on from it
      have key : (scopes.chainAt v j).hashable = true := by
        have passes : scopes.chainAt v (j + 1) ≠ .null := by
          rcases Nat.lt_or_eq_of_le (Nat.succ_le_of_lt earlier) with before | rfl
          · exact fun stop => ends.2 (j + 1) before (.inl stop)
          · exact null
        obtain ⟨s, text, -⟩ := named_of_next passes
        rw [text]
        rfl
      rw [chase_succ null]
      simp [Value.hashable_of_equal same key, (seen_any_iff v k).mpr ⟨j, earlier, same⟩]

/-- Started at the `i`-th reference of a chain with the earlier ones seen, and with fuel for the
rest of the chain, the lookup gives what the rest of the chain decides. -/
theorem chase_chain {v : Value} {k : Nat} (ends : scopes.EndsAt v k) (fuel i : Nat) (reached : i ≤ k)
    (enough : k ≤ i + fuel) :
    scopes.chase fuel ((List.range i).map (scopes.chainAt v)).reverse (scopes.chainAt v i) =
      scopes.firstBinding ((List.range' i (k - i)).map (scopes.chainAt v)) := by
  induction fuel generalizing i with
  | zero =>
    obtain rfl : i = k := by omega
    rw [chase_at_end ends]
    simp [firstBinding]
  | succ fuel ih =>
    rcases Nat.lt_or_eq_of_le reached with inside | rfl
    · -- the `i`-th reference is inside the chain: not null, and not met before
      have running := ends.2 i inside
      have present : scopes.chainAt v i ≠ .null := fun null => running (.inl null)
      have new : ((List.range i).map (scopes.chainAt v)).reverse.any (·.equal (scopes.chainAt v i)) =
          false := by
        rw [Bool.eq_false_iff, ne_eq, seen_any_iff]
        exact fun repeats => running (.inr repeats)
      have rest : List.range' i (k - i) = i :: List.range' (i + 1) (k - (i + 1)) := by
        rw [show k - i = k - (i + 1) + 1 by omega, List.range'_succ]
      rw [chase_succ present, rest, List.map_cons]
      cases key : (scopes.chainAt v i).hashable
      · simp [firstBinding, key]
      · cases bound : scopes.binding? (scopes.chainAt v i) with
        | some b => simp [firstBinding, key, new, bound]
        | none =>
          rw [firstBinding_cons_unbound key bound]
          cases found : scopes.find? (scopes.chainAt v i) with
          | none =>
            -- a reference that names no scope is the last of the chain
            have last : k = i + 1 := by
              by_contra later
              exact ends.2 (i + 1) (by omega) (.inl (next_of_find?_none found))
            subst last
            simp [firstBinding, new]
          | some sc =>
            have step := ih (i + 1) (by omega) (by omega)
            simp only [List.range_succ, List.map_append, List.reverse_append, List.map_cons,
              List.map_nil, List.reverse_singleton, List.singleton_append, chainAt,
              next_of_find? found] at step
            simp [new, step]
    · -- the chain stops at its `i`-th reference
      rw [chase_at_end ends]
      simp [firstBinding]

/-- The effective binding of any reference is what the chain of parents from it decides: the chain
stops within one more reference than there are scopes, and the first reference on it that cannot
be a key makes the lookup fail, the first that names a bound scope gives that binding, and with
neither there is no binding. -/
theorem effectiveBinding_follows_chain (scopes : Scopes) (v : Value) :
    ∃ k ≤ scopes.length + 1, scopes.EndsAt v k ∧
      scopes.effectiveBinding v = scopes.firstBinding ((List.range k).map (scopes.chainAt v)) := by
  have ended : ∃ k ≤ scopes.length + 1, scopes.EndsAt v k := exists_end v
  obtain ⟨k, bound, ends⟩ := ended
  refine ⟨k, bound, ends, ?_⟩
  have walk := chase_chain ends (scopes.length + 1) 0 (Nat.zero_le k) (by omega)
  simpa [effectiveBinding, chainAt, List.range_eq_range'] using walk

/-- A parent given as a list is no scope id, and the lookup fails on it instead of ending the
chain there. -/
theorem list_parent_fails :
    effectiveBinding [("a", { id := "a", parent := .list [.str "x"] })] (.str "a") =
      .error (unhashable (.list [.str "x"])) := by
  rfl

end Scopes

end IssueSync
