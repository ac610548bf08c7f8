import Mathlib.Data.List.DropRight
import IssueSync.Version

/-!
# The order of versions

Versions compare by their parts padded with zeros to a common width. For lists of one length that
is the lexicographic order, and padding both further changes no comparison, so three versions can
always be compared at one width: the comparison is a total preorder, whose ties are the versions
with the same parts once trailing zeros are dropped. A qualifier written after a hyphen never
reaches the parts, and a version at or above one that satisfies a minimum satisfies it too.
-/

set_option autoImplicit false

namespace IssueSync.Version

open IssueSync.Text IssueSync.Number

/-! ## Lists of parts -/

theorem compare_append_of_length_eq {xs ys : List Nat} (sameLength : xs.length = ys.length)
    (zs ws : List Nat) : compare (xs ++ zs) (ys ++ ws) = (compare xs ys).then (compare zs ws) := by
  induction xs generalizing ys with
  | nil =>
    cases ys with
    | nil => rfl
    | cons y ys => simp at sameLength
  | cons x xs ih =>
    cases ys with
    | nil => simp at sameLength
    | cons y ys =>
      simp only [List.cons_append, List.compare_cons_cons, Ordering.then_assoc,
        ih (Nat.succ.inj sameLength)]

/-- The order of lists of numbers is the lexicographic one. -/
theorem compare_eq_lt_iff {xs ys : List Nat} : compare xs ys = .lt ↔ xs < ys := by
  induction xs generalizing ys with
  | nil => cases ys <;> simp [List.nil_lt_cons]
  | cons x xs ih =>
    cases ys with
    | nil => simp [List.not_lt_nil]
    | cons y ys =>
      rw [List.compare_cons_cons, List.cons_lt_cons_iff, ← ih]
      rcases Nat.lt_trichotomy x y with less | rfl | more
      · simp [Nat.compare_eq_lt.mpr less, less]
      · simp
      · simp [Nat.compare_eq_gt.mpr more, Nat.not_lt_of_gt more, Nat.ne_of_gt more]

theorem rdropWhile_zeros (xs : List Nat) (k : Nat) :
    (xs ++ List.replicate k 0).rdropWhile (· == 0) = xs.rdropWhile (· == 0) := by
  induction k with
  | zero => simp
  | succ k ih =>
    rw [List.replicate_succ', ← List.append_assoc, List.rdropWhile_concat_pos _ _ _ (by rfl), ih]

/-- Two lists of one length without the same trailing zeros differ before them. -/
theorem eq_of_rdropWhile_zero {xs ys : List Nat} (sameLength : xs.length = ys.length)
    (same : xs.rdropWhile (· == 0) = ys.rdropWhile (· == 0)) : xs = ys := by
  have zeros : ∀ l : List Nat, l.rtakeWhile (· == 0) = List.replicate (l.rtakeWhile (· == 0)).length 0 := by
    intro l
    refine List.eq_replicate_iff.mpr ⟨rfl, fun b member => ?_⟩
    simpa using List.mem_rtakeWhile_imp member
  have splitX := @List.rdropWhile_append_rtakeWhile _ (· == 0) xs
  have splitY := @List.rdropWhile_append_rtakeWhile _ (· == 0) ys
  have tails : (xs.rtakeWhile (· == 0)).length = (ys.rtakeWhile (· == 0)).length := by
    have lenX := congrArg List.length splitX
    have lenY := congrArg List.length splitY
    simp only [List.length_append, same] at lenX lenY
    omega
  rw [← splitX, ← splitY, same, zeros xs, zeros ys, tails]

/-! ## Padding -/

theorem padded_length (v : Version) {width : Nat} (wide : v.parts.length ≤ width) :
    (v.padded width).length = width := by
  simp only [padded, List.length_append, List.length_replicate]
  omega

theorem padded_add (v : Version) {width : Nat} (wide : v.parts.length ≤ width) (k : Nat) :
    v.padded (width + k) = v.padded width ++ List.replicate k 0 := by
  have more : width + k - v.parts.length = (width - v.parts.length) + k := by omega
  simp only [padded, more, List.replicate_add, List.append_assoc]

/-- Padding both versions wider than needed changes no comparison. -/
theorem compare_padded {a b : Version} {width : Nat} (wide : max a.parts.length b.parts.length ≤ width) :
    compare (a.padded width) (b.padded width) = a.compareIgnoringQualifier b := by
  obtain ⟨k, rfl⟩ := Nat.exists_eq_add_of_le wide
  have fitsA : a.parts.length ≤ max a.parts.length b.parts.length := Nat.le_max_left ..
  have fitsB : b.parts.length ≤ max a.parts.length b.parts.length := Nat.le_max_right ..
  have padding : compare (List.replicate k 0) (List.replicate k 0) = .eq := Std.ReflCmp.compare_self
  rw [padded_add a fitsA, padded_add b fitsB,
    compare_append_of_length_eq (by rw [padded_length a fitsA, padded_length b fitsB]), padding,
    Ordering.then_eq]
  rfl

theorem padded_rdropWhile (v : Version) (width : Nat) :
    (v.padded width).rdropWhile (· == 0) = v.parts.rdropWhile (· == 0) :=
  rdropWhile_zeros v.parts _

/-! ## The comparison -/

/-- The parts of a version without its trailing zeros. -/
def significant (v : Version) : List Nat := v.parts.rdropWhile (· == 0)

theorem compareIgnoringQualifier_swap (a b : Version) :
    b.compareIgnoringQualifier a = (a.compareIgnoringQualifier b).swap := by
  simp only [compareIgnoringQualifier, Nat.max_comm b.parts.length]
  exact Std.OrientedCmp.eq_swap

theorem compareSign_swap (a b : Version) : b.compareSign a = -a.compareSign b := by
  simp only [compareSign, compareIgnoringQualifier_swap a b]
  cases a.compareIgnoringQualifier b <;> rfl

theorem compareSign_self (a : Version) : a.compareSign a = 0 := by
  simp [compareSign, compareIgnoringQualifier, Std.ReflCmp.compare_self]

theorem compareSign_nonpos_iff (a b : Version) :
    a.compareSign b ≤ 0 ↔ (a.compareIgnoringQualifier b).isLE = true := by
  unfold compareSign
  cases a.compareIgnoringQualifier b <;> decide

theorem compareSign_eq_zero_iff (a b : Version) :
    a.compareSign b = 0 ↔ a.compareIgnoringQualifier b = .eq := by
  unfold compareSign
  cases a.compareIgnoringQualifier b <;> decide

theorem compareSign_trans {a b c : Version} (below : a.compareSign b ≤ 0) (next : b.compareSign c ≤ 0) :
    a.compareSign c ≤ 0 := by
  -- all three compare at the widest of their widths
  let width := max (max a.parts.length b.parts.length) c.parts.length
  have ab : max a.parts.length b.parts.length ≤ width := Nat.le_max_left ..
  have bc : max b.parts.length c.parts.length ≤ width := by omega
  have ac : max a.parts.length c.parts.length ≤ width := by omega
  rw [compareSign_nonpos_iff, ← compare_padded ab] at below
  rw [compareSign_nonpos_iff, ← compare_padded bc] at next
  rw [compareSign_nonpos_iff, ← compare_padded ac]
  exact Std.TransCmp.isLE_trans below next

theorem compareSign_eq_zero_iff_significant (a b : Version) :
    a.compareSign b = 0 ↔ a.significant = b.significant := by
  have wideA : a.parts.length ≤ max a.parts.length b.parts.length := Nat.le_max_left ..
  have wideB : b.parts.length ≤ max a.parts.length b.parts.length := Nat.le_max_right ..
  rw [compareSign_eq_zero_iff, compareIgnoringQualifier, Std.LawfulEqCmp.compare_eq_iff_eq]
  constructor
  · intro same
    rw [significant, significant, ← padded_rdropWhile a, ← padded_rdropWhile b, same]
  · intro same
    apply eq_of_rdropWhile_zero (by rw [padded_length a wideA, padded_length b wideB])
    rwa [padded_rdropWhile, padded_rdropWhile]

theorem compareSign_eq_neg_one_iff (a b : Version) :
    a.compareSign b = -1 ↔ a.padded (max a.parts.length b.parts.length) < b.padded (max a.parts.length b.parts.length) := by
  rw [← compare_eq_lt_iff]
  show a.compareSign b = -1 ↔ a.compareIgnoringQualifier b = .lt
  unfold compareSign
  cases a.compareIgnoringQualifier b <;> decide

theorem compareSign_eq_one_iff (a b : Version) :
    a.compareSign b = 1 ↔ b.padded (max a.parts.length b.parts.length) < a.padded (max a.parts.length b.parts.length) := by
  rw [Nat.max_comm, ← compare_eq_lt_iff]
  show a.compareSign b = 1 ↔ b.compareIgnoringQualifier a = .lt
  rw [compareIgnoringQualifier_swap a b]
  unfold compareSign
  cases a.compareIgnoringQualifier b <;> decide

theorem compareSign_eq_zero_iff_padded (a b : Version) :
    a.compareSign b = 0 ↔ a.padded (max a.parts.length b.parts.length) = b.padded (max a.parts.length b.parts.length) := by
  rw [compareSign_eq_zero_iff, compareIgnoringQualifier, Std.LawfulEqCmp.compare_eq_iff_eq]

theorem satisfies_iff (v minimum : Version) : v.satisfies minimum = true ↔ 0 ≤ v.compareSign minimum := by
  unfold satisfies compareSign
  cases v.compareIgnoringQualifier minimum <;> decide

theorem satisfies_of_above {a b minimum : Version} (satisfied : a.satisfies minimum = true)
    (above : 0 ≤ b.compareSign a) : b.satisfies minimum = true := by
  rw [satisfies_iff] at satisfied ⊢
  have atMost : minimum.compareSign b ≤ 0 := by
    refine @compareSign_trans minimum a b ?_ ?_
    · rw [compareSign_swap a minimum]
      omega
    · rw [compareSign_swap b a]
      omega
  rw [compareSign_swap minimum b]
  omega

/-! ## Reading a version with a qualifier -/

/-- Digit groups that, joined by dots, are the text of a version's parts, such as `10.4.0`. -/
def DecimalGroups (groups : List (List Char)) : Prop :=
  groups ≠ [] ∧ ∀ g ∈ groups, g ≠ [] ∧ ∀ c ∈ g, isDecimal c = true

theorem decimal_not_blank {c : Char} (decimal : isDecimal c = true) : isBlank c = false := by
  have runs : ∀ r ∈ decimalRuns, ∀ k < r.2, isBlank (Char.ofNat (r.1 + k)) = false := by decide
  obtain ⟨start, length, member, low, high⟩ : ∃ start length, (start, length) ∈ decimalRuns ∧
      start ≤ c.toNat ∧ c.toNat < start + length := by
    simpa [isDecimal, digitValue?] using decimal
  have blank := runs (start, length) member (c.toNat - start) (by simp only; omega)
  rwa [Nat.add_sub_cancel' low, Char.ofNat_toNat] at blank

/-- A group of digits runs up to the first character that is no digit. -/
theorem span_group {g : List Char} (digits : ∀ c ∈ g, isDecimal c = true) (tail : List Char)
    (stops : ∀ c ∈ tail.head?, isDecimal c = false) :
    (g ++ tail).takeWhile isDecimal = g ∧ (g ++ tail).dropWhile isDecimal = tail := by
  rw [List.takeWhile_append_of_pos digits, List.dropWhile_append_of_pos digits]
  cases tail with
  | nil => simp
  | cons c more => simp [stops c rfl]

theorem spanParts_last {g : List Char} (filled : g ≠ []) (digits : ∀ c ∈ g, isDecimal c = true)
    {rest : List Char} (ends : ∀ c ∈ rest.head?, isDecimal c = false ∧ c ≠ '.') (fuel : Nat) :
    spanParts (fuel + 1) (g ++ rest) = ([g], rest) := by
  obtain ⟨group, after⟩ := span_group digits rest fun c first => (ends c first).1
  have notEmpty : g.isEmpty = false := List.isEmpty_eq_false_iff.mpr filled
  simp only [spanParts, group, after, notEmpty, Bool.false_eq_true, if_false]
  cases rest with
  | nil => rfl
  | cons c more =>
    have notDot : c ≠ '.' := (ends c rfl).2
    split
    · rename_i shape
      simp only [List.cons.injEq] at shape
      exact absurd shape.1 notDot
    · rfl

theorem spanParts_dot {g : List Char} (filled : g ≠ []) (digits : ∀ c ∈ g, isDecimal c = true)
    {d : Char} (first : isDecimal d = true) (more : List Char) (fuel : Nat) :
    spanParts (fuel + 1) (g ++ '.' :: d :: more) =
      (g :: (spanParts fuel (d :: more)).1, (spanParts fuel (d :: more)).2) := by
  obtain ⟨group, after⟩ := span_group digits ('.' :: d :: more) fun c isDot => by
    rw [Option.mem_def, List.head?_cons, Option.some.injEq] at isDot
    rw [← isDot]
    decide
  have notEmpty : g.isEmpty = false := List.isEmpty_eq_false_iff.mpr filled
  simp only [spanParts, group, after, notEmpty, Bool.false_eq_true, if_false, first, if_true]

theorem spanParts_groups {groups : List (List Char)} (decimal : DecimalGroups groups)
    {rest : List Char} (ends : ∀ c ∈ rest.head?, isDecimal c = false ∧ c ≠ '.') :
    ∀ fuel, (['.'].intercalate groups).length < fuel →
      spanParts fuel (['.'].intercalate groups ++ rest) = (groups, rest) := by
  obtain ⟨nonempty, groupsDecimal⟩ := decimal
  induction groups with
  | nil => exact absurd rfl nonempty
  | cons g gs ih =>
    intro fuel enough
    obtain ⟨filled, digits⟩ := groupsDecimal g List.mem_cons_self
    obtain ⟨fuel, rfl⟩ : ∃ f, fuel = f + 1 := ⟨fuel - 1, by omega⟩
    cases gs with
    | nil => simpa using spanParts_last filled digits ends fuel
    | cons g' gs' =>
      obtain ⟨d, g'', rfl⟩ := List.exists_cons_of_ne_nil (groupsDecimal g' (by simp)).1
      have next := ih (List.cons_ne_nil _ _) (fun x member => groupsDecimal x (List.mem_cons_of_mem g member)) fuel
        (by simp only [List.intercalate_cons_cons, List.length_append, List.length_cons] at enough ⊢; omega)
      -- the text after the first dot starts with the next group's first digit
      obtain ⟨more, headed⟩ : ∃ more, ['.'].intercalate ((d :: g'') :: gs') ++ rest = d :: more := by
        cases gs' with
        | nil => exact ⟨g'' ++ rest, by simp⟩
        | cons g3 gs3 =>
          exact ⟨g'' ++ '.' :: (['.'].intercalate (g3 :: gs3) ++ rest), by simp [List.intercalate_cons_cons]⟩
      have first : isDecimal d = true :=
        (groupsDecimal (d :: g'') (List.mem_cons_of_mem g List.mem_cons_self)).2 d List.mem_cons_self
      rw [headed] at next
      rw [List.intercalate_cons_cons, List.append_assoc, List.append_assoc, headed, List.singleton_append,
        spanParts_dot filled digits first more fuel, next]

theorem dotted_ne_nil {groups : List (List Char)} (decimal : DecimalGroups groups) :
    ['.'].intercalate groups ≠ [] := by
  obtain ⟨nonempty, groupsDecimal⟩ := decimal
  obtain ⟨g, gs, rfl⟩ := List.exists_cons_of_ne_nil nonempty
  have filled := (groupsDecimal g List.mem_cons_self).1
  cases gs with
  | nil => simpa using filled
  | cons g' gs' => simp [List.intercalate_cons_cons, filled]

theorem dotted_not_blank {groups : List (List Char)} (decimal : DecimalGroups groups) :
    ∀ c ∈ ['.'].intercalate groups, isBlank c = false := by
  obtain ⟨-, groupsDecimal⟩ := decimal
  induction groups with
  | nil => simp
  | cons g gs ih =>
    have inGroup : ∀ c ∈ g, isBlank c = false := fun c member =>
      decimal_not_blank ((groupsDecimal g List.mem_cons_self).2 c member)
    cases gs with
    | nil => simpa using inGroup
    | cons g' gs' =>
      intro c member
      rw [List.intercalate_cons_cons, List.mem_append, List.mem_append, List.mem_singleton] at member
      rcases member with (inFirst | rfl) | inRest
      · exact inGroup c inFirst
      · decide
      · exact ih (fun x member => groupsDecimal x (List.mem_cons_of_mem g member)) c inRest

/-- Trimming text that starts with no blank drops only the blanks at its end. -/
theorem trimList_eq_rdropWhile {cs : List Char} (starts : ∀ c ∈ cs.head?, isBlank c = false) :
    trimList cs = cs.rdropWhile isBlank := by
  cases cs with
  | nil => rfl
  | cons c rest => simp [trimList, List.rdropWhile, starts c rfl]

theorem rdropWhile_append_cons {p : Char → Bool} (front : List Char) {c : Char} (kept : p c = false)
    (q : List Char) : (front ++ c :: q).rdropWhile p = front ++ c :: q.rdropWhile p := by
  have stops : (c :: front.reverse).dropWhile p = c :: front.reverse := by simp [kept]
  simp only [List.rdropWhile, List.reverse_append, List.reverse_cons, List.append_assoc,
    List.singleton_append, List.dropWhile_append, stops]
  split
  · rename_i emptied
    rw [List.isEmpty_iff.mp emptied]
    simp
  · simp

theorem exists_qualifierOf {rest : List Char} (oneLine : '\n' ∉ rest) : ∃ q, qualifierOf rest = some q := by
  unfold qualifierOf
  rw [if_neg (by simpa using oneLine)]
  split
  · split <;> exact ⟨_, rfl⟩
  · exact ⟨_, rfl⟩

/-- A text that trims to digit groups and a rest that no dot and digit continue, on one line,
reads as the groups' values. -/
theorem readText_parts {given : Value} {s : String} {groups : List (List Char)} {rest : List Char}
    (decimal : DecimalGroups groups) (trimmed : trimList s.toList = ['.'].intercalate groups ++ rest)
    (ends : ∀ c ∈ rest.head?, isDecimal c = false ∧ c ≠ '.') (oneLine : '\n' ∉ rest) :
    (readText given s).map parts =
      (groups.mapM readDigits).mapError fun n => Failure.badValue (digitLimitMessage n) := by
  have split := spanParts_groups decimal ends ((['.'].intercalate groups ++ rest).length + 1)
    (by rw [List.length_append]; omega)
  have named : groups.isEmpty = false := List.isEmpty_eq_false_iff.mpr decimal.1
  obtain ⟨q, qualified⟩ := exists_qualifierOf oneLine
  simp only [readText, trimmed, split, named, Bool.false_eq_true, if_false, qualified]
  cases groups.mapM readDigits <;> rfl

theorem create_parts_ignore_qualifier {groups : List (List Char)} (decimal : DecimalGroups groups)
    {q : String} (oneLine : '\n' ∉ q.toList) :
    (create (String.ofList (['.'].intercalate groups) ++ "-" ++ q)).map parts =
      (create (String.ofList (['.'].intercalate groups))).map parts := by
  have clean := dotted_not_blank decimal
  have starts : ∀ rest : List Char, ∀ c ∈ (['.'].intercalate groups ++ rest).head?, isBlank c = false := by
    intro rest c first
    obtain ⟨d, ds, shape⟩ := List.exists_cons_of_ne_nil (dotted_ne_nil decimal)
    rw [shape, List.cons_append, List.head?_cons, Option.mem_def, Option.some.injEq] at first
    exact first ▸ clean d (shape ▸ List.mem_cons_self)
  have hyphen : isBlank '-' = false := by decide
  have alone : trimList (String.ofList (['.'].intercalate groups)).toList = ['.'].intercalate groups ++ [] := by
    rw [String.toList_ofList, List.append_nil, trimList_eq_rdropWhile (by simpa using starts [])]
    exact List.rdropWhile_eq_self_iff.mpr fun nonempty => by simp [clean _ (List.getLast_mem nonempty)]
  have qualified : trimList (['.'].intercalate groups ++ '-' :: q.toList) =
      ['.'].intercalate groups ++ '-' :: q.toList.rdropWhile isBlank := by
    rw [trimList_eq_rdropWhile (starts _), rdropWhile_append_cons _ hyphen]
  have dashEnds : ∀ c ∈ ('-' :: q.toList.rdropWhile isBlank).head?, isDecimal c = false ∧ c ≠ '.' := by
    intro c first
    rw [List.head?_cons, Option.mem_def, Option.some.injEq] at first
    rw [← first]
    decide
  rw [create, create, readText_parts decimal (by simpa using qualified) dashEnds ?_,
    readText_parts decimal alone (by simp) (by simp)]
  -- the kept part of the qualifier is a part of it, so it is on one line
  intro newline
  rcases List.mem_cons.mp newline with dash | inside
  · exact absurd dash (by decide)
  · exact oneLine ((List.rdropWhile_prefix isBlank q.toList).sublist.subset inside)

/-! ## The comparison as an order -/

/-- Versions compare, ignoring qualifiers, as `-1`, `0` or `1` by the lexicographic order of their
parts padded with zeros to one width. The comparison is antisymmetric, reflexive, transitive and
total, and ties exactly the versions whose parts agree once trailing zeros are dropped. A qualifier
written after a hyphen leaves the parts of a dotted decimal text as they are, and a version at or
above one that satisfies a minimum satisfies it too. -/
theorem compare_ignoring_qualifier_total_preorder (a b c : Version) :
    (a.compareSign b = -1 ∨ a.compareSign b = 0 ∨ a.compareSign b = 1) ∧
    (a.compareSign b = -1 ↔
      a.padded (max a.parts.length b.parts.length) < b.padded (max a.parts.length b.parts.length)) ∧
    (a.compareSign b = 0 ↔
      a.padded (max a.parts.length b.parts.length) = b.padded (max a.parts.length b.parts.length)) ∧
    (a.compareSign b = 1 ↔
      b.padded (max a.parts.length b.parts.length) < a.padded (max a.parts.length b.parts.length)) ∧
    a.compareSign b = -b.compareSign a ∧
    a.compareSign a = 0 ∧
    (a.compareSign b ≤ 0 → b.compareSign c ≤ 0 → a.compareSign c ≤ 0) ∧
    (a.compareSign b ≤ 0 ∨ b.compareSign a ≤ 0) ∧
    (a.compareSign b = 0 ↔ a.significant = b.significant) ∧
    (∀ groups, DecimalGroups groups → ∀ q : String, '\n' ∉ q.toList →
      (create (String.ofList (['.'].intercalate groups) ++ "-" ++ q)).map parts =
        (create (String.ofList (['.'].intercalate groups))).map parts) ∧
    (∀ minimum, a.satisfies minimum = true → 0 ≤ b.compareSign a → b.satisfies minimum = true) := by
  have signs : a.compareSign b = -1 ∨ a.compareSign b = 0 ∨ a.compareSign b = 1 := by
    unfold compareSign
    cases a.compareIgnoringQualifier b <;> simp
  have swapped := compareSign_swap b a
  refine ⟨signs, compareSign_eq_neg_one_iff a b, compareSign_eq_zero_iff_padded a b,
    compareSign_eq_one_iff a b, swapped, compareSign_self a, compareSign_trans, ?_,
    compareSign_eq_zero_iff_significant a b, fun _ decimal _ oneLine => create_parts_ignore_qualifier decimal oneLine,
    fun _ satisfied above => satisfies_of_above satisfied above⟩
  omega

/-- `10.4-SNAPSHOT` has the parts of `10.4`, and a build of 10.4 satisfies the minimum 10.2 that
10.4 satisfies. -/
theorem snapshot_has_release_parts :
    DecimalGroups [['1', '0'], ['4']] ∧ '\n' ∉ "SNAPSHOT".toList ∧
      (create (String.ofList (['.'].intercalate [['1', '0'], ['4']]) ++ "-" ++ "SNAPSHOT")).map parts =
        (create (String.ofList (['.'].intercalate [['1', '0'], ['4']]))).map parts ∧
      (⟨[10, 4], "", "10.4"⟩ : Version).satisfies ⟨[10, 2], "", "10.2"⟩ = true ∧
      0 ≤ (⟨[10, 4, 0, 87286], "", "10.4.0.87286"⟩ : Version).compareSign ⟨[10, 4], "", "10.4"⟩ ∧
      (⟨[10, 4, 0, 87286], "", "10.4.0.87286"⟩ : Version).satisfies ⟨[10, 2], "", "10.2"⟩ = true := by
  have decimal : DecimalGroups [['1', '0'], ['4']] := by
    -- group by group, so that each digit is decided alone
    refine ⟨by simp, ?_⟩
    intro g member
    simp only [List.mem_cons, List.not_mem_nil, or_false] at member
    rcases member with rfl | rfl
    · refine ⟨by simp, ?_⟩
      intro c inGroup
      simp only [List.mem_cons, List.not_mem_nil, or_false] at inGroup
      rcases inGroup with rfl | rfl <;> decide
    · refine ⟨by simp, ?_⟩
      intro c inGroup
      simp only [List.mem_cons, List.not_mem_nil, or_false] at inGroup
      subst inGroup
      decide
  have oneLine : '\n' ∉ "SNAPSHOT".toList := by decide
  have satisfied : (⟨[10, 4], "", "10.4"⟩ : Version).satisfies ⟨[10, 2], "", "10.2"⟩ = true := by decide
  have above : 0 ≤ (⟨[10, 4, 0, 87286], "", "10.4.0.87286"⟩ : Version).compareSign ⟨[10, 4], "", "10.4"⟩ := by
    decide
  have order := compare_ignoring_qualifier_total_preorder ⟨[10, 4], "", "10.4"⟩
    ⟨[10, 4, 0, 87286], "", "10.4.0.87286"⟩ ⟨[10, 4], "", "10.4"⟩
  exact ⟨decimal, oneLine, order.2.2.2.2.2.2.2.2.2.1 _ decimal "SNAPSHOT" oneLine, satisfied, above,
    order.2.2.2.2.2.2.2.2.2.2 _ satisfied above⟩

end IssueSync.Version
