import IssueSync.Finding.Key

/-!
The canonical text of a local id determines the id: dropping its hyphens gives back the 32 hexadecimal
digits, and reading those as a numeral gives back the value. The store keys every local finding by
this text, so two findings share a key exactly when they share an id; and reading the text back, as
the store does with every record, gives the id.
-/

set_option autoImplicit false

namespace IssueSync.Uuid

open IssueSync.Number IssueSync.Text

/-- The value of hexadecimal digits, most significant first. -/
def numeral (cs : List Char) : Nat := cs.foldl (fun acc c => 16 * acc + (hexValue? c).getD 0) 0

theorem hexValue_digitChar : ∀ d < 16, hexValue? (Nat.digitChar d) = some d := by decide

theorem digitChar_ne_dash : ∀ d < 16, Nat.digitChar d ≠ '-' := by decide

theorem hex_toDigits (n : Nat) : ∀ c ∈ Nat.toDigits 16 n, ∃ d < 16, c = Nat.digitChar d := by
  induction n using Nat.strongRecOn with
  | ind n smaller =>
    rw [Nat.toDigits_eq_if (by decide)]
    split
    · intro c member
      exact ⟨n, by assumption, by simpa using member⟩
    · intro c member
      rcases List.mem_append.mp member with inner | last
      · exact smaller (n / 16) (by omega) c inner
      · exact ⟨n % 16, Nat.mod_lt n (by decide), by simpa using last⟩

theorem numeral_append_digit (cs : List Char) (c : Char) :
    numeral (cs ++ [c]) = 16 * numeral cs + (hexValue? c).getD 0 := by
  simp [numeral, List.foldl_append]

theorem numeral_toDigits (n : Nat) : numeral (Nat.toDigits 16 n) = n := by
  induction n using Nat.strongRecOn with
  | ind n smaller =>
    rw [Nat.toDigits_eq_if (by decide)]
    split
    · rename_i small
      simp [numeral, hexValue_digitChar n small]
    · rw [numeral_append_digit, smaller (n / 16) (by omega),
        hexValue_digitChar (n % 16) (Nat.mod_lt n (by decide))]
      simp only [Option.getD_some]
      omega

theorem numeral_zeros (k : Nat) (cs : List Char) : numeral (List.replicate k '0' ++ cs) = numeral cs := by
  have leading : (List.replicate k '0').foldl (fun acc c => 16 * acc + (hexValue? c).getD 0) 0 = 0 := by
    induction k with
    | zero => rfl
    | succ k ih =>
      rw [List.replicate_succ', List.foldl_append, ih]
      rfl
  simp only [numeral, List.foldl_append, leading]

theorem numeral_digits (u : Uuid) : numeral u.digits = u.value := by
  simp only [digits, hexDigits, numeral_zeros, numeral_toDigits]

theorem dash_not_mem_digits (u : Uuid) : '-' ∉ u.digits := by
  intro member
  simp only [digits, hexDigits, List.mem_append, List.mem_replicate] at member
  rcases member with ⟨-, zero⟩ | digit
  · exact absurd zero (by decide)
  · obtain ⟨d, small, same⟩ := hex_toDigits u.value '-' digit
    exact digitChar_ne_dash d small same.symm

theorem digits_of_text (u : Uuid) : u.text.toList.filter (· != '-') = u.digits := by
  have clean : ∀ cs : List Char, '-' ∉ cs → cs.filter (· != '-') = cs := by
    intro cs absent
    apply List.filter_eq_self.mpr
    intro c member
    simp only [bne_iff_ne, ne_eq]
    rintro rfl
    exact absent member
  have pieces := fun n m => clean ((u.digits.drop n).take m)
    (fun member => dash_not_mem_digits u (List.mem_of_mem_drop (List.mem_of_mem_take member)))
  have whole := clean (u.digits.drop 20)
    (fun member => dash_not_mem_digits u (List.mem_of_mem_drop member))
  have first := pieces 0 8
  simp only [List.drop_zero] at first
  simp only [text, String.toList_ofList, List.filter_append, List.filter_cons, bne_self_eq_false,
    Bool.false_eq_true, if_false, first, pieces, whole]
  have rest : ∀ n, (u.digits.drop n).take 4 ++ u.digits.drop (n + 4) = u.digits.drop n := by
    intro n
    rw [← List.drop_drop, List.take_append_drop]
  rw [List.append_assoc, rest 16, List.append_assoc, rest 12, List.append_assoc, rest 8,
    List.take_append_drop]

theorem text_injective {u v : Uuid} (same : u.text = v.text) : u = v := by
  have values : u.value = v.value := by
    rw [← numeral_digits u, ← numeral_digits v, ← digits_of_text u, ← digits_of_text v, same]
  cases u
  cases v
  simp only at values
  subst values
  rfl

theorem text_eq_iff {u v : Uuid} : u.text = v.text ↔ u = v :=
  ⟨text_injective, fun same => same ▸ rfl⟩

theorem text_beq (u v : Uuid) : (u.text == v.text) = (u == v) := by
  rw [Bool.eq_iff_iff, beq_iff_eq, beq_iff_eq, text_eq_iff]

/-! ## Reading the text back -/

theorem digit_chars (u : Uuid) : ∀ c ∈ u.digits, ∃ d < 16, c = Nat.digitChar d := by
  intro c member
  simp only [digits, hexDigits, List.mem_append, List.mem_replicate] at member
  rcases member with ⟨-, rfl⟩ | digit
  · exact ⟨0, by decide, rfl⟩
  · exact hex_toDigits u.value c digit

theorem text_chars (u : Uuid) : ∀ c ∈ u.text.toList, c = '-' ∨ ∃ d < 16, c = Nat.digitChar d := by
  intro c member
  have digit : c ∈ u.digits → c = '-' ∨ ∃ d < 16, c = Nat.digitChar d := fun inDigits =>
    .inr (digit_chars u c inDigits)
  simp only [text, String.toList_ofList, List.mem_append, List.mem_cons] at member
  -- each group is a slice of the digits, and the groups are joined by hyphens
  rcases member with ((((first | rfl | second) | rfl | third) | rfl | fourth) | rfl | last)
  · exact digit (List.mem_of_mem_take first)
  · exact .inl rfl
  · exact digit (List.mem_of_mem_drop (List.mem_of_mem_take second))
  · exact .inl rfl
  · exact digit (List.mem_of_mem_drop (List.mem_of_mem_take third))
  · exact .inl rfl
  · exact digit (List.mem_of_mem_drop (List.mem_of_mem_take fourth))
  · exact .inl rfl
  · exact digit (List.mem_of_mem_drop last)

theorem removeAll_absent (p : Char) (ps cs : List Char) (absent : p ∉ cs) : removeAll (p :: ps) cs = cs := by
  induction cs with
  | nil => rw [removeAll]
  | cons c rest ih =>
    have other : p ≠ c := fun same => absent (same ▸ List.mem_cons_self)
    have unfit : ¬((p :: ps) ≠ [] ∧ (p :: ps).isPrefixOf (c :: rest) = true) := by
      simp [List.isPrefixOf, other]
    rw [removeAll, dif_neg unfit, ih (fun inRest => absent (List.mem_cons_of_mem c inRest))]

theorem stripChars_absent (strip : Char → Bool) (cs : List Char) (kept : ∀ c ∈ cs, strip c = false) :
    stripChars strip cs = cs := by
  have unchanged : ∀ xs : List Char, (∀ c ∈ xs, strip c = false) → xs.dropWhile strip = xs := by
    intro xs none
    cases xs with
    | nil => rfl
    | cons x rest => exact List.dropWhile_cons_of_neg (by simp [none x List.mem_cons_self])
  have reversed : ∀ c ∈ cs.reverse, strip c = false := fun c member => kept c (List.mem_reverse.mp member)
  rw [stripChars, unchanged cs kept, unchanged cs.reverse reversed, List.reverse_reverse]

theorem hexOf_text (u : Uuid) : hexOf u.text = u.digits := by
  have plain : ∀ c : Char, c = 'u' ∨ c = '{' ∨ c = '}' → c ∉ u.text.toList := by
    intro c decoration member
    rcases text_chars u c member with rfl | ⟨d, small, rfl⟩
    · rcases decoration with same | same | same <;> exact absurd same (by decide)
    · have noDecoration : ∀ d < 16, Nat.digitChar d ≠ 'u' ∧ Nat.digitChar d ≠ '{' ∧ Nat.digitChar d ≠ '}' := by
        decide
      obtain ⟨notU, notOpen, notClose⟩ := noDecoration d small
      rcases decoration with same | same | same
      · exact notU same
      · exact notOpen same
      · exact notClose same
  have urn : "urn:".toList = 'u' :: "rn:".toList := rfl
  have uuid : "uuid:".toList = 'u' :: "uid:".toList := rfl
  have unbraced : ∀ c ∈ u.text.toList, (c == '{' || c == '}') = false := by
    intro c member
    simp only [Bool.or_eq_false_iff, beq_eq_false_iff_ne, ne_eq]
    exact ⟨fun same => plain c (.inr (.inl same)) member, fun same => plain c (.inr (.inr same)) member⟩
  rw [hexOf, urn, removeAll_absent 'u' _ _ (plain 'u' (.inl rfl)), uuid,
    removeAll_absent 'u' _ _ (plain 'u' (.inl rfl)), stripChars_absent _ _ unbraced, digits_of_text]

theorem digits_length (u : Uuid) : u.digits.length = 32 := by
  have small : u.value < 16 ^ 32 := by
    have bound := u.isLt
    have same : Nat.pow 2 128 = 16 ^ 32 := by decide
    omega
  have short := (Nat.length_toDigits_le_iff (by decide) (by decide)).mpr small
  simp only [digits, hexDigits, List.length_append, List.length_replicate]
  omega

theorem bodyIn_hex (cs : List Char) (hex : ∀ c ∈ cs, ∃ d < 16, c = Nat.digitChar d) (acc count : Nat) :
    bodyIn 16 cs acc count false = some (cs.foldl (fun a c => 16 * a + (hexValue? c).getD 0) acc, count + cs.length) := by
  induction cs generalizing acc count with
  | nil => rfl
  | cons c rest ih =>
    obtain ⟨d, small, rfl⟩ := hex c List.mem_cons_self
    have notUnderscore : ∀ d < 16, Nat.digitChar d ≠ '_' := by decide
    have value : digitIn 16 (Nat.digitChar d) = some d := by
      simp [digitIn, hexValue_digitChar d small, small]
    rw [bodyIn.eq_3 _ _ _ _ _ _ (notUnderscore d small), value]
    dsimp only
    rw [ih (fun c inRest => hex c (List.mem_cons_of_mem _ inRest))]
    simp [hexValue_digitChar d small, Nat.add_assoc, Nat.add_comm 1]

theorem asciiNumeral_plain (cs : List Char) (plain : ∀ c ∈ cs, c.toNat < 0x7f) : asciiNumeral? cs = some cs := by
  induction cs with
  | nil => rfl
  | cons c rest ih =>
    have small := plain c List.mem_cons_self
    have more := ih fun x inRest => plain x (List.mem_cons_of_mem c inRest)
    simp only [asciiNumeral?, List.mapM_cons, small, if_true] at more ⊢
    simp [more]

/-- A numeral of lower-case hexadecimal digits reads as its value, with its digit count. -/
theorem readIntIn_hex (cs : List Char) (nonempty : cs ≠ []) (hex : ∀ c ∈ cs, ∃ d < 16, c = Nat.digitChar d) :
    readIntIn? 16 (String.ofList cs) = some ((numeral cs : Int), cs.length) := by
  have facts : ∀ d < 16, (Nat.digitChar d).toNat < 0x7f ∧ Nat.digitChar d ≠ '\x00' ∧
      isAsciiBlank (Nat.digitChar d) = false ∧ Nat.digitChar d ≠ '_' ∧ (Nat.digitChar d).toLower ≠ 'x' := by
    decide
  have plain : ∀ c ∈ cs, c.toNat < 0x7f := by
    intro c member
    obtain ⟨d, small, rfl⟩ := hex c member
    exact (facts d small).1
  have noNul : cs.contains '\x00' = false := by
    rw [List.contains_eq_mem, decide_eq_false_iff_not]
    intro member
    obtain ⟨d, small, same⟩ := hex _ member
    exact (facts d small).2.1 same.symm
  have unblank : stripChars isAsciiBlank cs = cs := by
    refine stripChars_absent _ cs fun c member => ?_
    obtain ⟨d, small, rfl⟩ := hex c member
    exact (facts d small).2.2.1
  unfold stripChars at unblank
  simp only [readIntIn?, String.toList_ofList, asciiNumeral_plain cs plain, Option.bind_eq_bind, Option.bind_some,
    noNul, Bool.false_eq_true, if_false, unblank]
  obtain ⟨c, rest, rfl⟩ := List.exists_cons_of_ne_nil nonempty
  obtain ⟨d, small, rfl⟩ := hex c List.mem_cons_self
  obtain ⟨-, -, -, notUnderscore, -⟩ := facts d small
  have read : bodyIn 16 (Nat.digitChar d :: rest) 0 0 false =
      some (numeral (Nat.digitChar d :: rest), (Nat.digitChar d :: rest).length) := by
    rw [bodyIn_hex _ hex, numeral]
    simp
  -- no sign; a leading zero is followed by a digit, never by the `x` of a prefix
  simp only [prefixLetter]
  cases rest with
  | nil => simp [notUnderscore, read]
  | cons l r =>
    obtain ⟨e, smallE, rfl⟩ := hex l (by simp)
    have notX := (facts e smallE).2.2.2.2
    by_cases zero : Nat.digitChar d = '0'
    · rw [zero] at read ⊢
      simp [notX, read]
    · simp [zero, notUnderscore, read]

/-- The canonical text of an id reads back as the id. -/
theorem read_text (u : Uuid) : read u.text = .ok u := by
  have nonempty : u.digits ≠ [] := by
    intro empty
    have counted := digits_length u
    rw [empty] at counted
    cases counted
  have numeralRead := readIntIn_hex u.digits nonempty (digit_chars u)
  simp only [read, hexOf_text, digits_length, bne_self_eq_false, Bool.false_eq_true, if_false, readHexInt?,
    numeralRead, Option.map_some, numeral_digits, Int.toNat_natCast]
  rw [dif_pos ⟨Int.natCast_nonneg _, u.isLt⟩]

theorem ofValue_text (u : Uuid) : ofValue (.str u.text) = .ok u := by
  simp only [ofValue, read_text]

end IssueSync.Uuid
