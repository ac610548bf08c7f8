import IssueSync.Proofs.IdText

/-!
# Spellings of local ids

A key names a local id when, once every `urn:` and `uuid:` is removed, the braces at its ends
stripped and its hyphens dropped, 32 characters are left that read as a hexadecimal integer. The
range check that follows never refuses such a numeral: no minus sign is left in it, and a numeral
of 32 characters in base sixteen stays below `16 ^ 32 = 2 ^ 128`, whatever white space, sign,
prefix or underscores it holds. Every accepted spelling names the id whose canonical text reads
back as that same id, which is the text the local store keys the finding by.
-/

set_option autoImplicit false

namespace IssueSync.Number

open IssueSync.Text

/-- The sign of a numeral, and the numeral after it. -/
def signSplit (cs : List Char) : Bool × List Char :=
  match cs with
  | '-' :: r => (true, r)
  | '+' :: r => (false, r)
  | _ => (false, cs)

/-- A numeral without the prefix that names its base, and the one underscore that may follow. -/
def dropRadixPrefix (base : Nat) (cs : List Char) : List Char :=
  match cs, prefixLetter base with
  | '0' :: l :: r, some p =>
    if l.toLower == p then (match r with | '_' :: r' => r' | _ => r) else cs
  | _, _ => cs

/-- A numeral without the white space at its ends. -/
def trimAscii (cs : List Char) : List Char :=
  ((cs.dropWhile isAsciiBlank).reverse.dropWhile isAsciiBlank).reverse

/-- The digits of a numeral, read as its value and digit count. -/
def readBody (base : Nat) (negative : Bool) (cs : List Char) : Option (Int × Nat) :=
  match cs with
  | '_' :: _ => none
  | _ => (bodyIn base cs 0 0 false).bind fun (value, count) =>
    if count == 0 then none else some (if negative then -(value : Int) else value, count)

/-- Integer reading, stage by stage: map the characters to ASCII, trim, split off the sign and the
prefix, read the digits. -/
theorem readIntIn?_eq (base : Nat) (s : String) :
    readIntIn? base s = (asciiNumeral? s.toList).bind fun cs =>
      if cs.contains '\x00' then none
      else readBody base (signSplit (trimAscii cs)).1 (dropRadixPrefix base (signSplit (trimAscii cs)).2) :=
  rfl

theorem signSplit_length (cs : List Char) : (signSplit cs).2.length ≤ cs.length := by
  unfold signSplit
  split <;> simp

theorem signSplit_negative {cs : List Char} (negative : (signSplit cs).1 = true) : '-' ∈ cs := by
  unfold signSplit at negative
  split at negative <;> simp_all

theorem dropRadixPrefix_length (base : Nat) (cs : List Char) : (dropRadixPrefix base cs).length ≤ cs.length := by
  unfold dropRadixPrefix
  split
  · split
    · split <;> simp only [List.length_cons] <;> omega
    · exact Nat.le_refl _
  · exact Nat.le_refl _

theorem trimAscii_subset (cs : List Char) : trimAscii cs ⊆ cs := fun _ member =>
  (List.dropWhile_suffix _).subset
    (List.mem_reverse.mp ((List.dropWhile_suffix _).subset (List.mem_reverse.mp member)))

theorem trimAscii_length (cs : List Char) : (trimAscii cs).length ≤ cs.length := by
  simp only [trimAscii, List.length_reverse]
  calc _ ≤ (cs.dropWhile isAsciiBlank).reverse.length := (List.dropWhile_suffix _).length_le
    _ = (cs.dropWhile isAsciiBlank).length := List.length_reverse
    _ ≤ cs.length := (List.dropWhile_suffix _).length_le

theorem asciiNumeral_length {cs ds : List Char} (mapped : asciiNumeral? cs = some ds) : ds.length = cs.length := by
  induction cs generalizing ds with
  | nil =>
    simp only [asciiNumeral?, List.mapM_nil] at mapped
    cases mapped
    rfl
  | cons c rest ih =>
    simp only [asciiNumeral?, List.mapM_cons, Option.bind_eq_bind, Option.bind_eq_some_iff] at mapped
    obtain ⟨d, -, ds', restMapped, same⟩ := mapped
    cases same
    simp [ih restMapped]

theorem minus_of_asciiNumeral {cs ds : List Char} (mapped : asciiNumeral? cs = some ds) (minus : '-' ∈ ds) :
    '-' ∈ cs := by
  induction cs generalizing ds with
  | nil =>
    simp only [asciiNumeral?, List.mapM_nil] at mapped
    cases mapped
    cases minus
  | cons c rest ih =>
    simp only [asciiNumeral?, List.mapM_cons, Option.bind_eq_bind, Option.bind_eq_some_iff] at mapped
    obtain ⟨d, first, ds', restMapped, same⟩ := mapped
    cases same
    rcases List.mem_cons.mp minus with here | later
    · -- only an ASCII character is kept as it is; any other becomes a space or an ASCII digit
      subst here
      refine List.mem_cons.mpr (.inl ?_)
      split at first
      · cases first
        rfl
      · split at first
        · cases first
        · obtain ⟨v, digit, same⟩ := Option.map_eq_some_iff.mp first
          have noMinus : ∀ v < 10, Char.ofNat (48 + v) ≠ '-' := by decide
          exact absurd same (noMinus v (digitValue?_lt_ten digit))
    · exact List.mem_cons_of_mem c (ih restMapped later)

/-- Digits read after `acc` stay below `acc + 1` shifted by one place per character read. -/
theorem bodyIn_lt {base : Nat} (positive : 0 < base) :
    ∀ (cs : List Char) (acc count : Nat) (lastUnderscore : Bool) (value digits : Nat),
      bodyIn base cs acc count lastUnderscore = some (value, digits) → value < (acc + 1) * Nat.pow base cs.length := by
  intro cs
  induction cs with
  | nil =>
    intro acc count lastUnderscore value digits read
    cases lastUnderscore <;> simp [bodyIn] at read
    simp only [List.length_nil, Nat.pow_eq, Nat.pow_zero, Nat.mul_one]
    omega
  | cons c rest ih =>
    intro acc count lastUnderscore value digits read
    by_cases underscore : c = '_'
    · subst underscore
      cases lastUnderscore
      · have bound := ih acc count true value digits (by simpa [bodyIn] using read)
        calc value < (acc + 1) * base ^ rest.length := bound
          _ ≤ (acc + 1) * base ^ (rest.length + 1) :=
            Nat.mul_le_mul_left _ (Nat.pow_le_pow_right positive (Nat.le_succ _))
      · simp [bodyIn] at read
    · rw [bodyIn.eq_3 _ _ _ _ _ _ underscore] at read
      cases digit : digitIn base c with
      | none => simp [digit] at read
      | some d =>
        simp only [digit] at read
        have small : d < base := by
          simp only [digitIn, Option.filter_eq_some_iff] at digit
          simpa using digit.2
        calc value < (base * acc + d + 1) * base ^ rest.length := ih _ _ _ _ _ read
          _ ≤ (base * (acc + 1)) * base ^ rest.length := by
            apply Nat.mul_le_mul_right
            rw [Nat.mul_add]
            omega
          _ = (acc + 1) * base ^ (rest.length + 1) := by
            rw [Nat.pow_succ, Nat.mul_comm base, Nat.mul_assoc, Nat.mul_comm base]

theorem readBody_natAbs_lt {base : Nat} (positive : 0 < base) {negative : Bool} {cs : List Char} {n : Int}
    {count : Nat} (read : readBody base negative cs = some (n, count)) : n.natAbs < Nat.pow base cs.length := by
  unfold readBody at read
  split at read
  · cases read
  · obtain ⟨⟨value, digits⟩, body, rest⟩ := Option.bind_eq_some_iff.mp read
    have bound := bodyIn_lt positive cs 0 0 false value digits body
    obtain ⟨-, same⟩ := Option.ite_none_left_eq_some.mp rest
    cases same
    cases negative <;> simpa using bound

theorem readBody_nonneg {base : Nat} {cs : List Char} {n : Int} {count : Nat}
    (read : readBody base false cs = some (n, count)) : 0 ≤ n := by
  unfold readBody at read
  split at read
  · cases read
  · obtain ⟨⟨value, digits⟩, -, rest⟩ := Option.bind_eq_some_iff.mp read
    obtain ⟨-, same⟩ := Option.ite_none_left_eq_some.mp rest
    cases same
    exact Int.natCast_nonneg value

/-- A numeral of `k` characters in a base stands for less than the `k`-th power of the base. -/
theorem readIntIn_natAbs_lt {base : Nat} (positive : 0 < base) {s : String} {n : Int} {count : Nat}
    (read : readIntIn? base s = some (n, count)) : n.natAbs < Nat.pow base s.length := by
  rw [readIntIn?_eq] at read
  obtain ⟨cs, mapped, rest⟩ := Option.bind_eq_some_iff.mp read
  split at rest
  · cases rest
  · have bound := readBody_natAbs_lt positive rest
    have shorter := Nat.le_trans (dropRadixPrefix_length base _)
      (Nat.le_trans (signSplit_length _) (trimAscii_length cs))
    rw [asciiNumeral_length mapped, String.length_toList] at shorter
    exact Nat.lt_of_lt_of_le bound (Nat.pow_le_pow_right positive shorter)

/-- A numeral without a minus sign is no negative number. -/
theorem readIntIn_nonneg {base : Nat} {s : String} {n : Int} {count : Nat} (unsigned : '-' ∉ s.toList)
    (read : readIntIn? base s = some (n, count)) : 0 ≤ n := by
  rw [readIntIn?_eq] at read
  obtain ⟨cs, mapped, rest⟩ := Option.bind_eq_some_iff.mp read
  split at rest
  · cases rest
  · cases sign : (signSplit (trimAscii cs)).1 with
    | false => exact readBody_nonneg (sign ▸ rest)
    | true =>
      have inCs : '-' ∈ cs := trimAscii_subset cs (signSplit_negative sign)
      exact absurd (minus_of_asciiNumeral mapped inCs) unsigned

end IssueSync.Number

namespace IssueSync.Uuid

open IssueSync.Number IssueSync.Text

theorem dash_not_mem_hexOf (s : String) : '-' ∉ hexOf s := by
  simp [hexOf, List.mem_filter]

/-- Thirty-two hexadecimal characters without a minus sign always fit the 128 bits of an id. -/
theorem readHexInt_fits {s : String} {n : Int} (unsigned : '-' ∉ s.toList) (count : s.length = 32)
    (read : readHexInt? s = some n) : 0 ≤ n ∧ n.toNat < Nat.pow 2 128 := by
  obtain ⟨⟨m, digits⟩, numeral, same⟩ := Option.map_eq_some_iff.mp read
  cases same
  have nonneg := readIntIn_nonneg unsigned numeral
  have bound := readIntIn_natAbs_lt (by decide) numeral
  have wide : Nat.pow 16 32 = Nat.pow 2 128 := by decide
  rw [count, wide] at bound
  exact ⟨nonneg, by omega⟩

/-- A text reads as an id exactly when 32 characters are left once its decoration is removed, and
they are a hexadecimal numeral of the id's value. -/
theorem read_eq_ok_iff (s : String) (u : Uuid) :
    read s = .ok u ↔ (hexOf s).length = 32 ∧ readHexInt? (String.ofList (hexOf s)) = some (u.value : Int) := by
  constructor
  · intro accepted
    unfold read at accepted
    dsimp only at accepted
    split at accepted
    · cases accepted
    · rename_i long
      split at accepted
      · cases accepted
      · rename_i n numeral
        split at accepted
        · rename_i fits
          cases accepted
          refine ⟨by simpa using long, ?_⟩
          rw [numeral, Int.toNat_of_nonneg fits.1]
        · cases accepted
  · rintro ⟨count, numeral⟩
    simp only [read, count, bne_self_eq_false, Bool.false_eq_true, if_false, numeral, Int.natCast_nonneg,
      Int.toNat_natCast, u.isLt, and_self, dif_pos]

/-- The range check never refuses: a text reads as some id as soon as 32 characters are left and
they are a hexadecimal numeral. -/
theorem read_accepts_iff (s : String) :
    (∃ u, read s = .ok u) ↔ (hexOf s).length = 32 ∧ (readHexInt? (String.ofList (hexOf s))).isSome := by
  constructor
  · rintro ⟨u, accepted⟩
    obtain ⟨count, numeral⟩ := (read_eq_ok_iff s u).mp accepted
    exact ⟨count, by simp [numeral]⟩
  · rintro ⟨count, numeral⟩
    obtain ⟨n, numeral⟩ := Option.isSome_iff_exists.mp numeral
    have unsigned : '-' ∉ (String.ofList (hexOf s)).toList := by
      simpa using dash_not_mem_hexOf s
    obtain ⟨nonneg, fits⟩ := readHexInt_fits unsigned (by simpa using count) numeral
    refine ⟨⟨n.toNat, fits⟩, (read_eq_ok_iff s _).mpr ⟨count, ?_⟩⟩
    rw [numeral, Int.toNat_of_nonneg nonneg]

end IssueSync.Uuid

namespace IssueSync

open IssueSync.Number

theorem classifyKey_str_local_iff (k : String) (u : Uuid) :
    classifyKey (.str k) = .localId u ↔ Uuid.read k = .ok u := by
  simp only [classifyKey]
  cases read : Uuid.read k <;> simp

theorem classifyKey_server {key : Value} (notLocal : ∀ u, classifyKey key ≠ .localId u) :
    classifyKey key = .serverKey key := by
  cases key with
  | str k =>
    cases read : Uuid.read k with
    | ok u => exact absurd ((classifyKey_str_local_iff k u).mpr read) (notLocal u)
    | error e => simp [classifyKey, read]
  | _ => rfl

theorem asLocalId_eq_some_iff (k : String) (u : Uuid) : asLocalId k = some u ↔ Uuid.read k = .ok u := by
  simp only [asLocalId]
  cases read : Uuid.read k <;> simp

/-- Reading keys. The canonical text of every id is classified as that id, and so is read back
from every spelling that is accepted; a text is classified as an id exactly when 32 characters are
left once its decoration is removed and they are a hexadecimal numeral; and every key that is no
text is a server key holding the key as it is. -/
theorem key_classification_round_trip :
    (∀ u : Uuid, classifyKey (.str u.text) = .localId u ∧ asLocalId u.text = some u) ∧
    (∀ (k : String) (x : Uuid), asLocalId k = some x → asLocalId x.text = some x) ∧
    (∀ k : String, (∃ u, classifyKey (.str k) = .localId u) ↔
      (Uuid.hexOf k).length = 32 ∧ (readHexInt? (String.ofList (Uuid.hexOf k))).isSome) ∧
    (∀ key : Value, key.text? = none → classifyKey key = .serverKey key) := by
  have canonical : ∀ u : Uuid, asLocalId u.text = some u := fun u =>
    (asLocalId_eq_some_iff _ u).mpr (Uuid.read_text u)
  refine ⟨fun u => ⟨(classifyKey_str_local_iff _ u).mpr (Uuid.read_text u), canonical u⟩,
    fun _ x _ => canonical x, fun k => ?_, fun key noText => classifyKey_server fun u classified => ?_⟩
  · simp only [classifyKey_str_local_iff]
    exact Uuid.read_accepts_iff k
  · -- only a text can be classified as an id
    cases key <;> simp [classifyKey, Value.text?] at noText classified

example : (asLocalId "\x7burn:uuid:0F8FAD5B-D9CB-469F-A165-70867728950E\x7d").map Uuid.text =
    some "0f8fad5b-d9cb-469f-a165-70867728950e" := by decide +kernel

end IssueSync
