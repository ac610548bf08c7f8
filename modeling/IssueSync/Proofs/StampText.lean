import IssueSync.Time.Stamp

/-!
# Timestamps read back

The ISO text of a moment names it: reading the text of a moment whose fields are in range gives the
moment back, unless its offset is a fraction of a second and no more, which reads as UTC. The
text is ASCII, so the reader's bytes are its characters; each field is written with a fixed
number of digits, so the reader finds every field and separator at a fixed place. Conversely,
every moment the reader gives is in range, so the moments in range are exactly those read back.
-/

set_option autoImplicit false

namespace IssueSync.Stamp

/-- A moment its text names: fields in range, and an offset of less than a day that is UTC or at
least a second. -/
structure Valid (t : Stamp) : Prop where
  year : 1 ≤ t.year ∧ t.year ≤ 9999
  month : 1 ≤ t.month ∧ t.month ≤ 12
  day : 1 ≤ t.day ∧ t.day ≤ daysIn t.year t.month
  hour : t.hour ≤ 23
  minute : t.minute ≤ 59
  second : t.second ≤ 59
  microsecond : t.microsecond < 1000000
  offset : ∀ o, t.offset = some o → o.natAbs < 86400000000 ∧ (o = 0 ∨ 1000000 ≤ o.natAbs)

/-! ## Bytes of ASCII text -/

theorem toUTF8_ascii (cs : List Char) (ascii : ∀ c ∈ cs, c.toNat < 128) :
    (String.ofList cs).toUTF8 = (cs.map Char.toUInt8).toByteArray := by
  simp only [String.toUTF8_eq_toByteArray, String.toByteArray_ofList]
  induction cs with
  | nil => rfl
  | cons c rest ih =>
    have single : c.utf8Size = 1 := by
      rw [Char.utf8Size_eq_one_iff, UInt32.le_iff_toNat_le]
      exact Nat.le_of_lt_succ (ascii c List.mem_cons_self)
    rw [List.utf8Encode_cons, List.utf8Encode_singleton, String.utf8EncodeChar_eq_singleton single,
      ih fun x inRest => ascii x (List.mem_cons_of_mem c inRest), ← List.toByteArray_append]
    rfl

theorem byteAt_ascii (cs : List Char) (ascii : ∀ c ∈ cs, c.toNat < 128) (i : Nat) :
    byteAt (String.ofList cs).toUTF8.data i = (cs.map Char.toNat).getD i 0 := by
  rw [toUTF8_ascii cs ascii, List.data_toByteArray, byteAt, List.getD_eq_getElem?_getD, List.getElem?_map]
  simp only [List.getElem?_toArray, List.getElem?_map, Option.map_map]
  cases found : cs[i]? with
  | none => rfl
  | some c =>
    have small : c.toNat < 256 := by
      have := ascii c (List.mem_of_getElem? found)
      omega
    change c.toNat % 256 = c.toNat
    exact Nat.mod_eq_of_lt small

theorem size_ascii (cs : List Char) (ascii : ∀ c ∈ cs, c.toNat < 128) :
    (String.ofList cs).toUTF8.data.size = cs.length := by
  rw [toUTF8_ascii cs ascii, List.data_toByteArray]
  simp

/-! ## Decimal digits -/

theorem padDecimal_toList (w n : Nat) :
    (padDecimal w n).toList = List.replicate (w - (Nat.toDigits 10 n).length) '0' ++ Nat.toDigits 10 n := by
  simp [padDecimal]

theorem ofDigitChars_padDecimal (w n : Nat) : Nat.ofDigitChars 10 (padDecimal w n).toList 0 = n := by
  rw [padDecimal_toList, Nat.ofDigitChars_append, Nat.ofDigitChars_replicate_zero, Nat.mul_zero,
    Nat.ofDigitChars_toDigits (by decide) (by decide)]

theorem padDecimal_digits (w n : Nat) : ∀ c ∈ (padDecimal w n).toList, c.isDigit = true := by
  intro c member
  rw [padDecimal_toList] at member
  rcases List.mem_append.mp member with zero | digit
  · rw [(List.mem_replicate.mp zero).2]
    rfl
  · exact Nat.isDigit_of_mem_toDigits (by decide) (by decide) digit

theorem padDecimal_length {w n : Nat} (small : n < Nat.pow 10 w) (wide : 0 < w) : (padDecimal w n).toList.length = w := by
  have short := (Nat.length_toDigits_le_iff (by decide) wide).mpr small
  rw [padDecimal_toList, List.length_append, List.length_replicate]
  omega

/-! ## Where the reader finds each character -/

/-- The bytes from `i` on are the codes of `cs`. An inductive predicate rather than a recursive
definition, so that checking two of its instances equal never computes the characters of a
written field. -/
inductive Lays (bs : Array UInt8) : Nat → List Char → Prop
  | nil (i : Nat) : Lays bs i []
  | cons {i : Nat} {c : Char} {cs : List Char} : byteAt bs i = c.toNat → Lays bs (i + 1) cs →
      Lays bs i (c :: cs)

@[simp] theorem Lays.nil_iff {bs : Array UInt8} {i : Nat} : Lays bs i [] ↔ True :=
  ⟨fun _ => trivial, fun _ => .nil i⟩

@[simp] theorem Lays.cons_iff {bs : Array UInt8} {i : Nat} {c : Char} {cs : List Char} :
    Lays bs i (c :: cs) ↔ byteAt bs i = c.toNat ∧ Lays bs (i + 1) cs := by
  constructor
  · intro lays
    cases lays with
    | cons here later => exact ⟨here, later⟩
  · intro ⟨here, later⟩
    exact .cons here later

theorem Lays.append {bs : Array UInt8} {i : Nat} {xs ys : List Char} :
    Lays bs i (xs ++ ys) ↔ Lays bs i xs ∧ Lays bs (i + xs.length) ys := by
  induction xs generalizing i with
  | nil => simp
  | cons x rest ih =>
    simp only [List.cons_append, Lays.cons_iff, ih, List.length_cons, and_assoc]
    rw [show i + 1 + rest.length = i + (rest.length + 1) by omega]

theorem lays_of_byteAt {bs : Array UInt8} {i : Nat} (cs : List Char)
    (bytes : ∀ k, byteAt bs (i + k) = (cs.map Char.toNat).getD k 0) : Lays bs i cs := by
  induction cs generalizing i with
  | nil => exact .nil i
  | cons c rest ih =>
    refine .cons (by simpa using bytes 0) (ih fun k => ?_)
    rw [show i + 1 + k = i + (k + 1) by omega, bytes (k + 1)]
    simp

theorem byteAt_past {bs : Array UInt8} {i : Nat} (past : bs.size ≤ i) : byteAt bs i = 0 := by
  simp [byteAt, Array.getElem?_eq_none past]

theorem isDigitByte_toNat (c : Char) : isDigitByte c.toNat = c.isDigit := by
  simp only [isDigitByte, Char.isDigit, Char.toNat, UInt32.le_iff_toNat_le]
  rfl

theorem isDigit_toNat {c : Char} (digit : c.isDigit = true) : 48 ≤ c.toNat ∧ c.toNat ≤ 57 := by
  rw [← isDigitByte_toNat] at digit
  simpa [isDigitByte] using digit

theorem digitsAt_first {bs : Array UInt8} {n i acc : Nat} {r : Nat × Nat}
    (read : digitsAt bs (n + 1) i acc = some r) : isDigitByte (byteAt bs i) = true := by
  cases digit : isDigitByte (byteAt bs i)
  · simp [digitsAt, digit] at read
  · rfl

theorem digitsAt_lays {bs : Array UInt8} {i : Nat} {cs : List Char} (lays : Lays bs i cs)
    (digits : ∀ c ∈ cs, c.isDigit = true) (acc : Nat) :
    digitsAt bs cs.length i acc = some (Nat.ofDigitChars 10 cs acc, i + cs.length) := by
  induction cs generalizing i acc with
  | nil => rfl
  | cons c rest ih =>
    obtain ⟨here, later⟩ := Lays.cons_iff.mp lays
    have digit : isDigitByte (byteAt bs i) = true := by
      rw [here, isDigitByte_toNat]
      exact digits c List.mem_cons_self
    rw [List.length_cons, digitsAt, if_pos digit, here, Nat.ofDigitChars_cons,
      ih later (fun x inRest => digits x (List.mem_cons_of_mem c inRest))]
    simp only [Option.some.injEq, Prod.mk.injEq]
    exact ⟨rfl, by omega⟩

theorem digitsAt_padDecimal {bs : Array UInt8} {i w n : Nat} (lays : Lays bs i (padDecimal w n).toList)
    (small : n < Nat.pow 10 w) (wide : 0 < w) : digitsAt bs w i 0 = some (n, i + w) := by
  have read := digitsAt_lays lays (padDecimal_digits w n) 0
  rwa [padDecimal_length small wide, ofDigitChars_padDecimal] at read

theorem Lays.byteAt_mem {bs : Array UInt8} {i j : Nat} {cs : List Char} (lays : Lays bs i cs)
    (low : i ≤ j) (high : j < i + cs.length) : ∃ c ∈ cs, byteAt bs j = c.toNat := by
  induction cs generalizing i with
  | nil => simp at high; omega
  | cons c rest ih =>
    obtain ⟨here, later⟩ := Lays.cons_iff.mp lays
    by_cases at_i : j = i
    · exact ⟨c, List.mem_cons_self, at_i ▸ here⟩
    · obtain ⟨d, member, byte⟩ := ih later (by omega) (by simp at high; omega)
      exact ⟨d, List.mem_cons_of_mem c member, byte⟩

/-! ## Searching forward -/

theorem find?_from_eq_some {p : Nat → Bool} {n a k : Nat} (low : a ≤ k) (high : k < n)
    (found : p k = true) (before : ∀ j, a ≤ j → j < k → p j = false) :
    ((List.range n).drop a).find? p = some k := by
  rw [List.range_eq_range', List.drop_range', Nat.zero_add, Nat.mul_one, List.find?_range'_eq_some]
  refine ⟨found, List.mem_range'_1.mpr ⟨low, by omega⟩, fun j above below => ?_⟩
  simp [before j above below]

theorem find?_from_eq_none {p : Nat → Bool} {n a : Nat} (never : ∀ j, a ≤ j → j < n → p j = false) :
    ((List.range n).drop a).find? p = none := by
  rw [List.range_eq_range', List.drop_range', Nat.zero_add, Nat.mul_one, List.find?_range'_eq_none]
  intro j above below
  simp [never j above (by omega)]

/-! ## The written layout

`YYYY-MM-DD`, the separator, `HH:MM:SS`, a point and six digits when there is a fraction, and
the offset when there is one.
-/

def dateChars (y m d : Nat) : List Char :=
  (padDecimal 4 y).toList ++ '-' :: (padDecimal 2 m).toList ++ '-' :: (padDecimal 2 d).toList

def fractionChars (us : Nat) : List Char :=
  if us = 0 then [] else '.' :: (padDecimal 6 us).toList

def clockChars (h m s us : Nat) : List Char :=
  (padDecimal 2 h).toList ++ ':' :: (padDecimal 2 m).toList ++ ':' :: (padDecimal 2 s).toList ++
    fractionChars us

def zoneChars : Option Int → List Char
  | none => []
  | some o => (offsetText o).toList

theorem clockChars_chars {h m s us : Nat} :
    ∀ c ∈ clockChars h m s us, c.isDigit = true ∨ c = ':' ∨ c = '.' := by
  intro c member
  simp only [clockChars, List.mem_append, List.mem_cons] at member
  rcases member with ((digit | colon | digit) | colon | digit) | fraction
  · exact .inl (padDecimal_digits _ _ c digit)
  · exact .inr (.inl colon)
  · exact .inl (padDecimal_digits _ _ c digit)
  · exact .inr (.inl colon)
  · exact .inl (padDecimal_digits _ _ c digit)
  · by_cases zero : us = 0
    · simp [fractionChars, zero] at fraction
    · simp only [fractionChars, zero, if_false, List.mem_cons] at fraction
      rcases fraction with point | digit
      · exact .inr (.inr point)
      · exact .inl (padDecimal_digits _ _ c digit)

theorem text_toList (t : Stamp) :
    t.text.toList = dateChars t.year t.month t.day ++
      'T' :: (clockChars t.hour t.minute t.second t.microsecond ++ zoneChars t.offset) := by
  cases off : t.offset <;> by_cases zero : t.microsecond = 0 <;>
    simp [text, Stamp.isoWith, dateChars, clockChars, fractionChars, zoneChars, off, zero]

/-- An offset after its sign: hours and minutes, then seconds and the fraction unless both are
zero. -/
def zoneBody (o : Int) : List Char :=
  if o.natAbs % 1000000 = 0 ∧ o.natAbs / 1000000 % 60 = 0 then
    (padDecimal 2 (o.natAbs / 1000000 / 3600)).toList ++ ':' :: (padDecimal 2 (o.natAbs / 1000000 / 60 % 60)).toList
  else
    clockChars (o.natAbs / 1000000 / 3600) (o.natAbs / 1000000 / 60 % 60) (o.natAbs / 1000000 % 60)
      (o.natAbs % 1000000)

theorem offsetText_toList (o : Int) : (offsetText o).toList = (if o < 0 then '-' else '+') :: zoneBody o := by
  by_cases negative : o < 0 <;> by_cases us : o.natAbs % 1000000 = 0 <;>
    by_cases secs : o.natAbs / 1000000 % 60 = 0 <;>
    simp [offsetText, zoneBody, clockChars, fractionChars, negative, us, secs]

/-! ## Reading a time of day -/

theorem readClock_hm {bs : Array UInt8} {i h m : Nat}
    (lays : Lays bs i ((padDecimal 2 h).toList ++ ':' :: (padDecimal 2 m).toList))
    (hSmall : h < 100) (mSmall : m < 100) :
    readClock bs i (i + 5) = some ([h, m], 0, byteAt bs (i + 5) != 0) := by
  rw [Lays.append, Lays.cons_iff, padDecimal_length hSmall (by decide)] at lays
  obtain ⟨layH, colon, layM⟩ := lays
  have readH := digitsAt_padDecimal layH hSmall (by decide)
  have readM := digitsAt_padDecimal layM mSmall (by decide)
  have notYet : ¬ i + 2 ≤ i := by omega
  simp only [readClock, readClock.fields, readH, readM, colon]
  simp [notYet]

theorem clockChars_length {h m s us : Nat} (hSmall : h < 100) (mSmall : m < 100) (sSmall : s < 100)
    (usSmall : us < 1000000) : (clockChars h m s us).length = if us = 0 then 8 else 15 := by
  by_cases zero : us = 0 <;>
    simp [clockChars, fractionChars, zero, padDecimal_length, hSmall, mSmall, sSmall, usSmall]

theorem readClock_clockChars {bs : Array UInt8} {i h m s us : Nat} (lays : Lays bs i (clockChars h m s us))
    (hSmall : h < 100) (mSmall : m < 100) (sSmall : s < 100) (usSmall : us < 1000000)
    (ends : isDigitByte (byteAt bs (i + (clockChars h m s us).length)) = false)
    (within : i + (clockChars h m s us).length ≤ bs.size) :
    readClock bs i (i + (clockChars h m s us).length) =
      some ([h, m, s], us, byteAt bs (i + (clockChars h m s us).length) != 0) := by
  rw [clockChars_length hSmall mSmall sSmall usSmall] at ends within ⊢
  simp only [clockChars, List.append_assoc, List.cons_append, Lays.append, Lays.cons_iff,
    padDecimal_length hSmall (by decide : 0 < 2), padDecimal_length mSmall (by decide : 0 < 2),
    padDecimal_length sSmall (by decide : 0 < 2)] at lays
  obtain ⟨layH, colon, layM, colon', layS, layF⟩ := lays
  have readH := digitsAt_padDecimal layH hSmall (by decide)
  have readM := digitsAt_padDecimal layM mSmall (by decide)
  have readS := digitsAt_padDecimal layS sSmall (by decide)
  by_cases zero : us = 0
  · -- the seconds end the time of day
    simp +arith [zero, readClock, readClock.fields, readH, readM, readS, colon, colon']
  · -- a point and six digits of fraction follow the seconds
    simp only [fractionChars, zero, if_false, Lays.cons_iff] at layF
    obtain ⟨point, layU⟩ := layF
    have readU : digitsAt bs 6 (i + 9) 0 = some (us, i + 15) := by
      simpa [Nat.add_assoc] using digitsAt_padDecimal layU usSmall (by decide)
    simp only [zero, if_false] at ends within
    -- the fraction's digits run to the first byte that is no digit
    have stopAt : ((List.range (bs.size + 1)).drop (i + 15)).find? (fun j => !isDigitByte (byteAt bs j)) =
        some (i + 15) :=
      find?_from_eq_some (Nat.le_refl _) (by omega) (by simp [ends]) (fun j low high => by omega)
    simp +arith [zero, readClock, readClock.fields, readH, readM, readS, colon, colon', point, readU, stopAt]

theorem clock_opens_no_zone {bs : Array UInt8} {start : Nat} {cs : List Char} (lays : Lays bs start cs)
    (chars : ∀ c ∈ cs, c.isDigit = true ∨ c = ':' ∨ c = '.') {j : Nat} (low : start ≤ j)
    (high : j < start + cs.length) :
    (byteAt bs j == 90 || byteAt bs j == 43 || byteAt bs j == 45) = false := by
  obtain ⟨c, member, byte⟩ := lays.byteAt_mem low high
  rcases chars c member with digit | rfl | rfl
  · have range := isDigit_toNat digit
    rw [byte]
    simp only [Bool.or_eq_false_iff, beq_eq_false_iff_ne]
    omega
  · rw [byte]
    decide
  · rw [byte]
    decide

/-- An offset reads back as its hours, minutes and seconds and its fraction, to the end of the
text. -/
theorem readClock_zoneBody {bs : Array UInt8} {i : Nat} {o : Int} (small : o.natAbs < 86400000000)
    (lays : Lays bs i (zoneBody o)) (size : bs.size = i + (zoneBody o).length) :
    ∃ fields, readClock bs i bs.size = some (fields, o.natAbs % 1000000, false) ∧
      clockParts fields = (o.natAbs / 1000000 / 3600, o.natAbs / 1000000 / 60 % 60, o.natAbs / 1000000 % 60) := by
  have hoursSmall : o.natAbs / 1000000 / 3600 < 100 := by omega
  have minutesSmall : o.natAbs / 1000000 / 60 % 60 < 100 := by omega
  unfold zoneBody at lays size
  by_cases short : o.natAbs % 1000000 = 0 ∧ o.natAbs / 1000000 % 60 = 0
  · -- hours and minutes alone: no seconds and no fraction to read
    rw [if_pos short] at lays size
    simp only [List.length_append, List.length_cons, padDecimal_length hoursSmall (by decide : 0 < 2),
      padDecimal_length minutesSmall (by decide : 0 < 2)] at size
    have readZone := readClock_hm lays hoursSmall minutesSmall
    rw [show i + 5 = bs.size by omega, byteAt_past (Nat.le_refl _)] at readZone
    rw [short.1, short.2]
    exact ⟨_, readZone, rfl⟩
  · rw [if_neg short] at lays size
    have readZone := readClock_clockChars lays hoursSmall minutesSmall (by omega) (by omega)
    rw [← size, byteAt_past (Nat.le_refl _)] at readZone
    exact ⟨_, readZone (by decide) (Nat.le_refl _), rfl⟩

/-! ## Reading the time and the offset -/

theorem clockParts_three (h m s : Nat) : clockParts [h, m, s] = (h, m, s) := rfl

theorem readTime_written {bs : Array UInt8} {start h mi s us : Nat} {off : Option Int}
    (lays : Lays bs start (clockChars h mi s us ++ zoneChars off))
    (size : bs.size = start + (clockChars h mi s us ++ zoneChars off).length)
    (hSmall : h < 100) (miSmall : mi < 100) (sSmall : s < 100) (usSmall : us < 1000000)
    (zone : ∀ o, off = some o → o.natAbs < 86400000000 ∧ (o = 0 ∨ 1000000 ≤ o.natAbs)) :
    readTime bs start = some (h, mi, s, us, off) := by
  rw [Lays.append] at lays
  obtain ⟨layC, layZ⟩ := lays
  rw [List.length_append] at size
  have long := clockChars_length hSmall miSmall sSmall usSmall
  have readC := readClock_clockChars layC hSmall miSmall sSmall usSmall
  cases off with
  | none =>
    -- the time of day runs to the end of the text
    simp only [zoneChars, List.length_nil, Nat.add_zero] at size
    have noZone : ((List.range bs.size).drop start).find?
        (fun j => byteAt bs j == 90 || byteAt bs j == 43 || byteAt bs j == 45) = none :=
      find?_from_eq_none fun j low high => clock_opens_no_zone layC clockChars_chars low (by omega)
    have past : byteAt bs (start + (clockChars h mi s us).length) = 0 := byteAt_past (by omega)
    rw [past, ← size] at readC
    have wide : max bs.size (start + 1) = bs.size := by split at long <;> omega
    have readAll := readC (by decide) (by omega)
    simp [readTime, noZone, wide, readAll, clockParts]
  | some o =>
    obtain ⟨small, whole⟩ := zone o rfl
    simp only [zoneChars, offsetText_toList, Lays.cons_iff, List.length_cons] at layZ size
    obtain ⟨signByte, layBody⟩ := layZ
    have signNotDigit : isDigitByte (byteAt bs (start + (clockChars h mi s us).length)) = false := by
      rw [signByte]
      split <;> decide
    -- the sign opens the offset right after the time of day
    have zoneAt : ((List.range bs.size).drop start).find?
        (fun j => byteAt bs j == 90 || byteAt bs j == 43 || byteAt bs j == 45) =
          some (start + (clockChars h mi s us).length) :=
      find?_from_eq_some (by omega) (by omega) (by rw [signByte]; split <;> decide)
        fun j low high => clock_opens_no_zone layC clockChars_chars low high
    have readAll := readC signNotDigit (by omega)
    have signAt : byteAt bs (start + (clockChars h mi s us).length) = if o < 0 then 45 else 43 := by
      rw [signByte]
      split <;> rfl
    obtain ⟨fields, readZone, parts⟩ := readClock_zoneBody small layBody (by omega)
    have before : ¬ bs.size ≤ start + (clockChars h mi s us).length := by omega
    -- the sign gives the offset's direction, and seconds and fraction add up to the offset again
    by_cases negative : o < 0 <;>
      simp only [readTime, zoneAt, Option.getD_some, readAll, readZone, parts, before, if_false, signAt,
        negative, if_true, Bool.false_eq_true, Option.some.injEq, Prod.mk.injEq, true_and, clockParts_three,
        Nat.reduceBEq, beq_self_eq_true, beq_iff_eq] <;>
      split <;> omega

/-! ## Reading the date -/

theorem dateChars_length {y m d : Nat} (ySmall : y < 10000) (mSmall : m < 100) (dSmall : d < 100) :
    (dateChars y m d).length = 10 := by
  simp [dateChars, padDecimal_length, ySmall, mSmall, dSmall]

theorem dateChars_lays {bs : Array UInt8} {y m d : Nat} (ySmall : y < 10000) (mSmall : m < 100) :
    Lays bs 0 (dateChars y m d) ↔ Lays bs 0 (padDecimal 4 y).toList ∧ byteAt bs 4 = 45 ∧
      Lays bs 5 (padDecimal 2 m).toList ∧ byteAt bs 7 = 45 ∧ Lays bs 8 (padDecimal 2 d).toList := by
  simp only [dateChars, List.append_assoc, List.cons_append, Lays.append, Lays.cons_iff,
    padDecimal_length ySmall (by decide : 0 < 4), padDecimal_length mSmall (by decide : 0 < 2)]
  rfl

-- After the dash of a written date comes a digit of the month, never the `W` of a week date.
theorem written_date_not_week {bs : Array UInt8} {y m d : Nat} (lays : Lays bs 0 (dateChars y m d))
    (ySmall : y < 10000) (mSmall : m < 100) : byteAt bs 5 ≠ 87 := by
  obtain ⟨-, -, layM, -, -⟩ := (dateChars_lays ySmall mSmall).mp lays
  have digit := digitsAt_first (digitsAt_padDecimal layM mSmall (by decide))
  intro week
  rw [week] at digit
  exact absurd digit (by decide)

theorem separatorAt_written {bs : Array UInt8} {len y m d : Nat} (lays : Lays bs 0 (dateChars y m d))
    (ySmall : y < 10000) (mSmall : m < 100) (notShort : len ≠ 7) : separatorAt bs len = some 10 := by
  obtain ⟨-, dash, -, -, -⟩ := (dateChars_lays ySmall mSmall).mp lays
  simp [separatorAt, notShort, dash, written_date_not_week lays ySmall mSmall]

theorem readDate_written {bs : Array UInt8} {len y m d : Nat} (lays : Lays bs 0 (dateChars y m d))
    (ySmall : y < 10000) (mSmall : m < 100) (dSmall : d < 100) : readDate bs len = .date y m d := by
  obtain ⟨layY, dash, layM, dash', layD⟩ := (dateChars_lays ySmall mSmall).mp lays
  have readM := digitsAt_padDecimal layM mSmall (by decide)
  have notWeek := written_date_not_week lays ySmall mSmall
  simp [readDate, digitsAt_padDecimal layY ySmall (by decide), dash, notWeek, readM, dash',
    digitsAt_padDecimal layD dSmall (by decide)]

/-! ## The whole text -/

theorem daysIn_le (y m : Nat) : daysIn y m ≤ 31 := by
  unfold daysIn
  split
  · split <;> omega
  · split <;> omega

theorem check_valid {t : Stamp} (valid : t.Valid) : check t = .ok t := by
  obtain ⟨year, month, day, hour, minute, second, -, offset⟩ := valid
  have fields : check.checkFields t = .ok t := by
    simp only [check.checkFields]
    rw [if_neg (by simp; omega), if_neg (by simp; omega), if_neg (by simp; omega), if_neg (by omega),
      if_neg (by omega), if_neg (by omega)]
  cases off : t.offset with
  | none => simp [check, off, fields]
  | some o =>
    have small := (offset o off).1
    simp [check, off, fields, Nat.not_le.mpr small]

theorem digit_ascii {c : Char} (digit : c.isDigit = true) : c.toNat < 128 := by
  have := isDigit_toNat digit
  omega

theorem clockChars_ascii {h m s us : Nat} : ∀ c ∈ clockChars h m s us, c.toNat < 128 := by
  intro c member
  rcases clockChars_chars c member with digit | rfl | rfl
  · exact digit_ascii digit
  · decide
  · decide

theorem zoneChars_ascii (off : Option Int) : ∀ c ∈ zoneChars off, c.toNat < 128 := by
  intro c member
  cases off with
  | none => simp [zoneChars] at member
  | some o =>
    simp only [zoneChars, offsetText_toList, List.mem_cons] at member
    rcases member with sign | body
    · rw [sign]
      split <;> decide
    · unfold zoneBody at body
      split at body
      · simp only [List.mem_append, List.mem_cons] at body
        rcases body with digit | colon | digit
        · exact digit_ascii (padDecimal_digits _ _ c digit)
        · rw [colon]
          decide
        · exact digit_ascii (padDecimal_digits _ _ c digit)
      · exact clockChars_ascii c body

theorem text_ascii (t : Stamp) : ∀ c ∈ t.text.toList, c.toNat < 128 := by
  have digits (w n : Nat) : ∀ c ∈ (padDecimal w n).toList, c.toNat < 128 :=
    fun c member => digit_ascii (padDecimal_digits w n c member)
  rw [text_toList]
  simp only [dateChars, List.append_assoc, List.cons_append, List.forall_mem_append, List.forall_mem_cons]
  exact ⟨digits _ _, by decide, digits _ _, by decide, digits _ _, by decide, clockChars_ascii,
    zoneChars_ascii _⟩

theorem asciiSeparator_ascii {cs : List Char} (ascii : ∀ c ∈ cs, c.toNat < 128) : asciiSeparator cs = cs := by
  have none : [7, 8, 10].find? (fun i => i < cs.length && (cs.getD i 'T').toNat ≥ 0x80) = none := by
    rw [List.find?_eq_none]
    intro i _ wide
    simp only [Bool.and_eq_true, decide_eq_true_eq] at wide
    obtain ⟨inside, large⟩ := wide
    rw [List.getD_eq_getElem?_getD, List.getElem?_eq_getElem inside, Option.getD_some] at large
    have small := ascii _ (List.getElem_mem inside)
    omega
  simp only [asciiSeparator, none]

/-- The text of a moment whose fields are in range reads back as that moment. -/
theorem read_text (t : Stamp) (valid : t.Valid) : read t.text = .ok t := by
  have ascii := text_ascii t
  have ySmall : t.year < 10000 := by have := valid.year; omega
  have mSmall : t.month < 100 := by have := valid.month; omega
  have dSmall : t.day < 100 := by
    have := valid.day
    have := daysIn_le t.year t.month
    omega
  have lays : Lays t.text.toUTF8.data 0 t.text.toList := by
    refine lays_of_byteAt _ fun k => ?_
    rw [Nat.zero_add, ← byteAt_ascii _ ascii k, String.ofList_toList]
  have size : t.text.toUTF8.data.size = t.text.toList.length := by
    rw [← size_ascii _ ascii, String.ofList_toList]
  rw [text_toList, Lays.append, Lays.cons_iff, dateChars_length ySmall mSmall dSmall] at lays
  obtain ⟨layDate, -, layTime⟩ := lays
  rw [text_toList, List.length_append, List.length_cons, dateChars_length ySmall mSmall dSmall] at size
  have time := readTime_written layTime (by omega) (by have := valid.hour; omega)
    (by have := valid.minute; omega) (by have := valid.second; omega) valid.microsecond valid.offset
  have long : ¬ t.text.length < 7 := by
    rw [← String.length_toList, text_toList, List.length_append, dateChars_length ySmall mSmall dSmall]
    omega
  simp only [read, asciiSeparator_ascii ascii, String.ofList_toList, long, if_false,
    separatorAt_written layDate ySmall mSmall (by omega : t.text.toUTF8.data.size ≠ 7),
    readDate_written layDate ySmall mSmall dSmall]
  rw [if_pos (by omega), show 10 + 1 = 0 + 10 + 1 from rfl, time]
  exact check_valid valid

/-! ## Every moment read is in range -/

/-- What the checks let through: the fields in range and an offset of less than a day. -/
theorem check_ok {t t' : Stamp} (checked : check t = .ok t') :
    t' = t ∧ (1 ≤ t.year ∧ t.year ≤ 9999) ∧ (1 ≤ t.month ∧ t.month ≤ 12) ∧
      (1 ≤ t.day ∧ t.day ≤ daysIn t.year t.month) ∧ t.hour ≤ 23 ∧ t.minute ≤ 59 ∧ t.second ≤ 59 ∧
      ∀ o, t.offset = some o → o.natAbs < 86400000000 := by
  have fields : check.checkFields t = .ok t' →
      t' = t ∧ (1 ≤ t.year ∧ t.year ≤ 9999) ∧ (1 ≤ t.month ∧ t.month ≤ 12) ∧
        (1 ≤ t.day ∧ t.day ≤ daysIn t.year t.month) ∧ t.hour ≤ 23 ∧ t.minute ≤ 59 ∧ t.second ≤ 59 := by
    intro passed
    -- each check either refuses or lets the next one run
    simp only [check.checkFields] at passed
    split at passed
    · cases passed
    split at passed
    · cases passed
    split at passed
    · cases passed
    split at passed
    · cases passed
    split at passed
    · cases passed
    split at passed
    · cases passed
    rename_i year month day hour minute second
    cases passed
    simp only [Bool.or_eq_true, decide_eq_true_eq, not_or, Nat.not_lt, gt_iff_lt] at year month day
    exact ⟨rfl, year, month, day, Nat.not_lt.mp hour, Nat.not_lt.mp minute, Nat.not_lt.mp second⟩
  cases off : t.offset with
  | none =>
    simp only [check, off] at checked
    obtain ⟨same, year, month, day, hour, minute, second⟩ := fields checked
    refine ⟨same, year, month, day, hour, minute, second, fun o absent => ?_⟩
    cases absent
  | some o =>
    simp only [check, off] at checked
    split at checked
    · cases checked
    rename_i small
    obtain ⟨same, year, month, day, hour, minute, second⟩ := fields checked
    refine ⟨same, year, month, day, hour, minute, second, fun o' present => ?_⟩
    cases Option.some.inj present
    omega

theorem digitsAt_lt {bs : Array UInt8} {n i acc v j : Nat} (read : digitsAt bs n i acc = some (v, j)) :
    v < (acc + 1) * Nat.pow 10 n := by
  induction n generalizing i acc with
  | zero =>
    simp only [digitsAt, Option.some.injEq, Prod.mk.injEq] at read
    show v < (acc + 1) * 1
    omega
  | succ n ih =>
    simp only [digitsAt] at read
    split at read
    · rename_i digit
      have small : byteAt bs i - 48 ≤ 9 := by
        simp only [isDigitByte, Bool.and_eq_true, decide_eq_true_eq] at digit
        omega
      -- one more digit multiplies the bound by ten
      calc v < (10 * acc + (byteAt bs i - 48) + 1) * Nat.pow 10 n := ih read
        _ ≤ (10 * (acc + 1)) * Nat.pow 10 n := Nat.mul_le_mul_right _ (by omega)
        _ = (acc + 1) * (Nat.pow 10 n * 10) := by
          rw [Nat.mul_comm 10 (acc + 1), Nat.mul_assoc, Nat.mul_comm 10]
        _ = (acc + 1) * Nat.pow 10 (n + 1) := rfl
    · cases read

/-- A fraction is read to microseconds: six digits, or fewer scaled up. -/
theorem readClock_micro {bs : Array UInt8} {start stop : Nat} {vals : List Nat} {f : Nat} {rest : Bool}
    (read : readClock bs start stop = some (vals, f, rest)) : f < 1000000 := by
  simp only [readClock] at read
  split at read
  · cases read
  · cases read
    decide
  · rename_i j _ _
    split at read
    · cases read
    · rename_i f' k digits
      simp only [Option.some.injEq, Prod.mk.injEq] at read
      obtain ⟨-, same, -⟩ := read
      subst same
      have bound := digitsAt_lt digits
      by_cases whole : stop - j ≥ 6
      · -- six digits: the fraction is read as it stands
        simp only [whole, if_true, Nat.lt_irrefl, if_false, Nat.zero_add, Nat.one_mul] at bound ⊢
        exact bound
      · -- fewer digits are scaled up to six
        simp only [whole, if_false, Nat.zero_add, Nat.one_mul] at bound ⊢
        have scaled : Nat.pow 10 (stop - j) * Nat.pow 10 (6 - (stop - j)) = 1000000 := by
          rw [Nat.pow_eq, Nat.pow_eq, ← Nat.pow_add, Nat.add_sub_cancel' (by omega)]
        rw [if_pos (by omega), ← scaled]
        exact Nat.mul_lt_mul_of_pos_right bound (Nat.pow_pos (by decide))

theorem readTime_ranges {bs : Array UInt8} {start h m s us : Nat} {off : Option Int}
    (read : readTime bs start = some (h, m, s, us, off)) :
    us < 1000000 ∧ ∀ o, off = some o → o = 0 ∨ 1000000 ≤ o.natAbs := by
  simp only [readTime] at read
  split at read
  · cases read
  · rename_i vals micro rest clock
    have microSmall := readClock_micro clock
    split at read
    · -- no offset
      split at read
      · cases read
      · cases read
        exact ⟨microSmall, fun o absent => by cases absent⟩
    · split at read
      · -- `Z` is UTC
        split at read
        · cases read
        · cases read
          exact ⟨microSmall, fun o utc => .inl (Option.some.inj utc).symm⟩
      · split at read
        · cases read
        · split at read
          · cases read
          · cases read
            refine ⟨microSmall, fun o total => ?_⟩
            cases Option.some.inj total
            -- an offset of some seconds is at least a second, whatever its sign
            simp only [beq_iff_eq]
            split
            · exact .inl rfl
            · right
              split <;> omega

theorem valid_of_check {t t' : Stamp} (checked : check t = .ok t') (micro : t.microsecond < 1000000)
    (whole : ∀ o, t.offset = some o → o = 0 ∨ 1000000 ≤ o.natAbs) : t'.Valid := by
  obtain ⟨same, year, month, day, hour, minute, second, offset⟩ := check_ok checked
  subst same
  exact ⟨year, month, day, hour, minute, second, micro, fun o present => ⟨offset o present, whole o present⟩⟩

/-- Every moment read from text is in range: the moments in range are exactly those read back. -/
theorem valid_of_read {s : String} {t : Stamp} (parsed : read s = .ok t) : t.Valid := by
  simp only [read] at parsed
  split at parsed
  · cases parsed
  split at parsed
  · cases parsed
  split at parsed
  · cases parsed
  · cases parsed
  · split at parsed
    · split at parsed
      · cases parsed
      · rename_i time
        obtain ⟨micro, whole⟩ := readTime_ranges time
        exact valid_of_check parsed micro whole
    · -- a date alone is midnight, local time
      exact valid_of_check parsed (Nat.zero_lt_succ _) fun o absent => by cases absent

end IssueSync.Stamp
