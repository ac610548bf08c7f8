import IssueSync.Data.Json.Writer
import IssueSync.Proofs.LocalStore
import IssueSync.Proofs.IdText

/-!
# JSON text of plain data

The compact JSON text of plain data (null, booleans, integers of at most 4300 digits, texts, lists
and mappings from distinct texts) reads back as that data. The reader is run on the written text
followed by what may close it (nothing, a comma, a closing bracket or brace), with any fuel at least
as long as the text; items and members are then read one after another up to the closing bracket,
every key being new. The text holds no carriage return, so a store file holding it reads back
unchanged by the line-end normalisation.

A store write replaces its target as a whole or not at all: when it returns, the target reads back
as the document and every other path, the temporary file beside the target among them, holds what it
held; when it fails, the host is left as it was.
-/

set_option autoImplicit false

namespace IssueSync.Json

open IssueSync.Number IssueSync.Text

/-- What may follow a value in compact JSON text: nothing, or the comma or closing bracket of the
collection it stands in. -/
def Delimited (rest : List Char) : Prop :=
  rest = [] ∨ ∃ c r, rest = c :: r ∧ (c = ',' ∨ c = ']' ∨ c = '}')


/-! ## Decimal numerals -/

theorem digitChar_facts : ∀ d < 10, digitValue? (Nat.digitChar d) = some d ∧ isAsciiDigit (Nat.digitChar d) = true ∧
    isSpace (Nat.digitChar d) = false ∧ Nat.digitChar d ≠ ']' ∧ Nat.digitChar d ≠ '}' ∧ Nat.digitChar d ≠ '﻿' ∧
    Nat.digitChar d ≠ '\r' ∧ Nat.digitChar d ≠ '"' ∧ Nat.digitChar d ≠ '{' ∧ Nat.digitChar d ≠ '[' ∧
    Nat.digitChar d ≠ 'n' ∧ Nat.digitChar d ≠ 't' ∧ Nat.digitChar d ≠ 'f' ∧ Nat.digitChar d ≠ 'N' ∧
    Nat.digitChar d ≠ 'I' ∧ Nat.digitChar d ≠ '-' := by
  decide

theorem decimal_chars (n : Nat) : ∀ c ∈ Nat.toDigits 10 n, ∃ d < 10, c = Nat.digitChar d := by
  induction n using Nat.strongRecOn with
  | ind n smaller =>
    rw [Nat.toDigits_eq_if (by decide)]
    split
    · intro c member
      exact ⟨n, by assumption, by simpa using member⟩
    · intro c member
      rcases List.mem_append.mp member with inner | last
      · exact smaller (n / 10) (by omega) c inner
      · exact ⟨n % 10, Nat.mod_lt n (by decide), by simpa using last⟩

theorem decimal_fold (n : Nat) : (Nat.toDigits 10 n).foldl (fun acc c => 10 * acc + (digitValue? c).getD 0) 0 = n := by
  induction n using Nat.strongRecOn with
  | ind n smaller =>
    rw [Nat.toDigits_eq_if (by decide)]
    split
    · rename_i small
      simp [(digitChar_facts n small).1]
    · rw [List.foldl_append, smaller (n / 10) (by omega)]
      simp only [List.foldl_cons, List.foldl_nil, (digitChar_facts (n % 10) (Nat.mod_lt n (by decide))).1,
        Option.getD_some]
      omega

theorem readDigits_toDigits (n : Nat) (fits : (Nat.toDigits 10 n).length ≤ digitLimit) :
    readDigits (Nat.toDigits 10 n) = .ok n := by
  simp only [readDigits, gt_iff_lt, Nat.not_lt.mpr fits, if_false, decimal_fold]

/-- A positive number is written without a leading zero. -/
theorem toDigits_lead (n : Nat) (positive : 0 < n) : ∃ c cs, Nat.toDigits 10 n = c :: cs ∧ '1' ≤ c ∧ c ≤ '9' := by
  induction n using Nat.strongRecOn with
  | ind n smaller =>
    rw [Nat.toDigits_eq_if (by decide)]
    split
    · rename_i small
      have lead : ∀ d < 10, 0 < d → '1' ≤ Nat.digitChar d ∧ Nat.digitChar d ≤ '9' := by decide
      exact ⟨_, [], rfl, lead n small positive⟩
    · obtain ⟨c, cs, digits, lead⟩ := smaller (n / 10) (by omega) (by omega)
      exact ⟨c, cs ++ [Nat.digitChar (n % 10)], by rw [digits, List.cons_append], lead⟩

theorem takeDigits_append {ds rest : List Char} (digits : ∀ c ∈ ds, isAsciiDigit c = true)
    (delimited : Delimited rest) : takeDigits (ds ++ rest) = (ds, rest) := by
  have stop : ∀ c r, rest = c :: r → isAsciiDigit c = false := by
    rintro c r rfl
    rcases delimited with empty | ⟨c', r', same, comma | close | brace⟩
    · cases empty
    all_goals
      obtain ⟨rfl, -⟩ := List.cons.inj same
      subst_vars
      decide
  induction ds with
  | nil =>
    cases rest with
    | nil => rfl
    | cons c r => simp [takeDigits, stop c r rfl]
  | cons d ds ih =>
    have first := digits d List.mem_cons_self
    have later := ih fun c member => digits c (List.mem_cons_of_mem d member)
    simp only [takeDigits, Prod.mk.injEq] at later ⊢
    simp [first, later]

theorem readNumber_nonzero {c : Char} {cs rest : List Char} {n : Nat} (negative : Bool) (lead : '1' ≤ c ∧ c ≤ '9')
    (digits : ∀ d ∈ cs, isAsciiDigit d = true) (value : readDigits (c :: cs) = .ok n) (delimited : Delimited rest)
    (pos : Nat) :
    readNumber ((if negative then ['-'] else []) ++ c :: cs ++ rest) pos =
      some (.ok (.int (if negative then -(n : Int) else n), rest,
        pos + ((if negative then 1 else 0) + (c :: cs).length))) := by
  have notMinus : c ≠ '-' := by
    rintro rfl
    simp at lead
  have notZero : c ≠ '0' := by
    rintro rfl
    simp at lead
  have bounds : ('1' ≤ c && c ≤ '9') = true := by simpa using lead
  have taken := takeDigits_append digits delimited
  rcases delimited with rfl | ⟨d, r, rfl, closing⟩
  · rw [List.append_nil] at taken
    cases negative <;> simp [readNumber, notMinus, bounds, taken, value] <;> omega
  · rcases closing with rfl | rfl | rfl <;> cases negative <;> simp [readNumber, notMinus, bounds, taken, value] <;>
      omega

theorem readNumber_zero {rest : List Char} (delimited : Delimited rest) (pos : Nat) :
    readNumber ('0' :: rest) pos = some (.ok (.int 0, rest, pos + 1)) := by
  rcases delimited with rfl | ⟨d, r, rfl, closing⟩
  · simp [readNumber, readDigits, digitLimit, digitValue?, decimalRuns]
  · rcases closing with rfl | rfl | rfl <;> simp [readNumber, readDigits, digitLimit, digitValue?, decimalRuns] <;> omega

theorem readValue_number {c : Char} (rest : List Char) (fuel pos : Nat) (quote : c ≠ '"') (brace : c ≠ '{')
    (bracket : c ≠ '[') (n : c ≠ 'n') (t : c ≠ 't') (f : c ≠ 'f') (nan : c ≠ 'N') (inf : c ≠ 'I') (minus : c ≠ '-') :
    readValue (fuel + 1) (c :: rest) pos = (readNumber (c :: rest) pos).getD (.error (.grammar "Expecting value" pos)) := by
  simp [readValue, quote, brace, bracket, n, t, f, nan, inf, minus]

theorem readValue_negative {c : Char} (rest : List Char) (fuel pos : Nat) (inf : c ≠ 'I') :
    readValue (fuel + 1) ('-' :: c :: rest) pos =
      (readNumber ('-' :: c :: rest) pos).getD (.error (.grammar "Expecting value" pos)) := by
  simp [readValue, inf]


theorem write_int_toList (n : Int) :
    (write (.int n)).toList = if 0 ≤ n then Nat.toDigits 10 n.toNat else '-' :: Nat.toDigits 10 (-n).toNat := by
  simp only [write, toString, Int.repr_eq_if]
  split <;> simp [Nat.toList_repr]

/-- A number's digits, with the number's sign in front, read back as the number. -/
theorem readValue_digits (negative : Bool) (m : Nat) (positive : negative = true → 0 < m)
    (fits : (Nat.toDigits 10 m).length ≤ digitLimit) (fuel : Nat) {rest : List Char} (delimited : Delimited rest)
    (pos : Nat) :
    readValue (fuel + 1) ((if negative then ['-'] else []) ++ Nat.toDigits 10 m ++ rest) pos =
      .ok (.int (if negative then -(m : Int) else m), rest,
        pos + ((if negative then 1 else 0) + (Nat.toDigits 10 m).length)) := by
  by_cases zero : m = 0
  · subst zero
    cases negative
    · simp only [Nat.toDigits_zero, if_false, List.nil_append, List.cons_append, Bool.false_eq_true]
      rw [readValue_number _ _ _ (by decide) (by decide) (by decide) (by decide) (by decide) (by decide)
        (by decide) (by decide) (by decide), readNumber_zero delimited]
      rfl
    · exact absurd (positive rfl) (by decide)
  · obtain ⟨c, cs, digits, lead⟩ := toDigits_lead m (by omega)
    obtain ⟨d, small, rfl⟩ := decimal_chars m c (by simp [digits])
    obtain ⟨-, -, -, -, -, -, -, quote, brace, bracket, n, t, f, nan, inf, minus⟩ := digitChar_facts d small
    have later : ∀ e ∈ cs, isAsciiDigit e = true := by
      intro e member
      obtain ⟨d', small', rfl⟩ := decimal_chars m e (by simp [digits, member])
      exact (digitChar_facts d' small').2.1
    have value := readDigits_toDigits m fits
    rw [digits] at value fits ⊢
    have number := readNumber_nonzero negative lead later value delimited pos
    cases negative
    · simp only [if_false, List.nil_append, Bool.false_eq_true] at number ⊢
      rw [List.cons_append, readValue_number _ _ _ quote brace bracket n t f nan inf minus, ← List.cons_append,
        number]
      rfl
    · simp only [if_true, List.nil_append, List.cons_append] at number ⊢
      rw [readValue_negative _ _ _ inf, number]
      rfl

/-! ## Strings -/

variable {begin : Nat}

theorem readString_plain {c : Char} (rest : List Char) (pos : Nat) (acc : List Char) (notQuote : c ≠ '"')
    (notBackslash : c ≠ '\\') (printable : 31 < c.toNat) :
    readString begin (c :: rest) pos acc = readString begin rest (pos + 1) (c :: acc) := by
  rw [readString.eq_8 _ _ _ _ _ notQuote (fun same => absurd same notBackslash)
    (fun _ _ _ _ _ _ _ _ _ _ same => absurd same notBackslash) (fun _ _ _ _ _ _ same => absurd same notBackslash)
    (fun _ same => absurd same notBackslash) (fun _ _ same => absurd same notBackslash)]
  simp [Nat.not_le.mpr printable]

theorem readString_short {c e : Char} (rest : List Char) (pos : Nat) (acc : List Char) (notU : c ≠ 'u')
    (short : shortEscape? c = some e) :
    readString begin ('\\' :: c :: rest) pos acc = readString begin rest (pos + 2) (e :: acc) := by
  rw [readString.eq_7 _ _ _ _ _ (fun _ _ _ _ _ _ _ _ _ _ same => absurd same notU)
    (fun _ _ _ _ _ _ same => absurd same notU) notU, short]

theorem readString_unicode {a b c d e : Char} {hi : Nat} (more : List Char) (pos : Nat) (acc : List Char)
    (numeral : hex4? a b c d = some hi) (low : isHighSurrogate hi = false) :
    readString begin ('\\' :: 'u' :: a :: b :: c :: d :: e :: more) pos acc =
      readString begin (e :: more) (pos + 6) (codeChar hi :: acc) := by
  by_cases pair : ∃ a' b' c' d' x more', e = '\\' ∧ more = 'u' :: a' :: b' :: c' :: d' :: x :: more'
  · -- another escape follows: the reader looks at both, and keeps the first as a character of its own
    obtain ⟨a', b', c', d', x, more', rfl, rfl⟩ := pair
    rw [readString.eq_4]
    simp [numeral, low]
  · rw [readString.eq_5 _ _ _ _ _ _ _ _ _ fun a' b' c' d' x more' same rest' =>
      pair ⟨a', b', c', d', x, more', same, rest'⟩]
    simp [numeral]

/-- The four hexadecimal digits of every control character read back as its code. -/
theorem hex4_control : ∀ n < 32, (match hexDigits 4 n with
    | [a, b, c, d] => hex4? a b c d == some n
    | _ => false) = true := by
  decide

theorem codeChar_control {c : Char} (small : c.toNat < 32) : codeChar c.toNat = c := by
  have notSurrogate : (0xd800 ≤ c.toNat && c.toNat ≤ 0xdfff) = false := by
    simp only [Bool.and_eq_false_iff, decide_eq_false_iff_not, Nat.not_le]
    exact .inl (by omega)
  simp [codeChar, notSurrogate, Char.ofNat_toNat]

/-- Reading one written character takes exactly its written form and gives the character back. -/
theorem readString_escapeChar (c e : Char) (more : List Char) (pos : Nat) (acc : List Char) :
    readString begin (escapeChar c ++ e :: more) pos acc =
      readString begin (e :: more) (pos + (escapeChar c).length) (c :: acc) := by
  unfold escapeChar
  by_cases quote : c = '"'
  · subst quote
    exact readString_short _ _ _ (by decide) rfl
  by_cases backslash : c = '\\'
  · subst backslash
    exact readString_short _ _ _ (by decide) rfl
  by_cases newline : c = '\n'
  · subst newline
    exact readString_short _ _ _ (by decide) rfl
  by_cases carriage : c = '\r'
  · subst carriage
    exact readString_short _ _ _ (by decide) rfl
  by_cases tab : c = '\t'
  · subst tab
    exact readString_short _ _ _ (by decide) rfl
  simp only [beq_iff_eq, quote, backslash, newline, carriage, tab, if_false]
  by_cases control : c.toNat < 0x20
  · -- a control character is written as `\u` and its code in four hexadecimal digits
    rw [if_pos control]
    have check := hex4_control c.toNat control
    split at check
    · rename_i a b c' d written
      have numeral : hex4? a b c' d = some c.toNat := by simpa using check
      rw [written]
      have low : isHighSurrogate c.toNat = false := by
        simp only [isHighSurrogate, Bool.and_eq_false_iff, decide_eq_false_iff_not, Nat.not_le]
        exact .inl (by omega)
      simp only [List.cons_append, List.nil_append, List.length_cons, List.length_nil]
      rw [readString_unicode _ _ _ numeral low, codeChar_control control]
    · cases check
  · rw [if_neg control]
    exact readString_plain _ _ _ quote backslash (by omega)

/-- A written text reads back up to its closing quote. -/
theorem readString_written (cs rest : List Char) (pos : Nat) (acc : List Char) :
    readString begin (cs.flatMap escapeChar ++ '"' :: rest) pos acc =
      .ok (String.ofList (acc.reverse ++ cs), rest, pos + (cs.flatMap escapeChar).length + 1) := by
  induction cs generalizing pos acc with
  | nil => simp [readString.eq_2]
  | cons c cs ih =>
    obtain ⟨e, more, split⟩ := List.exists_cons_of_ne_nil
      (by simp : cs.flatMap escapeChar ++ '"' :: rest ≠ [])
    rw [List.flatMap_cons, List.append_assoc, split, readString_escapeChar, ← split, ih]
    simp only [List.reverse_cons, List.append_assoc, List.singleton_append, List.length_append, Nat.add_assoc]

theorem carriage_not_mem_escapeChar (c : Char) : '\r' ∉ escapeChar c := by
  unfold escapeChar
  by_cases quote : c = '"'
  · simp [quote]
  by_cases backslash : c = '\\'
  · simp [backslash]
  by_cases newline : c = '\n'
  · simp [newline]
  by_cases carriage : c = '\r'
  · simp [carriage]
  by_cases tab : c = '\t'
  · simp [tab]
  simp only [beq_iff_eq, quote, backslash, newline, carriage, tab, if_false]
  split
  · -- the four hexadecimal digits of a control character are no line end
    intro member
    simp only [hexDigits, List.mem_cons, List.mem_append, List.mem_replicate] at member
    rcases member with same | same | ⟨-, same⟩ | digit
    · cases same
    · cases same
    · cases same
    · obtain ⟨d, small, same⟩ := Uuid.hex_toDigits c.toNat '\r' digit
      have notCarriage : ∀ d < 16, Nat.digitChar d ≠ '\r' := by decide
      exact notCarriage d small same.symm
  · simpa using Ne.symm carriage

theorem carriage_not_mem_quoted (s : String) : '\r' ∉ s.toList.flatMap escapeChar := by
  simp only [List.mem_flatMap, not_exists, not_and]
  exact fun c _ => carriage_not_mem_escapeChar c

/-! ## Values -/

theorem skipSpace_of_not_space {c : Char} (rest : List Char) (pos : Nat) (solid : isSpace c = false) :
    skipSpace (c :: rest) pos = (c :: rest, pos) := by
  simp [skipSpace, solid]

theorem insertEntry_fresh (acc : List (Value × Value)) (key : String) (v : Value)
    (fresh : ∀ e ∈ acc, e.1 ≠ .str key) : Value.insertEntry acc (.str key) v = acc ++ [(.str key, v)] := by
  have none : acc.any (fun e => e.1.equal (.str key)) = false := by
    rw [List.any_eq_false]
    intro e member same
    exact fresh e member ((LocalFinding.equal_str_iff e.1 key).mp same)
  simp [Value.insertEntry, none]

/-- Data that JSON text spells without loss: null, booleans, integers of at most 4300 digits, texts,
lists of such data and mappings from distinct texts to such data. -/
inductive Plain : Value → Prop
  | null : Plain .null
  | bool (b : Bool) : Plain (.bool b)
  | int (n : Int) (fits : (Nat.toDigits 10 n.natAbs).length ≤ digitLimit) : Plain (.int n)
  | str (s : String) : Plain (.str s)
  | list (items : List Value) (each : ∀ x ∈ items, Plain x) : Plain (.list items)
  | object (fields : List (String × Value)) (distinct : (fields.map Prod.fst).Nodup)
      (each : ∀ f ∈ fields, Plain f.2) : Plain (Value.object fields)

/-- The text of a value reads back as the value whatever delimiter follows it, given fuel for its
length. -/
def ReadsBack (v : Value) : Prop :=
  ∀ (fuel : Nat) (rest : List Char) (pos : Nat), (write v).length ≤ fuel → Delimited rest →
    readValue fuel ((write v).toList ++ rest) pos = .ok (v, rest, pos + (write v).length)

/-- The text of a value starts with a character that is no white space, no closing bracket and no
byte order mark. -/
def Opens (v : Value) : Prop :=
  ∃ c r, (write v).toList = c :: r ∧ isSpace c = false ∧ c ≠ ']' ∧ c ≠ '}' ∧ c ≠ '﻿'

/-- What the text of a value gives its reader. -/
structure Spelled (v : Value) : Prop where
  readsBack : ReadsBack v
  opens : Opens v
  noCarriage : '\r' ∉ (write v).toList

theorem opens_skipSpace {v : Value} (opens : Opens v) (rest : List Char) (pos : Nat) :
    skipSpace ((write v).toList ++ rest) pos = ((write v).toList ++ rest, pos) := by
  obtain ⟨c, r, text, solid, -⟩ := opens
  rw [text, List.cons_append, skipSpace_of_not_space _ _ solid]

theorem writeItems_opens (x : Value) (xs : List Value) (opens : Opens x) :
    ∃ c r, (writeItems (x :: xs)).toList = c :: r ∧ isSpace c = false ∧ c ≠ ']' := by
  obtain ⟨c, r, text, solid, notBracket, -⟩ := opens
  cases xs with
  | nil => exact ⟨c, r, by simp [writeItems, text], solid, notBracket⟩
  | cons y ys => exact ⟨c, r ++ ',' :: (writeItems (y :: ys)).toList, by simp [writeItems, text], solid, notBracket⟩


/-- Items written one after another read back as a list, once the closing bracket is reached. -/
theorem readItems_written (items : List Value) (nonempty : items ≠ []) (each : ∀ x ∈ items, Spelled x) :
    ∀ (fuel : Nat) (rest : List Char) (pos : Nat) (acc : List Value), (writeItems items).length < fuel →
      readItems fuel ((writeItems items).toList ++ ']' :: rest) pos acc =
        .ok (.list (acc.reverse ++ items), rest, pos + (writeItems items).length + 1) := by
  induction items with
  | nil => exact absurd rfl nonempty
  | cons x xs ih =>
    intro fuel rest pos acc room
    obtain ⟨fuel, rfl⟩ : ∃ g, fuel = g + 1 := ⟨fuel - 1, by omega⟩
    have first := each x List.mem_cons_self
    cases xs with
    | nil =>
      have text : writeItems [x] = write x := by simp [writeItems]
      rw [text] at room ⊢
      have item := first.readsBack fuel (']' :: rest) pos (by omega) (.inr ⟨_, _, rfl, .inr (.inl rfl)⟩)
      simp [readItems.eq_2, item, skipSpace, isSpace]
    | cons y ys =>
      have text : (writeItems (x :: y :: ys)).toList = (write x).toList ++ ',' :: (writeItems (y :: ys)).toList := by
        simp [writeItems]
      have long : (writeItems (x :: y :: ys)).length = (write x).length + 1 + (writeItems (y :: ys)).length := by
        rw [← String.length_toList, text]
        simp only [List.length_append, List.length_cons, String.length_toList]
        omega
      have later := ih (by simp) (fun z member => each z (List.mem_cons_of_mem x member)) fuel rest
        (pos + (write x).length + 1) (x :: acc) (by omega)
      have item := first.readsBack fuel (',' :: ((writeItems (y :: ys)).toList ++ ']' :: rest)) pos (by omega)
        (.inr ⟨_, _, rfl, .inl rfl⟩)
      obtain ⟨c, r, opening, solid, -⟩ := writeItems_opens y ys (each y (by simp)).opens
      have skipNext : skipSpace ((writeItems (y :: ys)).toList ++ ']' :: rest) (pos + (write x).length + 1) =
          ((writeItems (y :: ys)).toList ++ ']' :: rest, pos + (write x).length + 1) := by
        rw [opening, List.cons_append, skipSpace_of_not_space _ _ solid]
      rw [text, List.append_assoc, List.cons_append, readItems.eq_2, item]
      dsimp only
      rw [skipSpace_of_not_space _ _ (by decide : isSpace ',' = false)]
      simp only [skipNext]
      rw [later, long]
      simp [Nat.add_assoc]

/-- The entries of a mapping from texts. -/
def entriesOf (fields : List (String × Value)) : List (Value × Value) := fields.map fun f => (.str f.1, f.2)

theorem writeEntries_one (name : String) (v : Value) :
    (writeEntries (entriesOf [(name, v)])).toList =
      '"' :: (name.toList.flatMap escapeChar ++ '"' :: ':' :: (write v).toList) := by
  simp [entriesOf, writeEntries, keyText, quoteText]

theorem writeEntries_more (name : String) (v : Value) (f : String × Value) (fs : List (String × Value)) :
    (writeEntries (entriesOf ((name, v) :: f :: fs))).toList =
      '"' :: (name.toList.flatMap escapeChar ++ '"' :: ':' :: ((write v).toList ++
        ',' :: (writeEntries (entriesOf (f :: fs))).toList)) := by
  simp [entriesOf, writeEntries, keyText, quoteText]

theorem writeEntries_quoted (f : String × Value) (fs : List (String × Value)) :
    ∃ r, (writeEntries (entriesOf (f :: fs))).toList = '"' :: r := by
  obtain ⟨name, v⟩ := f
  cases fs with
  | nil => exact ⟨_, writeEntries_one name v⟩
  | cons g gs => exact ⟨_, writeEntries_more name v g gs⟩


/-- What the member reader does once a member is read: it closes the mapping at a brace and reads
the next member after a comma. -/
def membersAfter (fuel : Nat) (rest : List Char) (p : Nat) (acc : List (Value × Value)) : Step Value :=
  let (rest, p) := skipSpace rest p
  match rest with
  | '}' :: r => .ok (.dict acc, r, p + 1)
  | ',' :: r =>
    let (r, p) := skipSpace r (p + 1)
    readMembers fuel r p acc
  | _ => .error (.grammar "Expecting ',' delimiter" p)

/-- A written member reads as its key and value, after the opening quote, the written key, the
closing quote and the colon; the reader then goes on after the value. -/
theorem readMembers_member (name : String) {v : Value} (member : Spelled v) {after : List Char}
    (delimited : Delimited after) (fuel pos : Nat) (acc : List (Value × Value)) (room : (write v).length ≤ fuel) :
    readMembers (fuel + 1) ('"' :: (name.toList.flatMap escapeChar ++ '"' :: ':' :: ((write v).toList ++ after)))
        pos acc =
      membersAfter fuel after (pos + 1 + (name.toList.flatMap escapeChar).length + 1 + 1 + (write v).length)
        (Value.insertEntry acc (.str name) v) := by
  rw [readMembers.eq_2, readString_written]
  simp only [List.reverse_nil, List.nil_append, String.ofList_toList]
  rw [skipSpace_of_not_space _ _ (by decide : isSpace ':' = false)]
  simp only
  rw [opens_skipSpace member.opens, member.readsBack fuel after _ room delimited]
  rfl

/-- Once a member is appended, no member after it has a key read so far. -/
theorem fresh_after_member {name : String} {v : Value} {fs : List (String × Value)}
    {acc : List (Value × Value)} (distinct : (((name, v) :: fs).map Prod.fst).Nodup)
    (fresh : ∀ f ∈ (name, v) :: fs, ∀ e ∈ acc, e.1 ≠ .str f.1) :
    ∀ f ∈ fs, ∀ e ∈ acc ++ [(.str name, v)], e.1 ≠ .str f.1 := by
  intro f member e present
  rcases List.mem_append.mp present with old | new
  · exact fresh f (List.mem_cons_of_mem _ member) e old
  · rw [List.mem_singleton.mp new]
    intro same
    cases same
    exact (List.nodup_cons.mp distinct).1 (List.mem_map.mpr ⟨f, member, rfl⟩)

/-- Members written one after another read back as a mapping, once the closing brace is reached:
each key is new, so each member is appended. -/
theorem readMembers_written (fields : List (String × Value)) (nonempty : fields ≠ [])
    (each : ∀ f ∈ fields, Spelled f.2) (distinct : (fields.map Prod.fst).Nodup) :
    ∀ (fuel : Nat) (rest : List Char) (pos : Nat) (acc : List (Value × Value)),
      (∀ f ∈ fields, ∀ e ∈ acc, e.1 ≠ .str f.1) → (writeEntries (entriesOf fields)).length < fuel →
      readMembers fuel ((writeEntries (entriesOf fields)).toList ++ '}' :: rest) pos acc =
        .ok (.dict (acc ++ entriesOf fields), rest, pos + (writeEntries (entriesOf fields)).length + 1) := by
  induction fields with
  | nil => exact absurd rfl nonempty
  | cons field fs ih =>
    obtain ⟨name, v⟩ := field
    intro fuel rest pos acc fresh room
    obtain ⟨fuel, rfl⟩ : ∃ g, fuel = g + 1 := ⟨fuel - 1, by omega⟩
    have member : Spelled v := each (name, v) List.mem_cons_self
    have inserted : Value.insertEntry acc (.str name) v = acc ++ [(.str name, v)] :=
      insertEntry_fresh acc name v (fresh (name, v) List.mem_cons_self)
    cases fs with
    | nil =>
      have long : (writeEntries (entriesOf [(name, v)])).length =
          (name.toList.flatMap escapeChar).length + 3 + (write v).length := by
        rw [← String.length_toList, writeEntries_one]
        simp only [List.length_cons, List.length_append, String.length_toList]
        omega
      rw [writeEntries_one]
      simp only [List.cons_append, List.append_assoc]
      rw [readMembers_member name member (.inr ⟨_, _, rfl, .inr (.inr rfl)⟩) fuel pos acc (by omega), inserted,
        membersAfter, skipSpace_of_not_space _ _ (by decide : isSpace '}' = false), long]
      simp only [entriesOf, List.map_cons, List.map_nil, Except.ok.injEq, Prod.mk.injEq, true_and]
      omega
    | cons f fs =>
      have long : (writeEntries (entriesOf ((name, v) :: f :: fs))).length =
          (name.toList.flatMap escapeChar).length + 3 + (write v).length + 1 +
            (writeEntries (entriesOf (f :: fs))).length := by
        rw [← String.length_toList, writeEntries_more]
        simp only [List.length_cons, List.length_append, String.length_toList]
        omega
      have later := ih (by simp) (fun g member => each g (List.mem_cons_of_mem _ member))
        (List.nodup_cons.mp distinct).2 fuel rest
        (pos + 1 + (name.toList.flatMap escapeChar).length + 1 + 1 + (write v).length + 1) (acc ++ [(.str name, v)])
        (fresh_after_member distinct fresh) (by omega)
      obtain ⟨opening, quoted⟩ := writeEntries_quoted f fs
      rw [writeEntries_more]
      simp only [List.cons_append, List.append_assoc]
      rw [readMembers_member name member (.inr ⟨_, _, rfl, .inl rfl⟩) fuel pos acc (by omega), inserted,
        membersAfter, skipSpace_of_not_space _ _ (by decide : isSpace ',' = false)]
      simp only
      rw [quoted, List.cons_append, skipSpace_of_not_space _ _ (by decide : isSpace '"' = false), ← List.cons_append,
        ← quoted, later, long]
      simp only [entriesOf, List.map_cons, List.append_assoc, List.singleton_append, Except.ok.injEq, Prod.mk.injEq,
        true_and]
      omega

theorem carriage_not_mem_writeItems (items : List Value) (each : ∀ x ∈ items, '\r' ∉ (write x).toList) :
    '\r' ∉ (writeItems items).toList := by
  induction items with
  | nil => simp [writeItems]
  | cons x xs ih =>
    have here := each x List.mem_cons_self
    have later := ih fun y member => each y (List.mem_cons_of_mem x member)
    cases xs with
    | nil => simpa [writeItems] using here
    | cons y ys =>
      simp only [writeItems, String.toList_append, List.mem_append, not_or] at later ⊢
      exact ⟨⟨here, by decide⟩, later⟩

theorem carriage_not_mem_writeEntries (fields : List (String × Value))
    (each : ∀ f ∈ fields, '\r' ∉ (write f.2).toList) : '\r' ∉ (writeEntries (entriesOf fields)).toList := by
  induction fields with
  | nil => simp [entriesOf, writeEntries]
  | cons field fs ih =>
    obtain ⟨name, v⟩ := field
    have here := each (name, v) List.mem_cons_self
    have later := ih fun g member => each g (List.mem_cons_of_mem _ member)
    have key := carriage_not_mem_quoted name
    cases fs with
    | nil =>
      rw [writeEntries_one]
      simp only [List.mem_cons, List.mem_append, not_or]
      exact ⟨by decide, key, by decide, by decide, here⟩
    | cons g gs =>
      rw [writeEntries_more]
      simp only [List.mem_cons, List.mem_append, not_or]
      exact ⟨by decide, key, by decide, by decide, here, by decide, later⟩

/-- A text that opens a value reads back with any fuel at least its length once it reads back with
every such fuel that is a successor. -/
theorem Opens.readsBack {v : Value} (opens : Opens v)
    (succ : ∀ fuel rest pos, (write v).length ≤ fuel + 1 → Delimited rest →
      readValue (fuel + 1) ((write v).toList ++ rest) pos = .ok (v, rest, pos + (write v).length)) :
    ReadsBack v := by
  intro fuel rest pos room delimited
  obtain ⟨c, r, text, -⟩ := opens
  have positive : 0 < (write v).length := by
    rw [← String.length_toList, text]
    exact Nat.succ_pos _
  obtain ⟨fuel, rfl⟩ : ∃ g, fuel = g + 1 := ⟨fuel - 1, by omega⟩
  exact succ fuel rest pos room delimited

/-- The compact JSON text of plain data reads back as that data, starts with a character that
opens a value, and holds no carriage return. -/
theorem Plain.spelled {v : Value} (plain : Plain v) : Spelled v := by
  induction plain with
  | null =>
    have opens : Opens .null := ⟨'n', ['u', 'l', 'l'], rfl, by decide⟩
    refine ⟨opens.readsBack fun fuel rest pos _ _ => ?_, opens, by decide⟩
    have long : (write .null).length = 4 := by decide
    rw [long]
    simp [write, readValue]
  | bool b =>
    cases b
    · have opens : Opens (.bool false) := ⟨'f', ['a', 'l', 's', 'e'], rfl, by decide⟩
      refine ⟨opens.readsBack fun fuel rest pos _ _ => ?_, opens, by decide⟩
      have long : (write (.bool false)).length = 5 := by decide
      rw [long]
      simp [write, readValue]
    · have opens : Opens (.bool true) := ⟨'t', ['r', 'u', 'e'], rfl, by decide⟩
      refine ⟨opens.readsBack fun fuel rest pos _ _ => ?_, opens, by decide⟩
      have long : (write (.bool true)).length = 4 := by decide
      rw [long]
      simp [write, readValue]
  | int n fits =>
    have text := write_int_toList n
    have plainDigits : ∀ m, ∀ c ∈ Nat.toDigits 10 m, isSpace c = false ∧ c ≠ ']' ∧ c ≠ '}' ∧ c ≠ '﻿' ∧ c ≠ '\r' := by
      intro m c member
      obtain ⟨d, small, rfl⟩ := decimal_chars m c member
      obtain ⟨-, -, solid, bracket, brace, mark, carriage, -⟩ := digitChar_facts d small
      exact ⟨solid, bracket, brace, mark, carriage⟩
    have opens : Opens (.int n) := by
      by_cases nonneg : 0 ≤ n
      · obtain ⟨c, r, digits⟩ := List.exists_cons_of_ne_nil (Nat.toDigits_ne_nil (n := n.toNat) (b := 10))
        obtain ⟨solid, bracket, brace, mark, -⟩ := plainDigits n.toNat c (by simp [digits])
        exact ⟨c, r, by rw [text, if_pos nonneg, digits], solid, bracket, brace, mark⟩
      · exact ⟨'-', _, by rw [text, if_neg nonneg], by decide, by decide, by decide, by decide⟩
    refine ⟨opens.readsBack fun fuel rest pos _ delimited => ?_, opens, ?_⟩
    · have long : (write (.int n)).length = (write (.int n)).toList.length := String.length_toList.symm
      by_cases nonneg : 0 ≤ n
      · have magnitude : n.toNat = n.natAbs := by omega
        have read := readValue_digits false n.toNat (by simp) (magnitude ▸ fits) fuel delimited pos
        simp only [Bool.false_eq_true, if_false, List.nil_append, Nat.zero_add, Int.toNat_of_nonneg nonneg] at read
        rw [long, text, if_pos nonneg, read]
      · have magnitude : (-n).toNat = n.natAbs := by omega
        have read := readValue_digits true (-n).toNat (fun _ => by omega) (magnitude ▸ fits) fuel delimited pos
        have back : -(((-n).toNat : Nat) : Int) = n := by omega
        simp only [if_true, List.cons_append, List.nil_append, back] at read
        rw [long, text, if_neg nonneg, List.cons_append, read]
        simp [Nat.add_comm]
    · rw [text]
      split
      · exact fun member => (plainDigits _ _ member).2.2.2.2 rfl
      · simp only [List.mem_cons, not_or]
        exact ⟨by decide, fun member => (plainDigits _ _ member).2.2.2.2 rfl⟩
  | str s =>
    have text : (write (.str s)).toList = '"' :: (s.toList.flatMap escapeChar ++ ['"']) := by
      simp [write, quoteText]
    have long : (write (.str s)).length = (s.toList.flatMap escapeChar).length + 2 := by
      rw [← String.length_toList, text]
      simp
    have opens : Opens (.str s) := ⟨'"', _, text, by decide⟩
    refine ⟨opens.readsBack fun fuel rest pos _ _ => ?_, opens, ?_⟩
    · rw [text, long]
      simp only [List.cons_append, List.append_assoc]
      simp only [readValue, readString_written, List.reverse_nil, List.nil_append, String.ofList_toList]
      simp only [Except.map, Except.ok.injEq, Prod.mk.injEq, true_and]
      omega
    · rw [text]
      simp only [List.mem_cons, List.mem_append, not_or]
      exact ⟨by decide, carriage_not_mem_quoted s, by decide⟩
  | list items each ih =>
    have text : (write (.list items)).toList = '[' :: ((writeItems items).toList ++ [']']) := by
      simp [write]
    have long : (write (.list items)).length = (writeItems items).length + 2 := by
      rw [← String.length_toList, text]
      simp [String.length_toList]
    have opens : Opens (.list items) := ⟨'[', _, text, by decide⟩
    refine ⟨opens.readsBack fun fuel rest pos room _ => ?_, opens, ?_⟩
    · rw [text, long, List.cons_append, List.append_assoc, List.singleton_append]
      cases items with
      | nil => simp [writeItems, readValue, skipSpace, isSpace]
      | cons x xs =>
        -- the first item opens the items, so the reader does not take them for an empty list
        obtain ⟨c, r, opening, solid, bracket⟩ := writeItems_opens x xs (ih x List.mem_cons_self).opens
        have read := readItems_written (x :: xs) (by simp) ih fuel rest (pos + 1) [] (by omega)
        rw [opening, List.cons_append] at read ⊢
        simp only [readValue, skipSpace_of_not_space _ _ solid]
        split
        · rename_i same
          exact absurd (List.cons.inj same).1 bracket
        · rw [read]
          simp only [List.reverse_nil, List.nil_append, Except.ok.injEq, Prod.mk.injEq, true_and]
          omega
    · rw [text]
      simp only [List.mem_cons, List.mem_append, not_or]
      exact ⟨by decide, carriage_not_mem_writeItems items (fun x member => (ih x member).noCarriage), by decide⟩
  | object fields distinct each ih =>
    have text : (write (Value.object fields)).toList =
        '{' :: ((writeEntries (entriesOf fields)).toList ++ ['}']) := by
      simp [write, Value.object, entriesOf]
    have long : (write (Value.object fields)).length = (writeEntries (entriesOf fields)).length + 2 := by
      rw [← String.length_toList, text]
      simp [String.length_toList]
    have opens : Opens (Value.object fields) := ⟨'{', _, text, by decide⟩
    refine ⟨opens.readsBack fun fuel rest pos room _ => ?_, opens, ?_⟩
    · rw [text, long, List.cons_append, List.append_assoc, List.singleton_append]
      cases fields with
      | nil => simp [entriesOf, writeEntries, readValue, skipSpace, isSpace, Value.object]
      | cons f fs =>
        obtain ⟨r, opening⟩ := writeEntries_quoted f fs
        have read := readMembers_written (f :: fs) (by simp) (fun g member => ih g member) distinct fuel rest
          (pos + 1) [] (by simp) (by omega)
        rw [opening, List.cons_append] at read ⊢
        simp only [readValue, skipSpace_of_not_space _ _ (by decide : isSpace '"' = false)]
        split
        · rename_i same
          exact absurd (List.cons.inj same).1 (by decide)
        · rw [read]
          simp only [List.nil_append, Value.object, entriesOf, Except.ok.injEq, Prod.mk.injEq, true_and]
          omega
    · rw [text]
      simp only [List.mem_cons, List.mem_append, not_or]
      exact ⟨by decide, carriage_not_mem_writeEntries fields (fun f member => (ih f member).noCarriage), by decide⟩

end IssueSync.Json

namespace IssueSync.Text

/-- Text without a carriage return is left as it is by the line-end normalisation. -/
theorem normalizeNewlines_go_of_no_carriage : ∀ cs : List Char, '\r' ∉ cs → normalizeNewlines.go cs = cs
  | [], _ => by simp [normalizeNewlines.go]
  | c :: rest, absent => by
    have notCarriage : c ≠ '\r' := fun same => absent (same ▸ List.mem_cons_self)
    rw [normalizeNewlines.go.eq_3 c rest (fun _ same _ => notCarriage same) notCarriage,
      normalizeNewlines_go_of_no_carriage rest (fun member => absent (List.mem_cons_of_mem c member))]

theorem normalizeNewlines_of_no_carriage {s : String} (absent : '\r' ∉ s.toList) : normalizeNewlines s = s := by
  rw [normalizeNewlines, normalizeNewlines_go_of_no_carriage _ absent, String.ofList_toList]

end IssueSync.Text

namespace IssueSync.Json

open IssueSync.Text

/-! ## Whole texts -/

/-- The compact JSON text of plain data reads back as that data. -/
theorem read_write {v : Value} (plain : Plain v) : read (write v) = .ok v := by
  have spelled := plain.spelled
  obtain ⟨c, r, text, -, -, -, noMark⟩ := spelled.opens
  have whole := spelled.readsBack (2 * (write v).toList.length + 2) [] 0
    (by rw [String.length_toList]; omega) (.inl rfl)
  have skip : skipSpace (write v).toList 0 = ((write v).toList, 0) := by
    simpa using opens_skipSpace spelled.opens [] 0
  rw [List.append_nil, Nat.zero_add] at whole
  unfold read
  dsimp only
  split
  · rename_i marked
    rw [text] at marked
    exact absurd (List.cons.inj marked).1 noMark
  · simp only [skip, whole, skipSpace, List.isEmpty_nil, if_true]

end IssueSync.Json

namespace IssueSync.Store

open IssueSync.Text

/-! ## The store -/

/-- A store file holding the compact JSON text of plain data reads as that data. -/
theorem Files.readJson_put_written (fs : Files) (path : String) {v : Value} (plain : Json.Plain v) :
    (fs.put path (.text (Json.write v))).readJson path = .ok (some v) := by
  simp only [Files.readJson, Files.get?_put_self, normalizeNewlines_of_no_carriage plain.spelled.noCarriage,
    Json.read_write plain]

/-- The temporary file of a write is named by a dot before the target's own name and a suffix after
it. -/
theorem temporaryName_length (path : String) : (temporaryName path).length = path.length + 14 := by
  have short : (path.toList.reverse.takeWhile (· != '/')).reverse.length ≤ path.toList.length := by
    simpa using (List.takeWhile_prefix (· != '/') (l := path.toList.reverse)).length_le
  simp only [temporaryName, String.length_ofList, List.length_append, List.length_cons, List.length_take]
  have suffix : ".tmp-XXXXXXXX".toList.length = 13 := by decide
  rw [suffix, String.length_toList] at *
  omega

theorem temporaryName_ne (path : String) : temporaryName path ≠ path := fun same => by
  have long := temporaryName_length path
  rw [same] at long
  omega

end IssueSync.Store

namespace IssueSync

open IssueSync.Store

end IssueSync
