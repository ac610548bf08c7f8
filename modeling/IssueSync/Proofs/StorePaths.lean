import IssueSync.Store.Path
import IssueSync.Remote.Exchange
import IssueSync.Proofs.StampText

/-!
# Store paths

Percent-encoding a name and reading the result back, `%XX` as the byte it names and every other
character as its own bytes, gives the UTF-8 bytes of the name again, so different names have
different encodings. A safe name is one path component: never empty, never holding `/`, and `.`
or `..` exactly when the name itself is. Two names share a safe name only when they are equal or
are the empty name and `_`.

A file is found by following its components from the root, `.` and `..` included. For every
other connection id the file of a binding lies in `bindings/<connection>/`, the server
information in `connections/<connection>/`, and different names give different files. The
connection ids `.` and `..` lead out of those directories: the binding of connection `..` to the
project `server_info` is stored in the very file that holds the server information of
connection `..`, `server_info.json` at the root.
-/

set_option autoImplicit false

namespace IssueSync

namespace Text

open IssueSync.Remote

/-! ## Bytes as a list -/

theorem toList_loop_eq (bs : ByteArray) (i : Nat) (r : List UInt8) :
    ByteArray.toList.loop bs i r = r.reverse ++ bs.data.toList.drop i := by
  fun_induction ByteArray.toList.loop bs i r with
  | case1 i r inside ih =>
    have index : i < bs.data.toList.length := by simpa using inside
    rw [ih, List.drop_eq_getElem_cons index]
    simp [ByteArray.get!, inside]
  | case2 i r past =>
    rw [List.drop_eq_nil_of_le (by simpa using Nat.le_of_not_lt past)]
    simp

theorem toList_eq_data (bs : ByteArray) : bs.toList = bs.data.toList := by
  simp [ByteArray.toList, toList_loop_eq]

theorem utf8_toList_inj {s t : String} : s.toUTF8.toList = t.toUTF8.toList ↔ s = t := by
  rw [toList_eq_data, toList_eq_data, Array.toList_inj]
  constructor
  · intro same
    exact String.toByteArray_inj.mp (ByteArray.ext same)
  · rintro rfl
    rfl

theorem ascii_toString_utf8 {c : Char} (ascii : c.toNat < 128) : c.toString.toUTF8.toList = [c.toUInt8] := by
  rw [Char.toString_eq_singleton, String.singleton_eq_ofList,
    Stamp.toUTF8_ascii [c] (by simpa using ascii), toList_eq_data, List.toList_data_toByteArray]
  rfl

/-! ## Reading percent-encoding back -/

/-- The bytes percent-encoding keeps are ASCII characters other than `%`, `+` and `/`. -/
theorem unreserved_plain : ∀ n < 256, isUnreserved n.toUInt8 = true →
    (Char.ofNat n).toNat < 128 ∧ (Char.ofNat n).toUInt8 = n.toUInt8 ∧ Char.ofNat n ≠ '%' ∧
      Char.ofNat n ≠ '+' ∧ Char.ofNat n ≠ '/' := by
  decide +kernel

theorem upperHexDigit_hex : ∀ n < 16, hexValue? (upperHexDigit n) = some n ∧ upperHexDigit n ≠ '/' := by
  decide +kernel

theorem encodeByte_cases (b : UInt8) :
    (encodeByte b = [Char.ofNat b.toNat] ∧ (Char.ofNat b.toNat).toNat < 128 ∧
      (Char.ofNat b.toNat).toUInt8 = b ∧ Char.ofNat b.toNat ≠ '%' ∧ Char.ofNat b.toNat ≠ '+' ∧
      Char.ofNat b.toNat ≠ '/') ∨
    encodeByte b = ['%', upperHexDigit (b.toNat / 16), upperHexDigit (b.toNat % 16)] := by
  unfold encodeByte
  split
  · rename_i kept
    have same : b.toNat.toUInt8 = b := by simp
    obtain ⟨ascii, byte, notPercent, notPlus, notSlash⟩ :=
      unreserved_plain b.toNat (UInt8.toNat_lt b) (by rwa [same])
    exact .inl ⟨rfl, ascii, byte.trans same, notPercent, notPlus, notSlash⟩
  · exact .inr rfl

theorem unescapeBytes_percent {a b : Char} {x y : Nat} (high : hexValue? a = some x)
    (low : hexValue? b = some y) (rest : List Char) :
    unescapeBytes false ('%' :: a :: b :: rest) = (x * 16 + y).toUInt8 :: unescapeBytes false rest := by
  simp [unescapeBytes, high, low]

theorem unescapeBytes_plain {c : Char} (notPercent : c ≠ '%') (notPlus : c ≠ '+') (rest : List Char) :
    unescapeBytes false (c :: rest) = c.toString.toUTF8.toList ++ unescapeBytes false rest := by
  rw [unescapeBytes.eq_def]
  split <;> simp_all

/-- Reading an encoded byte back gives the byte. -/
theorem unescape_encodeByte (b : UInt8) (rest : List Char) :
    unescapeBytes false (encodeByte b ++ rest) = b :: unescapeBytes false rest := by
  rcases encodeByte_cases b with ⟨kept, ascii, byte, notPercent, notPlus, -⟩ | escaped
  · rw [kept, List.singleton_append, unescapeBytes_plain notPercent notPlus, ascii_toString_utf8 ascii,
      byte, List.singleton_append]
  · have small : b.toNat < 256 := UInt8.toNat_lt b
    have high := (upperHexDigit_hex (b.toNat / 16) (by omega)).1
    have low := (upperHexDigit_hex (b.toNat % 16) (by omega)).1
    rw [escaped, List.cons_append, List.cons_append, List.cons_append, List.nil_append,
      unescapeBytes_percent high low]
    have whole : b.toNat / 16 * 16 + b.toNat % 16 = b.toNat := by omega
    simp [whole]

theorem unescape_flatMap_encodeByte (bs : List UInt8) (rest : List Char) :
    unescapeBytes false (bs.flatMap encodeByte ++ rest) = bs ++ unescapeBytes false rest := by
  induction bs with
  | nil => rfl
  | cons b bs ih => rw [List.flatMap_cons, List.append_assoc, unescape_encodeByte, ih, List.cons_append]

theorem percentEncode_toList (s : String) :
    (percentEncode s).toList = s.toUTF8.toList.flatMap encodeByte :=
  String.toList_ofList

/-- Percent-decoding reads the bytes of a name back from its encoding. -/
theorem unescape_percentEncode (s : String) :
    unescapeBytes false (percentEncode s).toList = s.toUTF8.toList := by
  have done : unescapeBytes false [] = [] := rfl
  simpa [percentEncode_toList, done] using unescape_flatMap_encodeByte s.toUTF8.toList []

theorem percentEncode_inj {s t : String} : percentEncode s = percentEncode t ↔ s = t := by
  constructor
  · intro same
    have bytes := congrArg (fun e => unescapeBytes false e.toList) same
    simp only [unescape_percentEncode] at bytes
    exact utf8_toList_inj.mp bytes
  · rintro rfl
    rfl

theorem slash_not_mem_percentEncode (s : String) : '/' ∉ (percentEncode s).toList := by
  rw [percentEncode_toList, List.mem_flatMap]
  rintro ⟨b, -, inCode⟩
  rcases encodeByte_cases b with ⟨kept, -, -, -, -, notSlash⟩ | escaped
  · rw [kept, List.mem_singleton] at inCode
    exact notSlash inCode.symm
  · have small : b.toNat < 256 := UInt8.toNat_lt b
    rw [escaped] at inCode
    simp only [List.mem_cons, List.not_mem_nil, or_false] at inCode
    rcases inCode with percent | high | low
    · exact absurd percent (by decide)
    · exact (upperHexDigit_hex _ (by omega)).2 high.symm
    · exact (upperHexDigit_hex _ (by omega)).2 low.symm

end Text

namespace Store

open Text

/-! ## Safe names -/

/-- Two names that share a safe name: the same name, or the empty name and `_`. -/
def SameName (s t : String) : Prop := s = t ∨ (s = "" ∧ t = "_") ∨ (s = "_" ∧ t = "")

/-- The names the store spells out itself are their own encodings. -/
theorem literal_names_plain : percentEncode "" = "" ∧ percentEncode "." = "." ∧
    percentEncode ".." = ".." ∧ percentEncode "_" = "_" ∧ percentEncode "server_info" = "server_info" := by
  decide +kernel

theorem percentEncode_eq_empty {s : String} : percentEncode s = "" ↔ s = "" := by
  have empty : percentEncode "" = "" := literal_names_plain.1
  constructor
  · intro encoded
    exact percentEncode_inj.mp (encoded.trans empty.symm)
  · rintro rfl
    exact empty

theorem safeName_eq (s : String) : safeName s = if s = "" then "_" else percentEncode s := by
  simp only [safeName, String.isEmpty_iff, percentEncode_eq_empty]

theorem safeName_ne_empty (s : String) : safeName s ≠ "" := by
  rw [safeName_eq]
  split
  · decide
  · rwa [ne_eq, percentEncode_eq_empty]

theorem slash_not_mem_safeName (s : String) : '/' ∉ (safeName s).toList := by
  rw [safeName_eq]
  split
  · decide
  · exact slash_not_mem_percentEncode s

/-- A name that percent-encoding keeps as it is, other than the empty name and `_`, is the safe
name of itself alone. -/
theorem safeName_eq_plain {s t : String} (plain : percentEncode s = s) (named : s ≠ "")
    (notUnderscore : s ≠ "_") : safeName t = s ↔ t = s := by
  rw [safeName_eq]
  split
  · rename_i empty
    subst empty
    exact ⟨fun same => absurd same.symm notUnderscore, fun same => absurd same.symm named⟩
  · rw [← plain, percentEncode_inj, plain]

theorem safeName_eq_dot {s : String} : safeName s = "." ↔ s = "." :=
  safeName_eq_plain literal_names_plain.2.1 (by decide) (by decide)

theorem safeName_eq_dotdot {s : String} : safeName s = ".." ↔ s = ".." :=
  safeName_eq_plain literal_names_plain.2.2.1 (by decide) (by decide)

theorem safeName_eq_iff (s t : String) : safeName s = safeName t ↔ SameName s t := by
  have encoded : percentEncode "_" = "_" := literal_names_plain.2.2.2.1
  have underscore : ∀ u, percentEncode u = "_" ↔ u = "_" := fun u =>
    ⟨fun named => percentEncode_inj.mp (named.trans encoded.symm), fun named => named ▸ encoded⟩
  have apart : ("" : String) ≠ "_" := by decide
  rw [safeName_eq, safeName_eq, SameName]
  by_cases sEmpty : s = "" <;> by_cases tEmpty : t = ""
  · simp [sEmpty, tEmpty]
  · -- the empty name shares `_` with the name `_` alone
    subst sEmpty
    rw [if_pos rfl, if_neg tEmpty, eq_comm, underscore]
    constructor
    · intro named
      exact .inr (.inl ⟨rfl, named⟩)
    · rintro (same | ⟨-, named⟩ | ⟨impossible, -⟩)
      · exact absurd same.symm tEmpty
      · exact named
      · exact absurd impossible apart
  · subst tEmpty
    rw [if_neg sEmpty, if_pos rfl, underscore]
    constructor
    · intro named
      exact .inr (.inr ⟨named, rfl⟩)
    · rintro (same | ⟨impossible, -⟩ | ⟨named, -⟩)
      · exact absurd same sEmpty
      · exact absurd impossible sEmpty
      · exact named
  · rw [if_neg sEmpty, if_neg tEmpty, percentEncode_inj]
    constructor
    · exact .inl
    · rintro (same | ⟨impossible, -⟩ | ⟨-, impossible⟩)
      · exact same
      · exact absurd impossible sEmpty
      · exact absurd impossible tEmpty

/-! ## Paths made of components -/

theorem append_slash_inj {a a' r r' : List Char} (plain : '/' ∉ a) (plain' : '/' ∉ a') :
    a ++ '/' :: r = a' ++ '/' :: r' ↔ a = a' ∧ r = r' := by
  induction a generalizing a' with
  | nil =>
    cases a' with
    | nil => simp
    | cons c a' =>
      have notSlash : c ≠ '/' := fun same => plain' (same ▸ List.mem_cons_self)
      simp [Ne.symm notSlash]
  | cons c a ih =>
    cases a' with
    | nil =>
      have notSlash : c ≠ '/' := fun same => plain (same ▸ List.mem_cons_self)
      simp [notSlash]
    | cons c' a' =>
      have rest := @ih a' (fun inA => plain (List.mem_cons_of_mem c inA))
        (fun inA => plain' (List.mem_cons_of_mem c' inA))
      simp only [List.cons_append, List.cons.injEq, rest, and_assoc]

theorem slash_join_inj {x x' r r' : String} (plain : '/' ∉ x.toList) (plain' : '/' ∉ x'.toList) :
    x ++ "/" ++ r = x' ++ "/" ++ r' ↔ x = x' ∧ r = r' := by
  rw [← String.toList_inj, ← String.toList_inj, ← String.toList_inj]
  simp only [String.toList_append, show ("/" : String).toList = ['/'] from rfl, List.append_assoc,
    List.singleton_append]
  exact append_slash_inj plain plain'

theorem slash_mem_join (x r : String) : '/' ∈ (x ++ "/" ++ r).toList := by
  simp [String.toList_append, show ("/" : String).toList = ['/'] from rfl]

/-- Components that hold no `/` are told apart by the path they make. -/
theorem intercalate_slash_inj {l l' : List String} (plain : ∀ c ∈ l, '/' ∉ c.toList)
    (plain' : ∀ c ∈ l', '/' ∉ c.toList) (nonempty : l ≠ []) (nonempty' : l' ≠ []) :
    "/".intercalate l = "/".intercalate l' ↔ l = l' := by
  constructor
  · intro same
    -- induction on the first path's components, peeling one component off each side
    induction l generalizing l' with
    | nil => exact absurd rfl nonempty
    | cons x rest ih =>
      obtain ⟨x', rest', rfl⟩ := List.exists_cons_of_ne_nil nonempty'
      have plainX := plain x List.mem_cons_self
      have plainX' := plain' x' List.mem_cons_self
      cases rest with
      | nil =>
        cases rest' with
        | nil => simpa [String.intercalate_singleton] using same
        | cons y' rest' =>
          -- one component against several: only the longer path holds a slash
          rw [String.intercalate_singleton, String.intercalate_cons_cons] at same
          exact absurd (same ▸ slash_mem_join _ _) plainX
      | cons y rest =>
        cases rest' with
        | nil =>
          rw [String.intercalate_singleton, String.intercalate_cons_cons] at same
          exact absurd (same ▸ slash_mem_join _ _) plainX'
        | cons y' rest' =>
          rw [String.intercalate_cons_cons, String.intercalate_cons_cons, slash_join_inj plainX plainX'] at same
          obtain ⟨heads, tails⟩ := same
          rw [heads, ih (fun c inRest => plain c (List.mem_cons_of_mem x inRest))
            (fun c inRest => plain' c (List.mem_cons_of_mem x' inRest)) (by simp) (by simp) tails]
  · rintro rfl
    rfl

theorem enter_named (dirs : List String) {c : String} (notHere : c ≠ ".") (notUp : c ≠ "..") :
    enter dirs c = dirs ++ [c] := by
  simp [enter, notHere, notUp]

theorem mem_enter {dirs : List String} {c x : String} (member : x ∈ enter dirs c) : x ∈ dirs ∨ x = c := by
  unfold enter at member
  split at member
  · exact .inl member
  · split at member
    · exact .inl (List.dropLast_subset dirs member)
    · simpa using member

/-- Following components keeps only components that were there. -/
theorem mem_foldl_enter {x : String} (cs : List String) (dirs : List String)
    (member : x ∈ cs.foldl enter dirs) : x ∈ dirs ∨ x ∈ cs := by
  induction cs generalizing dirs with
  | nil => exact .inl member
  | cons c cs ih =>
    rcases ih (enter dirs c) member with entered | later
    · rcases mem_enter entered with before | same
      · exact .inl before
      · exact .inr (same ▸ List.mem_cons_self)
    · exact .inr (List.mem_cons_of_mem c later)

/-- Paths of components without `/` are the same file exactly when they lead to the same
directories. -/
theorem pathOf_eq_iff {cs cs' : List String} (plain : ∀ c ∈ cs, '/' ∉ c.toList)
    (plain' : ∀ c ∈ cs', '/' ∉ c.toList) (somewhere : cs.foldl enter [] ≠ [])
    (somewhere' : cs'.foldl enter [] ≠ []) :
    pathOf cs = pathOf cs' ↔ cs.foldl enter [] = cs'.foldl enter [] := by
  have kept : ∀ (ds : List String), (∀ c ∈ ds, '/' ∉ c.toList) → ∀ c ∈ ds.foldl enter [], '/' ∉ c.toList := by
    intro ds plainDs c member
    rcases mem_foldl_enter ds [] member with none | found
    · cases none
    · exact plainDs c found
  exact intercalate_slash_inj (kept cs plain) (kept cs' plain') somewhere somewhere'

theorem json_named (x : String) : x ++ ".json" ≠ "." ∧ x ++ ".json" ≠ ".." := by
  have long : (x ++ ".json").length = x.length + 5 := by
    rw [String.length_append]
    rfl
  have dot : (".").length = 1 := rfl
  have dotdot : ("..").length = 2 := rfl
  constructor <;> intro same <;> rw [same] at long <;> omega

theorem json_plain (x : String) (plain : '/' ∉ x.toList) : '/' ∉ (x ++ ".json").toList := by
  rw [String.toList_append, List.mem_append, not_or]
  exact ⟨plain, by decide⟩

/-- A directory, a component and a file below it, followed from the root: a component `.` keeps
the directory and a component `..` leaves it. -/
theorem followed_three {d a f : String} (dNamed : d ≠ "." ∧ d ≠ "..") (fNamed : f ≠ "." ∧ f ≠ "..") :
    [d, a, f].foldl enter [] = if a = "." then [d, f] else if a = ".." then [f] else [d, a, f] := by
  simp only [List.foldl_cons, List.foldl_nil, enter_named [] dNamed.1 dNamed.2, List.nil_append]
  by_cases here : a = "."
  · simp [here, enter, fNamed.1, fNamed.2]
  · by_cases up : a = ".."
    · simp [up, enter, fNamed.1, fNamed.2]
    · simp [here, up, enter_named _ here up, enter_named _ fNamed.1 fNamed.2]

/-- Two such paths below one directory lead to the same place exactly when their components
agree: the three shapes have different lengths. -/
theorem followed_three_inj {d a f a' f' : String} (dNamed : d ≠ "." ∧ d ≠ "..")
    (fNamed : f ≠ "." ∧ f ≠ "..") (fNamed' : f' ≠ "." ∧ f' ≠ "..") :
    [d, a, f].foldl enter [] = [d, a', f'].foldl enter [] ↔ a = a' ∧ f = f' := by
  rw [followed_three dNamed fNamed, followed_three dNamed fNamed']
  by_cases here : a = "."
  · subst here
    by_cases here' : a' = "."
    · simp [here']
    · by_cases up' : a' = ".."
      · simp [up']
      · simp [here', up', Ne.symm here']
  · by_cases up : a = ".."
    · subst up
      by_cases here' : a' = "."
      · simp [here']
      · by_cases up' : a' = ".."
        · simp [up']
        · simp [here', up', Ne.symm up']
    · by_cases here' : a' = "."
      · simp [here, up, here']
      · by_cases up' : a' = ".."
        · simp [here, up, up']
        · simp [here, up, here', up']

/-- The components of a binding's file. -/
def bindingParts (c p : String) : List String := ["bindings", safeName c, safeName p ++ ".json"]

/-- The components of a connection's server information file. -/
def serverInfoParts (c : String) : List String := ["connections", safeName c, "server_info.json"]

theorem bindingPath_parts (c p : String) : bindingPath c p = pathOf (bindingParts c p) := rfl

theorem serverInfoPath_parts (c : String) : serverInfoPath c = pathOf (serverInfoParts c) := rfl

theorem bindingParts_plain (c p : String) : ∀ x ∈ bindingParts c p, '/' ∉ x.toList := by
  intro x member
  simp only [bindingParts, List.mem_cons, List.not_mem_nil, or_false] at member
  rcases member with rfl | rfl | rfl
  · decide
  · exact slash_not_mem_safeName c
  · exact json_plain _ (slash_not_mem_safeName p)

theorem serverInfoParts_plain (c : String) : ∀ x ∈ serverInfoParts c, '/' ∉ x.toList := by
  intro x member
  simp only [serverInfoParts, List.mem_cons, List.not_mem_nil, or_false] at member
  rcases member with rfl | rfl | rfl
  · decide
  · exact slash_not_mem_safeName c
  · decide

theorem bindingParts_followed (c p : String) : (bindingParts c p).foldl enter [] =
    if safeName c = "." then ["bindings", safeName p ++ ".json"]
    else if safeName c = ".." then [safeName p ++ ".json"]
    else ["bindings", safeName c, safeName p ++ ".json"] :=
  followed_three (by decide) (json_named (safeName p))

theorem serverInfoParts_followed (c : String) : (serverInfoParts c).foldl enter [] =
    if safeName c = "." then ["connections", "server_info.json"]
    else if safeName c = ".." then ["server_info.json"]
    else ["connections", safeName c, "server_info.json"] :=
  followed_three (by decide) (by decide)

theorem bindingParts_somewhere (c p : String) : (bindingParts c p).foldl enter [] ≠ [] := by
  rw [bindingParts_followed]
  split
  · simp
  · split <;> simp

theorem serverInfoParts_somewhere (c : String) : (serverInfoParts c).foldl enter [] ≠ [] := by
  rw [serverInfoParts_followed]
  split
  · simp
  · split <;> simp

theorem localOnlyPath_parts : localOnlyPath = pathOf ["local_only", "findings.json"] := rfl

theorem localOnly_followed : ["local_only", "findings.json"].foldl enter [] = ["local_only", "findings.json"] := by
  simp [enter]

theorem localOnlyParts_plain : ∀ x ∈ ["local_only", "findings.json"], '/' ∉ x.toList := by
  intro x member
  simp only [List.mem_cons, List.not_mem_nil, or_false] at member
  rcases member with rfl | rfl <;> decide

theorem localOnly_somewhere : ["local_only", "findings.json"].foldl enter [] ≠ [] := by
  rw [localOnly_followed]
  exact List.cons_ne_nil _ _

/-! ## Which store files coincide -/

/-- Two bindings are stored in one file exactly when their connections share a safe name and so do
their projects. -/
theorem bindingPath_eq_iff (c p c' p' : String) :
    bindingPath c p = bindingPath c' p' ↔ SameName c c' ∧ SameName p p' := by
  rw [← safeName_eq_iff, ← safeName_eq_iff, bindingPath_parts, bindingPath_parts,
    pathOf_eq_iff (bindingParts_plain c p) (bindingParts_plain c' p') (bindingParts_somewhere c p)
      (bindingParts_somewhere c' p'),
    bindingParts, bindingParts, followed_three_inj (by decide) (json_named _) (json_named _),
    String.append_left_inj]

/-- Two connections keep their server information in one file exactly when they share a safe
name. -/
theorem serverInfoPath_eq_iff (c c' : String) : serverInfoPath c = serverInfoPath c' ↔ SameName c c' := by
  rw [← safeName_eq_iff, serverInfoPath_parts, serverInfoPath_parts,
    pathOf_eq_iff (serverInfoParts_plain c) (serverInfoParts_plain c') (serverInfoParts_somewhere c)
      (serverInfoParts_somewhere c'),
    serverInfoParts, serverInfoParts, followed_three_inj (by decide) (by decide) (by decide)]
  exact and_iff_left rfl

/-- A binding shares its file with the server information of a connection only through the
connection `..`, whose directories both lead back to the root, and the project `server_info`. -/
theorem bindingPath_eq_serverInfoPath_iff (c p c' : String) :
    bindingPath c p = serverInfoPath c' ↔ c = ".." ∧ p = "server_info" ∧ c' = ".." := by
  have project : safeName p ++ ".json" = "server_info.json" ↔ p = "server_info" := by
    rw [show ("server_info.json" : String) = "server_info" ++ ".json" from rfl, String.append_left_inj]
    exact safeName_eq_plain literal_names_plain.2.2.2.2 (by decide) (by decide)
  rw [bindingPath_parts, serverInfoPath_parts,
    pathOf_eq_iff (bindingParts_plain c p) (serverInfoParts_plain c') (bindingParts_somewhere c p)
      (serverInfoParts_somewhere c'),
    bindingParts_followed, serverInfoParts_followed, ← safeName_eq_dotdot (s := c),
    ← safeName_eq_dotdot (s := c'), ← project]
  by_cases here : safeName c = "." <;> by_cases here' : safeName c' = "." <;>
    by_cases up : safeName c = ".." <;> by_cases up' : safeName c' = ".." <;> simp_all

theorem bindingPath_ne_local (c p : String) : bindingPath c p ≠ localOnlyPath := by
  rw [localOnlyPath_parts, bindingPath_parts, Ne, pathOf_eq_iff (bindingParts_plain c p) localOnlyParts_plain
    (bindingParts_somewhere c p) localOnly_somewhere, bindingParts_followed, localOnly_followed]
  split
  · simp
  · split <;> simp

theorem serverInfoPath_ne_local (c : String) : serverInfoPath c ≠ localOnlyPath := by
  rw [localOnlyPath_parts, serverInfoPath_parts, Ne, pathOf_eq_iff (serverInfoParts_plain c)
    localOnlyParts_plain (serverInfoParts_somewhere c) localOnly_somewhere, serverInfoParts_followed,
    localOnly_followed]
  split
  · simp
  · split <;> simp

/-! ## Which store files lie apart -/

/-- Reading up to the first `/` stops inside a prefix that holds one. -/
theorem takeWhile_of_prefix {l l' : List Char} (pre : l <+: l') (slash : '/' ∈ l) :
    l.takeWhile (· != '/') = l'.takeWhile (· != '/') := by
  obtain ⟨t, rfl⟩ := pre
  induction l with
  | nil => cases slash
  | cons c rest ih =>
    by_cases here : c = '/'
    · subst here
      simp
    · have later : '/' ∈ rest := (List.mem_cons.mp slash).resolve_left (Ne.symm here)
      have skipped : (c != '/') = true := by simpa using here
      simp only [List.cons_append, List.takeWhile_cons, skipped, if_true, ih later]

/-- A component without `/` followed by nothing or by a `/` is what comes before the first `/`. -/
theorem takeWhile_component {a s : List Char} (plain : '/' ∉ a) (next : s = [] ∨ s.head? = some '/') :
    (a ++ s).takeWhile (· != '/') = a := by
  induction a with
  | nil =>
    rcases next with rfl | slash
    · rfl
    · cases s with
      | nil => cases slash
      | cons c t =>
        obtain rfl : c = '/' := by simpa using slash
        simp
  | cons c rest ih =>
    have notSlash : (c != '/') = true := by
      simpa using fun same : c = '/' => plain (same ▸ List.mem_cons_self)
    simp only [List.cons_append, List.takeWhile_cons, notSlash, if_true,
      ih fun inRest => plain (List.mem_cons_of_mem c inRest)]

/-- A path of components is its first component, then nothing or a `/` and the rest. -/
theorem intercalate_first (x : String) (rest : List String) :
    ∃ s : List Char, ("/".intercalate (x :: rest)).toList = x.toList ++ s ∧ (s = [] ∨ s.head? = some '/') := by
  cases rest with
  | nil => exact ⟨[], by simp, .inl rfl⟩
  | cons y more =>
    refine ⟨'/' :: ("/".intercalate (y :: more)).toList, ?_, .inr rfl⟩
    simp [String.intercalate_cons_cons, String.toList_append, show ("/" : String).toList = ['/'] from rfl]

/-- The first component of a path of components, also with a `/` after it. -/
theorem takeWhile_intercalate {x : String} (plain : '/' ∉ x.toList) (rest : List String) (tail : List Char)
    (next : tail = [] ∨ tail.head? = some '/') :
    (("/".intercalate (x :: rest)).toList ++ tail).takeWhile (· != '/') = x.toList := by
  obtain ⟨s, written, after⟩ := intercalate_first x rest
  rw [written, List.append_assoc]
  refine takeWhile_component plain ?_
  rcases after with rfl | slash
  · simpa using next
  · cases s with
    | nil => cases slash
    | cons c t => exact .inr slash

/-- Paths whose first components differ lie apart: neither is the other or inside it. -/
theorem apart_of_heads {x y : String} (plainX : '/' ∉ x.toList) (plainY : '/' ∉ y.toList) (differ : x ≠ y)
    (xs ys : List String) : Apart ("/".intercalate (x :: xs)) ("/".intercalate (y :: ys)) := by
  have firstX := takeWhile_intercalate plainX xs [] (.inl rfl)
  have firstY := takeWhile_intercalate plainY ys [] (.inl rfl)
  have closedX := takeWhile_intercalate plainX xs ['/'] (.inr rfl)
  have closedY := takeWhile_intercalate plainY ys ['/'] (.inr rfl)
  rw [List.append_nil] at firstX firstY
  -- a path inside another starts with that path and a `/`, so with its first component
  have notInside : ∀ {a b : String} {xa xb : String} (firstA : a.toList.takeWhile (· != '/') = xa.toList)
      (closedB : (b.toList ++ ['/']).takeWhile (· != '/') = xb.toList), xa ≠ xb → isInside a b = false := by
    intro a b xa xb firstA closedB apart
    rw [Bool.eq_false_iff]
    intro inside
    have same := takeWhile_of_prefix (List.isPrefixOf_iff_prefix.mp inside) (by simp)
    rw [closedB, firstA] at same
    exact apart (String.toList_inj.mp same).symm
  refine ⟨fun same => differ (String.toList_inj.mp ?_), notInside firstX closedY differ,
    notInside firstY closedX (Ne.symm differ)⟩
  rw [← firstX, ← firstY, same]

theorem json_ne_local (x : String) : x ++ ".json" ≠ "local_only" := by
  intro same
  have last := congrArg (fun s : String => s.toList.getLast?) same
  simp [String.toList_append] at last

/-- The file of a binding lies apart from the file of the local findings. -/
theorem bindingPath_apart_local (c p : String) : Apart (bindingPath c p) localOnlyPath := by
  rw [bindingPath_parts, pathOf, bindingParts_followed, localOnlyPath_parts, pathOf, localOnly_followed]
  have plainLocal : '/' ∉ "local_only".toList := by decide
  split
  · exact apart_of_heads (by decide) plainLocal (by decide) _ _
  · split
    · exact apart_of_heads (json_plain _ (slash_not_mem_safeName p)) plainLocal (json_ne_local _) _ _
    · exact apart_of_heads (by decide) plainLocal (by decide) _ _

/-- The server information of a connection lies apart from the file of the local findings. -/
theorem serverInfoPath_apart_local (c : String) : Apart (serverInfoPath c) localOnlyPath := by
  rw [serverInfoPath_parts, pathOf, serverInfoParts_followed, localOnlyPath_parts, pathOf, localOnly_followed]
  have plainLocal : '/' ∉ "local_only".toList := by decide
  split
  · exact apart_of_heads (by decide) plainLocal (by decide) _ _
  · split
    · exact apart_of_heads (by decide) plainLocal (by decide) _ _
    · exact apart_of_heads (by decide) plainLocal (by decide) _ _

theorem intercalate_three (a b c : String) : "/".intercalate [a, b, c] = a ++ "/" ++ b ++ "/" ++ c := by
  simp [String.intercalate_cons_cons, String.intercalate_singleton, String.append_assoc]

/-- The file of a binding lies in `bindings/<connection>/` unless the connection is `.` or `..`. -/
theorem bindingPath_inside_iff (c p : String) :
    bindingPath c p = "bindings/" ++ safeName c ++ "/" ++ safeName p ++ ".json" ↔ c ≠ "." ∧ c ≠ ".." := by
  have written : "bindings/" ++ safeName c ++ "/" ++ safeName p ++ ".json" = "/".intercalate (bindingParts c p) := by
    rw [bindingParts, intercalate_three, show ("bindings/" : String) = "bindings" ++ "/" by simp]
    simp only [String.append_assoc]
  rw [written, bindingPath_parts, pathOf, intercalate_slash_inj (fun x member => ?_) (bindingParts_plain c p)
    (bindingParts_somewhere c p) (by simp [bindingParts]), bindingParts_followed, bindingParts, ne_eq, ne_eq,
    ← safeName_eq_dot (s := c), ← safeName_eq_dotdot (s := c)]
  · by_cases here : safeName c = "." <;> by_cases up : safeName c = ".." <;> simp_all
  · rcases mem_foldl_enter _ [] member with none | found
    · cases none
    · exact bindingParts_plain c p x found

/-- The server information of a connection lies in `connections/<connection>/` unless the
connection is `.` or `..`. -/
theorem serverInfoPath_inside_iff (c : String) :
    serverInfoPath c = "connections/" ++ safeName c ++ "/server_info.json" ↔ c ≠ "." ∧ c ≠ ".." := by
  have written : "connections/" ++ safeName c ++ "/server_info.json" = "/".intercalate (serverInfoParts c) := by
    rw [serverInfoParts, intercalate_three, show ("connections/" : String) = "connections" ++ "/" by simp,
      show ("/server_info.json" : String) = "/" ++ "server_info.json" by simp]
    simp only [String.append_assoc]
  rw [written, serverInfoPath_parts, pathOf, intercalate_slash_inj (fun x member => ?_) (serverInfoParts_plain c)
    (serverInfoParts_somewhere c) (by simp [serverInfoParts]), serverInfoParts_followed, serverInfoParts, ne_eq,
    ne_eq, ← safeName_eq_dot (s := c), ← safeName_eq_dotdot (s := c)]
  · by_cases here : safeName c = "." <;> by_cases up : safeName c = ".." <;> simp_all
  · rcases mem_foldl_enter _ [] member with none | found
    · cases none
    · exact serverInfoParts_plain c x found

/-- Safe names and the store files they make. A safe name is one component, never empty and never
holding `/`, which is `.` or `..` exactly when the name is; names share it only when equal or when
they are the empty name and `_`. Files of bindings, and files of server information, coincide
exactly as their safe names do; a binding's file is a server information file only for the
connection `..` and the project `server_info`; no such file is the file of the local findings;
and only the connections `.` and `..` put their files outside their own directories. -/
theorem store_file_coincidences (s t c p c' p' : String) :
    (safeName s = safeName t ↔ SameName s t) ∧
    (safeName s ≠ "" ∧ '/' ∉ (safeName s).toList ∧ (safeName s = "." ↔ s = ".") ∧
      (safeName s = ".." ↔ s = "..")) ∧
    (bindingPath c p = bindingPath c' p' ↔ SameName c c' ∧ SameName p p') ∧
    (serverInfoPath c = serverInfoPath c' ↔ SameName c c') ∧
    (bindingPath c p = serverInfoPath c' ↔ c = ".." ∧ p = "server_info" ∧ c' = "..") ∧
    (bindingPath c p ≠ localOnlyPath ∧ serverInfoPath c ≠ localOnlyPath) ∧
    (bindingPath c p = "bindings/" ++ safeName c ++ "/" ++ safeName p ++ ".json" ↔ c ≠ "." ∧ c ≠ "..") ∧
    (serverInfoPath c = "connections/" ++ safeName c ++ "/server_info.json" ↔ c ≠ "." ∧ c ≠ "..") :=
  ⟨safeName_eq_iff s t,
    ⟨safeName_ne_empty s, slash_not_mem_safeName s, safeName_eq_dot, safeName_eq_dotdot⟩,
    bindingPath_eq_iff c p c' p', serverInfoPath_eq_iff c c', bindingPath_eq_serverInfoPath_iff c p c',
    ⟨bindingPath_ne_local c p, serverInfoPath_ne_local c⟩, bindingPath_inside_iff c p,
    serverInfoPath_inside_iff c⟩

/-- The empty name and `_` share a safe name, `..` is its own safe name, and the binding of the
connection `..` to the project `server_info` is stored in the server information file of `..`. -/
theorem dotdot_binding_is_server_info :
    safeName "" = safeName "_" ∧ safeName ".." = ".." ∧
      bindingPath ".." "server_info" = serverInfoPath ".." :=
  ⟨(safeName_eq_iff "" "_").mpr (.inr (.inl ⟨rfl, rfl⟩)), safeName_eq_dotdot.mpr rfl,
    (bindingPath_eq_serverInfoPath_iff ".." "server_info" "..").mpr ⟨rfl, rfl, rfl⟩⟩

end Store

end IssueSync
