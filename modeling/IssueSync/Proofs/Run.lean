import IssueSync.Host

/-!
How runs on the host are taken apart in proofs: the result of lifting a computation that may fail,
of filtering a list with a test that only reads, and of reading and writing a path of the storage
directory. Writing a path changes what that path holds and nothing else. What reading and writing
a path do depends only on the entries around it: at the path, inside it and above it; a write at a
path apart from another leaves those entries of the other as they were.
-/

set_option autoImplicit false

namespace IssueSync

open IssueSync.Store

/-- A computation that evaluation shows to succeed with `a` returns `a`. -/
theorem Except.eq_ok_of_toOption {ε α : Type} {e : Except ε α} {a : α} (known : e.toOption = some a) :
    e = .ok a := by
  cases e with
  | error f => cases known
  | ok b =>
    cases known
    rfl

namespace Store

theorem isInside_iff (path dir : String) : isInside path dir = true ↔ dir.toList ++ ['/'] <+: path.toList :=
  List.isPrefixOf_iff_prefix

/-- A path lies inside no directory whose name is as long as its own. -/
theorem isInside_of_length {path dir : String} (short : path.toList.length ≤ dir.toList.length) :
    isInside path dir = false := by
  rw [Bool.eq_false_iff]
  intro inside
  have longer := ((isInside_iff path dir).mp inside).length_le
  simp only [List.length_append, List.length_singleton] at longer
  omega

@[simp] theorem isInside_self (path : String) : isInside path path = false := isInside_of_length (Nat.le_refl _)

theorem dropWhile_slash (r : List Char) :
    r.dropWhile (· != '/') = [] ∨ ∃ t, r.dropWhile (· != '/') = '/' :: t := by
  induction r with
  | nil => exact .inl rfl
  | cons c rest ih =>
    by_cases slash : c = '/'
    · subst slash
      exact .inr ⟨rest, by simp⟩
    · have skipped : (c != '/') = true := by simpa using slash
      simpa only [List.dropWhile_cons, skipped, if_true] using ih

/-- A path is its directory, a slash and its name, or it has no directory but the root. -/
theorem dirOf_cases (path : String) : dirOf path = "" ∨ (dirOf path).toList ++ ['/'] <+: path.toList := by
  have whole := List.takeWhile_append_dropWhile (p := (· != '/')) (l := path.toList.reverse)
  rcases dropWhile_slash path.toList.reverse with empty | ⟨t, cons⟩
  · left
    simp [dirOf, empty]
  · right
    have split : path.toList = t.reverse ++ ['/'] ++ (path.toList.reverse.takeWhile (· != '/')).reverse := by
      have back := congrArg List.reverse whole
      rw [cons, List.reverse_reverse] at back
      exact back.symm.trans (by simp)
    rw [split]
    simp [dirOf, cons, String.toList_ofList]

theorem dirOf_length_le (path : String) : (dirOf path).toList.length ≤ path.toList.length := by
  rcases dirOf_cases path with root | pre
  · simp [root]
  · have longer := pre.length_le
    simp only [List.length_append, List.length_singleton] at longer
    omega

@[simp] theorem isInside_dirOf_self (path : String) : isInside (dirOf path) path = false :=
  isInside_of_length (dirOf_length_le path)

/-- What lies inside a path's directory lies inside every directory above the path. -/
theorem isInside_of_dirOf {path dir : String} (inside : isInside (dirOf path) dir = true) :
    isInside path dir = true := by
  rcases dirOf_cases path with root | pre
  · rw [root] at inside
    simp [isInside] at inside
  · exact (isInside_iff path dir).mpr
      (((isInside_iff _ dir).mp inside).trans ((List.prefix_append _ ['/']).trans pre))

theorem Apart.symm {p q : String} (apart : Apart p q) : Apart q p :=
  ⟨Ne.symm apart.1, apart.2.2, apart.2.1⟩

end Store

namespace Run

theorem lift_run {α : Type} (e : Except Failure α) (h : Host) :
    (Run.lift e).run h = match e with
      | .ok a => .ok a h
      | .error f => .error f h := by
  cases e <;> rfl

@[simp] theorem lift_ok_run {α : Type} (a : α) (h : Host) : (Run.lift (.ok a)).run h = .ok a h := rfl

@[simp] theorem lift_error_run {α : Type} (f : Failure) (h : Host) :
    (Run.lift (.error f : Except Failure α)).run h = .error f h := rfl

@[simp] theorem map_run {α β : Type} (f : α → β) (m : Run α) (h : Host) :
    (f <$> m).run h = match m.run h with
      | .ok a h' => .ok (f a) h'
      | .error e h' => .error e h' := by
  simp only [EStateM.run, Functor.map, EStateM.map]
  cases m h <;> rfl

@[simp] theorem discard_run {α : Type} (m : Run α) (h : Host) :
    (discard m).run h = match m.run h with
      | .ok _ h' => .ok () h'
      | .error e h' => .error e h' := by
  simp only [discard, Functor.mapConst, Function.comp, Function.const, EStateM.run, EStateM.map]
  cases m h <;> rfl

theorem discard_ok {α : Type} {m : Run α} {h h' : Host} (done : (discard m).run h = .ok () h') :
    ∃ a, m.run h = .ok a h' := by
  rw [discard_run] at done
  cases ran : m.run h with
  | ok a h1 =>
    rw [ran] at done
    cases done
    exact ⟨a, rfl⟩
  | error e h1 =>
    rw [ran] at done
    cases done

theorem discard_bind_run {α β : Type} (m : Run α) (k : Unit → Run β) (h : Host) :
    (discard m >>= k).run h = (m >>= fun _ => k ()).run h := by
  simp only [EStateM.run_bind, discard_run]
  cases m.run h <;> rfl

theorem tryCatch_run {α : Type} (m : Run α) (handle : Failure → Run α) (h : Host) :
    (tryCatch m handle).run h = match m.run h with
      | .ok a h' => .ok a h'
      | .error e h' => (handle e).run h' := by
  show EStateM.tryCatch m handle h = match m h with
    | .ok a h' => .ok a h'
    | .error e h' => handle e h'
  delta EStateM.tryCatch
  cases m h <;> rfl

@[simp] theorem fail_run {α : Type} (f : Failure) (h : Host) : (Run.fail f : Run α).run h = .error f h :=
  rfl

theorem filterAuxM_run {α γ : Type} (g : α → γ) (p : γ → Run Bool) (q : α → Bool) (h : Host)
    (l : List α) (acc : List γ) (answers : ∀ a ∈ l, (p (g a)).run h = .ok (q a) h) :
    (List.filterAuxM p (l.map g) acc).run h = .ok (((l.filter q).map g).reverse ++ acc) h := by
  induction l generalizing acc with
  | nil => rfl
  | cons a rest ih =>
    have first := answers a (List.mem_cons_self ..)
    have later := ih (cond (q a) (g a :: acc) acc) fun x member => answers x (List.mem_cons_of_mem a member)
    simp only [List.map_cons, List.filterAuxM, EStateM.run_bind, first, later]
    cases kept : q a <;> simp [kept]

theorem filterM_run {α γ : Type} (g : α → γ) (p : γ → Run Bool) (q : α → Bool) (h : Host)
    (l : List α) (answers : ∀ a ∈ l, (p (g a)).run h = .ok (q a) h) :
    ((l.map g).filterM p).run h = .ok ((l.filter q).map g) h := by
  simp only [List.filterM, EStateM.run_bind, filterAuxM_run g p q h l [] answers, List.append_nil,
    EStateM.run_pure, List.reverse_reverse]

theorem filterMapM_run {α γ β : Type} (g : α → γ) (p : γ → Run (Option β)) (q : α → Option β)
    (h : Host) (l : List α) (answers : ∀ a ∈ l, (p (g a)).run h = .ok (q a) h) :
    ((l.map g).filterMapM p).run h = .ok (l.filterMap q) h := by
  induction l with
  | nil => rfl
  | cons a rest ih =>
    have later := ih fun x member => answers x (List.mem_cons_of_mem a member)
    rw [List.map_cons, List.filterMapM_cons, EStateM.run_bind, answers a (List.mem_cons_self ..)]
    cases answer : q a with
    | none => simpa [List.filterMap_cons, answer] using later
    | some b => simp [answer, later]

theorem readJson_run (path : String) (h : Host) :
    (Run.readJson path).run h = match h.files.readJson path with
      | .ok v => .ok v h
      | .error f => .error f h := by
  simp only [Run.readJson, EStateM.run_bind, EStateM.run_get, lift_run]
  cases h.files.readJson path <;> rfl

end Run

namespace Store.Files

theorem lookup_cons_if {α : Type} (key query : String) (value : α) (rest : List (String × α)) :
    ((key, value) :: rest).lookup query = if query = key then some value else rest.lookup query := by
  by_cases hit : query = key
  · subst hit
    simp [List.lookup_cons]
  · have miss : (query == key) = false := by simpa using hit
    simp [List.lookup_cons, miss, hit]

theorem lookup_map_replace (entries : List (String × Entry)) (path query : String) (e : Entry) :
    (entries.map fun (p, old) => if p == path then (p, e) else (p, old)).lookup query =
      if query = path then ((entries.lookup query).map fun _ => e) else entries.lookup query := by
  induction entries with
  | nil => split <;> rfl
  | cons entry rest ih =>
    obtain ⟨p, old⟩ := entry
    by_cases same : p = path
    · subst same
      have replaced : (if p == p then (p, e) else (p, old)) = (p, e) := by simp
      simp only [List.map_cons, replaced, lookup_cons_if, ih]
      by_cases hit : query = p <;> simp [hit]
    · have kept : (if p == path then (p, e) else (p, old)) = (p, old) := by simp [same]
      simp only [List.map_cons, kept, lookup_cons_if, ih]
      by_cases hit : query = p
      · subst hit
        simp [same]
      · simp [hit]

theorem get?_put (fs : Files) (path query : String) (e : Entry) :
    (fs.put path e).get? query = if query = path then some e else fs.get? query := by
  unfold put get?
  split
  · rename_i present
    rw [lookup_map_replace]
    by_cases hit : query = path
    · subst hit
      simp only [holds, get?, Option.isSome_iff_exists] at present
      obtain ⟨old, found⟩ := present
      simp [found]
    · simp [hit]
  · rename_i absent
    simp only [holds, get?, Option.isSome_eq_false_iff, Bool.not_eq_true] at absent
    by_cases hit : query = path
    · subst hit
      simp only [Option.isNone_iff_eq_none] at absent
      simp [List.lookup_append, absent]
    · have : (query == path) = false := by simpa using hit
      simp [List.lookup_append, hit, List.lookup_cons, List.lookup_nil, this]

@[simp] theorem get?_put_self (fs : Files) (path : String) (e : Entry) :
    (fs.put path e).get? path = some e := by
  simp [get?_put]

theorem get?_put_of_ne (fs : Files) {path query : String} (e : Entry) (apart : query ≠ path) :
    (fs.put path e).get? query = fs.get? query := by
  rw [get?_put, if_neg apart]

theorem readJson_put_document (fs : Files) (path : String) (v : Value) :
    (fs.put path (.document v)).readJson path = .ok (some v) := by
  simp [readJson]

/-! ### Directories -/

/-- An entry at one path and a test of entries that nothing at that path passes: putting the
entry changes neither which entries pass nor whether any does. -/
theorem filter_put {path : String} {P : String × Entry → Bool} (never : ∀ e, P (path, e) = false)
    (fs : Files) (e : Entry) : (fs.put path e).entries.filter P = fs.entries.filter P := by
  have replaced : ∀ l : List (String × Entry),
      (l.map fun (p, old) => if p == path then (p, e) else (p, old)).filter P = l.filter P := by
    intro l
    induction l with
    | nil => rfl
    | cons x rest ih =>
      obtain ⟨p, old⟩ := x
      rw [List.map_cons, List.filter_cons, List.filter_cons, ih]
      by_cases same : p = path
      · subst same
        simp [never]
      · simp [same]
  unfold put
  split
  · exact replaced _
  · simp [never]

theorem any_put {path : String} {P : String × Entry → Bool} (never : ∀ e, P (path, e) = false)
    (fs : Files) (e : Entry) : (fs.put path e).entries.any P = fs.entries.any P := by
  have kept := congrArg (fun l => l.any P) (filter_put never fs e)
  simpa only [List.any_filter, Bool.and_self] using kept

/-- What stands at, inside and above a path that lies apart from the written one is as before. -/
theorem around_put_of_apart {path written : String} (apart : Apart written path) (fs : Files) (e : Entry) :
    (fs.put written e).around path = fs.around path :=
  filter_put (fun _ => by simp [apart.1, apart.2.1, apart.2.2]) fs e

/-- A test passed only by entries of `around` reads the same in `around` as in all entries. -/
theorem any_around {path : String} {Q : String × Entry → Bool}
    (near : ∀ e, Q e = true → (e.1 == path || isInside e.1 path || isInside path e.1) = true) (fs : Files) :
    (fs.around path).any Q = fs.entries.any Q := by
  unfold around
  rw [List.any_filter]
  congr 1
  funext e
  cases passes : Q e
  · simp
  · simp [near e passes]

theorem get?_around (fs : Files) (path : String) : fs.get? path = (fs.around path).lookup path := by
  unfold get? around
  induction fs.entries with
  | nil => rfl
  | cons x rest ih =>
    obtain ⟨p, e⟩ := x
    by_cases same : path = p
    · subst same
      simp
    · have other : (path == p) = false := by simpa using same
      by_cases near : (p == path || isInside p path || isInside path p) = true
      · simp [near, List.lookup_cons, other, ih]
      · simp only [Bool.not_eq_true] at near
        simp [near, List.lookup_cons, other, ih]

/-- What stands around a path once an entry is put there depends only on what stood around it. -/
theorem around_put_self (fs : Files) (path : String) (e : Entry) :
    (fs.put path e).around path = (({ entries := fs.around path } : Files).put path e).entries := by
  have present : ({ entries := fs.around path } : Files).holds path = fs.holds path := by
    simp only [holds, get?, ← get?_around]
  unfold put
  rw [present]
  split
  · -- rewriting in place keeps every path, so the same entries stay around
    unfold around
    rw [List.filter_map]
    congr 2
    funext entry
    obtain ⟨p, old⟩ := entry
    simp only [Function.comp]
    split <;> rfl
  · simp [around]

theorem around_put_congr {fs fs' : Files} {path : String} (same : fs.around path = fs'.around path) (e : Entry) :
    (fs.put path e).around path = (fs'.put path e).around path := by
  rw [around_put_self, around_put_self, same]

section Around

variable {fs fs' : Files} {path : String} (same : fs.around path = fs'.around path)
include same

theorem get?_of_around : fs.get? path = fs'.get? path := by
  rw [get?_around, same, ← get?_around]

/-- A test that only entries around the path pass is passed alike by both. -/
theorem any_of_around {Q : String × Entry → Bool}
    (near : ∀ e, Q e = true → (e.1 == path || isInside e.1 path || isInside path e.1) = true) :
    fs.entries.any Q = fs'.entries.any Q := by
  rw [← any_around near fs, same, any_around near fs']

theorem occupied_of_around : fs.occupied path = fs'.occupied path :=
  any_of_around same fun e passes => by simp [passes]

theorem fileAbove_of_around : fs.fileAbove path = fs'.fileAbove path :=
  any_of_around same fun e passes => by simp_all

theorem fileAbove_dirOf_of_around : fs.fileAbove (dirOf path) = fs'.fileAbove (dirOf path) :=
  -- a file above the directory stands above the path too
  any_of_around same fun e passes => by
    simp only [Bool.and_eq_true] at passes
    simp [isInside_of_dirOf passes.2]

theorem dirFault_of_around : fs.dirFault path = fs'.dirFault path := by
  simp only [dirFault, fileAbove_dirOf_of_around same, fileAbove_of_around same]

theorem isDirectory_of_around : fs.isDirectory path = fs'.isDirectory path := by
  simp only [isDirectory, get?_of_around same, occupied_of_around same]

theorem writable_of_around : fs.Writable path ↔ fs'.Writable path := by
  simp only [Writable, dirFault_of_around same, isDirectory_of_around same]

theorem readJson_of_around : fs.readJson path = fs'.readJson path := by
  simp only [readJson, get?_of_around same, occupied_of_around same]

end Around

/-- Putting a file at a path keeps what decides whether the path can be written. -/
theorem writable_put_self {fs : Files} {path : String} (writable : fs.Writable path) {e : Entry}
    (file : e.isFile = true) : (fs.put path e).Writable path := by
  have above : (fs.put path e).fileAbove path = fs.fileAbove path :=
    any_put (fun _ => by simp) fs e
  have aboveDir : (fs.put path e).fileAbove (dirOf path) = fs.fileAbove (dirOf path) :=
    any_put (fun _ => by simp [isInside_dirOf_self]) fs e
  have inside : (fs.put path e).occupied path = fs.occupied path := any_put (fun _ => by simp) fs e
  obtain ⟨made, notDir⟩ := writable
  have empty : fs.occupied path = false := by
    simp only [isDirectory, Bool.or_eq_false_iff] at notDir
    exact notDir.2
  refine ⟨by simpa only [dirFault, above, aboveDir] using made, ?_⟩
  cases e with
  | folder => cases file
  | _ => simp [isDirectory, inside, empty]

theorem writable_put_of_apart {fs : Files} {path written : String} (apart : Apart written path) (e : Entry) :
    (fs.put written e).Writable path ↔ fs.Writable path :=
  writable_of_around (around_put_of_apart apart fs e)

theorem holds_of_readJson_some {fs : Files} {path : String} {v : Value} (read : fs.readJson path = .ok (some v)) :
    fs.holds path = true := by
  unfold readJson at read
  cases found : fs.get? path with
  | none =>
    rw [found] at read
    by_cases busy : fs.occupied path = true <;> simp [busy] at read
  | some e => simp [holds, found]

/-- Rewriting a file that is there adds no path, so no directory gains or loses what lies inside. -/
theorem occupied_put_of_holds {fs : Files} {path : String} (present : fs.holds path = true) (e : Entry)
    (dir : String) : (fs.put path e).occupied dir = fs.occupied dir := by
  unfold put occupied
  rw [if_pos present, List.any_map]
  congr 1
  funext entry
  obtain ⟨p, old⟩ := entry
  simp only [Function.comp]
  split <;> rfl

theorem readJson_put_of_holds {fs : Files} {path other : String} (present : fs.holds path = true) (e : Entry)
    (elsewhere : other ≠ path) : (fs.put path e).readJson other = fs.readJson other := by
  simp only [readJson, get?_put_of_ne _ _ elsewhere, occupied_put_of_holds present]

/-- Nothing at, inside or above a path: it reads as free and can be written. -/
theorem readJson_of_around_nil {fs : Files} {path : String} (free : fs.around path = []) :
    fs.readJson path = .ok none := by
  rw [readJson_of_around (show fs.around path = ({} : Files).around path from free)]
  rfl

theorem writable_of_around_nil {fs : Files} {path : String} (free : fs.around path = []) : fs.Writable path :=
  (writable_of_around (show fs.around path = ({} : Files).around path from free)).mpr ⟨rfl, rfl⟩

theorem writeJson_of_writable {fs : Files} {path : String} (writable : fs.Writable path) (v : Value) :
    fs.writeJson path v = .ok (fs.put path (.document v)) := by
  obtain ⟨made, notDir⟩ := writable
  simp only [writeJson, Option.isNone_iff_eq_none.mp made, notDir]
  rfl

theorem writeJson_of_not_writable {fs : Files} {path : String} (refused : ¬ fs.Writable path) (v : Value) :
    ∃ f, fs.writeJson path v = .error f := by
  unfold writeJson
  cases fault : fs.dirFault path with
  | some f => exact ⟨f, rfl⟩
  | none =>
    have dir : fs.isDirectory path = true := by simpa [Writable, fault] using refused
    exact ⟨_, if_pos dir⟩

/-- A refused write is refused alike wherever the same entries stand around the path. -/
theorem writeJson_error_of_around {fs fs' : Files} {path : String} (same : fs.around path = fs'.around path)
    {v : Value} {f : Failure} (refused : fs.writeJson path v = .error f) : fs'.writeJson path v = .error f := by
  unfold writeJson at refused ⊢
  rw [← dirFault_of_around same, ← isDirectory_of_around same]
  cases fault : fs.dirFault path with
  | some g => simpa [fault] using refused
  | none =>
    by_cases dir : fs.isDirectory path = true
    · simpa [fault, dir] using refused
    · simp [fault, dir] at refused

/-- A refused write fails with a fault of the file system. -/
theorem writeJson_error_file {fs : Files} {path : String} {v : Value} {f : Failure}
    (refused : fs.writeJson path v = .error f) : ∃ fault message, f = .file fault message := by
  unfold writeJson dirFault at refused
  dsimp only at refused
  split at refused
  · rename_i g fault
    split at fault
    · cases fault
      cases refused
      exact ⟨_, _, rfl⟩
    · split at fault
      · cases fault
        cases refused
        exact ⟨_, _, rfl⟩
      · cases fault
  · split at refused
    · cases refused
      exact ⟨_, _, rfl⟩
    · cases refused

end Store.Files

namespace Run

theorem writeJson_run (path : String) (v : Value) (h : Host) (writable : h.files.Writable path) :
    (Run.writeJson path v).run h = .ok () { h with files := h.files.put path (.document v) } := by
  simp only [Run.writeJson, EStateM.run_bind, EStateM.run_get, lift_run, Files.writeJson_of_writable writable,
    EStateM.run_modify]

theorem writeJson_run_error {path : String} {v : Value} {h : Host} {f : Failure}
    (refused : h.files.writeJson path v = .error f) : (Run.writeJson path v).run h = .error f h := by
  simp only [Run.writeJson, EStateM.run_bind, EStateM.run_get, lift_run, refused]

theorem writeJson_run_or (path : String) (v : Value) (h : Host) :
    (Run.writeJson path v).run h = .ok () { h with files := h.files.put path (.document v) } ∨
      ∃ f, (Run.writeJson path v).run h = .error f h := by
  by_cases writable : h.files.Writable path
  · exact .inl (writeJson_run path v h writable)
  · obtain ⟨f, refused⟩ := Files.writeJson_of_not_writable writable v
    exact .inr ⟨f, writeJson_run_error refused⟩

end Run

end IssueSync
