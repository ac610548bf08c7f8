import IssueSync.Proofs.Routing
import IssueSync.Proofs.Permission
import IssueSync.Proofs.VersionOrder
import IssueSync.Proofs.SearchReply
/-!
# The cache of the server version

Each connection keeps the version its server last reported in a file of its own. A version read
from text is written as its trimmed text, which reads as that same version, so storing a version
and reading it back gives it again, provided the file can be written: no file stands at or above
its directory and the path is no directory. Reading finds nothing in a missing file, in a document
that is no object, and in an object whose version is false or no version. Asking for the version
returns the cached one and touches nothing when there is one; otherwise it asks the server once
and caches what the server reports, or gives nothing, with the files as they were, when the server
cannot be reached, answers malformed or reports no version.

The condition on the file is met by most connections but not all: a connection named `.` keeps its
file at `connections/server_info.json`, where a connection named `server_info.json` needs its
directory, so once the first has stored a version the second can store none.
-/

set_option autoImplicit false

namespace IssueSync

open IssueSync.Store IssueSync.Remote IssueSync.Text

namespace Version

/-- Trimming twice trims once. -/
theorem trimList_trimList (cs : List Char) : trimList (trimList cs) = trimList cs := by
  -- the trimmed text is a front part of the text after its leading blanks, so it starts as that does
  have front : trimList cs <+: cs.dropWhile isBlank := List.rdropWhile_prefix isBlank _
  have starts : ∀ c ∈ (trimList cs).head?, isBlank c = false := by
    intro c first
    obtain ⟨rest, whole⟩ := front
    have leading := List.head?_dropWhile_not isBlank cs
    rw [← whole] at leading
    cases trimmed : trimList cs with
    | nil => simp [trimmed] at first
    | cons d more =>
      rw [trimmed, List.head?_cons, Option.mem_def, Option.some.injEq] at first
      simpa [trimmed, first] using leading
  rw [trimList_eq_rdropWhile starts]
  exact List.rdropWhile_idempotent isBlank (cs.dropWhile isBlank)

/-- A version read from text keeps the trimmed text, which is not empty. -/
theorem readText_raw {given : Value} {s : String} {v : Version} (read : readText given s = .ok v) :
    v.raw = String.ofList (trimList s.toList) ∧ trimList s.toList ≠ [] := by
  unfold readText at read
  dsimp only at read
  split at read
  · cases read
  · rename_i named
    refine ⟨?_, fun empty => ?_⟩
    · split at read
      · cases read
      · split at read
        · cases read
        · cases read
          rfl
    · -- no text, no groups
      rw [empty] at named
      exact named (by cases (trimList s.toList).length <;> rfl)

/-- Reading a version depends on the trimmed text alone, apart from the value an error shows. -/
theorem readText_of_trimmed {given given' : Value} {s t : String}
    (same : trimList s.toList = trimList t.toList) {v : Version} (read : readText given s = .ok v) :
    readText given' t = .ok v := by
  unfold readText at read ⊢
  rw [← same]
  dsimp only at read ⊢
  split at read
  · cases read
  · rename_i named
    rw [if_neg named]
    split at read
    · cases read
    · split at read
      · cases read
      · exact read

/-- The text of a version read from text is its trimmed text. -/
theorem text_of_create {s : String} {v : Version} (read : create s = .ok v) :
    v.text = String.ofList (trimList s.toList) ∧ v.text.isEmpty = false := by
  obtain ⟨raw, filled⟩ := readText_raw read
  have present : (String.ofList (trimList s.toList)).isEmpty = false := by
    rw [String.isEmpty_eq_false_iff, ne_eq, ← String.toList_inj, String.toList_ofList, String.toList_empty]
    exact filled
  have written : v.text = String.ofList (trimList s.toList) := by
    simp only [text, raw, present, Bool.false_eq_true, if_false]
  exact ⟨written, written ▸ present⟩

/-- The text of a version read from text reads as that same version. -/
theorem create_text {s : String} {v : Version} (read : create s = .ok v) : create v.text = .ok v := by
  apply readText_of_trimmed _ read
  rw [(text_of_create read).1, String.toList_ofList, trimList_trimList]

/-- Text that is no version is refused as a bad value. -/
theorem readText_error {given : Value} {s : String} {f : Failure} (refused : readText given s = .error f) :
    ∃ m, f = .badValue m := by
  unfold readText at refused
  dsimp only at refused
  split at refused
  · cases refused
    exact ⟨_, rfl⟩
  · split at refused
    · cases refused
      exact ⟨_, rfl⟩
    · split at refused
      · cases refused
        exact ⟨_, rfl⟩
      · cases refused

/-- A true value is refused as a bad value exactly when it is text that is no version. -/
theorem ofValue_badValue_iff {v : Value} (truthy : v.truthy = true) :
    (∃ m, ofValue v = .error (.badValue m)) ↔ ∃ s f, v = .str s ∧ create s = .error f := by
  cases v with
  | str s =>
    constructor
    · rintro ⟨m, refused⟩
      exact ⟨s, _, rfl, refused⟩
    · rintro ⟨s', f, same, refused⟩
      cases same
      obtain ⟨m, rfl⟩ := readText_error refused
      exact ⟨m, refused⟩
  | _ => simp [ofValue, truthy, Failure.noAttribute]

end Version

namespace ServerInfo

/-- The document a connection's server information is stored as. -/
def record (info : ServerInfo) : Value :=
  Value.object [("version", .str info.version.text), ("status", info.status),
    ("synced_at", .str store.resolutionClockText)]

theorem store_eq (c : String) (info : ServerInfo) :
    ServerInfo.store c info = Run.writeJson (serverInfoPath c) info.record := rfl

/-- The time a record says it was synchronized at reads. -/
theorem synced_reads : Stamp.ofValue (.str store.resolutionClockText) = .ok resolutionClock :=
  Except.eq_ok_of_toOption (by decide +kernel)

/-- A stored record reads back as the information it records, touching nothing. -/
theorem read_record {c : String} {info : ServerInfo} {s : String} (made : Version.create s = .ok info.version)
    {h : Host} (held : h.files.readJson (serverInfoPath c) = .ok (some info.record)) :
    (ServerInfo.read c).run h = .ok (some info) h := by
  obtain ⟨-, present⟩ := Version.text_of_create made
  have version : Version.ofValue (.str info.version.text) = .ok info.version := Version.create_text made
  have stamped : store.resolutionClockText ≠ "" := by decide
  unfold ServerInfo.read
  simp [EStateM.run_bind, Run.readJson_run, held, record, Value.object, Value.fieldD, Value.field?,
    Value.lookup?, Value.equal, Value.truthy, present, version, stamped, synced_reads]

/-- What a cache file can hold that gives no server information: nothing, a document that is no
object, or an object whose version is false or text that is no version. -/
def Uncached (doc : Option Value) : Prop :=
  ∀ es, doc = some (.dict es) → (Value.fieldD es "version").truthy = false ∨
    ∃ s f, Value.fieldD es "version" = .str s ∧ Version.create s = .error f

/-- A run that ends by returning some value never returns nothing. -/
theorem bind_some_ne_none {α β : Type} (m : Run α) (b : β) (h h' : Host) :
    (m >>= fun _ => pure (some b)).run h ≠ .ok none h' := by
  rw [EStateM.run_bind]
  cases m.run h <;> simp

/-- Reading gives no information, and logs at most a line, exactly when the file reads as a
document that holds none. -/
theorem read_eq_none_iff (c : String) (h : Host) :
    (∃ lines, (ServerInfo.read c).run h = .ok none { h with logs := h.logs ++ lines }) ↔
      ∃ doc, h.files.readJson (serverInfoPath c) = .ok doc ∧ Uncached doc := by
  unfold ServerInfo.read
  simp only [EStateM.run_bind, Run.readJson_run]
  cases read : h.files.readJson (serverInfoPath c) with
  | error f => simp
  | ok doc =>
    simp only [Except.ok.injEq, exists_eq_left']
    split
    · rename_i es
      have object : Uncached (some (.dict es)) ↔ (Value.fieldD es "version").truthy = false ∨
          ∃ s f, Value.fieldD es "version" = .str s ∧ Version.create s = .error f :=
        ⟨fun uncached => uncached es rfl, fun held _ same => by cases same; exact held⟩
      rw [object]
      by_cases given : (Value.fieldD es "version").truthy = true
      · simp only [given, Bool.not_true, Bool.false_eq_true, if_false, Bool.true_eq_false, false_or]
        rw [← Version.ofValue_badValue_iff given]
        split
        · rename_i m refused
          exact iff_of_true ⟨[_], rfl⟩ ⟨m, refused⟩
        · -- any other failure of reading the version is a failure of reading the file
          rename_i f notBad refused
          refine iff_of_false (fun ⟨lines, ran⟩ => ?_) fun ⟨m, bad⟩ => notBad m ?_
          · simp at ran
          · rw [refused] at bad
            cases bad
            rfl
        · rename_i version made
          refine iff_of_false (fun ⟨lines, ran⟩ => ?_) fun ⟨m, bad⟩ => ?_
          · -- a version that reads is returned, or the time it was synchronized fails to read
            split at ran
            · exact bind_some_ne_none _ _ _ _ ran
            · cases ran
          · rw [made] at bad
            cases bad
      · simp only [Bool.not_eq_true] at given
        simp only [given, Bool.not_false, if_true, true_or, iff_true]
        exact ⟨[], by rw [List.append_nil]; rfl⟩
    · rename_i notObject
      exact iff_of_true ⟨[], by rw [List.append_nil]; rfl⟩ fun es same => absurd same (notObject es)

/-- Storing a version read from text succeeds exactly when the cache file can be written, and the
file then reads back as what was stored; a store that fails changes nothing. -/
theorem store_then_read (c s : String) {v : Version} (made : Version.create s = .ok v) (status : Value)
    (h : Host) :
    (h.files.Writable (serverInfoPath c) →
      ∃ files, (ServerInfo.store c ⟨v, status⟩).run h = .ok () { h with files } ∧
        (ServerInfo.read c).run { h with files } = .ok (some ⟨v, status⟩) { h with files }) ∧
    (¬ h.files.Writable (serverInfoPath c) → ∃ f, (ServerInfo.store c ⟨v, status⟩).run h = .error f h) := by
  rw [store_eq]
  constructor
  · intro writable
    exact ⟨_, Run.writeJson_run _ _ h writable, read_record made (Files.readJson_put_document _ _ _)⟩
  · intro refused
    obtain ⟨f, failed⟩ := Files.writeJson_of_not_writable refused (record ⟨v, status⟩)
    exact ⟨f, Run.writeJson_run_error failed⟩

end ServerInfo

namespace Remote

/-- The request that asks a server for its version and status. -/
def statusRequest (c : Connection) : Request := callRequest c "GET" Endpoint.status.path [] .none

/-- The status call sends its request and the redirections it meets, changing nothing but the
server's script and the log of requests, and either returns the server's answer or fails in a way
that counts as no version. -/
theorem systemStatus_run (c : Connection) (h : Host) :
    ∃ new h', Hops (statusRequest c) (new.map Sent.request) ∧
      h' = { h with script := h'.script, sent := h.sent ++ new } ∧
      ((∃ st, (systemStatus c).run h = .ok st h') ∨
        ∃ f, Capability.skipsVersion f = true ∧ (systemStatus c).run h = .error f h') := by
  obtain ⟨answer, script, new, sent, hops⟩ := sendWithin_run 20 (statusRequest c) h
  refine ⟨new, { h with script, sent := h.sent ++ new }, hops, rfl, ?_⟩
  have sending : (send (callRequest c "GET" Endpoint.status.path [] .none)).run h =
      .ok answer { h with script, sent := h.sent ++ new } := sent
  unfold systemStatus
  rw [EStateM.run_bind]
  cases answer with
  | fail message =>
    rw [call_failed sending]
    exact .inr ⟨_, rfl, rfl⟩
  | reply r =>
    by_cases success : r.isSuccess = true
    · rw [call_succeeded sending success]
      dsimp only
      rw [EStateM.run_bind]
      cases document : r.body.document? with
      | none =>
        rw [replyJson_unreadable document]
        exact .inr ⟨_, rfl, rfl⟩
      | some doc =>
        rw [replyJson_document document]
        dsimp only
        split
        · split
          · exact .inl ⟨_, rfl⟩
          · exact .inr ⟨_, rfl, rfl⟩
        · exact .inr ⟨_, rfl, rfl⟩
    · rw [call_refused sending (by simpa using success)]
      exact .inr ⟨_, rfl, rfl⟩

end Remote

namespace Capability

/-- A cached version is returned as it is, and nothing else happens. -/
theorem readOrSynchronize_cached {conn : Connection} {h h' : Host} {info : ServerInfo}
    (cached : (ServerInfo.read conn.id).run h = .ok (some info) h') :
    (readOrSynchronize conn).run h = .ok (some info) h := by
  cases ServerInfo.read_found cached
  simp only [readOrSynchronize, EStateM.run_bind, cached]
  rfl

/-- With no version cached, asking for it sends the status request once. The version the server
reports is cached and returned when the cache file can be written, and the failure of that write
is returned otherwise; a server that cannot be reached, answers malformed or reports no version
gives nothing, with one line logged. Only a cached version changes the files. -/
theorem readOrSynchronize_uncached {conn : Connection} {h h₁ : Host}
    (absent : (ServerInfo.read conn.id).run h = .ok none h₁) :
    SendsOne (readOrSynchronize conn) h (statusRequest conn) ∧
      match (systemStatus conn).run h₁ with
      | .ok st h₂ =>
        match Version.create st.version with
        | .ok v =>
          if h.files.Writable (serverInfoPath conn.id) then
            ∃ files, (readOrSynchronize conn).run h = .ok (some ⟨v, st.status⟩) { h₂ with files } ∧
              (ServerInfo.read conn.id).run { h₂ with files } = .ok (some ⟨v, st.status⟩) { h₂ with files }
          else h₂.files = h.files ∧ ∃ f, (readOrSynchronize conn).run h = .error f h₂
        | .error _ => h₂.files = h.files ∧
            ∃ line, (readOrSynchronize conn).run h = .ok none { h₂ with logs := h₂.logs ++ [line] }
      | .error _ h₂ => h₂.files = h.files ∧
          ∃ line, (readOrSynchronize conn).run h = .ok none { h₂ with logs := h₂.logs ++ [line] } := by
  -- finding nothing, reading only logged
  obtain ⟨lines, rfl⟩ : ∃ lines, h₁ = { h with logs := h.logs ++ lines } := by
    rcases ServerInfo.read_cases conn.id h with ⟨info, found⟩ | ⟨lines, none⟩ | ⟨f, failed⟩
    · rw [found] at absent
      cases absent
    · rw [none] at absent
      cases absent
      exact ⟨lines, rfl⟩
    · rw [failed] at absent
      cases absent
  obtain ⟨new, h₂, hops, called, ⟨st, ran⟩ | ⟨f, skipped, ran⟩⟩ :=
    systemStatus_run conn { h with logs := h.logs ++ lines }
  all_goals
    have files : h₂.files = h.files := by rw [called]
    have sent : h₂.sent = h.sent ++ new := by rw [called]
    rw [ran]
  · -- the server reported a version text; whether it reads decides the rest
    dsimp only
    cases made : Version.create st.version with
    | error e =>
      obtain ⟨m, rfl⟩ := Version.readText_error made
      obtain ⟨line, gave⟩ : ∃ line, (readOrSynchronize conn).run h =
          .ok none { h₂ with logs := h₂.logs ++ [line] } := by
        refine ⟨?unread, ?run⟩
        case run =>
          simp only [readOrSynchronize, EStateM.run_bind, absent, Run.tryCatch_run, Run.map_run, synchronize,
            ran, made, Run.lift_error_run, skipsVersion, if_true]
          rfl
      exact ⟨⟨new, hops, by rw [gave]; exact sent⟩, files, line, gave⟩
    | ok v =>
      dsimp only
      by_cases writable : h.files.Writable (serverInfoPath conn.id)
      · rw [if_pos writable]
        have wrote := Run.writeJson_run (serverInfoPath conn.id) (ServerInfo.record ⟨v, st.status⟩) h₂
          (files ▸ writable)
        have gave : (readOrSynchronize conn).run h = .ok (some ⟨v, st.status⟩) { h₂ with
            files := h₂.files.put (serverInfoPath conn.id) (.document (ServerInfo.record ⟨v, st.status⟩)) } := by
          simp only [readOrSynchronize, EStateM.run_bind, absent, Run.tryCatch_run, Run.map_run, synchronize,
            ran, made, Run.lift_ok_run, ServerInfo.store_eq, wrote]
          rfl
        exact ⟨⟨new, hops, by rw [gave]; exact sent⟩, _, gave,
          ServerInfo.read_record made (Files.readJson_put_document _ _ _)⟩
      · rw [if_neg writable]
        obtain ⟨f, refused⟩ := Files.writeJson_of_not_writable (files ▸ writable)
          (ServerInfo.record ⟨v, st.status⟩)
        obtain ⟨fault, message, rfl⟩ := Files.writeJson_error_file refused
        have gave : (readOrSynchronize conn).run h = .error (.file fault message) h₂ := by
          simp only [readOrSynchronize, EStateM.run_bind, absent, Run.tryCatch_run, Run.map_run, synchronize,
            ran, made, Run.lift_ok_run, ServerInfo.store_eq, Run.writeJson_run_error refused, skipsVersion]
          rfl
        exact ⟨⟨new, hops, by rw [gave]; exact sent⟩, files, _, gave⟩
  · obtain ⟨line, gave⟩ : ∃ line, (readOrSynchronize conn).run h =
        .ok none { h₂ with logs := h₂.logs ++ [line] } := by
      refine ⟨?unreached, ?run⟩
      case run =>
        simp only [readOrSynchronize, EStateM.run_bind, absent, Run.tryCatch_run, Run.map_run, synchronize,
          ran, skipped]
        rfl
    exact ⟨⟨new, hops, by rw [gave]; exact sent⟩, files, line, gave⟩

end Capability

/-- The cache of the server version. A version read from text, stored where the cache file can be
written, reads back as itself, and a store the file system refuses changes nothing. Reading gives
no information, logging at most a line, exactly when the file holds none. A cached version is
returned and nothing else happens. With none cached, the status request is sent once; the version
the server reports is then cached and returned if the file can be written and the write's failure
returned if not, and a server that cannot be reached, answers malformed or reports no version
gives nothing, with the files as they were. -/
theorem server_version_cache_reads_back_or_fetches_once (conn : Connection) (h : Host) :
    (∀ (s : String) (v : Version) (status : Value), Version.create s = .ok v →
      (h.files.Writable (serverInfoPath conn.id) →
        ∃ files, (ServerInfo.store conn.id ⟨v, status⟩).run h = .ok () { h with files } ∧
          (ServerInfo.read conn.id).run { h with files } = .ok (some ⟨v, status⟩) { h with files }) ∧
      (¬ h.files.Writable (serverInfoPath conn.id) →
        ∃ f, (ServerInfo.store conn.id ⟨v, status⟩).run h = .error f h)) ∧
    ((∃ lines, (ServerInfo.read conn.id).run h = .ok none { h with logs := h.logs ++ lines }) ↔
      ∃ doc, h.files.readJson (serverInfoPath conn.id) = .ok doc ∧ ServerInfo.Uncached doc) ∧
    (∀ (h' : Host) (info : ServerInfo), (ServerInfo.read conn.id).run h = .ok (some info) h' →
      (Capability.readOrSynchronize conn).run h = .ok (some info) h) ∧
    (∀ h₁ : Host, (ServerInfo.read conn.id).run h = .ok none h₁ →
      SendsOne (Capability.readOrSynchronize conn) h (statusRequest conn) ∧
        match (systemStatus conn).run h₁ with
        | .ok st h₂ =>
          match Version.create st.version with
          | .ok v =>
            if h.files.Writable (serverInfoPath conn.id) then
              ∃ files,
                (Capability.readOrSynchronize conn).run h = .ok (some ⟨v, st.status⟩) { h₂ with files } ∧
                (ServerInfo.read conn.id).run { h₂ with files } = .ok (some ⟨v, st.status⟩) { h₂ with files }
            else h₂.files = h.files ∧ ∃ f, (Capability.readOrSynchronize conn).run h = .error f h₂
          | .error _ => h₂.files = h.files ∧ ∃ line,
              (Capability.readOrSynchronize conn).run h = .ok none { h₂ with logs := h₂.logs ++ [line] }
        | .error _ h₂ => h₂.files = h.files ∧ ∃ line,
            (Capability.readOrSynchronize conn).run h = .ok none { h₂ with logs := h₂.logs ++ [line] }) :=
  ⟨fun s _ status made => ServerInfo.store_then_read conn.id s made status h, ServerInfo.read_eq_none_iff conn.id h,
    fun _ _ cached => Capability.readOrSynchronize_cached cached,
    fun _ absent => Capability.readOrSynchronize_uncached absent⟩

/-- A connection named `.` keeps its version where a connection named `server_info.json` needs its
directory. Once the first has stored version 10.4, storing that version for the second fails as a
file standing in the directory's place, and the second then finds nothing cached. -/
theorem dot_connection_blocks_server_info_cache :
    Version.create "10.4" = .ok acceptMinimum ∧
      ∃ h : Host, (ServerInfo.store "." ⟨acceptMinimum, .null⟩).run {} = .ok () h ∧
        (ServerInfo.store "server_info.json" ⟨acceptMinimum, .null⟩).run h =
          .error (.file .exists "[Errno 17] File exists: '<root>/connections/server_info.json'") h ∧
        (ServerInfo.read "server_info.json").run h = .ok none h := by
  have free : ({} : Host).files.Writable (serverInfoPath ".") := by decide +kernel
  refine ⟨rfl, _, ServerInfo.store_eq _ _ ▸ Run.writeJson_run _ _ _ free, ?_, ?_⟩
  · -- the file of `.` stands where the directory of the other file has to be made
    have above :
        (({} : Host).files.put (serverInfoPath ".") (.document (ServerInfo.record ⟨acceptMinimum, .null⟩))).fileAbove
            (dirOf (serverInfoPath "server_info.json")) = false ∧
          (({} : Host).files.put (serverInfoPath ".")
            (.document (ServerInfo.record ⟨acceptMinimum, .null⟩))).fileAbove
              (serverInfoPath "server_info.json") = true := by
      decide +kernel
    have message : "[Errno 17] File exists: " ++ quote (fullName (dirOf (serverInfoPath "server_info.json"))) =
        "[Errno 17] File exists: '<root>/connections/server_info.json'" := by
      decide +kernel
    rw [ServerInfo.store_eq]
    apply Run.writeJson_run_error
    simp only [Files.writeJson, Files.dirFault, above, Bool.false_eq_true, if_false, if_true, message]
  · have absent :
        (({} : Host).files.put (serverInfoPath ".") (.document (ServerInfo.record ⟨acceptMinimum, .null⟩))).get?
            (serverInfoPath "server_info.json") = none ∧
          (({} : Host).files.put (serverInfoPath ".")
            (.document (ServerInfo.record ⟨acceptMinimum, .null⟩))).occupied
              (serverInfoPath "server_info.json") = false := by
      decide +kernel
    simp only [ServerInfo.read, EStateM.run_bind, Run.readJson_run, Files.readJson, absent, Bool.false_eq_true,
      if_false]
    rfl

end IssueSync
