import IssueSync.Proofs.Queries
/-!
# What the answer to an issue search decides

A search for an issue key sends one request and follows its redirections. No answer at all (the
connection failed, or the redirections went on too long) is a transport problem without a status,
and a final answer that is no success is a transport problem with that answer's status. A
successful answer decides by the JSON document of its body alone:

* the issue is found when the document is an object whose issues are a list of objects, and the
  first of them that carries the key offers no transitions or a list of texts;
* the issue is missing when the issues are a list of objects none of which carries the key, the
  empty list included;
* anything else is a malformed answer: a body that is no JSON document, a document that is no
  object or lists no issues, an issue that is no object, or transitions that are no list of texts.
-/

set_option autoImplicit false

namespace IssueSync

namespace Run

/-- A step that only reads each item into a value, run over a list, reads the whole list. -/
theorem mapM_run_ok {α γ β : Type} (g : α → γ) (p : γ → Run β) (q : α → β) (h : Host) (l : List α)
    (answers : ∀ a ∈ l, (p (g a)).run h = .ok (q a) h) :
    ((l.map g).mapM p).run h = .ok (l.map q) h := by
  induction l with
  | nil => rfl
  | cons a rest ih =>
    have later := ih fun x member => answers x (List.mem_cons_of_mem a member)
    simp only [List.map_cons, List.mapM_cons, EStateM.run_bind, answers a (List.mem_cons_self ..),
      later, EStateM.run_pure]

/-- A step that reads an item or fails with `e`, touching nothing, run over a list with an item it
fails on, fails with `e`. -/
theorem mapM_run_error {γ β : Type} (p : γ → Run β) (e : Failure) (h : Host) (l : List γ)
    (settled : ∀ x ∈ l, (∃ b, (p x).run h = .ok b h) ∨ (p x).run h = .error e h)
    (failing : ∃ x ∈ l, (p x).run h = .error e h) :
    (l.mapM p).run h = .error e h := by
  induction l with
  | nil => simp at failing
  | cons x rest ih =>
    rw [List.mapM_cons, EStateM.run_bind]
    rcases settled x (List.mem_cons_self ..) with ⟨b, read⟩ | fails
    · -- the first item reads, so the one that fails is further on
      have onward : ∃ y ∈ rest, (p y).run h = .error e h := by
        obtain ⟨y, member, fails⟩ := failing
        rcases List.mem_cons.mp member with rfl | later
        · rw [read] at fails
          cases fails
        · exact ⟨y, later, fails⟩
      rw [read]
      simp only [EStateM.run_bind, ih (fun y member => settled y (List.mem_cons_of_mem x member)) onward]
    · rw [fails]

end Run

namespace Remote

/-! ## Calls and bodies -/

section Call

variable {c : Connection} {method path : String} {params : List (String × String)} {payload : Payload}
  {h h' : Host}

theorem call_failed {message : String}
    (sent : (send (callRequest c method path params payload)).run h = .ok (.fail message) h') :
    (call c method path params payload).run h =
      .error (transportFailure s!"{method} {path} failed: {message}" none) h' := by
  unfold call
  show (send (callRequest c method path params payload) >>= _).run h = _
  rw [EStateM.run_bind, sent]
  rfl

theorem call_refused {r : Reply}
    (sent : (send (callRequest c method path params payload)).run h = .ok (.reply r) h')
    (refused : r.isSuccess = false) :
    (call c method path params payload).run h =
      .error (transportFailure s!"{method} {path} failed with HTTP {r.status}" (some r.status)) h' := by
  unfold call
  show (send (callRequest c method path params payload) >>= _).run h = _
  rw [EStateM.run_bind, sent]
  simp only [refused, Bool.false_eq_true, if_false]
  rfl

theorem call_succeeded {r : Reply}
    (sent : (send (callRequest c method path params payload)).run h = .ok (.reply r) h')
    (success : r.isSuccess = true) :
    (call c method path params payload).run h = .ok r h' := by
  unfold call
  show (send (callRequest c method path params payload) >>= _).run h = _
  rw [EStateM.run_bind, sent]
  simp only [success, if_true]
  rfl

end Call

theorem send_answers (req : Request) (h : Host) : ∃ answer h', (send req).run h = .ok answer h' := by
  obtain ⟨answer, script, new, sent, -⟩ := sendWithin_run 20 req h
  exact ⟨answer, _, sent⟩

/-- The JSON document a body holds, if it holds one. -/
def Body.document? : Body → Option Value
  | .json v => some v
  | .text t => Json.readBytes t.toUTF8
  | .bytes b => Json.readBytes b
  | .empty => none

theorem replyJson_document {r : Reply} {doc : Value} (read : r.body.document? = some doc) (h : Host) :
    (replyJson r).run h = .ok doc h := by
  unfold replyJson
  cases body : r.body <;> simp_all [Body.document?]

theorem replyJson_unreadable {r : Reply} (unread : r.body.document? = none) (h : Host) :
    (replyJson r).run h = .error (.problem .malformedResponse) h := by
  unfold replyJson
  cases body : r.body <;> simp_all [Body.document?, malformed, Run.fail_run]

/-! ## What a search document says -/

/-- A search document lists `items` as its issues: it is an object whose "issues" is that list. -/
def ListsIssues (doc : Value) (items : List Value) : Prop :=
  ∃ es, doc = .dict es ∧ Value.field? es "issues" = some (.list items)

/-- An issue object carries the key `k`. -/
def KeyedBy (k : String) (fields : List (Value × Value)) : Prop :=
  Value.fieldD fields "key" = .str k

/-- An issue object offers the transitions `ts`: it names none, or a list of exactly these texts. -/
def Offers (fields : List (Value × Value)) (ts : List String) : Prop :=
  (Value.field? fields "transitions" = none ∧ ts = []) ∨
    Value.field? fields "transitions" = some (.list (ts.map .str))

/-- A search document names the issue `k` with transitions `ts`: its issues are objects, and the
first of them that carries `k` offers `ts`. -/
def Names (k : String) (doc : Value) (ts : List String) : Prop :=
  ∃ before fields after, ListsIssues doc ((before ++ fields :: after).map .dict) ∧
    (∀ g ∈ before, ¬ KeyedBy k g) ∧ KeyedBy k fields ∧ Offers fields ts

/-- A search document lacks the issue `k`: its issues are objects, none of which carries `k`. -/
def Lacks (k : String) (doc : Value) : Prop :=
  ∃ objects : List (List (Value × Value)), ListsIssues doc (objects.map .dict) ∧
    ∀ g ∈ objects, ¬ KeyedBy k g

theorem ListsIssues.unique {doc : Value} {items items' : List Value} (listed : ListsIssues doc items)
    (listed' : ListsIssues doc items') : items = items' := by
  obtain ⟨es, rfl, field⟩ := listed
  obtain ⟨es', same, field'⟩ := listed'
  cases same
  rw [field] at field'
  cases field'
  rfl

theorem keyed_iff (k : String) (fields : List (Value × Value)) :
    (Value.fieldD fields "key").equal (.str k) = true ↔ KeyedBy k fields :=
  LocalFinding.equal_str_iff _ _

theorem objects_of_forall {items : List Value} (objects : ∀ i ∈ items, ∃ es, i = .dict es) :
    ∃ objs : List (List (Value × Value)), items = objs.map .dict := by
  induction items with
  | nil => exact ⟨[], rfl⟩
  | cons i rest ih =>
    obtain ⟨es, rfl⟩ := objects i (List.mem_cons_self ..)
    obtain ⟨objs, rfl⟩ := ih fun x member => objects x (List.mem_cons_of_mem _ member)
    exact ⟨es :: objs, rfl⟩

/-- The first issue carrying the key is the one the search picks. -/
theorem names_iff (k : String) (doc : Value) (ts : List String) :
    Names k doc ts ↔ ∃ objs : List (List (Value × Value)), ∃ fields, ListsIssues doc (objs.map .dict) ∧
      objs.find? (fun es => (Value.fieldD es "key").equal (.str k)) = some fields ∧ Offers fields ts := by
  simp only [List.find?_eq_some_iff_append, keyed_iff, Bool.not_eq_true', Names]
  constructor
  · rintro ⟨before, fields, after, listed, earlier, keyed, offers⟩
    refine ⟨before ++ fields :: after, fields, listed, ⟨keyed, before, after, rfl, ?_⟩, offers⟩
    exact fun g member => Bool.eq_false_iff.mpr fun carries => earlier g member ((keyed_iff k g).mp carries)
  · rintro ⟨objs, fields, listed, ⟨keyed, before, after, rfl, earlier⟩, offers⟩
    refine ⟨before, fields, after, listed, fun g member carries => ?_, keyed, offers⟩
    have unkeyed := earlier g member
    rw [(keyed_iff k g).mpr carries] at unkeyed
    cases unkeyed

theorem lacks_iff (k : String) (doc : Value) :
    Lacks k doc ↔ ∃ objs : List (List (Value × Value)), ListsIssues doc (objs.map .dict) ∧
      objs.find? (fun es => (Value.fieldD es "key").equal (.str k)) = none := by
  simp only [List.find?_eq_none, keyed_iff, Lacks]

theorem offers_list {fields : List (Value × Value)} {ts : List String} (offers : Offers fields ts) :
    (Value.field? fields "transitions").getD (.list []) = .list (ts.map .str) := by
  rcases offers with ⟨absent, rfl⟩ | listed <;> simp [*]

theorem texts_of_strs (ts : List String) : (ts.map Value.str).filterMap Value.text? = ts := by
  induction ts with
  | nil => rfl
  | cons t rest ih => simp [Value.text?, ih]

theorem strs_of_texts {vs : List Value} (texts : (vs.filterMap Value.text?).length = vs.length) :
    (vs.filterMap Value.text?).map .str = vs := by
  induction vs with
  | nil => rfl
  | cons v rest ih =>
    have bound := List.length_filterMap_le Value.text? rest
    cases v with
    | str s =>
      simp only [List.filterMap_cons, Value.text?, List.length_cons, Nat.add_right_cancel_iff] at texts
      simp [Value.text?, ih texts]
    | _ =>
      simp only [List.filterMap_cons, Value.text?, List.length_cons] at texts
      omega

theorem offers_of_texts {fields : List (Value × Value)} {vs : List Value}
    (listed : (Value.field? fields "transitions").getD (.list []) = .list vs)
    (texts : (vs.filterMap Value.text?).length = vs.length) :
    Offers fields (vs.filterMap Value.text?) := by
  cases field : Value.field? fields "transitions" with
  | none =>
    simp only [field, Option.getD_none, Value.list.injEq] at listed
    subst listed
    exact .inl ⟨field, rfl⟩
  | some v =>
    simp only [field, Option.getD_some] at listed
    subst listed
    exact .inr (by rw [strs_of_texts texts]; exact field)

theorem offers_unique {fields : List (Value × Value)} {ts ts' : List String} (offers : Offers fields ts)
    (offers' : Offers fields ts') : ts = ts' := by
  have same := (offers_list offers).symm.trans (offers_list offers')
  simp only [Value.list.injEq] at same
  exact (List.map_inj_right fun _ _ => Value.str.inj).mp same

theorem map_dict_inj {objs objs' : List (List (Value × Value))}
    (same : objs.map Value.dict = objs'.map Value.dict) : objs = objs' :=
  (List.map_inj_right fun _ _ => Value.dict.inj).mp same

/-- A document that lists no objects as its issues neither names nor lacks an issue. -/
theorem undecided {k : String} {doc : Value}
    (unlisted : ∀ objs : List (List (Value × Value)), ¬ ListsIssues doc (objs.map .dict)) :
    (∀ ts, ¬ Names k doc ts) ∧ ¬ Lacks k doc := by
  refine ⟨fun ts named => ?_, fun ⟨objs, listed, _⟩ => unlisted objs listed⟩
  obtain ⟨objs, -, listed, -⟩ := (names_iff k doc ts).mp named
  exact unlisted objs listed

section Found

variable {k : String} {doc : Value} {objs : List (List (Value × Value))} {fields : List (Value × Value)}

/-- Once the first issue with the key is known, the document names it with what it offers. -/
theorem names_iff_offers (listed : ListsIssues doc (objs.map .dict))
    (found : objs.find? (fun es => (Value.fieldD es "key").equal (.str k)) = some fields)
    (ts : List String) : Names k doc ts ↔ Offers fields ts := by
  rw [names_iff]
  constructor
  · rintro ⟨objs', fields', listed', found', offers⟩
    obtain rfl := map_dict_inj (listed'.unique listed)
    rw [found] at found'
    cases found'
    exact offers
  · exact fun offers => ⟨objs, fields, listed, found, offers⟩

theorem not_lacks_of_found (listed : ListsIssues doc (objs.map .dict))
    (found : objs.find? (fun es => (Value.fieldD es "key").equal (.str k)) = some fields) :
    ¬ Lacks k doc := by
  rw [lacks_iff]
  rintro ⟨objs', listed', missing⟩
  obtain rfl := map_dict_inj (listed'.unique listed)
  rw [found] at missing
  cases missing

end Found

theorem names_unique {k : String} {doc : Value} {ts ts' : List String} (named : Names k doc ts)
    (named' : Names k doc ts') : ts = ts' := by
  obtain ⟨objs, fields, listed, found, offers⟩ := (names_iff k doc ts).mp named
  exact offers_unique offers (((names_iff_offers listed found) ts').mp named')

theorem not_lacks_of_names {k : String} {doc : Value} {ts : List String} (named : Names k doc ts) :
    ¬ Lacks k doc := by
  obtain ⟨objs, fields, listed, found, -⟩ := (names_iff k doc ts).mp named
  exact not_lacks_of_found listed found

/-! ## The search -/

section Search

variable {c : Connection} {k : String} {h h' : Host}

theorem searchByKey_failed {message : String}
    (sent : (send (searchRequest c k)).run h = .ok (.fail message) h') :
    ∃ text, (searchByKey c k).run h = .error (.problem (.transport text none)) h' := by
  refine ⟨?text, ?run⟩
  case run =>
    unfold searchByKey
    change (call c "GET" Endpoint.search.path _ >>= _).run h = _
    rw [EStateM.run_bind, call_failed sent]
    rfl

theorem searchByKey_refused {r : Reply} (sent : (send (searchRequest c k)).run h = .ok (.reply r) h')
    (refused : r.isSuccess = false) :
    ∃ text, (searchByKey c k).run h = .error (.problem (.transport text (some r.status))) h' := by
  refine ⟨?text, ?run⟩
  case run =>
    unfold searchByKey
    change (call c "GET" Endpoint.search.path _ >>= _).run h = _
    rw [EStateM.run_bind, call_refused sent refused]
    rfl

theorem searchByKey_unreadable {r : Reply} (sent : (send (searchRequest c k)).run h = .ok (.reply r) h')
    (success : r.isSuccess = true) (unread : r.body.document? = none) :
    (searchByKey c k).run h = .error (.problem .malformedResponse) h' := by
  unfold searchByKey
  change (call c "GET" Endpoint.search.path _ >>= _).run h = _
  rw [EStateM.run_bind, call_succeeded sent success]
  dsimp only
  rw [EStateM.run_bind, replyJson_unreadable unread]

end Search

theorem search_decides {c : Connection} {k : String} {h h' : Host} {r : Reply} {doc : Value}
    (sent : (send (searchRequest c k)).run h = .ok (.reply r) h') (success : r.isSuccess = true)
    (read : r.body.document? = some doc) :
    (∃ ts, Names k doc ts ∧ (searchByKey c k).run h = .ok ⟨k, ts⟩ h') ∨
      (Lacks k doc ∧ (searchByKey c k).run h = .error (.problem (.notFound k)) h') ∨
      ((∀ ts, ¬ Names k doc ts) ∧ ¬ Lacks k doc ∧
        (searchByKey c k).run h = .error (.problem .malformedResponse) h') := by
  generalize ran : (searchByKey c k).run h = result
  unfold searchByKey at ran
  change (call c "GET" Endpoint.search.path _ >>= _).run h = result at ran
  rw [EStateM.run_bind, call_succeeded sent success] at ran
  dsimp only at ran
  rw [EStateM.run_bind, replyJson_document read] at ran
  dsimp only at ran
  split at ran
  · -- an object: its issues decide
    rename_i es
    split at ran
    · rename_i items issues
      have listed : ListsIssues (.dict es) items := ⟨es, rfl, issues⟩
      simp only [pure_bind] at ran
      by_cases empty : items = []
      · -- no issues at all: the issue is missing
        subst empty
        simp only [List.isEmpty_nil, if_true, EStateM.run_bind, Run.fail_run] at ran
        subst ran
        exact .inr (.inl ⟨⟨[], listed, by simp⟩, rfl⟩)
      rw [if_neg (by simpa using empty)] at ran
      by_cases objects : ∀ i ∈ items, ∃ es, i = .dict es
      · -- issues that are all objects: the first with the key decides
        obtain ⟨objs, rfl⟩ := objects_of_forall objects
        rw [EStateM.run_bind, Run.mapM_run_ok Value.dict _ (fun es => es) h' objs (fun _ _ => rfl),
          List.map_id'] at ran
        dsimp only at ran
        cases found : objs.find? (fun es => (Value.fieldD es "key").equal (.str k)) with
        | none =>
          simp only [found, Run.fail_run] at ran
          subst ran
          exact .inr (.inl ⟨(lacks_iff k _).mpr ⟨objs, listed, found⟩, rfl⟩)
        | some fields =>
          simp only [found] at ran
          have present := not_lacks_of_found listed found
          split at ran
          · rename_i vs offered
            by_cases texts : (vs.filterMap Value.text?).length = vs.length
            · simp only [texts, beq_self_eq_true, if_true, EStateM.run_pure] at ran
              subst ran
              exact .inl ⟨_, (names_iff_offers listed found _).mpr (offers_of_texts offered texts), rfl⟩
            · simp only [texts, beq_iff_eq, if_false, malformed, Run.fail_run] at ran
              subst ran
              -- transitions of texts would all read as texts
              refine .inr (.inr ⟨fun ts named => texts ?_, present, rfl⟩)
              have listedTs := offers_list ((names_iff_offers listed found ts).mp named)
              rw [offered, Value.list.injEq] at listedTs
              subst listedTs
              rw [texts_of_strs, List.length_map]
          · rename_i notList
            simp only [malformed, Run.fail_run] at ran
            subst ran
            exact .inr (.inr ⟨fun ts named =>
              notList _ (offers_list ((names_iff_offers listed found ts).mp named)), present, rfl⟩)
      · -- an issue that is no object fails the reading of them all
        obtain ⟨stray, member, notObject⟩ : ∃ i ∈ items, ∀ es, i ≠ .dict es := by
          simpa using objects
        rw [EStateM.run_bind, Run.mapM_run_error _ (.problem .malformedResponse) h' items ?settled
          ⟨stray, member, ?fails⟩] at ran
        · simp only at ran
          subst ran
          obtain ⟨unnamed, unlacking⟩ := undecided (k := k) fun objs listed' => objects fun i member' => by
            rw [listed.unique listed'] at member'
            obtain ⟨es', -, rfl⟩ := List.mem_map.mp member'
            exact ⟨es', rfl⟩
          exact .inr (.inr ⟨unnamed, unlacking, rfl⟩)
        · intro i _
          cases i <;> first | exact .inl ⟨_, rfl⟩ | exact .inr rfl
        · cases stray <;> first | exact absurd rfl (notObject _) | rfl
    · -- no list of issues
      rename_i unlisted
      simp only [malformed, EStateM.run_bind, Run.fail_run] at ran
      subst ran
      have noObjects : ∀ objs : List (List (Value × Value)), ¬ ListsIssues (.dict es) (objs.map .dict) :=
        fun objs ⟨es', same, field⟩ => unlisted _ (by cases same; exact field)
      obtain ⟨unnamed, unlacking⟩ := undecided (k := k) noObjects
      exact .inr (.inr ⟨unnamed, unlacking, rfl⟩)
  · -- no object
    rename_i notObject
    simp only [malformed, EStateM.run_bind, Run.fail_run] at ran
    subst ran
    obtain ⟨unnamed, unlacking⟩ := undecided (k := k) fun objs ⟨es, same, _⟩ => notObject es same
    exact .inr (.inr ⟨unnamed, unlacking, rfl⟩)

/-- The search for a key, over every answer the server gives: no answer is a transport problem
without status, an answer that is no success one with its status, and a successful answer finds
the issue exactly when its document names it, misses it exactly when its document lacks it, and
is malformed exactly when its body holds a document that does neither or no document at all. -/
theorem search_reply_outcomes (c : Connection) (k : String) (h : Host) :
    ∃ answer h', (send (searchRequest c k)).run h = .ok answer h' ∧
      (∀ message, answer = .fail message →
        ∃ text, (searchByKey c k).run h = .error (.problem (.transport text none)) h') ∧
      (∀ r, answer = .reply r → r.isSuccess = false →
        ∃ text, (searchByKey c k).run h = .error (.problem (.transport text (some r.status))) h') ∧
      (∀ r, answer = .reply r → r.isSuccess = true →
        (∀ ts, (searchByKey c k).run h = .ok ⟨k, ts⟩ h' ↔
          ∃ doc, r.body.document? = some doc ∧ Names k doc ts) ∧
        ((searchByKey c k).run h = .error (.problem (.notFound k)) h' ↔
          ∃ doc, r.body.document? = some doc ∧ Lacks k doc) ∧
        ((searchByKey c k).run h = .error (.problem .malformedResponse) h' ↔
          ∀ doc, r.body.document? = some doc → (∀ ts, ¬ Names k doc ts) ∧ ¬ Lacks k doc)) := by
  obtain ⟨answer, h', sent⟩ := send_answers (searchRequest c k) h
  refine ⟨answer, h', sent, ?_, ?_, ?_⟩
  · rintro message rfl
    exact searchByKey_failed sent
  · rintro r rfl refused
    exact searchByKey_refused sent refused
  · rintro r rfl success
    cases read : r.body.document? with
    | none =>
      rw [searchByKey_unreadable sent success read]
      simp
    | some doc =>
      simp only [Option.some.injEq, exists_eq_left', forall_eq']
      rcases search_decides sent success read with ⟨found, named, ran⟩ | ⟨lacking, ran⟩ |
        ⟨unnamed, unlacking, ran⟩ <;> rw [ran]
      · -- the document names the issue: only its transitions are returned
        refine ⟨fun ts => ⟨fun same => ?_, fun named' => ?_⟩, ?_, ?_⟩
        · cases same
          exact named
        · rw [names_unique named named']
        · simp [not_lacks_of_names named]
        · exact ⟨fun same => (by cases same), fun ⟨unnamed, _⟩ => absurd named (unnamed found)⟩
      · -- the document lacks the issue
        refine ⟨fun ts => ⟨fun same => (by cases same), fun named => ?_⟩, by simp [lacking], ?_⟩
        · exact absurd lacking (not_lacks_of_names named)
        · simp [lacking]
      · -- the document does neither
        refine ⟨fun ts => ⟨fun same => (by cases same), fun named => absurd named (unnamed ts)⟩, ?_, ?_⟩
        · simp [unlacking]
        · simp [unnamed, unlacking]

end Remote

end IssueSync
