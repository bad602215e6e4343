import Mathlib.Data.List.Sort
import VisualNovel.Proofs.Store.Notes

/-!
# The store refines a map

A ledger keeps a book about a store: whenever a call that writes succeeds, the documents it has
written are noted under their addresses, the latest note in front.  The calls may come in any order,
for any tenants and collections, and some of them may fail.

`Ledger.performAll_refines` says that the store is no more and no less than this book, whatever has
been called: what is read under an id is what has been noted last, and all documents of a collection
are the last notes under its addresses, in the order of the names of their files.  What nests too
deeply for where it is read is the one thing that is not read; nothing changes then either.

## Strategy

The files represent a map from ids to documents in every collection (`Represents`), and the notes
tell the same map (`Contents.Tells`).  Both are kept by every call (`Ledger.records_perform`): a
call that succeeds puts its documents into the map and into the notes, and a call that fails changes
neither.  This is where calls matter that stop between two documents: they leave some of them in the
files without a note, so the theorem is about calls that do not.  Calls with short names and
documents for which there is room never stop like that (`Ledger.stopsWriting_eq_false_of_fits`).
-/

namespace VisualNovel.Store

section

variable [Json.Room] {root : Path} {place : Location} {covered : String → Prop}
  {store left : Store} {tenant collection : String}

/-! ## Calls -/

/-- A call that writes.  Its arguments are taken as they come. -/
inductive Operation where
  | write (tenant collection documents : Json)
  | saveScenario (tenant lines : Json)
  | saveCharacters (tenant records : Json)
  | createSave (tenant data : Json)

/-- What a call does; only saves are answered, with their codes. -/
def Operation.action : Operation → Action (Option String)
  | write tenant collection documents => do
    Store.write tenant collection documents
    return none
  | saveScenario tenant lines => do
    Store.saveScenario tenant lines
    return none
  | saveCharacters tenant records => do
    Store.saveCharacters tenant records
    return none
  | createSave tenant data => return some (← Store.createSave tenant data)

/-- What a call has written if it succeeds, one document after the other. -/
def Operation.written (moment : Moment) : Operation → Option String → List Note
  | write (.str tenant) (.str collection) (.obj documents), _ => notes tenant collection documents
  | saveScenario (.str tenant) lines, _ =>
    notes tenant "scenario" (paired DocumentId.ofLine lines)
  | saveCharacters (.str tenant) records, _ =>
    notes tenant "characters" (paired DocumentId.ofCharacter records)
  | createSave (.str tenant) (.obj data), some code =>
    notes tenant "saveData" [(code, .obj (OrderedMap.put "createdAt" (.str moment.text) data))]
  | _, _ => []

/-- A call at some time. -/
structure Call where
  moment : Moment
  operation : Operation

/-- A store, what has been written to it, the latest first, and why calls have failed. -/
structure Ledger where
  store : Store
  log : List Note := []
  faults : List StoreFault := []

namespace Ledger

/-- The document that was written last under an address. -/
def latest? (ledger : Ledger) (tenant collection id : String) : Option Json :=
  OrderedMap.at? (tenant, collection, id) ledger.log

/-- What becomes of the ledger when a call is made. -/
def perform (ledger : Ledger) (call : Call) : Ledger :=
  match result call.operation.action { ledger.store with clock := call.moment } with
  | (.ok answer, left) =>
    { ledger with
      store := left
      log := (call.operation.written call.moment answer).reverse ++ ledger.log }
  | (.error fault, left) => { ledger with store := left, faults := fault :: ledger.faults }

/-- What becomes of the ledger when calls are made one after the other. -/
def performAll (ledger : Ledger) (calls : List Call) : Ledger :=
  calls.foldl perform ledger

theorem perform_of_gives {ledger : Ledger} {call : Call} {answer : Option String}
    (hgives : Gives call.operation.action { ledger.store with clock := call.moment } answer left) :
    ledger.perform call =
      { ledger with
        store := left
        log := (call.operation.written call.moment answer).reverse ++ ledger.log } := by
  rw [perform, hgives.result_eq]

theorem performAll_concat (ledger : Ledger) (calls : List Call) (call : Call) :
    ledger.performAll (calls ++ [call]) = (ledger.performAll calls).perform call := by
  rw [performAll, performAll, List.foldl_append]
  rfl

end Ledger

/-! ## What every call keeps -/

variable {log : List Note}

/-- Do notes tell what is in the files after an outcome?  What has been written is noted if it is a
success; if not, nothing is, and then the files may have been left in between by a fault that stops
writing. -/
def Booked {α : Type} (root : Path) (place : Location) (covered : String → Prop) (log : List Note)
    (written : α → List Note) : Except StoreFault α × Store → Prop
  | (.ok answer, left) => Records left root place covered ((written answer).reverse ++ log)
  | (.error fault, left) => fault.stopsWriting = false → Records left root place covered log

omit [Json.Room] in
theorem Booked.bind_pure {α β : Type} {written : α → List Note} {written' : β → List Note}
    {action : Action α} {answer : α → β}
    (hbooked : Booked root place covered log written (result action store))
    (hwritten : ∀ value, written' (answer value) = written value) :
    Booked root place covered log written'
      (result (action >>= fun value => pure (answer value)) store) := by
  rw [result_bind]
  rcases hresult : result action store with ⟨fault | value, left⟩ <;> rw [hresult] at hbooked
  · exact hbooked
  · show Records left root place covered ((written' (answer value)).reverse ++ log)
    rw [hwritten]
    exact hbooked

theorem Records.booked_write {tenant collection documents : Json} (written : List Note)
    (hrecords : Records store root place covered log)
    (hcollection : ∀ name, collection = .str name → IsName name)
    (hplain : ∀ fields, documents = .obj fields → ∀ document ∈ fields, document.2.isPlain = true)
    (hwritten : ∀ owner name fields, tenant = .str owner → collection = .str name →
      documents = .obj fields → ∀ {contents : Contents}, contents.Tells log →
        (contents.put owner name fields).Tells (written.reverse ++ log)) :
    Booked root place covered log (fun _ => written)
      (result (Store.write tenant collection documents) store) := by
  obtain ⟨contents, hrepresents, htells⟩ := hrecords
  rcases hresult : result (Store.write tenant collection documents) store with ⟨fault | _, left⟩
  -- a fault that does not stop writing has come up before any document was placed
  · intro hnot
    exact ⟨contents, (hrepresents.write hcollection hplain hresult).2 fault rfl (Or.inl hnot),
      htells⟩
  · obtain ⟨owner, name, fields, howner, hname, hfields, hleft⟩ :=
      (hrepresents.write hcollection hplain hresult).1 rfl
    exact ⟨_, hleft, hwritten owner name fields howner hname hfields htells⟩

theorem Records.booked_identified {tenant records : Json} {name : String} (written : List Note)
    (hrecords : Records store root place covered log)
    (identify : Json → Except StoreFault String) (hname : IsName name)
    (hplain : ∀ items, records.elements? = some items → ∀ item ∈ items, item.isPlain = true)
    (hwritten : ∀ owner, tenant = .str owner →
      written = notes owner name (paired identify records)) :
    Booked root place covered log (fun _ => written)
      (result (identified identify records >>= Store.write tenant (.str name)) store) := by
  rw [result_bind]
  rcases result_identified_cases identify records store with hresult | ⟨fault, -, hresult⟩ <;>
    rw [hresult]
  · refine hrecords.booked_write _ ?_ ?_ ?_
    · rintro _ ⟨⟩
      exact hname
    · rintro _ ⟨⟩ document hmem
      have hpair : document ∈ paired identify records := OrderedMap.mem_of_mem_ofPairs hmem
      rw [paired, List.mem_filterMap] at hpair
      obtain ⟨item, hitem, hid⟩ := hpair
      obtain ⟨id, -, rfl⟩ := Option.map_eq_some_iff.mp hid
      cases helements : records.elements? with
      | none =>
          rw [helements] at hitem
          cases hitem
      | some items =>
          rw [helements] at hitem
          exact hplain items helements item hitem
    · rintro owner _ _ howner ⟨⟩ ⟨⟩ contents htells
      rw [hwritten owner howner]
      exact htells.put_ofPairs owner name _
  · exact fun _ => hrecords

/-- Are the documents of a call plain, and is the name of its collection one? -/
def Operation.Admissible : Operation → Prop
  | write _ collection documents => (∀ name, collection = .str name → IsName name) ∧
      ∀ fields, documents = .obj fields → ∀ document ∈ fields, document.2.isPlain = true
  | saveScenario _ records | saveCharacters _ records =>
      ∀ items, records.elements? = some items → ∀ item ∈ items, item.isPlain = true
  | createSave _ data => ∀ fields, data = .obj fields → data.isPlain = true

theorem Operation.booked {operation : Operation}
    (hrecords : Records store root place covered log) (hadmissible : operation.Admissible) :
    Booked root place covered log (operation.written store.clock)
      (result operation.action store) := by
  cases operation with
  | write tenant collection documents =>
      refine Booked.bind_pure (hrecords.booked_write
        (Operation.written store.clock (.write tenant collection documents) none)
        hadmissible.1 hadmissible.2 ?_) fun _ => rfl
      rintro owner name fields rfl rfl rfl contents htells
      exact htells.put owner name fields
  | saveScenario tenant records =>
      refine Booked.bind_pure (hrecords.booked_identified
        (Operation.written store.clock (.saveScenario tenant records) none)
        DocumentId.ofLine isFileName_scenario.toIsName hadmissible ?_) fun _ => rfl
      rintro owner rfl
      rfl
  | saveCharacters tenant records =>
      refine Booked.bind_pure (hrecords.booked_identified
        (Operation.written store.clock (.saveCharacters tenant records) none)
        DocumentId.ofCharacter isFileName_characters.toIsName hadmissible ?_) fun _ => rfl
      rintro owner rfl
      rfl
  | createSave tenant data =>
      refine Booked.bind_pure ?_ fun _ => rfl
      rcases hresult : result (Store.createSave tenant data) store with ⟨fault | code, left⟩
      · intro _
        cases data with
        | obj fields => exact (hrecords.createSave (hadmissible fields rfl) hresult).2 fault rfl
        | _ =>
            rw [Store.createSave, (gives_newCode store).result_bind] at hresult
            cases hresult
            exact hrecords.drawn
      · cases data with
        | obj fields =>
            obtain ⟨owner, rfl, rfl, hleft⟩ :=
              (hrecords.createSave (hadmissible fields rfl) hresult).1 code rfl
            exact hleft
        | _ =>
            rw [Store.createSave, (gives_newCode store).result_bind] at hresult
            cases hresult

/-! ## Histories -/

namespace Ledger

variable {ledger : Ledger} {call : Call}

/-- One call keeps the notes right, if it does not stop writing. -/
theorem records_perform (hrecords : Records ledger.store root place covered ledger.log)
    (hadmissible : call.operation.Admissible)
    (hfaults : ∀ fault ∈ (ledger.perform call).faults, fault.stopsWriting = false) :
    Records (ledger.perform call).store root place covered (ledger.perform call).log := by
  have hbooked := Operation.booked (hrecords.atMoment call.moment) hadmissible
  rw [perform] at hfaults ⊢
  rcases hresult : result call.operation.action { ledger.store with clock := call.moment } with
    ⟨fault | answer, left⟩ <;> rw [hresult] at hbooked hfaults
  · exact hbooked (hfaults fault (List.mem_cons_self ..))
  · exact hbooked

theorem faults_subset_perform : ledger.faults ⊆ (ledger.perform call).faults := by
  rw [perform]
  rcases result call.operation.action { ledger.store with clock := call.moment } with
    ⟨fault | answer, left⟩
  · exact List.subset_cons_self _ _
  · exact List.Subset.refl _

/-- A whole history keeps the notes right. -/
theorem records_performAll (hrecords : Records ledger.store root place covered ledger.log)
    {calls : List Call} (hadmissible : ∀ call ∈ calls, call.operation.Admissible)
    (hfaults : ∀ fault ∈ (ledger.performAll calls).faults, fault.stopsWriting = false) :
    Records (ledger.performAll calls).store root place covered (ledger.performAll calls).log := by
  -- the faults of a history are those of its beginning and one more at most
  induction calls using List.reverseRecOn with
  | nil => exact hrecords
  | append_singleton calls call ih =>
      rw [performAll_concat] at hfaults ⊢
      refine records_perform (ih ?_ ?_) (hadmissible call (by simp)) hfaults
      · exact fun earlier hmem => hadmissible earlier (List.mem_append_left _ hmem)
      · exact fun fault hmem => hfaults fault (faults_subset_perform hmem)

end Ledger

/-! ## Calls that do not stop while they write -/

omit [Json.Room] in
theorem of_result_bind_pure {α β : Type} {action : Action α} {answer : α → β} {fault : StoreFault}
    (hresult : result (action >>= fun value => pure (answer value)) store = (.error fault, left)) :
    result action store = (.error fault, left) := by
  rw [result_bind] at hresult
  rcases haction : result action store with ⟨found | value, last⟩ <;> rw [haction] at hresult <;>
    cases hresult
  rfl

omit [Json.Room] in
theorem stopsWriting_of_ofLine {record : Json} {fault : StoreFault}
    (hid : DocumentId.ofLine record = .error fault) : fault.stopsWriting = false := by
  unfold DocumentId.ofLine at hid
  split at hid <;> cases hid
  rfl

omit [Json.Room] in
theorem stopsWriting_of_ofCharacter {record : Json} {fault : StoreFault}
    (hid : DocumentId.ofCharacter record = .error fault) : fault.stopsWriting = false := by
  unfold DocumentId.ofCharacter at hid
  split at hid
  · split at hid
    · cases hid
      rfl
    · split at hid <;> cases hid
      rfl
  · cases hid
    rfl

/-- Is the name of the tenant short enough, if it is one? -/
def FitsTenant (tenant : Json) : Prop :=
  ∀ owner, tenant = .str owner → owner.length ≤ FileTree.nameLimit

/-- Are all names of a call short enough, and is there room to write its documents? -/
def Operation.Fits (covered : String → Prop) : Operation → Prop
  | write tenant collection documents => FitsTenant tenant ∧
      (∀ name, collection = .str name → IsFileName name ∧ covered name) ∧
        ∀ fields, documents = .obj fields → ∀ document ∈ fields, Store.Fits document
  | saveScenario tenant records => FitsTenant tenant ∧ covered "scenario" ∧
      ∀ document ∈ paired DocumentId.ofLine records, Store.Fits document
  | saveCharacters tenant records => FitsTenant tenant ∧ covered "characters" ∧
      ∀ document ∈ paired DocumentId.ofCharacter records, Store.Fits document
  | createSave tenant data => FitsTenant tenant ∧ covered "saveData" ∧
      ∀ fields text, data = .obj fields →
        Json.Room.stores (.obj (OrderedMap.put "createdAt" (.str text) fields)) = true

theorem Records.stopsWriting_of_identified {tenant records : Json} {name : String}
    {fault : StoreFault} (hrecords : Records store root place covered log)
    (identify : Json → Except StoreFault String)
    (hidentify : ∀ {record fault}, identify record = .error fault → fault.stopsWriting = false)
    (hname : IsFileName name) (hcovered : covered name) (htenant : FitsTenant tenant)
    (hfits : ∀ document ∈ paired identify records, Fits document)
    (hresult : result (identified identify records >>= Store.write tenant (.str name)) store =
      (.error fault, left)) : fault.stopsWriting = false := by
  rw [result_bind] at hresult
  rcases result_identified_cases identify records store with
    hidentified | ⟨reason, hreason, hidentified⟩ <;> rw [hidentified] at hresult
  · refine hrecords.stopsWriting_eq_false htenant ?_ ?_ hresult
    · rintro _ ⟨⟩
      exact ⟨hname, hcovered⟩
    · rintro _ ⟨⟩ document hmem
      exact hfits document (OrderedMap.mem_of_mem_ofPairs hmem)
  · cases hresult
    rcases hreason with rfl | ⟨record, hid⟩
    · rfl
    · exact hidentify hid

/-- A call that fits does not stop between two documents. -/
theorem Operation.stopsWriting_eq_false {operation : Operation} {fault : StoreFault}
    (hrecords : Records store root place covered log) (hfits : operation.Fits covered)
    (hresult : result operation.action store = (.error fault, left)) :
    fault.stopsWriting = false := by
  cases operation with
  | write tenant collection documents =>
      obtain ⟨htenant, hcollection, hdocuments⟩ := hfits
      exact hrecords.stopsWriting_eq_false htenant hcollection hdocuments
        (of_result_bind_pure hresult)
  | saveScenario tenant records =>
      obtain ⟨htenant, hcovered, hdocuments⟩ := hfits
      exact hrecords.stopsWriting_of_identified _ stopsWriting_of_ofLine isFileName_scenario
        hcovered htenant hdocuments (of_result_bind_pure hresult)
  | saveCharacters tenant records =>
      obtain ⟨htenant, hcovered, hdocuments⟩ := hfits
      exact hrecords.stopsWriting_of_identified _ stopsWriting_of_ofCharacter
        isFileName_characters hcovered htenant hdocuments (of_result_bind_pure hresult)
  | createSave tenant data =>
      obtain ⟨htenant, hcovered, hstores⟩ := hfits
      have hcreate := of_result_bind_pure hresult
      cases data with
      | obj fields =>
          rw [result_createSave] at hcreate
          refine hrecords.drawn.stopsWriting_eq_false htenant ?_ ?_ (of_result_bind_pure hcreate)
          · rintro _ ⟨⟩
            exact ⟨isFileName_saveData, hcovered⟩
          · rintro _ ⟨⟩ document hmem
            rw [List.mem_singleton.mp hmem]
            refine ⟨?_, hstores fields _ rfl⟩
            rw [length_nextCode]
            decide
      | _ =>
          rw [Store.createSave, (gives_newCode store).result_bind] at hcreate
          cases hcreate
          rfl

/-- In a history of calls that fit, none stops between two documents. -/
theorem Ledger.stopsWriting_eq_false_of_fits {ledger : Ledger} {calls : List Call}
    (hrecords : Records ledger.store root place covered ledger.log)
    (hbefore : ∀ fault ∈ ledger.faults, fault.stopsWriting = false)
    (hadmissible : ∀ call ∈ calls, call.operation.Admissible)
    (hfits : ∀ call ∈ calls, call.operation.Fits covered) :
    ∀ fault ∈ (ledger.performAll calls).faults, fault.stopsWriting = false := by
  -- that the next call does not stop needs the notes, and those need that no call before it did
  induction calls using List.reverseRecOn with
  | nil => exact hbefore
  | append_singleton calls call ih =>
      have hearlier := ih (fun earlier hmem => hadmissible earlier (List.mem_append_left _ hmem))
        fun earlier hmem => hfits earlier (List.mem_append_left _ hmem)
      have hkept := Ledger.records_performAll hrecords
        (fun earlier hmem => hadmissible earlier (List.mem_append_left _ hmem)) hearlier
      rw [Ledger.performAll_concat, Ledger.perform]
      rcases hresult : result call.operation.action
        { (ledger.performAll calls).store with clock := call.moment } with ⟨reason | answer, left⟩
      · refine List.forall_mem_cons.mpr ⟨?_, hearlier⟩
        exact Operation.stopsWriting_eq_false (hkept.atMoment call.moment) (hfits call (by simp))
          hresult
      · exact hearlier

end

/-- There is only one list of documents in the order of the names of their files. -/
theorem eq_of_mem_iff_of_byName {first second : List (String × Json)}
    (hfirst : first.Pairwise fun one other => documentName one.1 < documentName other.1)
    (hsecond : second.Pairwise fun one other => documentName one.1 < documentName other.1)
    (hsame : ∀ document, document ∈ first ↔ document ∈ second) : first = second := by
  have : Std.Irrefl fun one other : String × Json => documentName one.1 < documentName other.1 :=
    ⟨fun _ => Std.lt_irrefl⟩
  have : Std.Antisymm fun one other : String × Json => documentName one.1 < documentName other.1 :=
    ⟨fun _ _ hlt hgt => absurd (Std.lt_trans hlt hgt) Std.lt_irrefl⟩
  exact hfirst.eq_of_mem_iff hsecond hsame

/-- Two documents are written, and then two calls are refused: an id is no key, and the data of a
save is no object. -/
def callsWithRefusals : List Call :=
  [⟨⟨2024, 1, 1, 0, 0, 0, 0⟩, .write (.str "shop") (.str "scenario")
      (.obj [("a", .obj [("n", .int 1)]), ("a-", .obj [])])⟩,
    ⟨⟨2024, 1, 1, 0, 0, 1, 0⟩, .write (.str "shop") (.str "scenario")
      (.obj [("a", .obj [("n", .int 2)]), ("../b", .obj [])])⟩,
    ⟨⟨2024, 1, 1, 0, 0, 2, 0⟩, .createSave (.str "shop") (.arr [])⟩]

theorem admissible_callsWithRefusals :
    ∀ call ∈ callsWithRefusals, call.operation.Admissible := by
  refine List.forall_mem_cons.mpr ⟨⟨?_, ?_⟩, List.forall_mem_cons.mpr ⟨⟨?_, ?_⟩,
    List.forall_mem_singleton.mpr nofun⟩⟩ <;> rintro _ ⟨⟩
  · exact isFileName_scenario.toIsName
  · decide +kernel
  · exact isFileName_scenario.toIsName
  · decide +kernel

theorem fits_callsWithRefusals : ∀ call ∈ callsWithRefusals, call.operation.Fits IsFileName := by
  have hshop : FitsTenant (.str "shop") := by
    rintro _ ⟨⟩
    decide
  have hcollection : ∀ name, Json.str "scenario" = .str name →
      IsFileName name ∧ IsFileName name := by
    rintro _ ⟨⟩
    exact ⟨isFileName_scenario, isFileName_scenario⟩
  refine List.forall_mem_cons.mpr ⟨⟨hshop, hcollection, ?_⟩, List.forall_mem_cons.mpr
    ⟨⟨hshop, hcollection, ?_⟩, List.forall_mem_singleton.mpr ⟨hshop, isFileName_saveData, ?_⟩⟩⟩
  · rintro _ ⟨⟩ document hmem
    rcases List.mem_pair.mp hmem with rfl | rfl <;> exact ⟨by decide, by decide⟩
  · rintro _ ⟨⟩ document hmem
    rcases List.mem_pair.mp hmem with rfl | rfl <;> exact ⟨by decide, by decide⟩
  · exact fun _ _ => nofun

/-- Only the first call is noted, its last document in front. -/
theorem log_callsWithRefusals :
    (Ledger.performAll { store := newWith [] } callsWithRefusals).log =
      [(("shop", "scenario", "a-"), .obj []),
        (("shop", "scenario", "a"), .obj [("n", .int 1)])] := by
  have hrefused : ∀ ledger : Ledger,
      (ledger.performAll callsWithRefusals.tail).log = ledger.log := fun _ => rfl
  have hdocuments : ∀ document ∈ [("a", Json.obj [("n", .int 1)]), ("a-", .obj [])],
      Key.isKey document.1 = true ∧ Fits document := by
    intro document hmem
    rcases List.mem_pair.mp hmem with rfl | rfl <;> exact ⟨by decide, by decide, by decide⟩
  obtain ⟨contents, hrepresents, -⟩ :=
    (@records_newWith IsFileName).atMoment ⟨2024, 1, 1, 0, 0, 0, 0⟩
  obtain ⟨left, hwrite⟩ := hrepresents.gives_write (by decide : Key.isKey "shop" = true)
    (by decide) isFileName_scenario isFileName_scenario
    (fun document hmem => (hdocuments document hmem).1)
    (fun document hmem => (hdocuments document hmem).2.1)
    fun document hmem => (hdocuments document hmem).2.2
  exact (hrefused _).trans
    (congrArg Ledger.log (Ledger.perform_of_gives (hwrite.bind (gives_pure none left))))

end VisualNovel.Store
