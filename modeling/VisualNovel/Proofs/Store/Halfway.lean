import VisualNovel.Proofs.Files.Place
import VisualNovel.Proofs.Store.Import
import VisualNovel.Proofs.Store.Notes
import VisualNovel.Proofs.Store.Written

/-!
# Writing that stops halfway

All ids are checked before anything is written, and so is the tenant; but an id that is a key can
still be too long for the name of a file, and that comes up only when its document is written.  So
can a directory that is in the way, and a document for which there is no room.  The documents before
that one have been written then, and they stay.

`Saving.untouched_of_fault_iff` says when a call that fails has left all documents as they were:
unless it stops halfway (`StopsHalfway`).  No assumption about the tree of files is needed.  Making
the directory of the collection adds directories at most (`FileTree.grows_makeDirectories`), and
what is written into it is one file for each of the documents before the first one that cannot be
written (`result_writeDocuments`).
-/

namespace VisualNovel

namespace Store

section

variable [Json.Room] {store left : Store} {files made : FileTree} {path : Path}
  {directory : Location}
  {documents : List (String × Json)} {document : String × Json}

/-! ## The documents before the first one that cannot be written -/

/-- Can the document be written into a directory? -/
def isWritable (files : FileTree) (path : Path) (document : String × Json) : Bool :=
  Json.Room.stores document.2 &&
    (files.writeFile (path.child (documentName document.1))
      (document.2.toText .stored).toUTF8).isOk

/-- Is the document in a directory already, just as it would be written? -/
def IsThere (files : FileTree) (path : Path) (document : String × Json) : Prop :=
  files.readFile (path.child (documentName document.1)) =
    .ok (document.2.toText .stored).toUTF8

theorem isWritable_iff (hdirectory : files.HasDirectory path directory)
    (hkey : Key.isKey document.1 = true) :
    isWritable files path document = true ↔
      Json.Room.stores document.2 = true ∧
        (path.child (documentName document.1)).text.utf8ByteSize ≤ FileTree.pathLimit ∧
        (documentName document.1).utf8ByteSize ≤ FileTree.nameLimit ∧
        files.entry? (documentEntry directory document).1 ≠ some .directory := by
  rw [isWritable, Bool.and_eq_true, hdirectory.isOk_writeFile (isName_documentName hkey)]
  rfl

theorem isOk_writeDocument (path : Path) (document : String × Json) (store : Store) :
    (result (writeDocument path document.1 document.2) store).1.isOk =
      isWritable store.files path document := by
  rw [writeDocument, isWritable]
  split
  · next hstores =>
    rw [hstores, Bool.true_and, result_change]
    cases store.files.writeFile (path.child (documentName document.1))
      (document.2.toText .stored).toUTF8 <;> rfl
  · next hnot =>
    rw [Bool.eq_false_iff.mpr hnot, Bool.false_and]
    rfl

/-- What has been written into the directory does not matter for the other documents. -/
theorem isWritable_placed (hdirectory : files.HasDirectory path directory)
    (hkeys : ∀ document ∈ documents, Key.isKey document.1 = true) {first : String × Json}
    (hfirst : Key.isKey first.1 = true) (hwritable : isWritable files path first = true) :
    ∀ document ∈ documents, isWritable (placed directory [first] files) path document =
      isWritable files path document := by
  intro document hmem
  have hfree := ((isWritable_iff hdirectory hfirst).mp hwritable).2.2.2
  have hchanged := changedBelow_place_document hdirectory.entry?_eq (isName_documentName hfirst)
    hfree
  have hplaced : (placed directory [first] files).HasDirectory path directory :=
    hchanged.hasDirectory hdirectory
  rw [Bool.eq_iff_iff, isWritable_iff hplaced (hkeys document hmem),
    isWritable_iff hdirectory (hkeys document hmem)]
  have hsame : FileTree.entry? (placed directory [first] files)
      (documentEntry directory document).1 = some .directory ↔
        files.entry? (documentEntry directory document).1 = some .directory :=
    ⟨entry?_place_document, hchanged.kept _⟩
  rw [Ne, hsame]

/-- The documents before the first one that cannot be written are placed, and the others are not. -/
theorem result_writeDocuments {writable : String × Json → Bool}
    (hdirectory : store.files.HasDirectory path directory)
    (hkeys : ∀ document ∈ documents, Key.isKey document.1 = true)
    (hwritable : ∀ document ∈ documents, isWritable store.files path document = writable document) :
    (result (documents.forM fun (id, document) => writeDocument path id document) store).2 =
      { store with files := placed directory (documents.takeWhile writable) store.files } := by
  induction documents generalizing store with
  | nil => rfl
  | cons document rest ih =>
      obtain ⟨hkey, hrest⟩ := List.forall_mem_cons.mp hkeys
      obtain ⟨hfirst, hothers⟩ := List.forall_mem_cons.mp hwritable
      have hok := isOk_writeDocument path document store
      rw [result_writeDocuments_cons, List.takeWhile_cons, ← hfirst, ← hok]
      rcases result_writeDocument_cases hdirectory hkey with
        ⟨-, -, hfree, hwrite⟩ | ⟨fault, -, hwrite⟩ <;> rw [hwrite] at hok ⊢
      · have hchanged := changedBelow_place_document hdirectory.entry?_eq
          (isName_documentName hkey) hfree
        refine @ih { store with files := placed directory [document] store.files }
          (hchanged.hasDirectory hdirectory) hrest fun other hmem => ?_
        rw [← hothers other hmem]
        exact isWritable_placed hdirectory hrest hkey hok.symm other hmem
      · rfl

theorem isThere_iff (hdirectory : files.HasDirectory path directory)
    (hkey : Key.isKey document.1 = true) (hwritable : isWritable files path document = true) :
    IsThere files path document ↔
      files.entry? (documentEntry directory document).1 =
        some (documentEntry directory document).2 := by
  have hlocate : files.locate (path.child (documentName document.1)) =
      .ok (documentEntry directory document).1 := by
    obtain ⟨-, hpath, hshort, -⟩ := (isWritable_iff hdirectory hkey).mp hwritable
    rw [hdirectory.locate_child_eq (isName_documentName hkey), if_neg (by omega)]
    rfl
  constructor
  · intro hthere
    obtain ⟨place, hplace, hentry⟩ := FileTree.entry?_of_readFile hthere
    cases hlocate.symm.trans hplace
    exact hentry
  · exact FileTree.readFile_of_entry? hlocate

/-! ## Documents as they were -/

/-- Are all documents of a store as they were in another one: the same files are there, and what
could be read under an id is still read? -/
structure Untouched (store left : Store) : Prop where
  file_iff : ∀ location content, left.files.entry? location = some (.file content) ↔
    store.files.entry? location = some (.file content)
  document_eq : ∀ tenant collection id document,
    Gives (Store.document? tenant collection id) store (some document) store →
      Gives (Store.document? tenant collection id) left (some document) left

theorem Untouched.refl (store : Store) : Untouched store store :=
  ⟨fun _ _ => Iff.rfl, fun _ _ _ _ hread => hread⟩

/-- Documents are as they were if everything that was there is there, and all else are
directories. -/
theorem untouched_of_entries (hroot : left.root = store.root)
    (hworking : left.files.workingDirectory = store.files.workingDirectory)
    (hkept : ∀ location entry, store.files.entry? location = some entry →
      left.files.entry? location = some entry)
    (hfiles : ∀ location content, left.files.entry? location = some (.file content) →
      store.files.entry? location = some (.file content)) : Untouched store left := by
  refine ⟨fun location content => ⟨hfiles location content, hkept location _⟩, ?_⟩
  intro tenant collection id document hgives
  obtain ⟨-, path, key, content, hpath, rfl, hkey, hread, hparse⟩ :=
    gives_document?_some_iff.mp hgives
  refine gives_document?_some_iff.mpr ⟨rfl, path, key, content, ?_, rfl, hkey, ?_, hparse⟩
  · exact gives_collection_of_root hroot hpath
  · exact FileTree.readFile_mono hworking hkept hread

/-! ## Stopping halfway -/

/-- Is something left behind when documents are written into a directory up to the first one that
cannot be?  All ids are keys and the directory can be made, and some document before the first one
that cannot be written is not there already. -/
def StopsHalfway (files : FileTree) (path : Path) (documents : List (String × Json)) : Prop :=
  (∀ document ∈ documents, Key.isKey document.1 = true) ∧
    ∃ made, files.makeDirectories path = (made, none) ∧
      ∃ document ∈ documents.takeWhile (isWritable made path), ¬ IsThere made path document

section

variable {added : OrderedMap Location Entry} (hgrows : store.files.Grows added made)
  (hadded : ∀ new ∈ added, new.2 = Entry.directory)

include hgrows hadded

/-- Making directories touches no document, nor does placing documents that are there already. -/
theorem untouched_placed_of_there
    (hthere : ∀ document ∈ documents, made.entry? (documentEntry directory document).1 =
      some (documentEntry directory document).2) :
    Untouched store { store with files := placed directory documents made } := by
  have hentry := entry?_placed_of_there hthere
  refine untouched_of_entries rfl ?_ ?_ ?_
  · exact (workingDirectory_placed ..).trans hgrows.workingDirectory_eq
  · intro location entry hold
    rw [hentry]
    exact hgrows.entry?_of_some hold
  · intro location content hnew
    rw [hentry] at hnew
    rcases hgrows.entry?_cases hnew with hold | hmem
    · exact hold
    · cases hadded _ hmem

theorem untouched_made : Untouched store { store with files := made } := by
  show Untouched store { store with files := placed [] [] made }
  exact untouched_placed_of_there hgrows hadded (List.forall_mem_nil _)

/-- The documents before the first one that cannot be written leave all as it was exactly if they
were there already. -/
theorem untouched_placed_iff (hdirectory : made.HasDirectory path directory)
    (hkeys : ∀ document ∈ documents, Key.isKey document.1 = true)
    (hnodup : (documents.map Prod.fst).Nodup) :
    Untouched store { store with
        files := placed directory (documents.takeWhile (isWritable made path)) made } ↔
      ∀ document ∈ documents.takeWhile (isWritable made path), IsThere made path document := by
  have hbefore : ∀ document ∈ documents.takeWhile (isWritable made path),
      (IsThere made path document ↔ made.entry? (documentEntry directory document).1 =
        some (documentEntry directory document).2) := fun document hmem =>
    isThere_iff hdirectory (hkeys document ((List.takeWhile_sublist _).mem hmem))
      (List.mem_takeWhile_imp hmem)
  constructor
  · -- a document that has been placed is a file, so it was a file before
    intro huntouched document hmem
    have hplaced : FileTree.entry?
        (placed directory (documents.takeWhile (isWritable made path)) made)
        (documentEntry directory document).1 = some (documentEntry directory document).2 :=
      entry?_placed_of_mem (hnodup.sublist ((List.takeWhile_sublist _).map _)) hmem
    have hold := (huntouched.file_iff _ _).mp hplaced
    exact (hbefore document hmem).mpr (hgrows.entry?_of_some hold)
  · intro hthere
    exact untouched_placed_of_there hgrows hadded fun document hmem =>
      (hbefore document hmem).mp (hthere document hmem)

end

omit [Json.Room] in
/-- The path of a collection names the tenant at least. -/
theorem parts_ne_nil_of_gives_collection {tenant collection : Json}
    (hpath : Gives (Store.collection tenant collection) store path left)
    (hrelative : path.absolute = false) : path.parts ≠ [] := by
  obtain ⟨root, owner, name, -, rfl, rfl, howner, rfl⟩ := of_gives_collection hpath
  rw [collectionPath, Path.child, Path.join] at hrelative ⊢
  split_ifs at hrelative ⊢ with habsolute
  · rw [hrelative] at habsolute
    cases habsolute
  · rw [Path.child_of_isName (Key.isName_of_isKey howner)]
    simp

/-- Writing at a path fails without a trace unless it stops halfway. -/
theorem untouched_writeAt_iff {fault : StoreFault}
    (hpath : path.absolute = false → path.parts ≠ [])
    (hkeys : ∀ document ∈ documents, Key.isKey document.1 = true)
    (hnodup : (documents.map Prod.fst).Nodup)
    (hresult : result (writeAt path (.obj documents)) store = (.error fault, left)) :
    Untouched store left ↔ ¬ StopsHalfway store.files path documents := by
  obtain ⟨added, hgrows, hadded⟩ := store.files.grows_makeDirectories path
  unfold writeAt at hresult
  rw [result_bind, result_attempt] at hresult
  rcases hmake : store.files.makeDirectories path with ⟨made, _ | reason⟩ <;>
    rw [hmake] at hresult hgrows
  · obtain ⟨directory, hdirectory⟩ :=
      FileTree.exists_hasDirectory (fun hrelative hnone => absurd hnone (hpath hrelative)) hmake
    have hrun := @result_writeDocuments _ { store with files := made } path directory documents _
      hdirectory hkeys fun _ _ => rfl
    have hleft : left = { store with
        files := placed directory (documents.takeWhile (isWritable made path)) made } := by
      rw [← hrun]
      exact congrArg Prod.snd hresult.symm
    rw [hleft, untouched_placed_iff hgrows hadded hdirectory hkeys hnodup]
    constructor
    · rintro hthere ⟨-, other, hother, document, hmem, hmissing⟩
      cases hmake.symm.trans hother
      exact hmissing (hthere document hmem)
    · intro hnot document hmem
      by_contra hmissing
      exact hnot ⟨hkeys, made, hmake, document, hmem, hmissing⟩
  · -- the directory could not be made
    cases hresult
    refine iff_of_true (untouched_made hgrows hadded) ?_
    rintro ⟨-, other, hother, -⟩
    rw [hmake] at hother
    cases hother

/-- Writing documents fails without a trace unless there is a path where it stops halfway. -/
theorem untouched_write_iff {tenant collection : Json} {fault : StoreFault}
    (hnodup : (documents.map Prod.fst).Nodup)
    (hresult : result (write tenant collection (.obj documents)) store = (.error fault, left)) :
    Untouched store left ↔ ∀ path, Gives (Store.collection tenant collection) store path store →
      ¬ StopsHalfway store.files path documents := by
  rcases result_write_cases tenant collection (.obj documents) store with
    ⟨reason, -, hrefused, hbad⟩ | ⟨path, hpath, hkeys, hwrites⟩
  · rw [hrefused] at hresult
    cases hresult
    refine iff_of_true (Untouched.refl store) ?_
    rintro path hpath ⟨hvalid, -⟩
    obtain ⟨document, hmem, hnokey⟩ := hbad path documents hpath rfl
    rw [hvalid document hmem] at hnokey
    cases hnokey
  · rw [hwrites] at hresult
    rw [untouched_writeAt_iff (parts_ne_nil_of_gives_collection hpath) (hkeys documents rfl) hnodup
      hresult]
    constructor
    · intro hnot other hother
      cases hpath.symm.trans hother
      exact hnot
    · exact fun hnot => hnot path hpath

/-! ## Faults -/

/-- A document is not written because of its file, or because there is no room to. -/
theorem fault_of_writeDocument {fault : StoreFault}
    (hresult : result (writeDocument path document.1 document.2) store = (.error fault, left)) :
    (∃ reason, fault = .file reason) ∨
      fault = .tooDeep ∧ Json.Room.stores document.2 = false := by
  rw [writeDocument] at hresult
  split at hresult
  · rw [result_change] at hresult
    split at hresult <;> cases hresult
    exact Or.inl ⟨_, rfl⟩
  · next hnot =>
    cases hresult
    exact Or.inr ⟨rfl, Bool.eq_false_iff.mpr hnot⟩

theorem fault_of_writeDocuments {fault : StoreFault}
    (hresult : result (documents.forM fun (id, document) => writeDocument path id document) store =
      (.error fault, left)) :
    (∃ reason, fault = .file reason) ∨
      fault = .tooDeep ∧ ∃ document ∈ documents, Json.Room.stores document.2 = false := by
  induction documents generalizing store with
  | nil => cases hresult
  | cons document rest ih =>
      rw [result_writeDocuments_cons] at hresult
      rcases hwrite : result (writeDocument path document.1 document.2) store with
        ⟨reason | _, next⟩ <;> rw [hwrite] at hresult
      · cases hresult
        rcases fault_of_writeDocument hwrite with hfile | ⟨hreason, hnot⟩
        · exact Or.inl hfile
        · exact Or.inr ⟨hreason, document, List.mem_cons_self .., hnot⟩
      · rcases ih hresult with hfile | ⟨hreason, deep, hmem, hnot⟩
        · exact Or.inl hfile
        · exact Or.inr ⟨hreason, deep, List.mem_cons_of_mem _ hmem, hnot⟩

/-- If something is no key, then that was found before anything was done. -/
theorem left_eq_of_key {tenant collection documents : Json} {reason : KeyFault}
    (hresult : result (write tenant collection documents) store = (.error (.key reason), left)) :
    left = store := by
  rcases result_write_cases tenant collection documents store with
    ⟨fault, -, hrefused, -⟩ | ⟨path, -, -, hwrites⟩
  · rw [hrefused] at hresult
    cases hresult
    rfl
  · rw [hwrites] at hresult
    unfold writeAt at hresult
    rw [result_bind, result_attempt] at hresult
    rcases hmake : store.files.makeDirectories path with ⟨made, _ | fault⟩ <;>
      rw [hmake] at hresult
    · cases documents with
      | obj fields =>
          rcases fault_of_writeDocuments hresult with ⟨reason, hfile⟩ | ⟨hdeep, -⟩
          · cases hfile
          · cases hdeep
      | _ => cases hresult
    · cases hresult

/-! ## Documents before one with a long id -/

theorem result_writeAt_append {before : List (String × Json)}
    (hgives : Gives (writeAt path (.obj before)) store () left) (more : List (String × Json)) :
    result (writeAt path (.obj (before ++ more))) store =
      result (more.forM fun (id, document) => writeDocument path id document) left := by
  unfold writeAt at hgives ⊢
  obtain ⟨_, made, hmake, hwrite⟩ := hgives.of_bind
  rw [hmake.result_bind]
  exact hwrite.result_forM_append more

theorem result_writeDocument_of_long (hdirectory : store.files.HasDirectory path directory)
    (hkey : Key.isKey document.1 = true) (hstores : Json.Room.stores document.2 = true)
    (hlong : FileTree.nameLimit < document.1.length + 5) :
    result (writeDocument path document.1 document.2) store =
      (.error (.file .nameTooLong), store) := by
  have hlocate := hdirectory.locate_child_eq (isName_documentName hkey)
  rw [utf8ByteSize_documentName hkey, if_pos (Or.inr hlong)] at hlocate
  rw [writeDocument, if_pos hstores, result_change, FileTree.writeFile, hlocate]
  rfl

section

variable {root : Path} {place : Location} {tenant collection : String}
  {before after : List (String × Json)} {long : String × Json}

/-- The documents before one whose id is too long are kept, although the call fails. -/
theorem result_write_of_long (hready : store.Ready root place) (htenant : Key.isKey tenant = true)
    (hshort : tenant.length ≤ FileTree.nameLimit) (hcollection : IsFileName collection)
    (hvacant : Vacant store.files place tenant collection) (hidentified : Identified before)
    (hstores : ∀ document ∈ before ++ [long], Json.Room.stores document.2 = true)
    (hkeys : ∀ document ∈ long :: after, Key.isKey document.1 = true)
    (hlong : FileTree.nameLimit < long.1.length + 5) :
    ∃ files, result (write (.str tenant) (.str collection) (.obj (before ++ long :: after))) store =
        (.error (.file .nameTooLong), { store with files }) ∧
      Holds files root place tenant collection before := by
  obtain ⟨hbefore, hlast⟩ := List.forall_mem_append.mp hstores
  obtain ⟨hkey, -⟩ := List.forall_mem_cons.mp hkeys
  obtain ⟨added, files, hgives, hgrows, hadded, hdirectory⟩ :=
    gives_write hready htenant hshort hcollection hvacant hidentified hbefore
  refine ⟨files, ?_, hdirectory, keeps_of_grows hvacant hadded hgrows⟩
  have hpath := gives_collection hready.root_eq htenant collection
  -- both calls get to where documents are written, and the first one gets through
  have hkept : Gives (writeAt (collectionPath root tenant collection) (.obj before)) store ()
      { store with files } := (result_write_of_keys hpath hidentified.isKey).symm.trans hgives
  have hall : ∀ document ∈ before ++ long :: after, Key.isKey document.1 = true :=
    List.forall_mem_append.mpr ⟨hidentified.isKey, hkeys⟩
  have hstop := @result_writeDocument_of_long _ { store with files } _ _ long hdirectory hkey
    (hlast long (List.mem_singleton_self _)) hlong
  rw [result_write_of_keys hpath hall, result_writeAt_append hkept, result_writeDocuments_cons,
    hstop]

/-- Where there were no documents, a document that is kept has not been there before. -/
theorem Vacant.not_untouched_of_holds (hvacant : Vacant store.files place tenant collection)
    (hholds : Holds left.files root place tenant collection documents)
    (hmem : document ∈ documents) : ¬ Untouched store left := by
  intro huntouched
  have hold := (huntouched.file_iff _ _).mp (hholds.keeps.entry?_eq document hmem)
  rw [documentEntry, hvacant.no_documents _ (isDocumentName_documentName document.1)] at hold
  cases hold

end

/-! ## Calls that write documents -/

/-- A call that writes documents for a tenant. -/
inductive Saving where
  /-- Documents are written under their ids. -/
  | direct (name : Json) (fields : List (String × Json)) (nodup : (fields.map Prod.fst).Nodup)
  /-- Script lines are saved. -/
  | script (lines : Json)
  /-- Character records are saved. -/
  | cast (records : Json)
  /-- Script lines are imported. -/
  | importedScript (lines : Json)
  /-- Character records are imported. -/
  | importedCast (records : Json)

namespace Saving

/-- What is done. -/
def run (tenant : Json) : Saving → Action Unit
  | direct name fields _ => write tenant name (.obj fields)
  | script lines => saveScenario tenant lines
  | cast records => saveCharacters tenant records
  | importedScript lines => Functor.discard (importScenario tenant lines)
  | importedCast records => Functor.discard (importCharacters tenant records)

/-- The collection that is written to. -/
def collection : Saving → Json
  | direct name .. => name
  | script _ | importedScript _ => scenarioCollection
  | cast _ | importedCast _ => characterCollection

/-- The documents under their ids. -/
def given : Saving → Action Json
  | direct _ fields _ => pure (.obj fields)
  | script lines | importedScript lines => identified DocumentId.ofLine lines
  | cast records | importedCast records => identified DocumentId.ofCharacter records

/-- Does the call stop between two documents and leave some of them behind? -/
def StopsHalfway (tenant : Json) (saving : Saving) (store : Store) : Prop :=
  ∃ path fields, Gives (Store.collection tenant saving.collection) store path store ∧
    Gives saving.given store (.obj fields) store ∧ Store.StopsHalfway store.files path fields

variable {tenant : Json} {saving : Saving} {fault : StoreFault}

omit [Json.Room] in
theorem result_identified_nodup (identify : Json → Except StoreFault String) (records : Json)
    (store : Store) :
    (∃ fields, Gives (identified identify records) store (.obj fields) store ∧
        (fields.map Prod.fst).Nodup) ∨
      ∃ fault, result (identified identify records) store = (.error fault, store) := by
  rcases result_identified_cases identify records store with hgives | ⟨fault, -, hfault⟩
  · exact Or.inl ⟨_, hgives, OrderedMap.nodup_keys_ofPairs _⟩
  · exact Or.inr ⟨fault, hfault⟩

omit [Json.Room] in
/-- There are documents with different ids, or there are none and nothing has been done. -/
theorem result_given_cases (saving : Saving) (store : Store) :
    (∃ fields, Gives saving.given store (.obj fields) store ∧ (fields.map Prod.fst).Nodup) ∨
      ∃ fault, result saving.given store = (.error fault, store) := by
  cases saving with
  | direct name fields hnodup => exact Or.inl ⟨fields, gives_pure _ _, hnodup⟩
  | script | importedScript => exact result_identified_nodup _ _ store
  | cast | importedCast => exact result_identified_nodup _ _ store

omit [Json.Room] in
/-- What is counted after it has been saved fails only if it could not be saved. -/
theorem result_of_counted {identify : Json → Except StoreFault String}
    {next : Json → Action Unit} {records : Json}
    (hfails : result (Functor.discard (do
      let items ← elements records
      identified identify records >>= next
      return items.length)) store = (.error fault, left)) :
    result (identified identify records >>= next) store = (.error fault, left) := by
  rw [result_discard, result_bind, result_elements] at hfails
  cases hitems : records.elements? with
  | none =>
      rw [hitems] at hfails
      cases hfails
      rw [result_bind, identified, result_bind, result_elements, hitems]
  | some items =>
      rw [hitems] at hfails
      simp only at hfails
      rw [result_bind] at hfails
      rcases hsave : result (identified identify records >>= next) store with ⟨reason | _, last⟩ <;>
        rw [hsave] at hfails <;> cases hfails
      rfl

theorem result_of_fails (hfails : result (saving.run tenant) store = (.error fault, left)) :
    result (saving.given >>= write tenant saving.collection) store = (.error fault, left) := by
  cases saving with
  | direct | script | cast => exact hfails
  | importedScript | importedCast => exact result_of_counted hfails

/-- If something is no key, then a call that fails has changed nothing at all; and whatever the
reason is, it leaves all documents as they were unless it stops halfway. -/
theorem untouched_of_fault_iff
    (hfails : result (saving.run tenant) store = (.error fault, left)) :
    ((∃ reason, fault = .key reason) → left = store) ∧
      (Untouched store left ↔ ¬ saving.StopsHalfway tenant store) := by
  have hresult := result_of_fails hfails
  rcases saving.result_given_cases store with ⟨fields, hgiven, hnodup⟩ | ⟨reason, hgiven⟩
  swap
  · rw [result_bind, hgiven] at hresult
    cases hresult
    refine ⟨fun _ => rfl, iff_of_true (Untouched.refl store) ?_⟩
    rintro ⟨path, fields, -, hfields, -⟩
    rw [hfields.result_eq] at hgiven
    cases hgiven
  · rw [hgiven.result_bind] at hresult
    refine ⟨?_, (untouched_write_iff hnodup hresult).trans ?_⟩
    · rintro ⟨reason, rfl⟩
      exact left_eq_of_key hresult
    · constructor
      · rintro hnot ⟨path, _, hpath, hfields, hstops⟩
        cases hgiven.symm.trans hfields
        exact hnot path hpath hstops
      · exact fun hnot path hpath hstops => hnot ⟨path, fields, hpath, hgiven, hstops⟩

end Saving

end

/-! ## A script with a long number -/

/-- A line with the number one. -/
def firstLine : Json := .obj [("order", .int 1), ("command", .str "text")]

/-- A line whose number has so many digits that the name of its file is too long. -/
def longLine : Json := .obj [("order", .int (10 ^ 250))]

theorem identified_firstLine : Identified [(DocumentId.ofOrder (.int 1), firstLine)] := by
  refine ⟨?_, ?_, List.nodup_singleton _⟩ <;> refine List.forall_mem_singleton.mpr ?_
  · exact DocumentId.isKey_ofOrder 1
  · rw [DocumentId.length_ofOrder]
    decide

theorem result_saveScenario_longLine :
    ∃ files, result (saveScenario (.str "demo") (.arr [firstLine, longLine])) (newWith []) =
        (.error (.file .nameTooLong), { newWith [] with files }) ∧
      Holds files (Path.ofText "data") ["data", "tenants"] "demo" "scenario"
        [(DocumentId.ofOrder (.int 1), firstLine)] := by
  have hlength : (DocumentId.ofOrder (.int (10 ^ 250))).length = 251 := by
    rw [DocumentId.length_ofOrder]
    decide +kernel
  have hids : ∀ document ∈ [(DocumentId.ofOrder (.int 1), firstLine),
      (DocumentId.ofOrder (.int (10 ^ 250)), longLine)],
        DocumentId.ofLine document.2 = .ok document.1 := by
    intro document hmem
    rcases List.mem_pair.mp hmem with rfl | rfl <;> exact DocumentId.ofLine_of_order rfl
  have hne : DocumentId.ofOrder (.int 1) ≠ DocumentId.ofOrder (.int (10 ^ 250)) :=
    fun heq => absurd (DocumentId.ofOrder_injective heq) (by decide +kernel)
  have hgiven := @gives_identified (newWith []) _ _ hids
  rw [OrderedMap.ofPairs_of_nodup (by simpa using hne)] at hgiven
  have hwrites : result (saveScenario (.str "demo") (.arr [firstLine, longLine])) (newWith []) =
      result (write (.str "demo") scenarioCollection
        (.obj [(DocumentId.ofOrder (.int 1), firstLine),
          (DocumentId.ofOrder (.int (10 ^ 250)), longLine)])) (newWith []) := hgiven.result_bind _
  rw [hwrites]
  refine @result_write_of_long _ (newWith []) _ _ "demo" "scenario"
    [(DocumentId.ofOrder (.int 1), firstLine)] [] (DocumentId.ofOrder (.int (10 ^ 250)), longLine)
    (ready_newWith []) (by decide) (by decide) isFileName_scenario (vacant_newWith _ _)
    identified_firstLine ?_ (List.forall_mem_singleton.mpr (DocumentId.isKey_ofOrder _)) ?_
  · intro document hmem
    rcases List.mem_pair.mp hmem with rfl | rfl <;> decide
  · show 255 < (DocumentId.ofOrder (.int (10 ^ 250))).length + 5
    omega

/-- The first line of such a script is kept although saving the script fails. -/
theorem firstLine_left_behind :
    ∃ left, result (saveScenario (.str "demo") (.arr [firstLine, longLine])) (newWith []) =
        (.error (.file .nameTooLong), left) ∧
      Gives (scenario (.str "demo")) (newWith []) [] (newWith []) ∧
      Gives (scenario (.str "demo")) left [firstLine] left ∧ ¬ Untouched (newWith []) left := by
  obtain ⟨files, hresult, hholds⟩ := result_saveScenario_longLine
  refine ⟨_, hresult, ?_, ?_,
    (vacant_newWith _ _).not_untouched_of_holds hholds (List.mem_singleton_self _)⟩
  · have hread := (vacant_newWith "demo" "scenario").holding.result_documents (ready_newWith [])
      (by decide) (by decide) isFileName_scenario
      (initialised_newWith (by decide) (List.forall_mem_nil _)).wellFormed
    rwa [byName, List.mergeSort_nil] at hread
  · have hread := @gives_documents { newWith [] with files } _ _ _ _ _ _ rfl (by decide)
      hholds.directory
      ((ready_newWith []).room_document (by decide) (by decide) isFileName_scenario) hholds.keeps
      identified_firstLine
      (List.forall_mem_singleton.mpr (Json.isExact_of_isPlain (by decide +kernel)))
      (List.forall_mem_singleton.mpr (by decide))
    rwa [byName, List.mergeSort_singleton] at hread

/-- Saving such a script stops halfway. -/
theorem script_stops_halfway :
    ∃ left, result ((Saving.script (.arr [firstLine, longLine])).run (.str "demo")) (newWith []) =
        (.error (.file .nameTooLong), left) ∧
      (Saving.script (.arr [firstLine, longLine])).StopsHalfway (.str "demo") (newWith []) := by
  obtain ⟨files, hresult, hholds⟩ := result_saveScenario_longLine
  have hfails : result ((Saving.script (.arr [firstLine, longLine])).run (.str "demo"))
      (newWith []) = (.error (.file .nameTooLong), { newWith [] with files }) := hresult
  refine ⟨_, hfails, ?_⟩
  by_contra hnot
  have huntouched := (Saving.untouched_of_fault_iff hfails).2.mpr hnot
  exact (vacant_newWith _ _).not_untouched_of_holds hholds (List.mem_singleton_self _) huntouched

end Store

end VisualNovel
