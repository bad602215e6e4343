import VisualNovel.Proofs.Files.Below
import VisualNovel.Proofs.Json.Bytes
import VisualNovel.Proofs.Sorting
import VisualNovel.Proofs.Store.Actions

/-!
# Documents are kept

Documents that are written to a collection without documents are its documents from then on,
and are read in the order of the names of their files.  They stay what they are while entries
are added elsewhere (`Keeps.grows`).

A store is *ready* if it is open, its directory for the tenants is there, and the paths to
documents do not get too long.  A collection is *vacant* if it has no documents and nothing is
in the way of its directory.
-/

namespace VisualNovel

namespace Store

variable {store : Store} {root : Path} {place directory : Location} {tenant collection : String}
  {files larger : FileTree} {documents : List (String × Json)}

/-- Is the store open, with its tenants at a place and room for the paths to documents? -/
structure Ready (store : Store) (root : Path) (place : Location) : Prop where
  root_eq : store.root = some root
  directory : store.files.HasDirectory (root.child "tenants") place
  room : (root.child "tenants").text.utf8ByteSize + 3 * (FileTree.nameLimit + 1) ≤
    FileTree.pathLimit

/-- The location of a collection. -/
def collectionPlace (place : Location) (tenant collection : String) : Location :=
  place ++ [tenant] ++ [collection]

/-- Has a tenant no documents in a collection, and is nothing in the way of its directory? -/
structure Vacant (files : FileTree) (place : Location) (tenant collection : String) : Prop where
  tenant_free : ∀ entry, files.entry? (place ++ [tenant]) = some entry → entry = .directory
  collection_free : ∀ entry, files.entry? (collectionPlace place tenant collection) = some entry →
    entry = .directory
  no_documents : ∀ name, isDocumentName name = true →
    files.entry? (collectionPlace place tenant collection ++ [name]) = none

/-- The entry for a document in a directory. -/
def documentEntry (directory : Location) (document : String × Json) : Location × Entry :=
  (directory ++ [documentName document.1], .file (document.2.toText .stored).toUTF8)

/-- Are these the documents in a directory? -/
structure Keeps (files : FileTree) (directory : Location) (documents : List (String × Json)) :
    Prop where
  names_perm : ((files.names directory).filter isDocumentName).Perm
    (documents.map fun document => documentName document.1)
  entry?_eq : ∀ document ∈ documents, files.entry? (documentEntry directory document).1 =
    some (documentEntry directory document).2

/-- Can the documents be kept: are their ids keys that fit the name of a file, no two the same? -/
structure Identified (documents : List (String × Json)) : Prop where
  isKey : ∀ document ∈ documents, Key.isKey document.1 = true
  short : ∀ document ∈ documents, document.1.length + 5 ≤ FileTree.nameLimit
  nodup : (documents.map Prod.fst).Nodup

theorem Keeps.perm {others : List (String × Json)} (hkeeps : Keeps files directory documents)
    (hperm : documents.Perm others) : Keeps files directory others :=
  ⟨hkeeps.names_perm.trans (hperm.map _), fun document hmem =>
    hkeeps.entry?_eq document (hperm.mem_iff.mpr hmem)⟩

theorem Identified.perm {others : List (String × Json)} (hidentified : Identified documents)
    (hperm : documents.Perm others) : Identified others :=
  ⟨fun document hmem => hidentified.isKey document (hperm.mem_iff.mpr hmem),
    fun document hmem => hidentified.short document (hperm.mem_iff.mpr hmem),
    (hperm.map _).nodup_iff.mp hidentified.nodup⟩

/-! ## Names of documents -/

theorem isDocumentName_documentName (id : String) : isDocumentName (documentName id) = true := by
  rw [isDocumentName, documentName, String.endsWith_eq_endsWith_toSlice,
    String.Slice.endsWith_string_iff, String.copy_toSlice, String.toList_append]
  exact List.suffix_append _ _

theorem exists_documentName {name : String} (hname : isDocumentName name = true) :
    ∃ id, name = documentName id := by
  rw [isDocumentName, String.endsWith_eq_endsWith_toSlice, String.Slice.endsWith_string_iff,
    String.copy_toSlice] at hname
  obtain ⟨before, hbefore⟩ := hname
  refine ⟨String.ofList before, String.toList_inj.mp ?_⟩
  rw [documentName, String.toList_append, String.toList_ofList, hbefore]

theorem documentName_injective {first second : String}
    (heq : documentName first = documentName second) : first = second := by
  have hchars := congrArg String.toList heq
  rw [documentName, documentName, String.toList_append, String.toList_append] at hchars
  exact String.toList_inj.mp (List.append_cancel_right hchars)

theorem toList_documentName (id : String) :
    (documentName id).toList = id.toList ++ ['.', 'j', 's', 'o', 'n'] := by
  rw [documentName, String.toList_append]
  rfl

/-- The name of a document has characters of keys and points only, and not only points. -/
theorem allowed_documentName {id : String} (hkey : Key.isKey id = true) :
    (∀ c ∈ (documentName id).toList, Key.allows c = true ∨ c = '.') ∧
      ∃ c ∈ (documentName id).toList, Key.allows c = true := by
  obtain ⟨c, hmem⟩ := Key.exists_mem_of_isKey hkey
  rw [toList_documentName]
  constructor
  · intro other hother
    rcases List.mem_append.mp hother with hother | hother
    · exact Or.inl (Key.allows_of_mem hkey hother)
    · have hending : ['.', 'j', 's', 'o', 'n'].all (fun c => Key.allows c || c = '.') = true := by
        decide
      simpa using List.all_eq_true.mp hending other hother
  · exact ⟨c, List.mem_append_left _ hmem, Key.allows_of_mem hkey hmem⟩

theorem isName_documentName {id : String} (hkey : Key.isKey id = true) :
    IsName (documentName id) :=
  Key.isName_of_allowed (allowed_documentName hkey).1 (allowed_documentName hkey).2

theorem utf8ByteSize_documentName {id : String} (hkey : Key.isKey id = true) :
    (documentName id).utf8ByteSize = id.length + 5 := by
  rw [utf8ByteSize_eq_length, ← String.length_toList, toList_documentName, List.length_append,
    String.length_toList]
  · rfl
  · intro c hmem
    rcases (allowed_documentName hkey).1 c hmem with hallows | rfl
    · exact Key.lt_of_allows hallows
    · decide

theorem isFileName_documentName {id : String} (hkey : Key.isKey id = true)
    (hshort : id.length + 5 ≤ FileTree.nameLimit) : IsFileName (documentName id) :=
  ⟨isName_documentName hkey, by rwa [utf8ByteSize_documentName hkey]⟩

theorem isFileName_scenario : IsFileName "scenario" :=
  Key.isFileName_of_isKey (by decide) (by decide)

theorem isFileName_characters : IsFileName "characters" :=
  Key.isFileName_of_isKey (by decide) (by decide)

theorem isFileName_saveData : IsFileName "saveData" :=
  Key.isFileName_of_isKey (by decide) (by decide)

/-! ## Placing documents -/

theorem length_documentEntry (place : Location) (tenant collection : String)
    (document : String × Json) :
    (documentEntry (collectionPlace place tenant collection) document).1.length =
      place.length + 3 := by
  simp [documentEntry, collectionPlace]

theorem collectionPlace_eq (place : Location) (tenant collection : String) :
    collectionPlace place tenant collection = place ++ [tenant, collection] := by
  rw [collectionPlace, List.append_assoc, List.singleton_append]

/-- The files of documents are deeper than the directories on the way to them. -/
theorem ne_documentEntry {location : Location} {document : String × Json}
    (hmem : location ∈ [place ++ [tenant], place ++ [tenant, collection]]) :
    location ≠ (documentEntry (collectionPlace place tenant collection) document).1 := by
  intro heq
  have hlength := length_documentEntry place tenant collection document
  rw [← heq] at hlength
  rcases List.mem_pair.mp hmem with rfl | rfl <;> simp at hlength

/-- The tree with documents in a directory. -/
def placed (directory : Location) (documents : List (String × Json)) (files : FileTree) :
    FileTree :=
  documents.foldl (fun files document =>
    files.place (documentEntry directory document).1 (documentEntry directory document).2) files

@[simp] theorem placed_cons (directory : Location) (document : String × Json)
    (documents : List (String × Json)) (files : FileTree) :
    placed directory (document :: documents) files =
      placed directory documents
        (files.place (documentEntry directory document).1 (documentEntry directory document).2) :=
  rfl

@[simp] theorem workingDirectory_placed (directory : Location) (documents : List (String × Json))
    (files : FileTree) :
    (placed directory documents files).workingDirectory = files.workingDirectory := by
  induction documents generalizing files with
  | nil => rfl
  | cons document rest ih => exact ih _

theorem documentEntry_ne_nil (directory : Location) (document : String × Json) :
    (documentEntry directory document).1 ≠ [] :=
  List.append_ne_nil_of_right_ne_nil _ (List.cons_ne_nil _ _)

theorem entry?_placed_singleton (directory : Location) (document : String × Json)
    (files : FileTree) (location : Location) :
    FileTree.entry? (placed directory [document] files) location =
      if location = (documentEntry directory document).1 then
        some (documentEntry directory document).2
      else files.entry? location :=
  FileTree.entry?_place (documentEntry_ne_nil directory document) _ files location

theorem entry?_placed {location : Location}
    (hother : ∀ document ∈ documents, location ≠ (documentEntry directory document).1) :
    FileTree.entry? (placed directory documents files) location = files.entry? location := by
  induction documents generalizing files with
  | nil => rfl
  | cons document rest ih =>
      rw [placed_cons, ih fun other hmem => hother other (List.mem_cons_of_mem _ hmem),
        FileTree.entry?_place (documentEntry_ne_nil directory document),
        if_neg (hother document (List.mem_cons_self ..))]

theorem entry?_placed_of_mem {document : String × Json}
    (hnodup : (documents.map Prod.fst).Nodup) (hmem : document ∈ documents) :
    FileTree.entry? (placed directory documents files) (documentEntry directory document).1 =
      some (documentEntry directory document).2 := by
  induction documents generalizing files with
  | nil => cases hmem
  | cons first rest ih =>
      rw [List.map_cons, List.nodup_cons] at hnodup
      rw [placed_cons]
      rcases List.mem_cons.mp hmem with rfl | hmem
      · -- the others have other names
        have hother : ∀ other ∈ rest, (documentEntry directory document).1 ≠
            (documentEntry directory other).1 := by
          intro other hother heq
          have hsame := documentName_injective (List.singleton_inj.mp (List.append_cancel_left heq))
          exact hnodup.1 (List.mem_map.mpr ⟨other, hother, hsame.symm⟩)
        rw [entry?_placed hother, FileTree.entry?_place (documentEntry_ne_nil _ _), if_pos rfl]
      · exact ih hnodup.2 hmem

/-- Placing documents that are there already changes nothing. -/
theorem entry?_placed_of_there
    (hthere : ∀ document ∈ documents, files.entry? (documentEntry directory document).1 =
      some (documentEntry directory document).2) (location : Location) :
    FileTree.entry? (placed directory documents files) location = files.entry? location := by
  induction documents generalizing files with
  | nil => rfl
  | cons first rest ih =>
      obtain ⟨hfirst, hrest⟩ := List.forall_mem_cons.mp hthere
      have hplaced : ∀ location, FileTree.entry? (files.place (documentEntry directory first).1
          (documentEntry directory first).2) location = files.entry? location := by
        intro location
        rw [FileTree.entry?_place (documentEntry_ne_nil _ _)]
        split_ifs with hsame
        · rw [hsame, hfirst]
        · rfl
      rw [placed_cons, ih fun other hmem => ?_, hplaced]
      rw [hplaced]
      exact hrest other hmem

/-- Is no directory in the way of the files of documents? -/
def Free (files : FileTree) (directory : Location) (documents : List (String × Json)) : Prop :=
  ∀ document ∈ documents, files.entry? (documentEntry directory document).1 ≠ some .directory

/-- Placing a document puts a directory nowhere. -/
theorem entry?_place_document {document : String × Json} {location : Location}
    (hentry : FileTree.entry? (files.place (documentEntry directory document).1
      (documentEntry directory document).2) location = some .directory) :
    files.entry? location = some .directory := by
  rw [FileTree.entry?_place (documentEntry_ne_nil directory document)] at hentry
  split_ifs at hentry
  · cases hentry
  · exact hentry

/-- Placing a document changes nothing that is not below its directory. -/
theorem changedBelow_place_document {document : String × Json}
    (hdirectory : files.entry? directory = some .directory)
    (hname : IsName (documentName document.1))
    (hfree : files.entry? (documentEntry directory document).1 ≠ some .directory) :
    FileTree.ChangedBelow directory files (files.place
      (documentEntry directory document).1 (documentEntry directory document).2) := by
  refine FileTree.changedBelow_place (List.prefix_append _ _)
    (documentEntry_ne_nil directory document) hfree ?_ _
  intro hformed name hmem
  rcases List.mem_append.mp hmem with hmem | hmem
  · exact hformed.isName_of_entry? hdirectory name hmem
  · rwa [List.mem_singleton.mp hmem]

theorem changedBelow_placed (hdirectory : files.entry? directory = some .directory)
    (hnames : ∀ document ∈ documents, IsName (documentName document.1))
    (hfree : Free files directory documents) :
    FileTree.ChangedBelow directory files (placed directory documents files) := by
  induction documents generalizing files with
  | nil => exact FileTree.ChangedBelow.refl _ _
  | cons document rest ih =>
      have hfirst := changedBelow_place_document hdirectory (hnames _ (List.mem_cons_self ..))
        (hfree _ (List.mem_cons_self ..))
      refine hfirst.trans (ih (hfirst.kept _ hdirectory)
        (fun other hother => hnames other (List.mem_cons_of_mem _ hother)) ?_)
      intro other hother hentry
      exact hfree other (List.mem_cons_of_mem _ hother) (entry?_place_document hentry)

theorem grows_placed (hnodup : (documents.map Prod.fst).Nodup)
    (habsent : ∀ document ∈ documents, files.entry? (documentEntry directory document).1 = none) :
    files.Grows (documents.map (documentEntry directory)) (placed directory documents files) := by
  induction documents generalizing files with
  | nil => exact FileTree.Grows.refl _
  | cons document rest ih =>
      rw [List.map_cons, List.nodup_cons] at hnodup
      have hfirst := FileTree.grows_place (habsent _ (List.mem_cons_self ..))
        (documentEntry directory document).2
      refine hfirst.trans (ih hnodup.2 ?_)
      -- the other documents have other names, so they are not there yet either
      intro other hother
      rw [← habsent other (List.mem_cons_of_mem _ hother)]
      refine hfirst.entry?_of_not_mem ?_
      intro hmem
      have hplace := List.mem_singleton.mp hmem
      have hsame := documentName_injective (List.singleton_inj.mp (List.append_cancel_left hplace))
      exact hnodup.1 (List.mem_map.mpr ⟨other, hother, hsame⟩)

/-! ## Writing -/

theorem gives_checkIds (hkeys : ∀ document ∈ documents, Key.isKey document.1 = true) :
    Gives ((documents.map fun document => Json.str document.1).forM fun id =>
      Functor.discard (Store.key "document id" id)) store () store := by
  refine gives_forM ?_
  intro id hmem
  obtain ⟨document, hdocument, rfl⟩ := List.mem_map.mp hmem
  exact (gives_key (hkeys document hdocument)).discard

theorem gives_writeDocument [Json.Room] {path : Path}
    (hdirectory : store.files.HasDirectory path directory)
    (hroom : path.text.utf8ByteSize + 1 + FileTree.nameLimit ≤ FileTree.pathLimit)
    {document : String × Json} (hname : IsFileName (documentName document.1))
    (hstores : Json.Room.stores document.2 = true)
    (hfree : store.files.entry? (documentEntry directory document).1 ≠ some .directory) :
    Gives (writeDocument path document.1 document.2) store ()
      { store with files := placed directory [document] store.files } := by
  have hfits := hname.short
  rw [writeDocument, if_pos hstores]
  refine gives_change ?_
  simp only [FileTree.writeFile, hdirectory.locate_child hname (by omega), bind, Except.bind]
  split
  · rename_i hentry
    exact absurd hentry hfree
  · rfl

theorem gives_writeDocuments [Json.Room] {path : Path}
    (hdirectory : store.files.HasDirectory path directory)
    (hroom : path.text.utf8ByteSize + 1 + FileTree.nameLimit ≤ FileTree.pathLimit)
    (hnames : ∀ document ∈ documents, IsFileName (documentName document.1))
    (hstores : ∀ document ∈ documents, Json.Room.stores document.2 = true)
    (hfree : Free store.files directory documents) :
    Gives (documents.forM fun (id, document) => writeDocument path id document) store ()
      { store with files := placed directory documents store.files } := by
  induction documents generalizing store with
  | nil => exact gives_pure _ _
  | cons document rest ih =>
      have hfirst := hfree _ (List.mem_cons_self ..)
      have hwrite := gives_writeDocument hdirectory hroom (hnames _ (List.mem_cons_self ..))
        (hstores _ (List.mem_cons_self ..)) hfirst
      have hchanged : FileTree.ChangedBelow directory store.files
          (placed directory [document] store.files) :=
        changedBelow_place_document hdirectory.entry?_eq
          (hnames _ (List.mem_cons_self ..)).toIsName hfirst
      refine hwrite.bind (@ih { store with files := placed directory [document] store.files }
        (hchanged.hasDirectory hdirectory)
        (fun other hother => hnames other (List.mem_cons_of_mem _ hother))
        (fun other hother => hstores other (List.mem_cons_of_mem _ hother)) ?_)
      intro other hother hentry
      exact hfree other (List.mem_cons_of_mem _ hother) (entry?_place_document hentry)

/-- What is added besides documents: directories that are no deeper than those of the
collections. -/
def OnlyDirectories (place : Location) (added : OrderedMap Location Entry) : Prop :=
  ∀ new ∈ added, new.2 = .directory ∧ new.1.length ≤ place.length + 2

/-- The paths to documents do not get too long. -/
theorem Ready.room_document (hready : store.Ready root place) (htenant : Key.isKey tenant = true)
    (hshort : tenant.length ≤ FileTree.nameLimit) (hcollection : IsFileName collection) :
    (collectionPath root tenant collection).text.utf8ByteSize + 1 + FileTree.nameLimit ≤
      FileTree.pathLimit := by
  have hname := Key.isFileName_of_isKey htenant hshort
  have hroom := hready.room
  have htenantShort := hname.short
  have hcollectionShort := hcollection.short
  have houter := (root.child "tenants").utf8ByteSize_child_le hname.toIsName
  have hinner := ((root.child "tenants").child tenant).utf8ByteSize_child_le hcollection.toIsName
  show (((root.child "tenants").child tenant).child collection).text.utf8ByteSize + 1 + _ ≤ _
  omega

/-- Documents are written to a vacant collection. -/
theorem gives_write [Json.Room] (hready : store.Ready root place)
    (htenant : Key.isKey tenant = true)
    (hshort : tenant.length ≤ FileTree.nameLimit) (hcollection : IsFileName collection)
    (hvacant : Vacant store.files place tenant collection) (hidentified : Identified documents)
    (hstores : ∀ document ∈ documents, Json.Room.stores document.2 = true) :
    ∃ added files,
      Gives (write (.str tenant) (.str collection) (.obj documents)) store ()
          { store with files } ∧
        store.files.Grows
          (added ++ documents.map (documentEntry (collectionPlace place tenant collection))) files ∧
        OnlyDirectories place added ∧
        files.HasDirectory (collectionPath root tenant collection)
          (collectionPlace place tenant collection) := by
  have hname := Key.isFileName_of_isKey htenant hshort
  have hroom := hready.room
  have hlimit : FileTree.nameLimit = 255 := rfl
  have htenantShort := hname.short
  have hcollectionShort := hcollection.short
  obtain ⟨added, made, hmake, hgrows, hadded, hdirectory⟩ :=
    hready.directory.makeDirectories_two hname hcollection (by omega) hvacant.tenant_free
      hvacant.collection_free
  have hmade : made.HasDirectory (collectionPath root tenant collection)
      (collectionPlace place tenant collection) := hdirectory
  have hpath := hready.room_document htenant hshort hcollection
  have habsent : ∀ document ∈ documents,
      made.entry? (documentEntry (collectionPlace place tenant collection) document).1 = none := by
    intro document hdocument
    -- only directories were made, and they are not as deep as documents
    rw [← hvacant.no_documents _ (isDocumentName_documentName document.1)]
    refine hgrows.entry?_of_not_mem ?_
    intro hmem
    obtain ⟨new, hnew, hlocation⟩ := List.mem_map.mp hmem
    have hlength := (hadded new hnew).2
    rw [hlocation, length_documentEntry] at hlength
    omega
  have hwrites := @gives_writeDocuments { store with files := made } _ documents _ _ hmade hpath
    (fun document hdocument => isFileName_documentName (hidentified.isKey document hdocument)
      (hidentified.short document hdocument)) hstores
    fun document hdocument hentry => by
      rw [habsent document hdocument] at hentry
      cases hentry
  have hgrows' := grows_placed hidentified.nodup habsent
  refine ⟨added, _, ?_, hgrows.trans hgrows', hadded, hgrows'.hasDirectory hmade⟩
  have helements : (Json.obj documents).elements? =
      some (documents.map fun document => .str document.1) := rfl
  exact (gives_elements helements).bind ((gives_checkIds hidentified.isKey).bind
    ((gives_collection hready.root_eq htenant collection).bind
      ((gives_attempt hmake).bind hwrites)))

/-! ## What a directory keeps -/

theorem OnlyDirectories.filterMap_childName? {added : OrderedMap Location Entry}
    (honly : OnlyDirectories place added) :
    (OrderedMap.keys added).filterMap
      (FileTree.childName? (collectionPlace place tenant collection)) = [] := by
  rw [List.filterMap_eq_nil_iff]
  intro location hmem
  obtain ⟨new, hnew, rfl⟩ := List.mem_map.mp hmem
  refine FileTree.childName?_of_length_le ?_
  have hlength := (honly new hnew).2
  simpa [collectionPlace] using hlength

/-- In the directory of documents, the entries for them have their names. -/
theorem filterMap_childName?_documentEntry (directory : Location)
    (documents : List (String × Json)) :
    (OrderedMap.keys (documents.map (documentEntry directory))).filterMap
        (FileTree.childName? directory) =
      documents.map fun document => documentName document.1 := by
  induction documents with
  | nil => rfl
  | cons document rest ih =>
      have hname : FileTree.childName? directory (documentEntry directory document).1 =
          some (documentName document.1) := FileTree.childName?_eq_some_iff.mpr rfl
      rw [List.map_cons, OrderedMap.keys_cons, List.filterMap_cons_some hname, ih, List.map_cons]

/-- A directory without documents keeps those that are written to it. -/
theorem keeps_of_grows {added : OrderedMap Location Entry}
    (hvacant : Vacant files place tenant collection) (honly : OnlyDirectories place added)
    (hgrows : files.Grows
      (added ++ documents.map (documentEntry (collectionPlace place tenant collection))) larger) :
    Keeps larger (collectionPlace place tenant collection) documents := by
  constructor
  · have hnames := (hgrows.names_perm (collectionPlace place tenant collection)).filter
      isDocumentName
    have hbefore : (files.names (collectionPlace place tenant collection)).filter isDocumentName =
        [] := by
      rw [List.filter_eq_nil_iff]
      intro name hmem hdocument
      exact FileTree.mem_names_iff.mp hmem (hvacant.no_documents name hdocument)
    have hall : (documents.map fun document => documentName document.1).filter isDocumentName =
        documents.map fun document => documentName document.1 := by
      rw [List.filter_eq_self]
      intro name hmem
      obtain ⟨document, hdocument, rfl⟩ := List.mem_map.mp hmem
      exact isDocumentName_documentName _
    rwa [OrderedMap.keys, List.map_append, List.filterMap_append, List.filter_append,
      List.filter_append, hbefore, ← OrderedMap.keys, ← OrderedMap.keys,
      honly.filterMap_childName?, filterMap_childName?_documentEntry, hall, List.filter_nil,
      List.nil_append, List.nil_append] at hnames
  · intro document hdocument
    exact hgrows.entry?_of_mem (List.mem_append_right _ (List.mem_map_of_mem hdocument))

theorem Keeps.grows {added : OrderedMap Location Entry} (hkeeps : Keeps files directory documents)
    (hgrows : files.Grows added larger)
    (helsewhere : (OrderedMap.keys added).filterMap (FileTree.childName? directory) = []) :
    Keeps larger directory documents := by
  constructor
  · have hnames := (hgrows.names_perm directory).filter isDocumentName
    rw [helsewhere, List.append_nil] at hnames
    exact hnames.trans hkeeps.names_perm
  · intro document hdocument
    exact hgrows.entry?_of_some (hkeeps.entry?_eq document hdocument)

theorem collectionPlace_injective {other : String}
    (heq : collectionPlace place tenant collection = collectionPlace place tenant other) :
    collection = other :=
  List.singleton_inj.mp (List.append_cancel_left heq)

theorem Vacant.grows {other : String} {added : OrderedMap Location Entry}
    (hvacant : Vacant files place tenant other) (honly : OnlyDirectories place added)
    (hgrows : files.Grows
      (added ++ documents.map (documentEntry (collectionPlace place tenant collection))) larger)
    (hne : collection ≠ other) : Vacant larger place tenant other := by
  -- what is new, and no deeper than the collections, is a directory
  have hfree : ∀ {location entry}, location.length ≤ place.length + 2 →
      larger.entry? location = some entry →
        files.entry? location = some entry ∨ entry = .directory := by
    intro location entry hlength hentry
    rcases hgrows.entry?_cases hentry with hold | hnew
    · exact Or.inl hold
    · rcases List.mem_append.mp hnew with hdirectory | hdocument
      · exact Or.inr (honly _ hdirectory).1
      · obtain ⟨document, -, heq⟩ := List.mem_map.mp hdocument
        have hlong := length_documentEntry place tenant collection document
        rw [heq] at hlong
        simp only at hlong
        omega
  refine ⟨?_, ?_, ?_⟩
  · intro entry hentry
    rcases hfree (by simp) hentry with hold | hdirectory
    · exact hvacant.tenant_free entry hold
    · exact hdirectory
  · intro entry hentry
    rcases hfree (by simp [collectionPlace]) hentry with hold | hdirectory
    · exact hvacant.collection_free entry hold
    · exact hdirectory
  · intro name hname
    cases hentry : larger.entry? (collectionPlace place tenant other ++ [name]) with
    | none => rfl
    | some entry =>
        exfalso
        -- an entry that deep is a new document, and those are in the other collection
        rcases hgrows.entry?_cases hentry with hold | hnew
        · rw [hvacant.no_documents name hname] at hold
          cases hold
        · rcases List.mem_append.mp hnew with hdirectory | hdocument
          · have hlength := (honly _ hdirectory).2
            simp [collectionPlace] at hlength
          · obtain ⟨document, -, heq⟩ := List.mem_map.mp hdocument
            have hplaces := congrArg (fun new => List.dropLast new.1) heq
            simp only [documentEntry, List.dropLast_concat] at hplaces
            exact hne (collectionPlace_injective hplaces)

/-! ## Reading -/

/-- The documents in the order of the names of their files. -/
def byName (documents : List (String × Json)) : List (String × Json) :=
  documents.mergeSort fun first second => documentName first.1 ≤ documentName second.1

theorem byName_perm (documents : List (String × Json)) : (byName documents).Perm documents :=
  List.mergeSort_perm _ _

/-- Documents that are made of other things come in an order of those things. -/
theorem byName_map {α : Type} (document : α → String × Json) (items : List α) :
    ∃ ordered : List α, ordered.Perm items ∧
      byName (items.map document) = ordered.map document := by
  refine ⟨items.mergeSort fun first second =>
    documentName (document first).1 ≤ documentName (document second).1,
    List.mergeSort_perm _ _, ?_⟩
  rw [byName, List.map_mergeSort]
  intro first _ second _
  rfl

/-- The names of the documents in a directory, in their order. -/
theorem Keeps.filter_names (hkeeps : Keeps files directory documents) :
    (files.names directory).filter isDocumentName =
      (byName documents).map fun document => documentName document.1 := by
  have hsorted : ((files.names directory).filter isDocumentName).Pairwise
      fun first second => first ≤ second := (pairwise_sorted_by id _).filter _
  have hbyName : ((byName documents).map fun document => documentName document.1).Pairwise
      fun first second => first ≤ second := by
    rw [List.pairwise_map]
    exact pairwise_sorted_by (fun document => documentName document.1) documents
  have hperm := hkeeps.names_perm.trans ((byName_perm documents).map _).symm
  -- both are sorted, and they are the same names
  refine hperm.eq_of_pairwise ?_ hsorted hbyName
  intro first second _ _ hle hge
  exact String.le_antisymm hle hge

/-- What is read where a document has been written: the document, if there is room for it. -/
def reread [Json.Room] (source : Json.Place) (document : Json) : Except StoreFault Json :=
  match Json.excess? (Json.Room.depth source) document with
  | none => .ok document
  | some container => .error (.unreadable (.text (.tooDeep container)))

theorem reread_of_nesting_le [Json.Room] {source : Json.Place} {document : Json}
    (hshallow : document.nesting ≤ Json.Room.depth source) :
    reread source document = .ok document := by
  rw [reread, Json.excess?_eq_none_iff.mpr hshallow]

theorem mapM_reread_of_nesting_le [Json.Room] {source : Json.Place} {values : List Json}
    (hshallow : ∀ value ∈ values, value.nesting ≤ Json.Room.depth source) :
    values.mapM (reread source) = .ok values := by
  rw [mapM_of_ok fun value hmem => reread_of_nesting_le (hshallow value hmem), List.map_id']

theorem parseFile_stored [Json.Room] (source : Json.Place) {document : Json}
    (hexact : document.IsExact) :
    (Json.parseFile source (document.toText .stored).toUTF8).mapError .unreadable =
      reread source document := by
  rw [reread]
  cases hexcess : Json.excess? (Json.Room.depth source) document with
  | none =>
      rw [Json.parseFile_toText hexact (Json.excess?_eq_none_iff.mp hexcess)]
      rfl
  | some container =>
      rw [Json.parseFile_tooDeep hexact hexcess]
      rfl

theorem result_readJson_of_text [Json.Room] (source : Json.Place) {path : Path} {document : Json}
    (hread : store.files.readFile path = .ok (document.toText .stored).toUTF8)
    (hexact : document.IsExact) :
    result (readJson source path) store = (reread source document, store) := by
  rw [result_readJson, hread, ← parseFile_stored source hexact]

/-- The documents of a collection are read in the order of their names. -/
theorem result_documents [Json.Room] (hroot : store.root = some root)
    (htenant : Key.isKey tenant = true)
    (hdirectory : store.files.HasDirectory (collectionPath root tenant collection) directory)
    (hroom : (collectionPath root tenant collection).text.utf8ByteSize + 1 + FileTree.nameLimit ≤
      FileTree.pathLimit)
    (hkeeps : Keeps store.files directory documents) (hidentified : Identified documents)
    (hexact : ∀ document ∈ documents, Json.IsExact document.2) :
    result (Store.documents (.str tenant) (.str collection)) store =
      ((byName documents).mapM fun document => reread .collection document.2, store) := by
  have hread : result (((byName documents).map fun document => documentName document.1).mapM
      fun name => readJson .collection ((collectionPath root tenant collection).child name)) store =
      ((byName documents).mapM fun document => reread .collection document.2, store) := by
    refine result_mapM (fun document : String × Json => reread .collection document.2)
      fun document hmem => ?_
    have hdocument := (byName_perm documents).mem_iff.mp hmem
    have hname := isFileName_documentName (hidentified.isKey document hdocument)
      (hidentified.short document hdocument)
    have hfits := hname.short
    have hlocate := hdirectory.locate_child hname (by omega)
    exact result_readJson_of_text .collection
      (FileTree.readFile_of_entry? hlocate (hkeeps.entry?_eq document hdocument))
      (hexact document hdocument)
  have hthere := FileTree.isDirectory_of_entry? hdirectory.locate_eq hdirectory.entry?_eq
  have hnames := FileTree.list_of_entry? hdirectory.locate_eq hdirectory.entry?_eq
  rw [Store.documents, (gives_collection hroot htenant collection).result_bind,
    (gives_ask hthere).result_bind, if_pos rfl, (gives_ask hnames).result_bind,
    hkeeps.filter_names, hread]

theorem gives_documents [Json.Room] (hroot : store.root = some root)
    (htenant : Key.isKey tenant = true)
    (hdirectory : store.files.HasDirectory (collectionPath root tenant collection) directory)
    (hroom : (collectionPath root tenant collection).text.utf8ByteSize + 1 + FileTree.nameLimit ≤
      FileTree.pathLimit)
    (hkeeps : Keeps store.files directory documents) (hidentified : Identified documents)
    (hexact : ∀ document ∈ documents, Json.IsExact document.2)
    (hshallow : ∀ document ∈ documents,
      document.2.nesting ≤ Json.Room.depth .collection) :
    Gives (Store.documents (.str tenant) (.str collection)) store
      ((byName documents).map Prod.snd) store := by
  have hread : ((byName documents).mapM fun document => reread .collection document.2) =
      .ok ((byName documents).map Prod.snd) :=
    mapM_of_ok fun document hmem => reread_of_nesting_le
      (hshallow document ((byName_perm documents).mem_iff.mp hmem))
  rw [Gives, ← hread]
  exact result_documents hroot htenant hdirectory hroom hkeeps hidentified hexact

theorem gives_document?_some_iff [Json.Room] {left : Store} {tenant collection id document : Json} :
    Gives (Store.document? tenant collection id) store (some document) left ↔
      left = store ∧ ∃ path key content,
        Gives (Store.collection tenant collection) store path store ∧
        id = .str key ∧ Key.isKey key = true ∧
        store.files.readFile (path.child (documentName key)) = .ok content ∧
        Json.parseFile .document content = .ok document := by
  constructor
  · intro hgives
    obtain ⟨path, _, hpath, hnamed⟩ := hgives.of_bind
    obtain rfl := (readOnly_collection tenant collection).left_eq hpath
    obtain ⟨key, _, hkey, hlooks⟩ := hnamed.of_bind
    obtain ⟨rfl, hvalid, rfl⟩ := of_result_key hkey
    obtain ⟨there, _, hask, hreads⟩ := hlooks.of_bind
    obtain ⟨-, rfl⟩ := of_result_ask hask
    cases there with
    | false => cases hreads
    | true =>
        rw [if_pos rfl] at hreads
        obtain ⟨value, _, hjson, hpure⟩ := hreads.of_bind
        obtain rfl := (readOnly_readJson _ _).left_eq hjson
        cases hpure
        obtain ⟨content, hread, hparse⟩ := of_gives_readJson hjson
        exact ⟨rfl, path, key, content, hpath, rfl, hvalid, hread, hparse⟩
  · rintro ⟨rfl, path, key, content, hpath, rfl, hkey, hread, hparse⟩
    obtain ⟨place, hlocate, hentry⟩ := FileTree.entry?_of_readFile hread
    refine hpath.bind ((gives_key hkey).bind ?_)
    refine (gives_ask (FileTree.isFile_of_entry? hlocate hentry)).bind ?_
    rw [if_pos rfl]
    exact (gives_readJson hread hparse).bind (gives_pure _ _)

end Store

end VisualNovel
