import VisualNovel.Proofs.Store.Documents
import VisualNovel.Store.Import

/-!
# Importing into a store without documents

Two files are imported one after the other.  The cast is written first, and while it is, three
things have to stay as they were:

* the file with the script lines, which is read only then;
* the collection of script lines, which has to be vacant still;
* and afterwards, while the script lines are written, the documents of the cast.

All three follow from the fact that the files only grow.
-/

namespace VisualNovel

namespace Store

variable {store : Store} {root : Path} {place : Location} {tenant collection : String}
  {documents records lines : List (String × Json)}

/-- Does a collection consist of these documents? -/
structure Holds (files : FileTree) (root : Path) (place : Location) (tenant collection : String)
    (documents : List (String × Json)) : Prop where
  directory : files.HasDirectory (collectionPath root tenant collection)
    (collectionPlace place tenant collection)
  keeps : Keeps files (collectionPlace place tenant collection) documents

theorem Holds.perm {files : FileTree} {others : List (String × Json)}
    (hholds : Holds files root place tenant collection documents)
    (hperm : documents.Perm others) : Holds files root place tenant collection others :=
  ⟨hholds.directory, hholds.keeps.perm hperm⟩

/-- Does the file at a path hold these values as an array? -/
def HoldsArray [Json.Room] (files : FileTree) (path : Path) (values : List Json) : Prop :=
  ∃ content, files.readFile path = .ok content ∧
    Json.parseFile .imported content = .ok (.arr values)

/-- Things that are kept as documents are read back, in some order, as far as there is room. -/
theorem Holds.result_documents [Json.Room] {α : Type} {document : α → String × Json}
    {items : List α}
    (hholds : Holds store.files root place tenant collection (items.map document))
    (hready : store.Ready root place) (htenant : Key.isKey tenant = true)
    (hshort : tenant.length ≤ FileTree.nameLimit) (hcollection : IsFileName collection)
    (hidentified : Identified (items.map document))
    (hexact : ∀ item ∈ items, Json.IsExact (document item).2) :
    ∃ ordered : List α, ordered.Perm items ∧
      result (Store.documents (.str tenant) (.str collection)) store =
        (ordered.mapM fun item => reread .collection (document item).2, store) := by
  obtain ⟨ordered, hperm, hordered⟩ := byName_map document items
  have hread := Store.result_documents hready.root_eq htenant hholds.directory
    (hready.room_document htenant hshort hcollection) hholds.keeps hidentified
    (List.forall_mem_map.mpr hexact)
  rw [hordered, List.mapM_map] at hread
  exact ⟨ordered, hperm, hread⟩

theorem Holds.gives_documents [Json.Room] {α : Type} {document : α → String × Json} {items : List α}
    (hholds : Holds store.files root place tenant collection (items.map document))
    (hready : store.Ready root place) (htenant : Key.isKey tenant = true)
    (hshort : tenant.length ≤ FileTree.nameLimit) (hcollection : IsFileName collection)
    (hidentified : Identified (items.map document))
    (hexact : ∀ item ∈ items, Json.IsExact (document item).2)
    (hshallow : ∀ item ∈ items,
      (document item).2.nesting ≤ Json.Room.depth .collection) :
    ∃ ordered : List α, ordered.Perm items ∧
      Gives (Store.documents (.str tenant) (.str collection)) store
        (ordered.map fun item => (document item).2) store := by
  obtain ⟨ordered, hperm, hread⟩ :=
    hholds.result_documents hready htenant hshort hcollection hidentified hexact
  rw [mapM_of_ok fun item hmem => reread_of_nesting_le (hshallow item (hperm.mem_iff.mp hmem))]
    at hread
  exact ⟨ordered, hperm, hread⟩

/-! ## One file -/

/-- Values become documents under their ids, of those with one id the last one. -/
theorem gives_identified {identify : Json → Except StoreFault String}
    (hids : ∀ document ∈ documents, identify document.2 = .ok document.1) :
    Gives (identified identify (.arr (documents.map Prod.snd))) store
      (.obj (OrderedMap.ofPairs documents)) store := by
  have helements : Gives (elements (.arr (documents.map Prod.snd))) store
      (documents.map Prod.snd) store := gives_elements rfl
  refine helements.bind ((gives_mapM id ?_).bind ?_)
  · intro document hdocument
    rw [hids document hdocument]
    exact gives_pure _ _
  · rw [List.map_id]
    exact gives_pure _ _

/-- Values are kept in a vacant collection, of those with one id the last one. -/
theorem gives_keep_last [Json.Room] {identify : Json → Except StoreFault String}
    (hready : store.Ready root place) (htenant : Key.isKey tenant = true)
    (hshort : tenant.length ≤ FileTree.nameLimit) (hcollection : IsFileName collection)
    (hvacant : Vacant store.files place tenant collection)
    (hids : ∀ document ∈ documents, identify document.2 = .ok document.1)
    (hidentified : Identified (OrderedMap.ofPairs documents))
    (hstores : ∀ document ∈ documents, Json.Room.stores document.2 = true) :
    ∃ added files,
      Gives (identified identify (.arr (documents.map Prod.snd)) >>=
          write (.str tenant) (.str collection)) store () { store with files } ∧
        store.files.Grows (added ++ (OrderedMap.ofPairs documents).map
          (documentEntry (collectionPlace place tenant collection))) files ∧
        OnlyDirectories place added ∧
        Holds files root place tenant collection (OrderedMap.ofPairs documents) := by
  obtain ⟨added, files, hwrite, hgrows, hadded, hdirectory⟩ :=
    gives_write hready htenant hshort hcollection hvacant hidentified fun document hmem =>
      hstores document (OrderedMap.mem_of_mem_ofPairs hmem)
  exact ⟨added, files, (gives_identified hids).bind hwrite, hgrows, hadded, hdirectory,
    keeps_of_grows hvacant hadded hgrows⟩

theorem gives_keep [Json.Room] {identify : Json → Except StoreFault String}
    (hready : store.Ready root place) (htenant : Key.isKey tenant = true)
    (hshort : tenant.length ≤ FileTree.nameLimit) (hcollection : IsFileName collection)
    (hvacant : Vacant store.files place tenant collection)
    (hids : ∀ document ∈ documents, identify document.2 = .ok document.1)
    (hidentified : Identified documents)
    (hstores : ∀ document ∈ documents, Json.Room.stores document.2 = true) :
    ∃ added files,
      Gives (identified identify (.arr (documents.map Prod.snd)) >>=
          write (.str tenant) (.str collection)) store () { store with files } ∧
        store.files.Grows
          (added ++ documents.map (documentEntry (collectionPlace place tenant collection))) files ∧
        OnlyDirectories place added ∧ Holds files root place tenant collection documents := by
  have hmap := OrderedMap.ofPairs_of_nodup hidentified.nodup
  have hkeep := gives_keep_last hready htenant hshort hcollection hvacant hids
    (hmap.symm ▸ hidentified) hstores
  rwa [hmap] at hkeep

theorem gives_readArray [Json.Room] {path : Path} {values : List Json}
    (hholds : HoldsArray store.files path values) :
    Gives (readArray path) store (.arr values) store := by
  obtain ⟨content, hread, hparse⟩ := hholds
  exact (gives_readJson hread hparse).bind (gives_pure _ _)

/-! ## What stays while files are added -/

variable {files larger : FileTree} {added : OrderedMap Location Entry}

theorem HoldsArray.grows [Json.Room] {path : Path} {values : List Json}
    (hholds : HoldsArray files path values) (hgrows : files.Grows added larger) :
    HoldsArray larger path values := by
  obtain ⟨content, hread, hparse⟩ := hholds
  exact ⟨content, hgrows.readFile_eq hread, hparse⟩

theorem Ready.grows (hready : store.Ready root place) (hgrows : store.files.Grows added larger) :
    Ready { store with files := larger } root place :=
  ⟨hready.root_eq, hgrows.hasDirectory hready.directory, hready.room⟩

theorem Holds.grows {other : String} (hholds : Holds files root place tenant other records)
    (honly : OnlyDirectories place added)
    (hgrows : files.Grows
      (added ++ documents.map (documentEntry (collectionPlace place tenant collection))) larger)
    (hne : collection ≠ other) : Holds larger root place tenant other records := by
  refine ⟨hgrows.hasDirectory hholds.directory, hholds.keeps.grows hgrows ?_⟩
  rw [OrderedMap.keys, List.map_append, List.filterMap_append, ← OrderedMap.keys,
    ← OrderedMap.keys, honly.filterMap_childName?, List.nil_append, List.filterMap_eq_nil_iff]
  intro location hmem
  obtain ⟨new, hnew, rfl⟩ := List.mem_map.mp hmem
  obtain ⟨document, -, rfl⟩ := List.mem_map.mp hnew
  cases hname : FileTree.childName? (collectionPlace place tenant other)
      (documentEntry (collectionPlace place tenant collection) document).1 with
  | none => rfl
  | some name =>
      exfalso
      have hplaces := congrArg List.dropLast (FileTree.childName?_eq_some_iff.mp hname)
      rw [documentEntry, List.dropLast_concat, List.dropLast_concat] at hplaces
      exact hne (collectionPlace_injective hplaces)

/-! ## Both files -/

/-- Both files are imported, and the collections of the tenant hold what was in them, if there is
room to write it. -/
theorem gives_importDirectory [Json.Room] {source : Path} (hready : store.Ready root place)
    (htenant : Key.isKey tenant = true) (hshort : tenant.length ≤ FileTree.nameLimit)
    (hcast : Vacant store.files place tenant "characters")
    (hscript : Vacant store.files place tenant "scenario")
    (hrecords : HoldsArray store.files (source.child charactersFile) (records.map Prod.snd))
    (hlines : HoldsArray store.files (source.child scenarioFile) (lines.map Prod.snd))
    (hrecordIds : ∀ document ∈ records, DocumentId.ofCharacter document.2 = .ok document.1)
    (hlineIds : ∀ document ∈ lines, DocumentId.ofLine document.2 = .ok document.1)
    (hrecordsIdentified : Identified records) (hlinesIdentified : Identified lines)
    (hrecordsStored : ∀ document ∈ records, Json.Room.stores document.2 = true)
    (hlinesStored : ∀ document ∈ lines, Json.Room.stores document.2 = true) :
    ∃ files,
      Gives (importDirectory source (.str tenant)) store ⟨records.length, lines.length⟩
          { store with files } ∧
        Ready { store with files } root place ∧
        Holds files root place tenant "characters" records ∧
        Holds files root place tenant "scenario" lines := by
  obtain ⟨outer, between, hkeep, hgrows, houter, hholds⟩ := gives_keep hready htenant hshort
    isFileName_characters hcast hrecordIds hrecordsIdentified hrecordsStored
  -- writing the cast leaves the collection of script lines vacant
  have hready' := hready.grows hgrows
  have hscript' : Vacant between place tenant "scenario" :=
    hscript.grows houter hgrows (by decide)
  obtain ⟨inner, files, hkeep', hgrows', hinner, hholds'⟩ := gives_keep hready' htenant hshort
    isFileName_scenario hscript' hlineIds hlinesIdentified hlinesStored
  refine ⟨files, ?_, hready'.grows hgrows', hholds.grows hinner hgrows' (by decide), hholds'⟩
  have hcharacters : Gives (importCharacters (.str tenant) (.arr (records.map Prod.snd))) store
      (records.map Prod.snd).length { store with files := between } :=
    (gives_elements rfl).bind (hkeep.bind (gives_pure _ _))
  have hscenario : Gives (importScenario (.str tenant) (.arr (lines.map Prod.snd)))
      { store with files := between } (lines.map Prod.snd).length { store with files } :=
    (gives_elements rfl).bind (hkeep'.bind (gives_pure _ _))
  rw [List.length_map] at hcharacters hscenario
  -- the file with the script lines is read only after the cast is written
  refine (gives_key htenant).discard.bind ?_
  refine (gives_readArray hrecords).bind (hcharacters.bind ?_)
  have hread : Gives (readArray (source.child scenarioFile)) { store with files := between }
      (.arr (lines.map Prod.snd)) { store with files := between } :=
    gives_readArray (hlines.grows hgrows)
  exact hread.bind (hscenario.bind (gives_pure _ _))

/-! ## A story beside a new store -/

/-- A new store, and the two files of a story beside it. -/
def besideStory (records lines : List Json) : Store where
  files :=
    { workingDirectory := []
      entries :=
        [(["data"], .directory), (["data", "tenants"], .directory), (["story"], .directory),
         (["story", "characters.json"], .file ((Json.arr records).toText .stored).toUTF8),
         (["story", "scenario.json"], .file ((Json.arr lines).toText .stored).toUTF8)] }
  root := some (Path.ofText "data")
  clock := ⟨2024, 1, 1, 0, 0, 0, 0⟩

theorem locate_besideStory (records lines : List Json) (path : Path) (names : List String)
    (hpath : path = { absolute := false, parts := names })
    (hnull : ∀ name ∈ names, '\x00' ∉ name.toList)
    (hlong : path.text.utf8ByteSize ≤ FileTree.pathLimit) :
    (besideStory records lines).files.locate path =
      (besideStory records lines).files.walk [] names := by
  subst hpath
  exact FileTree.locate_eq_walk hnull hlong _

theorem ready_besideStory (records lines : List Json) :
    (besideStory records lines).Ready (Path.ofText "data") ["data", "tenants"] := by
  refine ⟨rfl, ⟨?_, rfl⟩, by decide +kernel⟩
  rw [locate_besideStory records lines _ ["data", "tenants"] (by decide +kernel)
    (by decide +kernel) (by decide +kernel)]
  rfl

theorem vacant_besideStory (records lines : List Json) (collection : String) :
    Vacant (besideStory records lines).files ["data", "tenants"] "shop" collection := by
  refine ⟨?_, ?_, ?_⟩
  · intro entry hentry
    cases hentry
  · intro entry hentry
    cases hentry
  · intro name hname
    rfl

theorem holdsArray_besideStory [Json.Room] (records lines : List Json)
    (hrecords : Json.itemsPlain records = true) (hlines : Json.itemsPlain lines = true)
    (hrecords' : Json.itemsNesting records < Json.Room.depth .imported)
    (hlines' : Json.itemsNesting lines < Json.Room.depth .imported) :
    HoldsArray (besideStory records lines).files ((Path.ofText "story").child charactersFile)
        records ∧
      HoldsArray (besideStory records lines).files ((Path.ofText "story").child scenarioFile)
        lines := by
  have hfirst := locate_besideStory records lines ((Path.ofText "story").child charactersFile)
    ["story", "characters.json"] (by decide +kernel) (by decide +kernel) (by decide +kernel)
  have hsecond := locate_besideStory records lines ((Path.ofText "story").child scenarioFile)
    ["story", "scenario.json"] (by decide +kernel) (by decide +kernel) (by decide +kernel)
  exact ⟨⟨_, FileTree.readFile_of_entry? hfirst rfl,
      Json.parseFile_toText (Json.itemsExact_of_itemsPlain hrecords) hrecords'⟩,
    ⟨_, FileTree.readFile_of_entry? hsecond rfl,
      Json.parseFile_toText (Json.itemsExact_of_itemsPlain hlines) hlines'⟩⟩

end Store

end VisualNovel
