import VisualNovel.Proofs.Store.Written

/-!
# The files of a collection as a map

The files of a collection are a map from ids to documents (`Holding`): there is a file for an id if
and only if the map has a document under it, and the file is the text of the document.  The map of a
vacant collection is empty.

* Making directories keeps the maps of all collections.
* Placing documents puts them into the map of their collection, one after the other, and keeps the
  maps of the others.
* What is read is the map: one document under its id, or all of them in the order of the names of
  their files, as far as there is room for them.
-/

namespace VisualNovel

namespace FileTree

variable {tree : FileTree} {place : Location} {base : Path} {names rest : List String}
  {name : String}

/-- A path that goes on by names is longer by a slash and the name for each of them at most. -/
theorem utf8ByteSize_down_le (base : Path) (hnames : ∀ name ∈ names, IsFileName name) :
    (base.down names).text.utf8ByteSize ≤
      base.text.utf8ByteSize + names.length * (nameLimit + 1) := by
  induction names using List.reverseRecOn with
  | nil => simp
  | append_singleton names name ih =>
      have hname := hnames name (by simp)
      have houter := ih fun other hother => hnames other (List.mem_append_left _ hother)
      have hshort := hname.short
      rw [List.length_append, List.length_singleton]
      calc (base.down (names ++ [name])).text.utf8ByteSize
        _ = ((base.down names).child name).text.utf8ByteSize := by
            rw [Path.child_down hname.toIsName]
        _ ≤ (base.down names).text.utf8ByteSize + 1 + name.utf8ByteSize :=
            Path.utf8ByteSize_child_le hname.toIsName
        _ ≤ base.text.utf8ByteSize + names.length * (nameLimit + 1) + (nameLimit + 1) := by omega
        _ = base.text.utf8ByteSize + (names.length + 1) * (nameLimit + 1) := by
            rw [Nat.succ_mul, Nat.add_assoc]

/-- A path that is not too long leads where the names lead that it ends with. -/
theorem locate_down_of_room (hlocate : tree.locate base = .ok place)
    (hnames : ∀ name ∈ names, IsFileName name)
    (hroom : base.text.utf8ByteSize + names.length * (nameLimit + 1) ≤ pathLimit) :
    tree.locate (base.down names) = tree.walk place names := by
  have hsize := utf8ByteSize_down_le base hnames
  rw [locate_down hlocate, any_null_of_isName fun name hmem => (hnames name hmem).toIsName,
    if_neg Bool.false_ne_true, if_neg (by omega)]

theorem walk_cons_of_directory (hname : IsFileName name)
    (hentry : tree.entry? place = some .directory) :
    tree.walk place (name :: rest) = tree.walk (place ++ [name]) rest := by
  rw [walk, hentry]
  simp only [if_neg hname.not_above, if_neg (Nat.not_lt.mpr hname.short)]

theorem walk_cons_of_absent (hentry : tree.entry? place = none) :
    tree.walk place (name :: rest) = .error .notFound := by
  rw [walk, hentry]

end FileTree

namespace Store

variable {store : Store} {root : Path} {place : Location} {tenant collection other : String}
  {files made : FileTree} {documents new : OrderedMap String Json} {document : String × Json}

/-- The file with a document. -/
def fileOf (document : Json) : Entry := .file (document.toText .stored).toUTF8

/-- Can a document be kept in a file and read again, if there is room for it? -/
structure Storable (document : String × Json) : Prop where
  isKey : Key.isKey document.1 = true
  short : document.1.length + 5 ≤ FileTree.nameLimit
  plain : document.2.isPlain = true

theorem Storable.isFileName (hstorable : Storable document) :
    IsFileName (documentName document.1) :=
  isFileName_documentName hstorable.isKey hstorable.short

/-- Are the files of a collection those of the documents in a map? -/
structure Holding (files : FileTree) (place : Location) (tenant collection : String)
    (documents : OrderedMap String Json) : Prop where
  tenant_free : ∀ entry, files.entry? (place ++ [tenant]) = some entry → entry = .directory
  collection_free : ∀ entry, files.entry? (collectionPlace place tenant collection) = some entry →
    entry = .directory
  opened : documents ≠ [] → files.entry? (place ++ [tenant]) = some .directory ∧
    files.entry? (collectionPlace place tenant collection) = some .directory
  entry?_eq : ∀ id, files.entry? (collectionPlace place tenant collection ++ [documentName id]) =
    (OrderedMap.at? id documents).map fileOf
  nodup : (OrderedMap.keys documents).Nodup
  storable : ∀ document ∈ documents, Storable document

theorem Vacant.holding (hvacant : Vacant files place tenant collection) :
    Holding files place tenant collection [] :=
  ⟨hvacant.tenant_free, hvacant.collection_free, fun hne => absurd rfl hne,
    fun id => hvacant.no_documents _ (isDocumentName_documentName id), List.nodup_nil,
    List.forall_mem_nil _⟩

/-! ## Changes -/

/-- The directories of collections are no deeper than the collections. -/
theorem length_of_onTheWay {location : Location} {names : List String}
    (hway : FileTree.OnTheWay place names location) :
    location.length ≤ place.length + names.length := by
  obtain ⟨before, hbefore, -, rfl⟩ := hway
  have hlength := hbefore.length_le
  rw [List.length_append]
  omega

/-- Making directories of collections keeps the map. -/
theorem Holding.opens {owner name : String}
    (hholding : Holding files place tenant collection documents)
    (hopens : FileTree.Opens (FileTree.OnTheWay place [owner, name]) files made) :
    Holding made place tenant collection documents := by
  have hfree : ∀ {location}, (∀ entry, files.entry? location = some entry → entry = .directory) →
      ∀ entry, made.entry? location = some entry → entry = .directory := by
    intro location hbefore entry hentry
    rcases hopens.entry?_cases location with hsame | ⟨-, -, hdirectory⟩
    · exact hbefore entry (hsame ▸ hentry)
    · rw [hentry] at hdirectory
      exact Option.some.inj hdirectory
  have hkept := (hopens.changedBelow fun _ hway => hway.below).kept
  refine ⟨hfree hholding.tenant_free, hfree hholding.collection_free, ?_, ?_, hholding.nodup,
    hholding.storable⟩
  · intro hne
    exact (hholding.opened hne).imp (hkept _) (hkept _)
  · intro id
    -- no directory was made as deep as documents are
    rcases hopens.entry?_cases (collectionPlace place tenant collection ++ [documentName id]) with
      hsame | ⟨hway, -, -⟩
    · rw [hsame]
      exact hholding.entry?_eq id
    · have hlength := length_of_onTheWay hway
      simp [collectionPlace_eq] at hlength

theorem Holding.put (hholding : Holding files place tenant collection documents)
    (htenant : files.entry? (place ++ [tenant]) = some .directory)
    (hcollection : files.entry? (collectionPlace place tenant collection) = some .directory)
    (hstorable : Storable document) :
    Holding (placed (collectionPlace place tenant collection) [document] files) place tenant
      collection (OrderedMap.put document.1 document.2 documents) := by
  have houter : place ++ [tenant] ≠
      (documentEntry (collectionPlace place tenant collection) document).1 :=
    ne_documentEntry (List.mem_cons_self ..)
  have hinner : collectionPlace place tenant collection ≠
      (documentEntry (collectionPlace place tenant collection) document).1 :=
    ne_documentEntry (by simp [collectionPlace_eq])
  refine ⟨?_, ?_, ?_, ?_, OrderedMap.nodup_keys_put hholding.nodup _ _, ?_⟩
  · rw [entry?_placed_singleton, if_neg houter]
    exact hholding.tenant_free
  · rw [entry?_placed_singleton, if_neg hinner]
    exact hholding.collection_free
  · intro _
    rw [entry?_placed_singleton, entry?_placed_singleton, if_neg houter, if_neg hinner]
    exact ⟨htenant, hcollection⟩
  · intro id
    rw [entry?_placed_singleton]
    by_cases hsame : id = document.1
    · subst hsame
      rw [OrderedMap.at?_put_self]
      exact if_pos rfl
    · rw [if_neg, OrderedMap.at?_put_of_ne hsame]
      · exact hholding.entry?_eq id
      · intro heq
        exact hsame (documentName_injective (List.singleton_inj.mp (List.append_cancel_left heq)))
  · intro found hmem
    rcases OrderedMap.mem_put hmem with rfl | hold
    · exact hstorable
    · exact hholding.storable found hold

/-- The map with documents put into it one after the other. -/
def putAll (new documents : OrderedMap String Json) : OrderedMap String Json :=
  new.foldl (fun documents document => OrderedMap.put document.1 document.2 documents) documents

theorem Holding.putAll (hholding : Holding files place tenant collection documents)
    (htenant : files.entry? (place ++ [tenant]) = some .directory)
    (hcollection : files.entry? (collectionPlace place tenant collection) = some .directory)
    (hstorable : ∀ document ∈ new, Storable document)
    (hfree : Free files (collectionPlace place tenant collection) new) :
    Holding (placed (collectionPlace place tenant collection) new files) place tenant
      collection (putAll new documents) := by
  induction new generalizing files documents with
  | nil => exact hholding
  | cons document rest ih =>
      have hfirst := hstorable document (List.mem_cons_self ..)
      have hchanged := changedBelow_place_document hcollection hfirst.isFileName.toIsName
        (hfree _ (List.mem_cons_self ..))
      refine ih (hholding.put htenant hcollection hfirst) (hchanged.kept _ htenant)
        (hchanged.kept _ hcollection)
        (fun other hother => hstorable other (List.mem_cons_of_mem _ hother)) ?_
      intro other hother hentry
      exact hfree other (List.mem_cons_of_mem _ hother) (entry?_place_document hentry)

/-- Placing documents keeps the maps of other collections. -/
theorem Holding.placed_elsewhere {owner name : String}
    (hholding : Holding files place tenant collection documents)
    (hother : collectionPlace place owner name ≠ collectionPlace place tenant collection) :
    Holding (placed (collectionPlace place owner name) new files) place tenant collection
      documents := by
  have hsame : ∀ location : Location, location.length ≤ place.length + 2 →
      FileTree.entry? (placed (collectionPlace place owner name) new files) location =
        files.entry? location := by
    intro location hlength
    refine entry?_placed fun document _ heq => ?_
    rw [heq, length_documentEntry] at hlength
    omega
  have houter := hsame (place ++ [tenant]) (by simp)
  have hinner := hsame (collectionPlace place tenant collection) (by simp [collectionPlace])
  refine ⟨?_, ?_, ?_, ?_, hholding.nodup, hholding.storable⟩
  · rw [houter]
    exact hholding.tenant_free
  · rw [hinner]
    exact hholding.collection_free
  · rw [houter, hinner]
    exact hholding.opened
  · intro id
    rw [entry?_placed]
    · exact hholding.entry?_eq id
    · intro document _ heq
      have hplaces := congrArg List.dropLast heq
      rw [documentEntry, List.dropLast_concat, List.dropLast_concat] at hplaces
      exact hother hplaces.symm

/-! ## Reading -/

theorem Holding.identified (hholding : Holding files place tenant collection documents) :
    Identified documents :=
  ⟨fun document hmem => (hholding.storable document hmem).isKey,
    fun document hmem => (hholding.storable document hmem).short, hholding.nodup⟩

theorem Holding.keeps (hholding : Holding files place tenant collection documents)
    (hformed : files.WellFormed) :
    Keeps files (collectionPlace place tenant collection) documents := by
  have hfound : ∀ document ∈ documents,
      files.entry? (collectionPlace place tenant collection ++ [documentName document.1]) =
        some (fileOf document.2) := by
    intro document hmem
    rw [hholding.entry?_eq, OrderedMap.at?_of_mem hholding.nodup hmem]
    rfl
  constructor
  · -- ids are told apart by their file names, so it is enough to compare members
    have hnodup : (documents.map fun document => documentName document.1).Nodup := by
      have hnames : (documents.map fun document => documentName document.1) =
          (OrderedMap.keys documents).map documentName := by
        rw [OrderedMap.keys, List.map_map]
        rfl
      rw [hnames]
      exact hholding.nodup.map fun _ _ => documentName_injective
    rw [List.perm_ext_iff_of_nodup ((hformed.nodup_names _).filter _) hnodup]
    intro name
    rw [List.mem_filter, FileTree.mem_names_iff, List.mem_map]
    constructor
    · -- every name of a document is one for an id, and so one of the map
      rintro ⟨hentry, hdocument⟩
      obtain ⟨id, rfl⟩ := exists_documentName hdocument
      rw [hholding.entry?_eq] at hentry
      cases hvalue : OrderedMap.at? id documents with
      | none =>
          rw [hvalue] at hentry
          exact absurd rfl hentry
      | some value => exact ⟨_, OrderedMap.mem_of_at? hvalue, rfl⟩
    · rintro ⟨document, hmem, rfl⟩
      rw [hfound document hmem]
      exact ⟨Option.some_ne_none _, isDocumentName_documentName _⟩
  · intro document hmem
    exact hfound document hmem

/-- If a directory on the way to the documents is missing, there are no documents. -/
theorem Holding.eq_nil (hholding : Holding files place tenant collection documents)
    (habsent : files.entry? (place ++ [tenant]) = none ∨
      files.entry? (collectionPlace place tenant collection) = none) : documents = [] := by
  by_contra hne
  obtain ⟨houter, hinner⟩ := hholding.opened hne
  rcases habsent with hnone | hnone
  · rw [houter] at hnone
    cases hnone
  · rw [hinner] at hnone
    cases hnone

section

variable (hready : store.Ready root place)

include hready

/-- The paths of collections and of documents lead where their names lead. -/
theorem Ready.locate_tenantPath {names : List String} (hfew : names.length ≤ 2)
    (hnames : ∀ name ∈ tenant :: names, IsFileName name) :
    store.files.locate (tenantPath root tenant names) =
      store.files.walk place (tenant :: names) := by
  have hroom := hready.room
  refine FileTree.locate_down_of_room hready.directory.locate_eq hnames (Nat.le_trans ?_ hroom)
  have hlength : (tenant :: names).length ≤ 3 := Nat.succ_le_succ hfew
  exact Nat.add_le_add_left (Nat.mul_le_mul_right _ hlength) _

variable (htenant : Key.isKey tenant = true) (hshort : tenant.length ≤ FileTree.nameLimit)
  (hcollection : IsFileName collection)
  (hholding : Holding store.files place tenant collection documents)

include htenant hshort hcollection hholding

/-- The path to a collection leads to its directory, or there is nothing at all. -/
theorem Holding.look_cases :
    store.files.HasDirectory (collectionPath root tenant collection)
        (collectionPlace place tenant collection) ∨
      documents = [] ∧ store.files.look (collectionPath root tenant collection) =
          .error .notFound ∧
        ∀ name, IsFileName name →
          store.files.look ((collectionPath root tenant collection).child name) =
            .error .notFound := by
  have hname := Key.isFileName_of_isKey htenant hshort
  have hnames : ∀ other ∈ [tenant, collection], IsFileName other :=
    List.forall_mem_cons.mpr ⟨hname, List.forall_mem_singleton.mpr hcollection⟩
  rw [collectionPath_eq hname.toIsName hcollection.toIsName]
  have hlocate : store.files.locate (tenantPath root tenant [collection]) =
      store.files.walk place [tenant, collection] :=
    hready.locate_tenantPath (Nat.le_succ 1) hnames
  have hchild : ∀ name, IsFileName name →
      store.files.locate ((tenantPath root tenant [collection]).child name) =
        store.files.walk place [tenant, collection, name] := by
    intro name hlast
    rw [child_tenantPath hlast.toIsName]
    refine hready.locate_tenantPath (Nat.le_refl 2) ?_
    exact List.forall_mem_cons.mpr ⟨hname, List.forall_mem_cons.mpr
      ⟨hcollection, List.forall_mem_singleton.mpr hlast⟩⟩
  have houter : ∀ rest, store.files.walk place (tenant :: rest) =
      store.files.walk (place ++ [tenant]) rest :=
    fun rest => FileTree.walk_cons_of_directory hname hready.directory.entry?_eq
  -- the way down ends at the first directory that is missing
  cases hentry : store.files.entry? (place ++ [tenant]) with
  | none =>
      refine Or.inr ⟨hholding.eq_nil (Or.inl hentry), ?_, fun name hlast => ?_⟩
      · rw [FileTree.look, hlocate, houter, FileTree.walk_cons_of_absent hentry]
        rfl
      · rw [FileTree.look, hchild name hlast, houter, FileTree.walk_cons_of_absent hentry]
        rfl
  | some entry =>
      rw [hholding.tenant_free entry hentry] at hentry
      have hinner : ∀ rest, store.files.walk place (tenant :: collection :: rest) =
          store.files.walk (collectionPlace place tenant collection) rest :=
        fun rest => (houter _).trans (FileTree.walk_cons_of_directory hcollection hentry)
      have hplace : store.files.locate (tenantPath root tenant [collection]) =
          .ok (collectionPlace place tenant collection) := hlocate.trans (hinner [])
      cases hfound : store.files.entry? (collectionPlace place tenant collection) with
      | some entry =>
          rw [hholding.collection_free entry hfound] at hfound
          exact Or.inl ⟨hplace, hfound⟩
      | none =>
          refine Or.inr ⟨hholding.eq_nil (Or.inr hfound), ?_, fun name hlast => ?_⟩
          · simp only [FileTree.look, hplace, bind, Except.bind, hfound]
          · rw [FileTree.look, hchild name hlast, hinner, FileTree.walk_cons_of_absent hfound]
            rfl

/-- All documents are read in the order of the names of their files. -/
theorem Holding.result_documents [Json.Room] (hformed : store.files.WellFormed) :
    result (Store.documents (.str tenant) (.str collection)) store =
      ((byName documents).mapM fun document => reread .collection document.2, store) := by
  rcases hholding.look_cases hready htenant hshort hcollection with
    hdirectory | ⟨rfl, hlook, -⟩
  · exact Store.result_documents hready.root_eq htenant hdirectory
      (hready.room_document htenant hshort hcollection) (hholding.keeps hformed)
      hholding.identified
      fun document hmem => Json.isExact_of_isPlain (hholding.storable document hmem).plain
  · have hnone : store.files.isDirectory (collectionPath root tenant collection) = .ok false := by
      rw [FileTree.isDirectory, FileTree.ask, hlook]
    rw [Store.documents, (gives_collection hready.root_eq htenant collection).result_bind,
      (gives_ask hnone).result_bind, if_neg Bool.false_ne_true]
    simp only [byName, List.mergeSort_nil, List.mapM_nil]
    rfl

theorem Holding.result_document? [Json.Room] {id : String} (hkey : Key.isKey id = true)
    (hfits : id.length + 5 ≤ FileTree.nameLimit) :
    result (Store.document? (.str tenant) (.str collection) (.str id)) store =
      ((OrderedMap.at? id documents).mapM (reread .document), store) := by
  have hname := isFileName_documentName hkey hfits
  have hpath := hready.room_document htenant hshort hcollection
  have hlast := hname.short
  rw [Store.document?, (gives_collection hready.root_eq htenant collection).result_bind,
    (gives_key hkey).result_bind]
  rcases hholding.look_cases hready htenant hshort hcollection with
    hdirectory | ⟨rfl, -, hlook⟩
  · have hlocate := hdirectory.locate_child hname (by omega)
    have hentry := hholding.entry?_eq id
    cases hvalue : OrderedMap.at? id documents with
    | none =>
        rw [hvalue] at hentry
        have hnone : store.files.isFile ((collectionPath root tenant collection).child
            (documentName id)) = .ok false := by
          simp only [FileTree.isFile, FileTree.ask, FileTree.look, hlocate, bind, Except.bind,
            hentry, Option.map_none]
        rw [(gives_ask hnone).result_bind]
        rfl
    | some document =>
        rw [hvalue] at hentry
        have hstorable := hholding.storable _ (OrderedMap.mem_of_at? hvalue)
        have hread := result_readJson_of_text .document
          (FileTree.readFile_of_entry? hlocate hentry) (Json.isExact_of_isPlain hstorable.plain)
        rw [(gives_ask (FileTree.isFile_of_entry? hlocate hentry)).result_bind, if_pos rfl,
          result_bind, hread, Option.mapM_some]
        cases reread .document document <;> rfl
  · have hnone : store.files.isFile ((collectionPath root tenant collection).child
        (documentName id)) = .ok false := by
      rw [FileTree.isFile, FileTree.ask, hlook _ hname]
    rw [(gives_ask hnone).result_bind]
    rfl

theorem Holding.makeDirectories_snd :
    (store.files.makeDirectories (collectionPath root tenant collection)).2 = none := by
  have hname := Key.isFileName_of_isKey htenant hshort
  have hroom := hready.room
  have hfirst := hname.short
  have hsecond := hcollection.short
  obtain ⟨added, made, hmake, -⟩ := hready.directory.makeDirectories_two hname hcollection
    (by omega) hholding.tenant_free hholding.collection_free
  show (store.files.makeDirectories (((root.child "tenants").child tenant).child collection)).2 = _
  rw [hmake]

end

/-! ## All collections -/

/-- What the collections of all tenants hold. -/
abbrev Contents : Type := String → String → OrderedMap String Json

/-- The contents with documents put into a collection of a tenant. -/
def Contents.put (contents : Contents) (tenant collection : String)
    (new : List (String × Json)) : Contents :=
  fun owner name =>
    if owner = tenant ∧ name = collection then putAll new (contents owner name)
    else contents owner name

/-- Are the files of a store those of some contents, as far as some collections go? -/
structure Represents (store : Store) (root : Path) (place : Location) (covered : String → Prop)
    (contents : Contents) : Prop where
  ready : store.Ready root place
  wellFormed : store.files.WellFormed
  holding : ∀ tenant collection, Key.isKey tenant = true → covered collection →
    Holding store.files place tenant collection (contents tenant collection)

variable {covered : String → Prop} {contents : Contents} {left : Store}

theorem Represents.initialised (hrepresents : Represents store root place covered contents) :
    store.Initialised root place :=
  ⟨hrepresents.ready.root_eq, hrepresents.ready.directory, hrepresents.wellFormed⟩

/-- A store stays ready if only what is below its tenants changes. -/
theorem Ready.changed (hready : store.Ready root place) (hroot : left.root = store.root)
    (hchanged : FileTree.ChangedBelow place store.files left.files) : left.Ready root place :=
  ⟨hroot.trans hready.root_eq, hchanged.hasDirectory hready.directory, hready.room⟩

/-- The contents stay when directories of collections are made. -/
theorem Represents.opens {owner name : String}
    (hrepresents : Represents store root place covered contents) (hroot : left.root = store.root)
    (hopens : FileTree.Opens (FileTree.OnTheWay place [owner, name]) store.files left.files) :
    Represents left root place covered contents :=
  ⟨hrepresents.ready.changed hroot (hopens.changedBelow fun _ hway => hway.below),
    hopens.wellFormed hrepresents.wellFormed,
    fun tenant collection htenant hcovered =>
      (hrepresents.holding tenant collection htenant hcovered).opens hopens⟩

theorem collectionPlace_ne {owner name : String} (hne : ¬ (tenant = owner ∧ collection = name)) :
    collectionPlace place owner name ≠ collectionPlace place tenant collection := by
  intro heq
  rw [collectionPlace_eq, collectionPlace_eq] at heq
  have hnames := List.append_cancel_left heq
  exact hne ⟨(List.cons.inj hnames).1.symm, (List.cons.inj (List.cons.inj hnames).2).1.symm⟩

theorem Represents.placed {owner name : String} {fields : List (String × Json)}
    (hrepresents : Represents store root place covered contents) (hroot : left.root = store.root)
    (hdirectory : store.files.HasDirectory (tenantPath root owner [name])
      (collectionPlace place owner name))
    (howner : IsName owner)
    (hstorable : ∀ document ∈ fields, Storable document)
    (hfree : Free store.files (collectionPlace place owner name) fields)
    (hleft : left.files = Store.placed (collectionPlace place owner name) fields store.files) :
    Represents left root place covered (contents.put owner name fields) := by
  have hchanged : FileTree.ChangedBelow (collectionPlace place owner name) store.files
      left.files := by
    rw [hleft]
    exact changedBelow_placed hdirectory.entry?_eq
      (fun document hmem => (hstorable document hmem).isFileName.toIsName) hfree
  have htenant : store.files.entry? (place ++ [owner]) = some .directory := by
    refine FileTree.entry?_of_locate_down hrepresents.ready.directory.locate_eq ?_
      hdirectory.locate_eq
    intro other hmem
    rwa [List.mem_singleton.mp hmem]
  refine ⟨hrepresents.ready.changed hroot (hchanged.mono ?_),
    hchanged.wellFormed hrepresents.wellFormed, ?_⟩
  · rw [collectionPlace_eq]
    exact List.prefix_append _ _
  · intro tenant collection hkey hcovered
    have hholding := hrepresents.holding tenant collection hkey hcovered
    rw [hleft, Contents.put]
    split_ifs with hsame
    · obtain ⟨rfl, rfl⟩ := hsame
      exact hholding.putAll htenant hdirectory.entry?_eq hstorable hfree
    · exact hholding.placed_elsewhere (collectionPlace_ne hsame)

/-- What becomes of the contents when documents are written: they are put in, or, if it fails before
any is placed, the contents stay. -/
theorem Represents.write [Json.Room] {tenant collection documents : Json}
    (hrepresents : Represents store root place covered contents)
    (hcollection : ∀ name, collection = .str name → IsName name)
    (hplain : ∀ fields, documents = .obj fields → ∀ document ∈ fields, document.2.isPlain = true)
    {answer : Except StoreFault Unit}
    (hresult : result (Store.write tenant collection documents) store = (answer, left)) :
    (answer = .ok () → ∃ owner name fields, tenant = .str owner ∧ collection = .str name ∧
        documents = .obj fields ∧
          Represents left root place covered (contents.put owner name fields)) ∧
      ∀ fault, answer = .error fault →
        fault.stopsWriting = false ∨ (∃ document, documents = .obj [document]) →
          Represents left root place covered contents := by
  have hwriting := writing_write hrepresents.initialised tenant collection documents hcollection
  rw [hresult] at hwriting
  cases hwriting with
  | refused => exact ⟨nofun, fun _ _ _ => hrepresents⟩
  | opened _ _ _ hopens =>
      exact ⟨nofun, fun _ _ _ => hrepresents.opens rfl hopens⟩
  | @stopped owner name before after made _ _ hsplit hunfinished _ _ hopens _ hstops =>
      -- some documents are placed already, unless there is only the one that failed
      refine ⟨nofun, fun fault heq hnone => ?_⟩
      cases heq
      rcases hnone with hnot | ⟨document, rfl⟩
      · rw [hstops] at hnot
        cases hnot
      · obtain rfl := eq_nil_of_split hsplit hunfinished
        exact hrepresents.opens rfl hopens
  | @written owner name fields made howner hname hfields hkey hkeys _ hshort hopens
      hdirectory hfree =>
      refine ⟨fun _ => ⟨owner, name, fields, howner, hname, hfields, ?_⟩, nofun⟩
      have hmade : Represents { store with files := made } root place covered contents :=
        hrepresents.opens rfl hopens
      refine hmade.placed rfl hdirectory (Key.isName_of_isKey hkey) ?_ hfree rfl
      intro document hmem
      exact ⟨hkeys document hmem, hshort document hmem, hplain fields hfields document hmem⟩

/-- Documents with short names can be written to a collection if there is room for them. -/
theorem Represents.gives_write [Json.Room] {tenant collection : String}
    {fields : List (String × Json)}
    (hrepresents : Represents store root place covered contents)
    (htenant : Key.isKey tenant = true) (hshort : tenant.length ≤ FileTree.nameLimit)
    (hcollection : IsFileName collection) (hcovered : covered collection)
    (hkeys : ∀ document ∈ fields, Key.isKey document.1 = true)
    (hfits : ∀ document ∈ fields, document.1.length + 5 ≤ FileTree.nameLimit)
    (hstores : ∀ document ∈ fields, Json.Room.stores document.2 = true) :
    ∃ left, Gives (Store.write (.str tenant) (.str collection) (.obj fields)) store () left := by
  have hholding := hrepresents.holding tenant collection htenant hcovered
  have hname := Key.isFileName_of_isKey htenant hshort
  have hnames : ∀ name ∈ [tenant, collection], IsName name := by
    intro name hmem
    rcases List.mem_pair.mp hmem with rfl | rfl
    · exact hname.toIsName
    · exact hcollection.toIsName
  have hmake := hholding.makeDirectories_snd hrepresents.ready htenant hshort hcollection
  have hopened := hrepresents.initialised.opened_makeDirectories hnames
  rw [← collectionPath_eq hname.toIsName hcollection.toIsName] at hopened
  rcases hmade : store.files.makeDirectories (collectionPath root tenant collection) with
    ⟨made, fault⟩
  rw [hmade] at hmake hopened
  subst hmake
  have hdirectory : made.HasDirectory (collectionPath root tenant collection)
      (collectionPlace place tenant collection) := by
    rw [collectionPlace_eq]
    exact hopened.hasDirectory rfl
  -- the directory holds documents only, so nothing is in the way of one more
  have hfree : Free made (collectionPlace place tenant collection) fields := by
    intro document hmem hentry
    have hmadeHolding : Holding made place tenant collection (contents tenant collection) :=
      hholding.opens hopened.opens
    have hfound := hmadeHolding.entry?_eq document.1
    rw [documentEntry, hfound] at hentry
    cases hvalue : OrderedMap.at? document.1 (contents tenant collection) <;>
      rw [hvalue] at hentry <;> cases hentry
  have hwrites := @gives_writeDocuments { store with files := made }
    (collectionPlace place tenant collection) fields _ _ hdirectory
    (hrepresents.ready.room_document htenant hshort hcollection)
    (fun document hmem => isFileName_documentName (hkeys document hmem) (hfits document hmem))
    hstores hfree
  exact ⟨_, (gives_elements rfl).bind ((gives_checkIds hkeys).bind
    ((gives_collection hrepresents.ready.root_eq htenant collection).bind
      ((gives_attempt hmade).bind hwrites)))⟩

end Store

end VisualNovel
