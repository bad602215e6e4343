import VisualNovel.Proofs.Store.Halfway

/-!
# What has been done when a call succeeds

A call that keeps values has given an id to each of them, and then it has made the directory of the
collection and placed the values in it.  Here this is read off its success alone: nothing is assumed
of the tenant, of the values or of the tree of files.

* `of_gives_identified` says that every value has an id;
* `of_gives_write` says what has been written (`WrittenAt`);
* in a vacant collection, the documents that have been written are all that it holds then
  (`Vacant.holds_of_gives_write`), so of the values under each id the last one is kept, and it is
  read if there is room for it (`Vacant.result_documents_last`).
-/

namespace VisualNovel.Store

variable {store left : Store} {root : Path} {place directory : Location} {path : Path}
  {made : FileTree} {documents : List (String × Json)}

/-! ## Values under ids -/

theorem of_gives_mapM {α β : Type} {f : α → Action β} {items : List α} {values : List β}
    (told : α → β → Prop)
    (hitem : ∀ item value last, Gives (f item) store value last → last = store ∧ told item value)
    (hgives : Gives (items.mapM f) store values left) :
    left = store ∧ List.Forall₂ told items values := by
  induction items generalizing values left with
  | nil =>
      cases hgives
      exact ⟨rfl, .nil⟩
  | cons item rest ih =>
      rw [List.mapM_cons] at hgives
      obtain ⟨value, _, hfirst, hthen⟩ := hgives.of_bind
      obtain ⟨rfl, htold⟩ := hitem item value _ hfirst
      obtain ⟨others, _, hothers, hlast⟩ := hthen.of_bind
      obtain ⟨rfl, hrest⟩ := ih hothers
      cases hlast
      exact ⟨rfl, .cons htold hrest⟩

/-- Are these the values, each under its id? -/
structure Identifies (identify : Json → Except StoreFault String) (values : List Json)
    (documents : List (String × Json)) : Prop where
  values_eq : documents.map Prod.snd = values
  ids : ∀ document ∈ documents, identify document.2 = .ok document.1

variable {identify : Json → Except StoreFault String} {values : List Json}

theorem Identifies.of_forall₂
    (htold : List.Forall₂ (fun value document => identify value = .ok document.1 ∧
      document.2 = value) values documents) : Identifies identify values documents := by
  induction htold with
  | nil => exact ⟨rfl, List.forall_mem_nil _⟩
  | cons hfirst _ ih =>
      obtain ⟨hid, rfl⟩ := hfirst
      exact ⟨congrArg _ ih.values_eq, List.forall_mem_cons.mpr ⟨hid, ih.ids⟩⟩

/-- Values that have become documents have ids, and of those with one id the last one counts. -/
theorem of_gives_identified {kept : Json}
    (hgives : Gives (identified identify (.arr values)) store kept left) :
    left = store ∧ ∃ documents, Identifies identify values documents ∧
      kept = .obj (OrderedMap.ofPairs documents) := by
  rw [identified] at hgives
  obtain ⟨_, _, helements, hthen⟩ := hgives.of_bind
  cases helements
  obtain ⟨documents, _, hpairs, hlast⟩ := hthen.of_bind
  obtain ⟨rfl, htold⟩ := of_gives_mapM
    (fun value document => identify value = .ok document.1 ∧ document.2 = value)
    (fun value document last hvalue => by
      cases hid : identify value with
      | error fault =>
          rw [hid] at hvalue
          cases hvalue
      | ok id =>
          rw [hid] at hvalue
          cases hvalue
          exact ⟨rfl, rfl, rfl⟩) hpairs
  cases hlast
  exact ⟨rfl, documents, .of_forall₂ htold, rfl⟩

/-! ## Documents that have been written -/

theorem of_gives_writeAt [Json.Room] (hpath : path.absolute = false → path.parts ≠ [])
    (hgives : Gives (writeAt path (.obj documents)) store () left) :
    ∃ made directory, store.files.makeDirectories path = (made, none) ∧
      made.HasDirectory path directory ∧
      Gives (documents.forM fun (id, document) => writeDocument path id document)
        { store with files := made } () left := by
  unfold writeAt at hgives
  obtain ⟨_, _, hattempt, hplaces⟩ := hgives.of_bind
  obtain ⟨made, hmake, rfl⟩ := of_gives_attempt hattempt
  obtain ⟨directory, hdirectory⟩ :=
    FileTree.exists_hasDirectory (fun hrelative hnone => absurd hnone (hpath hrelative)) hmake
  exact ⟨made, directory, hmake, hdirectory, hplaces⟩

/-- Have documents been written at a path?  A directory has been made there, unless there was one,
and they have been placed in it. -/
structure WrittenAt [Json.Room] (store left : Store) (path : Path)
    (documents : List (String × Json)) (made : FileTree) (directory : Location) : Prop where
  makes : store.files.makeDirectories path = (made, none)
  hasDirectory : made.HasDirectory path directory
  isKey : ∀ document ∈ documents, Key.isKey document.1 = true
  stores : ∀ document ∈ documents, Json.Room.stores document.2 = true
  short : ∀ document ∈ documents, document.1.length + 5 ≤ FileTree.nameLimit
  free : Free made directory documents
  left_eq : left = { store with files := placed directory documents made }

theorem of_gives_write [Json.Room] {tenant collection : Json}
    (hgives : Gives (write tenant collection (.obj documents)) store () left) :
    ∃ path made directory, Gives (Store.collection tenant collection) store path store ∧
      WrittenAt store left path documents made directory := by
  obtain ⟨path, hpath, hkeys, hat⟩ := gives_writeAt_of_write hgives
  obtain ⟨made, directory, hmake, hdirectory, hplaces⟩ :=
    of_gives_writeAt (parts_ne_nil_of_gives_collection hpath) hat
  have hplacing := @placing_writeDocuments _ directory { store with files := made } documents _
    hdirectory hkeys
  rw [Gives.result_eq hplaces] at hplacing
  cases hplacing with
  | placed hstores hshort hfree =>
      exact ⟨path, made, directory, hpath,
        hmake, hdirectory, hkeys, hstores, hshort, hfree, rfl⟩

/-- If values have been kept under their ids then there was room to write the last one under each
of them. -/
theorem stores_of_gives_keep [Json.Room] {tenant collection : Json}
    (hids : ∀ document ∈ documents, identify document.2 = .ok document.1)
    (hgives : Gives (identified identify (.arr (documents.map Prod.snd)) >>=
      write tenant collection) store () left) :
    ∀ document ∈ OrderedMap.ofPairs documents, Json.Room.stores document.2 = true := by
  have hwrite := (@gives_identified store documents _ hids).result_bind (write tenant collection)
  obtain ⟨_, _, _, _, hwritten⟩ := of_gives_write (hwrite.symm.trans hgives)
  exact hwritten.stores

/-! ## Documents in a vacant collection -/

variable {tenant collection : String}

/-- If documents have been written for a tenant, then its name is a key that is not too long. -/
theorem Ready.of_gives_write [Json.Room] (hready : store.Ready root place)
    (hcollection : IsName collection)
    (hgives : Gives (write (.str tenant) (.str collection) (.obj documents)) store () left) :
    Key.isKey tenant = true ∧ tenant.length ≤ FileTree.nameLimit := by
  obtain ⟨path, made, directory, hpath, hwritten⟩ := Store.of_gives_write hgives
  obtain ⟨_, owner, name, hroot, howner, hname, hkey, rfl⟩ := of_gives_collection hpath
  cases hready.root_eq.symm.trans hroot
  cases howner
  cases hname
  refine ⟨hkey, ?_⟩
  -- the directory of the tenant is on the way to the one that has been made
  obtain ⟨added, hgrows, -⟩ :=
    store.files.grows_makeDirectories (collectionPath root tenant collection)
  rw [hwritten.makes] at hgrows
  have hnames : ∀ name ∈ [tenant, collection], IsName name :=
    List.forall_mem_cons.mpr ⟨Key.isName_of_isKey hkey, List.forall_mem_singleton.mpr hcollection⟩
  have hlocate := hwritten.hasDirectory.locate_eq
  rw [collectionPath, Path.child_eq_down (Key.isName_of_isKey hkey),
    Path.child_down hcollection] at hlocate
  have hshort := FileTree.short_of_locate_down (hgrows.hasDirectory hready.directory).locate_eq
    hnames hlocate tenant (List.mem_cons_self ..)
  rwa [utf8ByteSize_eq_length fun c hmem => Key.lt_of_allows (Key.allows_of_mem hkey hmem)]
    at hshort

/-- What has been written to a vacant collection is all that it holds. -/
theorem Vacant.holds_of_gives_write [Json.Room]
    (hvacant : Vacant store.files place tenant collection) (hready : store.Ready root place)
    (hcollection : IsFileName collection)
    (hnodup : (documents.map Prod.fst).Nodup)
    (hgives : Gives (write (.str tenant) (.str collection) (.obj documents)) store () left) :
    left.Ready root place ∧ Identified documents ∧
      Holds left.files root place tenant collection documents := by
  obtain ⟨htenant, hshort⟩ := hready.of_gives_write hcollection.toIsName hgives
  obtain ⟨path, made, directory, -, hwritten⟩ := Store.of_gives_write hgives
  have hidentified : Identified documents := ⟨hwritten.isKey, hwritten.short, hnodup⟩
  obtain ⟨added, files, hwrite, hgrows, hadded, hdirectory⟩ :=
    gives_write hready htenant hshort hcollection hvacant hidentified hwritten.stores
  cases hgives.symm.trans hwrite
  exact ⟨hready.grows hgrows, hidentified, hdirectory, keeps_of_grows hvacant hadded hgrows⟩

/-- Of the values under each id, the last one is kept. -/
theorem Identifies.ofPairs_perm (hidentifies : Identifies identify values documents) :
    ((OrderedMap.ofPairs documents).map Prod.snd).Perm (OrderedMap.lastBy identify values) := by
  have hkeys : OrderedMap.lastBy Prod.fst documents =
      OrderedMap.lastBy (fun document => identify document.2) documents :=
    OrderedMap.lastBy_congr fun first hfirst second hsecond => by
      rw [hidentifies.ids first hfirst, hidentifies.ids second hsecond, Except.ok.injEq]
  rw [← hidentifies.values_eq, OrderedMap.lastBy_map, ← hkeys]
  exact (OrderedMap.ofPairs_perm documents).map Prod.snd

/-- Of the values under each id that have been saved in a vacant collection, the last one is kept,
and read if there is room for it. -/
theorem Vacant.result_documents_last [Json.Room]
    (hvacant : Vacant store.files place tenant collection) (hready : store.Ready root place)
    (hcollection : IsFileName collection) (hexact : ∀ value ∈ values, Json.IsExact value)
    (hsave : Gives (identified identify (.arr values) >>= write (.str tenant) (.str collection))
      store () left) :
    ∃ kept : List Json,
      result (Store.documents (.str tenant) (.str collection)) left =
          (kept.mapM (reread .collection), left) ∧
        kept.Perm (OrderedMap.lastBy identify values) := by
  obtain ⟨_, _, hidentified, hwrite⟩ := hsave.of_bind
  obtain ⟨rfl, documents, hidentifies, rfl⟩ := of_gives_identified hidentified
  obtain ⟨htenant, hshort⟩ := hready.of_gives_write hcollection.toIsName hwrite
  obtain ⟨hready', hkept, hholds⟩ := hvacant.holds_of_gives_write hready
    hcollection (OrderedMap.nodup_keys_ofPairs documents) hwrite
  have hvalue : ∀ document ∈ OrderedMap.ofPairs documents, document.2 ∈ values := by
    intro document hmem
    rw [← hidentifies.values_eq]
    exact List.mem_map_of_mem (OrderedMap.mem_of_mem_ofPairs hmem)
  have hread := result_documents hready'.root_eq htenant hholds.directory
    (hready'.room_document htenant hshort hcollection) hholds.keeps hkept
    fun document hmem => hexact _ (hvalue document hmem)
  refine ⟨_, ?_, ((byName_perm _).map Prod.snd).trans hidentifies.ofPairs_perm⟩
  rw [hread, List.mapM_map]
  rfl

end VisualNovel.Store
