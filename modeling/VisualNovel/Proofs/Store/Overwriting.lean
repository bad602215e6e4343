import VisualNovel.Proofs.Store.Accepted

/-!
# Documents that are overwritten

What is written to a collection that is in use lies over what was there: every file is that of a
document that has been written, or it is the one of before (`Overwritten`).  This is said of all
files of the tree, so no other document is changed, and none is added.

Values are kept under their ids all or not at all.  If one of them has no id, or one that is no key,
then this is found out before anything is done; otherwise they are written as documents
(`result_keep_cases`).
-/

namespace VisualNovel.Store

variable {store made left : Store} {root : Path} {place : Location} {tenant collection : String}
  {documents : List (String × Json)} {log more : List Note}

/-! ## Files over files -/

/-- The file of a note: where it is, and its bytes. -/
def noteFile (place : Location) (note : Note) : Location × ByteArray :=
  (collectionPlace place note.1.1 note.1.2.1 ++ [documentName note.1.2.2],
    (note.2.toText .stored).toUTF8)

/-- Are the files of a store those of the notes, and besides them those of another store? -/
def Overwritten (place : Location) (store left : Store) (log : List Note) : Prop :=
  ∀ location, left.files.file? location =
    (OrderedMap.at? location (log.map (noteFile place))).or (store.files.file? location)

theorem Overwritten.trans (hfirst : Overwritten place store made log)
    (hsecond : Overwritten place made left more) :
    Overwritten place store left (more ++ log) := by
  intro location
  rw [hsecond, hfirst, List.map_append, OrderedMap.at?_append, Option.or_assoc]

/-- Where no document has been noted there are the files of before. -/
theorem Overwritten.file?_eq (hover : Overwritten place store left log) {location : Location}
    (hother : ∀ note ∈ log, (noteFile place note).1 ≠ location) :
    left.files.file? location = store.files.file? location := by
  have hnone : OrderedMap.at? location (log.map (noteFile place)) = none := by
    rw [OrderedMap.at?_eq_none_iff]
    intro hmem
    obtain ⟨file, hfile, rfl⟩ := List.mem_map.mp hmem
    obtain ⟨note, hnote, rfl⟩ := List.mem_map.mp hfile
    exact hother note hnote rfl
  rw [hover, hnone, Option.none_or]

theorem map_noteFile (place : Location) (tenant collection : String)
    (documents : List (String × Json)) :
    (notes tenant collection documents).map (noteFile place) = documents.map fun document =>
      ((documentEntry (collectionPlace place tenant collection) document).1,
        (document.2.toText .stored).toUTF8) := by
  rw [notes, List.map_map]
  rfl

/-- Documents with different ids lie over what was in their directory. -/
theorem file?_placed (hnodup : (documents.map Prod.fst).Nodup) (files : FileTree)
    (location : Location) :
    FileTree.file? (placed (collectionPlace place tenant collection) documents files) location =
      (OrderedMap.at? location ((notes tenant collection documents).map (noteFile place))).or
        (files.file? location) := by
  have hkeys : OrderedMap.keys ((notes tenant collection documents).map (noteFile place)) =
      (documents.map Prod.fst).map fun id =>
        collectionPlace place tenant collection ++ [documentName id] := by
    rw [map_noteFile, OrderedMap.keys, List.map_map, List.map_map]
    rfl
  by_cases hmem : location ∈ OrderedMap.keys ((notes tenant collection documents).map
    (noteFile place))
  · have hdistinct : (OrderedMap.keys ((notes tenant collection documents).map
        (noteFile place))).Nodup := by
      rw [hkeys]
      exact hnodup.map fun first second heq =>
        documentName_injective (List.singleton_inj.mp (List.append_cancel_left heq))
    obtain ⟨⟨_, content⟩, hfile, rfl⟩ := List.mem_map.mp hmem
    rw [OrderedMap.at?_of_mem hdistinct hfile, Option.some_or, FileTree.file?_eq_some_iff]
    rw [map_noteFile] at hfile
    obtain ⟨document, hdocument, ⟨⟩⟩ := List.mem_map.mp hfile
    exact entry?_placed_of_mem hnodup hdocument
  · rw [OrderedMap.at?_eq_none_iff.mpr hmem, Option.none_or]
    refine FileTree.file?_congr (entry?_placed fun document hdocument heq => hmem ?_)
    rw [map_noteFile, heq]
    exact List.mem_map_of_mem (List.mem_map_of_mem hdocument)

/-! ## Documents that have been written -/

/-- What has been written lies over what was there, and no directory is lost. -/
theorem Initialised.overwritten_of_gives_write [Json.Room] (hstore : store.Initialised root place)
    (hcollection : IsName collection) (hnodup : (documents.map Prod.fst).Nodup)
    (hgives : Gives (write (.str tenant) (.str collection) (.obj documents)) store () left) :
    left.Initialised root place ∧ FileTree.ChangedBelow place store.files left.files ∧
      Overwritten place store left (notes tenant collection documents) := by
  obtain ⟨made, -, hkeys, hopens, hdirectory, hfree, rfl⟩ :=
    hstore.of_gives_write hcollection hgives
  have hmade := hopens.changedBelow fun _ hway => hway.below
  have hplaced := (changedBelow_placed hdirectory.entry?_eq
    (fun document hmem => isName_documentName (hkeys document hmem)) hfree).mono
      (show place <+: collectionPlace place tenant collection from
        ⟨[tenant, collection], (collectionPlace_eq ..).symm⟩)
  have hchanged := hmade.trans hplaced
  refine ⟨hstore.changed hchanged, hchanged, fun location => ?_⟩
  rw [← hopens.file?_eq location]
  exact file?_placed hnodup _ location

/-! ## Values under keys -/

/-- Does the value have an id, and is it a key? -/
def HasKey (identify : Json → Except StoreFault String) (value : Json) : Prop :=
  ∃ id, identify value = .ok id ∧ Key.isKey id = true

variable {identify : Json → Except StoreFault String} {values : List Json}

theorem exists_identifies (hkeys : ∀ value ∈ values, HasKey identify value) :
    ∃ documents, Identifies identify values documents ∧
      ∀ document ∈ documents, Key.isKey document.1 = true := by
  induction values with
  | nil => exact ⟨[], ⟨rfl, List.forall_mem_nil _⟩, List.forall_mem_nil _⟩
  | cons value rest ih =>
      obtain ⟨⟨id, hid, hkey⟩, hrest⟩ := List.forall_mem_cons.mp hkeys
      obtain ⟨documents, hidentifies, hothers⟩ := ih hrest
      exact ⟨(id, value) :: documents,
        ⟨congrArg _ hidentifies.values_eq, List.forall_mem_cons.mpr ⟨hid, hidentifies.ids⟩⟩,
        List.forall_mem_cons.mpr ⟨hkey, hothers⟩⟩

/-- If what is left of documents with the same ids has keys, then so has each of the values. -/
theorem Identifies.hasKey (hidentifies : Identifies identify values documents)
    (hkeys : ∀ document ∈ OrderedMap.ofPairs documents, Key.isKey document.1 = true) :
    ∀ value ∈ values, HasKey identify value := by
  intro value hmem
  rw [← hidentifies.values_eq] at hmem
  obtain ⟨document, hdocument, rfl⟩ := List.mem_map.mp hmem
  refine ⟨document.1, hidentifies.ids document hdocument, ?_⟩
  have hkept : document.1 ∈ OrderedMap.keys (OrderedMap.ofPairs documents) :=
    OrderedMap.mem_keys_ofPairs.mpr (List.mem_map_of_mem hdocument)
  obtain ⟨other, hother, hsame⟩ := List.mem_map.mp hkept
  exact hsame ▸ hkeys other hother

/-- If a value has no id, or one that is no key, then nothing is done; otherwise the values are
written as documents, of those with one id the last one. -/
theorem result_keep_cases [Json.Room] (identify : Json → Except StoreFault String)
    (tenant collection : Json) (values : List Json) (store : Store) :
    ((¬ ∀ value ∈ values, HasKey identify value) ∧
        ∃ fault, result (identified identify (.arr values) >>= write tenant collection) store =
          (.error fault, store)) ∨
      ∃ documents, Identifies identify values documents ∧
        (∀ document ∈ documents, Key.isKey document.1 = true) ∧
        result (identified identify (.arr values) >>= write tenant collection) store =
          result (write tenant collection (.obj (OrderedMap.ofPairs documents))) store := by
  by_cases hkeys : ∀ value ∈ values, HasKey identify value
  · obtain ⟨documents, hidentifies, hdocuments⟩ := exists_identifies hkeys
    refine Or.inr ⟨documents, hidentifies, hdocuments, ?_⟩
    rw [← hidentifies.values_eq]
    exact (gives_identified hidentifies.ids).result_bind _
  · refine Or.inl ⟨hkeys, ?_⟩
    rcases result_identified_cases identify (.arr values) store with hgiven | ⟨fault, -, hgiven⟩
    · obtain ⟨-, documents, hidentifies, hkept⟩ := of_gives_identified hgiven
      rw [Gives.result_bind hgiven, hkept]
      rcases result_write_cases tenant collection (.obj (OrderedMap.ofPairs documents)) store with
        ⟨fault, -, hrefused, -⟩ | ⟨path, -, hdocuments, -⟩
      · exact ⟨fault, hrefused⟩
      · exact absurd (hidentifies.hasKey (hdocuments _ rfl)) hkeys
    · rw [result_bind, hgiven]
      exact ⟨fault, rfl⟩

/-- Values that have been kept lie over what was there, and no directory is lost. -/
theorem Initialised.overwritten_of_gives_keep [Json.Room] (hstore : store.Initialised root place)
    (hcollection : IsName collection)
    (hgives : Gives (identified identify (.arr values) >>= write (.str tenant) (.str collection))
      store () left) :
    ∃ documents, Identifies identify values documents ∧ left.Initialised root place ∧
      FileTree.ChangedBelow place store.files left.files ∧
      Overwritten place store left (notes tenant collection (OrderedMap.ofPairs documents)) := by
  rcases result_keep_cases identify (.str tenant) (.str collection) values store with
    ⟨-, fault, hrefused⟩ | ⟨documents, hidentifies, -, hwrites⟩
  · cases hgives.symm.trans hrefused
  · exact ⟨documents, hidentifies, hstore.overwritten_of_gives_write hcollection
      (OrderedMap.nodup_keys_ofPairs documents) (hwrites.symm.trans hgives)⟩

/-- Values with keys can be kept, unless there is something wrong with the files or there is no room
to write one of the values. -/
theorem fault_of_keep [Json.Room] {tenant collection : Json} {path : Path} {fault : StoreFault}
    (hpath : Gives (Store.collection tenant collection) store path store)
    (hkeys : ∀ value ∈ values, HasKey identify value)
    (hfails : result (identified identify (.arr values) >>= write tenant collection) store =
      (.error fault, left)) :
    (∃ reason, fault = .file reason) ∨
      fault = .tooDeep ∧ ∃ value ∈ values, Json.Room.stores value = false := by
  rcases result_keep_cases identify tenant collection values store with
    ⟨hbad, -⟩ | ⟨documents, hidentifies, hdocuments, hwrites⟩
  · exact absurd hkeys hbad
  · rw [hwrites, result_write_of_keys hpath fun document hmem =>
      hdocuments document (OrderedMap.mem_of_mem_ofPairs hmem)] at hfails
    unfold writeAt at hfails
    rw [result_bind, result_attempt] at hfails
    rcases hmake : store.files.makeDirectories path with ⟨made, _ | reason⟩ <;>
      rw [hmake] at hfails
    · refine (fault_of_writeDocuments hfails).imp_right ?_
      rintro ⟨hfault, document, hmem, hnot⟩
      refine ⟨hfault, document.2, ?_, hnot⟩
      rw [← hidentifies.values_eq]
      exact List.mem_map_of_mem (OrderedMap.mem_of_mem_ofPairs hmem)
    · cases hfails
      exact Or.inl ⟨reason, rfl⟩

end VisualNovel.Store
