import VisualNovel.Proofs.Store.Confined

/-!
# What becomes of documents that are written

Writing documents checks the ids and makes the directory of the collection, and then places one
file for each document.  `Writing` says what can become of it: it is refused before anything is
done; directories are made, and then it fails; it fails between two documents, because a file
cannot be written or there is no room to write a document; or all documents are there afterwards.
-/

namespace VisualNovel

namespace Store

variable [Json.Room] {root : Path} {place directory : Location} {tenant collection : String}
  {store left : Store} {documents : List (String × Json)} {path : Path}

/-! ## Placing documents -/

/-- What can become of documents that are to be placed: all of them are, or only those before one
that cannot be written. -/
inductive Placing (store : Store) (directory : Location) (documents : List (String × Json)) :
    Except StoreFault Unit × Store → Prop
  | placed (stores : ∀ document ∈ documents, Json.Room.stores document.2 = true)
      (short : ∀ document ∈ documents, document.1.length + 5 ≤ FileTree.nameLimit)
      (free : Free store.files directory documents) :
      Placing store directory documents
        (.ok (), { store with files := placed directory documents store.files })
  | stopped {before after : List (String × Json)} (split : documents = before ++ after)
      (unfinished : after ≠ []) {fault : StoreFault} (stops : fault.stopsWriting = true) :
      Placing store directory documents
        (.error fault, { store with files := placed directory before store.files })

theorem result_writeDocument_cases (hdirectory : store.files.HasDirectory path directory)
    {document : String × Json} (hkey : Key.isKey document.1 = true) :
    (Json.Room.stores document.2 = true ∧ document.1.length + 5 ≤ FileTree.nameLimit ∧
        store.files.entry? (documentEntry directory document).1 ≠ some .directory ∧
        result (writeDocument path document.1 document.2) store =
          (.ok (), { store with files := placed directory [document] store.files })) ∨
      ∃ fault, fault.stopsWriting = true ∧
        result (writeDocument path document.1 document.2) store = (.error fault, store) := by
  have hname := isName_documentName hkey
  rw [writeDocument]
  split
  swap
  · exact Or.inr ⟨.tooDeep, rfl, rfl⟩
  · rename_i hstores
    rw [result_change]
    cases hwrite : store.files.writeFile (path.child (documentName document.1))
        (document.2.toText .stored).toUTF8 with
    | error fault => exact Or.inr ⟨.file fault, rfl, rfl⟩
    | ok files =>
        obtain ⟨location, hlocate, -, hfree, rfl⟩ := FileTree.place_of_writeFile hwrite
        rcases hdirectory.locate_child_cases hname with ⟨hshort, hdown⟩ | hdown
        · rw [hdown] at hlocate
          obtain rfl := Except.ok.inj hlocate
          rw [utf8ByteSize_documentName hkey] at hshort
          exact Or.inl ⟨hstores, hshort, hfree, rfl⟩
        · rw [hdown] at hlocate
          cases hlocate

/-- Of several documents the others are written if the first one is. -/
theorem result_writeDocuments_cons (path : Path) (document : String × Json)
    (rest : List (String × Json)) (store : Store) :
    result ((document :: rest).forM fun (id, document) => writeDocument path id document) store =
      match result (writeDocument path document.1 document.2) store with
      | (.ok _, left) =>
        result (rest.forM fun (id, document) => writeDocument path id document) left
      | (.error fault, left) => (.error fault, left) := by
  show result (writeDocument path document.1 document.2 >>= fun _ => rest.forM _) store = _
  rw [result_bind]
  rcases result (writeDocument path document.1 document.2) store with ⟨_ | _, left⟩ <;> rfl

theorem placing_writeDocuments (hdirectory : store.files.HasDirectory path directory)
    (hkeys : ∀ document ∈ documents, Key.isKey document.1 = true) :
    Placing store directory documents
      (result (documents.forM fun (id, document) => writeDocument path id document) store) := by
  induction documents generalizing store with
  | nil => exact .placed (List.forall_mem_nil _) (List.forall_mem_nil _) (List.forall_mem_nil _)
  | cons document rest ih =>
      have hkey := hkeys document (List.mem_cons_self ..)
      rw [result_writeDocuments_cons]
      rcases result_writeDocument_cases hdirectory hkey with
        ⟨hstores, hshort, hfree, hwrite⟩ | ⟨fault, hstops, hwrite⟩ <;> rw [hwrite]
      swap
      · exact .stopped (List.nil_append _).symm (List.cons_ne_nil _ _) hstops
      · have hchanged : FileTree.ChangedBelow directory store.files
            (placed directory [document] store.files) :=
          changedBelow_place_document hdirectory.entry?_eq (isName_documentName hkey) hfree
        have hthen := @ih { store with files := placed directory [document] store.files }
          (hchanged.hasDirectory hdirectory)
          fun other hmem => hkeys other (List.mem_cons_of_mem _ hmem)
        simp only
        generalize result (rest.forM _) _ = answer at hthen ⊢
        cases hthen with
        | @stopped before after hsplit hunfinished fault hstops =>
            -- the first document has been placed as well
            exact .stopped (show document :: rest = (document :: before) ++ after from
              congrArg _ hsplit) hunfinished hstops
        | placed hstores' hshort' hfree' =>
            refine .placed (List.forall_mem_cons.mpr ⟨hstores, hstores'⟩)
              (List.forall_mem_cons.mpr ⟨hshort, hshort'⟩) ?_
            · intro other hmem
              rcases List.mem_cons.mp hmem with rfl | hmem
              · exact hfree
              · exact fun hentry => hfree' other hmem (hchanged.kept _ hentry)

/-! ## Writing -/

/-- What can become of documents that are to be written: it is refused at once, or directories of
the collection are made and it fails then, or it fails while the documents are placed, or they are
placed in the directory of the collection. -/
inductive Writing (store : Store) (root : Path) (place : Location) (tenant collection : Json)
    (documents : Json) : Except StoreFault Unit × Store → Prop
  | refused {fault : StoreFault} (refusal : fault.stopsWriting = false) :
      Writing store root place tenant collection documents (.error fault, store)
  | opened {owner name : String} {made : FileTree} (owner_eq : tenant = .str owner)
      (name_eq : collection = .str name) (isKey : Key.isKey owner = true)
      (opens : FileTree.Opens (FileTree.OnTheWay place [owner, name]) store.files made)
      {fault : StoreFault}
      (reason : fault = .notDocuments ∧ (∀ fields, documents ≠ .obj fields) ∨
        (store.files.makeDirectories (tenantPath root owner [name])).2 ≠ none) :
      Writing store root place tenant collection documents
        (.error fault, { store with files := made })
  | stopped {owner name : String} {before after : List (String × Json)} {made : FileTree}
      (owner_eq : tenant = .str owner) (name_eq : collection = .str name)
      (split : documents = .obj (before ++ after)) (unfinished : after ≠ [])
      (keys : ∀ document ∈ before ++ after, Key.isKey document.1 = true)
      (isKey : Key.isKey owner = true)
      (opens : FileTree.Opens (FileTree.OnTheWay place [owner, name]) store.files made)
      {fault : StoreFault} (stops : fault.stopsWriting = true) :
      Writing store root place tenant collection documents
        (.error fault, { store with
          files := placed (collectionPlace place owner name) before made })
  | written {owner name : String} {fields : List (String × Json)} {made : FileTree}
      (owner_eq : tenant = .str owner) (name_eq : collection = .str name)
      (documents_eq : documents = .obj fields) (isKey : Key.isKey owner = true)
      (keys : ∀ document ∈ fields, Key.isKey document.1 = true)
      (stores : ∀ document ∈ fields, Json.Room.stores document.2 = true)
      (short : ∀ document ∈ fields, document.1.length + 5 ≤ FileTree.nameLimit)
      (opens : FileTree.Opens (FileTree.OnTheWay place [owner, name]) store.files made)
      (directory : made.HasDirectory (tenantPath root owner [name])
        (collectionPlace place owner name))
      (free : Free made (collectionPlace place owner name) fields) :
      Writing store root place tenant collection documents
        (.ok (), { store with
          files := placed (collectionPlace place owner name) fields made })

omit [Json.Room] in
theorem result_checkIds_cases (items : List Json) (store : Store) :
    (∃ ids : List String, items = ids.map Json.str ∧ (∀ id ∈ ids, Key.isKey id = true) ∧
        result (items.forM fun id => Functor.discard (Store.key "document id" id)) store =
          (.ok (), store)) ∨
      ∃ fault, result (items.forM fun id => Functor.discard (Store.key "document id" id)) store =
        (.error (.key fault), store) := by
  induction items with
  | nil => exact Or.inl ⟨[], rfl, List.forall_mem_nil _, rfl⟩
  | cons item rest ih =>
      show (∃ ids : List String, _ ∧ _ ∧
          result (Functor.discard (Store.key "document id" item) >>= fun _ => rest.forM _) store =
            _) ∨
        ∃ fault, result (Functor.discard (Store.key "document id" item) >>= fun _ => rest.forM _)
          store = (.error (.key fault), store)
      cases hkey : Key.ofJson "document id" item with
      | error fault =>
          refine Or.inr ⟨fault, ?_⟩
          rw [result_bind, result_discard, result_key, hkey]
          rfl
      | ok key =>
          obtain ⟨rfl, hvalid⟩ := Key.of_ofJson hkey
          have hgives : Gives (Functor.discard (Store.key "document id" (.str key))) store ()
              store := (gives_key hvalid).discard
          rw [hgives.result_bind]
          rcases ih with ⟨ids, rfl, hids, hcheck⟩ | hfails
          · refine Or.inl ⟨key :: ids, rfl, ?_, hcheck⟩
            intro id hmem
            rcases List.mem_cons.mp hmem with rfl | hmem
            · exact hvalid
            · exact hids id hmem
          · exact Or.inr hfails

omit [Json.Room] in
theorem isKey_of_checked {fields : List (String × Json)} {ids : List String}
    (hitems : (Json.obj fields).elements? = some (ids.map Json.str))
    (hids : ∀ id ∈ ids, Key.isKey id = true) :
    ∀ document ∈ fields, Key.isKey document.1 = true := by
  have hsame : fields.map (fun document => Json.str document.1) = ids.map Json.str :=
    Option.some.inj hitems
  intro document hmem
  have hid : Json.str document.1 ∈ ids.map Json.str := by
    rw [← hsame]
    exact List.mem_map_of_mem hmem
  obtain ⟨id, hid, heq⟩ := List.mem_map.mp hid
  rw [← Json.str.inj heq]
  exact hids id hid

/-- What is left to be done once the ids are checked and the path is known. -/
def writeAt (path : Path) (documents : Json) : Action Unit := do
  attempt fun files => files.makeDirectories path
  match documents with
  | .obj fields => fields.forM fun (id, document) => writeDocument path id document
  | _ => throw .notDocuments

theorem result_write_of_keys {tenant collection : Json}
    (hpath : Gives (Store.collection tenant collection) store path store)
    (hkeys : ∀ document ∈ documents, Key.isKey document.1 = true) :
    result (write tenant collection (.obj documents)) store =
      result (writeAt path (.obj documents)) store := by
  rw [write, (gives_elements rfl).result_bind, (gives_checkIds hkeys).result_bind,
    hpath.result_bind]
  rfl

/-- Writing is refused at once, because an id is no key or there is no path; or the ids are keys and
the documents are written at the path of the collection. -/
theorem result_write_cases (tenant collection documents : Json) (store : Store) :
    (∃ fault, fault.stopsWriting = false ∧
        result (write tenant collection documents) store = (.error fault, store) ∧
        ∀ path fields, Gives (Store.collection tenant collection) store path store →
          documents = .obj fields → ∃ document ∈ fields, Key.isKey document.1 = false) ∨
      ∃ path, Gives (Store.collection tenant collection) store path store ∧
        (∀ fields, documents = .obj fields → ∀ document ∈ fields, Key.isKey document.1 = true) ∧
        result (write tenant collection documents) store =
          result (writeAt path documents) store := by
  rw [write, result_bind, result_elements]
  cases hitems : documents.elements? with
  | none =>
      refine Or.inl ⟨_, rfl, rfl, fun path fields _ hfields => ?_⟩
      rw [hfields] at hitems
      cases hitems
  | some items =>
      simp only
      rw [result_bind]
      rcases result_checkIds_cases items store with ⟨ids, rfl, hids, hcheck⟩ | ⟨fault, hcheck⟩ <;>
        rw [hcheck]
      · -- the ids are keys, so the path of the collection decides
        have hkeys : ∀ fields, documents = .obj fields → ∀ document ∈ fields,
            Key.isKey document.1 = true :=
          fun fields hfields => isKey_of_checked (hfields ▸ hitems) hids
        simp only
        rcases gives_collection_or_refused tenant collection store with
          ⟨path, hpath⟩ | ⟨fault, hrefusal, hpath⟩
        · rw [hpath.result_bind]
          exact Or.inr ⟨path, hpath, hkeys, rfl⟩
        · rw [result_bind, hpath]
          refine Or.inl ⟨fault, hrefusal, rfl, fun path fields hgives _ => ?_⟩
          rw [hgives.result_eq] at hpath
          cases hpath
      · refine Or.inl ⟨_, rfl, rfl, fun path fields _ hfields => ?_⟩
        by_contra! hkeys
        have hgives := @gives_checkIds store fields fun document hmem =>
          eq_true_of_ne_false (hkeys document hmem)
        cases Option.some.inj (hfields ▸ hitems)
        rw [hgives.result_eq] at hcheck
        cases hcheck

/-- What has been written is documents under keys, at the path of the collection. -/
theorem gives_writeAt_of_write {tenant collection : Json}
    (hgives : Gives (write tenant collection (.obj documents)) store () left) :
    ∃ path, Gives (Store.collection tenant collection) store path store ∧
      (∀ document ∈ documents, Key.isKey document.1 = true) ∧
      Gives (writeAt path (.obj documents)) store () left := by
  rcases result_write_cases tenant collection (.obj documents) store with
    ⟨fault, -, hrefused, -⟩ | ⟨path, hpath, hkeys, hwrites⟩
  · cases hgives.symm.trans hrefused
  · exact ⟨path, hpath, hkeys documents rfl, hwrites.symm.trans hgives⟩

theorem writing_checked (hstore : store.Initialised root place)
    (htenant : Key.isKey tenant = true) (hcollection : IsName collection) {documents : Json}
    (hkeys : ∀ fields, documents = .obj fields → ∀ document ∈ fields,
      Key.isKey document.1 = true) :
    Writing store root place (.str tenant) (.str collection) documents
      (result (writeAt (tenantPath root tenant [collection]) documents) store) := by
  have hopened := hstore.opened_makeDirectories
    (isName_of_mem_tenantPath htenant hcollection [] (List.forall_mem_nil _))
  unfold writeAt
  rw [result_bind, result_attempt]
  rcases hmake : store.files.makeDirectories (tenantPath root tenant [collection]) with
    ⟨made, _ | fault⟩ <;> rw [hmake] at hopened
  -- directories that cannot be made leave some of those on the way behind
  swap
  · refine .opened rfl rfl htenant hopened.opens (Or.inr ?_)
    rw [hmake]
    exact Option.some_ne_none fault
  · cases documents with
    | obj fields =>
        have hdirectory : made.HasDirectory (tenantPath root tenant [collection])
            (collectionPlace place tenant collection) := by
          rw [collectionPlace_eq]
          exact hopened.hasDirectory rfl
        have hplacing := @placing_writeDocuments _ (collectionPlace place tenant collection)
          { store with files := made } fields _ hdirectory (hkeys fields rfl)
        simp only
        generalize result (fields.forM _) _ = answer at hplacing ⊢
        cases hplacing with
        | stopped hsplit hunfinished hstops =>
            exact .stopped rfl rfl (congrArg _ hsplit) hunfinished
              (hsplit ▸ hkeys fields rfl) htenant hopened.opens hstops
        | placed hstores hshort hfree =>
            exact .written rfl rfl rfl htenant (hkeys fields rfl) hstores hshort hopened.opens
              hdirectory hfree
    | _ => exact .opened rfl rfl htenant hopened.opens (Or.inl ⟨rfl, fun _ => Json.noConfusion⟩)

theorem writing_write (hstore : store.Initialised root place) (tenant collection documents : Json)
    (hcollection : ∀ name, collection = .str name → IsName name) :
    Writing store root place tenant collection documents
      (result (write tenant collection documents) store) := by
  rcases result_write_cases tenant collection documents store with
    ⟨fault, hrefusal, hresult, -⟩ | ⟨path, hpath, hkeys, hresult⟩ <;> rw [hresult]
  · exact .refused hrefusal
  · rcases result_collection_cases hstore.root_eq tenant collection with
      ⟨owner, name, rfl, rfl, howner, hgives⟩ | ⟨fault, -, hrefused⟩
    · have hname := hcollection name rfl
      cases hpath.symm.trans hgives
      rw [collectionPath_eq (Key.isName_of_isKey howner) hname]
      exact writing_checked hstore howner hname hkeys
    · rw [hpath.result_eq] at hrefused
      cases hrefused

/-- Documents that have been written are placed in the directory of their collection, which is
opened before. -/
theorem Initialised.of_gives_write {documents : List (String × Json)} {left : Store}
    (hstore : store.Initialised root place) (hcollection : IsName collection)
    (hgives : Gives (write (.str tenant) (.str collection) (.obj documents)) store () left) :
    ∃ made, Key.isKey tenant = true ∧ (∀ document ∈ documents, Key.isKey document.1 = true) ∧
      FileTree.Opens (FileTree.OnTheWay place [tenant, collection]) store.files made ∧
      made.HasDirectory (tenantPath root tenant [collection])
        (collectionPlace place tenant collection) ∧
      Free made (collectionPlace place tenant collection) documents ∧
      left = { store with
        files := placed (collectionPlace place tenant collection) documents made } := by
  have hwriting := writing_write hstore (.str tenant) (.str collection) (.obj documents)
    fun name hname => Json.str.inj hname ▸ hcollection
  rw [hgives.result_eq] at hwriting
  cases hwriting with
  | written howner hname hdocuments hkey hkeys _ _ hopens hdirectory hfree =>
      cases howner
      cases hname
      cases hdocuments
      exact ⟨_, hkey, hkeys, hopens, hdirectory, hfree, rfl⟩

omit [Json.Room] in
/-- If there is only one document, then none has been placed before the one that fails. -/
theorem eq_nil_of_split {document : String × Json} {before after : List (String × Json)}
    (hsplit : Json.obj [document] = .obj (before ++ after)) (hunfinished : after ≠ []) :
    before = [] := by
  cases before with
  | nil => rfl
  | cons first others =>
      have hrest : [] = others ++ after := (List.cons.inj (Json.obj.inj hsplit)).2
      exact absurd (List.append_eq_nil_iff.mp hrest.symm).2 hunfinished

/-! ## Saves -/

/-- The new save as a document. -/
def newSave (store : Store) (fields : OrderedMap String Json) : String × Json :=
  (store.nextCode, store.stamped fields)

/-- Making a save writes one document or fails; if it fails, directories may have been made. -/
theorem result_createSave_cases (hstore : store.Initialised root place) (tenant : String)
    (fields : OrderedMap String Json) :
    ∃ made, FileTree.Opens (FileTree.OnTheWay place [tenant, "saveData"]) store.files made ∧
      ((Json.Room.stores (store.stamped fields) = true ∧
          made.HasDirectory (tenantPath root tenant ["saveData"])
            (collectionPlace place tenant "saveData") ∧
          Free made (collectionPlace place tenant "saveData") [store.newSave fields] ∧
          result (createSave (.str tenant) (.obj fields)) store =
            (.ok store.nextCode, { store.drawn with
              files := placed (collectionPlace place tenant "saveData") [store.newSave fields]
                made })) ∨
        ∃ fault, result (createSave (.str tenant) (.obj fields)) store =
          (.error fault, { store.drawn with files := made })) := by
  have hwriting := writing_write hstore.drawn (.str tenant) saveCollection
    (.obj [store.newSave fields]) fun name hname => by
      cases hname
      exact isFileName_saveData.toIsName
  rw [result_createSave, result_bind]
  have hdocument : (store.nextCode, store.stamped fields) = store.newSave fields := rfl
  rw [hdocument]
  generalize result (write _ _ _) _ = answer at hwriting ⊢
  -- there is one document only, so a call that stops while it writes has placed none
  cases hwriting with
  | refused => exact ⟨store.files, FileTree.Opens.refl _ _, Or.inr ⟨_, rfl⟩⟩
  | opened howner hname hkey hopens =>
      cases howner
      cases hname
      exact ⟨_, hopens, Or.inr ⟨_, rfl⟩⟩
  | @stopped owner name before after made howner hname hsplit hunfinished hkeys hkey hopens =>
      cases howner
      cases hname
      obtain rfl := eq_nil_of_split hsplit hunfinished
      exact ⟨made, hopens, Or.inr ⟨_, rfl⟩⟩
  | written howner hname hdocuments hkey hkeys hstores hshort hopens hdirectory hfree =>
      cases howner
      cases hname
      cases hdocuments
      exact ⟨_, hopens, Or.inl
        ⟨hstores _ (List.mem_singleton_self _), hdirectory, hfree, rfl⟩⟩

end Store

end VisualNovel
