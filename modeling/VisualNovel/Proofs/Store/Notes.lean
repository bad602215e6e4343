import VisualNovel.Proofs.Store.Holding

/-!
# Notes about documents

Documents that are written are noted under their addresses, the latest note in front.  Notes are
right if the files represent what they tell (`Records`): in every collection, what is found under an
id is the last note under its address.

* A save that is made is one note more; one that cannot be made leaves the notes right.
* Elements under ids are noted one after the other, though they are written by way of a map.
* What is read is what has been noted last, as far as there is room for it.
-/

namespace VisualNovel.Store

variable {root : Path} {place : Location} {covered : String → Prop} {store left : Store}
  {tenant collection : String}

/-- Where a document is kept: its tenant, its collection and its id. -/
abbrev Address : Type := String × String × String

/-- A document under its address. -/
abbrev Note : Type := Address × Json

/-- The documents of a collection under their addresses. -/
def notes (tenant collection : String) (documents : List (String × Json)) : List Note :=
  documents.map fun document => ((tenant, collection, document.1), document.2)

/-- Do notes tell what the collections hold? -/
def Contents.Tells (contents : Contents) (log : List Note) : Prop :=
  ∀ tenant collection id, OrderedMap.at? id (contents tenant collection) =
    OrderedMap.at? (tenant, collection, id) log

theorem Contents.put_cons (contents : Contents) (tenant collection : String)
    (document : String × Json) (documents : List (String × Json)) :
    contents.put tenant collection (document :: documents) =
      (contents.put tenant collection [document]).put tenant collection documents := by
  funext owner name
  unfold Contents.put
  split_ifs <;> rfl

theorem Contents.Tells.put {contents : Contents} {log : List Note} (htells : contents.Tells log)
    (tenant collection : String) (documents : List (String × Json)) :
    (contents.put tenant collection documents).Tells
      ((notes tenant collection documents).reverse ++ log) := by
  induction documents generalizing contents log with
  | nil =>
      intro owner name id
      refine Eq.trans ?_ (htells owner name id)
      unfold Contents.put
      split_ifs <;> rfl
  | cons document rest ih =>
      have hlog : (notes tenant collection (document :: rest)).reverse ++ log =
          (notes tenant collection rest).reverse ++
            (((tenant, collection, document.1), document.2) :: log) := by
        simp [notes]
      rw [Contents.put_cons, hlog]
      refine ih fun owner name id => ?_
      rw [OrderedMap.at?_cons, ← htells]
      unfold Contents.put
      by_cases hhere : owner = tenant ∧ name = collection
      · obtain ⟨rfl, rfl⟩ := hhere
        rw [if_pos ⟨rfl, rfl⟩]
        by_cases hid : id = document.1
        · subst hid
          rw [if_pos rfl]
          exact OrderedMap.at?_put_self ..
        · rw [if_neg fun heq => hid (Prod.mk.inj (Prod.mk.inj heq).2).2.symm]
          exact OrderedMap.at?_put_of_ne hid ..
      · rw [if_neg hhere, if_neg]
        rintro ⟨rfl, rfl⟩
        exact hhere ⟨rfl, rfl⟩

/-- Of pairs with one id the last one counts, whether they are put into a map at once or by way of
a map of their own. -/
theorem at?_putAll (pairs : List (String × Json)) (documents : OrderedMap String Json)
    (id : String) : OrderedMap.at? id (putAll pairs documents) =
      (OrderedMap.at? id (OrderedMap.ofPairs pairs)).or (OrderedMap.at? id documents) := by
  induction pairs using List.reverseRecOn with
  | nil => rfl
  | append_singleton pairs pair ih =>
      have hputs : putAll (pairs ++ [pair]) documents =
          OrderedMap.put pair.1 pair.2 (putAll pairs documents) := by
        rw [putAll, List.foldl_append]
        rfl
      rw [hputs, OrderedMap.ofPairs_concat]
      -- the last pair comes last in both, and the others are those of the induction
      by_cases hid : id = pair.1
      · subst hid
        rw [OrderedMap.at?_put_self, OrderedMap.at?_put_self, Option.some_or]
      · rw [OrderedMap.at?_put_of_ne hid, OrderedMap.at?_put_of_ne hid, ih]

theorem at?_putAll_ofPairs (pairs : List (String × Json)) (documents : OrderedMap String Json)
    (id : String) : OrderedMap.at? id (putAll (OrderedMap.ofPairs pairs) documents) =
      OrderedMap.at? id (putAll pairs documents) := by
  rw [at?_putAll, at?_putAll, OrderedMap.ofPairs_of_nodup (OrderedMap.nodup_keys_ofPairs pairs)]

theorem Contents.Tells.put_ofPairs {contents : Contents} {log : List Note}
    (htells : contents.Tells log) (tenant collection : String) (pairs : List (String × Json)) :
    (contents.put tenant collection (OrderedMap.ofPairs pairs)).Tells
      ((notes tenant collection pairs).reverse ++ log) := by
  intro owner name id
  rw [← htells.put tenant collection pairs]
  unfold Contents.put
  split_ifs
  · exact at?_putAll_ofPairs ..
  · rfl

/-! ## Records -/

/-- Do the files of a store represent what notes tell, as far as some collections go? -/
def Records (store : Store) (root : Path) (place : Location) (covered : String → Prop)
    (log : List Note) : Prop :=
  ∃ contents, Represents store root place covered contents ∧ contents.Tells log

variable {log : List Note}

/-- Neither the draws nor the clock have anything to do with what is noted. -/
theorem Records.of_files_eq (hrecords : Records store root place covered log)
    (hroot : left.root = store.root) (hfiles : left.files = store.files) :
    Records left root place covered log := by
  obtain ⟨contents, hrepresents, htells⟩ := hrecords
  refine ⟨contents, ⟨hrepresents.ready.changed hroot ?_, ?_, ?_⟩, htells⟩
  · rw [hfiles]
    exact FileTree.ChangedBelow.refl _ _
  · rw [hfiles]
    exact hrepresents.wellFormed
  · rw [hfiles]
    exact hrepresents.holding

theorem Records.drawn (hrecords : Records store root place covered log) :
    Records store.drawn root place covered log :=
  hrecords.of_files_eq rfl rfl

theorem Records.atMoment (hrecords : Records store root place covered log) (moment : Moment) :
    Records { store with clock := moment } root place covered log :=
  hrecords.of_files_eq rfl rfl

theorem records_of_vacant (hready : store.Ready root place) (hformed : store.files.WellFormed)
    (hvacant : ∀ tenant collection, Key.isKey tenant = true → covered collection →
      Vacant store.files place tenant collection) : Records store root place covered [] :=
  ⟨fun _ _ => [], ⟨hready, hformed,
    fun tenant collection htenant hcovered => (hvacant tenant collection htenant hcovered).holding⟩,
    fun _ _ _ => rfl⟩

theorem records_newWith :
    Records (newWith []) (Path.ofText "data") ["data", "tenants"] covered [] :=
  records_of_vacant (ready_newWith [])
    (initialised_newWith (by decide) (List.forall_mem_nil _)).wellFormed
    fun tenant collection _ _ => vacant_newWith tenant collection

/-- A save is noted under its code.  If it cannot be made, then nothing has been written, whatever
the reason. -/
theorem Records.createSave [Json.Room] {fields : OrderedMap String Json}
    {answer : Except StoreFault String}
    {tenant : Json} (hrecords : Records store root place covered log)
    (hplain : (Json.obj fields).isPlain = true)
    (hresult : result (Store.createSave tenant (.obj fields)) store = (answer, left)) :
    (∀ code, answer = .ok code → ∃ owner, tenant = .str owner ∧ code = store.nextCode ∧
        Records left root place covered
          (((owner, "saveData", code), store.stamped fields) :: log)) ∧
      ∀ fault, answer = .error fault → Records left root place covered log := by
  obtain ⟨contents, hrepresents, htells⟩ := hrecords.drawn
  have hname : ∀ name, saveCollection = .str name → IsName name := by
    rintro _ ⟨⟩
    exact isFileName_saveData.toIsName
  have hstamped : (store.stamped fields).isPlain = true :=
    Json.isPlain_put hplain (by decide +kernel)
      (Text.isJoined_of_isEncodable (isEncodable_moment _))
  have hdocuments : ∀ documents,
      Json.obj [(store.nextCode, store.stamped fields)] = .obj documents →
        ∀ document ∈ documents, document.2.isPlain = true := by
    rintro _ ⟨⟩ document hmem
    rwa [List.mem_singleton.mp hmem]
  rw [result_createSave, result_bind] at hresult
  rcases hwrite : result (Store.write tenant saveCollection
    (.obj [(store.nextCode, store.stamped fields)])) store.drawn with ⟨fault | _, last⟩ <;>
    rw [hwrite] at hresult <;> cases hresult
  · refine ⟨nofun, fun _ _ => ⟨contents, ?_, htells⟩⟩
    exact (hrepresents.write hname hdocuments hwrite).2 fault rfl (Or.inr ⟨_, rfl⟩)
  · refine ⟨fun code hcode => ?_, nofun⟩
    obtain rfl : store.nextCode = code := Except.ok.inj hcode
    obtain ⟨owner, _, _, howner, ⟨⟩, ⟨⟩, hleft⟩ :=
      (hrepresents.write hname hdocuments hwrite).1 rfl
    exact ⟨owner, howner, rfl, _, hleft, htells.put owner "saveData" _⟩

/-! ## Elements under ids -/

/-- A value under its id, if it has one. -/
def withId? (identify : Json → Except StoreFault String) (record : Json) : Option (String × Json) :=
  (identify record).toOption.map fun id => (id, record)

/-- The elements of a value that have ids, under them. -/
def paired (identify : Json → Except StoreFault String) (records : Json) : List (String × Json) :=
  (records.elements?.getD []).filterMap (withId? identify)

/-- What is done with the elements that have ids, unless one has none. -/
theorem result_mapM_cases {β : Type} {identify : Json → Except StoreFault String}
    {f : Json → Action (String × Json)}
    (hf : ∀ item, result (f item) store = ((identify item).map fun id => (id, item), store))
    (items : List Json) (next : List (String × Json) → Action β) :
    result (items.mapM f >>= next) store =
        result (next (items.filterMap (withId? identify))) store ∨
      ∃ item fault, identify item = .error fault ∧
        result (items.mapM f >>= next) store = (.error fault, store) := by
  induction items generalizing next with
  | nil => exact Or.inl rfl
  | cons item rest ih =>
      have hitem := hf item
      rw [List.mapM_cons, bind_assoc, result_bind]
      cases hid : identify item with
      | error fault =>
          rw [hid] at hitem
          rw [hitem]
          exact Or.inr ⟨item, fault, hid, rfl⟩
      | ok id =>
          have hpair : withId? identify item = some (id, item) := by
            rw [withId?, hid]
            rfl
          rw [hid] at hitem
          rw [hitem, List.filterMap_cons_some hpair]
          simpa only [Except.map, bind_assoc, pure_bind] using
            ih fun others => next ((id, item) :: others)

/-- Elements are written under their ids, the last one under each of them, unless one has none. -/
theorem result_identified_cases (identify : Json → Except StoreFault String) (records : Json)
    (store : Store) :
    result (identified identify records) store =
        (.ok (.obj (OrderedMap.ofPairs (paired identify records))), store) ∨
      ∃ fault, (fault = .notIterable ∨ ∃ item, identify item = .error fault) ∧
        result (identified identify records) store = (.error fault, store) := by
  rw [identified, result_bind, result_elements, paired]
  cases records.elements? with
  | none => exact Or.inr ⟨.notIterable, Or.inl rfl, rfl⟩
  | some items =>
      refine (result_mapM_cases (fun item => by cases identify item <;> rfl) items _).imp_right ?_
      rintro ⟨item, fault, hid, hresult⟩
      exact ⟨fault, Or.inr ⟨item, hid⟩, hresult⟩

/-! ## Documents that fit -/

/-- Is the name of a file short enough, and is there room to write the document? -/
def Fits [Json.Room] (document : String × Json) : Prop :=
  document.1.length + 5 ≤ FileTree.nameLimit ∧ Json.Room.stores document.2 = true

/-- Writing documents that fit does not stop between two of them. -/
theorem Records.stopsWriting_eq_false [Json.Room] {tenant collection documents : Json}
    {fault : StoreFault}
    (hrecords : Records store root place covered log)
    (htenant : ∀ owner, tenant = .str owner → owner.length ≤ FileTree.nameLimit)
    (hcollection : ∀ name, collection = .str name → IsFileName name ∧ covered name)
    (hfits : ∀ fields, documents = .obj fields → ∀ document ∈ fields, Fits document)
    (hresult : result (Store.write tenant collection documents) store = (.error fault, left)) :
    fault.stopsWriting = false := by
  obtain ⟨contents, hrepresents, -⟩ := hrecords
  have hwriting := writing_write hrepresents.initialised tenant collection documents
    fun name hname => (hcollection name hname).1.toIsName
  rw [hresult] at hwriting
  cases hwriting with
  | refused hrefusal => exact hrefusal
  | @opened owner name made howner hname hkey hopens _ hreason =>
      rcases hreason with ⟨rfl, -⟩ | hdirectories
      · rfl
      · -- the directories can always be made
        obtain ⟨hfile, hname⟩ := hcollection name hname
        refine absurd ?_ hdirectories
        rw [← collectionPath_eq (Key.isName_of_isKey hkey) hfile.toIsName]
        exact (hrepresents.holding owner name hkey hname).makeDirectories_snd hrepresents.ready
          hkey (htenant owner howner) hfile
  | @stopped owner name before after made howner hname hsplit hunfinished hkeys hkey =>
      subst howner hname hsplit
      obtain ⟨hfile, hname⟩ := hcollection name rfl
      obtain ⟨last, hgives⟩ := hrepresents.gives_write hkey (htenant owner rfl) hfile hname hkeys
        (fun document hmem => (hfits _ rfl document hmem).1)
        fun document hmem => (hfits _ rfl document hmem).2
      rw [hgives.result_eq] at hresult
      cases hresult

/-- A save can be made if there is room to write it. -/
theorem Records.gives_createSave [Json.Room] {fields : OrderedMap String Json}
    (hrecords : Records store root place covered log) (htenant : Key.isKey tenant = true)
    (hshort : tenant.length ≤ FileTree.nameLimit) (hcovered : covered "saveData")
    (hplain : (Json.obj fields).isPlain = true)
    (hstores : Json.Room.stores (store.stamped fields) = true) :
    ∃ left, Gives (Store.createSave (.str tenant) (.obj fields)) store store.nextCode left ∧
      Records left root place covered
        (((tenant, "saveData", store.nextCode), store.stamped fields) :: log) := by
  obtain ⟨contents, hrepresents, -⟩ := hrecords.drawn
  have hdocument : ∀ document ∈ [(store.nextCode, store.stamped fields)],
      Key.isKey document.1 = true ∧ Fits document := by
    intro document hmem
    rw [List.mem_singleton.mp hmem]
    refine ⟨isKey_nextCode store, ?_, hstores⟩
    rw [length_nextCode]
    decide
  obtain ⟨left, hwrite⟩ := hrepresents.gives_write htenant hshort isFileName_saveData hcovered
    (fun document hmem => (hdocument document hmem).1)
    (fun document hmem => (hdocument document hmem).2.1)
    fun document hmem => (hdocument document hmem).2.2
  have hcreate : result (Store.createSave (.str tenant) (.obj fields)) store =
      (.ok store.nextCode, left) := by
    rw [result_createSave, saveCollection, hwrite.result_bind]
    rfl
  obtain ⟨owner, howner, -, hleft⟩ := (hrecords.createSave hplain hcreate).1 _ rfl
  obtain rfl := Json.str.inj howner
  exact ⟨left, hcreate, hleft⟩

/-! ## Reading -/

theorem Records.at?_of_not_key (hrecords : Records store root place covered log)
    (htenant : Key.isKey tenant = true) (hcovered : covered collection) {id : String}
    (hnot : Key.isKey id = false) : OrderedMap.at? (tenant, collection, id) log = none := by
  obtain ⟨contents, hrepresents, htells⟩ := hrecords
  have hholding := hrepresents.holding tenant collection htenant hcovered
  rw [← htells]
  cases hfound : OrderedMap.at? id (contents tenant collection) with
  | none => rfl
  | some document =>
      have hkey := (hholding.storable _ (OrderedMap.mem_of_at? hfound)).isKey
      rw [hnot] at hkey
      cases hkey

section

variable (hrecords : Records store root place covered log) (htenant : Key.isKey tenant = true)
  (hshort : tenant.length ≤ FileTree.nameLimit) (hcollection : IsFileName collection)
  (hcovered : covered collection)

include hrecords htenant hshort hcollection hcovered

/-- What is read under an id is what has been noted last. -/
theorem Records.result_document? [Json.Room] {id : String} (hkey : Key.isKey id = true)
    (hfits : id.length + 5 ≤ FileTree.nameLimit) :
    result (Store.document? (.str tenant) (.str collection) (.str id)) store =
      ((OrderedMap.at? (tenant, collection, id) log).mapM (reread .document), store) := by
  obtain ⟨contents, hrepresents, htells⟩ := hrecords
  rw [← htells]
  exact (hrepresents.holding tenant collection htenant hcovered).result_document?
    hrepresents.ready htenant hshort hcollection hkey hfits

/-- All documents that are read are the last notes, in the order of the names of their files. -/
theorem Records.result_documents [Json.Room] :
    ∃ documents : List (String × Json),
      documents.Pairwise (fun first second => documentName first.1 < documentName second.1) ∧
        (∀ id document, (id, document) ∈ documents ↔
          OrderedMap.at? (tenant, collection, id) log = some document) ∧
        result (Store.documents (.str tenant) (.str collection)) store =
          (documents.mapM fun document => reread .collection document.2, store) := by
  obtain ⟨contents, hrepresents, htells⟩ := hrecords
  have hholding := hrepresents.holding tenant collection htenant hcovered
  refine ⟨byName (contents tenant collection), ?_, ?_,
    hholding.result_documents hrepresents.ready htenant hshort hcollection
      hrepresents.wellFormed⟩
  · -- no two documents have the same name, so the order of their names is strict
    have hsorted := pairwise_sorted_by (fun document : String × Json => documentName document.1)
      (contents tenant collection)
    have hdistinct : (byName (contents tenant collection)).Pairwise
        fun first second => documentName first.1 ≠ documentName second.1 := by
      have hnodup : (OrderedMap.keys (byName (contents tenant collection))).Nodup :=
        ((byName_perm _).map Prod.fst).nodup_iff.mpr hholding.nodup
      rw [OrderedMap.keys, List.nodup_iff_pairwise_ne, List.pairwise_map] at hnodup
      exact hnodup.imp fun hne heq => hne (documentName_injective heq)
    exact hsorted.imp₂ (fun _ _ hle hne => Std.lt_of_le_of_ne hle hne) hdistinct
  · intro id document
    rw [← htells, (byName_perm _).mem_iff]
    exact ⟨OrderedMap.at?_of_mem hholding.nodup, OrderedMap.mem_of_at?⟩

end

end VisualNovel.Store
