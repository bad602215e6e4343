import VisualNovel.Proofs.Store.Opening
import VisualNovel.Proofs.Store.Written

/-!
# The demo story is made anew

When the demo story is made, its tenant is removed with all that was below it, and then the cast and
the script are written.  What is at the directory of the tenant and below it is the same afterwards,
whatever was there before (`demoAt?`), and nothing else is changed
(`Renewable.gives_create`).

Two things could be in the way.  There could be a file in the place of the tenant, and the directory
of all tenants could be gone with that of the tenant, as the path to it may go back and forth.
Neither is the case in a store that is `Renewable`, and it is still renewable when the story has
been made.
-/

namespace VisualNovel

namespace Store

variable {store left : Store} {root : Path} {place : Location} {tenant collection : String}
  {documents : List (String × Json)}

/-! ## The entries of a collection -/

/-- The directories and files that come with documents of a collection, under their names from the
directory of the tenants. -/
def collectionEntries (tenant collection : String) (documents : List (String × Json)) :
    OrderedMap (List String) Entry :=
  ([tenant], .directory) :: ([tenant, collection], .directory) ::
    documents.map (documentEntry [tenant, collection])

theorem documentEntry_collectionPlace (place : Location) (tenant collection : String)
    (document : String × Json) :
    documentEntry (collectionPlace place tenant collection) document =
      (place ++ (documentEntry [tenant, collection] document).1,
        (documentEntry [tenant, collection] document).2) := by
  rw [documentEntry, collectionPlace_eq, List.append_assoc]
  rfl

theorem nodup_keys_documentEntry (directory : Location)
    (hnodup : (documents.map Prod.fst).Nodup) :
    (OrderedMap.keys (documents.map (documentEntry directory))).Nodup := by
  have hkeys : OrderedMap.keys (documents.map (documentEntry directory)) =
      (documents.map Prod.fst).map fun id => directory ++ [documentName id] := by
    rw [OrderedMap.keys, List.map_map, List.map_map]
    rfl
  rw [hkeys]
  exact hnodup.map fun first second heq =>
    documentName_injective (List.singleton_inj.mp (List.append_cancel_left heq))

/-- Documents that have been placed lie over what was there. -/
theorem entry?_placed_or (hnodup : (documents.map Prod.fst).Nodup) (files : FileTree)
    (names : List String) :
    FileTree.entry? (placed (collectionPlace place tenant collection) documents files)
        (place ++ names) =
      (OrderedMap.at? names (documents.map (documentEntry [tenant, collection]))).or
        (files.entry? (place ++ names)) := by
  by_cases hmem : names ∈ OrderedMap.keys (documents.map (documentEntry [tenant, collection]))
  · obtain ⟨⟨_, entry⟩, hentry, rfl⟩ := List.mem_map.mp hmem
    rw [OrderedMap.at?_of_mem (nodup_keys_documentEntry _ hnodup) hentry, Option.some_or]
    obtain ⟨document, hdocument, heq⟩ := List.mem_map.mp hentry
    have hplaced := @entry?_placed_of_mem (collectionPlace place tenant collection) files
      documents document hnodup hdocument
    rw [documentEntry_collectionPlace, heq] at hplaced
    exact hplaced
  · rw [OrderedMap.at?_eq_none_iff.mpr hmem, Option.none_or]
    refine entry?_placed fun document hdocument heq => hmem ?_
    rw [documentEntry_collectionPlace] at heq
    rw [List.append_cancel_left heq]
    exact List.mem_map_of_mem (List.mem_map_of_mem hdocument)

/-- When documents have been written, the entries of their collection lie over what was there. -/
theorem entry?_of_gives_write [Json.Room] (hstore : store.Initialised root place)
    (hcollection : IsName collection) (hnodup : (documents.map Prod.fst).Nodup)
    (hgives : Gives (write (.str tenant) (.str collection) (.obj documents)) store () left)
    (names : List String) :
    left.files.entry? (place ++ names) =
      (OrderedMap.at? names (collectionEntries tenant collection documents)).or
        (store.files.entry? (place ++ names)) := by
  obtain ⟨made, hkey, -, hopens, hdirectory, -, rfl⟩ := hstore.of_gives_write hcollection hgives
  have hmade : made.HasDirectory (root.child "tenants") place :=
    (hopens.changedBelow fun _ hway => hway.below).hasDirectory hstore.directory
  have houter : made.entry? (place ++ [tenant]) = some .directory :=
    FileTree.entry?_of_locate_down hmade.locate_eq
      (List.forall_mem_singleton.mpr (Key.isName_of_isKey hkey)) hdirectory.locate_eq
  have hinner : made.entry? (place ++ [tenant, collection]) = some .directory := by
    rw [← collectionPlace_eq]
    exact hdirectory.entry?_eq
  -- the directories on the way are no files of documents
  have hway : ∀ names ∈ [[tenant], [tenant, collection]],
      FileTree.entry? (placed (collectionPlace place tenant collection) documents made)
        (place ++ names) = made.entry? (place ++ names) := by
    intro names hmem
    refine entry?_placed fun document _ => ne_documentEntry ?_
    rcases List.mem_pair.mp hmem with rfl | rfl <;> simp
  rw [collectionEntries, OrderedMap.at?_cons, OrderedMap.at?_cons]
  split_ifs with hfirst hsecond
  · subst hfirst
    exact (hway _ (by simp)).trans houter
  · subst hsecond
    exact (hway _ (by simp)).trans hinner
  · rw [entry?_placed_or hnodup]
    rcases hopens.entry?_cases (place ++ names) with hsame | ⟨hopened, -, -⟩
    · rw [hsame]
    · rcases FileTree.onTheWay_two.mp hopened with heq | heq
      · exact absurd (List.append_cancel_left heq).symm hfirst
      · exact absurd (List.append_cancel_left heq).symm hsecond

/-- Values are kept in a collection that does not have any documents yet. -/
theorem gives_keep_of_vacant [Json.Room] (hstore : store.Initialised root place)
    (hready : store.Ready root place) (htenant : Key.isKey tenant = true)
    (hshort : tenant.length ≤ FileTree.nameLimit) (hcollection : IsFileName collection)
    (hvacant : Vacant store.files place tenant collection) (hidentified : Identified documents)
    (hstores : ∀ document ∈ documents, Json.Room.stores document.2 = true)
    {identify : Json → Except StoreFault String}
    (hids : ∀ document ∈ documents, identify document.2 = .ok document.1) :
    ∃ added files,
      Gives (identified identify (.arr (documents.map Prod.snd)) >>=
        write (.str tenant) (.str collection)) store () { store with files := files } ∧
      store.files.Grows
        (added ++ documents.map (documentEntry (collectionPlace place tenant collection))) files ∧
      OnlyDirectories place added ∧
      files.HasDirectory (collectionPath root tenant collection)
        (collectionPlace place tenant collection) ∧
      FileTree.ChangedBelow (place ++ [tenant]) store.files files ∧
      ∀ names, files.entry? (place ++ names) =
        (OrderedMap.at? names (collectionEntries tenant collection documents)).or
          (store.files.entry? (place ++ names)) := by
  obtain ⟨added, files, hwrite, hgrows, honly, hdirectory⟩ :=
    gives_write hready htenant hshort hcollection hvacant hidentified hstores
  have hgives := @gives_identified store documents _ hids
  rw [OrderedMap.ofPairs_of_nodup hidentified.nodup] at hgives
  have hwritten := (confined_write htenant hcollection.toIsName hidentified.isKey).changed hstore
  rw [hwrite.result_eq] at hwritten
  exact ⟨added, files, hgives.bind hwrite, hgrows, honly, hdirectory, hwritten,
    entry?_of_gives_write hstore hcollection.toIsName hidentified.nodup hwrite⟩

/-! ## The demo story -/

/-- The cast of the demo story under the ids of its records. -/
def demoCast : List (String × Json) :=
  Demo.records.map fun record =>
    (record.character ++ "_" ++ record.expression, record.toJson ⟨true, true⟩)

/-- The script of the demo story under the ids of its lines. -/
def demoScript : List (String × Json) :=
  Demo.script.map fun command => (DocumentId.ofOrder (.int command.order), command.toJson .inside)

/-- What there is of the demo story under some names from the directory of its tenant. -/
def demoAt? (names : List String) : Option Entry :=
  OrderedMap.at? (Demo.tenant :: names)
    (collectionEntries Demo.tenant "scenario" demoScript ++
      collectionEntries Demo.tenant "characters" demoCast)

theorem isKey_demo : Key.isKey Demo.tenant = true := by decide

theorem identified_demoCast : Identified demoCast :=
  ⟨by decide +kernel, by decide +kernel, by decide +kernel⟩

theorem identified_demoScript : Identified demoScript :=
  ⟨by decide +kernel, by decide +kernel, by decide +kernel⟩

theorem ofCharacter_demoCast :
    ∀ document ∈ demoCast, DocumentId.ofCharacter document.2 = .ok document.1 := by
  decide +kernel

theorem ofLine_demoScript :
    ∀ document ∈ demoScript, DocumentId.ofLine document.2 = .ok document.1 := by
  decide +kernel

theorem nesting_demoCast : ∀ document ∈ demoCast, document.2.nesting ≤ 4 := by
  decide +kernel

theorem nesting_demoScript : ∀ document ∈ demoScript, document.2.nesting ≤ 4 := by
  decide +kernel

theorem demoAt?_saveData (names : List String) : demoAt? ("saveData" :: names) = none := by
  have hkeys : ∀ key ∈ OrderedMap.keys (collectionEntries Demo.tenant "scenario" demoScript ++
      collectionEntries Demo.tenant "characters" demoCast), key[1]? ≠ some "saveData" := by
    decide +kernel
  rw [demoAt?, OrderedMap.at?_eq_none_iff]
  exact fun hmem => hkeys _ hmem rfl

theorem vacant_of_absent {files : FileTree}
    (habsent : ∀ names, files.entry? (place ++ tenant :: names) = none) (collection : String) :
    Vacant files place tenant collection := by
  refine ⟨?_, ?_, ?_⟩
  · intro entry hentry
    rw [habsent []] at hentry
    cases hentry
  · intro entry hentry
    rw [collectionPlace_eq, habsent [collection]] at hentry
    cases hentry
  · intro name _
    rw [collectionPlace_eq, List.append_assoc]
    exact habsent [collection, name]

/-- The demo story is written in a store without a demo tenant. -/
theorem gives_writeDemo [Json.Room] (hstore : store.Initialised root place)
    (hready : store.Ready root place)
    (habsent : ∀ names, store.files.entry? (place ++ Demo.tenant :: names) = none) :
    ∃ files, Gives writeDemo store () { store with files := files } ∧
        FileTree.ChangedBelow (place ++ [Demo.tenant]) store.files files ∧
        (∀ names, files.entry? (place ++ Demo.tenant :: names) = demoAt? names) ∧
        Holds files root place Demo.tenant "characters" demoCast ∧
        Holds files root place Demo.tenant "scenario" demoScript := by
  have hcast := vacant_of_absent habsent "characters"
  have hscript := vacant_of_absent habsent "scenario"
  obtain ⟨outer, between, hkeep, hgrows, houter, hdirectory, hchanged, hbetween⟩ :=
    gives_keep_of_vacant hstore hready isKey_demo (by decide) isFileName_characters hcast
      identified_demoCast
      (fun document hmem => Json.Room.stores_of_nesting_le (nesting_demoCast document hmem))
      ofCharacter_demoCast
  have hscript' : Vacant between place Demo.tenant "scenario" :=
    hscript.grows houter hgrows (by decide)
  obtain ⟨inner, files, hkeep', hgrows', hinner, hdirectory', hchanged', hfiles⟩ :=
    gives_keep_of_vacant (hstore.changed hchanged) (hready.grows hgrows) isKey_demo (by decide)
      isFileName_scenario hscript' identified_demoScript
      (fun document hmem => Json.Room.stores_of_nesting_le (nesting_demoScript document hmem))
      ofLine_demoScript
  rw [demoCast, List.map_map] at hkeep
  rw [demoScript, List.map_map] at hkeep'
  refine ⟨files, ?_, hchanged.trans hchanged', fun names => ?_, ?_, hdirectory',
    keeps_of_grows hscript' hinner hgrows'⟩
  · refine Gives.bind ((gives_elements rfl).bind (hkeep.bind (gives_pure _ _))) ?_
    refine Gives.bind ((gives_elements rfl).bind (hkeep'.bind (gives_pure _ _))) ?_
    exact gives_pure _ _
  · rw [hfiles, hbetween, habsent, Option.or_none, demoAt?, OrderedMap.at?_append]
  · exact Holds.grows ⟨hdirectory, keeps_of_grows hcast houter hgrows⟩ hinner hgrows' (by decide)

/-! ## Stores in which it can be made -/

/-- Is there a directory in the place of the demo tenant, or nothing there and below it? -/
def Settled (files : FileTree) (place : Location) : Prop :=
  files.entry? (place ++ [Demo.tenant]) = some .directory ∨
    ∀ names, files.entry? (place ++ Demo.tenant :: names) = none

/-- Can the demo story be made?  The store is open, the directory of the tenants is found without
the demo tenant, and there is nothing in the way. -/
structure Renewable (store : Store) (root : Path) (place : Location) : Prop where
  root_eq : store.root = some root
  found : (store.files.without (place ++ [Demo.tenant])).HasDirectory (root.child "tenants") place
  room : (root.child "tenants").text.utf8ByteSize + 3 * (FileTree.nameLimit + 1) ≤
    FileTree.pathLimit
  wellFormed : store.files.WellFormed
  settled : Settled store.files place

theorem demoPlace_ne_nil (place : Location) : place ++ [Demo.tenant] ≠ [] :=
  List.append_ne_nil_of_right_ne_nil _ (List.cons_ne_nil _ _)

theorem demoPlace_isPrefix (place : Location) (names : List String) :
    place ++ [Demo.tenant] <+: place ++ Demo.tenant :: names :=
  ⟨names, by rw [List.append_assoc, List.singleton_append]⟩

theorem Renewable.directory (hstore : store.Renewable root place) :
    store.files.HasDirectory (root.child "tenants") place :=
  hstore.found.of_without (demoPlace_ne_nil place)

theorem Renewable.initialised (hstore : store.Renewable root place) :
    store.Initialised root place :=
  ⟨hstore.root_eq, hstore.directory, hstore.wellFormed⟩

theorem Renewable.ready (hstore : store.Renewable root place) : store.Ready root place :=
  ⟨hstore.root_eq, hstore.directory, hstore.room⟩

theorem Ready.renewable (hready : store.Ready root place) (hformed : store.files.WellFormed)
    (hnew : ∀ names, names ≠ [] → store.files.entry? (place ++ names) = none) :
    store.Renewable root place := by
  refine ⟨hready.root_eq, hready.directory.mono rfl ?_, hready.room, hformed,
    Or.inr fun names => hnew _ (List.cons_ne_nil _ _)⟩
  intro location hentry
  rw [FileTree.entry?_without (demoPlace_ne_nil place), if_neg, hentry]
  rintro ⟨names, rfl⟩
  rw [List.append_assoc, List.singleton_append, hnew _ (List.cons_ne_nil _ _)] at hentry
  cases hentry

theorem entry?_newWith_nil {names : List String} (hne : names ≠ []) :
    (newWith []).files.entry? (["data", "tenants"] ++ names) = none := by
  cases names with
  | nil => exact absurd rfl hne
  | cons name rest => rfl

theorem renewable_newWith : (newWith []).Renewable (Path.ofText "data") ["data", "tenants"] :=
  (ready_newWith []).renewable
    (initialised_newWith (by decide) (List.forall_mem_nil _)).wellFormed
    fun _ => entry?_newWith_nil

theorem Settled.outside {files changed : FileTree} (hsettled : Settled files place)
    (houtside : ∀ location, place ++ [Demo.tenant] <+: location →
      changed.entry? location = files.entry? location) : Settled changed place := by
  refine hsettled.imp (fun hthere => ?_) fun habsent names => ?_
  · rw [houtside _ List.prefix_rfl, hthere]
  · rw [houtside _ (demoPlace_isPrefix place names), habsent]

/-- What is changed for another tenant leaves the demo tenant as it is. -/
theorem Settled.changed {files changed : FileTree} {owner : String}
    (hsettled : Settled files place) (hne : owner ≠ Demo.tenant)
    (hchanged : FileTree.ChangedBelow (place ++ [owner]) files changed) :
    Settled changed place := by
  refine hsettled.outside fun location hbelow => hchanged.outside location fun hbelow' => hne ?_
  obtain ⟨rest, rfl⟩ := hbelow
  obtain ⟨rest', heq⟩ := hbelow'
  rw [List.append_assoc, List.append_assoc] at heq
  exact (List.cons.inj (List.append_cancel_left heq)).1

/-- A store stays renewable as long as no directory is lost and nothing comes in the way. -/
theorem Renewable.kept (hstore : store.Renewable root place) {files : FileTree}
    (hworking : files.workingDirectory = store.files.workingDirectory)
    (hkept : ∀ location, ¬ place ++ [Demo.tenant] <+: location →
      store.files.entry? location = some .directory → files.entry? location = some .directory)
    (hformed : files.WellFormed) (hsettled : Settled files place) :
    Renewable { store with files := files } root place := by
  refine ⟨hstore.root_eq, hstore.found.mono hworking ?_, hstore.room, hformed, hsettled⟩
  intro location hentry
  obtain ⟨hnot, hthere⟩ := FileTree.entry?_of_without (demoPlace_ne_nil place) hentry
  rw [FileTree.entry?_without (demoPlace_ne_nil place), if_neg hnot, hkept location hnot hthere]

theorem Renewable.changed (hstore : store.Renewable root place) {here : Location}
    {files : FileTree} (hchanged : FileTree.ChangedBelow here store.files files)
    (hsettled : Settled files place) : Renewable { store with files := files } root place :=
  hstore.kept hchanged.workingDirectory_eq (fun location _ => hchanged.kept location)
    (hchanged.wellFormed hstore.wellFormed) hsettled

/-- The demo tenant is removed, or there is none; then the story is written. -/
theorem Renewable.exists_cleared [Json.Room] (hstore : store.Renewable root place) :
    ∃ cleared : FileTree,
      result Demo.create store = result writeDemo { store with files := cleared } ∧
      Initialised { store with files := cleared } root place ∧
      cleared.workingDirectory = store.files.workingDirectory ∧
      (∀ names, cleared.entry? (place ++ Demo.tenant :: names) = none) ∧
      ∀ location, ¬ place ++ [Demo.tenant] <+: location →
        cleared.entry? location = store.files.entry? location := by
  have hne := demoPlace_ne_nil place
  have hname : IsFileName Demo.tenant := Key.isFileName_of_isKey isKey_demo (by decide)
  have hlocate : store.files.locate ((root.child "tenants").child Demo.tenant) =
      .ok (place ++ [Demo.tenant]) := by
    have hroom := hstore.room
    have hsize : Demo.tenant.utf8ByteSize ≤ FileTree.nameLimit := hname.short
    exact hstore.directory.locate_child hname (by omega)
  rw [Demo.create, (gives_tenants hstore.root_eq).result_bind]
  -- there is a tenant to be removed, or nothing where it would be
  rcases hstore.settled with hthere | habsent
  · have hdirectory : store.files.HasDirectory ((root.child "tenants").child Demo.tenant)
        (place ++ [Demo.tenant]) := ⟨hlocate, hthere⟩
    have hask : store.files.isThere ((root.child "tenants").child Demo.tenant) = .ok true := by
      rw [FileTree.isThere, FileTree.ask, FileTree.look_of_entry? hlocate hthere]
    refine ⟨store.files.without (place ++ [Demo.tenant]), ?_,
      ⟨hstore.root_eq, hstore.found, hstore.wellFormed.without _⟩, rfl, fun names => ?_,
      fun location hnot => ?_⟩
    · rw [(gives_ask hask).result_bind]
      exact (gives_change hdirectory.removeDirectory_eq).result_bind _
    · rw [FileTree.entry?_without hne, if_pos (demoPlace_isPrefix place names)]
    · rw [FileTree.entry?_without hne, if_neg hnot]
  · have hlook : store.files.look ((root.child "tenants").child Demo.tenant) =
        .error .notFound := by
      simp only [FileTree.look, hlocate, bind, Except.bind, habsent []]
    have hask : store.files.isThere ((root.child "tenants").child Demo.tenant) = .ok false := by
      rw [FileTree.isThere, FileTree.ask, hlook]
    refine ⟨store.files, ?_, hstore.initialised, rfl, habsent, fun _ _ => rfl⟩
    rw [(gives_ask hask).result_bind]
    rfl

/-- **The demo story is made anew.**  What was there of its tenant is gone: what is at its directory
and below it is the demo story and nothing else.  Nothing else is changed, and the store is
renewable again. -/
theorem Renewable.gives_create [Json.Room] (hstore : store.Renewable root place) :
    ∃ files, Gives Demo.create store () { store with files := files } ∧
      Renewable { store with files := files } root place ∧
      files.workingDirectory = store.files.workingDirectory ∧
      (∀ names, files.entry? (place ++ Demo.tenant :: names) = demoAt? names) ∧
      (∀ location, ¬ place ++ [Demo.tenant] <+: location →
        files.entry? location = store.files.entry? location) ∧
      Holds files root place Demo.tenant "characters" demoCast ∧
      Holds files root place Demo.tenant "scenario" demoScript := by
  obtain ⟨cleared, hcreate, hcleared, hworking, habsent, houtside⟩ := hstore.exists_cleared
  obtain ⟨files, hwrite, hchanged, hwithin, hcast, hscript⟩ :=
    gives_writeDemo hcleared ⟨hstore.root_eq, hcleared.directory, hstore.room⟩ habsent
  have hsame := hchanged.workingDirectory_eq.trans hworking
  refine ⟨files, hcreate.trans hwrite, ?_, hsame, hwithin, ?_, hcast, hscript⟩
  · refine hstore.kept hsame ?_
      (hchanged.wellFormed hcleared.wellFormed) (Or.inl (hwithin []))
    intro location hnot hentry
    exact hchanged.kept location ((houtside location hnot).trans hentry)
  · intro location hnot
    exact (hchanged.outside location hnot).trans (houtside location hnot)

/-! ## What is done besides -/

section

variable {owner name : String} {tenant collection : Json}

theorem preserves_renewable_makeDirectories (howner : Key.isKey owner = true)
    (hname : IsName name) :
    Preserves (fun store => store.Renewable root place)
      (attempt fun files => files.makeDirectories (tenantPath root owner [name])) := by
  refine preserves_attempt fun store hstore => ?_
  have hchanged := (hstore.initialised.opened_makeDirectories
    (isName_of_mem_tenantPath howner hname [] (List.forall_mem_nil _))).opens.changedBelow
      fun _ hway => hway.below_head
  refine hstore.changed hchanged ?_
  rcases hstore.settled with hthere | habsent
  · exact Or.inl (hchanged.kept _ hthere)
  · by_cases howned : owner = Demo.tenant
    · subst howned
      exact hstore.directory.outer_of_makeDirectories (Key.isName_of_isKey howner) hname habsent
    · exact Settled.changed (Or.inr habsent) howned hchanged

theorem preserves_renewable_writeDocument [Json.Room] (howner : Key.isKey owner = true)
    (hname : IsName name)
    {id : String} (hkey : Key.isKey id = true) (document : Json) :
    Preserves (fun store => store.Renewable root place)
      (writeDocument (tenantPath root owner [name]) id document) := by
  have hfile := isName_documentName hkey
  have hnames := isName_of_mem_tenantPath howner hname [documentName id]
    (List.forall_mem_singleton.mpr hfile)
  rw [writeDocument, child_tenantPath hfile]
  split
  case isFalse => exact preserves_throw _
  refine preserves_change fun store files hstore hwrite => ?_
  obtain ⟨location, hlocate, hne, hfree, rfl⟩ := FileTree.place_of_writeFile hwrite
  have hthrough := FileTree.entry?_of_locate_down hstore.directory.locate_eq
    (isName_of_mem_tenantPath howner hname [] (List.forall_mem_nil _)) hlocate
  obtain rfl := FileTree.location_of_locate_down hstore.directory.locate_eq hnames hlocate
  have hbelow : place ++ [owner] <+: place ++ owner :: ([name] ++ [documentName id]) :=
    ⟨[name] ++ [documentName id], by rw [List.append_assoc, List.singleton_append]⟩
  have hchanged := FileTree.changedBelow_place hbelow hne hfree
    (fun hformed => hstore.directory.isName_append hformed hnames)
    (.file (document.toText .stored).toUTF8)
  refine hstore.changed hchanged ?_
  rcases hstore.settled with hthere | habsent
  · exact Or.inl (hchanged.kept _ hthere)
  · refine Settled.changed (Or.inr habsent) ?_ hchanged
    -- the path to a document of the demo tenant leads through its directory
    rintro rfl
    rw [habsent [name]] at hthrough
    cases hthrough

/-- Writing documents leaves a store renewable, whether it succeeds or not. -/
theorem preserves_renewable_write [Json.Room]
    (hcollection : ∀ name, collection = .str name → IsName name)
    (documents : Json) :
    Preserves (fun store => store.Renewable root place) (write tenant collection documents) := by
  intro store hstore
  rcases result_write_cases tenant collection documents store with
    ⟨fault, -, hresult, -⟩ | ⟨path, hpath, hkeys, hresult⟩ <;> rw [hresult]
  · exact hstore
  · obtain ⟨root', owner, name, hroot, rfl, rfl, howner, rfl⟩ := of_gives_collection hpath
    obtain rfl : root = root' := Option.some.inj (hstore.root_eq.symm.trans hroot)
    have hname := hcollection name rfl
    rw [collectionPath_eq (Key.isName_of_isKey howner) hname]
    refine Preserves.bind (preserves_renewable_makeDirectories howner hname) (fun _ => ?_) store
      hstore
    split
    · next fields =>
      refine preserves_forM fun document hmem => ?_
      exact preserves_renewable_writeDocument howner hname (hkeys fields rfl document hmem)
        document.2
    · exact preserves_throw _

end

end Store

end VisualNovel
