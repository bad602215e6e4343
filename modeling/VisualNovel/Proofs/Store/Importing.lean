import VisualNovel.Proofs.Store.Overwriting

/-!
# Importing collection by collection

An import reads the cast, keeps it, reads the script and keeps that.  Each file is imported as a
whole or not at all, as far as the fault is one of the file: either it holds an array, each element
of which has an id that is a key (`Importable`), or nothing is done with it.  So there are five ways
in which an import can end (`Importing`), and what is left behind is

* the store as it was, if the tenant or the cast is at fault;
* the store after the cast has been saved, if the script is at fault;
* otherwise all documents of before, overwritten by the new ones, unless a file or a directory could
  not be written, or there was no room to write one of the elements.

The script is read when the cast has been saved already.  That makes no difference to what is read
(`CastSaved.scriptReady_iff`): the name of the file is not one of those that the cast is saved
under, for these have an underscore.
-/

namespace VisualNovel.Store

section

variable [Json.Room] {store made left : Store} {root : Path} {place : Location} {source : Path}
  {tenant : Json} {owner : String}

/-! ## Files that can be imported -/

/-- Does the file at a path hold an array of these values, and does each of them have an id that is
a key? -/
structure Importable (identify : Json → Except StoreFault String) (files : FileTree) (path : Path)
    (values : List Json) : Prop where
  holds : HoldsArray files path values
  hasKey : ∀ value ∈ values, HasKey identify value

/-- Can the cast in a directory be imported for the owner? -/
structure CastReady (store : Store) (source : Path) (tenant : Json) (owner : String)
    (records : List Json) : Prop where
  tenant_eq : tenant = .str owner
  isKey : Key.isKey owner = true
  importable : Importable DocumentId.ofCharacter store.files (source.child charactersFile) records

/-- Has the cast in a directory been saved for the owner, and is this the store that was left? -/
structure CastSaved (store made : Store) (source : Path) (tenant : Json) (owner : String)
    (records : List Json) : Prop extends CastReady store source tenant owner records where
  gives : Gives (saveCharacters tenant (.arr records)) store () made

/-- Can the script in a directory be imported? -/
abbrev ScriptReady (store : Store) (source : Path) (lines : List Json) : Prop :=
  Importable DocumentId.ofLine store.files (source.child scenarioFile) lines

theorem HoldsArray.unique {files : FileTree} {path : Path} {values others : List Json}
    (hvalues : HoldsArray files path values) (hothers : HoldsArray files path others) :
    values = others := by
  obtain ⟨content, hread, hparse⟩ := hvalues
  obtain ⟨_, hread', hparse'⟩ := hothers
  cases hread.symm.trans hread'
  cases hparse.symm.trans hparse'
  rfl

theorem result_readArray_cases (path : Path) (store : Store) :
    (∃ values, HoldsArray store.files path values ∧
        Gives (readArray path) store (.arr values) store) ∨
      (∀ values, ¬ HoldsArray store.files path values) ∧
        ∃ fault, result (readArray path) store = (.error fault, store) := by
  by_cases hholds : ∃ values, HoldsArray store.files path values
  · obtain ⟨values, hholds⟩ := hholds
    exact Or.inl ⟨values, hholds, gives_readArray hholds⟩
  · rw [not_exists] at hholds
    refine Or.inr ⟨hholds, ?_⟩
    rw [readArray, result_bind, result_readJson]
    cases hread : store.files.readFile path with
    | error fault => exact ⟨.file fault, rfl⟩
    | ok content =>
        cases hparse : Json.parseFile .imported content with
        | error fault => exact ⟨.unreadable fault, by simp only [hparse]; rfl⟩
        | ok value =>
            simp only [hparse, Except.mapError]
            cases value with
            | arr values => exact absurd ⟨content, hread, hparse⟩ (hholds values)
            | _ => exact ⟨_, rfl⟩

/-- Keep values under their ids, and say how many they are. -/
def keepAndCount (identify : Json → Except StoreFault String) (tenant collection values : Json) :
    Action Nat := do
  let items ← elements values
  identified identify values >>= write tenant collection
  return items.length

theorem gives_keepAndCount {identify : Json → Except StoreFault String} {collection : Json}
    {values : List Json}
    (hgives : Gives (identified identify (.arr values) >>= write tenant collection) store () left) :
    Gives (keepAndCount identify tenant collection (.arr values)) store values.length left :=
  (gives_elements rfl).bind (hgives.bind (gives_pure _ _))

theorem result_keepAndCount_of_fault {identify : Json → Except StoreFault String}
    {collection : Json} {values : List Json} {fault : StoreFault}
    (hfails : result (identified identify (.arr values) >>= write tenant collection) store =
      (.error fault, left)) :
    result (keepAndCount identify tenant collection (.arr values)) store =
      (.error fault, left) := by
  rw [keepAndCount, (gives_elements rfl).result_bind, result_bind, hfails]

/-- Import a file: read the array, keep its elements, and go on with their number. -/
def importFile {α : Type} (identify : Json → Except StoreFault String) (tenant collection : Json)
    (path : Path) (next : Nat → Action α) : Action α :=
  readArray path >>= fun values => keepAndCount identify tenant collection values >>= next

/-- What becomes of a file that is imported: it is refused, or its elements cannot be written, or
they have been written and the import goes on. -/
theorem result_importFile_cases {α : Type} (identify : Json → Except StoreFault String)
    (tenant collection : Json) (path : Path) (next : Nat → Action α) (store : Store) :
    ((∀ values, ¬ Importable identify store.files path values) ∧ ∃ fault,
        result (importFile identify tenant collection path next) store = (.error fault, store)) ∨
      ∃ values, Importable identify store.files path values ∧
        ((∃ fault left,
            result (identified identify (.arr values) >>= write tenant collection) store =
                (.error fault, left) ∧
              result (importFile identify tenant collection path next) store =
                (.error fault, left)) ∨
          ∃ left,
            Gives (identified identify (.arr values) >>= write tenant collection) store () left ∧
              result (importFile identify tenant collection path next) store =
                result (next values.length) left) := by
  rw [importFile]
  rcases result_readArray_cases path store with ⟨values, hholds, hread⟩ | ⟨hnone, fault, hread⟩
  swap
  · rw [result_bind, hread]
    exact Or.inl ⟨fun values himportable => hnone values himportable.holds, fault, rfl⟩
  rw [hread.result_bind]
  by_cases hkeys : ∀ value ∈ values, HasKey identify value
  · refine Or.inr ⟨values, ⟨hholds, hkeys⟩, ?_⟩
    rcases hkeep : result (identified identify (.arr values) >>= write tenant collection) store with
      ⟨fault | _, left⟩
    · refine Or.inl ⟨fault, left, rfl, ?_⟩
      rw [result_bind, result_keepAndCount_of_fault hkeep]
    · exact Or.inr ⟨left, hkeep, (gives_keepAndCount hkeep).result_bind _⟩
  · rcases result_keep_cases identify tenant collection values store with
      ⟨-, fault, hrefused⟩ | ⟨documents, hidentifies, hdocuments, -⟩
    · refine Or.inl ⟨fun others hothers => hkeys ?_, fault, ?_⟩
      · rw [hholds.unique hothers.holds]
        exact hothers.hasKey
      · rw [result_bind, result_keepAndCount_of_fault hrefused]
    · exact absurd (hidentifies.hasKey fun document hmem =>
        hdocuments document (OrderedMap.mem_of_mem_ofPairs hmem)) hkeys

/-! ## The ends of an import -/

/-- What can become of an import: the tenant or the cast is refused, the cast cannot be saved, the
script is refused or cannot be saved when the cast has been, or both are imported. -/
inductive Importing (store : Store) (source : Path) (tenant : Json) :
    Except StoreFault ImportCounts × Store → Prop
  | castRefused {fault : StoreFault}
      (bad : ∀ owner records, ¬ CastReady store source tenant owner records) :
      Importing store source tenant (.error fault, store)
  | castUnsaved {owner : String} {records : List Json} {fault : StoreFault} {left : Store}
      (cast : CastReady store source tenant owner records)
      (fails : result (saveCharacters tenant (.arr records)) store = (.error fault, left)) :
      Importing store source tenant (.error fault, left)
  | scriptRefused {owner : String} {records : List Json} {fault : StoreFault} {made : Store}
      (saved : CastSaved store made source tenant owner records)
      (bad : ∀ lines, ¬ ScriptReady made source lines) :
      Importing store source tenant (.error fault, made)
  | scriptUnsaved {owner : String} {records lines : List Json} {fault : StoreFault}
      {made left : Store} (saved : CastSaved store made source tenant owner records)
      (script : ScriptReady made source lines)
      (fails : result (saveScenario tenant (.arr lines)) made = (.error fault, left)) :
      Importing store source tenant (.error fault, left)
  | imported {owner : String} {records lines : List Json} {made left : Store}
      (saved : CastSaved store made source tenant owner records)
      (script : ScriptReady made source lines)
      (gives : Gives (saveScenario tenant (.arr lines)) made () left) :
      Importing store source tenant (.ok ⟨records.length, lines.length⟩, left)

/-- What is left to be done once the cast has been saved. -/
def importScript (source : Path) (tenant : Json) (characters : Nat) : Action ImportCounts :=
  importFile DocumentId.ofLine tenant scenarioCollection (source.child scenarioFile) fun scenario =>
    return ⟨characters, scenario⟩

theorem importDirectory_eq (source : Path) (tenant : Json) :
    importDirectory source tenant = (do
      discard (key "tenant id" tenant)
      importFile DocumentId.ofCharacter tenant characterCollection (source.child charactersFile)
        (importScript source tenant)) := rfl

theorem importing_importScript {records : List Json}
    (hsaved : CastSaved store made source tenant owner records) :
    Importing store source tenant (result (importScript source tenant records.length) made) := by
  rw [importScript]
  rcases result_importFile_cases DocumentId.ofLine tenant scenarioCollection
      (source.child scenarioFile) (fun scenario => pure (ImportCounts.mk records.length scenario))
      made with
    ⟨hnone, fault, hrun⟩ | ⟨lines, hlines, ⟨fault, left, hfails, hrun⟩ | ⟨left, hgives, hrun⟩⟩ <;>
    rw [hrun]
  · exact .scriptRefused hsaved hnone
  · exact .scriptUnsaved hsaved hlines hfails
  · exact .imported hsaved hlines hgives

/-- Every import ends in one of these ways. -/
theorem importing_importDirectory (source : Path) (tenant : Json) (store : Store) :
    Importing store source tenant (result (importDirectory source tenant) store) := by
  rw [importDirectory_eq, result_bind, result_discard, result_key]
  cases hkey : Key.ofJson "tenant id" tenant with
  | error fault =>
      refine .castRefused fun owner records hcast => ?_
      obtain rfl := hcast.tenant_eq
      rw [Key.ofJson, Key.check, if_pos hcast.isKey] at hkey
      cases hkey
  | ok owner =>
      obtain ⟨htenant, howner⟩ := Key.of_ofJson hkey
      show Importing store source tenant (result (importFile _ tenant _ _ _) store)
      rcases result_importFile_cases DocumentId.ofCharacter tenant characterCollection
          (source.child charactersFile) (importScript source tenant) store with
        ⟨hnone, fault, hrun⟩ |
          ⟨records, hrecords, ⟨fault, left, hfails, hrun⟩ | ⟨made, hgives, hrun⟩⟩ <;>
        rw [hrun]
      · exact .castRefused fun _ records hcast => hnone records hcast.importable
      · exact .castUnsaved ⟨htenant, howner, hrecords⟩ hfails
      · exact importing_importScript ⟨⟨htenant, howner, hrecords⟩, hgives⟩

/-- If both files have been imported then there was room to write all that they hold. -/
theorem stores_of_gives_importDirectory {tenant : String} {records lines : List (String × Json)}
    {counts : ImportCounts} (hready : store.Ready root place) (htenant : Key.isKey tenant = true)
    (hshort : tenant.length ≤ FileTree.nameLimit)
    (hcast : Vacant store.files place tenant "characters")
    (hrecords : HoldsArray store.files (source.child charactersFile) (records.map Prod.snd))
    (hlines : HoldsArray store.files (source.child scenarioFile) (lines.map Prod.snd))
    (hrecordIds : ∀ document ∈ records, DocumentId.ofCharacter document.2 = .ok document.1)
    (hlineIds : ∀ document ∈ lines, DocumentId.ofLine document.2 = .ok document.1)
    (hrecordsIdentified : Identified records) (hlinesIdentified : Identified lines)
    (hgives : Gives (importDirectory source (.str tenant)) store counts left) :
    (∀ document ∈ records, Json.Room.stores document.2 = true) ∧
      ∀ document ∈ lines, Json.Room.stores document.2 = true := by
  have himporting := importing_importDirectory source (.str tenant) store
  rw [hgives.result_eq] at himporting
  cases himporting with
  | @imported _ _ others made _ hsaved hscript hkept =>
      obtain rfl := hsaved.importable.holds.unique hrecords
      have hstored := stores_of_gives_keep hrecordIds hsaved.gives
      rw [OrderedMap.ofPairs_of_nodup hrecordsIdentified.nodup] at hstored
      -- the file with the script lines is still there when the cast has been written
      obtain ⟨_, files, hkeep, hgrows, -⟩ := gives_keep hready htenant hshort isFileName_characters
        hcast hrecordIds hrecordsIdentified hstored
      cases hsaved.gives.symm.trans hkeep
      obtain rfl := hscript.holds.unique (hlines.grows hgrows)
      have hstored' := stores_of_gives_keep hlineIds hkept
      rw [OrderedMap.ofPairs_of_nodup hlinesIdentified.nodup] at hstored'
      exact ⟨hstored, hstored'⟩

/-! ## The file of the script -/

omit [Json.Room] in
theorem underscore_mem_of_ofCharacter {record : Json} {id : String}
    (hid : DocumentId.ofCharacter record = .ok id) : '_' ∈ id.toList := by
  unfold DocumentId.ofCharacter at hid
  split at hid
  · split at hid
    · cases hid
    · split at hid
      · cases hid
      · cases hid
        rw [String.toList_append, String.toList_append]
        exact List.mem_append_left _ (List.mem_append_right _ (List.mem_singleton_self _))
  · cases hid

omit [Json.Room] in
/-- The file of a script is not one of those of a cast. -/
theorem Identifies.documentName_ne {records : List Json} {cast : List (String × Json)}
    (hidentifies : Identifies DocumentId.ofCharacter records cast) {document : String × Json}
    (hmem : document ∈ cast) : documentName document.1 ≠ scenarioFile := by
  intro heq
  have hunderscore : '_' ∈ (documentName document.1).toList := by
    rw [toList_documentName]
    exact List.mem_append_left _ (underscore_mem_of_ofCharacter (hidentifies.ids document hmem))
  rw [heq] at hunderscore
  revert hunderscore
  decide

omit [Json.Room] in
theorem isName_scenarioFile : IsName scenarioFile :=
  @isName_documentName "scenario" (by decide)

/-- A file in a directory can be read only if the directory is there. -/
theorem HoldsArray.exists_hasDirectory {files : FileTree} {path : Path} {name : String}
    {values : List Json} (hholds : HoldsArray files (path.child name) values)
    (hname : IsName name) : ∃ place, files.HasDirectory path place := by
  obtain ⟨content, hread, -⟩ := hholds
  obtain ⟨location, hlocate, -⟩ := FileTree.entry?_of_readFile hread
  rw [Path.child_eq_down hname] at hlocate
  obtain ⟨place, hplace⟩ :=
    FileTree.exists_locate_of_down (List.forall_mem_singleton.mpr hname) hlocate
  refine ⟨place, hplace, ?_⟩
  have hentry := FileTree.entry?_of_locate_down hplace (List.forall_mem_nil _) hlocate
  rwa [List.append_nil] at hentry

section

variable {records lines : List Json}

/-- Saving the cast overwrites its documents, and no directory is lost. -/
theorem CastSaved.overwritten (hsaved : CastSaved store made source tenant owner records)
    (hstore : store.Initialised root place) :
    ∃ cast, Identifies DocumentId.ofCharacter records cast ∧ made.Initialised root place ∧
      FileTree.ChangedBelow place store.files made.files ∧
      Overwritten place store made (notes owner "characters" (OrderedMap.ofPairs cast)) := by
  have hgives := hsaved.gives
  rw [hsaved.tenant_eq] at hgives
  exact hstore.overwritten_of_gives_keep isFileName_characters.toIsName hgives

/-- There is one cast, so there is one store after it has been saved. -/
theorem CastSaved.left_eq {other : String} {others : List Json} {answer : Except StoreFault Unit}
    (hsaved : CastSaved store made source tenant owner records)
    (hother : CastReady store source tenant other others)
    (hresult : result (saveCharacters tenant (.arr others)) store = (answer, left)) :
    answer = .ok () ∧ left = made := by
  obtain rfl := hsaved.importable.holds.unique hother.importable.holds
  cases hresult.symm.trans hsaved.gives
  exact ⟨rfl, rfl⟩

/-- Saving the cast makes no difference to what the file of the script holds. -/
theorem CastSaved.scriptReady_iff (hsaved : CastSaved store made source tenant owner records)
    (hstore : store.Initialised root place) :
    ScriptReady made source lines ↔ ScriptReady store source lines := by
  obtain ⟨cast, hidentifies, -, hchanged, hover⟩ := hsaved.overwritten hstore
  obtain ⟨beside, hdirectory⟩ := hsaved.importable.holds.exists_hasDirectory
    (@isName_documentName "characters" (by decide))
  have hfile : made.files.file? (beside ++ [scenarioFile]) =
      store.files.file? (beside ++ [scenarioFile]) := by
    refine hover.file?_eq fun note hnote heq => ?_
    obtain ⟨document, hdocument, rfl⟩ := List.mem_map.mp hnote
    have hname := congrArg List.getLast? heq
    rw [noteFile, List.getLast?_concat, List.getLast?_concat] at hname
    exact hidentifies.documentName_ne (OrderedMap.mem_of_mem_ofPairs hdocument)
      (Option.some.inj hname)
  have hread : ∀ content, made.files.readFile (source.child scenarioFile) = .ok content ↔
      store.files.readFile (source.child scenarioFile) = .ok content := by
    intro content
    rw [(hchanged.hasDirectory hdirectory).readFile_child_iff isName_scenarioFile,
      hdirectory.readFile_child_iff isName_scenarioFile, hfile]
  have hholds : HoldsArray made.files (source.child scenarioFile) lines ↔
      HoldsArray store.files (source.child scenarioFile) lines :=
    exists_congr fun content => and_congr_left' (hread content)
  exact ⟨fun hready => ⟨hholds.mp hready.holds, hready.hasKey⟩,
    fun hready => ⟨hholds.mpr hready.holds, hready.hasKey⟩⟩

/-! ## What is left behind -/

/-- An import fails collection by collection.

If the tenant is no key, or if the cast cannot be imported, then it fails and nothing is done.  If
the cast can be imported and is saved, then this overwrites the documents of the cast and no others;
and if the script cannot be imported then, the import fails and leaves the store as it is after the
cast has been saved.  If it does not fail, then it counts the elements of both arrays, and has
overwritten the documents of both and no others.  There is no other reason to fail than these, but
for files, and for elements that there is no room to write. -/
theorem importDirectory_by_collection {answer : Except StoreFault ImportCounts}
    (hstore : store.Initialised root place)
    (hresult : result (importDirectory source tenant) store = (answer, left)) :
    ((∀ owner records, ¬ CastReady store source tenant owner records) →
        (∃ fault, answer = .error fault) ∧ left = store) ∧
      (∀ owner records made, CastSaved store made source tenant owner records →
        (∃ cast, Identifies DocumentId.ofCharacter records cast ∧
          Overwritten place store made (notes owner "characters" (OrderedMap.ofPairs cast))) ∧
        ((∀ lines, ¬ ScriptReady store source lines) →
          (∃ fault, answer = .error fault) ∧ left = made)) ∧
      (∀ counts, answer = .ok counts → ∃ owner records lines cast script,
        CastReady store source tenant owner records ∧ ScriptReady store source lines ∧
          counts = ⟨records.length, lines.length⟩ ∧
          Identifies DocumentId.ofCharacter records cast ∧
          Identifies DocumentId.ofLine lines script ∧
          Overwritten place store left (notes owner "scenario" (OrderedMap.ofPairs script) ++
            notes owner "characters" (OrderedMap.ofPairs cast))) ∧
      ∀ fault, answer = .error fault → (∀ reason, fault ≠ .file reason) →
        (∀ owner records, ¬ CastReady store source tenant owner records) ∨
          ((∃ owner records, CastSaved store left source tenant owner records) ∧
            ∀ lines, ¬ ScriptReady store source lines) ∨
          fault = .tooDeep ∧ ∃ owner records, CastReady store source tenant owner records ∧
            ((∃ record ∈ records, Json.Room.stores record = false) ∨
              ∃ lines, ScriptReady store source lines ∧
                ∃ line ∈ lines, Json.Room.stores line = false) := by
  have himporting := importing_importDirectory source tenant store
  rw [hresult] at himporting
  refine ⟨?_, ?_, ?_, ?_⟩
  · intro hnone
    cases himporting with
    | castRefused => exact ⟨⟨_, rfl⟩, rfl⟩
    | castUnsaved hcast => exact absurd hcast (hnone _ _)
    | scriptRefused hsaved => exact absurd hsaved.toCastReady (hnone _ _)
    | scriptUnsaved hsaved => exact absurd hsaved.toCastReady (hnone _ _)
    | imported hsaved => exact absurd hsaved.toCastReady (hnone _ _)
  · intro owner records made hsaved
    obtain ⟨cast, hidentifies, -, -, hover⟩ := hsaved.overwritten hstore
    refine ⟨⟨cast, hidentifies, hover⟩, fun hnone => ?_⟩
    cases himporting with
    | castRefused hbad => exact absurd hsaved.toCastReady (hbad _ _)
    | castUnsaved hcast hfails => cases (hsaved.left_eq hcast hfails).1
    | scriptRefused hother =>
        exact ⟨⟨_, rfl⟩, (hsaved.left_eq hother.toCastReady hother.gives).2⟩
    | scriptUnsaved hother hscript =>
        exact absurd ((hother.scriptReady_iff hstore).mp hscript) (hnone _)
    | imported hother hscript =>
        exact absurd ((hother.scriptReady_iff hstore).mp hscript) (hnone _)
  · rintro counts rfl
    cases himporting with
    | @imported owner records lines made _ hsaved hscript hgives =>
        obtain ⟨cast, hcast, hmade, -, hfirst⟩ := hsaved.overwritten hstore
        rw [hsaved.tenant_eq] at hgives
        obtain ⟨script, hlines, -, -, hsecond⟩ :=
          hmade.overwritten_of_gives_keep isFileName_scenario.toIsName hgives
        exact ⟨owner, records, lines, cast, script, hsaved.toCastReady,
          (hsaved.scriptReady_iff hstore).mp hscript, rfl, hcast, hlines, hfirst.trans hsecond⟩
  · rintro fault rfl hrefusal
    cases himporting with
    | castRefused hbad => exact Or.inl hbad
    | castUnsaved hcast hfails =>
        rw [hcast.tenant_eq] at hfails
        rcases fault_of_keep (gives_collection hstore.root_eq hcast.isKey "characters")
          hcast.importable.hasKey hfails with ⟨reason, hreason⟩ | ⟨hdeep, hrecord⟩
        · exact absurd hreason (hrefusal reason)
        · exact Or.inr (Or.inr ⟨hdeep, _, _, hcast, Or.inl hrecord⟩)
    | @scriptRefused owner records fault made hsaved hbad =>
        refine Or.inr (Or.inl ⟨⟨owner, records, hsaved⟩, fun lines hready => hbad lines ?_⟩)
        exact (hsaved.scriptReady_iff hstore).mpr hready
    | scriptUnsaved hsaved hscript hfails =>
        obtain ⟨-, -, hmade, -, -⟩ := hsaved.overwritten hstore
        rw [hsaved.tenant_eq] at hfails
        rcases fault_of_keep (gives_collection hmade.root_eq hsaved.isKey "scenario")
          hscript.hasKey hfails with ⟨reason, hreason⟩ | ⟨hdeep, hline⟩
        · exact absurd hreason (hrefusal reason)
        · exact Or.inr (Or.inr ⟨hdeep, _, _, hsaved.toCastReady,
            Or.inr ⟨_, (hsaved.scriptReady_iff hstore).mp hscript, hline⟩⟩)

end

end

theorem initialised_besideStory (records lines : List Json) :
    (besideStory records lines).Initialised (Path.ofText "data") ["data", "tenants"] := by
  show (newWith [(["story"], .directory), (["story", charactersFile], .file _),
    (["story", scenarioFile], .file _)]).Initialised _ _
  have hnodup : [["data"], ["data", "tenants"], ["story"], ["story", charactersFile],
      ["story", scenarioFile]].Nodup := by decide
  refine initialised_newWith hnodup ?_
  have hstory : IsName "story" := Key.isName_of_isKey (by decide)
  have hcharacters : IsName charactersFile := @isName_documentName "characters" (by decide)
  simp only [OrderedMap.keys, List.map_cons, List.map_nil, List.forall_mem_cons]
  exact ⟨⟨hstory, List.forall_mem_nil _⟩, ⟨hstory, hcharacters, List.forall_mem_nil _⟩,
    ⟨hstory, isName_scenarioFile, List.forall_mem_nil _⟩, List.forall_mem_nil _⟩

/-- The record of a smile. -/
def mikaSmiles : Json :=
  .obj [("characterId", .str "mika"), ("expressionId", .str "smile")]

/-- If a line of the script is no object, then the import fails and leaves the cast saved. -/
theorem importDirectory_of_bad_line :
    ∃ made fault,
      CastSaved (besideStory [mikaSmiles] [.int 5]) made (Path.ofText "story") (.str "shop") "shop"
          [mikaSmiles] ∧
        result (importDirectory (Path.ofText "story") (.str "shop"))
            (besideStory [mikaSmiles] [.int 5]) = (.error fault, made) := by
  obtain ⟨hrecords, hlines⟩ := holdsArray_besideStory [mikaSmiles] [.int 5] (by decide) (by decide)
    (by decide) (by decide)
  have hids : ∀ document ∈ [("mika_smile", mikaSmiles)],
      DocumentId.ofCharacter document.2 = .ok document.1 :=
    List.forall_mem_singleton.mpr (by decide +kernel)
  obtain ⟨added, files, hkeep, -⟩ := gives_keep (ready_besideStory [mikaSmiles] [.int 5])
    (show Key.isKey "shop" = true by decide) (by decide) isFileName_characters
    (vacant_besideStory _ _ _) hids ⟨by decide, by decide, by decide⟩ (by decide)
  have hsaved : CastSaved (besideStory [mikaSmiles] [.int 5])
      { besideStory [mikaSmiles] [.int 5] with files } (Path.ofText "story") (.str "shop") "shop"
      [mikaSmiles] := by
    refine ⟨⟨rfl, by decide, hrecords, List.forall_mem_singleton.mpr ?_⟩, hkeep⟩
    exact ⟨"mika_smile", hids _ (List.mem_singleton_self _), by decide⟩
  have hresult : result (importDirectory (Path.ofText "story") (.str "shop"))
      (besideStory [mikaSmiles] [.int 5]) = (_, _) := rfl
  obtain ⟨-, hcast, -, -⟩ := importDirectory_by_collection (initialised_besideStory _ _) hresult
  obtain ⟨⟨fault, hfault⟩, hleft⟩ := (hcast _ _ _ hsaved).2 fun lines hready => by
    obtain rfl := hlines.unique hready.holds
    obtain ⟨id, hid, -⟩ := hready.hasKey _ (List.mem_singleton_self _)
    cases hid
  exact ⟨_, fault, hsaved, Prod.ext hfault hleft⟩

end VisualNovel.Store
