import VisualNovel.Proofs.Client.Catalog
import VisualNovel.Proofs.Http.Reachable
import VisualNovel.Proofs.Http.UnknownCode

/-!
# The demo story forgets the past

Whatever the program has done to its store, making the demo story leads to one and the same story.
What is in the directory of its tenant does not depend on what was there before, and other tenants
keep what they have, also those whose names begin like that of the demo tenant.

A client notices three things: no save of the demo tenant is found any more, the commands that are
loaded are those of the demo script in their order, and making the story once more changes nothing
(`create_forgets`).
-/

namespace VisualNovel

open Store Json

variable {store store' : Store} {root root' : Path} {place place' : Location}

/-! ## The records of the demo story -/

/-- A command as a line of a script, if it is plain and its number fits. -/
def ScriptLine.ofCommand (command : Command)
    (hfits : (Numeral.ofInt command.order).length ≤ 250 ∧
      isPlain (command.toJson .inside) = true) : ScriptLine where
  fields := [("order", .int command.order), ("command", .str command.kind),
    ("param1", .str command.param1), ("param2", .str command.param2),
    ("param3", .str command.param3)]
  order := command.order
  order_eq := rfl
  short := hfits.1
  texts := by
    intro name hmem
    simp only [textFields, List.mem_cons, List.not_mem_nil, or_false] at hmem
    rcases hmem with rfl | rfl | rfl | rfl <;> rfl
  plain := hfits.2

/-- A record as an entry of the cast, if it is plain and its ids make a key that fits. -/
def CastEntry.ofRecord (record : CharacterRecord)
    (hfits : Key.isKey (record.character ++ "_" ++ record.expression) = true ∧
      (record.character ++ "_" ++ record.expression).length ≤ 250 ∧
      isPlain (record.toJson ⟨true, true⟩) = true) : CastEntry where
  fields := [("characterId", .str record.character), ("characterName", .str record.name),
    ("expressionId", .str record.expression), ("imageUrl", .str record.image)]
  character := record.character
  expression := record.expression
  character_eq := rfl
  expression_eq := rfl
  isKey := hfits.1
  short := hfits.2.1
  name_text := rfl
  image_text := rfl
  plain := hfits.2.2

/-- The lines of the demo story. -/
def ScriptLine.demo : List ScriptLine :=
  Demo.script.pmap ScriptLine.ofCommand (by decide +kernel)

/-- The entries of the cast of the demo story. -/
def CastEntry.demo : List CastEntry :=
  Demo.records.pmap CastEntry.ofRecord (by decide +kernel)

theorem ScriptLine.map_demo {α : Type} {f : ScriptLine → α} {g : Command → α}
    (hsame : ∀ command hfits, f (ofCommand command hfits) = g command) :
    demo.map f = Demo.script.map g := by
  rw [demo, List.map_pmap]
  simp only [hsame]
  exact List.pmap_eq_map ..

theorem CastEntry.map_demo {α : Type} {f : CastEntry → α} {g : CharacterRecord → α}
    (hsame : ∀ record hfits, f (ofRecord record hfits) = g record) :
    demo.map f = Demo.records.map g := by
  rw [demo, List.map_pmap]
  simp only [hsame]
  exact List.pmap_eq_map ..

theorem ScriptLine.exists_of_mem_demo {line : ScriptLine} (hmem : line ∈ demo) :
    ∃ command ∈ Demo.script, line.value = command.toJson .inside := by
  obtain ⟨command, hcommand, rfl⟩ := List.mem_pmap.mp hmem
  exact ⟨command, hcommand, rfl⟩

theorem CastEntry.exists_of_mem_demo {entry : CastEntry} (hmem : entry ∈ demo) :
    ∃ record ∈ Demo.records, entry.value = record.toJson ⟨true, true⟩ := by
  obtain ⟨record, hrecord, rfl⟩ := List.mem_pmap.mp hmem
  exact ⟨record, hrecord, rfl⟩

/-- A record with few arrays and objects within one another gets from the store to a client. -/
theorem GetsThrough.of_shallow [Room] {record : Json} (name : String)
    (hshallow : nesting record ≤ 4 ∧ nesting (Http.published record) ≤ 2)
    (hplain : isPlain (Http.published record) = true)
    (hsendable : isSendable (Http.published record) = true) : GetsThrough name record where
  shallow := hshallow.1.trans (Room.four_le_depth .collection)
  arrives := by
    have hroom : 2 ≤ Room.depth .response - 2 :=
      Nat.le_sub_of_add_le (Room.four_le_depth .response)
    have hsent : nesting (.obj [(name, .arr [Http.published record])]) ≤ 4 := by
      rw [nesting_singleton, nesting]
      exact Nat.add_le_add_right (itemsNesting_le_iff.mpr
        (List.forall_mem_singleton.mpr hshallow.2)) 2
    exact ⟨⟨hplain, hsendable, hshallow.2.trans hroom⟩, Room.sends_of_nesting_le hsent⟩

theorem ScriptLine.getsThrough_demo [Room] : ∀ line ∈ demo, GetsThrough "scenario" line.value := by
  have hscript : ∀ command ∈ Demo.script,
      (nesting (command.toJson .inside) ≤ 4 ∧
        nesting (Http.published (command.toJson .inside)) ≤ 2) ∧
      isPlain (Http.published (command.toJson .inside)) = true ∧
        isSendable (Http.published (command.toJson .inside)) = true := by
    decide +kernel
  intro line hmem
  obtain ⟨command, hcommand, hvalue⟩ := exists_of_mem_demo hmem
  obtain ⟨hshallow, hplain, hsendable⟩ := hscript command hcommand
  rw [hvalue]
  exact .of_shallow "scenario" hshallow hplain hsendable

theorem CastEntry.getsThrough_demo [Room] :
    ∀ entry ∈ demo, GetsThrough "characters" entry.value := by
  have hrecords : ∀ record ∈ Demo.records,
      (nesting (record.toJson ⟨true, true⟩) ≤ 4 ∧
        nesting (Http.published (record.toJson ⟨true, true⟩)) ≤ 2) ∧
      isPlain (Http.published (record.toJson ⟨true, true⟩)) = true ∧
        isSendable (Http.published (record.toJson ⟨true, true⟩)) = true := by
    decide +kernel
  intro entry hmem
  obtain ⟨record, hrecord, hvalue⟩ := exists_of_mem_demo hmem
  obtain ⟨hshallow, hplain, hsendable⟩ := hrecords record hrecord
  rw [hvalue]
  exact .of_shallow "characters" hshallow hplain hsendable

theorem sorted_demo : Command.sorted Demo.script = Demo.script :=
  List.mergeSort_of_pairwise (by decide +kernel)

/-! ## The catalog -/

variable {endpoint : Endpoint} {scenario : String}

/-- The script of the demo story is loaded as it is. -/
theorem loadCatalog_demo [Room] (server : Http.Server) (hready : store.Ready root place)
    (hcast : Holds store.files root place Demo.tenant "characters" demoCast)
    (hscript : Holds store.files root place Demo.tenant "scenario" demoScript)
    (hreaches : endpoint.Reaches) (hscenario : scenario ≠ "")
    (hencodable : Text.isEncodable scenario = true) :
    ∃ catalog,
      (loadCatalog (endpoint.gateway (Transport.toServer server)) Demo.tenant scenario).run store =
        (.ok catalog, store) ∧ catalog.commands = Demo.script := by
  have hlines : ScriptLine.demo.map ScriptLine.document = demoScript :=
    ScriptLine.map_demo fun _ _ => rfl
  have hentries : CastEntry.demo.map CastEntry.document = demoCast :=
    CastEntry.map_demo fun _ _ => rfl
  have hcommands : ScriptLine.demo.map ScriptLine.command = Demo.script :=
    (ScriptLine.map_demo fun _ _ => rfl).trans (List.map_id _)
  have horders : (ScriptLine.demo.map ScriptLine.order).Nodup := by
    rw [@ScriptLine.map_demo Int ScriptLine.order Command.order fun _ _ => rfl]
    decide +kernel
  have hids : (CastEntry.demo.map CastEntry.id).Nodup := by
    have hids := identified_demoCast.nodup
    rwa [← hentries, List.map_map] at hids
  obtain ⟨hload, -⟩ := loadCatalog_of_holds server hready isKey_demo (by decide)
    (hlines ▸ hscript) (hentries ▸ hcast) horders hids hreaches hscenario hencodable
  obtain ⟨ordered, -, hloaded⟩ := hload ScriptLine.getsThrough_demo CastEntry.getsThrough_demo
  rw [hcommands, sorted_demo] at hloaded
  exact ⟨_, hloaded, rfl⟩

/-! ## The past is forgotten -/

/-- No save of the demo tenant is found when nothing is where its saves are kept. -/
theorem unknown_of_demoAt? [Room] (hstore : store.Renewable root place)
    (hwithin : ∀ names, store.files.entry? (place ++ Demo.tenant :: names) = demoAt? names)
    {code : String} (hfits : code.length + 5 ≤ FileTree.nameLimit) :
    Gives (save? (.str Demo.tenant) (.str code)) store none store := by
  have hunknown : store.IsUnknown place Demo.tenant code := by
    intro content hentry
    rw [collectionPlace_eq, List.append_assoc] at hentry
    rw [show [Demo.tenant, "saveData"] ++ [documentName code] =
        Demo.tenant :: ["saveData", documentName code] from rfl, hwithin,
      demoAt?_saveData] at hentry
    cases hentry
  rcases result_save?_unknown hstore.initialised isKey_demo (by decide) hunknown with
    ⟨hkey, hlong, -⟩ | ⟨-, hnone⟩
  · exact absurd hlong (hstore.ready.not_tooLongFor isKey_demo (by decide) hkey hfits)
  · exact hnone

/-- **Making the demo story forgets the past.**  In any two stores to which the program can come,
the demo story can be made, and then the directory of its tenant is the same in both, with all that
is below it.  Everything else is as it was.  No save of the demo tenant is found: not under the
codes of earlier saves, which have eight characters, and not under any other code whose file could
have a name.  Making the story once more changes nothing, and the commands that are loaded are
those of the script. -/
theorem create_forgets [Room] (hstore : Reachable root place store)
    (hstore' : Reachable root' place' store') :
    ∃ files files',
      let left : Store := { store with files := files }
      Gives Demo.create store () left ∧
      Gives Demo.create store' () { store' with files := files' } ∧
      (∀ names, files.entry? (place ++ [Demo.tenant] ++ names) =
        files'.entry? (place' ++ [Demo.tenant] ++ names)) ∧
      (files.workingDirectory = store.files.workingDirectory ∧
        ∀ location, ¬ place ++ [Demo.tenant] <+: location →
          files.entry? location = store.files.entry? location) ∧
      (∀ code, code.length + 5 ≤ FileTree.nameLimit →
        Gives (save? (.str Demo.tenant) (.str code)) left none left ∧
          ∀ (server : Http.Server) request,
            server.task? request = some (Demo.tenant, .load code) →
              (server.handle request).run left =
                (.ofDetail 404 (.obj [("status", .str "not-found"),
                  ("message", .str "Save data not found.")]), left)) ∧
      (∃ again, Gives Demo.create left () { left with files := again } ∧
        again.workingDirectory = files.workingDirectory ∧
          ∀ location, again.entry? location = files.entry? location) ∧
      ∀ (endpoint : Endpoint) (server : Http.Server) scenario, endpoint.Reaches →
        scenario ≠ "" → Text.isEncodable scenario = true →
          ∃ catalog,
            (loadCatalog (endpoint.gateway (Transport.toServer server)) Demo.tenant scenario).run
                left = (.ok catalog, left) ∧
              catalog.commands = Demo.script := by
  obtain ⟨files, hcreate, hrenewable, hworking, hwithin, houtside, hcast, hscript⟩ :=
    hstore.renewable.gives_create
  obtain ⟨files', hcreate', -, -, hwithin', -⟩ := hstore'.renewable.gives_create
  obtain ⟨again, hagain, -, hworking₂, hwithin₂, houtside₂, -⟩ := hrenewable.gives_create
  refine ⟨files, files', hcreate, hcreate', fun names => ?_, ⟨hworking, houtside⟩,
    fun code hfits => ?_, ⟨again, hagain, hworking₂, fun location => ?_⟩,
    fun endpoint server scenario hreaches hscenario hencodable =>
      loadCatalog_demo server hrenewable.ready hcast hscript hreaches hscenario hencodable⟩
  · rw [List.append_assoc, List.append_assoc, List.singleton_append, hwithin, hwithin']
  · have hnone := unknown_of_demoAt? hrenewable hwithin hfits
    exact ⟨hnone, fun server request htask =>
      (Http.Server.handle_of_result_save? htask hnone.result_eq).2 rfl⟩
  · by_cases hbelow : place ++ [Demo.tenant] <+: location
    · obtain ⟨names, rfl⟩ := hbelow
      rw [List.append_assoc, List.singleton_append, hwithin, hwithin₂]
    · exact houtside₂ location hbelow

/-- A new store on some day. -/
def morning : Store := { newWith [] with clock := ⟨2024, 1, 2, 0, 0, 0, 0⟩, draws := [] }

/-- The store when somebody has begun the demo story and saved. -/
def begun : Store :=
  Deed.after (Path.ofText "data") morning
    (.calls (.createSave (.str Demo.tenant) (.obj [("line", .int 3)])) trivial)

theorem new_newWith : (newWith []).New (Path.ofText "data") ["data", "tenants"] :=
  ⟨ready_newWith [], renewable_newWith.wellFormed, fun _ => entry?_newWith_nil⟩

/-- The save is found until the demo story is made.  Then there is what there would be without
it. -/
theorem create_forgets_begun :
    (∃ data, Gives (save? (.str Demo.tenant) (.str morning.nextCode)) begun (some data) begun) ∧
      ∃ left left', Gives Demo.create begun () left ∧ Gives Demo.create (newWith []) () left' ∧
        (∀ names, left.files.entry? (["data", "tenants", "demo"] ++ names) =
          left'.files.entry? (["data", "tenants", "demo"] ++ names)) ∧
        Gives (save? (.str Demo.tenant) (.str morning.nextCode)) left none left := by
  have hcode : Key.isKey morning.nextCode = true := isKey_nextCode morning
  have hfits : morning.nextCode.length + 5 ≤ FileTree.nameLimit := by
    rw [length_nextCode]
    decide
  constructor
  · have hrecords : Records morning (Path.ofText "data") ["data", "tenants"] IsFileName [] :=
      records_newWith.of_files_eq rfl rfl
    have hplain : isPlain (.obj [("line", .int 3)]) = true := by decide +kernel
    obtain ⟨saved, hcreate, hnoted⟩ := hrecords.gives_createSave isKey_demo (by decide)
      isFileName_saveData hplain (by decide +kernel)
    have hdeed : Gives (createSave (.str Demo.tenant) (.obj [("line", .int 3)]) >>= fun code =>
        pure (some code)) morning (some morning.nextCode) saved := hcreate.bind (gives_pure _ _)
    have hbegun : begun = saved := congrArg Prod.snd hdeed.result_eq
    have hread := hnoted.result_document? isKey_demo (by decide) isFileName_saveData
      isFileName_saveData hcode hfits
    rw [OrderedMap.at?_cons, if_pos rfl, Option.mapM_some,
      reread_of_nesting_le (by decide +kernel)] at hread
    refine ⟨morning.stamped [("line", .int 3)], ?_⟩
    rw [hbegun, save?, Key.isKeyValue, hcode]
    exact hread
  · obtain ⟨files, files', hcreate, hcreate', hsame, -, hcodes, -⟩ :=
      create_forgets ((Reachable.new new_newWith).deed ⟨2024, 1, 2, 0, 0, 0, 0⟩ [] _)
        (Reachable.new new_newWith)
    exact ⟨_, _, hcreate, hcreate', hsame, (hcodes morning.nextCode hfits).1⟩

end VisualNovel
