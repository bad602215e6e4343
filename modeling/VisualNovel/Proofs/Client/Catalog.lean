import VisualNovel.Client.Catalog
import VisualNovel.Proofs.Cast.Entry
import VisualNovel.Proofs.Client.Gateways
import VisualNovel.Proofs.Http.Isolation
import VisualNovel.Proofs.Store.Importing

/-!
# Loading what was imported

A story that is imported and then loaded is the story that was in the files, if its records get
through a reply.  On the way every record is kept in a file of its own, and the files are listed
by their names; the records come back in that order, without the fields that are kept back, and
are read and sorted or grouped again.

* Nothing is merged or lost, because the ids of the documents are different.
* The order of the files does not matter: the commands are sorted by numbers that are all
  different, and the cast tells the same in any order.
* The fields that are kept back are none of those that are read.

Two things about a record can keep it from getting through (`GetsThrough`): an unpaired unit in a
text, and a depth for which there is no room, in the store, in the reply or at the client.  What is
kept back matters in the store only.  And if one record does not get through, nothing is loaded.
-/

namespace VisualNovel

open Json

variable {store : Store} {root : Path} {place : Location} {tenant scenario : String}
  {endpoint : Endpoint} {server : Http.Server} {lines : List ScriptLine}
  {entries : List CastEntry}

/-! ## Replies -/

theorem portable_scenarioPayload (htenant : Key.isKey tenant = true)
    (hencodable : Text.isEncodable scenario = true) :
    Portable (.obj [("tenantId", .str tenant), ("scenarioName", .str scenario)]) 3 := by
  have hnodup : ["tenantId", "scenarioName"].Nodup := by decide
  have hnames : Text.isEncodable "tenantId" = true ∧ Text.isEncodable "scenarioName" = true := by
    decide
  refine portable_obj_iff.mpr ⟨hnodup, ?_⟩
  intro field hmem
  rcases List.mem_cons.mp hmem with rfl | hmem
  · exact ⟨hnames.1, portable_text (Key.isEncodable_of_isKey htenant)⟩
  · rw [List.mem_singleton.mp hmem]
    exact ⟨hnames.2, portable_text hencodable⟩

/-- Does a record get from the store to a client, in a reply in which it is an item of an array
under a name? -/
structure GetsThrough [Room] (name : String) (record : Json) : Prop where
  shallow : nesting record ≤ Room.depth .collection
  arrives : Http.Arrives name record

/-- A call for the records of a collection brings what the store holds, in some order, if all of it
gets through; if something does not, the call fails. -/
theorem call_records [Room] {α : Type} {document : α → String × Json} {items : List α}
    {callable : Callable} {task : Task} {name collection : String} {payload : Fields}
    (server : Http.Server) (hready : store.Ready root place) (htenant : Key.isKey tenant = true)
    (hshort : tenant.length ≤ FileTree.nameLimit) (hcollection : IsFileName collection)
    (hholds : Store.Holds store.files root place tenant collection (items.map document))
    (hidentified : Store.Identified (items.map document))
    (hplain : ∀ item ∈ items, isPlain (document item).2 = true)
    (hreaches : endpoint.Reaches) (hpayload : Portable (.obj payload) 3)
    (hname : name.startsWith "_sa" = false) (hencodable : Text.isEncodable name = true)
    (htask : callable.task? (.obj [("data", .obj payload)]) = some (tenant, task))
    (haction : task.action tenant = do
      return Callable.reply name (.arr (← Store.documents (.str tenant) (.str collection)))) :
    ((∀ item ∈ items, GetsThrough name (document item).2) →
        ∃ ordered : List α, ordered.Perm items ∧
          ((endpoint.gateway (Transport.toServer server)).call callable.name (.obj payload)).run
              store =
            (.ok (.obj [(name, .arr (ordered.map fun item => Http.published (document item).2))]),
              store)) ∧
      ((∃ item ∈ items, ¬ GetsThrough name (document item).2) →
        ∃ fault,
          ((endpoint.gateway (Transport.toServer server)).call callable.name (.obj payload)).run
            store = (.error fault, store)) := by
  obtain ⟨ordered, hperm, hread⟩ := hholds.result_documents hready htenant hshort hcollection
    hidentified fun item hmem => isExact_of_isPlain (hplain item hmem)
  have hserve := Callable.run_serve htask store
  rw [haction, Store.result_bind, hread] at hserve
  by_cases hshallow : ∀ item ∈ ordered, nesting (document item).2 ≤ Room.depth .collection
  · -- the records are read, so it is for the reply whether they get through
    rw [Store.mapM_of_ok fun item hmem => Store.reread_of_nesting_le (hshallow item hmem)] at hserve
    have hcall := Endpoint.call_of_served server hreaches hpayload hserve
    obtain ⟨harrive, hlost⟩ := Http.reply_records callable.name hname hencodable
      (List.forall_mem_map.mpr fun item hmem => hplain item (hperm.mem_iff.mp hmem))
    constructor
    · intro hall
      refine ⟨ordered, hperm, hcall.trans ?_⟩
      have hreply := harrive (List.forall_mem_map.mpr fun item hmem =>
        (hall item (hperm.mem_iff.mp hmem)).arrives)
      rw [List.map_map] at hreply
      exact congrArg (fun reply => (reply, store)) hreply
    · rintro ⟨item, hmem, hnot⟩
      have hmem' := hperm.mem_iff.mpr hmem
      obtain ⟨fault, hfault⟩ := hlost ⟨_, List.mem_map_of_mem hmem',
        fun harrives => hnot ⟨hshallow item hmem', harrives⟩⟩
      exact ⟨fault, hcall.trans (congrArg (fun reply => (reply, store)) hfault)⟩
  · simp only [not_forall] at hshallow
    obtain ⟨item, hmem, hdeep⟩ := hshallow
    obtain ⟨container, hexcess⟩ := exists_excess (Nat.lt_of_not_le hdeep)
    have hitem : Store.reread .collection (document item).2 =
        .error (.unreadable (.text (.tooDeep container))) := by
      rw [Store.reread, hexcess]
    obtain ⟨fault, hfault⟩ := @Store.mapM_of_error _ _
      (fun item => Store.reread .collection (document item).2) _ _ _ hmem hitem
    rw [hfault] at hserve
    have hcall := Endpoint.call_of_served server hreaches hpayload hserve
    refine ⟨fun hall => absurd (hall item (hperm.mem_iff.mp hmem)).shallow hdeep, fun _ => ?_⟩
    exact ⟨_, hcall.trans (congrArg (fun reply => (reply, store)) (Http.reply_serverError _))⟩

/-- The catalog in replies with records that are read as the lines and the entries. -/
theorem catalogOfReplies_of_read {sentLine : ScriptLine → Json} {sentEntry : CastEntry → Json}
    (hlines : ∀ line ∈ lines, Command.read (sentLine line) = .accepted line.command)
    (hentries : ∀ entry ∈ entries,
      CharacterRecord.read (sentEntry entry) = .accepted entry.record) :
    catalogOfReplies (.obj [("scenario", .arr (lines.map sentLine))])
        (.obj [("characters", .arr (entries.map sentEntry))]) =
      .ok ⟨Command.sorted (lines.map ScriptLine.command),
        Cast.ofRecords (entries.map CastEntry.record)⟩ := by
  have hscript : replyField "scenario" (.arr [])
      (.obj [("scenario", .arr (lines.map sentLine))]) = .ok (.arr (lines.map sentLine)) := rfl
  have hcast : replyField "characters" (.arr [])
      (.obj [("characters", .arr (entries.map sentEntry))]) =
      .ok (.arr (entries.map sentEntry)) := rfl
  simp only [catalogOfReplies, hscript, hcast, ScriptLine.script_of_read hlines,
    CastEntry.cast_of_read hentries, Except.mapError, bind, Except.bind, pure, Except.pure]

/-! ## Loading -/

/-- What a store holds is loaded, in some order, if all of it gets through; if something does
not, nothing is loaded. -/
theorem loadCatalog_of_holds [Room] (server : Http.Server) (hready : store.Ready root place)
    (htenant : Key.isKey tenant = true) (hshort : tenant.length ≤ FileTree.nameLimit)
    (hlines : Store.Holds store.files root place tenant "scenario" (lines.map ScriptLine.document))
    (hentries : Store.Holds store.files root place tenant "characters"
      (entries.map CastEntry.document))
    (horders : (lines.map ScriptLine.order).Nodup) (hids : (entries.map CastEntry.id).Nodup)
    (hreaches : endpoint.Reaches) (hscenario : scenario ≠ "")
    (hencodable : Text.isEncodable scenario = true) :
    ((∀ line ∈ lines, GetsThrough "scenario" line.value) →
        (∀ entry ∈ entries, GetsThrough "characters" entry.value) →
      ∃ ordered : List CastEntry, ordered.Perm entries ∧
        (loadCatalog (endpoint.gateway (Transport.toServer server)) tenant scenario).run store =
          (.ok ⟨Command.sorted (lines.map ScriptLine.command),
            Cast.ofRecords (ordered.map CastEntry.record)⟩, store)) ∧
      ((∃ line ∈ lines, ¬ GetsThrough "scenario" line.value) ∨
          (∃ entry ∈ entries, ¬ GetsThrough "characters" entry.value) →
        ∃ fault,
          (loadCatalog (endpoint.gateway (Transport.toServer server)) tenant scenario).run store =
            (.error fault, store)) := by
  obtain ⟨harrive, hlost⟩ := call_records server hready htenant hshort Store.isFileName_scenario
    hlines (ScriptLine.identified horders) (fun line _ => line.plain) hreaches
    (portable_scenarioPayload htenant hencodable)
    (by decide +kernel : "scenario".startsWith "_sa" = false) (by decide)
    (Callable.task?_getScenario htenant hscenario) rfl
  obtain ⟨harrive', hlost'⟩ := call_records server hready htenant hshort
    Store.isFileName_characters hentries (CastEntry.identified hids) (fun entry _ => entry.plain)
    hreaches (portable_singleton (by decide) (portable_text (Key.isEncodable_of_isKey htenant)))
    (by decide +kernel : "characters".startsWith "_sa" = false) (by decide)
    (Callable.task?_getCharacters htenant) rfl
  constructor
  · intro hlinesThrough hentriesThrough
    obtain ⟨script, hscript, hcall⟩ := harrive hlinesThrough
    obtain ⟨ordered, hordered, hcall'⟩ := harrive' hentriesThrough
    have hcatalog := @catalogOfReplies_of_read script ordered
      (fun line => Http.published line.value) (fun entry => Http.published entry.value)
      (fun line _ => line.read_published)
      (fun entry _ => entry.read_published)
    refine ⟨ordered, hordered, (loadCatalog_of_calls hcall hcall').trans ?_⟩
    -- the order in which the lines came is gone once they are sorted
    rw [ScriptLine.sorted_eq_of_perm hscript.symm horders]
    exact congrArg (fun loaded => (loaded, store)) hcatalog
  · intro hsome
    -- a call that fails is the one that is told, and the first one if both do
    by_cases hlinesThrough : ∀ line ∈ lines, GetsThrough "scenario" line.value
    · have hentry := hsome.resolve_left fun ⟨line, hmem, hnot⟩ => hnot (hlinesThrough line hmem)
      obtain ⟨script, -, hcall⟩ := harrive hlinesThrough
      obtain ⟨fault, hcall'⟩ := hlost' hentry
      exact ⟨fault, loadCatalog_of_calls hcall hcall'⟩
    · simp only [not_forall] at hlinesThrough
      obtain ⟨line, hmem, hnot⟩ := hlinesThrough
      obtain ⟨fault, hcall⟩ := hlost ⟨line, hmem, hnot⟩
      obtain ⟨reply, hcall'⟩ : ∃ reply,
          ((endpoint.gateway (Transport.toServer server)).call "getCharacters"
            (.obj [("tenantId", .str tenant)])).run store = (reply, store) := by
        by_cases hentriesThrough : ∀ entry ∈ entries, GetsThrough "characters" entry.value
        · obtain ⟨_, -, hcall'⟩ := harrive' hentriesThrough
          exact ⟨_, hcall'⟩
        · simp only [not_forall] at hentriesThrough
          obtain ⟨entry, hmem', hnot'⟩ := hentriesThrough
          obtain ⟨_, hcall'⟩ := hlost' ⟨entry, hmem', hnot'⟩
          exact ⟨_, hcall'⟩
      exact ⟨fault, loadCatalog_of_calls hcall hcall'⟩

/-- **What was imported is loaded, if it gets through.**  The files of a story are imported for a
tenant without documents, unless there is no room to write one of the records.  If all records get
from the store through a reply, the catalog of the tenant is loaded then; the script is that of the
file with the script lines, and the cast tells the same as that of the file with the character
records.  If some record does not get through, no catalog is loaded. -/
theorem loadCatalog_of_imported [Room] {source : Path} (hready : store.Ready root place)
    (htenant : Key.isKey tenant = true) (hshort : tenant.length ≤ FileTree.nameLimit)
    (hcharacters : Store.Vacant store.files place tenant "characters")
    (hscript : Store.Vacant store.files place tenant "scenario")
    (hentries : Store.HoldsArray store.files (source.child Store.charactersFile)
      (entries.map CastEntry.value))
    (hlines : Store.HoldsArray store.files (source.child Store.scenarioFile)
      (lines.map ScriptLine.value))
    (horders : (lines.map ScriptLine.order).Nodup) (hids : (entries.map CastEntry.id).Nodup)
    (hnames : ∀ first ∈ entries, ∀ second ∈ entries, first.character = second.character →
      first.text CharacterRecord.Part.name = second.text CharacterRecord.Part.name)
    (hreaches : endpoint.Reaches) (hscenario : scenario ≠ "")
    (hencodable : Text.isEncodable scenario = true) :
    ((∃ entry ∈ entries, Room.stores entry.value = false) ∨
        (∃ line ∈ lines, Room.stores line.value = false) →
      ∃ fault left,
        Store.result (Store.importDirectory source (.str tenant)) store = (.error fault, left)) ∧
    ((∀ entry ∈ entries, Room.stores entry.value = true) →
        (∀ line ∈ lines, Room.stores line.value = true) →
      ∃ files,
        Store.Gives (Store.importDirectory source (.str tenant)) store
            ⟨entries.length, lines.length⟩ { store with files } ∧
          ((∀ line ∈ lines, GetsThrough "scenario" line.value) →
            (∀ entry ∈ entries, GetsThrough "characters" entry.value) →
            ∃ catalog cast,
              (loadCatalog (endpoint.gateway (Transport.toServer server)) tenant scenario).run
                  { store with files } = (.ok catalog, { store with files }) ∧
                Command.script (.arr (lines.map ScriptLine.value)) = .ok catalog.commands ∧
                Cast.ofCollection (.arr (entries.map CastEntry.value)) = .ok cast ∧
                (∀ character, catalog.characters.name? character = cast.name? character) ∧
                ∀ resolver character expression,
                  catalog.portraitAddress resolver character expression =
                    Catalog.portraitAddress ⟨catalog.commands, cast⟩ resolver character
                      expression) ∧
          ((∃ line ∈ lines, ¬ GetsThrough "scenario" line.value) ∨
              (∃ entry ∈ entries, ¬ GetsThrough "characters" entry.value) →
            ∃ fault,
              (loadCatalog (endpoint.gateway (Transport.toServer server)) tenant scenario).run
                { store with files } = (.error fault, { store with files }))) := by
  have hrecords : Store.HoldsArray store.files (source.child Store.charactersFile)
      ((entries.map CastEntry.document).map Prod.snd) := by
    rw [List.map_map]
    exact hentries
  have hlines' : Store.HoldsArray store.files (source.child Store.scenarioFile)
      ((lines.map ScriptLine.document).map Prod.snd) := by
    rw [List.map_map]
    exact hlines
  have hrecordIds : ∀ document ∈ entries.map CastEntry.document,
      DocumentId.ofCharacter document.2 = .ok document.1 :=
    List.forall_mem_map.mpr fun entry _ => entry.ofCharacter_value
  have hlineIds : ∀ document ∈ lines.map ScriptLine.document,
      DocumentId.ofLine document.2 = .ok document.1 :=
    List.forall_mem_map.mpr fun line _ => line.ofLine_value
  constructor
  · intro hsome
    rcases hrun : Store.result (Store.importDirectory source (.str tenant)) store with
      ⟨fault | counts, left⟩
    · exact ⟨fault, left, rfl⟩
    · obtain ⟨hcast, hkept⟩ := Store.stores_of_gives_importDirectory hready htenant hshort
        hcharacters hrecords hlines' hrecordIds hlineIds (CastEntry.identified hids)
        (ScriptLine.identified horders) hrun
      rcases hsome with ⟨entry, hmem, hnot⟩ | ⟨line, hmem, hnot⟩
      · cases hnot.symm.trans (hcast _ (List.mem_map_of_mem hmem))
      · cases hnot.symm.trans (hkept _ (List.mem_map_of_mem hmem))
  intro hentriesStored hlinesStored
  obtain ⟨files, himport, hready', hcast, hkept⟩ := Store.gives_importDirectory hready htenant
    hshort hcharacters hscript hrecords hlines' hrecordIds hlineIds (CastEntry.identified hids)
    (ScriptLine.identified horders) (List.forall_mem_map.mpr hentriesStored)
    (List.forall_mem_map.mpr hlinesStored)
  rw [List.length_map, List.length_map] at himport
  obtain ⟨hload, hlost⟩ := loadCatalog_of_holds server hready' htenant hshort hkept hcast
    horders hids hreaches hscenario hencodable
  refine ⟨files, himport, ?_, hlost⟩
  intro hlinesArrive hentriesArrive
  obtain ⟨ordered, hperm, hloaded⟩ := hload hlinesArrive hentriesArrive
  -- the cast that is loaded is made of the same records in another order
  have htells := (CastEntry.tellsSame_of_perm hperm.symm hids hnames).symm
  exact ⟨_, _, hloaded,
    ScriptLine.script_of_read fun line _ => line.read_value,
    CastEntry.cast_of_read fun entry _ => entry.read_value,
    htells.name?_eq, fun resolver character expression =>
      htells.portraitAddress_eq _ _ resolver character expression⟩

/-! ## A small story -/

/-- The second line of a script and then the first one, with a field that is kept back. -/
def ScriptLine.samples : List ScriptLine :=
  [{ fields := [("order", .int 2), ("command", .str "text"), ("param2", .str "Good night.")]
     order := 2
     order_eq := rfl
     short := by decide
     texts := by decide
     plain := by decide },
   { fields := [("order", .int 1), ("command", .str "char_show"), ("param1", .str "mika"),
       ("param3", .null), ("_sa_note", .arr [.int 7])]
     order := 1
     order_eq := rfl
     short := by decide
     texts := by decide
     plain := by decide }]

/-- Two expressions of one character. -/
def CastEntry.samples : List CastEntry :=
  [{ fields := [("characterId", .str "mika"), ("characterName", .str "Mika"),
       ("expressionId", .str "smile"), ("imageUrl", .str "mika-smile.png")]
     character := "mika"
     expression := "smile"
     character_eq := rfl
     expression_eq := rfl
     isKey := by decide
     short := by decide
     name_text := rfl
     image_text := rfl
     plain := by decide },
   { fields := [("characterId", .str "mika"), ("character_name", .str "Mika"),
       ("expressionId", .str "angry")]
     character := "mika"
     expression := "angry"
     character_eq := rfl
     expression_eq := rfl
     isKey := by decide
     short := by decide
     name_text := rfl
     image_text := rfl
     plain := by decide }]

/-- The story of the samples is imported and loaded. -/
theorem loadCatalog_of_imported_samples :
    ∃ files catalog cast,
      Store.Gives (Store.importDirectory (Path.ofText "story") (.str "shop"))
          (Store.besideStory (CastEntry.samples.map CastEntry.value)
            (ScriptLine.samples.map ScriptLine.value)) ⟨2, 2⟩
          { Store.besideStory (CastEntry.samples.map CastEntry.value)
            (ScriptLine.samples.map ScriptLine.value) with files } ∧
        (loadCatalog ((Endpoint.ofAddress "http://testserver" (.whole 30)).gateway
            (Transport.toServer {})) "shop" "main").run
            { Store.besideStory (CastEntry.samples.map CastEntry.value)
              (ScriptLine.samples.map ScriptLine.value) with files } =
          (.ok catalog, { Store.besideStory (CastEntry.samples.map CastEntry.value)
            (ScriptLine.samples.map ScriptLine.value) with files }) ∧
        Command.script (.arr (ScriptLine.samples.map ScriptLine.value)) = .ok catalog.commands ∧
        Cast.ofCollection (.arr (CastEntry.samples.map CastEntry.value)) = .ok cast ∧
        (∀ character, catalog.characters.name? character = cast.name? character) ∧
        ∀ resolver character expression,
          catalog.portraitAddress resolver character expression =
            Catalog.portraitAddress ⟨catalog.commands, cast⟩ resolver character expression := by
  have hholds := Store.holdsArray_besideStory (CastEntry.samples.map CastEntry.value)
    (ScriptLine.samples.map ScriptLine.value) (by decide) (by decide) (by decide) (by decide)
  have hnames : ∀ first ∈ CastEntry.samples, ∀ second ∈ CastEntry.samples,
      first.character = second.character →
        first.text CharacterRecord.Part.name = second.text CharacterRecord.Part.name := by
    intro first hfirst second hsecond _
    have hname : ∀ entry ∈ CastEntry.samples, entry.text CharacterRecord.Part.name = "Mika" := by
      intro entry hmem
      rcases List.mem_cons.mp hmem with rfl | hmem
      · rfl
      · rw [List.mem_singleton.mp hmem]
        rfl
    rw [hname first hfirst, hname second hsecond]
  have hlines : ∀ line ∈ ScriptLine.samples, GetsThrough "scenario" line.value := by
    intro line hmem
    rcases List.mem_cons.mp hmem with rfl | hmem
    · exact ⟨by decide, ⟨by decide +kernel, by decide +kernel, by decide +kernel⟩,
        by decide +kernel⟩
    · rw [List.mem_singleton.mp hmem]
      exact ⟨by decide, ⟨by decide +kernel, by decide +kernel, by decide +kernel⟩,
        by decide +kernel⟩
  have hentries : ∀ entry ∈ CastEntry.samples, GetsThrough "characters" entry.value := by
    intro entry hmem
    rcases List.mem_cons.mp hmem with rfl | hmem
    · exact ⟨by decide, ⟨by decide +kernel, by decide +kernel, by decide +kernel⟩,
        by decide +kernel⟩
    · rw [List.mem_singleton.mp hmem]
      exact ⟨by decide, ⟨by decide +kernel, by decide +kernel, by decide +kernel⟩,
        by decide +kernel⟩
  obtain ⟨-, himports⟩ := loadCatalog_of_imported (Store.ready_besideStory _ _)
    (by decide) (by decide) (Store.vacant_besideStory _ _ _) (Store.vacant_besideStory _ _ _)
    hholds.1 hholds.2 (by decide) (by decide) hnames
    (Endpoint.reaches_testserver (.whole 30)) (show "main" ≠ "" by decide) (by decide)
  obtain ⟨files, himport, hload, -⟩ := himports (by decide) (by decide)
  obtain ⟨catalog, cast, hloaded⟩ := hload hlines hentries
  exact ⟨files, catalog, cast, himport, hloaded⟩

/-! ## A text that cannot be sent -/

/-- A line with half of a pair of units in a field that is not read. -/
def ScriptLine.unpaired : ScriptLine where
  fields := [("order", .int 1), ("note", .str (String.singleton (Text.ofCode 0xd800)))]
  order := 1
  order_eq := rfl
  short := by decide
  texts := by decide
  plain := by decide

/-- A line with an unpaired unit is a command, and it is imported, but its script is not
loaded. -/
theorem loadCatalog_with_unpaired_unit :
    Command.script (.arr [ScriptLine.unpaired.value]) = .ok [{ order := 1 }] ∧
      ∃ files fault,
        Store.Gives (Store.importDirectory (Path.ofText "story") (.str "shop"))
            (Store.besideStory [] [ScriptLine.unpaired.value]) ⟨0, 1⟩
            { Store.besideStory [] [ScriptLine.unpaired.value] with files } ∧
          (loadCatalog ((Endpoint.ofAddress "http://testserver" (.whole 30)).gateway
              (Transport.toServer {})) "shop" "main").run
              { Store.besideStory [] [ScriptLine.unpaired.value] with files } =
            (.error fault, { Store.besideStory [] [ScriptLine.unpaired.value] with files }) := by
  have hread : Command.read.collection "Command" (.arr [ScriptLine.unpaired.value]) =
      .ok [{ order := 1 }] := rfl
  have hholds := Store.holdsArray_besideStory [] [ScriptLine.unpaired.value] (by decide) (by decide)
    (by decide) (by decide)
  have htenant : Key.isKey "shop" = true := by decide
  have horders : ([ScriptLine.unpaired].map ScriptLine.order).Nodup := by decide
  obtain ⟨files, himport, hready, hcharacters, hlines⟩ := @Store.gives_importDirectory _ _ _ _
    [] ([ScriptLine.unpaired].map ScriptLine.document) _ _
    (Store.ready_besideStory [] [ScriptLine.unpaired.value]) htenant (by decide)
    (Store.vacant_besideStory _ _ _) (Store.vacant_besideStory _ _ _) hholds.1 hholds.2
    (List.forall_mem_nil _) (List.forall_mem_map.mpr fun line _ => line.ofLine_value)
    ⟨by decide, by decide, by decide⟩ (ScriptLine.identified horders) (List.forall_mem_nil _)
    (by decide)
  have hentries : Store.Holds files (Path.ofText "data") ["data", "tenants"] "shop" "characters"
      (([] : List CastEntry).map CastEntry.document) := hcharacters
  have hlost : ¬ GetsThrough "scenario" ScriptLine.unpaired.value := by
    intro hthrough
    have hsendable := hthrough.arrives.portable.sendable
    revert hsendable
    decide +kernel
  obtain ⟨fault, hload⟩ := (loadCatalog_of_holds {} hready htenant (by decide) hlines hentries
    horders (by decide) (Endpoint.reaches_testserver (.whole 30))
    (show "main" ≠ "" by decide) (by decide)).2
      (Or.inl ⟨_, List.mem_singleton_self _, hlost⟩)
  refine ⟨?_, files, fault, himport, hload⟩
  rw [Command.script, hread]
  show Except.ok (Command.sorted _) = _
  rw [Command.sorted, List.mergeSort_singleton]

end VisualNovel
