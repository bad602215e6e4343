import VisualNovel.Proofs.Files.Twin
import VisualNovel.Proofs.Store.Documents
import VisualNovel.Proofs.Store.Ids

/-!
# What is done for a tenant stays with it

Two stores are *alike* for a tenant if they are the same at the directory of the tenant and below
it, and have the same draws and the same time.  An action is *confined* to the tenant if it answers
the same in stores that are alike, leaves them alike, and changes nothing that is not below the
directory of the tenant.

Confined actions one after the other are confined.  The single actions of the store that name a
path are confined if the path goes down from the directory of the tenant; and it does, for tenants,
collections and documents are named by names that lead one step down each.
-/

namespace VisualNovel.Store

variable {α β : Type} {root : Path} {place here : Location} {tenant collection : String}
  {store first second : Store}

/-- Is the store open, with its tenants at a place? -/
structure Initialised (store : Store) (root : Path) (place : Location) : Prop where
  root_eq : store.root = some root
  directory : store.files.HasDirectory (root.child "tenants") place
  wellFormed : store.files.WellFormed

theorem Initialised.changed (hstore : store.Initialised root place) {files : FileTree}
    (hchanged : FileTree.ChangedBelow here store.files files) :
    Initialised { store with files := files } root place :=
  ⟨hstore.root_eq, hchanged.hasDirectory hstore.directory, hchanged.wellFormed hstore.wellFormed⟩

/-- Are two stores the same as far as a tenant can tell? -/
structure Alike (root : Path) (place : Location) (tenant : String) (first second : Store) :
    Prop where
  initialised : first.Initialised root place
  initialised' : second.Initialised root place
  sameBelow : FileTree.SameBelow (place ++ [tenant]) first.files second.files
  draws_eq : first.draws = second.draws
  clock_eq : first.clock = second.clock

theorem Initialised.alike_self (hstore : store.Initialised root place) (tenant : String) :
    Alike root place tenant store store :=
  ⟨hstore, hstore, fun _ _ => rfl, rfl, rfl⟩

/-- Stores stay alike if their files are changed below the directory of the tenant, in the same
way. -/
theorem Alike.changed (halike : Alike root place tenant first second) {files files' : FileTree}
    (hfirst : FileTree.ChangedBelow (place ++ [tenant]) first.files files)
    (hsecond : FileTree.ChangedBelow (place ++ [tenant]) second.files files')
    (hsame : FileTree.SameBelow (place ++ [tenant]) files files') :
    Alike root place tenant { first with files := files } { second with files := files' } :=
  ⟨halike.initialised.changed hfirst, halike.initialised'.changed hsecond, hsame, halike.draws_eq,
    halike.clock_eq⟩

/-- Does an action of any kind answer the same in stores that are alike, leave them alike, and
change nothing but what is below the directory of the tenant? -/
structure ConfinedTo (root : Path) (place : Location) (tenant : String)
    (run : Store → α × Store) : Prop where
  answer_eq : ∀ {first second : Store}, Alike root place tenant first second →
    (run first).1 = (run second).1
  alike : ∀ {first second : Store}, Alike root place tenant first second →
    Alike root place tenant (run first).2 (run second).2
  changed : ∀ {store : Store}, store.Initialised root place →
    FileTree.ChangedBelow (place ++ [tenant]) store.files (run store).2.files

theorem ConfinedTo.initialised {run : Store → α × Store} (hrun : ConfinedTo root place tenant run)
    (hstore : store.Initialised root place) : (run store).2.Initialised root place :=
  (hrun.alike (hstore.alike_self tenant)).initialised

/-- Is an action of the store confined to a tenant? -/
abbrev Confined (root : Path) (place : Location) (tenant : String) (action : Action α) : Prop :=
  ConfinedTo root place tenant (result action)

/-! ## Actions one after the other -/

theorem confinedTo_const (answer : α) :
    ConfinedTo root place tenant fun store => (answer, store) :=
  ⟨fun _ => rfl, fun halike => halike, fun _ => FileTree.ChangedBelow.refl _ _⟩

theorem confined_pure (value : α) : Confined root place tenant (pure value : Action α) :=
  confinedTo_const _

theorem confined_throw (fault : StoreFault) :
    Confined root place tenant (throw fault : Action α) :=
  confinedTo_const _

/-- Actions one after the other; the second one may rely on what every answer of the first one
fulfils. -/
theorem Confined.bind_of {action : Action α} {next : α → Action β}
    (hfirst : Confined root place tenant action) (holds : α → Prop)
    (hholds : ∀ {store : Store} {value : α} {left : Store}, store.Initialised root place →
      result action store = (.ok value, left) → holds value)
    (hnext : ∀ value, holds value → Confined root place tenant (next value)) :
    Confined root place tenant (action >>= next) := by
  have htogether : ∀ {first second : Store}, Alike root place tenant first second →
      (result (action >>= next) first).1 = (result (action >>= next) second).1 ∧
        Alike root place tenant (result (action >>= next) first).2
          (result (action >>= next) second).2 := by
    intro first second halike
    have hanswer := hfirst.answer_eq halike
    have hleft := hfirst.alike halike
    -- both answers are the same, so the second action is the same one in both stores
    rw [result_bind, result_bind]
    rcases hone : result action first with ⟨_ | value, left⟩ <;>
      rcases htwo : result action second with ⟨_ | value', left'⟩ <;>
      rw [hone, htwo] at hanswer hleft <;> cases hanswer
    · exact ⟨rfl, hleft⟩
    · have hthen := hnext value (hholds halike.initialised hone)
      exact ⟨hthen.answer_eq hleft, hthen.alike hleft⟩
  refine ⟨fun halike => (htogether halike).1, fun halike => (htogether halike).2, ?_⟩
  intro store hstore
  have hchanged := hfirst.changed hstore
  have hleft := hfirst.initialised hstore
  rw [result_bind]
  rcases hone : result action store with ⟨_ | value, left⟩ <;> rw [hone] at hchanged hleft
  · exact hchanged
  · exact hchanged.trans ((hnext value (hholds hstore hone)).changed hleft)

theorem Confined.bind {action : Action α} {next : α → Action β}
    (hfirst : Confined root place tenant action)
    (hnext : ∀ value, Confined root place tenant (next value)) :
    Confined root place tenant (action >>= next) :=
  hfirst.bind_of (fun _ => True) (fun _ _ => trivial) fun value _ => hnext value

/-- An action after one that gives the same in every store. -/
theorem confined_bind_gives {action : Action α} {next : α → Action β} {value : α}
    (hgives : ∀ {store : Store}, store.Initialised root place → Gives action store value store)
    (hnext : Confined root place tenant (next value)) :
    Confined root place tenant (action >>= next) := by
  constructor
  · intro first second halike
    rw [(hgives halike.initialised).result_bind, (hgives halike.initialised').result_bind]
    exact hnext.answer_eq halike
  · intro first second halike
    rw [(hgives halike.initialised).result_bind, (hgives halike.initialised').result_bind]
    exact hnext.alike halike
  · intro store hstore
    rw [(hgives hstore).result_bind]
    exact hnext.changed hstore

theorem confined_mapM {f : α → Action β} {items : List α}
    (hitems : ∀ item ∈ items, Confined root place tenant (f item)) :
    Confined root place tenant (items.mapM f) := by
  induction items with
  | nil => exact confined_pure _
  | cons item rest ih =>
      have hrest := ih fun other hother => hitems other (List.mem_cons_of_mem _ hother)
      rw [List.mapM_cons]
      exact (hitems item (List.mem_cons_self ..)).bind fun value =>
        hrest.bind fun values => confined_pure _

theorem confined_forM {f : α → Action Unit} {items : List α}
    (hitems : ∀ item ∈ items, Confined root place tenant (f item)) :
    Confined root place tenant (items.forM f) := by
  induction items with
  | nil => exact confined_pure _
  | cons item rest ih =>
      have hrest := ih fun other hother => hitems other (List.mem_cons_of_mem _ hother)
      exact (hitems item (List.mem_cons_self ..)).bind fun _ => hrest

/-! ## Single actions -/

theorem confined_key (role : String) (value : Json) :
    Confined root place tenant (Store.key role value) := by
  rw [Store.key]
  cases Key.ofJson role value with
  | ok key => exact confined_pure _
  | error fault => exact confined_throw _

theorem confined_ask {question : FileTree → Except FileFault α}
    (hsame : ∀ {first second : Store}, Alike root place tenant first second →
      question first.files = question second.files) :
    Confined root place tenant (ask question) := by
  constructor
  · intro first second halike
    rw [result_ask, result_ask, hsame halike]
  · intro first second halike
    rw [result_ask, result_ask]
    exact halike
  · intro store hstore
    rw [result_ask]
    exact FileTree.ChangedBelow.refl _ _

theorem confined_change {step : FileTree → Except FileFault FileTree}
    (hsame : ∀ {first second : Store}, Alike root place tenant first second →
      FileTree.SameStep (place ++ [tenant]) (step first.files) (step second.files))
    (hchanged : ∀ {store : Store} {files : FileTree}, store.Initialised root place →
      step store.files = .ok files →
        FileTree.ChangedBelow (place ++ [tenant]) store.files files) :
    Confined root place tenant (change step) := by
  have htogether : ∀ {first second : Store}, Alike root place tenant first second →
      (result (change step) first).1 = (result (change step) second).1 ∧
        Alike root place tenant (result (change step) first).2
          (result (change step) second).2 := by
    intro first second halike
    have hstep := hsame halike
    rw [result_change, result_change]
    cases hone : step first.files with
    | ok files =>
        cases htwo : step second.files with
        | ok files' =>
            rw [hone, htwo] at hstep
            exact ⟨rfl, halike.changed (hchanged halike.initialised hone)
              (hchanged halike.initialised' htwo) hstep⟩
        | error fault => rw [hone, htwo] at hstep; cases hstep
    | error fault =>
        cases htwo : step second.files with
        | ok files => rw [hone, htwo] at hstep; cases hstep
        | error other =>
            rw [hone, htwo] at hstep
            obtain rfl : fault = other := hstep
            exact ⟨rfl, halike⟩
  -- what one run leaves alone is said without the other one
  refine ⟨fun halike => (htogether halike).1, fun halike => (htogether halike).2, ?_⟩
  intro store hstore
  rw [result_change]
  cases hone : step store.files with
  | ok files => exact hchanged hstore hone
  | error fault => exact FileTree.ChangedBelow.refl _ _

theorem confined_attempt {step : FileTree → FileTree × Option FileFault}
    (hsame : ∀ {first second : Store}, Alike root place tenant first second →
      FileTree.SameAttempt (place ++ [tenant]) (step first.files) (step second.files))
    (hchanged : ∀ {store : Store}, store.Initialised root place →
      FileTree.ChangedBelow (place ++ [tenant]) store.files (step store.files).1) :
    Confined root place tenant (attempt step) := by
  constructor
  · intro first second halike
    rw [result_attempt, result_attempt, (hsame halike).2]
  · intro first second halike
    rw [result_attempt, result_attempt]
    exact halike.changed (hchanged halike.initialised) (hchanged halike.initialised')
      (hsame halike).1
  · intro store hstore
    rw [result_attempt]
    exact hchanged hstore

theorem confined_readJson [Json.Room] {source : Json.Place} {path : Path}
    (hleads : ∀ {first second : Store}, Alike root place tenant first second →
      FileTree.LeadsBelow (place ++ [tenant]) first.files second.files path) :
    Confined root place tenant (readJson source path) := by
  refine (confined_ask fun halike => halike.sameBelow.readFile_eq (hleads halike)).bind ?_
  intro content
  cases Json.parseFile source content with
  | ok value => exact confined_pure _
  | error fault => exact confined_throw _

/-! ## Paths of a tenant -/

/-- The path from the directory of the tenants by a tenant and further names. -/
def tenantPath (root : Path) (tenant : String) (names : List String) : Path :=
  (root.child "tenants").down (tenant :: names)

theorem collectionPath_eq (htenant : IsName tenant) (hcollection : IsName collection) :
    collectionPath root tenant collection = tenantPath root tenant [collection] := by
  rw [collectionPath, Path.child_eq_down htenant, Path.child_down hcollection]
  rfl

theorem child_tenantPath {names : List String} {name : String} (hname : IsName name) :
    (tenantPath root tenant names).child name = tenantPath root tenant (names ++ [name]) := by
  rw [tenantPath, Path.child_down hname]
  rfl

theorem Alike.leadsBelow (halike : Alike root place tenant first second) {names : List String}
    (hnames : ∀ name ∈ tenant :: names, IsName name) :
    FileTree.LeadsBelow (place ++ [tenant]) first.files second.files
      (tenantPath root tenant names) :=
  FileTree.leadsBelow_down halike.sameBelow halike.initialised.directory
    halike.initialised'.directory hnames

theorem Initialised.opened_makeDirectories (hstore : store.Initialised root place)
    {names : List String} (hnames : ∀ name ∈ tenant :: names, IsName name) :
    FileTree.Opened (FileTree.OnTheWay place (tenant :: names)) store.files
      (tenantPath root tenant names) (place ++ tenant :: names)
      (store.files.makeDirectories (tenantPath root tenant names)) :=
  FileTree.opened_makeDirectories hstore.directory hnames

theorem confined_makeDirectories {names : List String}
    (hnames : ∀ name ∈ tenant :: names, IsName name) :
    Confined root place tenant
      (attempt fun files => files.makeDirectories (tenantPath root tenant names)) := by
  refine confined_attempt ?_ ?_
  · intro first second halike
    exact halike.sameBelow.makeDirectories halike.initialised.directory
      halike.initialised'.directory hnames
  · intro store hstore
    exact (hstore.opened_makeDirectories hnames).opens.changedBelow fun _ hway => hway.below_head

theorem confined_writeFile {names : List String} (hnames : ∀ name ∈ tenant :: names, IsName name)
    (content : ByteArray) :
    Confined root place tenant
      (change fun files => files.writeFile (tenantPath root tenant names) content) := by
  refine confined_change ?_ ?_
  · intro first second halike
    exact halike.sameBelow.writeFile (halike.leadsBelow hnames) content
  · intro store files hstore hwrite
    obtain ⟨location, hlocate, hne, hfree, rfl⟩ := FileTree.place_of_writeFile hwrite
    obtain rfl := FileTree.location_of_locate_down hstore.directory.locate_eq hnames hlocate
    refine FileTree.changedBelow_place ⟨names, by simp⟩ hne hfree ?_ _
    exact fun hformed => hstore.directory.isName_append hformed hnames

/-! ## Documents of a tenant -/

section

variable (htenant : Key.isKey tenant = true) (hcollection : IsName collection)

include htenant hcollection

theorem gives_tenantPath {store : Store} (hstore : store.Initialised root place) :
    Gives (Store.collection (.str tenant) (.str collection)) store
      (tenantPath root tenant [collection]) store := by
  have hgives := gives_collection hstore.root_eq htenant collection
  rwa [collectionPath_eq (Key.isName_of_isKey htenant) hcollection] at hgives

theorem isName_of_mem_tenantPath (names : List String) (hnames : ∀ name ∈ names, IsName name) :
    ∀ name ∈ tenant :: collection :: names, IsName name := by
  intro name hmem
  rcases List.mem_cons.mp hmem with rfl | hmem
  · exact Key.isName_of_isKey htenant
  · rcases List.mem_cons.mp hmem with rfl | hmem
    · exact hcollection
    · exact hnames name hmem

theorem confined_documents [Json.Room] :
    Confined root place tenant (Store.documents (.str tenant) (.str collection)) := by
  have hnames := isName_of_mem_tenantPath htenant hcollection [] (List.forall_mem_nil _)
  refine confined_bind_gives (gives_tenantPath htenant hcollection) ?_
  refine (confined_ask fun halike =>
    halike.sameBelow.isDirectory_eq (halike.leadsBelow hnames)).bind ?_
  intro isThere
  split
  · refine (confined_ask fun halike => halike.sameBelow.list_eq halike.initialised.wellFormed
      halike.initialised'.wellFormed (halike.leadsBelow hnames)).bind_of
        (fun names => ∀ name ∈ names, IsName name) ?_ ?_
    · intro store names left hstore hlist
      -- names in a directory are names, so the paths to the documents lead down
      obtain ⟨location, -, rfl⟩ := FileTree.names_of_list (of_result_ask hlist).1
      exact fun name hmem => hstore.wellFormed.isName_of_mem_names hmem
    · intro names hnames'
      refine confined_mapM ?_
      intro name hmem
      have hname := hnames' name (List.mem_of_mem_filter hmem)
      rw [child_tenantPath hname]
      refine confined_readJson fun halike => halike.leadsBelow ?_
      exact isName_of_mem_tenantPath htenant hcollection _ (by simpa using hname)
  · exact confined_pure _

theorem confined_document? [Json.Room] (id : Json) :
    Confined root place tenant (Store.document? (.str tenant) (.str collection) id) := by
  refine confined_bind_gives (gives_tenantPath htenant hcollection) ?_
  refine (confined_key _ _).bind_of (fun key => Key.isKey key = true) ?_ ?_
  · intro store key left _ hkey
    exact (of_result_key hkey).2.1
  · intro key hkey
    have hname := isName_documentName hkey
    have hnames := isName_of_mem_tenantPath htenant hcollection
      [documentName key] (by simpa using hname)
    rw [child_tenantPath hname]
    refine (confined_ask fun halike =>
      halike.sameBelow.isFile_eq (halike.leadsBelow hnames)).bind ?_
    intro isThere
    split
    · exact (confined_readJson fun halike => halike.leadsBelow hnames).bind fun _ =>
        confined_pure _
    · exact confined_pure _

theorem confined_write [Json.Room] {documents : List (String × Json)}
    (hkeys : ∀ document ∈ documents, Key.isKey document.1 = true) :
    Confined root place tenant
      (Store.write (.str tenant) (.str collection) (.obj documents)) := by
  have hnames := isName_of_mem_tenantPath htenant hcollection [] (List.forall_mem_nil _)
  refine confined_bind_gives (fun _ => gives_elements rfl) ?_
  refine confined_bind_gives (fun _ => gives_checkIds hkeys) ?_
  refine confined_bind_gives (gives_tenantPath htenant hcollection) ?_
  refine (confined_makeDirectories hnames).bind fun _ => confined_forM ?_
  rintro ⟨id, document⟩ hmem
  have hname := isName_documentName (hkeys _ hmem)
  show Confined root place tenant (writeDocument _ id document)
  rw [writeDocument, child_tenantPath hname]
  split
  · exact confined_writeFile
      (isName_of_mem_tenantPath htenant hcollection _ (by simpa using hname)) _
  · exact confined_throw _

end

/-! ## Saves of a tenant -/

theorem gives_newCode (store : Store) : Gives newCode store store.nextCode store.drawn := by
  have hget : Gives get store store store := gives_get store
  rw [nextCode, drawn, newCode]
  refine hget.bind ?_
  rcases SaveCode.generate SaveCode.length store.draws with ⟨code, left⟩
  exact (gives_set _ _).bind (gives_pure _ _)

/-- A save is one document under a new code. -/
theorem result_createSave [Json.Room] (tenant : Json) (fields : OrderedMap String Json)
    (store : Store) :
    result (createSave tenant (.obj fields)) store =
      result (write tenant saveCollection (.obj [(store.nextCode, store.stamped fields)]) >>=
        fun _ => pure store.nextCode) store.drawn := by
  have hget : Gives get store.drawn store.drawn store.drawn := gives_get _
  have hclock : store.drawn.clock = store.clock := rfl
  rw [createSave, (gives_newCode store).result_bind]
  simp only
  rw [hget.result_bind, hclock]
  rfl

theorem preserves_createSave [Json.Room] {holds : Store → Prop} {tenant : Json}
    (hdrawn : ∀ store, holds store → holds store.drawn)
    (hwrite : ∀ documents, Preserves holds (write tenant saveCollection documents)) (data : Json) :
    Preserves holds (createSave tenant data) := by
  have hcode : Preserves holds newCode := by
    intro store hstore
    rw [(gives_newCode store).result_eq]
    exact hdrawn store hstore
  refine hcode.bind fun code => ?_
  split
  · refine readOnly_get.preserves.bind fun store => ?_
    exact (hwrite _).bind fun _ => preserves_pure _
  · exact preserves_throw _

theorem Initialised.drawn (hstore : store.Initialised root place) :
    store.drawn.Initialised root place :=
  ⟨hstore.root_eq, hstore.directory, hstore.wellFormed⟩

theorem Alike.drawn (halike : Alike root place tenant first second) :
    Alike root place tenant first.drawn second.drawn := by
  refine ⟨halike.initialised.drawn, halike.initialised'.drawn, halike.sameBelow, ?_,
    halike.clock_eq⟩
  rw [Store.drawn, Store.drawn, halike.draws_eq]

theorem confined_createSave [Json.Room] (htenant : Key.isKey tenant = true)
    (fields : OrderedMap String Json) :
    Confined root place tenant (createSave (.str tenant) (.obj fields)) := by
  have hwrite : ∀ store : Store, Confined root place tenant
      (write (.str tenant) saveCollection (.obj [(store.nextCode, store.stamped fields)]) >>=
        fun _ => pure store.nextCode) := by
    intro store
    refine (confined_write htenant isFileName_saveData.toIsName ?_).bind fun _ => confined_pure _
    intro document hmem
    rw [List.mem_singleton.mp hmem]
    exact isKey_nextCode store
  -- which document is written depends on the store, but only on its draws and its time
  have hsame : ∀ {first second : Store}, Alike root place tenant first second →
      second.nextCode = first.nextCode ∧ second.stamped fields = first.stamped fields := by
    intro first second halike
    rw [nextCode, nextCode, stamped, stamped, halike.draws_eq, halike.clock_eq]
    exact ⟨rfl, rfl⟩
  constructor
  · intro first second halike
    rw [result_createSave, result_createSave, (hsame halike).1, (hsame halike).2]
    exact (hwrite first).answer_eq halike.drawn
  · intro first second halike
    rw [result_createSave, result_createSave, (hsame halike).1, (hsame halike).2]
    exact (hwrite first).alike halike.drawn
  · intro store hstore
    have hchanged := (hwrite store).changed hstore.drawn
    rw [result_createSave]
    exact hchanged

theorem confined_save? [Json.Room] (htenant : Key.isKey tenant = true) (code : String) :
    Confined root place tenant (save? (.str tenant) (.str code)) := by
  rw [save?, Key.isKeyValue]
  split
  · exact confined_document? htenant isFileName_saveData.toIsName _
  · exact confined_pure _
  · exact confined_throw _

theorem readOnly_save? [Json.Room] (tenant code : Json) : ReadOnly (save? tenant code) := by
  rw [save?]
  split
  · exact readOnly_document? _ _ _
  · exact readOnly_pure _
  · exact readOnly_throw _

/-! ## A new store -/

/-- A store that has just been opened, where nothing is but some entries of tenants. -/
def newWith (others : OrderedMap Location Entry) : Store where
  files :=
    { workingDirectory := []
      entries := (["data"], .directory) :: (["data", "tenants"], .directory) :: others }
  root := some (Path.ofText "data")
  clock := ⟨2024, 1, 1, 0, 0, 0, 0⟩

theorem hasDirectory_newWith (others : OrderedMap Location Entry) :
    (newWith others).files.HasDirectory ((Path.ofText "data").child "tenants")
      ["data", "tenants"] := by
  have hpath : (Path.ofText "data").child "tenants" = ⟨false, ["data", "tenants"]⟩ := by
    decide +kernel
  rw [hpath]
  exact ⟨(FileTree.locate_eq_walk (by decide +kernel) (by decide +kernel) _).trans rfl, rfl⟩

theorem initialised_newWith {others : OrderedMap Location Entry}
    (hnodup : (["data"] :: ["data", "tenants"] :: OrderedMap.keys others).Nodup)
    (hnames : ∀ location ∈ OrderedMap.keys others, ∀ name ∈ location, IsName name) :
    (newWith others).Initialised (Path.ofText "data") ["data", "tenants"] := by
  refine ⟨rfl, hasDirectory_newWith others, hnodup, ?_⟩
  have hdata : IsName "data" := Key.isName_of_isKey (by decide)
  have htenants : IsName "tenants" := Key.isName_of_isKey (by decide)
  intro location hmem name hname
  rcases List.mem_cons.mp hmem with rfl | hmem
  · rwa [List.mem_singleton.mp hname]
  · rcases List.mem_cons.mp hmem with rfl | hmem
    · rcases List.mem_pair.mp hname with rfl | rfl
      · exact hdata
      · exact htenants
    · exact hnames location hmem name hname

theorem ready_newWith (others : OrderedMap Location Entry) :
    (newWith others).Ready (Path.ofText "data") ["data", "tenants"] :=
  ⟨rfl, hasDirectory_newWith others, by decide +kernel⟩

/-- In a new store without entries every collection is vacant. -/
theorem vacant_newWith (tenant collection : String) :
    Vacant (newWith []).files ["data", "tenants"] tenant collection := by
  refine ⟨?_, ?_, ?_⟩
  · intro entry hentry
    cases hentry
  · intro entry hentry
    cases hentry
  · intro name _
    rfl

/-- A tenant cannot tell what other tenants have. -/
theorem alike_newWith {others : OrderedMap Location Entry}
    (hnodup : (["data"] :: ["data", "tenants"] :: OrderedMap.keys others).Nodup)
    (hnames : ∀ location ∈ OrderedMap.keys others, ∀ name ∈ location, IsName name)
    (hothers : ∀ location ∈ OrderedMap.keys others, ¬ ["data", "tenants", tenant] <+: location) :
    Alike (Path.ofText "data") ["data", "tenants"] tenant (newWith []) (newWith others) := by
  refine ⟨initialised_newWith (by decide) (List.forall_mem_nil _),
    initialised_newWith hnodup hnames, ?_, rfl, rfl⟩
  intro location hbelow
  have hlong : 3 ≤ location.length := hbelow.length_le
  have hne : location ≠ [] := by
    rintro rfl
    cases hlong
  have hother : location ∉ OrderedMap.keys others := fun hmem => hothers location hmem hbelow
  rw [FileTree.entry?_of_ne_nil hne, FileTree.entry?_of_ne_nil hne]
  show OrderedMap.at? location [(["data"], Entry.directory), (["data", "tenants"], .directory)] =
    OrderedMap.at? location ((["data"], .directory) :: (["data", "tenants"], .directory) :: others)
  rw [OrderedMap.at?_cons, OrderedMap.at?_cons, OrderedMap.at?_cons, OrderedMap.at?_cons,
    OrderedMap.at?_eq_none_iff.mpr hother]
  rfl

end VisualNovel.Store
