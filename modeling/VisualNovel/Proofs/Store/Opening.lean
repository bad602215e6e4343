import VisualNovel.Proofs.Files.Place
import VisualNovel.Proofs.Store.Import
import VisualNovel.Store.Demo

/-!
# The root of a store

A store that is opened has its root at the place that is read off the path, as the directories on
the way have been made (`of_openAt`).  Nothing else chooses a root: whatever is kept in the store or
imported after that is put below this one (`KeepsRoot`).
-/

namespace VisualNovel

namespace Store

variable {store left : Store}

/-! ## Opening -/

/-- A store that has been opened has its root at the place that is read off the path. -/
theorem of_openAt {root : Path} (hthere : store.files.HasWorkingDirectory)
    (hopens : Gives (openAt root) store () left) :
    left.root = some root ∧
      left.files.HasDirectory root (root.fromRoot store.files.workingDirectory) := by
  obtain ⟨_, opened, hset, hopens⟩ := hopens.of_bind
  obtain rfl : opened = { store with root := some root } :=
    congrArg Prod.snd hset.symm
  obtain ⟨_, _, hattempt, hopens⟩ := hopens.of_bind
  obtain ⟨files, hmake, rfl⟩ := of_gives_attempt hattempt
  obtain ⟨-, hdirectory⟩ := FileTree.hasDirectory_of_makeDirectories hthere hmake
  obtain ⟨tenants, _, htenants, hopens⟩ := hopens.of_bind
  have hbelow : Gives Store.tenants { store with root := some root, files := files }
      (root.child "tenants") { store with root := some root, files := files } := gives_tenants rfl
  cases htenants.symm.trans hbelow
  obtain ⟨larger, hensure, rfl⟩ := of_gives_attempt hopens
  have hstays := hdirectory.stays (root.child "tenants")
  rw [hensure] at hstays
  exact ⟨rfl, hstays⟩

theorem gives_openAt {root : Path} {place : Location} (hroot : store.root = some root)
    (hdirectory : store.files.HasDirectory (root.child "tenants") place) :
    Gives (openAt root) store () store := by
  have htenants : IsName "tenants" := Key.isName_of_isKey (by decide)
  have hdown : store.files.locate (root.down ["tenants"]) = .ok place := by
    rw [← Path.child_eq_down htenants]
    exact hdirectory.locate_eq
  obtain ⟨above, habove⟩ :=
    FileTree.exists_locate_of_down (List.forall_mem_singleton.mpr htenants) hdown
  have hbase : store.files.entry? (above ++ []) = some .directory :=
    FileTree.entry?_of_locate_down habove (List.forall_mem_nil _) hdown
  rw [List.append_nil] at hbase
  have hthere : store.files.HasDirectory root above := ⟨habove, hbase⟩
  have hset : Gives (modify fun store => { store with root := some root }) store () store := by
    rw [show store = { store with root := some root } by rw [← hroot]]
    rfl
  refine hset.bind ((gives_attempt hthere.makeDirectories_eq).bind ?_)
  exact (gives_tenants hroot).bind (gives_attempt hdirectory.ensureDirectory_eq)

/-! ## What is preserved -/

theorem readOnly_elements (value : Json) : ReadOnly (elements value) := by
  intro store
  rw [result_elements]

theorem readOnly_discard {action : Action α} (hreads : ReadOnly action) :
    ReadOnly (Functor.discard action) := by
  intro store
  rw [result_discard]
  exact hreads store

theorem readOnly_tenants : ReadOnly tenants := by
  refine ReadOnly.bind ?_ fun _ => readOnly_pure _
  refine readOnly_get.bind fun store => ?_
  split
  · exact readOnly_pure _
  · exact readOnly_throw _

theorem readOnly_identified (identify : Json → Except StoreFault String) (records : Json) :
    ReadOnly (identified identify records) := by
  refine (readOnly_elements _).bind fun elements => ?_
  refine (readOnly_mapM (fun element => ?_) elements).bind fun _ => readOnly_pure _
  split
  · exact readOnly_pure _
  · exact readOnly_throw _

theorem readOnly_readArray [Json.Room] (path : Path) : ReadOnly (readArray path) := by
  refine (readOnly_readJson _ path).bind fun value => ?_
  split
  · exact readOnly_pure _
  · exact readOnly_throw _

section

variable [Json.Room] {holds : Store → Prop}

theorem preserves_write
    (hfiles : ∀ store files, holds store → holds { store with files := files })
    (tenant collection documents : Json) : Preserves holds (write tenant collection documents) := by
  refine (readOnly_elements _).preserves.bind fun ids => ?_
  refine (preserves_forM fun id _ =>
    (readOnly_discard (readOnly_key _ id)).preserves).bind fun _ => ?_
  refine (readOnly_collection _ _).preserves.bind fun directory => ?_
  refine (preserves_attempt fun store hstore => hfiles store _ hstore).bind fun _ => ?_
  split
  · refine preserves_forM fun entry _ => ?_
    show Preserves _ (writeDocument _ entry.1 entry.2)
    rw [writeDocument]
    split
    · exact preserves_change fun store files hstore _ => hfiles store files hstore
    · exact preserves_throw _
  · exact preserves_throw _

variable {tenant : Json}

theorem preserves_keep {collection : Json}
    (hwrite : ∀ documents, Preserves holds (write tenant collection documents))
    (identify : Json → Except StoreFault String) (records : Json) :
    Preserves holds (identified identify records >>= write tenant collection) :=
  (readOnly_identified identify records).preserves.bind hwrite

theorem preserves_importCharacters
    (hwrite : ∀ documents, Preserves holds (write tenant characterCollection documents))
    (records : Json) : Preserves holds (importCharacters tenant records) :=
  (readOnly_elements _).preserves.bind fun _ =>
    (preserves_keep hwrite _ _).bind fun _ => preserves_pure _

theorem preserves_importScenario
    (hwrite : ∀ documents, Preserves holds (write tenant scenarioCollection documents))
    (lines : Json) : Preserves holds (importScenario tenant lines) :=
  (readOnly_elements _).preserves.bind fun _ =>
    (preserves_keep hwrite _ _).bind fun _ => preserves_pure _

theorem preserves_importDirectory
    (hcast : ∀ documents, Preserves holds (write tenant characterCollection documents))
    (hscript : ∀ documents, Preserves holds (write tenant scenarioCollection documents))
    (source : Path) : Preserves holds (importDirectory source tenant) := by
  refine (readOnly_discard (readOnly_key _ _)).preserves.bind fun _ => ?_
  refine (readOnly_readArray _).preserves.bind fun records => ?_
  refine (preserves_importCharacters hcast records).bind fun _ => ?_
  refine (readOnly_readArray _).preserves.bind fun lines => ?_
  exact (preserves_importScenario hscript lines).bind fun _ => preserves_pure _

end

/-! ## The root stays -/

/-- Does the action leave the root of every store as it is? -/
def KeepsRoot (action : Action α) : Prop :=
  ∀ root, Preserves (fun store => store.root = root) action

theorem KeepsRoot.root_eq {action : Action α} {value : α} (hkeeps : KeepsRoot action)
    (hgives : Gives action store value left) : left.root = store.root :=
  (hkeeps store.root).of_gives hgives rfl

theorem keepsRoot_write [Json.Room] (tenant collection documents : Json) :
    KeepsRoot (write tenant collection documents) := fun _ =>
  preserves_write (fun _ _ hroot => hroot) tenant collection documents

theorem keepsRoot_importDirectory [Json.Room] (source : Path) (tenant : Json) :
    KeepsRoot (importDirectory source tenant) := fun root =>
  preserves_importDirectory (fun documents => keepsRoot_write _ _ documents root)
    (fun documents => keepsRoot_write _ _ documents root) source

/-- The last part of making the demo story, which writes it. -/
def writeDemo [Json.Room] : Action Unit := do
  let _ ← importCharacters (.str Demo.tenant) Demo.characters
  let _ ← importScenario (.str Demo.tenant) Demo.scenario

theorem keepsRoot_create [Json.Room] : KeepsRoot Demo.create := by
  intro root
  have hwrite : Preserves (fun store => store.root = root) writeDemo :=
    (preserves_importCharacters (fun documents => keepsRoot_write _ _ documents root) _).bind
      fun _ => (preserves_importScenario (fun documents => keepsRoot_write _ _ documents root)
        _).bind fun _ => preserves_pure _
  refine readOnly_tenants.preserves.bind fun tenants => ?_
  refine (readOnly_ask _).preserves.bind fun there => ?_
  split
  · exact (preserves_change fun _ _ hroot _ => hroot).bind fun _ => hwrite
  · exact hwrite

end Store

end VisualNovel
