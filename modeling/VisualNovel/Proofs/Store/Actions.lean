import VisualNovel.Proofs.Files.Growth
import VisualNovel.Store.Basic

/-!
# Actions that succeed

An action of the store may fail and may change the store.  `Store.Gives` says that it answers
with a value and which store it leaves.  Actions that follow one another give what the last
one gives, each starting from the store that the one before it left; and every basic action
has a rule for when it succeeds.
-/

namespace VisualNovel

/-- Does the fault come from the files, or is there no room to write a document?  Such a fault can
come up when some documents have been written already. -/
def StoreFault.stopsWriting : StoreFault → Bool
  | file _ | tooDeep => true
  | _ => false

namespace Store

variable {α β : Type} {store left last : Store} {value : α} {reply : β}

/-- What an action answers, and the store that it leaves. -/
def result (action : Action α) (store : Store) : Except StoreFault α × Store :=
  (ExceptT.run action).run store

/-- Of actions that follow one another, the second is done if the first succeeds. -/
theorem result_bind (action : Action α) (next : α → Action β) (store : Store) :
    result (action >>= next) store =
      match result action store with
      | (.ok value, left) => result (next value) left
      | (.error fault, left) => (.error fault, left) := by
  simp only [result, ExceptT.run_bind, StateT.run_bind]
  rcases (ExceptT.run action).run store with ⟨_ | value, left⟩ <;> rfl

/-- Does the action answer with the value and leave the store? -/
def Gives (action : Action α) (store : Store) (value : α) (left : Store) : Prop :=
  (ExceptT.run action).run store = (.ok value, left)

theorem Gives.result_eq {action : Action α} (hgives : Gives action store value left) :
    result action store = (.ok value, left) := hgives

theorem Gives.result_bind {action : Action α} (hgives : Gives action store value left)
    (next : α → Action β) : result (action >>= next) store = result (next value) left := by
  rw [Store.result_bind, hgives.result_eq]

theorem gives_pure (value : α) (store : Store) : Gives (pure value) store value store := rfl

theorem Gives.bind {action : Action α} {next : α → Action β}
    (hfirst : Gives action store value left) (hnext : Gives (next value) left reply last) :
    Gives (action >>= next) store reply last := by
  unfold Gives at hfirst hnext ⊢
  rw [ExceptT.run_bind, StateT.run_bind, hfirst]
  exact hnext

theorem Gives.of_bind {action : Action α} {next : α → Action β}
    (hgives : Gives (action >>= next) store reply last) :
    ∃ value left, Gives action store value left ∧ Gives (next value) left reply last := by
  have hresult := hgives.result_eq
  rw [Store.result_bind] at hresult
  rcases haction : result action store with ⟨fault | value, left⟩
  · rw [haction] at hresult
    cases hresult
  · rw [haction] at hresult
    exact ⟨value, left, haction, hresult⟩

theorem Gives.map {action : Action α} (hfirst : Gives action store value left) (f : α → β) :
    Gives (f <$> action) store (f value) left := by
  unfold Gives at hfirst ⊢
  rw [ExceptT.run_map, StateT.run_map, hfirst]
  rfl

theorem Gives.discard {action : Action α} (hfirst : Gives action store value left) :
    Gives (Functor.discard action) store () left :=
  hfirst.map fun _ => ()

theorem result_discard (action : Action α) (store : Store) :
    result (Functor.discard action) store =
      ((result action store).1.map fun _ => (), (result action store).2) := by
  unfold result
  show (ExceptT.run ((fun _ => ()) <$> action)).run store = _
  rw [ExceptT.run_map, StateT.run_map]
  rcases (ExceptT.run action).run store with ⟨_ | value, left⟩ <;> rfl

theorem gives_get (store : Store) : Gives get store store store := rfl

theorem gives_set (store left : Store) : Gives (set left) store () left := rfl

theorem gives_forM {f : α → Action Unit} {items : List α}
    (hitems : ∀ item ∈ items, Gives (f item) store () store) :
    Gives (items.forM f) store () store := by
  induction items with
  | nil => exact gives_pure _ _
  | cons item rest ih =>
      have hrest := ih fun other hother => hitems other (List.mem_cons_of_mem _ hother)
      exact (hitems item (List.mem_cons_self ..)).bind hrest

/-- What is done for the elements of a list that follow others. -/
theorem Gives.result_forM_append {f : α → Action Unit} {before : List α}
    (hbefore : Gives (before.forM f) store () left) (more : List α) :
    result ((before ++ more).forM f) store = result (more.forM f) left := by
  have happend : (before ++ more).forM f = before.forM f >>= fun _ => more.forM f :=
    List.forM_append
  rw [happend, hbefore.result_bind]

theorem result_mapM {γ : Type} {f : γ → Action β} {name : α → γ}
    (answer : α → Except StoreFault β) {items : List α}
    (hitems : ∀ item ∈ items, result (f (name item)) store = (answer item, store)) :
    result ((items.map name).mapM f) store = (items.mapM answer, store) := by
  induction items with
  | nil => rfl
  | cons item rest ih =>
      have hrest := ih fun other hother => hitems other (List.mem_cons_of_mem _ hother)
      rw [List.map_cons, List.mapM_cons, List.mapM_cons, result_bind,
        hitems item (List.mem_cons_self ..)]
      cases answer item with
      | error fault => rfl
      | ok value =>
          simp only [result_bind, hrest]
          cases rest.mapM answer <;> rfl

theorem mapM_of_ok {f : α → Except StoreFault β} {answer : α → β} {items : List α}
    (hitems : ∀ item ∈ items, f item = .ok (answer item)) :
    items.mapM f = .ok (items.map answer) := by
  induction items with
  | nil => rfl
  | cons item rest ih =>
      rw [List.mapM_cons, hitems item (List.mem_cons_self ..),
        ih fun other hother => hitems other (List.mem_cons_of_mem _ hother)]
      rfl

/-- If one element is at fault then so is the list, though perhaps for an earlier element. -/
theorem mapM_of_error {f : α → Except StoreFault β} {items : List α} {item : α}
    {fault : StoreFault} (hmem : item ∈ items) (hitem : f item = .error fault) :
    ∃ fault, items.mapM f = .error fault := by
  induction items with
  | nil => cases hmem
  | cons first rest ih =>
      rw [List.mapM_cons]
      cases hfirst : f first with
      | error earlier => exact ⟨earlier, rfl⟩
      | ok value =>
          rcases List.mem_cons.mp hmem with rfl | hmem
          · rw [hitem] at hfirst
            cases hfirst
          · obtain ⟨later, hlater⟩ := ih hmem
            rw [hlater]
            exact ⟨later, rfl⟩

theorem gives_mapM {γ : Type} {f : γ → Action β} {name : α → γ} (answer : α → β) {items : List α}
    (hitems : ∀ item ∈ items, Gives (f (name item)) store (answer item) store) :
    Gives ((items.map name).mapM f) store (items.map answer) store := by
  have hresult := result_mapM (fun item => .ok (answer item)) hitems
  rw [mapM_of_ok fun item _ => rfl] at hresult
  exact hresult

/-! ## Basic actions -/

theorem gives_ask {question : FileTree → Except FileFault α}
    (hanswer : question store.files = .ok value) : Gives (ask question) store value store := by
  refine (gives_get store).bind ?_
  rw [hanswer]
  exact gives_pure _ _

theorem gives_change {step : FileTree → Except FileFault FileTree} {files : FileTree}
    (hstep : step store.files = .ok files) :
    Gives (change step) store () { store with files } := by
  refine (gives_get store).bind ?_
  rw [hstep]
  exact gives_set _ _

theorem gives_attempt {step : FileTree → FileTree × Option FileFault} {files : FileTree}
    (hstep : step store.files = (files, none)) :
    Gives (attempt step) store () { store with files } := by
  refine (gives_get store).bind ?_
  rw [hstep]
  exact (gives_set _ _).bind (gives_pure _ _)

theorem result_ask (question : FileTree → Except FileFault α) (store : Store) :
    result (ask question) store = ((question store.files).mapError .file, store) := by
  have hget : Gives get store store store := gives_get store
  rw [ask, hget.result_bind]
  cases question store.files <;> rfl

theorem of_result_ask {question : FileTree → Except FileFault α}
    (hresult : result (ask question) store = (.ok value, left)) :
    question store.files = .ok value ∧ left = store := by
  rw [result_ask] at hresult
  cases hanswer : question store.files with
  | ok answer =>
      rw [hanswer] at hresult
      cases hresult
      exact ⟨rfl, rfl⟩
  | error fault =>
      rw [hanswer] at hresult
      cases hresult

theorem result_change (step : FileTree → Except FileFault FileTree) (store : Store) :
    result (change step) store =
      match step store.files with
      | .ok files => (.ok (), { store with files := files })
      | .error fault => (.error (.file fault), store) := by
  have hget : Gives get store store store := gives_get store
  rw [change, hget.result_bind]
  cases step store.files <;> rfl

theorem result_attempt (step : FileTree → FileTree × Option FileFault) (store : Store) :
    result (attempt step) store =
      (match (step store.files).2 with
        | none => .ok ()
        | some fault => .error (.file fault),
      { store with files := (step store.files).1 }) := by
  have hget : Gives get store store store := gives_get store
  rw [attempt, hget.result_bind]
  rcases step store.files with ⟨files, _ | fault⟩ <;> rfl

theorem of_gives_attempt {step : FileTree → FileTree × Option FileFault}
    (hgives : Gives (attempt step) store () left) :
    ∃ files, step store.files = (files, none) ∧ left = { store with files := files } := by
  have hresult := hgives.result_eq
  rw [result_attempt] at hresult
  rcases hstep : step store.files with ⟨files, fault | fault⟩
  · rw [hstep] at hresult
    cases hresult
    exact ⟨files, rfl, rfl⟩
  · rw [hstep] at hresult
    cases hresult

theorem result_readJson [Json.Room] (place : Json.Place) (path : Path) (store : Store) :
    result (readJson place path) store =
      (match store.files.readFile path with
        | .error fault => .error (.file fault)
        | .ok content => (Json.parseFile place content).mapError .unreadable,
      store) := by
  rw [readJson, result_bind, result_ask]
  cases store.files.readFile path with
  | error fault => rfl
  | ok content =>
      simp only [Except.mapError]
      cases Json.parseFile place content <;> rfl

theorem of_gives_readJson [Json.Room] {place : Json.Place} {path : Path} {value : Json}
    (hgives : Gives (readJson place path) store value left) :
    ∃ content, store.files.readFile path = .ok content ∧
      Json.parseFile place content = .ok value := by
  have hresult := hgives.result_eq
  rw [result_readJson] at hresult
  cases hread : store.files.readFile path with
  | error fault =>
      rw [hread] at hresult
      cases hresult
  | ok content =>
      refine ⟨content, rfl, ?_⟩
      cases hparse : Json.parseFile place content with
      | error fault =>
          rw [hread] at hresult
          simp only [hparse] at hresult
          cases hresult
      | ok parsed =>
          rw [hread] at hresult
          simp only [hparse] at hresult
          cases hresult
          rfl

/-- Whether a value is a key has nothing to do with the store. -/
theorem result_key (role : String) (value : Json) (store : Store) :
    result (Store.key role value) store = ((Key.ofJson role value).mapError .key, store) := by
  rw [Store.key]
  cases Key.ofJson role value <;> rfl

theorem of_result_key {role key : String} {value : Json}
    (hresult : result (Store.key role value) store = (.ok key, left)) :
    value = .str key ∧ Key.isKey key = true ∧ left = store := by
  rw [result_key] at hresult
  cases hchecked : Key.ofJson role value with
  | ok found =>
      rw [hchecked] at hresult
      cases hresult
      exact ⟨(Key.of_ofJson hchecked).1, (Key.of_ofJson hchecked).2, rfl⟩
  | error fault =>
      rw [hchecked] at hresult
      cases hresult

theorem result_elements (value : Json) (store : Store) :
    result (elements value) store =
      (match value.elements? with
        | some items => .ok items
        | none => .error .notIterable,
      store) := by
  rw [elements]
  cases value.elements? <;> rfl

theorem gives_elements {value : Json} {items : List Json} (hitems : value.elements? = some items) :
    Gives (elements value) store items store := by
  rw [elements, hitems]
  exact gives_pure _ _

theorem gives_key {role key : String} (hkey : Key.isKey key = true) :
    Gives (Store.key role (.str key)) store key store := by
  rw [Store.key, Key.ofJson, Key.check, if_pos hkey]
  exact gives_pure _ _

theorem gives_readJson [Json.Room] {place : Json.Place} {path : Path} {content : ByteArray}
    {value : Json} (hread : store.files.readFile path = .ok content)
    (hparse : Json.parseFile place content = .ok value) :
    Gives (readJson place path) store value store := by
  refine (gives_ask hread).bind ?_
  rw [hparse]
  exact gives_pure _ _

/-- The path to a collection. -/
def collectionPath (root : Path) (tenant collection : String) : Path :=
  ((root.child "tenants").child tenant).child collection

theorem gives_tenants {root : Path} (hroot : store.root = some root) :
    Gives tenants store (root.child "tenants") store := by
  have hdirectory : Gives directory store root store := by
    refine (gives_get store).bind ?_
    rw [hroot]
    exact gives_pure _ _
  exact hdirectory.bind (gives_pure _ _)

theorem gives_collection {root : Path} (hroot : store.root = some root) {tenant : String}
    (htenant : Key.isKey tenant = true) (collection : String) :
    Gives (Store.collection (.str tenant) (.str collection)) store
      (collectionPath root tenant collection) store :=
  (gives_tenants hroot).bind ((gives_key htenant).bind (gives_pure _ _))

theorem result_collection_of_closed (hclosed : store.root = none) (tenant collection : Json) :
    result (Store.collection tenant collection) store = (.error .notOpened, store) := by
  have htenants : result tenants store = (.error .notOpened, store) := by
    rw [tenants, directory, bind_assoc, (gives_get store).result_bind, hclosed]
    rfl
  rw [Store.collection, result_bind, htenants]

/-- A collection has a path if it has a tenant and a name; the path is not looked up. -/
theorem result_collection_cases {root : Path} (hroot : store.root = some root)
    (tenant collection : Json) :
    (∃ owner name : String, tenant = .str owner ∧ collection = .str name ∧
        Key.isKey owner = true ∧
          Gives (Store.collection tenant collection) store (collectionPath root owner name) store) ∨
      ∃ fault, fault.stopsWriting = false ∧
        result (Store.collection tenant collection) store = (.error fault, store) := by
  cases hkey : Key.ofJson "tenant id" tenant with
  | error fault =>
      refine Or.inr ⟨.key fault, rfl, ?_⟩
      rw [Store.collection, (gives_tenants hroot).result_bind, result_bind, result_key, hkey]
      rfl
  | ok owner =>
      obtain ⟨rfl, hvalid⟩ := Key.of_ofJson hkey
      cases collection with
      | str name => exact Or.inl ⟨owner, name, rfl, rfl, hvalid, gives_collection hroot hvalid name⟩
      | _ =>
          refine Or.inr ⟨.notAName, rfl, ?_⟩
          rw [Store.collection, (gives_tenants hroot).result_bind, (gives_key hvalid).result_bind]
          rfl

theorem of_gives_collection {tenant collection : Json} {path : Path}
    (hgives : Gives (Store.collection tenant collection) store path left) :
    ∃ root owner name, store.root = some root ∧ tenant = .str owner ∧ collection = .str name ∧
      Key.isKey owner = true ∧ path = collectionPath root owner name := by
  have hresult := hgives.result_eq
  cases hroot : store.root with
  | none =>
      rw [result_collection_of_closed hroot] at hresult
      cases hresult
  | some root =>
      rcases result_collection_cases hroot tenant collection with
        ⟨owner, name, howner, hname, hkey, hpath⟩ | ⟨fault, -, hpath⟩
      · rw [hpath.result_eq] at hresult
        cases hresult
        exact ⟨root, owner, name, rfl, howner, hname, hkey, rfl⟩
      · rw [hpath] at hresult
        cases hresult

/-- The path of a collection depends on nothing but the root. -/
theorem gives_collection_of_root {tenant collection : Json} {path : Path}
    (hroot : left.root = store.root)
    (hpath : Gives (Store.collection tenant collection) store path store) :
    Gives (Store.collection tenant collection) left path left := by
  obtain ⟨root, owner, name, hopen, rfl, rfl, howner, rfl⟩ := of_gives_collection hpath
  exact gives_collection (hroot.trans hopen) howner name

/-- Looking for the path changes nothing, and what can come up is no fault that stops writing. -/
theorem gives_collection_or_refused (tenant collection : Json) (store : Store) :
    (∃ path, Gives (Store.collection tenant collection) store path store) ∨
      ∃ fault, fault.stopsWriting = false ∧
        result (Store.collection tenant collection) store = (.error fault, store) := by
  cases hroot : store.root with
  | none =>
      exact Or.inr ⟨.notOpened, rfl, result_collection_of_closed hroot tenant collection⟩
  | some root =>
      rcases result_collection_cases hroot tenant collection with
        ⟨owner, name, -, -, -, hpath⟩ | hrefused
      · exact Or.inl ⟨_, hpath⟩
      · exact Or.inr hrefused

/-! ## Actions that only look -/

/-- Does the action leave every store as it is? -/
def ReadOnly (action : Action α) : Prop :=
  ∀ store, (result action store).2 = store

theorem ReadOnly.left_eq {action : Action α} (hreads : ReadOnly action)
    (hgives : Gives action store value left) : left = store := by
  rw [← hreads store, hgives.result_eq]

theorem readOnly_pure (value : α) : ReadOnly (pure value : Action α) := fun _ => rfl

theorem readOnly_throw (fault : StoreFault) : ReadOnly (throw fault : Action α) := fun _ => rfl

theorem readOnly_get : ReadOnly get := fun _ => rfl

theorem ReadOnly.bind {action : Action α} {next : α → Action β} (hfirst : ReadOnly action)
    (hnext : ∀ value, ReadOnly (next value)) : ReadOnly (action >>= next) := by
  intro store
  have hleft := hfirst store
  rw [result_bind]
  rcases haction : result action store with ⟨_ | value, left⟩ <;> rw [haction] at hleft
  · exact hleft
  · exact (hnext value left).trans hleft

theorem readOnly_mapM {f : α → Action β} (hf : ∀ item, ReadOnly (f item)) (items : List α) :
    ReadOnly (items.mapM f) := by
  induction items with
  | nil => exact readOnly_pure _
  | cons item rest ih =>
      rw [List.mapM_cons]
      exact (hf item).bind fun _ => ih.bind fun _ => readOnly_pure _

theorem readOnly_ask (question : FileTree → Except FileFault α) : ReadOnly (ask question) := by
  intro store
  rw [result_ask]

theorem readOnly_readJson [Json.Room] (place : Json.Place) (path : Path) :
    ReadOnly (readJson place path) := by
  intro store
  rw [result_readJson]

theorem readOnly_key (role : String) (value : Json) : ReadOnly (Store.key role value) := by
  intro store
  rw [result_key]

theorem readOnly_collection (tenant collection : Json) :
    ReadOnly (Store.collection tenant collection) := by
  have hdirectory : ReadOnly directory := by
    refine readOnly_get.bind fun store => ?_
    split
    · exact readOnly_pure _
    · exact readOnly_throw _
  refine (hdirectory.bind fun _ => readOnly_pure _).bind fun _ => ?_
  refine (readOnly_key _ _).bind fun _ => ?_
  split
  · exact readOnly_pure _
  · exact readOnly_throw _

theorem readOnly_documents [Json.Room] (tenant collection : Json) :
    ReadOnly (Store.documents tenant collection) := by
  refine (readOnly_collection tenant collection).bind fun _ => ?_
  refine (readOnly_ask _).bind fun _ => ?_
  split
  · exact (readOnly_ask _).bind fun names => readOnly_mapM (fun _ => readOnly_readJson _ _) _
  · exact readOnly_pure _

theorem readOnly_document? [Json.Room] (tenant collection id : Json) :
    ReadOnly (Store.document? tenant collection id) := by
  refine (readOnly_collection tenant collection).bind fun _ => ?_
  refine (readOnly_key _ _).bind fun _ => (readOnly_ask _).bind fun _ => ?_
  split
  · exact (readOnly_readJson _ _).bind fun _ => readOnly_pure _
  · exact readOnly_pure _

/-! ## What actions preserve -/

variable {holds : Store → Prop}

/-- Does what holds of a store hold still when the action has been carried out, whether it has
failed or not? -/
def Preserves (holds : Store → Prop) (action : Action α) : Prop :=
  ∀ store, holds store → holds (result action store).2

theorem Preserves.of_gives {action : Action α} (hpreserves : Preserves holds action)
    (hgives : Gives action store value left) (hstore : holds store) : holds left := by
  have hleft := hpreserves store hstore
  rwa [hgives.result_eq] at hleft

theorem ReadOnly.preserves {action : Action α} (hreads : ReadOnly action) :
    Preserves holds action := by
  intro store hstore
  rwa [hreads store]

theorem Preserves.bind {action : Action α} {next : α → Action β}
    (hfirst : Preserves holds action) (hnext : ∀ value, Preserves holds (next value)) :
    Preserves holds (action >>= next) := by
  intro store hstore
  have hleft := hfirst store hstore
  rw [result_bind]
  rcases haction : result action store with ⟨_ | value, left⟩ <;> rw [haction] at hleft
  · exact hleft
  · exact hnext value left hleft

theorem preserves_pure (value : α) : Preserves holds (pure value : Action α) :=
  (readOnly_pure value).preserves

theorem preserves_throw (fault : StoreFault) : Preserves holds (throw fault : Action α) :=
  (readOnly_throw fault).preserves

theorem preserves_forM {f : α → Action Unit} {items : List α}
    (hf : ∀ item ∈ items, Preserves holds (f item)) : Preserves holds (items.forM f) := by
  induction items with
  | nil => exact preserves_pure _
  | cons item rest ih =>
      have hrest := ih fun other hmem => hf other (List.mem_cons_of_mem _ hmem)
      exact (hf item (List.mem_cons_self ..)).bind fun _ => hrest

theorem preserves_change {step : FileTree → Except FileFault FileTree}
    (hstep : ∀ store files, holds store → step store.files = .ok files →
      holds { store with files := files }) : Preserves holds (change step) := by
  intro store hstore
  rw [result_change]
  cases hfiles : step store.files with
  | ok files => exact hstep store files hstore hfiles
  | error fault => exact hstore

theorem preserves_attempt {step : FileTree → FileTree × Option FileFault}
    (hstep : ∀ store, holds store → holds { store with files := (step store.files).1 }) :
    Preserves holds (attempt step) := by
  intro store hstore
  rw [result_attempt]
  exact hstep store hstore

/-! ## What actions answer -/

variable {answered : α → Prop} {replied : β → Prop}

/-- Is every value that the action answers with of the kind? -/
def Yields (action : Action α) (answered : α → Prop) : Prop :=
  ∀ store value, (result action store).1 = .ok value → answered value

theorem yields_pure (hvalue : answered value) : Yields (pure value : Action α) answered := by
  rintro store found hfound
  cases hfound
  exact hvalue

theorem yields_throw (fault : StoreFault) : Yields (throw fault : Action α) answered := by
  rintro store found hfound
  cases hfound

/-- What is answered last counts, and what is answered before can be of use for it. -/
theorem Yields.bind {action : Action α} {next : α → Action β} (hfirst : Yields action answered)
    (hnext : ∀ value, answered value → Yields (next value) replied) :
    Yields (action >>= next) replied := by
  intro store reply hreply
  rw [result_bind] at hreply
  have hanswered := hfirst store
  rcases haction : result action store with ⟨_ | value, left⟩ <;>
    rw [haction] at hreply hanswered
  · cases hreply
  · exact hnext value (hanswered value rfl) left reply hreply

theorem yields_true (action : Action α) : Yields action fun _ => True := fun _ _ _ => trivial

theorem yields_mapM {f : α → Action β} (hf : ∀ item, Yields (f item) replied) (items : List α) :
    Yields (items.mapM f) fun replies => ∀ reply ∈ replies, replied reply := by
  induction items with
  | nil => exact yields_pure (List.forall_mem_nil _)
  | cons item rest ih =>
      rw [List.mapM_cons]
      refine (hf item).bind fun reply hreply => ih.bind fun replies hreplies => ?_
      exact yields_pure (List.forall_mem_cons.mpr ⟨hreply, hreplies⟩)

end Store

end VisualNovel
