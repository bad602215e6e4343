import VisualNovel.Proofs.Http.Register

/-!
# Codes without a save

A code under which a tenant has no save is not found, whatever characters it has: what is no key is
not even looked for, and a key leads to no file.  But a key can be so long that the file system does
not look for it either, and says so instead of saying that there is no such file.  The path may be
too long; or the name of the file is, which comes up only when the directory of the saves is there.

`handle_unknown_iff` says that the length is all that matters (`Store.TooLongFor`): the answer
is that there is no such save, exactly if the code is no key or not too long.  The store stays as it
is in any case.
-/

namespace VisualNovel

namespace FileTree

variable {tree : FileTree} {base : Path} {place : Location} {outer inner name : String}

/-! ## Files that are not there -/

theorem isFile_down_of_long {names : List String} (hlocate : tree.locate base = .ok place)
    (hnames : ∀ name ∈ names, IsName name)
    (hlong : pathLimit < (base.down names).text.utf8ByteSize) :
    tree.isFile (base.down names) = .error .nameTooLong := by
  rw [isFile, ask, look, locate_down hlocate, any_null_of_isName hnames,
    if_neg Bool.false_ne_true, if_pos hlong]
  rfl

/-- In a directory there is no file under a name; this cannot be told if the name is too long. -/
theorem HasDirectory.isFile_child (hdirectory : tree.HasDirectory base place) (hname : IsName name)
    (hnone : ∀ content, tree.entry? (place ++ [name]) ≠ some (.file content)) :
    tree.isFile (base.child name) =
      if pathLimit < (base.child name).text.utf8ByteSize ∨ nameLimit < name.utf8ByteSize then
        .error .nameTooLong
      else .ok false := by
  rw [isFile, ask, look, hdirectory.locate_child_eq hname]
  split_ifs
  · rfl
  · simp only [bind, Except.bind]
    rcases hentry : tree.entry? (place ++ [name]) with _ | _ | content
    · rfl
    · rfl
    · exact absurd hentry (hnone content)

theorem HasDirectory.isFile_of_no_directory (hdirectory : tree.HasDirectory base place)
    (houter : IsFileName outer) (hinner : IsFileName inner) (hname : IsName name)
    (hsize : (base.down [outer, inner, name]).text.utf8ByteSize ≤ pathLimit)
    (hmissing : ¬ tree.HasDirectory (base.down [outer, inner]) (place ++ [outer] ++ [inner])) :
    tree.isFile (base.down [outer, inner, name]) = .ok false := by
  have hnames : ∀ other ∈ [outer, inner, name], IsName other :=
    List.forall_mem_cons.mpr ⟨houter.toIsName, List.forall_mem_cons.mpr
      ⟨hinner.toIsName, List.forall_mem_singleton.mpr hname⟩⟩
  have hwalk : ∀ rest, tree.walk place (outer :: rest) = tree.walk (place ++ [outer]) rest :=
    fun _ => walk_cons_of_directory houter hdirectory.entry?_eq
  rw [isFile, ask, look, locate_down hdirectory.locate_eq, any_null_of_isName hnames,
    if_neg Bool.false_ne_true, if_neg (Nat.not_lt.mpr hsize), hwalk]
  rcases hfirst : tree.entry? (place ++ [outer]) with _ | _ | content
  · rw [walk_cons_of_absent hfirst]
    rfl
  · rw [walk_cons_of_directory hinner hfirst]
    rcases hsecond : tree.entry? (place ++ [outer] ++ [inner]) with _ | _ | content
    · rw [walk_cons_of_absent hsecond]
      rfl
    · -- both directories are there
      refine absurd ⟨?_, hsecond⟩ hmissing
      have hlonger := (base.down [outer, inner]).utf8ByteSize_le_down
        (List.forall_mem_singleton.mpr hname)
      have hshorter : (base.down [outer, inner]).text.utf8ByteSize ≤ pathLimit := by
        rw [Path.down, Path.down, List.append_assoc] at hlonger
        exact Nat.le_trans hlonger hsize
      rw [locate_down hdirectory.locate_eq,
        any_null_of_isName fun other hmem => hnames other (by simp at hmem ⊢; tauto),
        if_neg Bool.false_ne_true, if_neg (Nat.not_lt.mpr hshorter), hwalk,
        walk_cons_of_directory hinner hfirst, walk]
    · rw [walk, hsecond]
      rfl
  · rw [walk, hfirst]
    rfl

end FileTree

namespace Store

variable {store : Store} {root : Path} {place : Location} {tenant code : String}

/-! ## Saves that are not there -/

/-- The path to the file of a save. -/
def savePath (root : Path) (tenant code : String) : Path :=
  (collectionPath root tenant "saveData").child (documentName code)

/-- Is the code too long for being looked for?  The path to the file under it is too long, or the
name of the file is, and the directory of the saves is there. -/
def TooLongFor (store : Store) (root : Path) (place : Location) (tenant code : String) : Prop :=
  FileTree.pathLimit < (savePath root tenant code).text.utf8ByteSize ∨
    FileTree.nameLimit < code.length + 5 ∧
      store.files.HasDirectory (collectionPath root tenant "saveData")
        (collectionPlace place tenant "saveData")

/-- Is there no save of the tenant under the code? -/
def IsUnknown (store : Store) (place : Location) (tenant code : String) : Prop :=
  ∀ content, store.files.entry? (collectionPlace place tenant "saveData" ++ [documentName code]) ≠
    some (.file content)

section

variable (hstore : store.Initialised root place) (htenant : Key.isKey tenant = true)
  (hshort : tenant.length ≤ FileTree.nameLimit) (hunknown : store.IsUnknown place tenant code)

include hstore htenant hshort hunknown

/-- There is no file under the code, which cannot be told if the code is too long. -/
theorem isFile_savePath (hkey : Key.isKey code = true) :
    (store.TooLongFor root place tenant code ∧
        store.files.isFile (savePath root tenant code) = .error .nameTooLong) ∨
      (¬ store.TooLongFor root place tenant code ∧
        store.files.isFile (savePath root tenant code) = .ok false) := by
  have hname := isName_documentName hkey
  have houter := Key.isFileName_of_isKey htenant hshort
  have hcollection : collectionPath root tenant "saveData" =
      (root.child "tenants").down [tenant, "saveData"] :=
    collectionPath_eq houter.toIsName isFileName_saveData.toIsName
  have hpath : savePath root tenant code =
      (root.child "tenants").down [tenant, "saveData", documentName code] := by
    rw [savePath, hcollection, Path.child_down hname]
    rfl
  by_cases hlong : FileTree.pathLimit < (savePath root tenant code).text.utf8ByteSize
  · refine Or.inl ⟨Or.inl hlong, ?_⟩
    rw [hpath] at hlong ⊢
    refine FileTree.isFile_down_of_long hstore.directory.locate_eq ?_ hlong
    exact List.forall_mem_cons.mpr ⟨houter.toIsName, List.forall_mem_cons.mpr
      ⟨isFileName_saveData.toIsName, List.forall_mem_singleton.mpr hname⟩⟩
  · have hiff : store.TooLongFor root place tenant code ↔ FileTree.nameLimit < code.length + 5 ∧
        store.files.HasDirectory (collectionPath root tenant "saveData")
          (collectionPlace place tenant "saveData") := or_iff_right hlong
    by_cases hdirectory : store.files.HasDirectory (collectionPath root tenant "saveData")
        (collectionPlace place tenant "saveData")
    · -- the directory is there, so that only the length of the name can fail
      have hfile : store.files.isFile (savePath root tenant code) =
          if FileTree.nameLimit < code.length + 5 then .error .nameTooLong else .ok false := by
        rw [savePath, hdirectory.isFile_child hname hunknown, utf8ByteSize_documentName hkey]
        exact if_congr (or_iff_right hlong) rfl rfl
      rw [hiff, hfile]
      split_ifs with hcode
      · exact Or.inl ⟨⟨hcode, hdirectory⟩, rfl⟩
      · exact Or.inr ⟨fun hboth => hcode hboth.1, rfl⟩
    · refine Or.inr ⟨fun hboth => hdirectory (hiff.mp hboth).2, ?_⟩
      rw [hpath] at hlong ⊢
      rw [hcollection] at hdirectory
      exact hstore.directory.isFile_of_no_directory houter isFileName_saveData hname
        (Nat.le_of_not_lt hlong) hdirectory

/-- A look at the saves finds none, unless the code is a key that is too long; then it fails. -/
theorem result_save?_unknown [Json.Room] :
    (Key.isKey code = true ∧ store.TooLongFor root place tenant code ∧
        result (save? (.str tenant) (.str code)) store = (.error (.file .nameTooLong), store)) ∨
      (¬ (Key.isKey code = true ∧ store.TooLongFor root place tenant code) ∧
        Gives (save? (.str tenant) (.str code)) store none store) := by
  rw [save?, Key.isKeyValue]
  cases hkey : Key.isKey code with
  | false => exact Or.inr ⟨fun hboth => Bool.false_ne_true hboth.1, gives_pure _ _⟩
  | true =>
      have hpath : Gives (Store.collection (.str tenant) saveCollection) store
          (collectionPath root tenant "saveData") store :=
        gives_collection hstore.root_eq htenant "saveData"
      rcases isFile_savePath hstore htenant hshort hunknown hkey with
        ⟨hlong, hfile⟩ | ⟨hfits, hfile⟩
      · refine Or.inl ⟨rfl, hlong, ?_⟩
        have hask : result (ask fun files => files.isFile (savePath root tenant code)) store =
            (.error (.file .nameTooLong), store) := by
          rw [result_ask, hfile]
          rfl
        show result (document? (.str tenant) saveCollection (.str code)) store = _
        rw [document?, hpath.result_bind, (gives_key hkey).result_bind]
        simp only
        rw [result_bind, ← savePath, hask]
      · refine Or.inr ⟨fun hboth => hfits hboth.2, ?_⟩
        exact hpath.bind ((gives_key hkey).bind ((gives_ask hfile).bind (gives_pure _ _)))

end

theorem Ready.not_tooLongFor (hready : store.Ready root place) (htenant : Key.isKey tenant = true)
    (hshort : tenant.length ≤ FileTree.nameLimit) (hcode : Key.isKey code = true)
    (hfits : code.length + 5 ≤ FileTree.nameLimit) :
    ¬ store.TooLongFor root place tenant code := by
  have hroom := hready.room_document htenant hshort isFileName_saveData
  have hname := isFileName_documentName hcode hfits
  have hlast := hname.short
  have hsize := (collectionPath root tenant "saveData").utf8ByteSize_child_le hname.toIsName
  rintro (hpath | ⟨hlong, -⟩)
  · rw [savePath] at hpath
    omega
  · omega

section

variable {covered : String → Prop} {log : List Note} {collection : String}
  (hrecords : Records store root place covered log) (htenant : Key.isKey tenant = true)

include hrecords htenant

theorem Records.isUnknown (hcovered : covered "saveData")
    (hnone : OrderedMap.at? (tenant, "saveData", code) log = none) :
    store.IsUnknown place tenant code := by
  obtain ⟨contents, hrepresents, htells⟩ := hrecords
  intro content
  rw [(hrepresents.holding tenant "saveData" htenant hcovered).entry?_eq, htells, hnone]
  exact nofun

theorem Records.hasDirectory {id : String} {document : Json}
    (hshort : tenant.length ≤ FileTree.nameLimit) (hcollection : IsFileName collection)
    (hcovered : covered collection)
    (hnoted : OrderedMap.at? (tenant, collection, id) log = some document) :
    store.files.HasDirectory (collectionPath root tenant collection)
      (collectionPlace place tenant collection) := by
  obtain ⟨contents, hrepresents, htells⟩ := hrecords
  rcases (hrepresents.holding tenant collection htenant hcovered).look_cases hrepresents.ready
    htenant hshort hcollection with hdirectory | ⟨hempty, -⟩
  · exact hdirectory
  · rw [← htells, hempty] at hnoted
    cases hnoted

end

end Store

/-! ## Requests -/

namespace Http

open Store Json

variable {server : Server} {request : Request} {tenant code : String} {store : Store}
  {root : Path} {place : Location}

/-- A request for the save under a code. -/
def Request.lookUp (tenant code : String) : Request :=
  .post (shopUrl .loadGame) (.obj [("tenantId", .str tenant), ("saveCode", .str code)])

/-- Every text that is not empty can be asked for as a code. -/
theorem Server.task?_lookUp [Room] (server : Server) (htenant : Key.isKey tenant = true)
    (hcode : Text.isJoined code = true) (hsome : code ≠ "") :
    server.task? (.lookUp tenant code) = some (tenant, .load code) := by
  have hnames : Text.isJoined "tenantId" = true ∧ Text.isJoined "saveCode" = true ∧
      ["tenantId", "saveCode"].Nodup := by decide +kernel
  have hjoined := Text.isJoined_of_isEncodable (Key.isEncodable_of_isKey htenant)
  have hplain : isPlain (.obj [("tenantId", .str tenant), ("saveCode", .str code)]) = true :=
    isPlain_obj_iff.mpr ⟨hnames.2.2, List.forall_mem_cons.mpr
      ⟨⟨hnames.1, hjoined⟩, List.forall_mem_singleton.mpr ⟨hnames.2.1, hcode⟩⟩⟩
  rw [Request.lookUp,
    Server.task?_post (route?_shopUrl server .loadGame) hplain
      ((by decide : 1 ≤ 4).trans (Room.four_le_depth .body))]
  show Callable.loadTask? ⟨some tenant, some code⟩ = _
  simp only [Callable.loadTask?, Callable.argument?_of_ne (Callable.ne_empty_of_isKey htenant),
    Callable.argument?_of_ne hsome, Task.forTenant, htenant, if_true]

/-! ## Responses -/

theorem Server.handle_of_result_save? [Room] {answer : Except StoreFault (Option Json)}
    (htask : server.task? request = some (tenant, .load code))
    (hsave : result (save? (.str tenant) (.str code)) store = (answer, store)) :
    (∀ fault, answer = .error fault → (server.handle request).run store = (serverError, store)) ∧
      (answer = .ok none → (server.handle request).run store = (rejection .noSave, store)) := by
  rw [Server.run_handle htask, Task.action, result_bind, hsave]
  constructor
  · rintro fault rfl
    rfl
  · rintro rfl
    rfl

/-- No save is found under an unknown code, and a request for it is answered so, exactly if the code
is no key or not too long.  If it is a key that is too long, then looking for it fails.  The store
stays as it is in any case.  Every code that is not empty can be asked for, whatever units it
has. -/
theorem handle_unknown_iff [Room] (hstore : store.Initialised root place)
    (htenant : Key.isKey tenant = true) (hshort : tenant.length ≤ FileTree.nameLimit)
    (hunknown : store.IsUnknown place tenant code) :
    (Gives (save? (.str tenant) (.str code)) store none store ↔
        ¬ (Key.isKey code = true ∧ store.TooLongFor root place tenant code)) ∧
      (∀ (server : Server) request, server.task? request = some (tenant, .load code) →
        ((server.handle request).run store =
            (.ofDetail 404 (.obj [("status", .str "not-found"),
              ("message", .str "Save data not found.")]), store) ↔
          ¬ (Key.isKey code = true ∧ store.TooLongFor root place tenant code))) ∧
      (Key.isKey code = true ∧ store.TooLongFor root place tenant code →
        result (save? (.str tenant) (.str code)) store = (.error (.file .nameTooLong), store) ∧
          ∀ (server : Server) request, server.task? request = some (tenant, .load code) →
            (server.handle request).run store = (serverError, store)) ∧
      (Text.isJoined code = true → code ≠ "" → ∀ server : Server,
        server.task? (.lookUp tenant code) = some (tenant, .load code)) := by
  have hnone : rejection .noSave = .ofDetail 404 (.obj [("status", .str "not-found"),
      ("message", .str "Save data not found.")]) := rfl
  rw [← hnone]
  rcases result_save?_unknown hstore htenant hshort hunknown with
    ⟨hkey, hlong, hsave⟩ | ⟨hfits, hsave⟩
  · have hfails : ∀ (server : Server) request,
        server.task? request = some (tenant, .load code) →
          (server.handle request).run store = (serverError, store) :=
      fun server request htask => (Server.handle_of_result_save? htask hsave).1 _ rfl
    refine ⟨iff_of_false (fun hgives => ?_) fun hnot => hnot ⟨hkey, hlong⟩,
      fun server request htask => iff_of_false (fun hanswer => ?_) fun hnot => hnot ⟨hkey, hlong⟩,
      fun _ => ⟨hsave, hfails⟩,
      fun hjoined hsome server => server.task?_lookUp htenant hjoined hsome⟩
    · rw [hgives.result_eq] at hsave
      cases hsave
    · rw [hfails server request htask] at hanswer
      have hstatus := congrArg (fun answer => answer.1.status) hanswer
      cases hstatus
  · refine ⟨iff_of_true hsave hfits, fun server request htask => iff_of_true ?_ hfits,
      fun hboth => absurd hboth hfits,
      fun hjoined hsome server => server.task?_lookUp htenant hjoined hsome⟩
    exact (Server.handle_of_result_save? htask hsave).2 rfl

/-! ### Codes of one letter -/

/-- A code that has one letter many times. -/
def repeated (size : Nat) : String := String.ofList (List.replicate size 'A')

theorem length_repeated (size : Nat) : (repeated size).length = size := by
  rw [repeated, String.length_ofList, List.length_replicate]

theorem isKey_repeated {size : Nat} (hsome : size ≠ 0) : Key.isKey (repeated size) = true := by
  rw [Key.isKey_iff, repeated, String.toList_ofList]
  refine ⟨fun hnil => hsome ((List.replicate_eq_nil_iff _).mp hnil), fun c hmem => ?_⟩
  rw [List.eq_of_mem_replicate hmem]
  decide

theorem task?_repeated [Room] {size : Nat} (hsome : size ≠ 0) :
    (Server.mk none).task? (.lookUp "demo" (repeated size)) =
      some ("demo", .load (repeated size)) :=
  Server.task?_lookUp _ (by decide)
    (Text.isJoined_of_isEncodable (Key.isEncodable_of_isKey (isKey_repeated hsome)))
    (Callable.ne_empty_of_isKey (isKey_repeated hsome))

/-- The data of a save. -/
def savedLine : Fields := [("playerName", .str "Mika"), ("currentLine", .int 3)]

/-- After a save has been made in a new store, its directory is there, and a longer code is
unknown. -/
theorem gives_createSave_savedLine : ∃ left,
    Gives (createSave (.str "demo") (.obj savedLine)) (newWith []) (newWith []).nextCode left ∧
      left.Ready (Path.ofText "data") ["data", "tenants"] ∧
      left.Initialised (Path.ofText "data") ["data", "tenants"] ∧
      left.files.HasDirectory (collectionPath (Path.ofText "data") "demo" "saveData")
        (collectionPlace ["data", "tenants"] "demo" "saveData") ∧
      ∀ size ≠ SaveCode.length, left.IsUnknown ["data", "tenants"] "demo" (repeated size) := by
  obtain ⟨left, hcreate, hrecords⟩ := (@records_newWith fun _ => True).gives_createSave
    (by decide : Key.isKey "demo" = true) (by decide) trivial
    (by decide +kernel : (Json.obj savedLine).isPlain = true)
    (Room.stores_of_nesting_le (by decide +kernel))
  have ⟨contents, hrepresents, _⟩ := hrecords
  refine ⟨left, hcreate, hrepresents.ready, hrepresents.initialised,
    hrecords.hasDirectory (by decide) (by decide) isFileName_saveData trivial
      (OrderedMap.at?_cons .. |>.trans (if_pos rfl)), fun size hsize => ?_⟩
  refine hrecords.isUnknown (by decide) trivial ?_
  rw [OrderedMap.at?_cons, if_neg]
  · rfl
  · intro heq
    have hcode : (newWith []).nextCode = repeated size := (Prod.mk.inj (Prod.mk.inj heq).2).2
    have hlength := congrArg String.length hcode
    rw [length_nextCode, length_repeated] at hlength
    exact hsize hlength.symm

/-- A code of 251 letters is not said to be unknown. -/
theorem repeated_not_looked_up : ∃ left,
    Gives (createSave (.str "demo") (.obj savedLine)) (newWith []) (newWith []).nextCode left ∧
      left.IsUnknown ["data", "tenants"] "demo" (repeated 251) ∧
      result (save? (.str "demo") (.str (repeated 251))) left =
        (.error (.file .nameTooLong), left) ∧
      ((Server.mk none).handle (.lookUp "demo" (repeated 251))).run left = (serverError, left) := by
  obtain ⟨left, hcreate, -, hstore, hdirectory, hunknown⟩ := gives_createSave_savedLine
  refine ⟨left, hcreate, hunknown 251 (by decide), ?_⟩
  rcases result_save?_unknown hstore (by decide) (by decide) (hunknown 251 (by decide)) with
    ⟨-, -, hsave⟩ | ⟨hfits, -⟩
  · exact ⟨hsave, (Server.handle_of_result_save? (task?_repeated (by decide)) hsave).1 _ rfl⟩
  · refine absurd ⟨isKey_repeated (by decide), Or.inr ⟨?_, hdirectory⟩⟩ hfits
    rw [length_repeated]
    decide

/-- A code of 250 letters is unknown. -/
theorem handle_unknown_of_repeated : ∃ left,
    Gives (createSave (.str "demo") (.obj savedLine)) (newWith []) (newWith []).nextCode left ∧
      Gives (save? (.str "demo") (.str (repeated 250))) left none left ∧
      ((Server.mk none).handle (.lookUp "demo" (repeated 250))).run left =
        (.ofDetail 404 (.obj [("status", .str "not-found"),
          ("message", .str "Save data not found.")]), left) := by
  obtain ⟨left, hcreate, hready, hstore, -, hunknown⟩ := gives_createSave_savedLine
  have hfits : ¬ (Key.isKey (repeated 250) = true ∧
      left.TooLongFor (Path.ofText "data") ["data", "tenants"] "demo" (repeated 250)) := by
    rintro ⟨hkey, hlong⟩
    refine hready.not_tooLongFor (by decide) (by decide) hkey ?_ hlong
    rw [length_repeated]
    decide
  obtain ⟨hsave, hhandle, -, -⟩ := handle_unknown_iff hstore (by decide) (by decide)
    (hunknown 250 (by decide))
  exact ⟨left, hcreate, hsave.mpr hfits,
    (hhandle _ _ (task?_repeated (by decide))).mpr hfits⟩

end Http

end VisualNovel
