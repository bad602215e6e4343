import VisualNovel.Proofs.Save.Code
import VisualNovel.Proofs.Store.Accepted
import VisualNovel.Proofs.Store.Notes
import VisualNovel.Proofs.Store.Opening

/-!
# Codes that are given out

A code that a save is made under is a key, so a look at the saves never takes it for malformed, of
whatever tenant and at whatever time: what is answered depends on nothing but the file under the
code (`save?_eq_lookFor`).  And the file is there as soon as the save has been made, since documents
that have been written can be read (`isThere_of_gives_writeAt`).

Every call takes the draws for its code, and leaves the others to the calls after it, whether the
save is made or not (`draws_createSave`).
-/

namespace VisualNovel

/-! ## Codes as keys -/

namespace SaveCode

variable {size : Nat} {code : String}

theorem isKey_iff (hcode : IsCode size code) : Key.isKey code = true ↔ 0 < size := by
  rw [Key.isKey_iff, ← hcode.length_eq, ← String.length_toList, List.length_pos_iff]
  exact and_iff_left fun c hmem => allows_of_mem_alphabet (hcode.mem_alphabet c hmem)

end SaveCode

namespace Store

section

variable [Json.Room] {store left : Store} {path : Path} {directory : Location} {tenant : Json}
  {code : String}
  {documents : List (String × Json)} {document : String × Json}

/-- The look at the file of a save, with no question about the code. -/
def lookFor (tenant : Json) (code : String) : Action (Option Json) := do
  let path := (← Store.collection tenant saveCollection).child (documentName code)
  if ← ask fun files => files.isFile path then return some (← readJson .document path)
  else return none

theorem save?_eq_lookFor (hkey : Key.isKey code = true) (tenant : Json) :
    save? tenant (.str code) = lookFor tenant code := by
  have hchecked : Store.key "document id" (.str code) = pure code := by
    rw [Store.key, Key.ofJson, Key.check, if_pos hkey]
  rw [save?, Key.isKeyValue, hkey]
  simp only [document?, hchecked, pure_bind, lookFor]

/-! ## Documents that have been written can be read -/

/-- Documents that have been written could be written one by one. -/
theorem isWritable_of_gives_writeDocuments (hdirectory : store.files.HasDirectory path directory)
    (hkeys : ∀ document ∈ documents, Key.isKey document.1 = true)
    (hgives : Gives (documents.forM fun (id, document) => writeDocument path id document)
      store () left) :
    ∀ document ∈ documents, isWritable store.files path document = true := by
  induction documents generalizing store with
  | nil => exact List.forall_mem_nil _
  | cons document rest ih =>
      obtain ⟨hkey, hrest⟩ := List.forall_mem_cons.mp hkeys
      have hok := isOk_writeDocument path document store
      have hresult := hgives.result_eq
      rw [result_writeDocuments_cons] at hresult
      rcases result_writeDocument_cases hdirectory hkey with
        ⟨-, -, hfree, hwrite⟩ | ⟨fault, -, hwrite⟩ <;> rw [hwrite] at hok hresult
      · have hfirst : isWritable store.files path document = true := hok.symm
        have hchanged := changedBelow_place_document hdirectory.entry?_eq
          (isName_documentName hkey) hfree
        refine List.forall_mem_cons.mpr ⟨hfirst, fun other hmem => ?_⟩
        rw [← isWritable_placed hdirectory hrest hkey hfirst other hmem]
        exact @ih { store with files := placed directory [document] store.files }
          (hchanged.hasDirectory hdirectory) hrest hresult other hmem
      · cases hresult

/-- All documents that have been written are there, if their ids are different. -/
theorem isThere_of_gives_writeAt (hpath : path.absolute = false → path.parts ≠ [])
    (hkeys : ∀ document ∈ documents, Key.isKey document.1 = true)
    (hnodup : (documents.map Prod.fst).Nodup)
    (hgives : Gives (writeAt path (.obj documents)) store () left) :
    ∀ document ∈ documents, IsThere left.files path document := by
  obtain ⟨made, directory, -, hdirectory, hplaces⟩ := of_gives_writeAt hpath hgives
  have hwritable := isWritable_of_gives_writeDocuments hdirectory hkeys hplaces
  have hcan : ∀ document ∈ documents, _ := fun document hmem =>
    (isWritable_iff hdirectory (hkeys document hmem)).mp (hwritable document hmem)
  -- none of them stops the writing, so all of them have been placed
  have hplaced := @result_writeDocuments _ { store with files := made } path directory documents _
    hdirectory hkeys fun _ _ => rfl
  rw [hplaces.result_eq, List.takeWhile_eq_self_iff.mpr hwritable] at hplaced
  obtain rfl : left = { store with files := placed directory documents made } := hplaced
  have hchanged := changedBelow_placed hdirectory.entry?_eq
    (fun document hmem => isName_documentName (hkeys document hmem))
    fun document hmem => (hcan document hmem).2.2.2
  have hthere := hchanged.hasDirectory hdirectory
  intro document hmem
  have hkey := hkeys document hmem
  have hentry : FileTree.entry? (placed directory documents made)
      (documentEntry directory document).1 = some (documentEntry directory document).2 :=
    entry?_placed_of_mem hnodup hmem
  obtain ⟨hshallow, hlong, hshort, -⟩ := hcan document hmem
  refine (isThere_iff hthere hkey ((isWritable_iff hthere hkey).mpr
    ⟨hshallow, hlong, hshort, ?_⟩)).mpr hentry
  rw [hentry]
  exact nofun

/-- What has been written is read, as far as the text of a document tells what it is. -/
theorem result_document?_of_there {collection value : Json} {id : String}
    (hpath : Gives (Store.collection tenant collection) store path store)
    (hkey : Key.isKey id = true) (hthere : IsThere store.files path (id, value)) :
    result (document? tenant collection (.str id)) store =
      (((Json.parseFile .document (value.toText .stored).toUTF8).mapError .unreadable).map some,
        store) := by
  have hread : store.files.readFile (path.child (documentName id)) =
      .ok (value.toText .stored).toUTF8 := hthere
  obtain ⟨place, hlocate, hentry⟩ := FileTree.entry?_of_readFile hread
  rw [document?, hpath.result_bind, (gives_key hkey).result_bind]
  simp only
  rw [(gives_ask (FileTree.isFile_of_entry? hlocate hentry)).result_bind, if_pos rfl, result_bind,
    result_readJson, hread]
  simp only
  cases Json.parseFile .document (value.toText .stored).toUTF8 <;> rfl

/-! ## Making a save -/

theorem of_gives_createSave {data : Json}
    (hgives : Gives (createSave tenant data) store code left) :
    code = store.nextCode ∧ ∃ fields, data = .obj fields ∧
      Gives (write tenant saveCollection (.obj [(store.nextCode, store.stamped fields)]))
        store.drawn () left := by
  cases data with
  | obj fields =>
      have hresult := hgives.result_eq
      rw [result_createSave] at hresult
      obtain ⟨_, _, hwrite, hpure⟩ := Gives.of_bind hresult
      cases hpure
      exact ⟨rfl, fields, rfl, hwrite⟩
  | _ =>
      obtain ⟨_, _, -, hthrow⟩ := hgives.of_bind
      cases hthrow

/-- Every call takes the draws for one code. -/
theorem draws_createSave (tenant data : Json) (store : Store) :
    (result (createSave tenant data) store).2.draws = store.draws.drop SaveCode.length := by
  have hdrawn : store.drawn.draws = store.draws.drop SaveCode.length :=
    SaveCode.generate_snd SaveCode.length store.draws
  have hkept : ∀ documents, Preserves (fun later => later.draws = store.draws.drop SaveCode.length)
      (write tenant saveCollection documents) :=
    preserves_write (fun _ _ hdraws => hdraws) tenant saveCollection
  cases data with
  | obj fields =>
      rw [result_createSave]
      exact (hkept _).bind (fun _ => preserves_pure _) store.drawn hdrawn
  | _ =>
      rw [createSave, (gives_newCode store).result_bind]
      exact hdrawn

/-- A look for the code of a save that has just been made finds its file. -/
theorem result_save?_of_createSave {fields : OrderedMap String Json}
    (hgives : Gives (createSave tenant (.obj fields)) store code left) :
    result (save? tenant (.str code)) left =
      (((Json.parseFile .document ((store.stamped fields).toText .stored).toUTF8).mapError
        .unreadable).map some, left) := by
  obtain ⟨rfl, _, ⟨⟩, hwrite⟩ := of_gives_createSave hgives
  obtain ⟨path, hpath, hkeys, hat⟩ := gives_writeAt_of_write hwrite
  have hthere := isThere_of_gives_writeAt (parts_ne_nil_of_gives_collection hpath) hkeys
    (List.nodup_singleton _) hat _ (List.mem_singleton_self _)
  have hroot : left.root = store.drawn.root := (keepsRoot_write _ _ _).root_eq hwrite
  have hkey := isKey_nextCode store
  rw [save?, Key.isKeyValue, hkey]
  exact result_document?_of_there (gives_collection_of_root hroot hpath) hkey hthere

/-- A save that a text tells is read as it has been made, with the time at which it was, if there
is room for it. -/
theorem result_save?_of_exact {fields : OrderedMap String Json}
    (hexact : Json.IsExact (.obj fields))
    (hgives : Gives (createSave tenant (.obj fields)) store code left) :
    result (save? tenant (.str code)) left =
      ((reread .document (store.stamped fields)).map some, left) := by
  have hstamped : Json.IsExact (store.stamped fields) :=
    Json.isRegular_put hexact (by decide) (Text.isJoined_of_isEncodable (isEncodable_moment _))
  rw [result_save?_of_createSave hgives, parseFile_stored .document hstamped]

/-- The codes of saves are fair and can always be used.

The alphabet has 62 different letters, and every code takes one draw for each of its letters, so the
codes of a length correspond to the draws for them: if these are fair, then all codes are equally
likely.  Codes that are made one after another take draws that follow one another.  A code that is
not empty is a key.  So a code that a save was made under is always looked for, and right after the
save has been made it is found, and read if there is room for it. -/
theorem codes_fair_and_found :
    (SaveCode.alphabet.length = 62 ∧ SaveCode.alphabet.Nodup ∧
        (∀ c, c ∈ SaveCode.alphabet ↔ c.isAlphanum = true) ∧
        ∀ draw, (hlt : draw < SaveCode.alphabet.length) →
          SaveCode.letter draw = SaveCode.alphabet[draw]) ∧
      (∀ size draws, SaveCode.IsCode size (SaveCode.generate size draws).1 ∧
        (SaveCode.generate size draws).2 = draws.drop size) ∧
      (∀ draws rest, SaveCode.generate draws.length (draws ++ rest) =
        (String.ofList (draws.map SaveCode.letter), rest)) ∧
      (∀ size, Set.BijOn (fun draws => (SaveCode.generate size draws).1)
        {draws | SaveCode.IsDrawing size draws} {code | SaveCode.IsCode size code}) ∧
      (∀ size code, SaveCode.randomCode size code =
        if SaveCode.IsCode size code then ((62 : ENNReal) ^ size)⁻¹ else 0) ∧
      (∀ (drawings : List (List Nat)) rest, (SaveCode.series (drawings.map List.length)).run
          (drawings.flatten ++ rest) =
        (drawings.map fun draws => String.ofList (draws.map SaveCode.letter), rest)) ∧
      (∀ size code, SaveCode.IsCode size code → (Key.isKey code = true ↔ 0 < size)) ∧
      (∀ tenant data (store : Store),
        (result (createSave tenant data) store).2.draws = store.draws.drop SaveCode.length) ∧
      ∀ (store left : Store) tenant data code, Gives (createSave tenant data) store code left →
        code = (SaveCode.generate SaveCode.length store.draws).1 ∧
          Key.isKeyValue (.str code) = .ok true ∧
          (∀ owner, save? owner (.str code) = lookFor owner code) ∧
          (∀ last, ¬ Gives (save? tenant (.str code)) left none last) ∧
          ∀ fields, data = .obj fields → Json.IsExact data →
            result (save? tenant (.str code)) left =
              ((reread .document (store.stamped fields)).map some, left) := by
  refine ⟨⟨SaveCode.length_alphabet, SaveCode.nodup_alphabet, fun _ => SaveCode.mem_alphabet_iff,
      fun _ hlt => SaveCode.letter_of_lt hlt⟩,
    fun size draws => ⟨SaveCode.isCode_generate size draws, SaveCode.generate_snd size draws⟩,
    SaveCode.generate_append, SaveCode.bijOn_generate, SaveCode.randomCode_apply,
    SaveCode.series_flatten, fun size code hcode => SaveCode.isKey_iff hcode, draws_createSave, ?_⟩
  intro store left tenant data code hgives
  obtain ⟨hcode, fields, rfl, -⟩ := of_gives_createSave hgives
  have hkey : Key.isKey code = true := hcode ▸ isKey_nextCode store
  refine ⟨hcode, congrArg Except.ok hkey, save?_eq_lookFor hkey, fun last hnone => ?_, ?_⟩
  · have hresult := result_save?_of_createSave hgives
    rw [hnone.result_eq] at hresult
    cases hparse : Json.parseFile .document ((store.stamped fields).toText .stored).toUTF8 <;>
      rw [hparse] at hresult <;> cases hresult
  · rintro _ ⟨⟩ hexact
    exact result_save?_of_exact hexact hgives

end

/-- The data of a first save. -/
def firstSave : OrderedMap String Json := [("playerName", .str "Mika"), ("currentLine", .int 3)]

/-- Two draws make a code of two letters, one of 3844; and a first save is found again. -/
theorem codes_fair_and_found_of_first :
    SaveCode.generate 2 [27, 61, 5] = ("b9", [5]) ∧
      SaveCode.randomCode 2 "b9" = ((62 : ENNReal) ^ 2)⁻¹ ∧ Key.isKey "b9" = true ∧
      ∃ left, Gives (createSave (.str "demo") (.obj firstSave)) (newWith [])
          (newWith []).nextCode left ∧
        save? (.str "demo") (.str (newWith []).nextCode) =
          lookFor (.str "demo") (newWith []).nextCode ∧
        Gives (save? (.str "demo") (.str (newWith []).nextCode)) left
          (some ((newWith []).stamped firstSave)) left := by
  obtain ⟨-, -, hgenerate, -, hrandom, -, hkey, -, hsaves⟩ := codes_fair_and_found
  have hcode : SaveCode.IsCode 2 "b9" := by decide
  obtain ⟨left, hcreate, -⟩ := (@records_newWith fun _ => True).gives_createSave
    (by decide : Key.isKey "demo" = true) (by decide) trivial
    (by decide +kernel : (Json.obj firstSave).isPlain = true) (by decide)
  obtain ⟨-, -, hlook, -, hfound⟩ := hsaves _ _ _ _ _ hcreate
  refine ⟨hgenerate [27, 61] [5], ?_, (hkey 2 "b9" hcode).mpr (by decide), left, hcreate,
    hlook _, hfound _ rfl (Json.isExact_of_isPlain (by decide +kernel))⟩
  rw [hrandom, if_pos hcode]

end Store

end VisualNovel
