import VisualNovel.Proofs.Files.Below

/-!
# Where paths lead

A walk along a path goes from directory to directory, and `..` goes back to the one before.  If it
comes to an end, this is at the place that is read off the path without looking at any files
(`Path.fromRoot`): there are no links that would lead elsewhere.  A path to a directory that has
been made leads to it, so it leads to that place.

A place is written as an absolute path, and what is read from this text is that path again
(`ofText_text`), as the names of a place have no slashes in them.
-/

namespace VisualNovel

namespace Path

/-! ## Names without `..` -/

/-- One name on the way, when `..` takes back the one before. -/
def go (before : List String) (name : String) : List String :=
  if name = ".." then before.dropLast else before ++ [name]

theorem plainNames_append (first second : List String) :
    plainNames (first ++ second) = second.foldl go (plainNames first) :=
  List.foldl_append

theorem foldl_go_of_plain {names : List String} (hplain : ".." ∉ names) (place : List String) :
    names.foldl go place = place ++ names := by
  induction names generalizing place with
  | nil => exact (List.append_nil place).symm
  | cons name rest ih =>
      rw [List.mem_cons, not_or] at hplain
      rw [List.foldl_cons, go, if_neg (Ne.symm hplain.1), ih hplain.2, List.append_assoc,
        List.singleton_append]

theorem plainNames_of_plain {names : List String} (hplain : ".." ∉ names) :
    plainNames names = names :=
  foldl_go_of_plain hplain []

/-- Every name that is left is one of the names on the way, and is not `..`. -/
theorem mem_plainNames {names : List String} {name : String} (hmem : name ∈ plainNames names) :
    name ∈ names ∧ name ≠ ".." := by
  induction names using List.reverseRecOn with
  | nil => cases hmem
  | append_singleton names last ih =>
      rw [plainNames_append, List.foldl_cons, List.foldl_nil, go] at hmem
      split_ifs at hmem with hlast
      · obtain ⟨hname, hplain⟩ := ih (List.dropLast_subset _ hmem)
        exact ⟨List.mem_append_left _ hname, hplain⟩
      · rcases List.mem_append.mp hmem with hmem | hmem
        · obtain ⟨hname, hplain⟩ := ih hmem
          exact ⟨List.mem_append_left _ hname, hplain⟩
        · rw [List.mem_singleton.mp hmem]
          exact ⟨List.mem_append_right _ (List.mem_singleton_self _), hlast⟩

theorem fromRoot_of_absolute {path : Path} (habsolute : path.absolute = true)
    (workingDirectory : List String) : path.fromRoot workingDirectory = plainNames path.parts := by
  rw [fromRoot, if_pos habsolute]

theorem fromRoot_of_relative {path : Path} (hrelative : path.absolute = false)
    (workingDirectory : List String) :
    path.fromRoot workingDirectory = path.parts.foldl go (plainNames workingDirectory) := by
  rw [fromRoot, hrelative, if_neg Bool.false_ne_true, plainNames_append]

/-! ## Paths as texts -/

/-- Can the text be one of the names of a path? -/
structure IsPart (name : String) : Prop where
  nonempty : name ≠ ""
  not_here : name ≠ "."
  no_slash : '/' ∉ name.toList

theorem isPart_of_isName {name : String} (hname : IsName name) : IsPart name :=
  ⟨hname.nonempty, hname.not_here, hname.no_slash⟩

theorem not_mem_of_mem_splitOn {separator : Char} {chars piece : List Char}
    (hpiece : piece ∈ chars.splitOn separator) : separator ∉ piece := by
  induction chars generalizing piece with
  | nil =>
      rw [List.splitOn_nil] at hpiece
      rw [List.mem_singleton.mp hpiece]
      exact List.not_mem_nil
  | cons c rest ih =>
      rw [List.splitOn_cons_eq_if_modifyHead] at hpiece
      split at hpiece
      · rcases List.mem_cons.mp hpiece with rfl | hpiece
        · exact List.not_mem_nil
        · exact ih hpiece
      · next hne =>
        rw [beq_iff_eq] at hne
        cases hpieces : rest.splitOn separator with
        | nil =>
            rw [hpieces] at hpiece
            cases hpiece
        | cons first others =>
            rw [hpieces] at hpiece ih
            rcases List.mem_cons.mp hpiece with rfl | hpiece
            · exact List.not_mem_cons_of_ne_of_not_mem (Ne.symm hne) (ih (List.mem_cons_self ..))
            · exact ih (List.mem_cons_of_mem _ hpiece)

theorem isPart_of_ofText {text name : String} (hmem : name ∈ (ofText text).parts) :
    IsPart name := by
  obtain ⟨hpiece, hkept⟩ := List.mem_filter.mp hmem
  obtain ⟨hnonempty, hhere⟩ := of_decide_eq_true hkept
  obtain ⟨chars, hchars, rfl⟩ := List.mem_map.mp hpiece
  refine ⟨hnonempty, hhere, ?_⟩
  rw [String.toList_ofList]
  exact not_mem_of_mem_splitOn hchars

theorem ofText_text {path : Path} (habsolute : path.absolute = true)
    (hparts : ∀ name ∈ path.parts, IsPart name) : ofText path.text = path := by
  obtain ⟨absolute, parts⟩ := path
  obtain rfl : absolute = true := habsolute
  have htext : (text ⟨true, parts⟩).toList =
      '/' :: ['/'].intercalate (parts.map String.toList) := by
    rw [text, if_pos rfl, String.toList_append, String.toList_intercalate]
    rfl
  have hstarts : (text ⟨true, parts⟩).startsWith "/" = true := by
    rw [String.startsWith_string_iff, htext]
    exact ⟨_, rfl⟩
  -- the slash at the beginning makes an empty piece, which is not kept
  have hpieces : Text.pieces '/' (text ⟨true, parts⟩) =
      "" :: ((['/'].intercalate (parts.map String.toList)).splitOn '/').map String.ofList := by
    rw [Text.pieces, htext, List.splitOn_cons_eq_if_modifyHead,
      if_pos (beq_self_eq_true '/')]
    rfl
  have hkept : (Text.pieces '/' (text ⟨true, parts⟩)).filter
      (fun part => part ≠ "" ∧ part ≠ ".") = parts := by
    rw [hpieces, List.filter_cons_of_neg (by simp)]
    cases parts with
    | nil => rfl
    | cons first others =>
        have hsome : (first :: others).map String.toList ≠ [] := List.cons_ne_nil _ _
        rw [List.splitOn_intercalate '/' ?_ hsome, List.map_map]
        · have hround : String.ofList ∘ String.toList = id := funext fun _ => String.ofList_toList
          rw [hround, List.map_id, List.filter_eq_self]
          intro name hmem
          exact decide_eq_true ⟨(hparts name hmem).nonempty, (hparts name hmem).not_here⟩
        · intro chars hchars
          obtain ⟨name, hmem, rfl⟩ := List.mem_map.mp hchars
          exact (hparts name hmem).no_slash
  rw [ofText, hstarts, hkept]

end Path

/-! ## Where a walk ends -/

namespace FileTree

variable {tree made : FileTree} {base path : Path} {place location : Location}
  {names : List String}

theorem foldl_go_of_walk (hwalk : tree.walk place names = .ok location) :
    location = names.foldl Path.go place := by
  induction names generalizing place with
  | nil =>
      cases hwalk
      rfl
  | cons name rest ih =>
      rw [walk] at hwalk
      rw [List.foldl_cons, Path.go]
      split at hwalk
      · cases hwalk
      · cases hwalk
      · split_ifs at hwalk ⊢
        · exact ih hwalk
        · exact ih hwalk

theorem fromRoot_of_locate (hplain : ".." ∉ tree.workingDirectory)
    (hlocate : tree.locate path = .ok location) :
    location = path.fromRoot tree.workingDirectory := by
  rw [locate] at hlocate
  split_ifs at hlocate with hnull hlong habsolute
  · rw [Path.fromRoot_of_absolute habsolute, Path.plainNames]
    exact foldl_go_of_walk hlocate
  · rw [Path.fromRoot_of_relative (eq_false_of_ne_true habsolute), Path.plainNames_of_plain hplain]
    exact foldl_go_of_walk hlocate

/-! ## Making a directory -/

theorem grows_ensureDirectory (tree : FileTree) (path : Path) :
    ∃ added, tree.Grows added (tree.ensureDirectory path).1 ∧
      ∀ new ∈ added, new.2 = Entry.directory := by
  rcases makeDirectory_cases tree path with ⟨location, -, habsent, hmake⟩ | ⟨fault, hmake⟩
  · refine ⟨[(location, .directory)], ?_, List.forall_mem_singleton.mpr rfl⟩
    rw [ensureDirectory, hmake]
    exact grows_place habsent .directory
  · refine ⟨[], ?_, List.forall_mem_nil _⟩
    rw [ensureDirectory, hmake]
    simp only
    split <;> exact Grows.refl tree

/-- Making directories adds directories where there was nothing, and does nothing else. -/
theorem grows_makeDirectories (tree : FileTree) (path : Path) :
    ∃ added, tree.Grows added (tree.makeDirectories path).1 ∧
      ∀ new ∈ added, new.2 = Entry.directory := by
  rw [makeDirectories]
  generalize path.parts.reverse = names
  induction names generalizing tree with
  | nil => exact ⟨[], Grows.refl tree, List.forall_mem_nil _⟩
  | cons name outer ih =>
      rw [ensureDirectories]
      split
      · obtain ⟨added, hgrows, hadded⟩ := ih tree
        split
        · next made fault hmade =>
          rw [hmade] at hgrows
          exact ⟨added, hgrows, hadded⟩
        · next made hmade =>
          rw [hmade] at hgrows
          obtain ⟨last, hlast, hdirectory⟩ := made.grows_ensureDirectory _
          refine ⟨added ++ last, hgrows.trans hlast, fun new hmem => ?_⟩
          exact (List.mem_append.mp hmem).elim (hadded new) (hdirectory new)
      · exact tree.grows_ensureDirectory _

theorem hasDirectory_of_ensureDirectory (hensure : tree.ensureDirectory path = (made, none)) :
    ∃ place, made.HasDirectory path place := by
  rcases makeDirectory_cases tree path with ⟨location, hlocate, habsent, hmake⟩ | ⟨fault, hmake⟩
  · rw [ensureDirectory, hmake] at hensure
    cases hensure
    refine ⟨location, (grows_place habsent .directory).locate_eq hlocate, ?_⟩
    exact (entry?_place (ne_nil_of_entry?_none habsent) _ tree location).trans (if_pos rfl)
  · rw [ensureDirectory, hmake] at hensure
    simp only at hensure
    split at hensure
    · next hasked =>
      cases hensure
      exact hasDirectory_of_isDirectory hasked
    · cases hensure

theorem HasDirectory.stays (hdirectory : tree.HasDirectory path place) (other : Path) :
    (tree.ensureDirectory other).1.HasDirectory path place := by
  obtain ⟨added, hgrows, -⟩ := tree.grows_ensureDirectory other
  exact hgrows.hasDirectory hdirectory

theorem ensureDirectory_of_error {fault : FileFault}
    (hmake : tree.makeDirectory path = .error fault) : (tree.ensureDirectory path).1 = tree := by
  rw [ensureDirectory, hmake]
  simp only
  split <;> rfl

/-- Where nothing was on the way, nothing is made unless the outer directory is. -/
theorem HasDirectory.outer_of_makeDirectories (hdirectory : tree.HasDirectory base place)
    {outer inner : String} (houter : IsName outer) (hinner : IsName inner)
    (habsent : ∀ names, tree.entry? (place ++ outer :: names) = none) :
    let made := (tree.makeDirectories (base.down [outer, inner])).1
    made.entry? (place ++ [outer]) = some .directory ∨
      ∀ names, made.entry? (place ++ outer :: names) = none := by
  have hopened := opened_makeDirectories hdirectory (List.forall_mem_singleton.mpr houter)
  have hpath : base.down [outer, inner] = (base.down [outer]).child inner := by
    rw [Path.child_down hinner]
    rfl
  rcases makeDirectory_cases tree (base.down [outer, inner]) with
    ⟨location, hlocate, -, -⟩ | ⟨fault, hmake⟩
  · -- the path to the inner directory leads through the outer one
    have hthere := entry?_of_locate_down hdirectory.locate_eq
      (List.forall_mem_singleton.mpr houter) hlocate
    rw [habsent []] at hthere
    cases hthere
  · have hsame := ensureDirectory_of_error hmake
    rw [hpath] at hmake hsame ⊢
    rw [FileTree.makeDirectories_child hinner, hmake]
    split
    · split
      · next made fault hmade =>
        rw [hmade] at hopened
        rcases hopened.opens.entry?_cases (place ++ [outer]) with hkept | ⟨-, -, hmade⟩
        · refine Or.inr fun names => ?_
          rcases hopened.opens.entry?_cases (place ++ outer :: names) with hother | ⟨hway, -, -⟩
          · exact hother.trans (habsent names)
          · -- only the outer directory itself lies on the way to it
            obtain ⟨before, hbefore, -, heq⟩ := hway
            obtain rfl := List.append_cancel_left heq
            rw [List.prefix_nil.mp (List.cons_prefix_cons.mp hbefore).2]
            exact hkept.trans (habsent [])
        · exact Or.inl hmade
      · next made hmade =>
        rw [hmade] at hopened
        exact Or.inl ((hopened.hasDirectory rfl).stays _).entry?_eq
    · rw [hsame]
      exact Or.inr habsent

/-- Where directories were made without a fault there is a directory, if there was one to begin
with. -/
theorem exists_hasDirectory
    (hstart : path.absolute = false → path.parts = [] →
      tree.entry? tree.workingDirectory = some .directory)
    (hmake : tree.makeDirectories path = (made, none)) : ∃ place, made.HasDirectory path place := by
  obtain ⟨absolute, parts⟩ := path
  rw [makeDirectories] at hmake
  cases hparts : parts.reverse with
  | nil =>
      obtain rfl : parts = [] := List.reverse_eq_nil_iff.mp hparts
      cases hmake
      cases absolute with
      | true => exact ⟨[], rfl, rfl⟩
      | false => exact ⟨tree.workingDirectory, rfl, hstart rfl rfl⟩
  | cons name outer =>
      have hpath : (⟨absolute, (name :: outer).reverse⟩ : Path) = ⟨absolute, parts⟩ := by
        rw [← hparts, List.reverse_reverse]
      rw [hparts, ensureDirectories] at hmake
      simp only [hpath] at hmake
      split at hmake
      · split at hmake
        · cases hmake
        · exact hasDirectory_of_ensureDirectory hmake
      · exact hasDirectory_of_ensureDirectory hmake

/-- Is the working directory there, and is it named by the names on the way from the root? -/
structure HasWorkingDirectory (tree : FileTree) : Prop where
  entry?_eq : tree.entry? tree.workingDirectory = some .directory
  isName : ∀ name ∈ tree.workingDirectory, IsName name

theorem HasWorkingDirectory.plain (htree : tree.HasWorkingDirectory) :
    ".." ∉ tree.workingDirectory :=
  fun hmem => (htree.isName _ hmem).not_above rfl

/-- A path leads to the directory that has been made at it, which is at the place that is read off
the path. -/
theorem hasDirectory_of_makeDirectories (htree : tree.HasWorkingDirectory)
    (hmake : tree.makeDirectories path = (made, none)) :
    made.workingDirectory = tree.workingDirectory ∧
      made.HasDirectory path (path.fromRoot tree.workingDirectory) := by
  have hworking : made.workingDirectory = tree.workingDirectory := by
    obtain ⟨added, hgrows, -⟩ := tree.grows_makeDirectories path
    rw [hmake] at hgrows
    exact hgrows.workingDirectory_eq
  refine ⟨hworking, ?_⟩
  obtain ⟨place, hdirectory⟩ := exists_hasDirectory (fun _ _ => htree.entry?_eq) hmake
  have hplace := fromRoot_of_locate (hworking ▸ htree.plain) hdirectory.locate_eq
  rw [hworking] at hplace
  exact hplace ▸ hdirectory

end FileTree

end VisualNovel
