import Mathlib.Data.List.Induction
import Mathlib.Data.List.Nodup
import VisualNovel.Proofs.Files.Growth

/-!
# What is below a directory

A path that goes on from the path of a directory by names leads down: to the place of the
directory followed by the names, or nowhere (`location_of_locate_down`).  What is changed by way of
such a path is below the directory, and all else stays as it is.

* `Opens` says of a tree that some places where there was nothing are directories now; making
  directories does nothing else (`opens_makeDirectories`).
* `ChangedBelow` says of a tree that it is another one with changes below some place, and that no
  directory is lost.  Paths to directories lead where they led.
* `without` is a tree from which a directory has been removed with all that was below it.
-/

namespace VisualNovel

namespace FileTree

variable {tree made changed larger : FileTree} {here place location other : Location}
  {entry : Entry} {base path : Path} {names : List String}

/-! ## Placing an entry -/

theorem entry?_place (hne : location ≠ []) (entry : Entry) (tree : FileTree) (other : Location) :
    FileTree.entry? (tree.place location entry) other =
      if other = location then some entry else tree.entry? other := by
  by_cases hsame : other = location
  · rw [if_pos hsame, hsame, entry?_of_ne_nil hne]
    exact OrderedMap.at?_put_self ..
  · rw [if_neg hsame]
    by_cases hroot : other = []
    · rw [hroot]
      rfl
    · rw [entry?_of_ne_nil hroot, entry?_of_ne_nil hroot]
      exact OrderedMap.at?_put_of_ne hsame ..

/-- Does the tree name every location once, and by names only? -/
structure WellFormed (tree : FileTree) : Prop where
  nodup : (OrderedMap.keys tree.entries).Nodup
  isName : ∀ location ∈ OrderedMap.keys tree.entries, ∀ name ∈ location, IsName name

theorem WellFormed.isName_of_entry? (hformed : tree.WellFormed)
    (hentry : tree.entry? location = some entry) : ∀ name ∈ location, IsName name := by
  by_cases hroot : location = []
  · rw [hroot]
    exact List.forall_mem_nil _
  · rw [entry?_of_ne_nil hroot] at hentry
    exact hformed.isName location (OrderedMap.mem_keys_of_at? hentry)

theorem WellFormed.afterPlace (hformed : tree.WellFormed)
    (hnames : ∀ name ∈ location, IsName name) (entry : Entry) :
    (tree.place location entry).WellFormed := by
  refine ⟨OrderedMap.nodup_keys_put hformed.nodup location entry, ?_⟩
  intro other hother
  rcases OrderedMap.mem_keys_put.mp hother with rfl | hold
  · exact hnames
  · exact hformed.isName other hold

theorem WellFormed.nodup_names (hformed : tree.WellFormed) (directory : Location) :
    (tree.names directory).Nodup := by
  rw [names, (List.mergeSort_perm _ _).nodup_iff]
  refine List.Nodup.filterMap ?_ hformed.nodup
  intro first second name hfirst hsecond
  rw [Option.mem_def, childName?_eq_some_iff] at hfirst hsecond
  rw [hfirst, hsecond]

theorem WellFormed.isName_of_mem_names (hformed : tree.WellFormed) {directory : Location}
    {name : String} (hmem : name ∈ tree.names directory) : IsName name := by
  obtain ⟨entry, hentry⟩ := Option.ne_none_iff_exists'.mp (mem_names_iff.mp hmem)
  exact hformed.isName_of_entry? hentry name (by simp)

/-! ## Files -/

/-- The bytes of the file at a location, if there is one. -/
def file? (tree : FileTree) (location : Location) : Option ByteArray :=
  match tree.entry? location with
  | some (.file content) => some content
  | _ => none

theorem file?_eq_some_iff {content : ByteArray} :
    tree.file? location = some content ↔ tree.entry? location = some (.file content) := by
  rw [file?]
  split
  · next found hentry => simp [hentry]
  · next hno => simpa using hno content

theorem file?_congr (hentry : changed.entry? location = tree.entry? location) :
    changed.file? location = tree.file? location := by
  rw [file?, file?, hentry]

/-! ## Following a path down -/

theorem location_of_walk (hnames : ∀ name ∈ names, IsName name)
    (hwalk : tree.walk place names = .ok location) : location = place ++ names := by
  induction names generalizing place with
  | nil =>
      cases hwalk
      rw [List.append_nil]
  | cons name rest ih =>
      rw [walk] at hwalk
      split at hwalk
      · cases hwalk
      · cases hwalk
      · rw [if_neg (hnames name (List.mem_cons_self ..)).not_above] at hwalk
        split at hwalk
        · cases hwalk
        · rw [ih (fun other hother => hnames other (List.mem_cons_of_mem _ hother)) hwalk,
            List.append_assoc, List.singleton_append]

theorem short_of_walk (hnames : ∀ name ∈ names, IsName name)
    (hwalk : tree.walk place names = .ok location) :
    ∀ name ∈ names, name.utf8ByteSize ≤ nameLimit := by
  induction names generalizing place with
  | nil => exact List.forall_mem_nil _
  | cons name rest ih =>
      obtain ⟨hname, hrest⟩ := List.forall_mem_cons.mp hnames
      rw [walk] at hwalk
      split at hwalk
      · cases hwalk
      · cases hwalk
      · rw [if_neg hname.not_above] at hwalk
        split_ifs at hwalk with hlong
        exact List.forall_mem_cons.mpr ⟨Nat.le_of_not_lt hlong, ih hrest hwalk⟩

theorem location_of_locate_down (hlocate : tree.locate base = .ok place)
    (hnames : ∀ name ∈ names, IsName name)
    (hdown : tree.locate (base.down names) = .ok location) : location = place ++ names := by
  rw [locate_down hlocate, any_null_of_isName hnames, if_neg Bool.false_ne_true] at hdown
  split at hdown
  · cases hdown
  · exact location_of_walk hnames hdown

theorem short_of_locate_down (hlocate : tree.locate base = .ok place)
    (hnames : ∀ name ∈ names, IsName name)
    (hdown : tree.locate (base.down names) = .ok location) :
    ∀ name ∈ names, name.utf8ByteSize ≤ nameLimit := by
  rw [locate_down hlocate, any_null_of_isName hnames, if_neg Bool.false_ne_true] at hdown
  split_ifs at hdown
  exact short_of_walk hnames hdown

/-- A path that goes on by names leads nowhere if the path before them does not. -/
theorem exists_locate_of_down (hnames : ∀ name ∈ names, IsName name)
    (hdown : tree.locate (base.down names) = .ok location) :
    ∃ place, tree.locate base = .ok place := by
  have hsize := base.utf8ByteSize_le_down hnames
  rw [locate] at hdown ⊢
  have hparts : (base.down names).parts = base.parts ++ names := rfl
  have hstart : (base.down names).absolute = base.absolute := rfl
  rw [hparts, hstart, List.any_append, any_null_of_isName hnames, Bool.or_false] at hdown
  split at hdown
  · cases hdown
  · next hnull =>
    split at hdown
    · cases hdown
    · rw [if_neg hnull, if_neg (by omega)]
      rw [walk_append] at hdown
      cases hwalk : tree.walk (if base.absolute then [] else tree.workingDirectory) base.parts with
      | ok place => exact ⟨place, rfl⟩
      | error fault =>
          rw [hwalk] at hdown
          cases hdown

theorem entry?_of_locate_down (hlocate : tree.locate base = .ok place) {name : String}
    (hnames : ∀ other ∈ names, IsName other)
    (hdown : tree.locate (base.down (names ++ [name])) = .ok location) :
    tree.entry? (place ++ names) = some .directory := by
  rw [locate_down hlocate] at hdown
  split_ifs at hdown
  rw [walk_append] at hdown
  cases hwalk : tree.walk place names with
  | error fault =>
      rw [hwalk] at hdown
      cases hdown
  | ok found =>
      rw [hwalk] at hdown
      rw [← location_of_walk hnames hwalk]
      simp only [Except.bind, walk] at hdown
      split at hdown
      · cases hdown
      · cases hdown
      · assumption

/-- A name leads down from a directory, unless it or the path is too long. -/
theorem HasDirectory.locate_child_eq (hdirectory : tree.HasDirectory base place) {name : String}
    (hname : IsName name) :
    tree.locate (base.child name) =
      if pathLimit < (base.child name).text.utf8ByteSize ∨ nameLimit < name.utf8ByteSize then
        .error .nameTooLong
      else .ok (place ++ [name]) := by
  have hnames : ∀ other ∈ [name], IsName other := List.forall_mem_singleton.mpr hname
  rw [Path.child_eq_down hname, locate_down hdirectory.locate_eq, any_null_of_isName hnames,
    if_neg Bool.false_ne_true, walk, hdirectory.entry?_eq]
  simp only [if_neg hname.not_above, walk]
  split_ifs <;> first | rfl | omega

theorem HasDirectory.locate_child_cases (hdirectory : tree.HasDirectory base place)
    {name : String} (hname : IsName name) :
    (name.utf8ByteSize ≤ nameLimit ∧ tree.locate (base.child name) = .ok (place ++ [name])) ∨
      tree.locate (base.child name) = .error .nameTooLong := by
  rw [hdirectory.locate_child_eq hname]
  split_ifs with hlong
  · exact Or.inr rfl
  · exact Or.inl ⟨by omega, rfl⟩

/-! ## What is where a path leads -/

theorem entry?_of_look (hlook : tree.look path = .ok entry) :
    ∃ location, tree.locate path = .ok location ∧ tree.entry? location = some entry := by
  unfold look at hlook
  cases hlocate : tree.locate path with
  | error fault =>
      rw [hlocate] at hlook
      cases hlook
  | ok location =>
      simp only [hlocate, bind, Except.bind] at hlook
      cases hentry : tree.entry? location with
      | none =>
          rw [hentry] at hlook
          cases hlook
      | some found =>
          rw [hentry] at hlook
          cases hlook
          exact ⟨location, rfl, hentry⟩

theorem hasDirectory_of_isDirectory (hasked : tree.isDirectory path = .ok true) :
    ∃ location, tree.HasDirectory path location := by
  unfold isDirectory ask at hasked
  cases hlook : tree.look path with
  | error fault =>
      rw [hlook] at hasked
      cases fault <;> cases hasked
  | ok entry =>
      obtain ⟨location, hlocate, hentry⟩ := entry?_of_look hlook
      rw [hlook] at hasked
      cases entry with
      | file content => cases hasked
      | directory => exact ⟨location, hlocate, hentry⟩

/-- Names that go on from a directory are those of a location. -/
theorem HasDirectory.isName_append (hdirectory : tree.HasDirectory base place)
    (hformed : tree.WellFormed) (hnames : ∀ name ∈ names, IsName name) :
    ∀ name ∈ place ++ names, IsName name := by
  intro name hmem
  rcases List.mem_append.mp hmem with hmem | hmem
  · exact hformed.isName_of_entry? hdirectory.entry?_eq name hmem
  · exact hnames name hmem

theorem names_of_list {found : List String} (hlist : tree.list path = .ok found) :
    ∃ location, tree.HasDirectory path location ∧ found = tree.names location := by
  unfold list at hlist
  cases hlocate : tree.locate path with
  | error fault =>
      rw [hlocate] at hlist
      cases hlist
  | ok location =>
      simp only [hlocate, bind, Except.bind] at hlist
      cases hentry : tree.entry? location with
      | none =>
          rw [hentry] at hlist
          cases hlist
      | some entry =>
          rw [hentry] at hlist
          cases entry with
          | file content => cases hlist
          | directory =>
              cases hlist
              exact ⟨location, ⟨hlocate, hentry⟩, rfl⟩

/-! ## Trees whose directories stay -/

theorem walk_mono (hkept : ∀ location, tree.entry? location = some .directory →
      changed.entry? location = some .directory)
    (hwalk : tree.walk place names = .ok location) : changed.walk place names = .ok location := by
  induction names generalizing place with
  | nil => exact hwalk
  | cons name rest ih =>
      rw [walk] at hwalk ⊢
      split at hwalk
      · cases hwalk
      · cases hwalk
      · rename_i hentry
        rw [hkept _ hentry]
        simp only at hwalk ⊢
        split_ifs at hwalk ⊢
        · exact ih hwalk
        · exact ih hwalk

/-- Paths lead where they led if all directories stay. -/
theorem locate_mono (hworking : changed.workingDirectory = tree.workingDirectory)
    (hkept : ∀ location, tree.entry? location = some .directory →
      changed.entry? location = some .directory)
    (hlocate : tree.locate path = .ok location) : changed.locate path = .ok location := by
  rw [locate] at hlocate ⊢
  rw [hworking]
  split at hlocate
  · cases hlocate
  · split at hlocate
    · cases hlocate
    · rename_i hnull hlong
      rw [if_neg hnull, if_neg hlong]
      exact walk_mono hkept hlocate

theorem HasDirectory.mono (hdirectory : tree.HasDirectory path place)
    (hworking : changed.workingDirectory = tree.workingDirectory)
    (hkept : ∀ location, tree.entry? location = some .directory →
      changed.entry? location = some .directory) : changed.HasDirectory path place :=
  ⟨locate_mono hworking hkept hdirectory.locate_eq, hkept _ hdirectory.entry?_eq⟩

theorem readFile_mono {content : ByteArray}
    (hworking : changed.workingDirectory = tree.workingDirectory)
    (hkept : ∀ location entry, tree.entry? location = some entry →
      changed.entry? location = some entry)
    (hread : tree.readFile path = .ok content) : changed.readFile path = .ok content := by
  obtain ⟨location, hlocate, hentry⟩ := entry?_of_readFile hread
  exact readFile_of_entry? (locate_mono hworking (fun other => hkept other _) hlocate)
    (hkept location _ hentry)

/-- Is the tree another one with changes below some place, and with all of its directories? -/
structure ChangedBelow (here : Location) (tree changed : FileTree) : Prop where
  workingDirectory_eq : changed.workingDirectory = tree.workingDirectory
  outside : ∀ location, ¬ here <+: location → changed.entry? location = tree.entry? location
  kept : ∀ location, tree.entry? location = some .directory →
    changed.entry? location = some .directory
  wellFormed : tree.WellFormed → changed.WellFormed

theorem ChangedBelow.refl (here : Location) (tree : FileTree) : ChangedBelow here tree tree :=
  ⟨rfl, fun _ _ => rfl, fun _ hentry => hentry, fun hformed => hformed⟩

theorem ChangedBelow.trans (hfirst : ChangedBelow here tree made)
    (hsecond : ChangedBelow here made changed) : ChangedBelow here tree changed :=
  ⟨hsecond.workingDirectory_eq.trans hfirst.workingDirectory_eq,
    fun location hnot => (hsecond.outside location hnot).trans (hfirst.outside location hnot),
    fun location hentry => hsecond.kept location (hfirst.kept location hentry),
    fun hformed => hsecond.wellFormed (hfirst.wellFormed hformed)⟩

theorem ChangedBelow.mono {above : Location} (hchanged : ChangedBelow here tree changed)
    (habove : above <+: here) : ChangedBelow above tree changed :=
  ⟨hchanged.workingDirectory_eq,
    fun location hnot => hchanged.outside location fun hbelow => hnot (habove.trans hbelow),
    hchanged.kept, hchanged.wellFormed⟩

/-- Paths to directories lead where they led. -/
theorem ChangedBelow.hasDirectory (hchanged : ChangedBelow here tree changed)
    (hdirectory : tree.HasDirectory path place) : changed.HasDirectory path place :=
  hdirectory.mono hchanged.workingDirectory_eq hchanged.kept

theorem changedBelow_place (hbelow : here <+: location) (hne : location ≠ [])
    (hfree : tree.entry? location ≠ some .directory)
    (hnames : tree.WellFormed → ∀ name ∈ location, IsName name) (entry : Entry) :
    ChangedBelow here tree (tree.place location entry) := by
  refine ⟨rfl, ?_, ?_, fun hformed => hformed.afterPlace (hnames hformed) entry⟩
  · intro other hnot
    rw [entry?_place hne, if_neg]
    rintro rfl
    exact hnot hbelow
  · intro other hentry
    rw [entry?_place hne, if_neg, hentry]
    rintro rfl
    exact hfree hentry

/-- A file is written where the path leads, over no directory. -/
theorem place_of_writeFile {content : ByteArray}
    (hwrite : tree.writeFile path content = .ok changed) :
    ∃ location, tree.locate path = .ok location ∧ location ≠ [] ∧
      tree.entry? location ≠ some .directory ∧
        changed = tree.place location (.file content) := by
  unfold writeFile at hwrite
  cases hlocate : tree.locate path with
  | error fault =>
      rw [hlocate] at hwrite
      cases hwrite
  | ok location =>
      simp only [hlocate, bind, Except.bind] at hwrite
      have hfree : tree.entry? location ≠ some .directory := by
        intro hentry
        rw [hentry] at hwrite
        cases hwrite
      refine ⟨location, rfl, fun hroot => hfree (hroot ▸ rfl), hfree, ?_⟩
      split at hwrite
      · cases hwrite
      · cases hwrite
        rfl

/-- A file can be written into a directory if its name and the whole path are short enough and no
directory is in the way. -/
theorem HasDirectory.isOk_writeFile (hdirectory : tree.HasDirectory base place) {name : String}
    (hname : IsName name) (content : ByteArray) :
    (tree.writeFile (base.child name) content).isOk = true ↔
      (base.child name).text.utf8ByteSize ≤ pathLimit ∧ name.utf8ByteSize ≤ nameLimit ∧
        tree.entry? (place ++ [name]) ≠ some .directory := by
  rw [writeFile, hdirectory.locate_child_eq hname]
  split_ifs with hlong
  · constructor
    · intro hok
      cases hok
    · rintro ⟨hpath, hshort, -⟩
      omega
  · simp only [bind, Except.bind]
    split
    · next hentry => simp [Except.isOk, Except.toBool, hentry]
    · next hfree =>
      simp only [Except.isOk, Except.toBool, true_iff]
      exact ⟨by omega, by omega, hfree⟩

/-- A file is read in a directory if it is there and its name and the whole path are short
enough. -/
theorem HasDirectory.readFile_child_iff (hdirectory : tree.HasDirectory base place) {name : String}
    (hname : IsName name) {content : ByteArray} :
    tree.readFile (base.child name) = .ok content ↔
      (base.child name).text.utf8ByteSize ≤ pathLimit ∧ name.utf8ByteSize ≤ nameLimit ∧
        tree.file? (place ++ [name]) = some content := by
  have hlocate := hdirectory.locate_child_eq hname
  rw [file?_eq_some_iff]
  constructor
  · intro hread
    obtain ⟨location, hplace, hentry⟩ := entry?_of_readFile hread
    rw [hlocate] at hplace
    split_ifs at hplace with hlong
    cases hplace
    exact ⟨by omega, by omega, hentry⟩
  · rintro ⟨hpath, hshort, hentry⟩
    rw [if_neg (by omega)] at hlocate
    exact readFile_of_entry? hlocate hentry

/-! ## Making directories -/

/-- Is the tree another one in which some of the allowed places, where there was nothing, are
directories? -/
structure Opens (allowed : Location → Prop) (tree made : FileTree) : Prop where
  workingDirectory_eq : made.workingDirectory = tree.workingDirectory
  entry?_cases : ∀ location, made.entry? location = tree.entry? location ∨
    allowed location ∧ tree.entry? location = none ∧ made.entry? location = some .directory
  wellFormed : tree.WellFormed → made.WellFormed

variable {allowed : Location → Prop}

theorem Opens.refl (allowed : Location → Prop) (tree : FileTree) : Opens allowed tree tree :=
  ⟨rfl, fun _ => Or.inl rfl, fun hformed => hformed⟩

theorem Opens.trans (hfirst : Opens allowed tree made) (hsecond : Opens allowed made changed) :
    Opens allowed tree changed := by
  refine ⟨hsecond.workingDirectory_eq.trans hfirst.workingDirectory_eq, ?_,
    fun hformed => hsecond.wellFormed (hfirst.wellFormed hformed)⟩
  intro location
  rcases hsecond.entry?_cases location with hsame | ⟨hallowed, hnone, hmade⟩
  · rw [hsame]
    exact hfirst.entry?_cases location
  · rcases hfirst.entry?_cases location with hsame | ⟨-, -, hdirectory⟩
    · exact Or.inr ⟨hallowed, hsame ▸ hnone, hmade⟩
    · rw [hdirectory] at hnone
      cases hnone

theorem Opens.mono {more : Location → Prop} (hopens : Opens allowed tree made)
    (hmore : ∀ location, allowed location → more location) : Opens more tree made :=
  ⟨hopens.workingDirectory_eq,
    fun location => (hopens.entry?_cases location).imp_right fun ⟨hallowed, hcases⟩ =>
      ⟨hmore location hallowed, hcases⟩,
    hopens.wellFormed⟩

theorem Opens.changedBelow (hopens : Opens allowed tree made)
    (hbelow : ∀ location, allowed location → here <+: location) : ChangedBelow here tree made := by
  refine ⟨hopens.workingDirectory_eq, ?_, ?_, hopens.wellFormed⟩
  · intro location hnot
    rcases hopens.entry?_cases location with hsame | ⟨hallowed, -, -⟩
    · exact hsame
    · exact absurd (hbelow location hallowed) hnot
  · intro location hentry
    rcases hopens.entry?_cases location with hsame | ⟨-, hnone, -⟩
    · rw [hsame, hentry]
    · rw [hentry] at hnone
      cases hnone

theorem Opens.file?_eq (hopens : Opens allowed tree made) (location : Location) :
    made.file? location = tree.file? location := by
  rcases hopens.entry?_cases location with hsame | ⟨-, hnone, hmade⟩
  · exact file?_congr hsame
  · rw [file?, file?, hnone, hmade]

theorem opens_place (hallowed : allowed location) (habsent : tree.entry? location = none)
    (hnames : tree.WellFormed → ∀ name ∈ location, IsName name) :
    Opens allowed tree (tree.place location .directory) := by
  refine ⟨rfl, ?_, fun hformed => hformed.afterPlace (hnames hformed) _⟩
  intro other
  rw [entry?_place (ne_nil_of_entry?_none habsent)]
  by_cases hsame : other = location
  · rw [if_pos hsame, hsame]
    exact Or.inr ⟨hallowed, habsent, rfl⟩
  · rw [if_neg hsame]
    exact Or.inl rfl

/-- What has become of a tree in which there should be a directory: nothing but allowed places has
been opened, and if there is no fault, there is the directory. -/
structure Opened (allowed : Location → Prop) (tree : FileTree) (path : Path) (place : Location)
    (result : FileTree × Option FileFault) : Prop where
  opens : Opens allowed tree result.1
  hasDirectory : result.2 = none → result.1.HasDirectory path place

theorem makeDirectory_cases (tree : FileTree) (path : Path) :
    (∃ location, tree.locate path = .ok location ∧ tree.entry? location = none ∧
        tree.makeDirectory path = .ok (tree.place location .directory)) ∨
      ∃ fault, tree.makeDirectory path = .error fault := by
  cases hlocate : tree.locate path with
  | error fault => exact Or.inr ⟨fault, makeDirectory_of_error hlocate⟩
  | ok location =>
      cases hentry : tree.entry? location with
      | none => exact Or.inl ⟨location, rfl, hentry, makeDirectory_of_absent hlocate hentry⟩
      | some entry => exact Or.inr ⟨.alreadyThere, makeDirectory_of_some hlocate hentry⟩

theorem opened_ensureDirectory (hplace : ∀ location, tree.locate path = .ok location →
      location = place) (hallowed : allowed place)
    (hnames : tree.WellFormed → ∀ name ∈ place, IsName name) :
    Opened allowed tree path place (tree.ensureDirectory path) := by
  rcases makeDirectory_cases tree path with ⟨location, hlocate, habsent, hmake⟩ | ⟨fault, hmake⟩
  · have hsame := hplace location hlocate
    subst hsame
    have hopens := opens_place hallowed habsent hnames
    rw [ensureDirectory, hmake]
    refine ⟨hopens, fun _ => ⟨?_, ?_⟩⟩
    · exact (grows_place habsent .directory).locate_eq hlocate
    · exact (entry?_place (ne_nil_of_entry?_none habsent) _ tree location).trans (if_pos rfl)
  · rw [ensureDirectory, hmake]
    simp only
    split
    · rename_i hasked
      obtain ⟨location, hdirectory⟩ := hasDirectory_of_isDirectory hasked
      have hsame := hplace location hdirectory.locate_eq
      subst hsame
      exact ⟨Opens.refl _ tree, fun _ => hdirectory⟩
    · exact ⟨Opens.refl _ tree, fun hnone => by cases hnone⟩

theorem HasDirectory.makeDirectories_eq (hdirectory : tree.HasDirectory path place) :
    tree.makeDirectories path = (tree, none) := by
  obtain ⟨absolute, parts⟩ := path
  rw [makeDirectories]
  cases hparts : parts.reverse with
  | nil => rw [ensureDirectories]
  | cons last outer =>
      have hpath : (⟨absolute, (last :: outer).reverse⟩ : Path) = ⟨absolute, parts⟩ := by
        rw [← hparts, List.reverse_reverse]
      have hmake := makeDirectory_of_some hdirectory.locate_eq hdirectory.entry?_eq
      simp only [ensureDirectories, hpath, hmake]
      exact hdirectory.ensureDirectory_eq

/-- The places on the way down from a place by names. -/
def OnTheWay (place : Location) (names : List String) (location : Location) : Prop :=
  ∃ before, before <+: names ∧ before ≠ [] ∧ location = place ++ before

theorem onTheWay_last (place : Location) (names : List String) (name : String) :
    OnTheWay place (names ++ [name]) (place ++ (names ++ [name])) :=
  ⟨_, List.prefix_rfl, by simp, rfl⟩

theorem OnTheWay.more {name : String} (hway : OnTheWay place names location) :
    OnTheWay place (names ++ [name]) location := by
  obtain ⟨before, hbefore, hne, hlocation⟩ := hway
  exact ⟨before, hbefore.trans (List.prefix_append _ _), hne, hlocation⟩

theorem OnTheWay.below (hway : OnTheWay place names location) : place <+: location := by
  obtain ⟨before, -, -, rfl⟩ := hway
  exact List.prefix_append _ _

theorem OnTheWay.below_head {outer : String} (hway : OnTheWay place (outer :: names) location) :
    place ++ [outer] <+: location := by
  obtain ⟨before, hbefore, hne, rfl⟩ := hway
  obtain ⟨rest, hrest⟩ := hbefore
  cases before with
  | nil => exact absurd rfl hne
  | cons first others =>
      obtain rfl : first = outer := by
        rw [List.cons_append] at hrest
        exact (List.cons.inj hrest).1
      exact ⟨others, by rw [List.append_assoc, List.singleton_append]⟩

theorem onTheWay_two {outer inner : String} :
    OnTheWay place [outer, inner] location ↔
      location = place ++ [outer] ∨ location = place ++ [outer, inner] := by
  constructor
  · rintro ⟨before, hbefore, hne, rfl⟩
    rcases List.prefix_cons_iff.mp hbefore with rfl | ⟨rest, rfl, hrest⟩
    · exact absurd rfl hne
    · rcases List.prefix_cons_iff.mp hrest with rfl | ⟨more, rfl, hmore⟩
      · exact Or.inl rfl
      · rw [List.prefix_nil.mp hmore]
        exact Or.inr rfl
  · rintro (rfl | rfl)
    · exact ⟨[outer], ⟨[inner], rfl⟩, List.cons_ne_nil _ _, rfl⟩
    · exact ⟨[outer, inner], List.prefix_rfl, List.cons_ne_nil _ _, rfl⟩

/-- Opening places on the way down leaves the directory where it is. -/
theorem Opened.keeps {result : FileTree × Option FileFault}
    (hopened : Opened (OnTheWay place names) tree path location result)
    (hdirectory : tree.HasDirectory base place) : result.1.HasDirectory base place :=
  (hopened.opens.changedBelow fun _ hway => hway.below).hasDirectory hdirectory

/-- Making directories below one that is there opens places on the way, and nothing else. -/
theorem opened_makeDirectories (hdirectory : tree.HasDirectory base place)
    (hnames : ∀ name ∈ names, IsName name) :
    Opened (OnTheWay place names) tree (base.down names) (place ++ names)
      (tree.makeDirectories (base.down names)) := by
  induction names using List.reverseRecOn with
  | nil =>
      rw [Path.down_nil, hdirectory.makeDirectories_eq, List.append_nil]
      exact ⟨Opens.refl _ tree, fun _ => hdirectory⟩
  | append_singleton names name ih =>
      have hname := hnames name (by simp)
      have houter : ∀ other ∈ names, IsName other :=
        fun other hother => hnames other (List.mem_append_left _ hother)
      have hopened := ih houter
      rw [← Path.child_down hname, makeDirectories_child hname]
      -- whatever else has been opened on the way, the last directory is made or is there
      have hlast : ∀ {before : FileTree}, before.HasDirectory base place →
          Opened (OnTheWay place (names ++ [name])) before ((base.down names).child name)
            (place ++ (names ++ [name]))
            (before.ensureDirectory ((base.down names).child name)) := by
        intro before hbefore
        refine opened_ensureDirectory ?_ (onTheWay_last place names name) ?_
        · intro location hlocate
          rw [Path.child_down hname] at hlocate
          exact location_of_locate_down hbefore.locate_eq hnames hlocate
        · exact fun hformed => hbefore.isName_append hformed hnames
      have hbase := hopened.keeps hdirectory
      have hmore : Opens (OnTheWay place (names ++ [name])) tree
          (tree.makeDirectories (base.down names)).1 :=
        hopened.opens.mono fun location hway => hway.more
      split
      · split
        · rename_i made fault hmake
          rw [hmake] at hmore
          exact ⟨hmore, fun hnone => by cases hnone⟩
        · rename_i made hmake
          rw [hmake] at hmore hbase
          have hfinal := hlast hbase
          exact ⟨hmore.trans hfinal.opens, hfinal.hasDirectory⟩
      · exact hlast hdirectory

/-! ## Removing a directory -/

/-- The tree without a location and all that is below it. -/
def without (here : Location) (tree : FileTree) : FileTree :=
  { tree with entries := tree.entries.filter fun entry => !here.isPrefixOf entry.1 }

theorem entry?_without (hne : here ≠ []) (tree : FileTree) (location : Location) :
    FileTree.entry? (tree.without here) location =
      if here <+: location then none else tree.entry? location := by
  by_cases hroot : location = []
  · rw [hroot, if_neg fun hbelow => hne (List.prefix_nil.mp hbelow)]
    rfl
  · have hkept : (!here.isPrefixOf location) = true ↔ ¬ here <+: location := by
      rw [Bool.not_eq_true', ← Bool.not_eq_true, List.isPrefixOf_iff_prefix]
    rw [entry?_of_ne_nil hroot, entry?_of_ne_nil hroot, without,
      OrderedMap.at?_filter_key (fun location => !here.isPrefixOf location), if_congr hkept rfl rfl,
      ite_not]

theorem entry?_of_without (hne : here ≠ [])
    (hentry : FileTree.entry? (tree.without here) location = some entry) :
    ¬ here <+: location ∧ tree.entry? location = some entry := by
  rw [entry?_without hne] at hentry
  split_ifs at hentry with hbelow
  exact ⟨hbelow, hentry⟩

theorem WellFormed.without (hformed : tree.WellFormed) (here : Location) :
    (tree.without here).WellFormed := by
  have hkeys : (OrderedMap.keys (tree.without here).entries).Sublist
      (OrderedMap.keys tree.entries) := List.filter_sublist.map Prod.fst
  exact ⟨hformed.nodup.sublist hkeys, fun location hmem =>
    hformed.isName location (hkeys.subset hmem)⟩

theorem HasDirectory.of_without (hne : here ≠ [])
    (hdirectory : (tree.without here).HasDirectory path place) : tree.HasDirectory path place :=
  hdirectory.mono rfl fun _ hentry => (entry?_of_without hne hentry).2

theorem HasDirectory.removeDirectory_eq (hdirectory : tree.HasDirectory path place) :
    tree.removeDirectory path = .ok (tree.without place) := by
  simp only [removeDirectory, hdirectory.locate_eq, bind, Except.bind, hdirectory.entry?_eq]
  rfl

end FileTree

end VisualNovel
