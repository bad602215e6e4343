import VisualNovel.Proofs.Files.Path
import VisualNovel.Proofs.OrderedMap

/-!
# Trees of files that grow

A tree *grows* if entries are added at locations where there was nothing (`Grows`).  What was
found before is found afterwards: paths lead where they led, and files hold what they held.
The names in a directory are the old ones and those of the entries that were added to it.

Making directories and writing new files are steps of this kind.
-/

namespace VisualNovel

namespace FileTree

variable {tree larger : FileTree} {location place directory : Location} {entry : Entry}
  {base : Path} {added : OrderedMap Location Entry}

/-- Is one tree the other one with some entries added where there was nothing? -/
structure Grows (tree : FileTree) (added : OrderedMap Location Entry) (larger : FileTree) :
    Prop where
  eq : larger = { tree with entries := tree.entries ++ added }
  absent : ∀ location ∈ OrderedMap.keys added, tree.entry? location = none
  nodup : (OrderedMap.keys added).Nodup

theorem Grows.workingDirectory_eq (hgrows : tree.Grows added larger) :
    larger.workingDirectory = tree.workingDirectory := by
  rw [hgrows.eq]

/-! ## What is found -/

theorem ne_nil_of_entry?_none (habsent : tree.entry? location = none) : location ≠ [] := by
  rintro rfl
  cases habsent

theorem entry?_of_ne_nil (hne : location ≠ []) :
    tree.entry? location = OrderedMap.at? location tree.entries :=
  if_neg hne

theorem Grows.entry?_of_some (hgrows : tree.Grows added larger)
    (hentry : tree.entry? location = some entry) : larger.entry? location = some entry := by
  by_cases hne : location = []
  · rw [hne] at hentry ⊢
    exact hentry
  · rw [entry?_of_ne_nil hne] at hentry ⊢
    rw [hgrows.eq, OrderedMap.at?_append, hentry]
    rfl

theorem Grows.entry?_of_mem (hgrows : tree.Grows added larger)
    (hmem : (location, entry) ∈ added) : larger.entry? location = some entry := by
  have habsent := hgrows.absent location (List.mem_map_of_mem hmem)
  have hne := ne_nil_of_entry?_none habsent
  rw [entry?_of_ne_nil hne] at habsent ⊢
  rw [hgrows.eq, OrderedMap.at?_append, habsent, OrderedMap.at?_of_mem hgrows.nodup hmem]
  rfl

theorem Grows.entry?_of_not_mem (hgrows : tree.Grows added larger)
    (hnot : location ∉ OrderedMap.keys added) : larger.entry? location = tree.entry? location := by
  by_cases hne : location = []
  · rw [hne]
    rfl
  · rw [entry?_of_ne_nil hne, entry?_of_ne_nil hne, hgrows.eq, OrderedMap.at?_append,
      OrderedMap.at?_eq_none_iff.mpr hnot, Option.or_none]

/-- What is there was there or was added. -/
theorem Grows.entry?_cases (hgrows : tree.Grows added larger)
    (hentry : larger.entry? location = some entry) :
    tree.entry? location = some entry ∨ (location, entry) ∈ added := by
  by_cases hmem : location ∈ OrderedMap.keys added
  · obtain ⟨⟨_, found⟩, hfound, rfl⟩ := List.mem_map.mp hmem
    rw [hgrows.entry?_of_mem hfound] at hentry
    cases hentry
    exact Or.inr hfound
  · rw [hgrows.entry?_of_not_mem hmem] at hentry
    exact Or.inl hentry

theorem Grows.refl (tree : FileTree) : tree.Grows [] tree :=
  ⟨by simp, by simp, List.nodup_nil⟩

theorem Grows.trans {largest : FileTree} {more : OrderedMap Location Entry}
    (hfirst : tree.Grows added larger) (hsecond : larger.Grows more largest) :
    tree.Grows (added ++ more) largest := by
  refine ⟨?_, ?_, ?_⟩
  · rw [hsecond.eq, hfirst.eq, List.append_assoc]
  · intro location hmem
    rw [OrderedMap.keys, List.map_append, List.mem_append] at hmem
    rcases hmem with hmem | hmem
    · exact hfirst.absent location hmem
    · -- what was there from the start is there still, so nothing could be added in its place
      cases hentry : tree.entry? location with
      | none => rfl
      | some entry =>
          have habsent := hsecond.absent location hmem
          rw [hfirst.entry?_of_some hentry] at habsent
          cases habsent
  · rw [OrderedMap.keys, List.map_append, List.nodup_append]
    refine ⟨hfirst.nodup, hsecond.nodup, ?_⟩
    rintro location hmem _ hmore rfl
    obtain ⟨⟨_, entry⟩, hentry, rfl⟩ := List.mem_map.mp hmem
    have habsent := hsecond.absent _ hmore
    rw [hfirst.entry?_of_mem hentry] at habsent
    cases habsent

/-- Placing an entry where there was nothing adds it. -/
theorem grows_place (habsent : tree.entry? location = none) (entry : Entry) :
    tree.Grows [(location, entry)] (tree.place location entry) := by
  refine ⟨?_, ?_, by simp [OrderedMap.keys]⟩
  · rw [entry?_of_ne_nil (ne_nil_of_entry?_none habsent), OrderedMap.at?_eq_none_iff] at habsent
    rw [place, OrderedMap.put_of_not_mem habsent]
  · intro other hmem
    rw [OrderedMap.keys, List.map_singleton, List.mem_singleton] at hmem
    rw [hmem]
    exact habsent

/-! ## Where paths lead -/

/-- A path without null bytes that is not too long leads where its names lead. -/
theorem locate_eq_walk {path : Path} (hnull : ∀ name ∈ path.parts, '\x00' ∉ name.toList)
    (hlong : path.text.utf8ByteSize ≤ pathLimit) (tree : FileTree) :
    tree.locate path =
      tree.walk (if path.absolute then [] else tree.workingDirectory) path.parts := by
  have hnone : path.parts.any (·.contains '\x00') = false := by
    rw [List.any_eq_false]
    intro name hmem
    rw [String.contains_char_eq, decide_eq_true_eq]
    exact hnull name hmem
  rw [locate, hnone, if_neg Bool.false_ne_true, if_neg (Nat.not_lt.mpr hlong)]

theorem walk_append (tree : FileTree) (place : Location) (names more : List String) :
    tree.walk place (names ++ more) =
      (tree.walk place names).bind fun place => tree.walk place more := by
  induction names generalizing place with
  | nil => rfl
  | cons name rest ih =>
      rw [List.cons_append, walk, walk]
      split
      · rfl
      · rfl
      · split_ifs
        · exact ih place.dropLast
        · rfl
        · exact ih (place ++ [name])

theorem Grows.walk_eq (hgrows : tree.Grows added larger) {start : Location} {names : List String}
    (hwalk : tree.walk start names = .ok place) : larger.walk start names = .ok place := by
  induction names generalizing start with
  | nil => exact hwalk
  | cons name rest ih =>
      rw [walk] at hwalk ⊢
      cases hentry : tree.entry? start with
      | none =>
          rw [hentry] at hwalk
          cases hwalk
      | some entry =>
          rw [hentry] at hwalk
          rw [hgrows.entry?_of_some hentry]
          cases entry with
          | file content => cases hwalk
          | directory =>
              simp only at hwalk ⊢
              split_ifs at hwalk ⊢
              · exact ih hwalk
              · exact ih hwalk

theorem Grows.locate_eq (hgrows : tree.Grows added larger) {path : Path}
    (hlocate : tree.locate path = .ok place) : larger.locate path = .ok place := by
  rw [locate] at hlocate ⊢
  split_ifs at hlocate ⊢ with hnull hlong habsolute
  · exact hgrows.walk_eq hlocate
  · rw [hgrows.workingDirectory_eq]
    exact hgrows.walk_eq hlocate

/-! ## Looking at what is there -/

theorem look_of_entry? {path : Path} (hlocate : tree.locate path = .ok place)
    (hentry : tree.entry? place = some entry) : tree.look path = .ok entry := by
  simp only [look, hlocate, bind, Except.bind, hentry]

theorem isDirectory_of_entry? {path : Path} (hlocate : tree.locate path = .ok place)
    (hentry : tree.entry? place = some .directory) : tree.isDirectory path = .ok true := by
  rw [isDirectory, ask, look_of_entry? hlocate hentry]

theorem isFile_of_entry? {path : Path} {content : ByteArray}
    (hlocate : tree.locate path = .ok place) (hentry : tree.entry? place = some (.file content)) :
    tree.isFile path = .ok true := by
  rw [isFile, ask, look_of_entry? hlocate hentry]

theorem list_of_entry? {path : Path} (hlocate : tree.locate path = .ok place)
    (hentry : tree.entry? place = some .directory) : tree.list path = .ok (tree.names place) := by
  simp only [list, hlocate, bind, Except.bind, hentry]

theorem readFile_of_entry? {path : Path} {content : ByteArray}
    (hlocate : tree.locate path = .ok place) (hentry : tree.entry? place = some (.file content)) :
    tree.readFile path = .ok content := by
  simp only [readFile, look_of_entry? hlocate hentry, bind, Except.bind]

theorem entry?_of_readFile {path : Path} {content : ByteArray}
    (hread : tree.readFile path = .ok content) :
    ∃ place, tree.locate path = .ok place ∧ tree.entry? place = some (.file content) := by
  unfold readFile look at hread
  cases hlocate : tree.locate path with
  | error fault =>
      rw [hlocate] at hread
      cases hread
  | ok place =>
      simp only [hlocate, bind, Except.bind] at hread
      cases hentry : tree.entry? place with
      | none =>
          rw [hentry] at hread
          cases hread
      | some entry =>
          rw [hentry] at hread
          cases entry with
          | directory => cases hread
          | file found =>
              cases hread
              exact ⟨place, rfl, hentry⟩

theorem Grows.readFile_eq (hgrows : tree.Grows added larger) {path : Path} {content : ByteArray}
    (hread : tree.readFile path = .ok content) : larger.readFile path = .ok content := by
  obtain ⟨place, hlocate, hentry⟩ := entry?_of_readFile hread
  exact readFile_of_entry? (hgrows.locate_eq hlocate) (hgrows.entry?_of_some hentry)

/-! ## Paths into a directory -/

/-- Is there a directory at the place to which the path leads? -/
structure HasDirectory (tree : FileTree) (path : Path) (place : Location) : Prop where
  locate_eq : tree.locate path = .ok place
  entry?_eq : tree.entry? place = some .directory

theorem Grows.hasDirectory (hgrows : tree.Grows added larger) {path : Path}
    (hdirectory : tree.HasDirectory path place) : larger.HasDirectory path place :=
  ⟨hgrows.locate_eq hdirectory.locate_eq, hgrows.entry?_of_some hdirectory.entry?_eq⟩

/-- A path that goes on by names is followed from where the path led. -/
theorem locate_down (hlocate : tree.locate base = .ok place) (names : List String) :
    tree.locate (base.down names) =
      if names.any (·.contains '\x00') then .error .nullByte
      else if pathLimit < (base.down names).text.utf8ByteSize then .error .nameTooLong
      else tree.walk place names := by
  rw [locate] at hlocate ⊢
  by_cases hnull : base.parts.any (·.contains '\x00') = true
  · rw [if_pos hnull] at hlocate
    cases hlocate
  · have hparts : (base.down names).parts.any (·.contains '\x00') =
        names.any (·.contains '\x00') := by
      show (base.parts ++ names).any _ = _
      rw [List.any_append, eq_false_of_ne_true hnull, Bool.false_or]
    rw [if_neg hnull] at hlocate
    rw [hparts]
    split at hlocate
    · cases hlocate
    · show (if _ then _ else if _ then _ else
        tree.walk (if base.absolute then [] else tree.workingDirectory) (base.parts ++ names)) = _
      rw [walk_append, hlocate]
      rfl

theorem any_null_of_isName {names : List String} (hnames : ∀ name ∈ names, IsName name) :
    names.any (·.contains '\x00') = false := by
  rw [List.any_eq_false]
  intro name hmem
  rw [String.contains_char_eq, decide_eq_true_eq]
  exact (hnames name hmem).no_null

/-- The path to a name leads one step further than the path before it, if it is not too long. -/
theorem locate_child_eq_walk {path : Path} (hlocate : tree.locate path = .ok place)
    {name : String} (hname : IsFileName name)
    (hroom : path.text.utf8ByteSize + 1 + name.utf8ByteSize ≤ pathLimit) :
    tree.locate (path.child name) = tree.walk place [name] := by
  have hsize := path.utf8ByteSize_child_le hname.toIsName
  have hnull : [name].any (·.contains '\x00') = false :=
    any_null_of_isName (List.forall_mem_singleton.mpr hname.toIsName)
  rw [Path.child_eq_down hname.toIsName] at hsize ⊢
  rw [locate_down hlocate, hnull, if_neg Bool.false_ne_true, if_neg (by omega)]

theorem HasDirectory.locate_child {path : Path} (hdirectory : tree.HasDirectory path place)
    {name : String} (hname : IsFileName name)
    (hroom : path.text.utf8ByteSize + 1 + name.utf8ByteSize ≤ pathLimit) :
    tree.locate (path.child name) = .ok (place ++ [name]) := by
  rw [locate_child_eq_walk hdirectory.locate_eq hname hroom, walk, hdirectory.entry?_eq]
  simp only [if_neg hname.not_above, if_neg (Nat.not_lt.mpr hname.short)]
  rfl

theorem locate_child_of_absent {path : Path} (hlocate : tree.locate path = .ok place)
    (habsent : tree.entry? place = none) {name : String} (hname : IsFileName name)
    (hroom : path.text.utf8ByteSize + 1 + name.utf8ByteSize ≤ pathLimit) :
    tree.locate (path.child name) = .error .notFound := by
  rw [locate_child_eq_walk hlocate hname hroom, walk, habsent]

/-! ## Names -/

/-- The names in a directory are the old ones and those that were added to it. -/
theorem Grows.names_perm (hgrows : tree.Grows added larger) (directory : Location) :
    (larger.names directory).Perm
      (tree.names directory ++ (OrderedMap.keys added).filterMap (childName? directory)) := by
  rw [names, names, hgrows.eq, List.map_append, List.filterMap_append]
  refine (List.mergeSort_perm _ _).trans ?_
  exact (List.mergeSort_perm _ _).symm.append_right _

theorem childName?_eq_some_iff {name : String} :
    childName? directory location = some name ↔ location = directory ++ [name] := by
  constructor
  · intro hname
    unfold childName? at hname
    split at hname
    · rename_i last hlast
      split_ifs at hname with hinside
      cases hname
      obtain ⟨before, rfl⟩ := List.getLast?_eq_some_iff.mp hlast
      rw [← hinside, List.dropLast_concat]
    · cases hname
  · rintro rfl
    rw [childName?, List.getLast?_concat]
    exact if_pos List.dropLast_concat

theorem mem_names_iff {name : String} :
    name ∈ tree.names directory ↔ tree.entry? (directory ++ [name]) ≠ none := by
  rw [entry?_of_ne_nil (List.append_ne_nil_of_right_ne_nil _ (List.cons_ne_nil _ _)),
    ← OrderedMap.mem_keys_iff, names, List.mem_mergeSort, List.mem_filterMap]
  constructor
  · rintro ⟨location, hmem, hname⟩
    rw [← childName?_eq_some_iff.mp hname]
    exact hmem
  · intro hmem
    exact ⟨_, hmem, childName?_eq_some_iff.mpr rfl⟩

/-- Of what lies no deeper than the directory itself nothing is in it. -/
theorem childName?_of_length_le (hlength : location.length ≤ directory.length) :
    childName? directory location = none := by
  cases hname : childName? directory location with
  | none => rfl
  | some name =>
      rw [childName?_eq_some_iff.mp hname, List.length_append, List.length_singleton] at hlength
      omega

/-! ## Making directories -/

theorem makeDirectory_of_absent {path : Path} (hlocate : tree.locate path = .ok place)
    (habsent : tree.entry? place = none) :
    tree.makeDirectory path = .ok (tree.place place .directory) := by
  simp only [makeDirectory, hlocate, bind, Except.bind, habsent]

theorem makeDirectory_of_some {path : Path} (hlocate : tree.locate path = .ok place)
    (hentry : tree.entry? place = some entry) :
    tree.makeDirectory path = .error .alreadyThere := by
  simp only [makeDirectory, hlocate, bind, Except.bind, hentry]

theorem makeDirectory_of_error {path : Path} {fault : FileFault}
    (hlocate : tree.locate path = .error fault) : tree.makeDirectory path = .error fault := by
  simp only [makeDirectory, hlocate, bind, Except.bind]

theorem HasDirectory.ensureDirectory_eq {path : Path} (hdirectory : tree.HasDirectory path place) :
    tree.ensureDirectory path = (tree, none) := by
  rw [FileTree.ensureDirectory, makeDirectory_of_some hdirectory.locate_eq hdirectory.entry?_eq]
  simp only [ isDirectory_of_entry? hdirectory.locate_eq hdirectory.entry?_eq]

/-- Making sure that there is a directory adds it or nothing. -/
theorem HasDirectory.ensureDirectory {path : Path} (hdirectory : tree.HasDirectory path place)
    {name : String} (hname : IsFileName name)
    (hroom : path.text.utf8ByteSize + 1 + name.utf8ByteSize ≤ pathLimit)
    (hfree : ∀ entry, tree.entry? (place ++ [name]) = some entry → entry = .directory) :
    ∃ added made, tree.ensureDirectory (path.child name) = (made, none) ∧
      tree.Grows added made ∧ (∀ new ∈ added, new = (place ++ [name], .directory)) ∧
        made.HasDirectory (path.child name) (place ++ [name]) := by
  have hlocate := hdirectory.locate_child hname hroom
  cases hentry : tree.entry? (place ++ [name]) with
  | none =>
      have hgrows := grows_place hentry .directory
      refine ⟨_, _, ?_, hgrows, fun new => List.mem_singleton.mp, hgrows.locate_eq hlocate, ?_⟩
      · rw [FileTree.ensureDirectory, makeDirectory_of_absent hlocate hentry]
      · exact hgrows.entry?_of_mem (List.mem_singleton.mpr rfl)
  | some entry =>
      rw [hfree entry hentry] at hentry
      have hthere : tree.HasDirectory (path.child name) (place ++ [name]) := ⟨hlocate, hentry⟩
      exact ⟨[], tree, hthere.ensureDirectory_eq, Grows.refl tree, List.forall_mem_nil _, hthere⟩

theorem makeDirectories_child {path : Path} {name : String} (hname : IsName name) :
    tree.makeDirectories (path.child name) =
      match tree.makeDirectory (path.child name) with
      | .error .notFound =>
        match tree.makeDirectories path with
        | (made, some fault) => (made, some fault)
        | (made, none) => made.ensureDirectory (path.child name)
      | _ => tree.ensureDirectory (path.child name) := by
  have hinner : (path.parts ++ [name]).reverse = name :: path.parts.reverse := by
    rw [List.reverse_append, List.reverse_singleton, List.singleton_append]
  have houter : (name :: path.parts.reverse).reverse = path.parts ++ [name] := by
    rw [List.reverse_cons, List.reverse_reverse]
  rw [makeDirectories, makeDirectories, Path.child_of_isName hname]
  show tree.ensureDirectories path.absolute (path.parts ++ [name]).reverse = _
  rw [hinner, ← houter]
  rfl

/-- One directory below one that is there is made if need be. -/
theorem HasDirectory.makeDirectories_child {path : Path}
    (hdirectory : tree.HasDirectory path place) {name : String} (hname : IsFileName name)
    (hroom : path.text.utf8ByteSize + 1 + name.utf8ByteSize ≤ pathLimit) :
    tree.makeDirectories (path.child name) = tree.ensureDirectory (path.child name) := by
  have hlocate := hdirectory.locate_child hname hroom
  rw [FileTree.makeDirectories_child hname.toIsName]
  cases hentry : tree.entry? (place ++ [name]) with
  | none => rw [makeDirectory_of_absent hlocate hentry]
  | some entry => rw [makeDirectory_of_some hlocate hentry]

/-- Two directories, one in the other, below one that is there: what is made is no deeper than
they are, and nothing is made in the inner one. -/
theorem HasDirectory.makeDirectories_two {path : Path}
    (hdirectory : tree.HasDirectory path place) {outer inner : String} (houter : IsFileName outer)
    (hinner : IsFileName inner)
    (hroom : path.text.utf8ByteSize + 1 + outer.utf8ByteSize + 1 + inner.utf8ByteSize ≤ pathLimit)
    (hfree : ∀ entry, tree.entry? (place ++ [outer]) = some entry → entry = .directory)
    (hfree' : ∀ entry, tree.entry? (place ++ [outer] ++ [inner]) = some entry →
      entry = .directory) :
    ∃ added made, tree.makeDirectories ((path.child outer).child inner) = (made, none) ∧
      tree.Grows added made ∧
        (∀ new ∈ added, new.2 = .directory ∧ new.1.length ≤ place.length + 2) ∧
          made.HasDirectory ((path.child outer).child inner) (place ++ [outer] ++ [inner]) := by
  have hshort := path.utf8ByteSize_child_le houter.toIsName
  have hlocate := hdirectory.locate_child houter (by omega)
  cases hentry : tree.entry? (place ++ [outer]) with
  | some entry =>
      rw [hfree entry hentry] at hentry
      have houterDirectory : tree.HasDirectory (path.child outer) (place ++ [outer]) :=
        ⟨hlocate, hentry⟩
      obtain ⟨added, made, hensure, hgrows, hadded, hmade⟩ :=
        houterDirectory.ensureDirectory hinner (by omega) hfree'
      refine ⟨added, made, ?_, hgrows, ?_, hmade⟩
      · rw [houterDirectory.makeDirectories_child hinner (by omega), hensure]
      · intro new hmem
        simp [hadded new hmem]
  | none =>
      obtain ⟨first, between, hensure, hgrows, hfirst, hbetween⟩ :=
        hdirectory.ensureDirectory houter (by omega) hfree
      -- making the outer directory puts nothing in the place of the inner one
      have hstill : ∀ entry, between.entry? (place ++ [outer] ++ [inner]) = some entry →
          entry = .directory := by
        intro entry hfound
        refine hfree' entry ?_
        rw [← hfound, hgrows.entry?_of_not_mem]
        intro hmem
        obtain ⟨new, hnew, hlocation⟩ := List.mem_map.mp hmem
        have hlength := congrArg List.length hlocation
        simp [hfirst new hnew] at hlength
      obtain ⟨second, made, hensure', hgrows', hsecond, hmade⟩ :=
        hbetween.ensureDirectory hinner (by omega) hstill
      have hmissing := makeDirectory_of_error
        (locate_child_of_absent hlocate hentry hinner (by omega))
      refine ⟨first ++ second, made, ?_, hgrows.trans hgrows', ?_, hmade⟩
      · rw [FileTree.makeDirectories_child hinner.toIsName, hmissing]
        simp only [hdirectory.makeDirectories_child houter (by omega), hensure, hensure']
      · intro new hmem
        rcases List.mem_append.mp hmem with hmem | hmem
        · simp [hfirst new hmem]
        · simp [hsecond new hmem]

end FileTree

end VisualNovel
