import VisualNovel.Proofs.Files.Below
import VisualNovel.Proofs.Sorting

/-!
# Trees that are the same below a place

Two trees may have nothing in common but what is at some place and below it (`SameBelow`).  If a
path leads there in both, and to the same place (`LeadsBelow`), then whatever is asked at the path
is answered in the same way, and whatever is done there is done to both or to none, so that they
are the same below the place afterwards.

Such are the paths that go on from a directory by the name of the place and further names, if the
directory is at one place in both trees (`leadsBelow_down`).
-/

namespace VisualNovel.FileTree

variable {first second : FileTree} {here place location : Location} {base path : Path}
  {names : List String} {outer : String}

/-- Have two trees the same at a place and below it? -/
def SameBelow (here : Location) (first second : FileTree) : Prop :=
  ∀ location, here <+: location → first.entry? location = second.entry? location

theorem SameBelow.afterPlace (hsame : SameBelow here first second) (hne : location ≠ [])
    (entry : Entry) :
    SameBelow here (first.place location entry) (second.place location entry) := by
  intro other hbelow
  rw [entry?_place hne, entry?_place hne, hsame other hbelow]

/-! ## Following a path -/

theorem SameBelow.walk_eq (hsame : SameBelow here first second) (hplace : here <+: place)
    (hnames : ∀ name ∈ names, IsName name) : first.walk place names = second.walk place names := by
  induction names generalizing place with
  | nil => rfl
  | cons name rest ih =>
      have hrest := ih (hplace.trans (List.prefix_append place [name]))
        fun other hother => hnames other (List.mem_cons_of_mem _ hother)
      rw [walk, walk, hsame place hplace, hrest,
        if_neg (hnames name (List.mem_cons_self ..)).not_above,
        if_neg (hnames name (List.mem_cons_self ..)).not_above]

/-- Does a path lead to the same place in both trees, and below `here`, or nowhere in both? -/
structure LeadsBelow (here : Location) (first second : FileTree) (path : Path) : Prop where
  locate_eq : first.locate path = second.locate path
  below : ∀ {location}, first.locate path = .ok location → here <+: location

theorem leadsBelow_down (hsame : SameBelow (place ++ [outer]) first second)
    (hfirst : first.HasDirectory base place) (hsecond : second.HasDirectory base place)
    (hnames : ∀ name ∈ outer :: names, IsName name) :
    LeadsBelow (place ++ [outer]) first second (base.down (outer :: names)) := by
  constructor
  · rw [locate_down hfirst.locate_eq, locate_down hsecond.locate_eq]
    -- the first step is the same in both trees, and the others are below it
    have hwalk : first.walk place (outer :: names) = second.walk place (outer :: names) := by
      rw [walk, walk, hfirst.entry?_eq, hsecond.entry?_eq]
      simp only [if_neg (hnames outer (List.mem_cons_self ..)).not_above]
      rw [hsame.walk_eq List.prefix_rfl
        fun name hmem => hnames name (List.mem_cons_of_mem _ hmem)]
    rw [hwalk]
  · intro location hlocate
    rw [location_of_locate_down hfirst.locate_eq hnames hlocate]
    exact ⟨names, by rw [List.append_assoc, List.singleton_append]⟩

/-! ## Asking -/

theorem SameBelow.look_eq (hsame : SameBelow here first second)
    (hleads : LeadsBelow here first second path) : first.look path = second.look path := by
  rw [look, look, ← hleads.locate_eq]
  cases hlocate : first.locate path with
  | error fault => rfl
  | ok location =>
      simp only [bind, Except.bind, hsame location (hleads.below hlocate)]

theorem SameBelow.isFile_eq (hsame : SameBelow here first second)
    (hleads : LeadsBelow here first second path) : first.isFile path = second.isFile path := by
  rw [isFile, isFile, ask, ask, hsame.look_eq hleads]

theorem SameBelow.isDirectory_eq (hsame : SameBelow here first second)
    (hleads : LeadsBelow here first second path) :
    first.isDirectory path = second.isDirectory path := by
  rw [isDirectory, isDirectory, ask, ask, hsame.look_eq hleads]

theorem SameBelow.readFile_eq (hsame : SameBelow here first second)
    (hleads : LeadsBelow here first second path) : first.readFile path = second.readFile path := by
  rw [readFile, readFile, hsame.look_eq hleads]

theorem SameBelow.names_eq (hsame : SameBelow here first second) (hfirst : first.WellFormed)
    (hsecond : second.WellFormed) {directory : Location} (hbelow : here <+: directory) :
    first.names directory = second.names directory := by
  have hperm : (first.names directory).Perm (second.names directory) := by
    rw [List.perm_ext_iff_of_nodup (hfirst.nodup_names _) (hsecond.nodup_names _)]
    intro name
    rw [mem_names_iff, mem_names_iff, hsame _ (hbelow.trans (List.prefix_append _ _))]
  -- both are sorted, and they are the same names
  refine hperm.eq_of_pairwise ?_ (pairwise_sorted_by id _) (pairwise_sorted_by id _)
  intro name other _ _ hle hge
  exact String.le_antisymm hle hge

theorem SameBelow.list_eq (hsame : SameBelow here first second) (hfirst : first.WellFormed)
    (hsecond : second.WellFormed) (hleads : LeadsBelow here first second path) :
    first.list path = second.list path := by
  rw [list, list, ← hleads.locate_eq]
  cases hlocate : first.locate path with
  | error fault => rfl
  | ok location =>
      have hbelow := hleads.below hlocate
      simp only [bind, Except.bind, hsame location hbelow, hsame.names_eq hfirst hsecond hbelow]

/-! ## Changing -/

/-- Has the same been done to two trees, or has the same fault come up in both? -/
def SameStep (here : Location) : Except FileFault FileTree → Except FileFault FileTree → Prop
  | .ok first, .ok second => SameBelow here first second
  | .error fault, .error other => fault = other
  | _, _ => False

theorem SameBelow.writeFile (hsame : SameBelow here first second)
    (hleads : LeadsBelow here first second path) (content : ByteArray) :
    SameStep here (first.writeFile path content) (second.writeFile path content) := by
  rw [FileTree.writeFile, FileTree.writeFile, ← hleads.locate_eq]
  cases hlocate : first.locate path with
  | error fault => rfl
  | ok location =>
      have hentry := hsame location (hleads.below hlocate)
      by_cases hroot : location = []
      · subst hroot
        rfl
      · simp only [bind, Except.bind, ← hentry]
        split
        · rfl
        · exact hsame.afterPlace hroot _

theorem SameBelow.makeDirectory (hsame : SameBelow here first second)
    (hleads : LeadsBelow here first second path) :
    SameStep here (first.makeDirectory path) (second.makeDirectory path) := by
  rw [FileTree.makeDirectory, FileTree.makeDirectory, ← hleads.locate_eq]
  cases hlocate : first.locate path with
  | error fault => rfl
  | ok location =>
      simp only [bind, Except.bind, ← hsame location (hleads.below hlocate)]
      cases habsent : first.entry? location with
      | some entry => rfl
      | none => exact hsame.afterPlace (ne_nil_of_entry?_none habsent) _

/-- Has the same become of two trees in which there should be a directory? -/
def SameAttempt (here : Location) (first second : FileTree × Option FileFault) : Prop :=
  SameBelow here first.1 second.1 ∧ first.2 = second.2

theorem SameBelow.ensureDirectory (hsame : SameBelow here first second)
    (hleads : LeadsBelow here first second path) :
    SameAttempt here (first.ensureDirectory path) (second.ensureDirectory path) := by
  have hmake := hsame.makeDirectory hleads
  rw [FileTree.ensureDirectory, FileTree.ensureDirectory, ← hsame.isDirectory_eq hleads]
  cases hfirst : first.makeDirectory path with
  | ok made =>
      cases hsecond : second.makeDirectory path with
      | ok made' =>
          rw [hfirst, hsecond] at hmake
          exact ⟨hmake, rfl⟩
      | error fault => rw [hfirst, hsecond] at hmake; cases hmake
  | error fault =>
      cases hsecond : second.makeDirectory path with
      | ok made => rw [hfirst, hsecond] at hmake; cases hmake
      | error other =>
          rw [hfirst, hsecond] at hmake
          obtain rfl : fault = other := hmake
          simp only
          split <;> exact ⟨hsame, rfl⟩

/-- Is the fault that there is nothing where something has to be? -/
def isMissing : Except FileFault FileTree → Bool
  | .error .notFound => true
  | _ => false

theorem SameStep.isMissing_eq {step other : Except FileFault FileTree}
    (hstep : SameStep here step other) : isMissing step = isMissing other := by
  cases step with
  | ok made =>
      cases other with
      | ok made' => rfl
      | error fault => cases hstep
  | error fault =>
      cases other with
      | ok made => cases hstep
      | error fault' =>
          obtain rfl : fault = fault' := hstep
          rfl

/-- A directory is made at once, or if something is missing after those on the way. -/
theorem makeDirectories_child_eq (tree : FileTree) {name : String} (hname : IsName name) :
    tree.makeDirectories (path.child name) =
      if isMissing (tree.makeDirectory (path.child name)) then
        if (tree.makeDirectories path).2.isSome then tree.makeDirectories path
        else (tree.makeDirectories path).1.ensureDirectory (path.child name)
      else tree.ensureDirectory (path.child name) := by
  rw [makeDirectories_child hname]
  split
  · rename_i hmake
    rw [hmake]
    rcases tree.makeDirectories path with ⟨made, _ | fault⟩ <;> rfl
  · rename_i hnot
    rw [if_neg]
    intro hmissing
    unfold isMissing at hmissing
    split at hmissing
    · rename_i hmake
      exact hnot hmake
    · cases hmissing

theorem HasDirectory.makeDirectories_child_eq {tree : FileTree}
    (hdirectory : tree.HasDirectory base place) {name : String} (hname : IsName name) :
    tree.makeDirectories (base.child name) = tree.ensureDirectory (base.child name) := by
  have hfound : isMissing (tree.makeDirectory (base.child name)) = false := by
    unfold makeDirectory
    rcases hdirectory.locate_child_cases hname with ⟨-, hlocate⟩ | hlocate
    · simp only [hlocate, bind, Except.bind]
      cases tree.entry? (place ++ [name]) <;> rfl
    · simp only [hlocate, bind, Except.bind]
      rfl
  rw [FileTree.makeDirectories_child_eq tree hname, hfound, if_neg Bool.false_ne_true]

/-- Directories below one that is at the same place in both trees are made in both or in none. -/
theorem SameBelow.makeDirectories (hsame : SameBelow (place ++ [outer]) first second)
    (hfirst : first.HasDirectory base place) (hsecond : second.HasDirectory base place)
    (hnames : ∀ name ∈ outer :: names, IsName name) :
    SameAttempt (place ++ [outer]) (first.makeDirectories (base.down (outer :: names)))
      (second.makeDirectories (base.down (outer :: names))) := by
  induction names using List.reverseRecOn with
  | nil =>
      have houter := hnames outer (List.mem_cons_self ..)
      have hmade := hsame.ensureDirectory (leadsBelow_down hsame hfirst hsecond hnames)
      rw [← Path.child_eq_down houter] at hmade ⊢
      rwa [hfirst.makeDirectories_child_eq houter, hsecond.makeDirectories_child_eq houter]
  | append_singleton names name ih =>
      have hbefore : ∀ other ∈ outer :: names, IsName other := by
        intro other hother
        refine hnames other ?_
        rw [← List.cons_append]
        exact List.mem_append_left _ hother
      have hname : IsName name := hnames name (by simp)
      have hpath : base.down (outer :: (names ++ [name])) =
          (base.down (outer :: names)).child name := by
        rw [Path.child_down hname]
        rfl
      have hleads := leadsBelow_down hsame hfirst hsecond hnames
      obtain ⟨hmade, hfault⟩ := ih hbefore
      -- the first directory is there still, so the last step is one in trees that are alike
      have hlast : SameAttempt (place ++ [outer])
          ((first.makeDirectories (base.down (outer :: names))).1.ensureDirectory
            (base.down (outer :: (names ++ [name]))))
          ((second.makeDirectories (base.down (outer :: names))).1.ensureDirectory
            (base.down (outer :: (names ++ [name])))) :=
        SameBelow.ensureDirectory hmade (leadsBelow_down hmade
          ((opened_makeDirectories hfirst hbefore).keeps hfirst)
          ((opened_makeDirectories hsecond hbefore).keeps hsecond) hnames)
      have hmissing := (hsame.makeDirectory hleads).isMissing_eq
      have hnow := hsame.ensureDirectory hleads
      rw [hpath] at hlast hmissing hnow ⊢
      rw [FileTree.makeDirectories_child_eq first hname,
        FileTree.makeDirectories_child_eq second hname, ← hmissing, ← hfault]
      split_ifs
      · exact ⟨hmade, hfault⟩
      · exact hlast
      · exact hnow

end VisualNovel.FileTree
