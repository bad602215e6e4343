import VisualNovel.Files.Tree
import VisualNovel.Proofs.Text.Utf8
import VisualNovel.Store.Key
import Mathlib.Tactic.SplitIfs

/-!
# Names of files

A text is taken as one name of a path, and leads one step down, if it is not empty, not `.` or
`..`, and without slashes and null bytes (`IsName`).  It leads to a place in a directory if it is
not too long either (`IsFileName`).  Keys are such names, with an ending or without one, so a path
to a document has one name for each of its parts.
-/

namespace VisualNovel

/-- Is the text a name that leads one step down? -/
structure IsName (name : String) : Prop where
  nonempty : name ≠ ""
  not_here : name ≠ "."
  not_above : name ≠ ".."
  no_slash : '/' ∉ name.toList
  no_null : '\x00' ∉ name.toList

/-- Is the text a name that a file can have? -/
structure IsFileName (name : String) : Prop extends IsName name where
  short : name.utf8ByteSize ≤ FileTree.nameLimit

namespace Path

variable {path : Path} {name : String}

theorem ofText_of_isName (hname : IsName name) :
    ofText name = { absolute := false, parts := [name] } := by
  have habsolute : name.startsWith "/" = false := by
    rw [String.startsWith_string_eq_false_iff]
    intro hbegins
    exact hname.no_slash (hbegins.subset (List.mem_singleton.mpr rfl))
  have hpieces : Text.pieces '/' name = [name] := Text.pieces_of_not_mem hname.no_slash
  simp [ofText, habsolute, hpieces, hname.nonempty, hname.not_here]

theorem child_of_isName (hname : IsName name) :
    path.child name = { path with parts := path.parts ++ [name] } := by
  rw [child, ofText_of_isName hname]
  rfl

/-- The path that goes on by some names. -/
def down (path : Path) (names : List String) : Path :=
  { path with parts := path.parts ++ names }

@[simp] theorem down_nil (path : Path) : path.down [] = path := by
  rw [down, List.append_nil]

theorem child_down {names : List String} (hname : IsName name) :
    (path.down names).child name = path.down (names ++ [name]) := by
  rw [child_of_isName hname, down, down, List.append_assoc]

theorem child_eq_down (hname : IsName name) :
    path.child name = path.down [name] := by
  rw [child_of_isName hname, down]

/-- The path to something in a directory is longer than that of the directory by a slash and
the name at most. -/
theorem utf8ByteSize_child_le (hname : IsName name) :
    (path.child name).text.utf8ByteSize ≤ path.text.utf8ByteSize + 1 + name.utf8ByteSize := by
  have hone : "/".intercalate [name] = name := String.intercalate_singleton
  have hslash : "/".utf8ByteSize = 1 := rfl
  have hsome : (path.parts ++ [name]).isEmpty = false := by simp
  rw [child_of_isName hname]
  obtain ⟨absolute, parts⟩ := path
  cases parts with
  | nil =>
      cases absolute with
      | true =>
          simp only [text, List.nil_append, hone, if_true, String.utf8ByteSize_append]
          omega
      | false =>
          simp only [text, List.nil_append, hone, List.isEmpty_cons, Bool.false_eq_true, if_false]
          omega
  | cons first others =>
      have htext : "/".intercalate (first :: others ++ [name]) =
          "/".intercalate (first :: others) ++ "/" ++ name := by
        rw [String.intercalate_append_of_ne_nil (List.cons_ne_nil _ _) (List.cons_ne_nil _ _), hone]
      cases absolute with
      | true =>
          simp only [text, htext, if_true, String.utf8ByteSize_append]
          omega
      | false =>
          simp only [text, htext, hsome, List.isEmpty_cons, Bool.false_eq_true, if_false,
            String.utf8ByteSize_append]
          omega

theorem utf8ByteSize_intercalate_le (names more : List String) :
    ("/".intercalate names).utf8ByteSize ≤ ("/".intercalate (names ++ more)).utf8ByteSize := by
  cases names with
  | nil => exact Nat.zero_le _
  | cons first others =>
      cases more with
      | nil => exact Nat.le_of_eq (by rw [List.append_nil])
      | cons next rest =>
          rw [String.intercalate_append_of_ne_nil (List.cons_ne_nil _ _) (List.cons_ne_nil _ _),
            String.utf8ByteSize_append, String.utf8ByteSize_append]
          omega

/-- A path that goes on by names is not shorter. -/
theorem utf8ByteSize_le_down {names : List String} (hnames : ∀ name ∈ names, IsName name) :
    path.text.utf8ByteSize ≤ (path.down names).text.utf8ByteSize := by
  obtain ⟨absolute, parts⟩ := path
  have hparts := utf8ByteSize_intercalate_le parts names
  cases absolute with
  | true =>
      simp only [down, text, if_true, String.utf8ByteSize_append]
      omega
  | false =>
      cases parts with
      | cons first others => exact hparts
      | nil =>
          cases names with
          | nil => exact Nat.le_refl _
          | cons next rest =>
              -- the path `.` is as long as one character
              have hnext := utf8ByteSize_intercalate_le [next] rest
              have hone : "/".intercalate [next] = next := String.intercalate_singleton
              have hnonempty := (hnames next (List.mem_cons_self ..)).nonempty
              have hpos : next.utf8ByteSize ≠ 0 :=
                fun hzero => hnonempty (String.utf8ByteSize_eq_zero_iff.mp hzero)
              rw [hone] at hnext
              show 1 ≤ ("/".intercalate ([next] ++ rest)).utf8ByteSize
              omega

end Path

/-! ## Keys -/

theorem utf8ByteSize_eq_length {text : String} (hascii : ∀ c ∈ text.toList, c.toNat < 0x80) :
    text.utf8ByteSize = text.length := by
  have hsize : ∀ chars : List Char, (∀ c ∈ chars, c.toNat < 0x80) →
      (String.ofList chars).utf8ByteSize = chars.length := by
    intro chars hchars
    induction chars with
    | nil => rfl
    | cons c rest ih =>
        have hrest := ih fun other hother => hchars other (List.mem_cons_of_mem _ hother)
        have hc : (String.singleton c).utf8ByteSize = 1 := by
          have hlt := hchars c (List.mem_cons_self ..)
          rw [String.utf8ByteSize_singleton, Char.utf8Size, if_pos]
          rw [UInt32.le_iff_toNat_le]
          show c.toNat ≤ 0x7f
          omega
        rw [← List.singleton_append, String.ofList_append, String.utf8ByteSize_append, hrest]
        show (String.singleton c).utf8ByteSize + rest.length = _
        rw [hc, List.length_append, List.length_singleton]
  have htext := hsize text.toList hascii
  rwa [String.ofList_toList, String.length_toList] at htext

namespace Key

theorem lt_of_allows {c : Char} (hallows : allows c = true) : c.toNat < 0x80 := by
  have hcases : c.isAlphanum = true ∨ c = '_' ∨ c = '-' := by
    simpa [allows, or_assoc] using hallows
  rcases hcases with halpha | rfl | rfl
  · exact Text.toNat_lt_of_isAlphanum halpha
  · decide
  · decide

/-- A text of characters of keys and points is a name, if it has other characters than points. -/
theorem isName_of_allowed {name : String}
    (hchars : ∀ c ∈ name.toList, allows c = true ∨ c = '.')
    (hallowed : ∃ c ∈ name.toList, allows c = true) : IsName name := by
  have habsent : ∀ c, allows c = false → c ≠ '.' → c ∉ name.toList := by
    intro c hnot hpoint hmem
    rcases hchars c hmem with hallows | hpoint'
    · rw [hnot] at hallows
      cases hallows
    · exact hpoint hpoint'
  obtain ⟨c, hmem, hallows⟩ := hallowed
  have hne : ∀ other : String, other.toList.any allows = false → name ≠ other := by
    rintro other hother rfl
    exact List.any_eq_false.mp hother c hmem hallows
  exact ⟨hne "" (by decide), hne "." (by decide), hne ".." (by decide),
    habsent '/' (by decide) (by decide), habsent '\x00' (by decide) (by decide)⟩

theorem allows_of_mem {key : String} (hkey : isKey key = true) {c : Char} (hmem : c ∈ key.toList) :
    allows c = true := by
  rw [isKey, Bool.and_eq_true] at hkey
  exact List.all_eq_true.mp hkey.2 c hmem

theorem exists_mem_of_isKey {key : String} (hkey : isKey key = true) : ∃ c, c ∈ key.toList := by
  rw [isKey, Bool.and_eq_true] at hkey
  cases hchars : key.toList with
  | nil =>
      have hempty : key = "" := String.toList_inj.mp hchars
      rw [hempty] at hkey
      exact absurd hkey.1 (by decide)
  | cons c rest => exact ⟨c, List.mem_cons_self ..⟩

theorem of_ofJson {role key : String} {value : Json} (hkey : ofJson role value = .ok key) :
    value = .str key ∧ isKey key = true := by
  cases value with
  | str text =>
      rw [ofJson, check] at hkey
      split at hkey
      · cases hkey
        exact ⟨rfl, ‹_›⟩
      · cases hkey
  | _ =>
      simp only [ofJson] at hkey
      split at hkey <;> cases hkey

theorem isName_of_isKey {key : String} (hkey : isKey key = true) : IsName key := by
  obtain ⟨c, hmem⟩ := exists_mem_of_isKey hkey
  exact isName_of_allowed (fun other hother => Or.inl (allows_of_mem hkey hother))
    ⟨c, hmem, allows_of_mem hkey hmem⟩

theorem isFileName_of_isKey {key : String} (hkey : isKey key = true)
    (hshort : key.length ≤ FileTree.nameLimit) : IsFileName key := by
  have hsize := utf8ByteSize_eq_length fun c hmem => lt_of_allows (allows_of_mem hkey hmem)
  exact ⟨isName_of_isKey hkey, hsize ▸ hshort⟩

end Key

end VisualNovel
