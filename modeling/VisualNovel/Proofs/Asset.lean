import VisualNovel.Asset
import VisualNovel.Proofs.Text.Percent

/-!
# Different images have different addresses

The address of an image is a folder, one component for the path of the image, and a query.  Below
one folder and with one query the component can be read off the address, and the path off the
component.  The path in turn tells whether it is that of a background or of a portrait, and of
which one.

A background that is an address already stays what it is.  So resolving once more changes nothing,
if the folder itself is on the web (`addresses_distinct`).
-/

namespace VisualNovel.Resolver

variable {base query id other : String}

/-- Is the text an address on the web? -/
def IsWeb (text : String) : Prop :=
  "http://".toList <+: text.toList ∨ "https://".toList <+: text.toList

/-- Is the background one of the images below the folder? -/
structure IsOwn (background : String) : Prop where
  ne_empty : background ≠ ""
  not_web : ¬ IsWeb background

/-- Does the character have a portrait? -/
structure IsPortrayed (character : String) : Prop where
  ne_empty : character ≠ ""
  ne_narrator : character ≠ "narrator"

/-- Is this the folder with a slash at its end, which is added only if it is missing? -/
inductive IsFolder (base : String) : String → Prop
  | same (hslash : base.toList.getLast? = some '/') : IsFolder base base
  | added (hmissing : base.toList.getLast? ≠ some '/') : IsFolder base (base ++ "/")

/-- Is the address made of the folder, of the path as one component, and of the query? -/
def IsAddress (folder path query address : String) : Prop :=
  ∃ component, address = folder ++ component ++ query ∧ component = Percent.encode path ∧
    Percent.IsComponent component.toList ∧ '/' ∉ component.toList

/-! ## Folders -/

theorem isWebAddress_iff : isWebAddress id = true ↔ IsWeb id := by
  rw [isWebAddress, Bool.or_eq_true, String.startsWith_string_iff, String.startsWith_string_iff]
  rfl

theorem endsWith_slash_iff : base.endsWith "/" = true ↔ base.toList.getLast? = some '/' := by
  rw [← String.endsWith_toSlice, String.Slice.endsWith_string_iff, String.copy_toSlice]
  show ['/'] <:+ base.toList ↔ _
  rw [List.singleton_suffix_iff_getLast?_eq_some]

theorem isFolder_below (base query : String) : IsFolder base (below base query).base := by
  show IsFolder base (if base.endsWith "/" then base else base ++ "/")
  split_ifs with hends
  · exact .same (endsWith_slash_iff.mp hends)
  · exact .added fun hslash => hends (endsWith_slash_iff.mpr hslash)

namespace IsFolder

variable {folder : String}

theorem ne_empty (hfolder : IsFolder base folder) : folder ≠ "" := by
  rintro rfl
  generalize hempty : "" = folder at hfolder
  cases hfolder with
  | same hslash =>
      subst hempty
      cases hslash
  | added =>
      have hlength := congrArg String.length hempty
      have hslash : "/".length = 1 := rfl
      rw [String.length_append, String.length_empty] at hlength
      omega

/-- What lies below a folder on the web is an address on the web. -/
theorem isWeb_append (hfolder : IsFolder base folder) (hweb : IsWeb base) (rest : String) :
    IsWeb (folder ++ rest) := by
  have hprefix : base.toList <+: (folder ++ rest).toList := by
    cases hfolder with
    | same =>
        rw [String.toList_append]
        exact List.prefix_append _ _
    | added =>
        rw [String.append_assoc, String.toList_append]
        exact List.prefix_append _ _
  exact hweb.imp (List.IsPrefix.trans · hprefix) (List.IsPrefix.trans · hprefix)

end IsFolder

/-! ## Addresses -/

variable {resolver : Resolver}

theorem isAddress_address (resolver : Resolver) (path : String) :
    IsAddress resolver.base path resolver.query (resolver.address path) := by
  have hcomponent := Percent.isComponent_encode path
  exact ⟨Percent.encode path, rfl, rfl, hcomponent, hcomponent.not_mem (by decide) (by decide)⟩

theorem address_injective (resolver : Resolver) : Function.Injective resolver.address := by
  intro path other hsame
  have hquery := (String.append_left_inj _).mp hsame
  exact Percent.encode_injective ((String.append_right_inj _).mp hquery)

theorem address_ne_empty (hbase : resolver.base ≠ "") (path : String) :
    resolver.address path ≠ "" := by
  intro hempty
  have hlists := congrArg String.toList hempty
  rw [address, String.toList_append, String.toList_append, String.toList_empty,
    List.append_eq_nil_iff, List.append_eq_nil_iff] at hlists
  exact hbase (String.toList_eq_nil_iff.mp hlists.1.1)

/-! ## Backgrounds and portraits -/

theorem background_empty (resolver : Resolver) : resolver.background "" = "" := rfl

theorem background_of_isWeb (hweb : IsWeb id) (resolver : Resolver) :
    resolver.background id = id := by
  have hne : id ≠ "" := by
    rintro rfl
    rcases hweb with hprefix | hprefix <;> exact absurd hprefix (by decide)
  rw [background, if_neg hne, if_pos (isWebAddress_iff.mpr hweb)]

theorem IsOwn.background_eq (hown : IsOwn id) (resolver : Resolver) :
    resolver.background id = resolver.address ("backgrounds/" ++ id ++ ".png") := by
  have hweb : ¬ isWebAddress id = true := fun hweb => hown.not_web (isWebAddress_iff.mp hweb)
  rw [background, if_neg hown.ne_empty, if_neg hweb, backgroundPath]

theorem IsPortrayed.portrait_eq (hportrayed : IsPortrayed id) (resolver : Resolver) :
    resolver.portrait id = resolver.address ("characters/" ++ id ++ ".png") :=
  if_neg (not_or.mpr ⟨hportrayed.ne_empty, hportrayed.ne_narrator⟩)

/-- A background is missing, an address already, or one of the images below the folder. -/
theorem background_cases (id : String) : id = "" ∨ IsWeb id ∨ IsOwn id := by
  by_cases hempty : id = ""
  · exact Or.inl hempty
  · exact Or.inr ((em (IsWeb id)).imp_right fun hweb => ⟨hempty, hweb⟩)

theorem path_injective {kind ending : String}
    (hsame : kind ++ id ++ ending = kind ++ other ++ ending) : id = other :=
  (String.append_right_inj _).mp ((String.append_left_inj _).mp hsame)

/-- **Different images have different addresses, and an address is not resolved any further.** -/
theorem addresses_distinct (base query : String) :
    (∀ id other, IsOwn id → IsOwn other →
      (below base query).background id = (below base query).background other → id = other) ∧
    (∀ id other, IsPortrayed id → IsPortrayed other →
      (below base query).portrait id = (below base query).portrait other → id = other) ∧
    (∀ id other, IsOwn id → IsPortrayed other →
      (below base query).background id ≠ (below base query).portrait other) ∧
    (∃ folder, IsFolder base folder ∧
      (∀ id, IsOwn id → IsAddress folder ("backgrounds/" ++ id ++ ".png") query
        ((below base query).background id)) ∧
      ∀ id, IsPortrayed id → IsAddress folder ("characters/" ++ id ++ ".png") query
        ((below base query).portrait id)) ∧
    (IsWeb base → ∀ id,
      (below base query).background ((below base query).background id) =
        (below base query).background id) ∧
    ∀ id, (below base query).background id = "" ↔ id = "" := by
  have hfolder := isFolder_below base query
  refine ⟨?_, ?_, ?_, ⟨_, hfolder, ?_, ?_⟩, ?_, ?_⟩
  · intro id other hid hother hsame
    rw [hid.background_eq, hother.background_eq] at hsame
    exact path_injective (address_injective _ hsame)
  · intro id other hid hother hsame
    rw [hid.portrait_eq, hother.portrait_eq] at hsame
    exact path_injective (address_injective _ hsame)
  · intro id other hid hother hsame
    rw [hid.background_eq, hother.portrait_eq] at hsame
    have hpaths := congrArg String.toList (address_injective _ hsame)
    simp at hpaths
  · intro id hid
    rw [hid.background_eq]
    exact isAddress_address _ _
  · intro id hid
    rw [hid.portrait_eq]
    exact isAddress_address _ _
  · intro hweb id
    rcases background_cases id with rfl | hid | hid
    · rfl
    · rw [background_of_isWeb hid, background_of_isWeb hid]
    · rw [hid.background_eq]
      refine background_of_isWeb ?_ _
      rw [address, String.append_assoc]
      exact hfolder.isWeb_append hweb _
  · intro id
    refine ⟨?_, fun hempty => by rw [hempty, background_empty]⟩
    intro hempty
    rcases background_cases id with rfl | hid | hid
    · rfl
    · rwa [background_of_isWeb hid] at hempty
    · rw [hid.background_eq] at hempty
      exact absurd hempty (address_ne_empty hfolder.ne_empty _)

/-- An id with a slash and the same id with the slash encoded are different backgrounds. -/
theorem addresses_distinct_of_slash :
    IsWeb "http://x" ∧ IsOwn "a/b" ∧ IsOwn "a%2Fb" ∧ IsPortrayed "a/b" ∧
      (below "http://x" "").background "a/b" ≠ (below "http://x" "").background "a%2Fb" ∧
      (below "http://x" "").background "a/b" ≠ (below "http://x" "").portrait "a/b" ∧
      (below "http://x" "").background ((below "http://x" "").background "a/b") =
        (below "http://x" "").background "a/b" := by
  have hweb : IsWeb "http://x" := Or.inl (by decide)
  have hslash : IsOwn "a/b" := ⟨by decide, by rintro (h | h) <;> exact absurd h (by decide)⟩
  have hencoded : IsOwn "a%2Fb" := ⟨by decide, by rintro (h | h) <;> exact absurd h (by decide)⟩
  have hportrayed : IsPortrayed "a/b" := ⟨by decide, by decide⟩
  obtain ⟨hbackgrounds, -, hkinds, -, hstable, -⟩ := addresses_distinct "http://x" ""
  refine ⟨hweb, hslash, hencoded, hportrayed, ?_, hkinds _ _ hslash hportrayed, hstable hweb _⟩
  intro hsame
  exact absurd (hbackgrounds _ _ hslash hencoded hsame) (by decide)

end VisualNovel.Resolver
