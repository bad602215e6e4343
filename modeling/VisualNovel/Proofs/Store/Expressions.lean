import VisualNovel.Proofs.Store.Confined
import VisualNovel.Proofs.Store.Import

/-!
# Records of different expressions

A character record is about one expression of one character.  It is kept under the ids of both, with
`_` between them; but the ids may have `_` in them too, so two records of different expressions can
come under one id.  This is so if a text at the beginning of the expression of one of them is at the
end of the character of the other one (`Entangled`), and not otherwise (`idOf_eq_iff`).

Of the records under one id the last one is kept.  So saving a cast keeps the last record of every
expression exactly if no two of its records are entangled (`gives_characters_iff`).
-/

namespace VisualNovel

/-- A record of an expression that can be kept. -/
structure ExpressionRecord [Json.Room] where
  fields : OrderedMap String Json
  character : String
  expression : String
  character_eq : OrderedMap.at? "characterId" fields = some (.str character)
  expression_eq : OrderedMap.at? "expressionId" fields = some (.str expression)
  isKey : Key.isKey (character ++ "_" ++ expression) = true
  /-- The ids fit the name of a file. -/
  short : (character ++ "_" ++ expression).length + 5 ≤ FileTree.nameLimit
  /-- The text of the record tells all of it. -/
  exact : Json.IsExact (.obj fields)
  /-- There is room to write the record. -/
  stores : Json.Room.stores (.obj fields) = true
  /-- There is room to read it. -/
  shallow : (Json.obj fields).nesting ≤ Json.Room.depth .collection

section

variable [Json.Room]

namespace ExpressionRecord

variable {first second : ExpressionRecord} {records : List ExpressionRecord}

/-- The value that the record is. -/
def value (record : ExpressionRecord) : Json := .obj record.fields

/-- What the record is about: a character and one of its expressions. -/
def subject (record : ExpressionRecord) : String × String := (record.character, record.expression)

/-- The id under which a record about an expression is kept. -/
def idOf (subject : String × String) : String := subject.1 ++ "_" ++ subject.2

/-- The record under its id. -/
def document (record : ExpressionRecord) : String × Json := (idOf record.subject, record.value)

theorem value_injective : Function.Injective value := by
  intro first second heq
  have hfields : first.fields = second.fields := Json.obj.inj heq
  have hcharacter : some (Json.str first.character) = some (.str second.character) := by
    rw [← first.character_eq, ← second.character_eq, hfields]
  have hexpression : some (Json.str first.expression) = some (.str second.expression) := by
    rw [← first.expression_eq, ← second.expression_eq, hfields]
  cases first
  cases second
  cases hfields
  cases hcharacter
  cases hexpression
  rfl

/-! ## One id for two expressions -/

/-- Is the second record about what the first one is about, but for a text that has moved from the
beginning of the expression to the end of the character? -/
def Entangled (first second : ExpressionRecord) : Prop :=
  ∃ between, second.character = first.character ++ "_" ++ between ∧
    first.expression = between ++ "_" ++ second.expression

omit [Json.Room] in
theorem toList_idOf (subject : String × String) :
    (idOf subject).toList = subject.1.toList ++ '_' :: subject.2.toList := by
  rw [idOf, String.toList_append, String.toList_append, List.append_assoc]
  rfl

theorem Entangled.idOf_eq (hentangled : Entangled first second) :
    idOf first.subject = idOf second.subject := by
  obtain ⟨between, hcharacter, hexpression⟩ := hentangled
  show first.character ++ "_" ++ first.expression = second.character ++ "_" ++ second.expression
  rw [hcharacter, hexpression]
  simp only [String.append_assoc]

theorem Entangled.subject_ne (hentangled : Entangled first second) :
    first.subject ≠ second.subject := by
  obtain ⟨between, hcharacter, -⟩ := hentangled
  intro hsame
  have hfirst : first.character = second.character := congrArg Prod.fst hsame
  have hlength := congrArg String.length (hfirst.trans hcharacter)
  have hseparator : "_".length = 1 := rfl
  rw [String.length_append, String.length_append] at hlength
  omega

/-- The character of the second of two entangled records has a `_` in its id. -/
theorem Entangled.separator_mem (hentangled : Entangled first second) :
    '_' ∈ second.character.toList := by
  obtain ⟨between, hcharacter, -⟩ := hentangled
  rw [hcharacter, String.toList_append, String.toList_append]
  exact List.mem_append_left _ (List.mem_append_right _ (List.mem_singleton_self _))

/-- If the character of one record goes on after that of another one where both have one id, then
they are about the same or entangled. -/
theorem subject_eq_or_entangled {more : List Char}
    (hcharacter : second.character.toList = first.character.toList ++ more)
    (hexpression : '_' :: first.expression.toList = more ++ '_' :: second.expression.toList) :
    first.subject = second.subject ∨ Entangled first second := by
  cases more with
  | nil =>
      rw [List.append_nil] at hcharacter
      exact Or.inl (Prod.ext (String.toList_inj.mp hcharacter.symm)
        (String.toList_inj.mp (List.cons.inj hexpression).2))
  | cons separator between =>
      obtain ⟨rfl, hrest⟩ := List.cons.inj hexpression
      refine Or.inr ⟨String.ofList between, ?_, ?_⟩ <;> apply String.toList_inj.mp
      · simpa using hcharacter
      · simpa using hrest

/-- Records have one id if they are about the same expression or entangled. -/
theorem idOf_eq_iff : idOf first.subject = idOf second.subject ↔
    first.subject = second.subject ∨ Entangled first second ∨ Entangled second first := by
  constructor
  · intro heq
    have hchars := congrArg String.toList heq
    rw [toList_idOf, toList_idOf] at hchars
    -- one of the characters is at least as long as the other one
    rcases List.append_eq_append_iff.mp hchars with
      ⟨more, hcharacter, hexpression⟩ | ⟨more, hcharacter, hexpression⟩
    · exact (subject_eq_or_entangled hcharacter hexpression).imp_right Or.inl
    · exact (subject_eq_or_entangled hcharacter hexpression).imp Eq.symm Or.inr
  · rintro (hsame | hentangled | hentangled)
    · rw [hsame]
    · exact hentangled.idOf_eq
    · exact hentangled.idOf_eq.symm

/-- Expressions can be told by the ids if no two records are entangled. -/
theorem idOf_injective_iff :
    (∀ first ∈ records, ∀ second ∈ records,
        idOf first.subject = idOf second.subject → first.subject = second.subject) ↔
      ∀ first ∈ records, ∀ second ∈ records, ¬ Entangled first second := by
  constructor
  · intro hinjective first hfirst second hsecond hentangled
    exact hentangled.subject_ne (hinjective first hfirst second hsecond hentangled.idOf_eq)
  · intro hnone first hfirst second hsecond hsame
    rcases idOf_eq_iff.mp hsame with hsubject | hentangled | hentangled
    · exact hsubject
    · exact absurd hentangled (hnone first hfirst second hsecond)
    · exact absurd hentangled (hnone second hsecond first hfirst)

/-! ## Keeping -/

theorem ofCharacter_value (record : ExpressionRecord) :
    DocumentId.ofCharacter record.value = .ok (idOf record.subject) :=
  DocumentId.ofCharacter_of_ids record.character_eq record.expression_eq

/-- Of records that are stored one after the other, the last ones under each id are there. -/
theorem ofPairs_perm_map (records : List ExpressionRecord) :
    (OrderedMap.ofPairs (records.map document)).Perm
      ((OrderedMap.lastBy (fun record => idOf record.subject) records).map document) := by
  have hpairs := OrderedMap.ofPairs_perm (records.map document)
  rwa [OrderedMap.lastBy_map] at hpairs

theorem identified_ofPairs (records : List ExpressionRecord) :
    Store.Identified (OrderedMap.ofPairs (records.map document)) := by
  have hall : ∀ kept ∈ OrderedMap.ofPairs (records.map document),
      ∃ record : ExpressionRecord, record.document = kept := by
    intro kept hmem
    obtain ⟨record, -, hkept⟩ := List.mem_map.mp (OrderedMap.mem_of_mem_ofPairs hmem)
    exact ⟨record, hkept⟩
  refine ⟨?_, ?_, OrderedMap.nodup_keys_ofPairs _⟩
  · intro kept hmem
    obtain ⟨record, rfl⟩ := hall kept hmem
    exact record.isKey
  · intro kept hmem
    obtain ⟨record, rfl⟩ := hall kept hmem
    exact record.short

end ExpressionRecord

namespace Store

open ExpressionRecord OrderedMap

variable {store : Store} {root : Path} {place : Location} {tenant : String}

/-- Of the records under each id the last one is kept, and is read again. -/
theorem gives_characters_of_saved (hready : store.Ready root place)
    (htenant : Key.isKey tenant = true) (hshort : tenant.length ≤ FileTree.nameLimit)
    (hvacant : Vacant store.files place tenant "characters") (records : List ExpressionRecord) :
    ∃ (files : FileTree) (ordered : List ExpressionRecord),
      Gives (saveCharacters (.str tenant) (.arr (records.map value))) store ()
          { store with files } ∧
        Gives (characters (.str tenant)) { store with files } (ordered.map value)
          { store with files } ∧
        ordered.Perm (lastBy (fun record => idOf record.subject) records) := by
  have hids : ∀ kept ∈ records.map document, DocumentId.ofCharacter kept.2 = .ok kept.1 :=
    List.forall_mem_map.mpr fun record _ => record.ofCharacter_value
  have hstores : ∀ kept ∈ records.map document, Json.Room.stores kept.2 = true :=
    List.forall_mem_map.mpr fun record _ => record.stores
  obtain ⟨added, files, hsave, hgrows, -, hholds⟩ := gives_keep_last hready htenant hshort
    isFileName_characters hvacant hids (identified_ofPairs records) hstores
  have hlast := hholds.perm (ofPairs_perm_map records)
  obtain ⟨ordered, hperm, hread⟩ := @Holds.gives_documents { store with files } _ _ _ _ _ _ document
    _ hlast (hready.grows hgrows) htenant hshort isFileName_characters
    ((identified_ofPairs records).perm (ofPairs_perm_map records)) (fun record _ => record.exact)
    fun record _ => record.shallow
  have hvalues : (records.map document).map Prod.snd = records.map value := List.map_map ..
  rw [hvalues] at hsave
  exact ⟨files, ordered, hsave, hread, hperm⟩

/-- Of the records about each expression the last one is kept, exactly if no two records are
entangled; so different records are all kept then, and only then. -/
theorem gives_characters_iff (hready : store.Ready root place)
    (htenant : Key.isKey tenant = true) (hshort : tenant.length ≤ FileTree.nameLimit)
    (hvacant : Vacant store.files place tenant "characters") (records : List ExpressionRecord) :
    ∃ left reply,
      Gives (saveCharacters (.str tenant) (.arr (records.map value))) store () left ∧
        Gives (characters (.str tenant)) left reply left ∧
        reply.Perm ((lastBy (fun record => idOf record.subject) records).map value) ∧
        (reply.Perm ((lastBy subject records).map value) ↔
          ∀ first ∈ records, ∀ second ∈ records, ¬ Entangled first second) ∧
        ((records.map subject).Nodup → (reply.Perm (records.map value) ↔
          ∀ first ∈ records, ∀ second ∈ records, ¬ Entangled first second)) := by
  obtain ⟨files, ordered, hsave, hread, hperm⟩ :=
    gives_characters_of_saved hready htenant hshort hvacant records
  have hreply := hperm.map value
  have hiff : (ordered.map value).Perm ((lastBy subject records).map value) ↔
      ∀ first ∈ records, ∀ second ∈ records, ¬ Entangled first second := by
    rw [hreply.congr_left, List.map_perm_map_iff value_injective,
      lastBy_perm_iff subject idOf records, idOf_injective_iff]
  refine ⟨_, _, hsave, hread, hreply, hiff, fun hdistinct => ?_⟩
  rwa [(lastBy_eq_self_iff subject records).mpr hdistinct] at hiff

end Store

end

namespace Store

open ExpressionRecord OrderedMap

/-- A smile of Mika in summer. -/
def summerSmile : ExpressionRecord where
  fields := [("characterId", .str "mika_summer"), ("characterName", .str "Mika"),
    ("expressionId", .str "smile"), ("imageUrl", .str "one")]
  character := "mika_summer"
  expression := "smile"
  character_eq := rfl
  expression_eq := rfl
  isKey := by decide
  short := by decide
  exact := Json.isExact_of_isPlain (by decide +kernel)
  stores := by decide
  shallow := by decide

/-- A smile in summer of Mika. -/
def smileInSummer : ExpressionRecord where
  fields := [("characterId", .str "mika"), ("characterName", .str "Mika"),
    ("expressionId", .str "summer_smile"), ("imageUrl", .str "two")]
  character := "mika"
  expression := "summer_smile"
  character_eq := rfl
  expression_eq := rfl
  isKey := by decide
  short := by decide
  exact := Json.isExact_of_isPlain (by decide +kernel)
  stores := by decide
  shallow := by decide

/-- Ren frowns. -/
def frown : ExpressionRecord where
  fields := [("characterId", .str "ren"), ("expressionId", .str "frown")]
  character := "ren"
  expression := "frown"
  character_eq := rfl
  expression_eq := rfl
  isKey := by decide
  short := by decide
  exact := Json.isExact_of_isPlain (by decide +kernel)
  stores := by decide
  shallow := by decide

/-- Of two records of different expressions one is lost. -/
theorem summerSmile_lost :
    summerSmile.subject ≠ smileInSummer.subject ∧ ∃ left,
      Gives (saveCharacters (.str "demo") (.arr [summerSmile.value, smileInSummer.value]))
          (newWith []) () left ∧
        Gives (characters (.str "demo")) left [smileInSummer.value] left := by
  refine ⟨by decide, ?_⟩
  obtain ⟨files, ordered, hsave, hread, hperm⟩ := gives_characters_of_saved (ready_newWith [])
    (by decide) (by decide) (vacant_newWith "demo" _) [summerSmile, smileInSummer]
  have hlast : lastBy (fun record => idOf record.subject) [summerSmile, smileInSummer] =
      [smileInSummer] := by
    rw [lastBy_cons, if_neg (by decide +kernel)]
    rfl
  rw [hlast, List.perm_singleton] at hperm
  subst hperm
  exact ⟨_, hsave, hread⟩

/-- Records of two characters without `_` are both kept. -/
theorem gives_characters_of_two :
    ∃ left reply,
      Gives (saveCharacters (.str "demo") (.arr ([smileInSummer, frown].map value)))
          (newWith []) () left ∧
        Gives (characters (.str "demo")) left reply left ∧
        reply.Perm ([smileInSummer, frown].map value) := by
  obtain ⟨left, reply, hsave, hread, -, -, hall⟩ := gives_characters_iff (ready_newWith [])
    (by decide) (by decide) (vacant_newWith "demo" _) [smileInSummer, frown]
  refine ⟨left, reply, hsave, hread, (hall (by decide)).mpr ?_⟩
  intro first _ second hsecond hentangled
  have hplain : ∀ record ∈ [smileInSummer, frown], '_' ∉ record.character.toList := by decide
  exact hplain second hsecond hentangled.separator_mem

end Store

end VisualNovel
