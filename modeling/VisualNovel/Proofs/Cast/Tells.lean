import Mathlib.Data.List.Induction
import VisualNovel.Catalog
import VisualNovel.Proofs.OrderedMap

/-!
# What the cast tells

All that is ever asked of a cast is the name of a character and the image of an expression.
The name is that of the first record of the character, and the image is that of the last record
of the expression.

So the order of the records matters only where two records disagree.  Records that agree on the
names, and of which no two are about the same expression, make casts that tell the same, in
whatever order they come (`tellsSame_of_perm`); only the order of the characters may differ.
-/

namespace VisualNovel

namespace Cast

variable {cast other : Cast} {records : List CharacterRecord} {record : CharacterRecord}

/-- The name of a character. -/
def name? (cast : Cast) (character : String) : Option String :=
  (OrderedMap.at? character cast).map Character.name

/-- The image that is noted for an expression of a character, which may be an empty text. -/
def noted? (cast : Cast) (character expression : String) : Option String :=
  (OrderedMap.at? character cast).bind fun known => OrderedMap.at? expression known.expressions

/-- Is this record about this expression of this character? -/
def isAbout (character expression : String) (record : CharacterRecord) : Bool :=
  record.character = character && record.expression = expression

/-! ## One more record -/

theorem at?_add_self (cast : Cast) (record : CharacterRecord) :
    OrderedMap.at? record.character (cast.add record) =
      some { (OrderedMap.at? record.character cast).getD ⟨record.name, []⟩ with
        expressions := OrderedMap.put record.expression record.image
          ((OrderedMap.at? record.character cast).getD ⟨record.name, []⟩).expressions } :=
  OrderedMap.at?_put_self ..

theorem at?_add_of_ne {character : String} (hne : character ≠ record.character) :
    OrderedMap.at? character (cast.add record) = OrderedMap.at? character cast :=
  OrderedMap.at?_put_of_ne hne ..

/-- A record gives its character a name only if it has none yet. -/
theorem name?_add (cast : Cast) (record : CharacterRecord) (character : String) :
    (cast.add record).name? character =
      (cast.name? character).or
        (if record.character = character then some record.name else none) := by
  by_cases hsame : record.character = character
  · subst hsame
    rw [name?, name?, at?_add_self, if_pos rfl]
    cases OrderedMap.at? record.character cast <;> rfl
  · rw [name?, name?, at?_add_of_ne (Ne.symm hsame), if_neg hsame, Option.or_none]

theorem noted?_add (cast : Cast) (record : CharacterRecord) (character expression : String) :
    (cast.add record).noted? character expression =
      if isAbout character expression record then some record.image
      else cast.noted? character expression := by
  by_cases hcharacter : record.character = character
  · subst hcharacter
    rw [noted?, at?_add_self, Option.bind_some]
    by_cases hexpression : record.expression = expression
    · subst hexpression
      rw [isAbout, if_pos (by simp), OrderedMap.at?_put_self]
    · rw [isAbout, if_neg (by simpa using hexpression),
        OrderedMap.at?_put_of_ne (Ne.symm hexpression), noted?]
      cases OrderedMap.at? record.character cast <;> rfl
  · rw [noted?, at?_add_of_ne (Ne.symm hcharacter), isAbout, if_neg (by simp [hcharacter]), noted?]

/-! ## All records -/

theorem ofRecords_append_singleton (records : List CharacterRecord) (record : CharacterRecord) :
    ofRecords (records ++ [record]) = (ofRecords records).add record :=
  List.foldl_append ..

theorem name?_ofRecords (records : List CharacterRecord) (character : String) :
    (ofRecords records).name? character =
      (records.find? fun record => record.character = character).map CharacterRecord.name := by
  induction records using List.reverseRecOn with
  | nil => rfl
  | append_singleton records record ih =>
      rw [ofRecords_append_singleton, name?_add, ih, List.find?_append, List.find?_singleton]
      cases records.find? fun record => record.character = character with
      | some first => rfl
      | none =>
          rw [Option.map_none, Option.none_or, Option.none_or]
          split_ifs <;> simp_all

theorem noted?_ofRecords (records : List CharacterRecord) (character expression : String) :
    (ofRecords records).noted? character expression =
      (records.reverse.find? (isAbout character expression)).map CharacterRecord.image := by
  induction records using List.reverseRecOn with
  | nil => rfl
  | append_singleton records record ih =>
      rw [ofRecords_append_singleton, noted?_add, ih, List.reverse_concat, List.find?_cons]
      cases isAbout character expression record <;> rfl

/-! ## The order of the records -/

/-- What is found in a list, if all that could be found looks the same, does not depend on the
order of the list. -/
theorem map_find?_of_perm {α β : Type} {p : α → Bool} {look : α → β} {first second : List α}
    (hperm : first.Perm second)
    (hsame : ∀ a ∈ first, ∀ b ∈ first, p a = true → p b = true → look a = look b) :
    (first.find? p).map look = (second.find? p).map look := by
  cases hfirst : first.find? p with
  | none =>
      have hsecond : second.find? p = none := by
        rw [List.find?_eq_none] at hfirst ⊢
        intro a hmem
        exact hfirst a (hperm.mem_iff.mpr hmem)
      rw [hsecond]
  | some a =>
      have hpa := List.find?_some hfirst
      have hmem := List.mem_of_find?_eq_some hfirst
      have hsome : (second.find? p).isSome := by
        rw [List.find?_isSome]
        exact ⟨a, hperm.mem_iff.mp hmem, hpa⟩
      obtain ⟨b, hsecond⟩ := Option.isSome_iff_exists.mp hsome
      have hmem' := hperm.mem_iff.mpr (List.mem_of_find?_eq_some hsecond)
      rw [hsecond, Option.map_some, Option.map_some,
        hsame a hmem b hmem' hpa (List.find?_some hsecond)]

/-- Do two casts tell the same? -/
structure TellsSame (cast other : Cast) : Prop where
  name?_eq : ∀ character, cast.name? character = other.name? character
  noted?_eq : ∀ character expression,
    cast.noted? character expression = other.noted? character expression

theorem TellsSame.symm (htells : TellsSame cast other) : TellsSame other cast :=
  ⟨fun character => (htells.name?_eq character).symm,
    fun character expression => (htells.noted?_eq character expression).symm⟩

/-- Records in any order make casts that tell the same, if they agree where two are about the
same character or the same expression. -/
theorem tellsSame_of_perm {permuted : List CharacterRecord} (hperm : records.Perm permuted)
    (hnames : ∀ first ∈ records, ∀ second ∈ records,
      first.character = second.character → first.name = second.name)
    (himages : ∀ first ∈ records, ∀ second ∈ records, first.character = second.character →
      first.expression = second.expression → first.image = second.image) :
    TellsSame (ofRecords records) (ofRecords permuted) := by
  constructor
  · intro character
    rw [name?_ofRecords, name?_ofRecords]
    refine map_find?_of_perm hperm ?_
    intro first hfirst second hsecond hp hp'
    rw [decide_eq_true_eq] at hp hp'
    exact hnames first hfirst second hsecond (hp.trans hp'.symm)
  · intro character expression
    rw [noted?_ofRecords, noted?_ofRecords]
    have hreverse : records.reverse.Perm permuted.reverse :=
      (records.reverse_perm.trans hperm).trans permuted.reverse_perm.symm
    refine map_find?_of_perm hreverse ?_
    intro first hfirst second hsecond hp hp'
    rw [isAbout, Bool.and_eq_true, decide_eq_true_eq, decide_eq_true_eq] at hp hp'
    exact himages first (List.mem_reverse.mp hfirst) second (List.mem_reverse.mp hsecond)
      (hp.1.trans hp'.1.symm) (hp.2.trans hp'.2.symm)

/-! ## Pictures -/

theorem image?_eq (cast : Cast) (character expression : String) :
    cast.image? character expression =
      (cast.noted? character expression).bind fun image =>
        if image = "" then none else some image := by
  rw [image?, noted?, Option.bind_assoc]
  rfl

theorem TellsSame.portraitAddress_eq (htells : TellsSame cast other)
    (commands others : List Command) (resolver : Resolver) (character expression : String) :
    Catalog.portraitAddress ⟨commands, cast⟩ resolver character expression =
      Catalog.portraitAddress ⟨others, other⟩ resolver character expression := by
  rw [Catalog.portraitAddress, Catalog.portraitAddress]
  simp only [image?_eq, htells.noted?_eq]

end Cast

end VisualNovel
