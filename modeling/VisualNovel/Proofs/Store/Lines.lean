import VisualNovel.Proofs.Record.Reading
import VisualNovel.Proofs.Store.Accepted
import VisualNovel.Script.Command

/-!
# Script lines with one number

A script line is kept under its number.  The number may be missing, it may be a text, and a script
may have a number twice, for the lines of one number are played in the order in which they come.
But of the lines under one id only the last one is kept.  A script that is imported is counted line
by line nevertheless.

`gives_scenario_of_imported` says that an imported script is kept as it was given, up to the order
of the lines, exactly if no two of its lines have the same id.  For lines with whole numbers, or
without a number, this means that no number comes twice (`DocumentId.nodup_ofLine_iff`).
-/

namespace VisualNovel

open OrderedMap

namespace DocumentId

/-- Is this the number of a script line?  A line without a number has number zero. -/
def HasNumber (line : Json) (number : Int) : Prop :=
  ∃ fields, line = .obj fields ∧ (OrderedMap.at? "order" fields).getD (.int 0) = .int number

theorem HasNumber.ofLine_eq {line : Json} {number : Int} (hnumber : HasNumber line number) :
    ofLine line = .ok (ofOrder (.int number)) := by
  obtain ⟨fields, rfl, horder⟩ := hnumber
  rw [ofLine, horder]

theorem nodup_ofLine_iff {lines : List Json} {numbers : List Int}
    (hnumbers : List.Forall₂ HasNumber lines numbers) :
    (lines.map ofLine).Nodup ↔ numbers.Nodup := by
  have hids : lines.map ofLine =
      numbers.map fun number => (.ok (ofOrder (.int number)) : Except StoreFault String) := by
    induction hnumbers with
    | nil => rfl
    | cons hfirst _ ih => rw [List.map_cons, List.map_cons, hfirst.ofLine_eq, ih]
  rw [hids]
  exact List.nodup_map_iff fun first second heq => ofOrder_injective (Except.ok.inj heq)

end DocumentId

/-- A script in another order has the same commands, in some order. -/
theorem Command.script_perm {lines others : List Json} {commands : List Command}
    (hperm : others.Perm lines) (hscript : Command.script (.arr lines) = .ok commands) :
    ∃ rearranged, Command.script (.arr others) = .ok rearranged ∧ rearranged.Perm commands := by
  rw [Command.script] at hscript
  cases hread : Command.read.collection "Command" (.arr lines) with
  | error fault =>
      rw [hread] at hscript
      cases hscript
  | ok results =>
      rw [hread] at hscript
      cases hscript
      obtain ⟨permuted, hpermuted, hresults⟩ := Reader.collection_perm hperm hread
      refine ⟨Command.sorted permuted, ?_, ?_⟩
      · rw [Command.script, hpermuted]
        rfl
      · exact (List.mergeSort_perm _ _).trans (hresults.trans (List.mergeSort_perm _ _).symm)

namespace Store

variable {store left : Store} {root : Path} {place : Location} {tenant : String}
  {lines : List Json} {count : Nat}

theorem of_gives_importScenario [Json.Room] {tenant : Json}
    (hgives : Gives (importScenario tenant (.arr lines)) store count left) :
    count = lines.length ∧ Gives (saveScenario tenant (.arr lines)) store () left := by
  rw [importScenario] at hgives
  obtain ⟨_, _, helements, hthen⟩ := hgives.of_bind
  cases helements
  obtain ⟨_, _, hsave, hlast⟩ := hthen.of_bind
  cases hlast
  exact ⟨rfl, hsave⟩

/-- Of the lines under each id the last one is kept, and all that are kept are read if there is room
for them.  So an imported script is kept as it was given, up to the order of the lines, exactly if
no two of its lines have the same id; for lines with whole numbers, exactly if no two have the same
number. -/
theorem gives_scenario_of_imported [Json.Room] (hready : store.Ready root place)
    (hvacant : Vacant store.files place tenant "scenario")
    (hexact : ∀ line ∈ lines, Json.IsExact line)
    (himported : Gives (importScenario (.str tenant) (.arr lines)) store count left) :
    count = lines.length ∧ ∃ kept : List Json,
      result (scenario (.str tenant)) left = (kept.mapM (reread .collection), left) ∧
      ((∀ line ∈ kept, line.nesting ≤ Json.Room.depth .collection) →
        Gives (scenario (.str tenant)) left kept left) ∧
      kept.Perm (lastBy DocumentId.ofLine lines) ∧
      (kept.Perm lines ↔ (lines.map DocumentId.ofLine).Nodup) ∧
      (kept.length = count ↔ (lines.map DocumentId.ofLine).Nodup) ∧
      (∀ numbers, List.Forall₂ DocumentId.HasNumber lines numbers →
        (kept.Perm lines ↔ numbers.Nodup)) ∧
      ((lines.map DocumentId.ofLine).Nodup →
        ∀ commands, Command.script (.arr lines) = .ok commands → ∃ rearranged,
          Command.script (.arr kept) = .ok rearranged ∧ rearranged.Perm commands) := by
  obtain ⟨hcount, hsave⟩ := of_gives_importScenario himported
  obtain ⟨kept, hread, hkept⟩ :=
    hvacant.result_documents_last hready isFileName_scenario hexact hsave
  have hlength : kept.length = lines.length ↔ (lines.map DocumentId.ofLine).Nodup := by
    rw [hkept.length_eq, length_lastBy_eq_iff]
  have hperm : kept.Perm lines ↔ (lines.map DocumentId.ofLine).Nodup := by
    refine ⟨fun hperm => hlength.mp hperm.length_eq, fun hnodup => ?_⟩
    rwa [(lastBy_eq_self_iff _ _).mpr hnodup] at hkept
  refine ⟨hcount, kept, hread, fun hshallow => ?_, hkept, hperm, hcount ▸ hlength,
    fun numbers hnumbers => ?_,
    fun hnodup commands hscript => Command.script_perm (hperm.mpr hnodup) hscript⟩
  · exact hread.trans (by rw [mapM_reread_of_nesting_le hshallow])
  · rw [hperm, DocumentId.nodup_ofLine_iff hnumbers]

theorem gives_importScenario [Json.Room] {documents : List (String × Json)}
    (hready : store.Ready root place) (htenant : Key.isKey tenant = true)
    (hshort : tenant.length ≤ FileTree.nameLimit)
    (hvacant : Vacant store.files place tenant "scenario")
    (hids : ∀ document ∈ documents, DocumentId.ofLine document.2 = .ok document.1)
    (hidentified : Identified (ofPairs documents))
    (hstores : ∀ document ∈ documents, Json.Room.stores document.2 = true) :
    ∃ left, Gives (importScenario (.str tenant) (.arr (documents.map Prod.snd))) store
      documents.length left := by
  obtain ⟨_, files, hkeep, -⟩ := gives_keep_last hready htenant hshort isFileName_scenario hvacant
    hids hidentified hstores
  have hsave : Gives (saveScenario (.str tenant) (.arr (documents.map Prod.snd))) store ()
    { store with files } := hkeep
  have hcount : Gives (importScenario (.str tenant) (.arr (documents.map Prod.snd))) store
      (documents.map Prod.snd).length { store with files } :=
    (gives_elements rfl).bind (hsave.bind (gives_pure _ _))
  rw [List.length_map] at hcount
  exact ⟨_, hcount⟩

/-! ## Lines without a number -/

/-- A line that somebody says, without a number. -/
def unnumbered (words : String) : Json :=
  .obj [("command", .str "text"), ("param1", .str "narrator"), ("param2", .str words)]

/-- A line that the narrator says, with a number. -/
def numbered (order : Json) : Json :=
  .obj [("order", order), ("command", .str "text"), ("param1", .str "narrator")]

/-- Two lines without a number are imported, and only the second one is kept. -/
theorem unnumbered_lost : ∃ left,
    Gives (importScenario (.str "demo") (.arr [unnumbered "One", unnumbered "Two"])) (newWith []) 2
        left ∧
      Gives (scenario (.str "demo")) left [unnumbered "Two"] left := by
  obtain ⟨left, himported⟩ := @gives_importScenario (newWith []) _ _ "demo" _
    [("00000", unnumbered "One"), ("00000", unnumbered "Two")] (ready_newWith []) (by decide)
    (by decide) (vacant_newWith "demo" _) (by decide +kernel) ⟨by decide, by decide, by decide⟩
    (by decide)
  have hexact : ∀ line ∈ [unnumbered "One", unnumbered "Two"], Json.IsExact line :=
    fun line hmem => Json.isExact_of_isPlain (by revert line; decide +kernel)
  obtain ⟨kept, hread, hkept⟩ := (vacant_newWith "demo" "scenario").result_documents_last
    (ready_newWith []) isFileName_scenario hexact (of_gives_importScenario himported).2
  have hlast : lastBy DocumentId.ofLine [unnumbered "One", unnumbered "Two"] =
      [unnumbered "Two"] := by decide +kernel
  rw [hlast, List.perm_singleton] at hkept
  rw [hkept, mapM_reread_of_nesting_le (by decide)] at hread
  exact ⟨left, himported, hread⟩

/-- Lines with a number, a text as a number, nothing at all and no number are all kept. -/
theorem gives_scenario_of_four : ∃ left reply,
    Gives (importScenario (.str "demo") (.arr [numbered (.int 7), unnumbered "One",
        numbered .null, numbered (.str "12")])) (newWith []) 4 left ∧
      Gives (scenario (.str "demo")) left reply left ∧
      reply.Perm [numbered (.int 7), unnumbered "One", numbered .null, numbered (.str "12")] := by
  obtain ⟨left, himported⟩ := @gives_importScenario (newWith []) _ _ "demo" _
    [("00007", numbered (.int 7)), ("00000", unnumbered "One"), ("0None", numbered .null),
      ("00012", numbered (.str "12"))] (ready_newWith []) (by decide) (by decide)
    (vacant_newWith "demo" _) (by decide +kernel) ⟨by decide, by decide, by decide⟩ (by decide)
  have hexact : ∀ line ∈ [numbered (.int 7), unnumbered "One", numbered .null,
      numbered (.str "12")], Json.IsExact line :=
    fun line hmem => Json.isExact_of_isPlain (by revert line; decide +kernel)
  obtain ⟨-, kept, -, hread, -, hall, -⟩ := gives_scenario_of_imported (ready_newWith [])
    (vacant_newWith "demo" _) hexact himported
  have hkept := hall.mpr (by decide +kernel)
  have hshallow : ∀ line ∈ [numbered (.int 7), unnumbered "One", numbered .null,
      numbered (.str "12")], line.nesting ≤ Json.Room.depth .collection := by decide
  exact ⟨left, kept, himported, hread fun line hmem => hshallow line (hkept.mem_iff.mp hmem),
    hkept⟩

end Store

end VisualNovel
