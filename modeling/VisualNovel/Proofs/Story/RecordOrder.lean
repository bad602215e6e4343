import VisualNovel.Gateway.Scripted
import VisualNovel.Proofs.Cast.Tells
import VisualNovel.Proofs.Client.Gateways
import VisualNovel.Proofs.Record.Reading
import VisualNovel.Proofs.Sorting
import VisualNovel.Proofs.Story.Simulation

/-!
# Records in any order

A backend may list the script lines and the character records in any order.  Nothing that happens
in a story depends on it, if no two lines have one number, no two records are about the same
expression, and the records of a character agree on the name.

The script that is loaded is the same then, for numbers that are different are sorted in one way
only.  The cast need not be the same: its characters come in another order.  But it tells the same,
and a session asks it for nothing but names and pictures (`simulation_sameTold`).
-/

namespace VisualNovel

/-! ## Sessions whose casts tell the same -/

/-- Are two sessions the same, except that their casts only tell the same? -/
structure Session.SameTold (first second : Session) : Prop where
  player_eq : first.player = second.player
  line_eq : first.line = second.line
  stage_eq : first.stage = second.stage
  commands_eq : first.catalog.commands = second.catalog.commands
  cast : Cast.TellsSame first.catalog.characters second.catalog.characters

namespace Session

variable {first second : Session} {resolver : Resolver}

theorem SameTold.portraitAddress_eq (hsame : SameTold first second) (resolver : Resolver)
    (character expression : String) :
    first.catalog.portraitAddress resolver character expression =
      second.catalog.portraitAddress resolver character expression :=
  hsame.cast.portraitAddress_eq _ _ resolver character expression

theorem SameTold.speakerName_eq (hsame : SameTold first second) (speaker : String) :
    first.speakerName speaker = second.speakerName speaker := by
  have hname : (OrderedMap.at? speaker first.catalog.characters).map Character.name =
      (OrderedMap.at? speaker second.catalog.characters).map Character.name :=
    hsame.cast.name?_eq speaker
  simp only [speakerName, hname, hsame.player_eq]

theorem SameTold.dialogue_eq (hsame : SameTold first second) (speaker text : String) :
    first.dialogue speaker text = second.dialogue speaker text := by
  simp only [dialogue, hsame.speakerName_eq speaker, hsame.player_eq, hsame.stage_eq]

theorem SameTold.withStage (hsame : SameTold first second) (stage : Stage) :
    SameTold { first with stage := stage } { second with stage := stage } :=
  ⟨hsame.player_eq, hsame.line_eq, rfl, hsame.commands_eq, hsame.cast⟩

theorem SameTold.execute (hsame : SameTold first second) (line : Int) (command : Command) :
    SameTold (first.execute resolver line command).1 (second.execute resolver line command).1 ∧
      (first.execute resolver line command).2 = (second.execute resolver line command).2 := by
  have hstage := Stage.follow_congr (hsame.portraitAddress_eq resolver) first.stage
    command.instruction
  rw [hsame.stage_eq] at hstage
  unfold Session.execute
  cases hinstruction : command.instruction with
  | say speaker text => exact ⟨hsame, by simp only [hsame.dialogue_eq]⟩
  | showImage image => exact ⟨hsame, rfl⟩
  | hideImage => exact ⟨hsame, rfl⟩
  | unknown => exact ⟨hsame, rfl⟩
  | _ =>
      rw [hinstruction] at hstage
      simp only [hsame.stage_eq, hstage, and_true]
      exact hsame.withStage _

/-- No call tells casts apart that tell the same. -/
theorem simulation_sameTold (resolver : Resolver) : Simulation resolver SameTold Eq where
  line_eq := SameTold.line_eq
  commands_eq := SameTold.commands_eq
  moved := fun hsame line =>
    ⟨hsame.player_eq, rfl, hsame.stage_eq, hsame.commands_eq, hsame.cast⟩
  executed := SameTold.execute
  restaged := by
    intro first second hsame commands
    rw [Stage.applyAll_congr (hsame.portraitAddress_eq resolver)]
    exact ⟨hsame.withStage _, rfl⟩
  refl := fun _ => rfl
  append := by
    rintro report _ more _ rfl rfl
    rfl

end Session

/-- New stories are alike if their scripts are the same and their casts tell the same. -/
theorem Interpreter.alike_idle (resolver : Resolver) (tenant player : String) (line : Int)
    {catalog other : Catalog} (hcommands : catalog.commands = other.commands)
    (hcast : Cast.TellsSame catalog.characters other.characters) :
    Alike Session.SameTold (idle resolver { tenant, player, line, catalog })
      (idle resolver { tenant, player, line, catalog := other }) :=
  ⟨rfl, rfl, ⟨rfl, rfl, rfl, hcommands, hcast⟩⟩

/-! ## Records that are accepted -/

namespace Reader

variable {α κ : Type} {read : Reader α} {records permuted : List Json}

/-- What the records are read as; those that are refused are left out. -/
def results (read : Reader α) (records : List Json) : List α :=
  records.filterMap fun record => (read record).accepted?

theorem collection_of_isSome (kind : String)
    (hvalid : ∀ record ∈ records, (read record).accepted?.isSome) :
    read.collection kind (.arr records) = .ok (read.results records) := by
  have hrequire : records.mapM (fun record => (read record).require kind) =
      .ok (read.results records) := by
    induction records with
    | nil => rfl
    | cons record rest ih =>
        have hrest := ih fun other hother => hvalid other (List.mem_cons_of_mem _ hother)
        have hsome := hvalid record (List.mem_cons_self ..)
        cases hread : read record with
        | refused faults =>
            rw [hread] at hsome
            cases hsome
        | accepted result =>
            have hresults : read.results (record :: rest) = result :: read.results rest :=
              List.filterMap_cons_some (by rw [hread]; rfl)
            rw [List.mapM_cons, hread, hrest, hresults]
            rfl
  show (records.mapM fun record => (read record).require kind).mapError _ = _
  rw [hrequire]
  rfl

/-- Keys that are different for all records are different for all results. -/
theorem nodup_results (key : α → κ)
    (hdistinct : (records.map fun record => (read record).accepted?.map key).Nodup) :
    ((read.results records).map key).Nodup := by
  have hkeys : (read.results records).map key =
      (records.map fun record => (read record).accepted?.map key).filterMap id := by
    rw [results, List.map_filterMap, List.filterMap_map]
    rfl
  rw [hkeys]
  refine hdistinct.filterMap ?_
  intro first second found hfirst hsecond
  exact hfirst.trans hsecond.symm

end Reader

/-! ## Loading -/

/-- What a record is about: an expression of a character. -/
def CharacterRecord.subject (record : CharacterRecord) : String × String :=
  (record.character, record.expression)

/-- Does the gateway reply with these script lines and with these character records? -/
def Gateway.Offers {σ : Type} (gateway : Gateway σ) (world : σ) (tenant scenario : String)
    (lines records : List Json) : Prop :=
  ∃ between left script cast,
    (gateway.call "getScenario"
        (.obj [("tenantId", .str tenant), ("scenarioName", .str scenario)])).run world =
      (.ok (.obj script), between) ∧
    OrderedMap.at? "scenario" script = some (.arr lines) ∧
    (gateway.call "getCharacters" (.obj [("tenantId", .str tenant)])).run between =
      (.ok (.obj cast), left) ∧
    OrderedMap.at? "characters" cast = some (.arr records)

variable {σ τ : Type} {gateway : Gateway σ} {other : Gateway τ} {world : σ} {world' : τ}
  {tenant scenario : String} {lines permutedLines records permutedRecords : List Json}

/-- Replies with records that are accepted make a catalog. -/
theorem loadCatalog_of_offers (hoffers : gateway.Offers world tenant scenario lines records)
    (hlines : ∀ line ∈ lines, (Command.read line).accepted?.isSome)
    (hrecords : ∀ record ∈ records, (CharacterRecord.read record).accepted?.isSome) :
    ∃ left, (loadCatalog gateway tenant scenario).run world =
      (.ok ⟨Command.sorted (Command.read.results lines),
        Cast.ofRecords (CharacterRecord.read.results records)⟩, left) := by
  obtain ⟨between, left, script, cast, hscript, hscenario, hcast, hcharacters⟩ := hoffers
  have hcommands : Command.script (.arr lines) =
      .ok (Command.sorted (Command.read.results lines)) := by
    rw [Command.script, Reader.collection_of_isSome "Command" hlines]
    rfl
  have hentries : Cast.ofCollection (.arr records) =
      .ok (Cast.ofRecords (CharacterRecord.read.results records)) := by
    rw [Cast.ofCollection, Reader.collection_of_isSome "CharacterRecord" hrecords]
    rfl
  have hcatalog : catalogOfReplies (.obj script) (.obj cast) =
      .ok ⟨Command.sorted (Command.read.results lines),
        Cast.ofRecords (CharacterRecord.read.results records)⟩ := by
    simp only [catalogOfReplies, replyField, hscenario, hcharacters, Option.getD_some, hcommands,
      hentries, Except.mapError, bind, Except.bind, pure, Except.pure]
  refine ⟨left, ?_⟩
  rw [loadCatalog_of_calls hscript hcast, ← hcatalog]
  rfl

/-- **A story does not depend on the order of the records.**  Two gateways reply with the same
script lines and character records, each in an order of its own.  What is loaded from both is
played in the same way, by whomever, from whichever line, and by whatever calls. -/
theorem calls_eq_of_perm_records
    (hoffers : gateway.Offers world tenant scenario lines records)
    (hoffers' : other.Offers world' tenant scenario permutedLines permutedRecords)
    (hlines : lines.Perm permutedLines) (hrecords : records.Perm permutedRecords)
    (hlinesValid : ∀ line ∈ lines, (Command.read line).accepted?.isSome)
    (hrecordsValid : ∀ record ∈ records, (CharacterRecord.read record).accepted?.isSome)
    (horders :
      (lines.map fun line => (Command.read line).accepted?.map Command.order).Nodup)
    (hsubjects : (records.map fun record =>
      (CharacterRecord.read record).accepted?.map CharacterRecord.subject).Nodup)
    (hnames : ∀ first ∈ CharacterRecord.read.results records,
      ∀ second ∈ CharacterRecord.read.results records,
        first.character = second.character → first.name = second.name) :
    ∃ catalog permuted left left',
      (loadCatalog gateway tenant scenario).run world = (.ok catalog, left) ∧
      (loadCatalog other tenant scenario).run world' = (.ok permuted, left') ∧
      ∀ (resolver : Resolver) (player : String) (line : Int) (history : List Call),
        let story := (Interpreter.idle resolver { tenant, player, line, catalog }).calls history
        let twin :=
          (Interpreter.idle resolver { tenant, player, line, catalog := permuted }).calls history
        story.2 = twin.2 ∧ story.1.session.line = twin.1.session.line ∧
          story.1.phase = twin.1.phase ∧ story.1.session.stage = twin.1.session.stage := by
  obtain ⟨left, hload⟩ := loadCatalog_of_offers hoffers hlinesValid hrecordsValid
  obtain ⟨left', hload'⟩ := loadCatalog_of_offers hoffers'
    (fun line hmem => hlinesValid line (hlines.mem_iff.mpr hmem))
    (fun record hmem => hrecordsValid record (hrecords.mem_iff.mpr hmem))
  have hscript : Command.sorted (Command.read.results lines) =
      Command.sorted (Command.read.results permutedLines) :=
    sorted_by_eq_of_perm Command.order (hlines.filterMap _)
      (Reader.nodup_results Command.order horders)
  have hdistinct := Reader.nodup_results CharacterRecord.subject hsubjects
  have hcast : Cast.TellsSame (Cast.ofRecords (CharacterRecord.read.results records))
      (Cast.ofRecords (CharacterRecord.read.results permutedRecords)) := by
    refine Cast.tellsSame_of_perm (hrecords.filterMap _) hnames ?_
    intro first hfirst second hsecond hcharacter hexpression
    rw [List.inj_on_of_nodup_map hdistinct hfirst hsecond (Prod.ext hcharacter hexpression)]
  refine ⟨_, _, left, left', hload, hload', ?_⟩
  intro resolver player line history
  have halike := @Interpreter.alike_idle resolver tenant player line ⟨_, _⟩ ⟨_, _⟩ hscript hcast
  obtain ⟨hlast, hreports⟩ := halike.calls (Session.simulation_sameTold resolver) history
  rw [List.forall₂_eq_eq_eq] at hreports
  exact ⟨hreports, hlast.session.line_eq, hlast.phase_eq, hlast.session.stage_eq⟩

/-- The replies to the two calls, with these records. -/
def Rehearsal.offering (lines records : List Json) : Rehearsal :=
  { replies := [("getScenario", [.ok (.obj [("scenario", .arr lines)])]),
      ("getCharacters", [.ok (.obj [("characters", .arr records)])])] }

theorem Rehearsal.offers_offering (tenant scenario : String) (lines records : List Json) :
    Gateway.Offers Rehearsal.gateway (offering lines records) tenant scenario lines records :=
  ⟨_, _, _, _, rfl, rfl, rfl, rfl⟩

/-- Two lines, of which the second one comes first, and two expressions of one character. -/
theorem calls_eq_of_perm_records_samples :
    ∃ catalog permuted left left',
      (loadCatalog Rehearsal.gateway "shop" "main").run
          (Rehearsal.offering
            [.obj [("order", .int 2), ("command", .str "text"), ("param1", .str "mika")],
              .obj [("order", .str "1"), ("command", .str "char_show"), ("param1", .str "mika")]]
            [.obj [("characterId", .str "mika"), ("expressionId", .str "smile")],
              .obj [("characterId", .str "mika"), ("expressionId", .str "angry")]]) =
        (.ok catalog, left) ∧
      (loadCatalog Rehearsal.gateway "shop" "main").run
          (Rehearsal.offering
            [.obj [("order", .str "1"), ("command", .str "char_show"), ("param1", .str "mika")],
              .obj [("order", .int 2), ("command", .str "text"), ("param1", .str "mika")]]
            [.obj [("characterId", .str "mika"), ("expressionId", .str "angry")],
              .obj [("characterId", .str "mika"), ("expressionId", .str "smile")]]) =
        (.ok permuted, left') ∧
      ∀ (resolver : Resolver) (player : String) (line : Int) (history : List Call),
        let story :=
          (Interpreter.idle resolver { tenant := "shop", player, line, catalog }).calls history
        let twin := (Interpreter.idle resolver
          { tenant := "shop", player, line, catalog := permuted }).calls history
        story.2 = twin.2 ∧ story.1.session.line = twin.1.session.line ∧
          story.1.phase = twin.1.phase ∧ story.1.session.stage = twin.1.session.stage := by
  refine calls_eq_of_perm_records (Rehearsal.offers_offering ..) (Rehearsal.offers_offering ..)
    (List.Perm.swap ..) (List.Perm.swap ..) ?_ ?_ ?_ ?_ ?_ <;> decide +kernel

end VisualNovel
