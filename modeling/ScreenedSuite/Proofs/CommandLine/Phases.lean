import ScreenedSuite.CommandLine.Run
import ScreenedSuite.Proofs.AuditLog.Opening

/-! # The phases of a run

What each phase of a run does to a world and what it returns.
-/

namespace ScreenedSuite

open World

variable {region : List String → List String → FileNode → Prop}

/-! ## Settings -/

namespace Settings

theorem homeDirectory?_run (world : World) :
    (homeDirectory? steady).run world = (world.home?, world) := by
  have named : (steady.environment? "HOME").run world =
      (world.environmentValue? "HOME", world) := rfl
  rw [homeDirectory?, run_bind, named, World.home?]
  cases (world.environmentValue? "HOME").filter (!·.isEmpty) with
  | some home => rfl
  | none => rfl

theorem homeDirectory?_within : Within region (homeDirectory? steady) := by
  intro world
  rw [homeDirectory?_run]
  exact .refl world

theorem settingsDirectory?_within : Within region (settingsDirectory? steady) := by
  have inHome : Within region (settingsDirectory?.inHome steady) :=
    homeDirectory?_within.bind fun _ => .pure _
  refine (Within.environment? _).bind fun directory => ?_
  cases directory with
  | none => exact inHome
  | some directory =>
    dsimp only
    split
    · exact .pure _
    · exact inHome

theorem loadFile_within (path : String) : Within region (loadFile steady path) := by
  refine (Within.readFile path).bind fun content => ?_
  cases content with
  | error error => exact .pure _
  | ok content =>
    dsimp only
    split
    · exact .pure _
    · exact .pure _

theorem loadFirst_within {tell : Event → StateM World Unit}
    (telling : ∀ event, Within region (tell event)) (paths : List String) :
    Within region (loadFirst steady tell paths) := by
  induction paths with
  | nil => exact .pure _
  | cons path rest ih =>
    rw [loadFirst]
    refine (Within.pathExists path).bind fun there => ?_
    split
    case isFalse => exact ih
    case isTrue =>
      refine (loadFile_within path).bind fun loaded => ?_
      cases loaded with
      | ok settings => exact (telling _).bind fun _ => .pure _
      | error error => exact (telling _).bind fun _ => ih

theorem loadStandard_within {tell : Event → StateM World Unit}
    (telling : ∀ event, Within region (tell event)) :
    Within region (loadStandard steady tell) := by
  have files : Within region (standardFiles steady) :=
    settingsDirectory?_within.bind fun _ => .pure _
  exact files.bind fun paths => loadFirst_within telling paths

end Settings

/-! ## Telling -/

namespace CommandLine

theorem tellAll_within (filter : LogFilter) (events : List Event) :
    Within region (tellAll steady filter events) := by
  induction events with
  | nil => exact .pure _
  | cons event rest ih =>
    rw [tellAll]
    by_cases admitted : filter.admits event
    · rw [if_pos admitted]
      exact (Within.tell _).bind fun _ => ih
    · rw [if_neg admitted]
      exact ih

theorem tellOne_within (filter : LogFilter) (event : Event) :
    Within region (tellOne steady filter event) :=
  tellAll_within filter [event]

theorem loadSettings_within (filter : LogFilter) (path : Option String) :
    Within region (loadSettings steady filter path) := by
  cases path with
  | none =>
    exact (Settings.loadStandard_within (tellOne_within filter)).bind fun _ => .pure _
  | some path =>
    refine (Settings.loadFile_within path).bind fun loaded => ?_
    split
    · exact .pure _
    · exact .pure _

theorem loadFirst_steady (tell : Event → StateM World Unit) (paths : List String) :
    Settings.loadFirst steady tell paths = Settings.loadFirst host tell paths := by
  induction paths with
  | nil => rfl
  | cons path rest ih =>
    rw [Settings.loadFirst, Settings.loadFirst, ih]
    rfl

/-- Settings are loaded without the two services that are kept from outages. -/
theorem loadSettings_steady (filter : LogFilter) (path : Option String) :
    loadSettings steady filter path = loadSettings host filter path := by
  have telling : tellOne steady filter = tellOne host filter := by
    funext event
    rfl
  cases path with
  | some path => rfl
  | none =>
    rw [loadSettings, loadSettings, Settings.loadStandard, Settings.loadStandard, telling]
    simp only [loadFirst_steady]
    rfl

theorem explain_within (actions : ActionTable) (failure : Failure) :
    Within region (explain steady actions failure) := by
  unfold explain
  split
  · exact .tell _
  · exact .pure _

end CommandLine

/-! ## Reading the input -/

/-- The bytes of the input in a world: those of the file at a path, or of the standard input. -/
def World.inputBytes? (world : World) : Option String → Option ByteArray
  | none => some world.input
  | some path =>
    if Path.isDash path then some world.input
    else
      match world.tree.node? (FileTree.placeOf world.here path) with
      | some (.file file) => some file.content
      | _ => none

/-- Whether the input of a world can be read and is a text. -/
def World.Supplies (world : World) (input : Option String) (text : String) : Prop :=
  match input with
  | none => world.input = text.toUTF8
  | some path =>
    if Path.isDash path then world.input = text.toUTF8
    else world.tree.read world.here path = .ok text.toUTF8

/-- A file that can be read can be read in a world that comes from this one. -/
theorem World.Supplies.extend {world after : World} {input : Option String} {text : String}
    (supplies : world.Supplies input text) (extended : Extends region world after) :
    after.Supplies input text := by
  cases input with
  | none => exact extended.beside.input.trans supplies
  | some path =>
    rw [Supplies] at supplies ⊢
    split at supplies
    case isTrue dash => rw [if_pos dash, extended.beside.input, supplies]
    case isFalse named =>
      rw [if_neg named, extended.beside.here]
      obtain ⟨place, followed, there⟩ := Outcome.bind_eq_ok_iff.mp supplies
      have stillFollowed := FileTree.follow_of_directories_kept
        (fun _ => extended.tree.node?_of_some) followed
      refine Outcome.bind_eq_ok_iff.mpr ⟨place, stillFollowed, ?_⟩
      cases standing : world.tree.node? place with
      | none =>
        rw [standing] at there
        cases there
      | some node =>
        rw [extended.tree.node?_of_some standing]
        rw [standing] at there
        exact there

theorem readFile_eq_ok {path : String} {world after : World} {content : ByteArray}
    (read : (steady.readFile path).run world = (.ok content, after)) :
    ∃ file, world.tree.node? (FileTree.placeOf world.here path) = some (.file file) ∧
      file.content = content := by
  have isCall : steady.readFile path = call fun world => do
      let content ← world.tree.read world.here path
      return (content, world) := rfl
  rw [isCall] at read
  obtain ⟨other, found, same⟩ := Outcome.map_eq_ok_iff.mp (call_eq_ok read)
  obtain ⟨rfl, rfl⟩ := Prod.mk.inj same
  obtain ⟨place, followed, there⟩ := Outcome.bind_eq_ok_iff.mp found
  obtain rfl := FileTree.follow_eq_placeOf followed
  split at there
  case h_1 => cases there
  case h_2 => cases there
  case h_3 file isFile => exact ⟨file, isFile, Except.ok.inj there⟩

theorem toUTF8_of_fromUTF8? {content : ByteArray} {text : String}
    (decoded : String.fromUTF8? content = some text) : text.toUTF8 = content := by
  unfold String.fromUTF8? at decoded
  split at decoded
  · obtain rfl := Option.some.inj decoded
    rfl
  · cases decoded

theorem fromUTF8?_toUTF8 (text : String) : String.fromUTF8? text.toUTF8 = some text := by
  unfold String.fromUTF8?
  split
  case isTrue => rfl
  case isFalse invalid => exact absurd text.isValidUTF8 invalid

namespace CommandLine

/-- The bytes of the input, from a file or the standard input. -/
def readBytes (input : Option String) : StateM World (Except StorageError ByteArray) :=
  match input with
  | some path => if Path.isDash path then steady.readInput else steady.readFile path
  | none => steady.readInput

theorem readBytes_within (input : Option String) : Within region (readBytes input) := by
  unfold readBytes
  split
  · split
    · exact .readInput
    · exact .readFile _
  · exact .readInput

theorem readBytes_eq_ok {input : Option String} {world : World} {content : ByteArray}
    (read : ((readBytes input).run world).1 = .ok content) :
    world.inputBytes? input = some content := by
  cases input with
  | none => exact congrArg some (Except.ok.inj read)
  | some path =>
    by_cases dash : Path.isDash path
    · rw [readBytes, if_pos dash] at read
      rw [World.inputBytes?, if_pos dash]
      exact congrArg some (Except.ok.inj read)
    · rw [readBytes, if_neg dash] at read
      obtain ⟨file, there, rfl⟩ := readFile_eq_ok (Prod.ext read rfl)
      rw [World.inputBytes?, if_neg dash, there]

/-- The text of bytes that were read. -/
def decode : Except StorageError ByteArray → Except Failure String
  | .error error => .error (.storage error)
  | .ok content =>
    match String.fromUTF8? content with
    | none => .error (.storage .invalidText)
    | some text => .ok text

/-- Bytes that give no text fail with a storage error. -/
theorem decode_eq_error {content : Except StorageError ByteArray} {failure : Failure}
    (failed : decode content = .error failure) : ∃ error, failure = .storage error := by
  unfold decode at failed
  split at failed
  case h_1 error => exact ⟨error, (Except.error.inj failed).symm⟩
  case h_2 content =>
    split at failed
    case h_1 => exact ⟨.invalidText, (Except.error.inj failed).symm⟩
    case h_2 => cases failed

theorem readInput_run (input : Option String) (world : World) :
    (readInput steady input).run world =
      (decode ((readBytes input).run world).1, ((readBytes input).run world).2) := by
  unfold readInput
  extract_lets decoding
  have decoded : ∀ content between,
      (decoding content).run between = (decode content, between) := by
    intro content between
    cases content with
    | error error => rfl
    | ok content =>
      simp only [decoding, decode]
      cases String.fromUTF8? content <;> rfl
  cases input with
  | none => simp only [readBytes, run_bind, decoded]
  | some path =>
    by_cases dash : Path.isDash path
    · simp only [readBytes, if_pos dash, run_bind, decoded]
    · simp only [readBytes, if_neg dash, run_bind, decoded]

theorem readInput_within (input : Option String) : Within region (readInput steady input) := by
  intro world
  rw [readInput_run]
  exact readBytes_within input world

/-- Text that was read is encoded by the bytes of the input. -/
theorem readInput_eq_ok {input : Option String} {world : World} {text : String}
    (read : ((readInput steady input).run world).1 = .ok text) :
    world.inputBytes? input = some text.toUTF8 := by
  rw [readInput_run] at read
  cases found : ((readBytes input).run world).1 with
  | error error =>
    rw [found] at read
    cases read
  | ok content =>
    rw [found, decode] at read
    split at read
    case h_1 => cases read
    case h_2 decoded =>
      obtain rfl := Except.ok.inj read
      rw [readBytes_eq_ok found, toUTF8_of_fromUTF8? decoded]

/-- A text that the input supplies is read, unless an outage comes up. -/
theorem readInput_of_supplies {input : Option String} {world : World} {text : String}
    (supplies : world.Supplies input text)
    (calm : world.UndisturbedUntil ((readInput steady input).run world).2) :
    ((readInput steady input).run world).1 = .ok text := by
  have bytes_read : ((readBytes input).run world).1 = .ok text.toUTF8 := by
    rw [readInput_run] at calm
    cases input with
    | none => exact congrArg Except.ok supplies
    | some path =>
      rw [World.Supplies] at supplies
      unfold readBytes at calm ⊢
      split at supplies
      case isTrue dash =>
        simp only [if_pos dash] at calm ⊢
        exact congrArg Except.ok supplies
      case isFalse named =>
        simp only [if_neg named] at calm ⊢
        have noOutage := calm.head (readFile_outages path world ▸ List.suffix_rfl)
        rw [readFile_run noOutage]
        exact supplies
  rw [readInput_run, bytes_read, decode, fromUTF8?_toUTF8]

end CommandLine

/-! ## Recording -/

/-- A tree after a text was appended to the file of a log. -/
def AuditLog.appended (audit : AuditLog Nat) (text : String) (tree : FileTree) : FileTree :=
  match audit.file with
  | none => tree
  | some number =>
    tree.updateFile number fun file => { file with content := file.content ++ text.toUTF8 }

namespace CommandLine

theorem recordOutcome_run (filter : LogFilter) (audit : AuditLog Nat) (entry : AuditEntry)
    (world : World) :
    ((recordOutcome steady filter audit entry).run world).2 =
      { world with tree := audit.appended (entry.line world.time) world.tree } := by
  obtain ⟨file⟩ := audit
  cases file with
  | none => rfl
  | some number =>
    rw [recordOutcome, AuditLog.record, run_bind, run_bind, steady_appendLog]
    rfl

/-- What the world has become when a conversion was recorded: the log has its line, and all else
there is has not changed. -/
structure Recorded (audit : AuditLog Nat) (entry : AuditEntry) (world now : World) : Prop where
  beside : SameBeside world now
  tree : now.tree = audit.appended (entry.line world.time) world.tree

variable {filter : LogFilter} {options : Options} {converter : Converter} {audit : AuditLog Nat}
  {text : String} {world : World}

/-- Nothing that is told before and after a record counts. -/
theorem recorded_of_extends {entry : AuditEntry} {started now : World}
    (told : Extends nowhere world started)
    (toldAfter : Extends nowhere ((recordOutcome steady filter audit entry).run started).2 now) :
    Recorded audit entry world now := by
  rw [recordOutcome_run] at toldAfter
  constructor
  · exact (told.beside.trans (.withTree started _)).trans toldAfter.beside
  · rw [toldAfter.tree_eq, told.tree_eq, told.beside.time]

/-- A conversion that fails is recorded, and its failure ends the run. -/
theorem convertAndDeliver_of_error {failure : Failure}
    (rejected : converter.convert text = .error failure) :
    ∃ now, (convertAndDeliver steady filter options converter audit text).run world =
        (.error failure, now) ∧
      Recorded audit ⟨options.input.getD "-", converter.level, .rejected failure⟩ world now := by
  simp only [convertAndDeliver, run_bind, rejected, run_pure]
  exact ⟨_, rfl, recorded_of_extends (tellAll_within filter _ world) (explain_within _ failure _)⟩

/-- A conversion that succeeds is recorded, and its script is delivered. -/
theorem convertAndDeliver_of_ok {script : Script} (converted : converter.convert text = .ok script) :
    ∃ now, (convertAndDeliver steady filter options converter audit text).run world =
        (deliver steady filter script.text options.output).run now ∧
      Recorded audit ⟨options.input.getD "-", converter.level, .converted script.findings⟩
        world now := by
  have warned : Within nowhere (tellAll steady filter (script.findings.map findingWarning)) :=
    tellAll_within filter _
  by_cases report : options.findingsJson
  · simp only [convertAndDeliver, run_bind, converted, report, if_true]
    exact ⟨_, rfl, recorded_of_extends (tellAll_within filter _ world)
      ((warned _).trans (Within.tell _ _))⟩
  · simp only [convertAndDeliver, run_bind, converted, report]
    exact ⟨_, rfl, recorded_of_extends (tellAll_within filter _ world) (warned _)⟩

end CommandLine

end ScreenedSuite
