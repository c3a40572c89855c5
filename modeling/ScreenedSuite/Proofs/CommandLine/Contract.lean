import ScreenedSuite.Pattern.Property
import ScreenedSuite.Proofs.CommandLine.Delivery
import ScreenedSuite.Proofs.Settings.Loading

/-! # The contract of a run

A run ends in one of five ways: its settings cannot be loaded, its converter cannot be made, its
input cannot be read, its conversion fails or its conversion succeeds
(`ScreenedSuite.CommandLine.Course`). Each of them leaves exactly its own effects on the standard
output, at the destination, in the audit log and in the exit code
(`ScreenedSuite.CommandLine.run_honours`).

The directories on the way to the audit log are made before anything is delivered. A path of the
log that passes through the destination can therefore leave a directory there, and then the script
cannot be written (`ScreenedSuite.CommandLine.run_through_destination`).
-/

namespace ScreenedSuite

namespace CommandLine

open World

/-! ## The phases of a run -/

section Phases

variable (properties : PropertyTable) (options : Options) (world : World)

/-- What a run tells its user. -/
def toldEvents : LogFilter :=
  LogFilter.choose (world.environmentValue? "RUST_LOG") options.verbose

/-- Loading the settings. -/
def loading : Except Failure Settings × World :=
  (loadSettings steady (toldEvents options world) options.settings).run world

/-- The world in which the log is opened. -/
def setUp : World :=
  match (loading options world).1 with
  | .error _ => (loading options world).2
  | .ok loaded =>
    ((tellAll steady (toldEvents options world)
      (Converter.setupEvents properties (options.override loaded))).run (loading options world).2).2

/-- The path of the audit log, if the loaded settings ask for one. -/
def auditPath? : Option String :=
  match (loading options world).1 with
  | .error _ => none
  | .ok loaded =>
    if loaded.auditLog then loaded.auditPath.map (Settings.expandHome world.home?) else none

/-- Opening the audit log. -/
def opening : AuditLog Nat × World :=
  (AuditLog.openAt? steady (tellOne steady (toldEvents options world))
    (auditPath? options world)).run (setUp properties options world)

/-- Reading the input. -/
def reading : Except Failure String × World :=
  (readInput steady options.input).run (opening properties options world).2

variable {properties options world}

theorem extends_loading : Extends nowhere world (loading options world).2 :=
  loadSettings_within _ _ world

theorem extends_setUp : Extends nowhere world (setUp properties options world) := by
  unfold setUp
  split
  · exact extends_loading
  · exact extends_loading.trans (tellAll_within _ _ _)

/-- The phases of a run in sequence, up to the one that fails. -/
theorem perform_run :
    (perform steady properties (toldEvents options world) options).run world =
      match (loading options world).1 with
      | .error failure => (.error failure, (loading options world).2)
      | .ok loaded =>
        match Converter.ofSettings properties (options.override loaded) ActionTable.builtin with
        | .error failure => (.error failure, setUp properties options world)
        | .ok converter =>
          match (reading properties options world).1 with
          | .error failure => (.error failure, (reading properties options world).2)
          | .ok text =>
            (convertAndDeliver steady (toldEvents options world) options converter
              (opening properties options world).1 text).run
                (reading properties options world).2 := by
  have isLoading : (loadSettings steady (toldEvents options world) options.settings).run world =
      loading options world := rfl
  rw [perform, run_bind, isLoading]
  cases isLoaded : (loading options world).1 with
  | error failure => rfl
  | ok loaded =>
    have isSetUp : ((tellAll steady (toldEvents options world)
        (Converter.setupEvents properties (options.override loaded))).run
          (loading options world).2).2 = setUp properties options world := by
      rw [setUp, isLoaded]
    simp only [run_bind, isSetUp]
    cases Converter.ofSettings properties (options.override loaded) ActionTable.builtin with
    | error failure => rfl
    | ok converter =>
      have settled : Extends nowhere world (setUp properties options world) := extends_setUp
      have home : (Settings.homeDirectory? steady).run (setUp properties options world) =
          (world.home?, setUp properties options world) := by
        rw [Settings.homeDirectory?_run, settled.beside.home?_eq]
      have isAudit : (options.override loaded).auditFile? world.home? =
          auditPath? options world := by
        rw [auditPath?, isLoaded]
        rfl
      have isOpening : (AuditLog.openAt? steady (tellOne steady (toldEvents options world))
          (auditPath? options world)).run (setUp properties options world) =
            opening properties options world := rfl
      have isReading : (readInput steady options.input).run (opening properties options world).2 =
          reading properties options world := rfl
      simp only [run_bind, home, isAudit, isOpening, isReading]
      cases (reading properties options world).1 with
      | error failure => rfl
      | ok text => rfl

/-! ## The world before and after a record -/

variable (options world) in
/-- What is made for the audit log. -/
def auditRegion (here place : List String) (node : FileNode) : Prop :=
  ∃ path ∈ auditPath? options world, FileTree.MadeFor path here place node

theorem extends_opening_setUp : Extends (auditRegion options world)
    (setUp properties options world) (opening properties options world).2 := by
  unfold opening
  cases isPath : auditPath? options world with
  | none => exact .refl _
  | some path =>
    refine (AuditLog.openAt_within (tellOne_within (toldEvents options world)) path _).mono ?_
    exact fun here place node made => ⟨path, isPath, made⟩

theorem extends_opening :
    Extends (auditRegion options world) world (opening properties options world).2 :=
  extends_setUp.of_nowhere.trans extends_opening_setUp

theorem extends_reading :
    Extends (auditRegion options world) world (reading properties options world).2 :=
  extends_opening.trans (readInput_within _ _)

variable (options world) in
/-- What stands at a place is as it was, or nothing stood there and a directory was made on the way
to the audit log. -/
def KeptOrPassed (place : List String) (now : World) : Prop :=
  now.tree.node? place = world.tree.node? place ∨
    world.tree.node? place = none ∧ now.tree.node? place = some .directory ∧
      ∃ path ∈ auditPath? options world, FileTree.Passes world.here path place

/-- What the world has become when a text was recorded: the log has it if it is open, and what else
there is has not changed except on the way to the log. -/
structure Logged (properties : PropertyTable) (options : Options) (world : World) (text : String)
    (now : World) : Prop where
  beside : SameBeside world now
  elsewhere : ∀ place, (∀ path ∈ auditPath? options world,
    place ≠ FileTree.placeOf world.here path) → KeptOrPassed options world place now
  log : ∀ path ∈ auditPath? options world,
    now.tree.contentAt (FileTree.placeOf world.here path) =
      world.tree.contentAt (FileTree.placeOf world.here path) ++
        if (opening properties options world).1.isEnabled then text.toUTF8 else .empty

/-- Away from the log, growth made for it only adds directories on the way. -/
theorem keptOrPassed_of_extends {now : World}
    (grown : Extends (auditRegion options world) world now) {place : List String}
    (apart : ∀ path ∈ auditPath? options world, place ≠ FileTree.placeOf world.here path) :
    KeptOrPassed options world place now := by
  rcases grown.tree.node?_cases place with same | ⟨free, node, standing, path, isPath, made⟩
  · exact .inl same
  · rcases made with ⟨passes, _, rfl⟩ | ⟨isEnd, _⟩
    · exact .inr ⟨free, standing, path, isPath, passes⟩
    · exact absurd isEnd (apart path isPath)

theorem logged_of_extends {now : World} (grown : Extends (auditRegion options world) world now) :
    Logged properties options world "" now where
  beside := grown.beside
  elsewhere _ apart := keptOrPassed_of_extends grown apart
  log path _ := by
    have nothing : "".toUTF8 = ByteArray.empty := rfl
    rw [grown.tree.contentAt_eq, nothing, ite_self, ByteArray.append_empty]

/-- The file that an open log records into. -/
theorem opening_file {number : Nat}
    (isOpen : (opening properties options world).1.file = some number) :
    ∃ path ∈ auditPath? options world, ∃ file,
      (reading properties options world).2.tree.node? (FileTree.placeOf world.here path) =
          some (.file file) ∧ file.number = number := by
  have settled : Extends nowhere world (setUp properties options world) := extends_setUp
  have read : Extends nowhere (opening properties options world).2
      (reading properties options world).2 := readInput_within _ _
  rw [read.tree_eq]
  unfold opening at isOpen ⊢
  cases isPath : auditPath? options world with
  | none =>
    rw [isPath] at isOpen
    cases isOpen
  | some path =>
    rw [isPath] at isOpen
    have file := AuditLog.openAt_file (tellOne_within (toldEvents options world))
      (Prod.ext (congrArg AuditLog.mk isOpen) rfl)
    rw [settled.beside.here] at file
    exact ⟨path, rfl, file⟩

theorem logged_of_recorded (linkFree : world.tree.LinkFree) {entry : AuditEntry} {now : World}
    (recorded : Recorded (opening properties options world).1 entry
      (reading properties options world).2 now) :
    Logged properties options world (entry.line world.time) now := by
  have grown : Extends (auditRegion options world) world (reading properties options world).2 :=
    extends_reading
  have beside := grown.beside.trans recorded.beside
  have tree := recorded.tree
  rw [AuditLog.appended, grown.beside.time] at tree
  cases isOpen : (opening properties options world).1.file with
  | none =>
    rw [isOpen] at tree
    have off : (opening properties options world).1.isEnabled = false := by
      simp [AuditLog.isEnabled, isOpen]
    refine ⟨beside, fun place apart => ?_, fun path _ => ?_⟩
    · rw [KeptOrPassed, tree]
      exact keptOrPassed_of_extends grown apart
    · simp [tree, off, grown.tree.contentAt_eq]
  | some number =>
    rw [isOpen] at tree
    obtain ⟨path, isPath, file, there, rfl⟩ := opening_file isOpen
    have enabled : (opening properties options world).1.isEnabled := by
      simp [AuditLog.isEnabled, isOpen]
    refine ⟨beside, fun place apart => ?_, fun other isOther => ?_⟩
    · have kept := (grown.tree.linkFree linkFree).node?_updateFile_of_ne there (apart path isPath)
      rw [KeptOrPassed, tree, kept]
      exact keptOrPassed_of_extends grown apart
    · obtain rfl : other = path := Option.some.inj (isOther.symm.trans isPath)
      rw [if_pos enabled, tree, FileTree.contentAt_updateFile there, ← grown.tree.contentAt_eq,
        FileTree.contentAt, there]

/-! ## Courses of a run -/

/-- The settings that a run can load, or the failure to load them: those in the file that the
options name, or else those of the first candidate that can be used. An outage can keep a file from
being used. -/
inductive Loads (options : Options) (world : World) : Except Failure Settings → Prop
  | named {path : String} {settings : Settings} : options.settings = some path →
    Settings.settingsAt? world path = some settings → Loads options world (.ok settings)
  | refused {path : String} {error : SettingsError} : options.settings = some path →
    (Settings.settingsAt? world path = none ∨ ¬ world.Undisturbed) →
    Loads options world (.error (.configuration error))
  | standard {files : List String} {attempts : List (Option Settings)} :
    options.settings = none → Settings.Candidates world files →
    List.Forall₂ (Settings.Attempted world) files attempts →
    Loads options world (.ok ((attempts.findSome? id).getD {}))

/-- Whether settings are the loaded ones but for the level and the policy that the options give. -/
structure Overridden (options : Options) (loaded effective : Settings) : Prop where
  level : effective.level =
    match options.level with
    | some level => level
    | none => loaded.level
  unmapped : effective.unmapped =
    match options.unmapped with
    | some policy => policy
    | none => loaded.unmapped
  auditLog : effective.auditLog = loaded.auditLog
  auditPath : effective.auditPath = loaded.auditPath
  overrides : effective.overrides = loaded.overrides
  separatorWidth : effective.separatorWidth = loaded.separatorWidth

/-- Whether a converter is the one that settings describe. -/
structure Makes (properties : PropertyTable) (settings : Settings) (converter : Converter) :
    Prop where
  wide : leastSeparatorWidth ≤ settings.separatorWidth
  catalog : Catalog.build properties settings.overrides = .ok converter.screening.catalog
  actions : converter.screening.actions = ActionTable.builtin
  unmapped : converter.screening.unmapped = settings.unmapped
  level : converter.level = settings.level
  separatorWidth : converter.separatorWidth = settings.separatorWidth

/-- The courses that a run can take, with the record that is due and the outcome of the
conversion. -/
inductive Course (properties : PropertyTable) (options : Options) (world : World) :
    Option AuditEntry → Except Failure Script → Prop
  /-- The settings cannot be loaded. -/
  | unset {failure : Failure} :
    (loading options world).1 = .error failure →
      Course properties options world none (.error failure)
  /-- The loaded settings, with what the options say, make no converter. -/
  | unmade {loaded effective : Settings} {error : SettingsError} :
    (loading options world).1 = .ok loaded → Overridden options loaded effective →
      (∀ converter, ¬ Makes properties effective converter) →
      Course properties options world none (.error (.configuration error))
  /-- The input supplies no text, or an outage comes up. -/
  | unread {loaded effective : Settings} {converter : Converter} {error : StorageError} :
    (loading options world).1 = .ok loaded → Overridden options loaded effective →
      Makes properties effective converter →
      (¬ (∃ text, world.Supplies options.input text) ∨
        ¬ (opening properties options world).2.UndisturbedUntil
          (reading properties options world).2) →
      Course properties options world none (.error (.storage error))
  /-- The text of the input cannot be converted. -/
  | rejected {loaded effective : Settings} {converter : Converter} {text : String}
      {failure : Failure} :
    (loading options world).1 = .ok loaded → Overridden options loaded effective →
      Makes properties effective converter →
      world.inputBytes? options.input = some text.toUTF8 →
      converter.convert text = .error failure →
      Course properties options world
        (some ⟨options.input.getD "-", effective.level, .rejected failure⟩) (.error failure)
  /-- The text of the input is converted. -/
  | converted {loaded effective : Settings} {converter : Converter} {text : String}
      {script : Script} :
    (loading options world).1 = .ok loaded → Overridden options loaded effective →
      Makes properties effective converter →
      world.inputBytes? options.input = some text.toUTF8 →
      converter.convert text = .ok script →
      Course properties options world
        (some ⟨options.input.getD "-", effective.level, .converted script.findings⟩) (.ok script)

theorem loads_loading : Loads options world (loading options world).1 := by
  cases named : options.settings with
  | none =>
    obtain ⟨files, candidates⟩ : ∃ files, Settings.Candidates world files :=
      ⟨_, Settings.candidates_iff.mpr rfl⟩
    obtain ⟨attempts, each, result⟩ :=
      Settings.loadStandard_attempts (toldEvents options world) candidates
    have isLoading : (loading options world).1 = .ok ((attempts.findSome? id).getD {}) := by
      rw [loading, loadSettings_steady, named, loadSettings, run_bind, run_pure, result]
    rw [isLoading]
    exact .standard named candidates each
  | some path =>
    have attempted := (Settings.loadFile_attempted path world).1
    rw [loading, loadSettings_steady, named, loadSettings, run_bind]
    cases loaded : ((Settings.loadFile host path).run world).1 with
    | ok settings =>
      rw [loaded] at attempted
      rcases attempted with found | ⟨absurdity, _⟩
      · exact .named named found.symm
      · cases absurdity
    | error error =>
      rw [loaded] at attempted
      exact .refused named (attempted.imp Eq.symm (·.2))

theorem overridden_override (options : Options) (loaded : Settings) :
    Overridden options loaded (options.override loaded) where
  level := by
    rw [Options.override]
    cases options.level <;> rfl
  unmapped := by
    rw [Options.override]
    cases options.unmapped <;> rfl
  auditLog := rfl
  auditPath := rfl
  overrides := rfl
  separatorWidth := rfl

theorem makes_of_ofSettings {settings : Settings} {converter : Converter}
    (made : Converter.ofSettings properties settings ActionTable.builtin = .ok converter) :
    Makes properties settings converter := by
  rw [Converter.ofSettings, Settings.validate] at made
  split at made
  case h_1 => cases made
  case h_2 valid =>
    split at valid
    case isTrue => cases valid
    case isFalse wide =>
      obtain rfl := Except.ok.inj valid
      split at made
      case h_1 => cases made
      case h_2 built =>
        obtain rfl := Except.ok.inj made
        exact ⟨Nat.le_of_not_lt wide, built, rfl, rfl, rfl, rfl⟩

/-- Settings from which no converter is made describe none. -/
theorem not_makes_of_ofSettings {settings : Settings} {failure : Failure}
    (unmade : Converter.ofSettings properties settings ActionTable.builtin = .error failure) :
    (∃ error, failure = .configuration error) ∧
      ∀ converter, ¬ Makes properties settings converter := by
  rw [Converter.ofSettings, Settings.validate] at unmade
  by_cases narrow : settings.separatorWidth < leastSeparatorWidth
  · rw [if_pos narrow] at unmade
    refine ⟨⟨_, (Except.error.inj unmade).symm⟩, fun converter makes => ?_⟩
    exact Nat.not_lt.mpr makes.wide narrow
  · rw [if_neg narrow] at unmade
    dsimp only at unmade
    cases built : Catalog.build properties settings.overrides with
    | ok catalog =>
      rw [built] at unmade
      cases unmade
    | error error =>
      rw [built] at unmade
      refine ⟨⟨error, (Except.error.inj unmade).symm⟩, fun converter makes => ?_⟩
      cases built.symm.trans makes.catalog

/-! ## The contract -/

/-- Whether the path of the audit log neither equals nor lies below those of the input and of the
output. -/
structure AuditApart (options : Options) (world : World) : Prop where
  input : ∀ audit ∈ auditPath? options world, ∀ path ∈ options.input, ¬ Path.isDash path →
    ¬ FileTree.placeOf world.here path <+: FileTree.placeOf world.here audit
  output : ∀ audit ∈ auditPath? options world, ∀ path ∈ options.output,
    ¬ FileTree.placeOf world.here path <+: FileTree.placeOf world.here audit

/-- Whether a text was delivered once: to the destination if there is one, and else to the standard
output. -/
def Delivered (options : Options) (world : World) (text : String) (after : World) : Prop :=
  match options.output with
  | none => after.output = world.output ++ text
  | some path =>
    after.output = world.output ∧
      ∃ file, after.tree.node? (FileTree.placeOf world.here path) = some (.file file) ∧
        file.content = text.toUTF8

/-- Whether nothing was delivered: the standard output is as it was, and so is everything at and
below the destination, unless nothing stood there and a directory was made on the way to the audit
log. -/
def Withheld (options : Options) (world after : World) : Prop :=
  after.output = world.output ∧
    ∀ path ∈ options.output, ∀ place, FileTree.placeOf world.here path <+: place →
      KeptOrPassed options world place after

/-- The failures that end a run: that of the conversion or of what comes before it, or that of
writing the script to its destination. -/
inductive EndsWith (options : Options) : Except Failure Script → Failure → Prop
  | verdict (failure : Failure) : EndsWith options (.error failure) failure
  | delivery {path : String} (script : Script) (error : StorageError) :
    options.output = some path → EndsWith options (.ok script) (.storage error)

/-- Whether a run keeps its contract. -/
structure Honours (properties : PropertyTable) (options : Options) (world : World)
    (due : Option AuditEntry) (verdict : Except Failure Script) (code : Nat) (after : World) :
    Prop where
  /-- A run that ends with code zero delivers the converted text. -/
  delivered : code = 0 → ∃ script, verdict = .ok script ∧ Delivered options world script.text after
  /-- Every other run delivers nothing, and ends with the code of the failure that it tells. -/
  withheld : code ≠ 0 → Withheld options world after ∧
    ∃ failure, EndsWith options verdict failure ∧
      after.told.head? = some (.failed failure) ∧ code = failure.exitCode
  /-- The record that is due is appended to the log, with its line feed, if the log can be opened.
  Otherwise, or if an outage keeps it from being opened, nothing is. -/
  recorded : ∀ entry ∈ due, ∀ path ∈ auditPath? options world,
    world.tree.Openable world.here path ∧
        after.tree.contentAt (FileTree.placeOf world.here path) =
          world.tree.contentAt (FileTree.placeOf world.here path) ++
            (entry.line world.time).toUTF8 ∨
      (¬ world.tree.Openable world.here path ∨
          ¬ (setUp properties options world).UndisturbedUntil
            (opening properties options world).2) ∧
        after.tree.contentAt (FileTree.placeOf world.here path) =
          world.tree.contentAt (FileTree.placeOf world.here path)
  /-- Without such a record nothing is appended to any file. -/
  unrecorded : due = none →
    ∀ place, after.tree.contentAt place = world.tree.contentAt place
  /-- No file has changed but the log and the destination. -/
  elsewhere : ∀ place,
    (∀ path ∈ auditPath? options world, place ≠ FileTree.placeOf world.here path) →
    (∀ path ∈ options.output, place ≠ FileTree.placeOf world.here path) →
      KeptOrPassed options world place after

theorem exitCode_ne_zero (failure : Failure) : failure.exitCode ≠ 0 := by
  cases failure <;> exact Nat.succ_ne_zero _

/-- The audit log of a run is opened exactly if it can be, unless an outage comes up. -/
theorem opening_cases {path : String} (isPath : path ∈ auditPath? options world) :
    ((opening properties options world).1.isEnabled = true ∧
        world.tree.Openable world.here path) ∨
      ((opening properties options world).1.isEnabled = false ∧
        (¬ world.tree.Openable world.here path ∨
          ¬ (setUp properties options world).UndisturbedUntil
            (opening properties options world).2)) := by
  have settled : Extends nowhere world (setUp properties options world) := extends_setUp
  have telling : ∀ event, Within nowhere (tellOne steady (toldEvents options world) event) :=
    tellOne_within _
  have isOpening : opening properties options world =
      (AuditLog.openAt steady (tellOne steady (toldEvents options world)) path).run
        (setUp properties options world) := by
    rw [opening, Option.mem_def.mp isPath]
    rfl
  rw [← settled.tree_eq, ← settled.beside.here, isOpening]
  cases isOpen : ((AuditLog.openAt steady (tellOne steady (toldEvents options world)) path).run
      (setUp properties options world)).1.isEnabled with
  | true => exact .inl ⟨rfl, AuditLog.openable_of_isEnabled telling isOpen⟩
  | false =>
    refine .inr ⟨rfl, ?_⟩
    by_contra both
    obtain ⟨openable, calm⟩ := not_or.mp both
    have enabled := AuditLog.isEnabled_of_openable telling (not_not.mp openable) (not_not.mp calm)
    rw [isOpen] at enabled
    cases enabled

/-- A text is recorded exactly if the log can be opened, unless an outage comes up. -/
theorem Logged.recorded {text : String} {now : World}
    (logged : Logged properties options world text now) {path : String}
    (isPath : path ∈ auditPath? options world) :
    world.tree.Openable world.here path ∧
        now.tree.contentAt (FileTree.placeOf world.here path) =
          world.tree.contentAt (FileTree.placeOf world.here path) ++ text.toUTF8 ∨
      (¬ world.tree.Openable world.here path ∨
          ¬ (setUp properties options world).UndisturbedUntil
            (opening properties options world).2) ∧
        now.tree.contentAt (FileTree.placeOf world.here path) =
          world.tree.contentAt (FileTree.placeOf world.here path) := by
  have isLogged := logged.log path isPath
  rcases opening_cases isPath with ⟨isOpen, openable⟩ | ⟨isOff, reason⟩
  · rw [isOpen, if_pos rfl] at isLogged
    exact .inl ⟨openable, isLogged⟩
  · rw [isOff, if_neg Bool.false_ne_true, ByteArray.append_empty] at isLogged
    exact .inr ⟨reason, isLogged⟩

/-- The input is read as it was before the log was opened. -/
theorem AuditApart.inputBytes?_eq (apart : AuditApart options world) :
    (opening properties options world).2.inputBytes? options.input =
      world.inputBytes? options.input := by
  have opened : Extends (auditRegion options world) world (opening properties options world).2 :=
    extends_opening
  cases isInput : options.input with
  | none => exact congrArg some opened.beside.input
  | some path =>
    simp only [World.inputBytes?, opened.beside.input, opened.beside.here]
    by_cases dash : Path.isDash path
    · rw [if_pos dash, if_pos dash]
    · have beyond : ∀ audit ∈ auditPath? options world,
          FileTree.placeOf world.here path ≠ FileTree.placeOf world.here audit :=
        fun audit isAudit same =>
          apart.input audit isAudit path isInput dash (same ▸ List.prefix_rfl)
      rcases keptOrPassed_of_extends opened beyond with same | ⟨free, isDirectory, _⟩
      · rw [same]
      · rw [free, isDirectory]

/-- Input that is not read supplies no text, or an outage came up. -/
theorem unread_of_error {failure : Failure}
    (unread : (reading properties options world).1 = .error failure) :
    (∃ error, failure = .storage error) ∧
      (¬ (∃ text, world.Supplies options.input text) ∨
        ¬ (opening properties options world).2.UndisturbedUntil
          (reading properties options world).2) := by
  constructor
  · rw [reading, readInput_run] at unread
    exact decode_eq_error unread
  · by_contra both
    obtain ⟨supplied, calm⟩ := not_or.mp both
    obtain ⟨text, supplies⟩ := not_not.mp supplied
    have read := readInput_of_supplies (supplies.extend extends_opening) (not_not.mp calm)
    rw [reading, read] at unread
    cases unread

variable {due : Option AuditEntry} {verdict : Except Failure Script} {failure : Failure}
  {text : String} {now : World}

/-- A run that stops with a failure honours its contract. -/
theorem honours_of_failure (apart : AuditApart options world)
    (logged : Logged properties options world text now) (ends : EndsWith options verdict failure)
    (isDue : ∀ entry ∈ due, text = entry.line world.time)
    (silent : due = none → ∀ place, now.tree.contentAt place = world.tree.contentAt place) :
    Honours properties options world due verdict failure.exitCode
      { now with told := .failed failure :: now.told } where
  delivered zero := absurd zero (exitCode_ne_zero failure)
  withheld _ := by
    refine ⟨⟨logged.beside.output, fun path isPath place below => ?_⟩, failure, ends, rfl, rfl⟩
    refine logged.elsewhere place fun audit isAudit same => ?_
    exact apart.output audit isAudit path isPath (same ▸ below)
  recorded entry isEntry path isPath := isDue entry isEntry ▸ logged.recorded isPath
  unrecorded := silent
  elsewhere place apartAudit _ := logged.elsewhere place apartAudit

/-- A run that stops before anything is recorded honours its contract. -/
theorem honours_of_stop (apart : AuditApart options world)
    (grown : Extends (auditRegion options world) world now) :
    Honours properties options world none (.error failure) failure.exitCode
      { now with told := .failed failure :: now.told } :=
  honours_of_failure apart (logged_of_extends grown) (.verdict failure)
    (fun _ isDue => nomatch isDue) fun _ => grown.tree.contentAt_eq

/-- A script without a destination honours the contract on the standard output. -/
theorem honours_of_output {entry : AuditEntry} {script : Script}
    (logged : Logged properties options world (entry.line world.time) now)
    (isOutput : options.output = none) :
    Honours properties options world (some entry) (.ok script) 0
      { now with output := now.output ++ script.text } where
  delivered _ := by
    refine ⟨script, rfl, ?_⟩
    simp [Delivered, isOutput, logged.beside.output]
  withheld nonzero := absurd rfl nonzero
  recorded other isEntry path isPath := Option.some.inj isEntry ▸ logged.recorded isPath
  unrecorded none := nomatch none
  elsewhere place apartAudit _ := logged.elsewhere place apartAudit

/-- Writing the script to its destination leaves the log as it is. -/
theorem contentAt_of_written (apart : AuditApart options world) {path script : String}
    {after : World} (logged : Logged properties options world text now)
    (isOutput : options.output = some path) (written : ScriptFile.Written now path script after) :
    ∀ audit ∈ auditPath? options world,
      after.tree.contentAt (FileTree.placeOf world.here audit) =
        now.tree.contentAt (FileTree.placeOf world.here audit) := by
  intro audit isAudit
  have beyond : FileTree.placeOf world.here audit ≠ FileTree.placeOf now.here path := by
    rw [logged.beside.here]
    intro same
    exact apart.output audit isAudit path isOutput (same ▸ List.prefix_rfl)
  rw [FileTree.contentAt, FileTree.contentAt, written.others _ beyond]

/-- A script that is written to its destination honours the contract. -/
theorem honours_of_written (apart : AuditApart options world) {entry : AuditEntry}
    {script : Script} {path : String} {after : World}
    (logged : Logged properties options world (entry.line world.time) now)
    (isOutput : options.output = some path)
    (written : ScriptFile.Written now path script.text after) :
    Honours properties options world (some entry) (.ok script) 0 after where
  delivered _ := by
    refine ⟨script, rfl, ?_⟩
    rw [Delivered, isOutput, ← logged.beside.here]
    obtain ⟨file, there, content, _⟩ := written.file
    exact ⟨written.beside.output.trans logged.beside.output, file, there, content⟩
  withheld nonzero := absurd rfl nonzero
  recorded other isEntry audit isAudit := by
    obtain rfl := Option.some.inj isEntry
    rw [contentAt_of_written apart logged isOutput written audit isAudit]
    exact logged.recorded isAudit
  unrecorded none := nomatch none
  elsewhere place apartAudit apartOutput := by
    have beyond : place ≠ FileTree.placeOf now.here path :=
      logged.beside.here ▸ apartOutput path isOutput
    rw [KeptOrPassed, written.others place beyond]
    exact logged.elsewhere place apartAudit

/-- After a failed write the log is as it was before. -/
theorem logged_of_unwritten {after : World} (logged : Logged properties options world text now)
    (unwritten : ScriptFile.Unwritten now after) : Logged properties options world text after where
  beside := logged.beside.trans unwritten.beside
  elsewhere place apart := by
    rw [KeptOrPassed, unwritten.nodes place]
    exact logged.elsewhere place apart
  log path isPath := by
    rw [← logged.log path isPath, FileTree.contentAt, FileTree.contentAt, unwritten.nodes]

/-- The exit code of a run, and the world in which its failure, if there is one, was told. -/
def ended : Except Failure Unit × World → Nat × World
  | (.ok (), now) => (0, now)
  | (.error failure, now) =>
    (failure.exitCode, { now with told := .failed failure :: now.told })

theorem run_run :
    (run steady properties options).run world =
      ended ((perform steady properties (toldEvents options world) options).run world) := by
  have requested : (steady.environment? "RUST_LOG").run world =
      (world.environmentValue? "RUST_LOG", world) := rfl
  rw [run, run_bind, requested]
  change StateT.run
    (perform steady properties (toldEvents options world) options >>= _) world = _
  rw [run_bind]
  cases (perform steady properties (toldEvents options world) options).run world with
  | mk outcome now =>
    cases outcome with
    | ok => rfl
    | error failure => rfl

/-- A script that is delivered after its record honours the contract. -/
theorem honours_of_delivery (apart : AuditApart options world) {entry : AuditEntry}
    {script : Script} (logged : Logged properties options world (entry.line world.time) now) :
    let result := ended
      ((deliver steady (toldEvents options world) script.text options.output).run now)
    Honours properties options world (some entry) (.ok script) result.1 result.2 := by
  cases isOutput : options.output with
  | none =>
    rw [deliver_none_run]
    exact honours_of_output logged isOutput
  | some path =>
    rcases deliver_some_cases (toldEvents options world) script.text path now with
      ⟨after, delivered, written⟩ | ⟨error, after, delivered, unwritten⟩
    · rw [delivered]
      exact honours_of_written apart logged isOutput written
    · rw [delivered]
      exact honours_of_failure apart (logged_of_unwritten logged unwritten)
        (.delivery script error isOutput) (fun _ isDue => Option.some.inj isDue ▸ rfl) nofun

end Phases

/-- Every run takes one of the courses and honours its contract, whatever the command line, the
settings, the environment and the input are, and whichever storage calls fail, as long as writing
to the standard output and to the open log succeeds. -/
theorem run_honours (properties : PropertyTable) (options : Options) (world : World)
    (linkFree : world.tree.LinkFree) (apart : AuditApart options world) :
    ∃ due verdict, Loads options world (loading options world).1 ∧
      (∀ loaded, (loading options world).1 = .ok loaded →
        Settings.RecordsTo world loaded (auditPath? options world)) ∧
      Course properties options world due verdict ∧ Honours properties options world due verdict
        ((run steady properties options).run world).1
        ((run steady properties options).run world).2 := by
  have settled : Extends nowhere world (setUp properties options world) := extends_setUp
  have grown : Extends (auditRegion options world) world (reading properties options world).2 :=
    extends_reading
  have goesTo (settings : Settings) (isLoaded : (loading options world).1 = .ok settings) :
      Settings.RecordsTo world settings (auditPath? options world) := by
    rw [auditPath?, isLoaded]
    exact Settings.recordsTo_auditFile? world settings
  rw [run_run, perform_run]
  cases isLoaded : (loading options world).1 with
  | error failure =>
    have loads : Loads options world (.error failure) := isLoaded ▸ loads_loading
    rw [isLoaded] at goesTo
    exact ⟨_, _, loads, goesTo, .unset isLoaded, honours_of_stop apart extends_loading.of_nowhere⟩
  | ok loaded =>
    have loads : Loads options world (.ok loaded) := isLoaded ▸ loads_loading
    rw [isLoaded] at goesTo
    have overridden := overridden_override options loaded
    dsimp only
    cases made : Converter.ofSettings properties (options.override loaded) ActionTable.builtin with
    | error failure =>
      obtain ⟨⟨error, rfl⟩, none⟩ := not_makes_of_ofSettings made
      exact ⟨_, _, loads, goesTo, .unmade isLoaded overridden none,
        honours_of_stop apart settled.of_nowhere⟩
    | ok converter =>
      have makes := makes_of_ofSettings made
      dsimp only
      cases read : (reading properties options world).1 with
      | error failure =>
        obtain ⟨⟨error, rfl⟩, reason⟩ := unread_of_error read
        exact ⟨_, _, loads, goesTo, .unread isLoaded overridden makes reason,
          honours_of_stop apart grown⟩
      | ok text =>
        have input := apart.inputBytes?_eq ▸ readInput_eq_ok read
        dsimp only
        cases converted : converter.convert text with
        | error failure =>
          obtain ⟨now, ran, recorded⟩ := convertAndDeliver_of_error converted
          rw [ran]
          refine ⟨_, _, loads, goesTo, .rejected isLoaded overridden makes input converted, ?_⟩
          rw [makes.level] at recorded
          exact honours_of_failure apart (logged_of_recorded linkFree recorded) (.verdict failure)
            (fun _ isDue => Option.some.inj isDue ▸ rfl) nofun
        | ok script =>
          obtain ⟨now, ran, recorded⟩ := convertAndDeliver_of_ok converted
          rw [ran]
          refine ⟨_, _, loads, goesTo, .converted isLoaded overridden makes input converted, ?_⟩
          rw [makes.level] at recorded
          exact honours_of_delivery apart (logged_of_recorded linkFree recorded)

/-- A world whose settings switch the audit log on, with a case that reads a private key and then
does what no action is known for. -/
def keyWorld (auditPath : String) : World where
  here := ["w"]
  tree := ⟨[
    (["w"], .directory),
    (["w", "settings.toml"], .file {
      number := 0
      content := ("[general]\nsecurity_level = \"strict\"\naudit_log = true\naudit_path = \"" ++
        auditPath ++ "\"\n").toUTF8
      mode := 0o644 }),
    (["w", "case.json"], .file {
      number := 1
      content := ("\x7b\"name\": \"Key\", \"steps\": [\x7b\"action\": \"read_file\", " ++
        "\"args\": [\".ssh/id_rsa\"]\x7d, \x7b\"action\": \"teleport\"\x7d]\x7d").toUTF8
      mode := 0o644 })]⟩
  time := "2024-01-01T00:00:00Z"

/-- The options that convert the case into a file beside it, with a level and a policy of their
own. -/
def keyOptions : Options where
  settings := some "settings.toml"
  input := some "case.json"
  output := some "suite.robot"
  level := some .permissive
  unmapped := some .passthrough

theorem linkFree_key (auditPath : String) : (keyWorld auditPath).tree.LinkFree :=
  FileTree.linkFree_of_nodup (by simp [keyWorld, FileNode.number?])

theorem auditApart_key {auditPath : String}
    (isAudit : auditPath? keyOptions (keyWorld auditPath) = some auditPath)
    (isPlace : FileTree.placeOf ["w"] auditPath = ["w", "audit.jsonl"]) :
    AuditApart keyOptions (keyWorld auditPath) := by
  constructor
  · intro audit isPath path isInput _
    obtain rfl := Option.some.inj (isPath.symm.trans isAudit)
    obtain rfl := Option.some.inj isInput
    change ¬ FileTree.placeOf ["w"] "case.json" <+: FileTree.placeOf ["w"] audit
    rw [isPlace]
    decide
  · intro audit isPath path isOutput
    obtain rfl := Option.some.inj (isPath.symm.trans isAudit)
    obtain rfl := Option.some.inj isOutput
    change ¬ FileTree.placeOf ["w"] "suite.robot" <+: FileTree.placeOf ["w"] audit
    rw [isPlace]
    decide

theorem run_honours_key :
    (keyWorld "audit.jsonl").tree.LinkFree ∧ AuditApart keyOptions (keyWorld "audit.jsonl") ∧
      ((run steady .unicode keyOptions).run (keyWorld "audit.jsonl")).1 = 0 ∧
      ∃ findings script,
        Course .unicode keyOptions (keyWorld "audit.jsonl")
          (some ⟨"case.json", .permissive, .converted findings⟩) (.ok script) ∧
        Honours .unicode keyOptions (keyWorld "audit.jsonl")
          (some ⟨"case.json", .permissive, .converted findings⟩) (.ok script) 0
          ((run steady .unicode keyOptions).run (keyWorld "audit.jsonl")).2 ∧
        ((run steady .unicode keyOptions).run (keyWorld "audit.jsonl")).2.tree.contentAt
          ["w", "audit.jsonl"] =
            (AuditEntry.line "2024-01-01T00:00:00Z"
              ⟨"case.json", .permissive, .converted findings⟩).toUTF8 := by
  have isAudit : auditPath? keyOptions (keyWorld "audit.jsonl") = some "audit.jsonl" := by
    decide +kernel
  have apart := auditApart_key isAudit (by decide)
  obtain ⟨success, isRecorded⟩ :
      ((run steady .unicode keyOptions).run (keyWorld "audit.jsonl")).1 = 0 ∧
        ((run steady .unicode keyOptions).run (keyWorld "audit.jsonl")).2.tree.contentAt
          ["w", "audit.jsonl"] ≠ .empty := by
    decide +kernel
  have blank : (keyWorld "audit.jsonl").tree.contentAt ["w", "audit.jsonl"] = .empty := by
    decide
  obtain ⟨due, verdict, _, _, course, honours⟩ :=
    run_honours .unicode keyOptions (keyWorld "audit.jsonl") (linkFree_key _) apart
  rw [success] at honours
  obtain ⟨script, rfl, _⟩ := honours.delivered rfl
  refine ⟨linkFree_key _, apart, success, ?_⟩
  cases course with
  | @converted loaded effective converter text _ isLoaded overridden made input converted =>
    have level : effective.level = .permissive := overridden.level
    have course := Course.converted isLoaded overridden made input converted
    rw [level] at honours course
    refine ⟨script.findings, script, course, honours, ?_⟩
    have place : FileTree.placeOf (keyWorld "audit.jsonl").here "audit.jsonl" =
        ["w", "audit.jsonl"] := by
      decide
    have recorded := honours.recorded _ rfl "audit.jsonl" isAudit
    rw [place, blank, ByteArray.empty_append] at recorded
    rcases recorded with ⟨_, content⟩ | ⟨_, nothing⟩
    · exact content
    · exact absurd nothing isRecorded

/-- The path of the log keeps apart from those of the input, the settings and the output, and still
the run fails and leaves a directory at the destination, where nothing stood. -/
theorem run_through_destination :
    (keyWorld "suite.robot/../audit.jsonl").tree.LinkFree ∧
      AuditApart keyOptions (keyWorld "suite.robot/../audit.jsonl") ∧
      (∀ audit ∈ auditPath? keyOptions (keyWorld "suite.robot/../audit.jsonl"),
        ∀ path ∈ keyOptions.settings,
          ¬ FileTree.placeOf ["w"] path <+: FileTree.placeOf ["w"] audit) ∧
      (keyWorld "suite.robot/../audit.jsonl").tree.node? ["w", "suite.robot"] = none ∧
      ((run steady .unicode keyOptions).run (keyWorld "suite.robot/../audit.jsonl")).1 ≠ 0 ∧
      ((run steady .unicode keyOptions).run
        (keyWorld "suite.robot/../audit.jsonl")).2.tree.node? ["w", "suite.robot"] =
          some .directory := by
  have isAudit : auditPath? keyOptions (keyWorld "suite.robot/../audit.jsonl") =
      some "suite.robot/../audit.jsonl" := by
    decide +kernel
  refine ⟨linkFree_key _, auditApart_key isAudit (by decide), ?_, by decide, by decide +kernel⟩
  intro audit isPath path isSettings
  obtain rfl := Option.some.inj (isPath.symm.trans isAudit)
  obtain rfl := Option.some.inj isSettings
  decide

end CommandLine

end ScreenedSuite
