import ScreenedSuite.Proofs.CommandLine.Phases
import ScreenedSuite.Proofs.Settings.Reading

/-! # Loading settings

Without a file of its own a run takes its settings from the first candidate that can be used, and
the defaults where there is none (`ScreenedSuite.Settings.loadStandard_attempts`). The candidates
follow from the environment and the user's account alone
(`ScreenedSuite.Settings.candidates_iff`), and so does the home directory in the path of the audit
log (`ScreenedSuite.Settings.recordsTo_auditFile?`).
-/

namespace ScreenedSuite.Settings

open World

variable {world now : World} {path : String}

/-- The settings that the file at a path holds, if it can be used. -/
def settingsAt? (world : World) (path : String) : Option Settings := do
  let content ← (world.tree.read world.here path).toOption
  let text ← String.fromUTF8? content
  (ofText? text).toOption

/-- What an attempt to use the file at a path comes to: the settings in it if it can be used, and
nothing otherwise. It can also come to nothing by an outage. -/
def Attempted (world : World) (path : String) (attempt : Option Settings) : Prop :=
  attempt = settingsAt? world path ∨ (attempt = none ∧ ¬ world.Undisturbed)

/-- Whether two worlds have the same files, and no new outages have come up. -/
structure SameFiles (world now : World) : Prop where
  tree : now.tree = world.tree
  here : now.here = world.here
  calm : world.Undisturbed → now.Undisturbed

namespace SameFiles

theorem refl (world : World) : SameFiles world world :=
  ⟨rfl, rfl, id⟩

theorem trans {middle : World} (first : SameFiles world middle) (second : SameFiles middle now) :
    SameFiles world now where
  tree := second.tree.trans first.tree
  here := second.here.trans first.here
  calm := second.calm ∘ first.calm

theorem attempted (same : SameFiles world now) {attempt : Option Settings}
    (attempted : Attempted now path attempt) : Attempted world path attempt := by
  rcases attempted with found | ⟨none, disturbed⟩
  · refine .inl (found.trans ?_)
    rw [settingsAt?, settingsAt?, same.tree, same.here]
  · exact .inr ⟨none, fun calm => disturbed (same.calm calm)⟩

end SameFiles

theorem tellOne_sameFiles (filter : CommandLine.LogFilter) (event : Event) (world : World) :
    SameFiles world ((CommandLine.tellOne host filter event).run world).2 := by
  rw [CommandLine.tellOne, CommandLine.tellAll]
  split
  · exact ⟨rfl, rfl, id⟩
  · exact .refl world

/-- A file that does not exist cannot be used. -/
theorem settingsAt?_of_not_pathExists (absent : world.tree.pathExists world.here path = false) :
    settingsAt? world path = none := by
  cases found : world.tree.read world.here path with
  | error error =>
    rw [settingsAt?, found]
    rfl
  | ok content => simp [FileTree.pathExists_of_read found] at absent

theorem settingsAt?_of_read {content : ByteArray}
    (read : world.tree.read world.here path = .ok content) :
    settingsAt? world path =
      (String.fromUTF8? content).bind fun text => (ofText? text).toOption := by
  rw [settingsAt?, read]
  rfl

/-- Loading a file is an attempt to use it. -/
theorem loadFile_attempted (path : String) (world : World) :
    Attempted world path ((loadFile host path).run world).1.toOption ∧
      SameFiles world ((loadFile host path).run world).2 := by
  have isCall : host.readFile path = call fun world => do
      let content ← world.tree.read world.here path
      return (content, world) := rfl
  rw [loadFile, isCall, run_bind]
  rcases call_cases _ world with ⟨error, ran⟩ | ⟨content, after, acted, ran⟩
  · rw [ran]
    refine ⟨?_, rfl, rfl, Undisturbed.called⟩
    by_cases calm : world.Undisturbed
    · obtain ⟨cause, failed⟩ := calm.exists_error ran
      have unread : world.tree.read world.here path = .error cause :=
        Outcome.map_eq_error_iff.mp failed
      exact .inl (by rw [settingsAt?, unread]; rfl)
    · exact .inr ⟨rfl, calm⟩
  · rw [ran]
    obtain ⟨bytes, read, same⟩ := Outcome.map_eq_ok_iff.mp acted
    obtain ⟨rfl, rfl⟩ := Prod.mk.inj same
    have found : world.tree.read world.here path = .ok bytes := read
    have noticed : SameFiles world world.called := ⟨rfl, rfl, Undisturbed.called⟩
    have held := settingsAt?_of_read found
    dsimp only
    cases decoded : String.fromUTF8? bytes with
    | none =>
      rw [decoded] at held
      exact ⟨.inl held.symm, noticed⟩
    | some text =>
      rw [decoded] at held
      exact ⟨.inl held.symm, noticed⟩

/-- The first of some files that can be used gives the settings. -/
theorem loadFirst_attempts {tell : Event → StateM World Unit}
    (quiet : ∀ event world, SameFiles world ((tell event).run world).2) (paths : List String)
    (world : World) :
    ∃ attempts, List.Forall₂ (Attempted world) paths attempts ∧
      ((loadFirst host tell paths).run world).1 = (attempts.findSome? id).getD {} := by
  induction paths generalizing world with
  | nil => exact ⟨[], .nil, rfl⟩
  | cons path rest ih =>
    have looked : (host.pathExists path).run world =
        (world.tree.pathExists world.here path, world) := rfl
    rw [loadFirst, run_bind, looked]
    cases there : world.tree.pathExists world.here path with
    | false =>
      obtain ⟨attempts, each, result⟩ := ih world
      have absent := settingsAt?_of_not_pathExists there
      exact ⟨none :: attempts, .cons (.inl absent.symm) each, result⟩
    | true =>
      obtain ⟨attempted, same⟩ := loadFile_attempted path world
      rw [if_pos rfl, run_bind]
      cases loaded : ((loadFile host path).run world).1 with
      | ok settings =>
        rw [loaded] at attempted
        refine ⟨some settings :: rest.map (settingsAt? world), .cons attempted ?_, rfl⟩
        exact List.forall₂_map_right_iff.mpr (List.forall₂_same.mpr fun _ _ => .inl rfl)
      | error error =>
        rw [loaded] at attempted
        have told := same.trans (quiet (ignoredEvent path error) _)
        obtain ⟨attempts, each, result⟩ := ih _
        refine ⟨none :: attempts, .cons attempted (each.imp fun _ _ => told.attempted), ?_⟩
        exact result

/-! ## Where settings are looked for -/

/-- `NamesDirectory world directory` says that the environment names the directory of the user's
settings by a path from the root. -/
structure NamesDirectory (world : World) (directory : String) : Prop where
  given : world.environmentValue? "XDG_CONFIG_HOME" = some directory
  rooted : directory.toList.head? = some '/'

/-- `LivesIn world home` says where the user's home directory is: where the environment says, or,
where that says nothing, where the user's account has it. -/
inductive LivesIn (world : World) : String → Prop
  | environment {home : String} (given : world.environmentValue? "HOME" = some home)
      (present : home ≠ "") : LivesIn world home
  | account {home : String} (silent : ∀ named, world.environmentValue? "HOME" = some named →
      named = "") (kept : world.accountHome = some home) (present : home ≠ "") : LivesIn world home

/-- The files in which the settings of a run without an own file are looked for, in order: the
user's file and then the system's. -/
inductive Candidates (world : World) : List String → Prop
  | named {directory : String} (names : NamesDirectory world directory) :
      Candidates world
        [Path.join directory "json2robot/config.toml", "/etc/json2robot/config.toml"]
  | below {home : String} (unnamed : ∀ directory, ¬ NamesDirectory world directory)
      (lives : LivesIn world home) :
      Candidates world
        [Path.join (Path.join home ".config") "json2robot/config.toml",
          "/etc/json2robot/config.toml"]
  | system (unnamed : ∀ directory, ¬ NamesDirectory world directory)
      (homeless : ∀ home, ¬ LivesIn world home) : Candidates world ["/etc/json2robot/config.toml"]

theorem filter_isEmpty_eq_some_iff {given : Option String} {text : String} :
    given.filter (!·.isEmpty) = some text ↔ given = some text ∧ text ≠ "" := by
  rw [Option.filter_eq_some_iff, Bool.not_eq_true', String.isEmpty_eq_false_iff]

theorem home?_eq_some_iff {home : String} : world.home? = some home ↔ LivesIn world home := by
  rw [World.home?]
  cases named : (world.environmentValue? "HOME").filter (!·.isEmpty) with
  | some other =>
    obtain ⟨given, present⟩ := filter_isEmpty_eq_some_iff.mp named
    constructor
    · intro same
      obtain rfl : other = home := Option.some.inj same
      exact .environment given present
    · intro lives
      cases lives with
      | environment also => exact given.symm.trans also
      | account silent => exact absurd (silent other given) present
  | none =>
    have silent : ∀ other, world.environmentValue? "HOME" = some other → other = "" := by
      intro other given
      by_contra present
      cases named.symm.trans (filter_isEmpty_eq_some_iff.mpr ⟨given, present⟩)
    change world.accountHome.filter (!·.isEmpty) = some home ↔ _
    rw [filter_isEmpty_eq_some_iff]
    constructor
    · rintro ⟨kept, present⟩
      exact .account silent kept present
    · intro lives
      cases lives with
      | environment given present => exact absurd (silent home given) present
      | account _ kept present => exact ⟨kept, present⟩

/-- The directory of the user's settings in a world, if it is known. -/
def userDirectory? (world : World) : Option String :=
  match (world.environmentValue? "XDG_CONFIG_HOME").filter Path.isAbsolute with
  | some directory => some directory
  | none => world.home?.map (Path.join · ".config")

theorem settingsDirectory?_run (world : World) :
    (settingsDirectory? host).run world = (userDirectory? world, world) := by
  have given : (host.environment? "XDG_CONFIG_HOME").run world =
      (world.environmentValue? "XDG_CONFIG_HOME", world) := rfl
  have inHome : (settingsDirectory?.inHome host).run world =
      (world.home?.map (Path.join · ".config"), world) := by
    have lives : (homeDirectory? host).run world = (world.home?, world) := homeDirectory?_run world
    rw [settingsDirectory?.inHome, run_bind, lives, run_pure]
  rw [settingsDirectory?, run_bind, given, userDirectory?]
  cases world.environmentValue? "XDG_CONFIG_HOME" with
  | none => exact inHome
  | some directory =>
    dsimp only
    rw [Option.filter_some]
    by_cases rooted : Path.isAbsolute directory
    · rw [if_pos rooted, if_pos rooted, run_pure]
    · rw [if_neg rooted, if_neg rooted]
      exact inHome

theorem standardFiles_run (world : World) :
    (standardFiles host).run world =
      (((userDirectory? world).map (Path.join · "json2robot/config.toml")).toList
        ++ ["/etc/json2robot/config.toml"], world) := by
  rw [standardFiles, run_bind, settingsDirectory?_run, run_pure]

theorem filter_isAbsolute_eq_some_iff {directory : String} :
    (world.environmentValue? "XDG_CONFIG_HOME").filter Path.isAbsolute = some directory ↔
      NamesDirectory world directory := by
  rw [Option.filter_eq_some_iff, Path.isAbsolute, beq_iff_eq]
  exact ⟨fun both => ⟨both.1, both.2⟩, fun names => ⟨names.given, names.rooted⟩⟩

/-- The candidates are those files in which settings are looked for. -/
theorem Candidates.eq_standardFiles {files : List String} (candidates : Candidates world files) :
    ((standardFiles host).run world).1 = files := by
  rw [standardFiles_run, userDirectory?]
  have unknown (unnamed : ∀ directory, ¬ NamesDirectory world directory) :
      (world.environmentValue? "XDG_CONFIG_HOME").filter Path.isAbsolute = none :=
    Option.eq_none_iff_forall_ne_some.mpr fun directory named =>
      unnamed directory (filter_isAbsolute_eq_some_iff.mp named)
  cases candidates with
  | named names =>
    rw [filter_isAbsolute_eq_some_iff.mpr names]
    rfl
  | below unnamed lives =>
    rw [unknown unnamed, home?_eq_some_iff.mpr lives]
    rfl
  | system unnamed homeless =>
    have nowhere : world.home? = none := Option.eq_none_iff_forall_ne_some.mpr fun home lives =>
      homeless home (home?_eq_some_iff.mp lives)
    rw [unknown unnamed, nowhere]
    rfl

theorem candidates_standardFiles (world : World) :
    Candidates world ((standardFiles host).run world).1 := by
  rw [standardFiles_run, userDirectory?]
  cases named : (world.environmentValue? "XDG_CONFIG_HOME").filter Path.isAbsolute with
  | some directory => exact .named (filter_isAbsolute_eq_some_iff.mp named)
  | none =>
    have unnamed (directory : String) (names : NamesDirectory world directory) : False := by
      cases named.symm.trans (filter_isAbsolute_eq_some_iff.mpr names)
    dsimp only
    cases lives : world.home? with
    | some home => exact .below unnamed (home?_eq_some_iff.mp lives)
    | none =>
      have homeless (home : String) (livesIn : LivesIn world home) : False := by
        cases lives.symm.trans (home?_eq_some_iff.mpr livesIn)
      exact .system unnamed homeless

/-- Settings are looked for in the candidates and nowhere else. -/
theorem candidates_iff {files : List String} :
    Candidates world files ↔ ((standardFiles host).run world).1 = files := by
  constructor
  · exact Candidates.eq_standardFiles
  · rintro rfl
    exact candidates_standardFiles world

/-! ## Where records go -/

/-- `RecordsTo world settings path` says where settings ask for records: nowhere if the audit log is
off or has no path, and else at its path, in which the home directory stands for a leading tilde. -/
inductive RecordsTo (world : World) (settings : Settings) : Option String → Prop
  | off (unasked : settings.auditLog = false ∨ settings.auditPath = none) :
      RecordsTo world settings none
  | home {home rest : String} (asked : settings.auditLog = true)
      (given : settings.auditPath = some ("~/" ++ rest)) (lives : LivesIn world home) :
      RecordsTo world settings (some (Path.join home rest))
  | plain {path : String} (asked : settings.auditLog = true)
      (given : settings.auditPath = some path)
      (homeless : ∀ rest, path = "~/" ++ rest → ∀ home, ¬ LivesIn world home) :
      RecordsTo world settings (some path)

theorem expandHome_cases (home : Option String) (path : String) :
    (∃ directory rest, home = some directory ∧ path = "~/" ++ rest ∧
        expandHome home path = Path.join directory rest) ∨
      (∀ rest, path = "~/" ++ rest → home = none) ∧ expandHome home path = path := by
  unfold expandHome
  split
  case h_1 directory rest isTilde =>
    refine .inl ⟨directory, String.ofList rest, rfl, ?_, rfl⟩
    rw [← String.toList_inj, isTilde]
    simp
  case h_2 other =>
    refine .inr ⟨fun rest isTilde => Option.eq_none_iff_forall_ne_some.mpr ?_, rfl⟩
    exact fun directory lives => other directory rest.toList lives (by simp [isTilde])

/-- Records go where the settings ask for them. -/
theorem recordsTo_auditFile? (world : World) (settings : Settings) :
    RecordsTo world settings (settings.auditFile? world.home?) := by
  rw [auditFile?]
  cases asked : settings.auditLog with
  | false => exact .off (.inl asked)
  | true =>
    rw [if_pos rfl]
    cases given : settings.auditPath with
    | none => exact .off (.inr given)
    | some path =>
      rw [Option.map_some]
      rcases expandHome_cases world.home? path with
        ⟨home, rest, lives, rfl, expanded⟩ | ⟨homeless, kept⟩
      · rw [expanded]
        exact .home asked given (home?_eq_some_iff.mp lives)
      · rw [kept]
        refine .plain asked given fun rest isTilde home lives => ?_
        cases (homeless rest isTilde).symm.trans (home?_eq_some_iff.mpr lives)

/-! ## What is loaded -/

theorem loadStandard_attempts (filter : CommandLine.LogFilter) {files : List String}
    (candidates : Candidates world files) :
    ∃ attempts, List.Forall₂ (Attempted world) files attempts ∧
      ((loadStandard host (CommandLine.tellOne host filter)).run world).1 =
        (attempts.findSome? id).getD {} := by
  have unchanged : ((standardFiles host).run world).2 = world := by rw [standardFiles_run]
  rw [loadStandard, run_bind, unchanged, candidates_iff.mp candidates]
  exact loadFirst_attempts (tellOne_sameFiles filter) files world

/-- Without outages the first file that can be used gives the settings. -/
theorem loadStandard_of_undisturbed (filter : CommandLine.LogFilter) (calm : world.Undisturbed)
    {files : List String} (candidates : Candidates world files) :
    ((loadStandard host (CommandLine.tellOne host filter)).run world).1 =
      (files.findSome? (settingsAt? world)).getD {} := by
  obtain ⟨attempts, each, result⟩ := loadStandard_attempts filter candidates
  have found : List.Forall₂ (settingsAt? world · = ·) files attempts :=
    each.imp fun _ _ attempted => attempted.elim Eq.symm fun disturbed => absurd calm disturbed.2
  have all : files.map (settingsAt? world) = attempts := by
    rw [← List.forall₂_eq_eq_eq]
    exact List.forall₂_map_left_iff.mpr found
  rw [result, ← all, List.findSome?_map]
  rfl

/-- **Settings are read as they are written, or refused.** A document whose sections are tables and
whose choices are texts is read exactly when every known key has a value of its type, no
replacement is for an unknown level or list and the separator is wide enough. What is read is what
is written, with the default for all that is absent. Without an own file, the settings of a run are
those of the first candidate that can be used, or else the defaults. -/
theorem read_as_written :
    (∀ text document, Toml.ofText? text = .ok document → Shaped document →
      ((∃ settings, ofText? text = .ok settings) ↔
        WellTyped document ∧ leastSeparatorWidth ≤ writtenWidth document) ∧
      (∀ settings, ofText? text = .ok settings ↔
        Describes document settings ∧ leastSeparatorWidth ≤ settings.separatorWidth) ∧
      (¬ WellTyped document → ∃ cause, ofText? text = .error (.value cause)) ∧
      (WellTyped document → writtenWidth document < leastSeparatorWidth →
        ofText? text = .error (.narrowSeparator (writtenWidth document)))) ∧
    ∀ filter world,
      let loaded := ((loadStandard host (CommandLine.tellOne host filter)).run world).1
      (∃ files, Candidates world files) ∧
        ∀ files, Candidates world files →
          (world.Undisturbed → loaded = (files.findSome? (settingsAt? world)).getD {}) ∧
            ∃ attempts, List.Forall₂ (Attempted world) files attempts ∧
              loaded = (attempts.findSome? id).getD {} := by
  refine ⟨fun text document parsed shaped => ?_, fun filter world => ?_⟩
  · exact ⟨exists_ofText?_eq_ok_iff parsed shaped, fun _ => ofText?_eq_ok_iff parsed shaped,
      ofText?_of_not_wellTyped parsed shaped, ofText?_of_narrow parsed shaped⟩
  · exact ⟨⟨_, candidates_iff.mpr rfl⟩, fun files candidates =>
      ⟨fun calm => loadStandard_of_undisturbed filter calm candidates,
        loadStandard_attempts filter candidates⟩⟩

/-- A document with replacements for one list and a narrow separator that is wide enough. -/
def sparseText : String :=
  "[patterns.strict]\ndangerous_commands = [\"reboot\"]\n[robot]\nseparator_width = 2\nunit = 1\n"

/-- The entries of that document. -/
def sparseDocument : Fields :=
  [("patterns", .table [("strict", .table [("dangerous_commands", .array [.string "reboot"])])]),
    ("robot", .table [("separator_width", .integer 2), ("unit", .integer 1)])]

theorem shaped_sparse : Shaped sparseDocument where
  sections := by simp [sparseDocument]
  overrides := by simp [sparseDocument, sectionFields, lookup?]
  choices := by simp [sparseDocument, sectionFields, lookup?]

theorem wellTyped_sparse : WellTyped sparseDocument := by
  have patterns : sectionFields sparseDocument "patterns" =
      [("strict", .table [("dangerous_commands", .array [.string "reboot"])])] := by
    simp [sparseDocument, sectionFields, lookup?]
  constructor
  case levels =>
    intro entry member
    exact ⟨.strict, congrArg Prod.fst (List.mem_singleton.mp (patterns ▸ member))⟩
  case lists =>
    rw [patterns]
    rintro entry member fields isTable field fieldMember
    obtain rfl := List.mem_singleton.mp member
    obtain rfl := Toml.table.inj isTable
    obtain rfl := List.mem_singleton.mp fieldMember
    exact ⟨⟨.command, rfl⟩, ["reboot"], rfl⟩
  case separatorWidth =>
    intro value member
    exact ⟨2, by simpa [sparseDocument, sectionFields, lookup?] using member⟩
  all_goals simp [sparseDocument, sectionFields, lookup?]

/-- What the system's settings say. -/
def sparseSettings : Settings :=
  { overrides := { strict := some { commands := some ["reboot"] } }, separatorWidth := 2 }

/-- A world with settings below a home directory, which are misspelt, with settings below another
directory and with the system's settings. -/
def manyWorld (environment : List (String × String)) (accountHome : Option String) : World where
  environment := environment
  accountHome := accountHome
  tree := ⟨[
    (["home"], .directory), (["home", ".config"], .directory),
    (["home", ".config", "json2robot"], .directory),
    (["home", ".config", "json2robot", "config.toml"],
      .file ⟨0, "[general]\nsecurity_level = \"Strict\"\n".toUTF8, 0o644⟩),
    (["x"], .directory), (["x", "json2robot"], .directory),
    (["x", "json2robot", "config.toml"],
      .file ⟨1, "[general]\nsecurity_level = \"strict\"\n".toUTF8, 0o644⟩),
    (["etc"], .directory), (["etc", "json2robot"], .directory),
    (["etc", "json2robot", "config.toml"], .file ⟨2, sparseText.toUTF8, 0o644⟩)]⟩

/-- With a full path for the directory of the settings, the settings there are read. Without one,
those below the home directory are passed over and the system's are read, whether the environment
names the home directory or only the account has it. -/
theorem read_as_written_sparse :
    Toml.ofText? sparseText = .ok sparseDocument ∧ Shaped sparseDocument ∧
      (∃ settings, ofText? sparseText = .ok settings) ∧
      (∀ environment accountHome, (manyWorld environment accountHome).Undisturbed) ∧
      let load (world : World) : Settings :=
        ((loadStandard host (CommandLine.tellOne host Severity.warn.rank)).run world).1
      let own := manyWorld [("XDG_CONFIG_HOME", "/x"), ("HOME", "/home")] none
      let named := manyWorld [("XDG_CONFIG_HOME", "x"), ("HOME", "/home")] (some "/x")
      let kept := manyWorld [("HOME", "")] (some "/home")
      (Candidates own ["/x/json2robot/config.toml", "/etc/json2robot/config.toml"] ∧
        load own = { level := .strict }) ∧
      ∀ world ∈ [named, kept],
        Candidates world
          ["/home/.config/json2robot/config.toml", "/etc/json2robot/config.toml"] ∧
        load world = sparseSettings := by
  have parsed : Toml.ofText? sparseText = .ok sparseDocument := by decide +kernel
  have reads := (read_as_written.1 sparseText sparseDocument parsed shaped_sparse).1.mpr
    ⟨wellTyped_sparse, by decide +kernel⟩
  have undisturbed : ∀ environment accountHome,
      (manyWorld environment accountHome).Undisturbed := fun _ _ => List.forall_mem_nil _
  refine ⟨parsed, shaped_sparse, reads, undisturbed, ?_⟩
  intro load own named kept
  -- The candidates of each world are told by the environment and the account alone.
  have found {world : World} {files : List String} {settings : Settings}
      (calm : world.Undisturbed) (candidates : Candidates world files)
      (first : files.findSome? (settingsAt? world) = some settings) :
      Candidates world files ∧ load world = settings :=
    ⟨candidates, ((read_as_written.2 Severity.warn.rank world).2 files candidates).1 calm |>.trans
      (congrArg (·.getD {}) first)⟩
  have beside : Path.join "/x" "json2robot/config.toml" = "/x/json2robot/config.toml" := by
    decide +kernel
  have below : Path.join (Path.join "/home" ".config") "json2robot/config.toml" =
      "/home/.config/json2robot/config.toml" := by
    decide +kernel
  have ofOwn : Candidates own ["/x/json2robot/config.toml", "/etc/json2robot/config.toml"] :=
    beside ▸ .named ⟨rfl, rfl⟩
  refine ⟨found (undisturbed _ _) ofOwn (by decide +kernel), ?_⟩
  rw [List.forall_mem_cons, List.forall_mem_singleton]
  constructor
  · have unnamed (directory : String) : ¬ NamesDirectory named directory := by
      rintro ⟨given, rooted⟩
      cases given
      cases rooted
    exact found (undisturbed _ _) (below ▸ .below unnamed (.environment rfl (by decide)))
      (by decide +kernel)
  · have unnamed (directory : String) : ¬ NamesDirectory kept directory := by
      rintro ⟨given, _⟩
      cases given
    have silent (other : String) (given : kept.environmentValue? "HOME" = some other) :
        other = "" :=
      (Option.some.inj given).symm
    exact found (undisturbed _ _) (below ▸ .below unnamed (.account silent rfl (by decide)))
      (by decide +kernel)

end ScreenedSuite.Settings
