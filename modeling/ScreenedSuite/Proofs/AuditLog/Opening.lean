import ScreenedSuite.AuditLog
import ScreenedSuite.Proofs.Storage.Ways
import ScreenedSuite.Proofs.World.Extension

/-! # Opening audit logs

The directories on the way to a log are made before it is opened, from the innermost upwards and
then down again (`ScreenedSuite.AuditLog.makeDirectories_climb`). Without outages a log is opened
exactly if it can be (`ScreenedSuite.AuditLog.isEnabled_of_openable`,
`ScreenedSuite.AuditLog.openable_of_isEnabled`).
-/

namespace ScreenedSuite

open World

/-! ## Making directories -/

namespace AuditLog

variable {region : List String → List String → FileNode → Prop}

theorem settle_within (path : String) (outcome : Except StorageError Unit) :
    Within region (makeDirectories.settle steady path outcome) := by
  cases outcome with
  | ok => exact .pure _
  | error error =>
    refine (Within.isDirectory path).bind fun isDirectory => ?_
    split
    · exact .pure _
    · exact .pure _

/-- Another attempt to make a directory, once those above it are made. -/
def retry (path : String) : Except StorageError Unit → StateM World (Except StorageError Unit)
  | .error error => return .error error
  | .ok () => do makeDirectories.settle steady path (← steady.makeDirectory path)

/-- What follows the first attempt to make a directory. -/
def proceed (path : String) (above : List String) :
    Except StorageError Unit → StateM World (Except StorageError Unit)
  | .ok () => return .ok ()
  | .error .notFound => makeDirectories steady above >>= retry path
  | .error error => makeDirectories.settle steady path (.error error)

theorem makeDirectories_cons (path : String) (above : List String) :
    makeDirectories steady (path :: above) = steady.makeDirectory path >>= proceed path above := by
  rw [makeDirectories]
  rfl

theorem retry_within {path : String} (making : Within region (steady.makeDirectory path))
    (madeAbove : Except StorageError Unit) : Within region (retry path madeAbove) := by
  cases madeAbove with
  | error error => exact .pure _
  | ok => exact making.bind fun again => settle_within path again

theorem proceed_within {path : String} {above : List String}
    (making : Within region (steady.makeDirectory path))
    (higher : Within region (makeDirectories steady above))
    (made : Except StorageError Unit) : Within region (proceed path above made) := by
  unfold proceed
  split
  · exact .pure _
  · exact higher.bind (retry_within making)
  · exact settle_within path _

theorem makeDirectories_within {paths : List String}
    (inside : ∀ path ∈ paths, ∀ here, FileTree.placeOf here path ≠ FileTree.start here path →
      region here (FileTree.placeOf here path) .directory) :
    Within region (makeDirectories steady paths) := by
  induction paths with
  | nil => exact .pure _
  | cons path above ih =>
    have making := Within.makeDirectory (inside path List.mem_cons_self)
    have higher := ih fun other member => inside other (List.mem_cons_of_mem _ member)
    rw [makeDirectories_cons]
    exact making.bind (proceed_within making higher)

/-- Making directories only makes directories. -/
theorem makeDirectories_within_directories (paths : List String) :
    Within (fun _ _ node => node = .directory) (makeDirectories steady paths) :=
  makeDirectories_within fun _ _ _ _ => rfl

variable {path : String} {world : World}

/-- An attempt to make the last directory of a path succeeds where the others stand. -/
theorem makeDirectory_run_of_stands (clear : world.tree.Clear world.here path)
    (nonempty : path ≠ "")
    (stands : ∀ place, FileTree.Passes world.here path place →
      world.tree.node? place = some .directory)
    (noOutage : world.outages.head?.join = none) :
    ∃ made now, (steady.makeDirectory path).run world = (made, now) ∧
      (made = .ok () ∨ made = .error .alreadyExists ∧ now.tree.isDirectory now.here path = true) ∧
      now.tree.Stands world.here path := by
  have readable := clear.readable nonempty
  have short := FileTree.short_of_steps clear.short
  have found := FileTree.followNew_of_stands clear.trimmed readable short clear.start stands
  have fileless := clear.way _ (FileTree.leadsThrough_placeOf world.here path)
  have ran := makeDirectory_run noOutage path
  rcases FileTree.makeDirectory_of_followNew found fileless with ⟨made, free⟩ | ⟨made, standing⟩
  · rw [made] at ran
    refine ⟨_, _, ran, .inl rfl, fun place through => ?_⟩
    have below := FileTree.ne_nil_of_node?_eq_none free
    by_cases isEnd : place = FileTree.placeOf world.here path
    · rw [isEnd]
      exact FileTree.node?_put_self _ below _
    · have passes := (FileTree.leadsThrough_iff.mp through).resolve_right isEnd
      exact (FileTree.node?_put_of_ne _ isEnd _).trans (stands place passes)
  · rw [made] at ran
    have allStand : world.tree.Stands world.here path := fun place through =>
      (FileTree.leadsThrough_iff.mp through).elim (stands place) fun isEnd => isEnd ▸ standing
    exact ⟨_, _, ran, .inr ⟨rfl, allStand.isDirectory readable short⟩, allStand⟩

theorem settle_run {made : Except StorageError Unit}
    (good : made = .ok () ∨ ∃ error, made = .error error ∧
      world.tree.isDirectory world.here path = true) :
    (makeDirectories.settle steady path made).run world = (.ok (), world) := by
  rcases good with rfl | ⟨error, rfl, isDirectory⟩
  · rfl
  · have looked : (steady.isDirectory path).run world = (true, world) :=
      Prod.ext isDirectory rfl
    rw [makeDirectories.settle, run_bind, looked]
    rfl

/-- Once the directories above it are made, another attempt to make a directory succeeds. -/
theorem retry_run_of_stands (clear : world.tree.Clear world.here path) (nonempty : path ≠ "")
    (stands : ∀ place, FileTree.Passes world.here path place →
      world.tree.node? place = some .directory)
    (calm : world.UndisturbedUntil ((retry path (.ok ())).run world).2) :
    ∃ now, (retry path (.ok ())).run world = (.ok (), now) ∧ now.tree.Stands world.here path := by
  rw [retry] at calm ⊢
  have settled (made : Except StorageError Unit) :
      Within nowhere (makeDirectories.settle steady path made) :=
    settle_within path made
  have noOutage := calm.head_of_bind (makeDirectory_outages path world) settled
  obtain ⟨made, now, ran, good, allStand⟩ :=
    makeDirectory_run_of_stands clear nonempty stands noOutage
  refine ⟨now, ?_, allStand⟩
  rw [run_bind, ran]
  exact settle_run (good.imp_right fun ⟨isError, isDirectory⟩ => ⟨_, isError, isDirectory⟩)

/-- The last directory of a path is made, if those above it can be made and no outage comes up. -/
theorem makeDirectories_cons_run {above : String} {paths : List String}
    (clear : world.tree.Clear world.here path) (parent : Path.parent? path = some above)
    (climb : world.called.UndisturbedUntil ((makeDirectories steady paths).run world.called).2 →
      ∃ now, (makeDirectories steady paths).run world.called = (.ok (), now) ∧
        now.tree.Stands world.here above)
    (calm : world.UndisturbedUntil ((makeDirectories steady (path :: paths)).run world).2) :
    ∃ now, (makeDirectories steady (path :: paths)).run world = (.ok (), now) ∧
      now.tree.Stands world.here path := by
  have nonempty : path ≠ "" := by
    rintro rfl
    cases parent
  have higher := makeDirectories_within_directories paths
  have making : Within (fun _ _ node => node = .directory) (steady.makeDirectory path) :=
    .makeDirectory fun _ _ => rfl
  have onward := proceed_within making higher
  rw [makeDirectories_cons] at calm ⊢
  have noOutage := calm.head_of_bind (makeDirectory_outages path world) onward
  rcases clear.makeDirectory_cases nonempty with stands | missing
  · obtain ⟨made, now, ran, good, allStand⟩ :=
      makeDirectory_run_of_stands clear nonempty stands noOutage
    refine ⟨now, ?_, allStand⟩
    rw [run_bind, ran]
    rcases good with rfl | ⟨rfl, isDirectory⟩
    · rfl
    · exact settle_run (.inr ⟨_, rfl, isDirectory⟩)
  · -- The directories above are made first, and then the attempt is made again.
    have first := makeDirectory_run noOutage path
    rw [missing] at first
    have calmLater := (calm.of_bind making onward).2
    rw [run_bind]
    rw [first] at calmLater ⊢
    obtain ⟨calmAbove, calmAgain⟩ := calmLater.of_bind higher (retry_within making)
    obtain ⟨now, ran, standsAbove⟩ := climb calmAbove
    have grown := higher world.called
    rw [ran] at calmAgain grown
    have here : now.here = world.here := grown.beside.here
    have clearNow : now.tree.Clear now.here path :=
      here ▸ clear.grows (fun _ _ inside => inside) grown.tree
    have stands : ∀ place, FileTree.Passes now.here path place →
        now.tree.node? place = some .directory := fun place passes =>
      standsAbove place (FileTree.leadsThrough_of_passes parent (here ▸ passes))
    rw [proceed, run_bind, ran]
    exact here ▸ retry_run_of_stands clearNow nonempty stands calmAgain

/-- The directories along a path are made from its end upwards and then down again, if nothing
stands in their way and no outage comes up. -/
theorem makeDirectories_climb {bound : Nat} (clear : world.tree.Clear world.here path)
    (enough : (Path.steps path).length ≤ bound)
    (calm : world.UndisturbedUntil
      ((makeDirectories steady (Path.ancestors.climb bound path)).run world).2) :
    ∃ now, (makeDirectories steady (Path.ancestors.climb bound path)).run world = (.ok (), now) ∧
      now.tree.Stands world.here path := by
  induction bound generalizing path world with
  | zero =>
    have stays := List.length_eq_zero_iff.mp (Nat.le_zero.mp enough)
    exact ⟨world, rfl, clear.stands_of_steps_eq_nil stays⟩
  | succ bound ih =>
    rw [Path.ancestors.climb] at calm ⊢
    cases parent : Path.parent? path with
    | none =>
      have stays := Path.steps_eq_nil_of_parent? parent
      exact ⟨world, rfl, clear.stands_of_steps_eq_nil stays⟩
    | some above =>
      have unequal : ¬ (path == "") = true := by
        rintro empty
        rw [eq_of_beq empty] at parent
        cases parent
      have steps_le : (Path.steps above).length ≤ bound := by
        rw [(Path.parent?_eq_some parent).1, List.length_dropLast]
        omega
      have clearAbove : world.called.tree.Clear world.called.here above := clear.parent parent
      simp only [parent, if_neg unequal] at calm ⊢
      exact makeDirectories_cons_run clear parent (ih clearAbove steps_le) calm

/-! ## Opening a log -/

/-- Warn if the directory of a log could not be made. -/
def warnOfParent (tell : Event → StateM World Unit) (parent : String) :
    Except StorageError Unit → StateM World Unit
  | .ok () => return ()
  | .error error => tell (pathWarning "cannot create audit directory" parent error)

/-- Make the directory of a log, warning if that fails. -/
def makeParent (tell : Event → StateM World Unit) (path : String) : StateM World Unit :=
  match Path.parent? path with
  | none => return ()
  | some parent => makeDirectories steady (Path.ancestors parent) >>= warnOfParent tell parent

/-- The log of a file, if it could be opened, and a warning otherwise. -/
def logOf (tell : Event → StateM World Unit) (path : String) :
    Except StorageError Nat → StateM World (AuditLog Nat)
  | .ok file => return ⟨some file⟩
  | .error error => do
    tell (pathWarning "audit logging disabled" path error)
    return off

/-- Open the file of a log, warning if that fails. -/
def openFile (tell : Event → StateM World Unit) (path : String) : StateM World (AuditLog Nat) :=
  steady.openLog path >>= logOf tell path

theorem openAt_eq (tell : Event → StateM World Unit) (path : String) :
    openAt steady tell path = (makeParent tell path >>= fun _ => openFile tell path) := by
  funext world
  change (openAt steady tell path).run world = (_ >>= _ : StateM World _).run world
  unfold openAt makeParent openFile
  cases Path.parent? path with
  | none =>
    simp only [run_bind, run_pure]
    cases ((steady.openLog path).run world).1 with
    | ok file => rfl
    | error error => rfl
  | some parent =>
    simp only [run_bind]
    cases ((makeDirectories steady (Path.ancestors parent)).run world).1 with
    | ok =>
      simp only [run_bind, warnOfParent, run_pure]
      cases ((steady.openLog path).run _).1 with
      | ok file => rfl
      | error error => rfl
    | error error =>
      simp only [run_bind, warnOfParent]
      cases ((steady.openLog path).run _).1 with
      | ok file => rfl
      | error error => rfl

variable {tell : Event → StateM World Unit}

theorem warnOfParent_within (telling : ∀ event, Within nowhere (tell event)) (parent : String)
    (made : Except StorageError Unit) : Within region (warnOfParent tell parent made) := by
  cases made with
  | ok => exact .pure _
  | error error => exact (telling _).of_nowhere

theorem logOf_within (telling : ∀ event, Within nowhere (tell event)) (path : String)
    (opened : Except StorageError Nat) : Within region (logOf tell path opened) := by
  cases opened with
  | ok file => exact .pure _
  | error error => exact (telling _).of_nowhere.bind fun _ => .pure _

/-- The directories of a log are made on the way to it. -/
theorem makeParent_within (telling : ∀ event, Within nowhere (tell event)) (path : String) :
    Within (FileTree.MadeOnWay path) (makeParent tell path) := by
  unfold makeParent
  split
  case h_1 => exact .pure _
  case h_2 parent isParent =>
    have inside : ∀ front ∈ Path.ancestors parent, ∀ here,
        FileTree.placeOf here front ≠ FileTree.start here front →
          FileTree.MadeOnWay path here (FileTree.placeOf here front) .directory := by
      intro front member here apart
      have above := Path.above_of_mem_ancestors member
      have through := FileTree.leadsThrough_of_above here above
      have start : FileTree.start here front = FileTree.start here path := by
        rw [FileTree.start, FileTree.start, above.1, (Path.parent?_above isParent).1]
      rw [start] at apart
      refine ⟨FileTree.passes_of_leadsThrough isParent (fun stays => ?_) through, apart, rfl⟩
      have none : Path.steps front = [] := by
        have initial := above.2
        rw [(Path.parent?_eq_some isParent).1, stays] at initial
        exact List.prefix_nil.mp initial
      exact apart (by rw [FileTree.placeOf, none, FileTree.lead_nil, start])
    exact (makeDirectories_within inside).bind (warnOfParent_within telling parent)

theorem openFile_within (telling : ∀ event, Within nowhere (tell event)) (path : String) :
    Within (FileTree.MadeFor path) (openFile tell path) :=
  (Within.openLog fun _ file => .inr ⟨rfl, file, rfl⟩).bind (logOf_within telling path)

/-- A log is opened by what is made for it. -/
theorem openAt_within (telling : ∀ event, Within nowhere (tell event)) (path : String) :
    Within (FileTree.MadeFor path) (openAt steady tell path) := by
  rw [openAt_eq]
  exact ((makeParent_within telling path).mono fun _ _ _ => .inl).bind fun _ =>
    openFile_within telling path

/-- A log that was opened records into the file at the place of its path. -/
theorem openAt_file (telling : ∀ event, Within nowhere (tell event)) {path : String}
    {world after : World} {number : Nat}
    (opened : (openAt steady tell path).run world = (⟨some number⟩, after)) :
    ∃ file, after.tree.node? (FileTree.placeOf world.here path) = some (.file file) ∧
      file.number = number := by
  have here := (makeParent_within telling path world).beside.here
  rw [openAt_eq, run_bind, openFile, run_bind] at opened
  generalize ((makeParent tell path).run world).2 = between at here opened
  cases logOpened : ((steady.openLog path).run between).1 with
  | error error =>
    rw [logOpened] at opened
    cases (Prod.mk.inj opened).1
  | ok file =>
    rw [logOpened] at opened
    obtain ⟨sameFile, rfl⟩ := Prod.mk.inj opened
    obtain rfl : file = number := by simpa using sameFile
    exact here ▸ openLog_eq_ok (Prod.ext logOpened rfl)

/-! ## When a log can be opened -/

/-- The directories of a log that can be opened are made. -/
theorem makeParent_run_of_openable (telling : ∀ event, Within nowhere (tell event))
    {above : String} (openable : world.tree.Openable world.here path)
    (parent : Path.parent? path = some above)
    (calm : world.UndisturbedUntil ((makeParent tell path).run world).2) :
    ((makeParent tell path).run world).2.tree.Stands world.here above := by
  have directories := makeDirectories_within_directories (Path.ancestors above)
  have warning (made : Except StorageError Unit) : Within nowhere (warnOfParent tell above made) :=
    warnOfParent_within telling above made
  simp only [makeParent, parent] at calm ⊢
  have calmMaking := (calm.of_bind directories warning).1
  obtain ⟨now, ran, stands⟩ :=
    makeDirectories_climb (openable.clear parent) (Path.length_steps_le above) calmMaking
  rw [run_bind, (warning _ _).tree_eq, Path.ancestors, ran]
  exact stands

/-- A log that can be opened is opened, unless an outage comes up. -/
theorem isEnabled_of_openable (telling : ∀ event, Within nowhere (tell event))
    (openable : world.tree.Openable world.here path)
    (calm : world.UndisturbedUntil ((openAt steady tell path).run world).2) :
    ((openAt steady tell path).run world).1.isEnabled := by
  have making := makeParent_within telling path
  have recording (opened : Except StorageError Nat) : Within nowhere (logOf tell path opened) :=
    logOf_within telling path opened
  rw [openAt_eq] at calm ⊢
  obtain ⟨calmMaking, calmOpening⟩ :=
    calm.of_bind making fun _ => openFile_within telling path
  cases parent : Path.parent? path with
  | none => exact absurd (Path.steps_eq_nil_of_parent? parent) openable.steps_ne_nil
  | some above =>
    have stands := makeParent_run_of_openable telling openable parent calmMaking
    have made := making world
    rw [run_bind]
    generalize ((makeParent tell path).run world).2 = between at *
    have noOutage := calmOpening.head_of_bind (openLog_outages path between) recording
    obtain ⟨opened, success⟩ := openable.openForAppend made.tree parent stands
    rw [← made.beside.here] at success
    rw [openFile, run_bind, openLog_run noOutage success]
    rfl

/-- A log that is opened could be opened. -/
theorem openable_of_isEnabled (telling : ∀ event, Within nowhere (tell event))
    (isOpen : ((openAt steady tell path).run world).1.isEnabled) :
    world.tree.Openable world.here path := by
  have made := makeParent_within telling path world
  rw [openAt_eq, run_bind, openFile, run_bind] at isOpen
  generalize ((makeParent tell path).run world).2 = between at *
  cases logOpened : ((steady.openLog path).run between).1 with
  | error error =>
    rw [logOpened] at isOpen
    cases isOpen
  | ok number =>
    have isCall : steady.openLog path = call fun world => do
      let opened ← world.tree.openForAppend world.here path
      return (opened.1, { world with tree := opened.2 }) := rfl
    rw [isCall] at logOpened
    obtain ⟨opened, success, _⟩ :=
      Outcome.map_eq_ok_iff.mp (call_eq_ok (Prod.ext logOpened rfl))
    rw [← made.beside.here]
    exact FileTree.openable_of_openForAppend (made.beside.here ▸ made.tree) success

end AuditLog

end ScreenedSuite
