import ScreenedSuite.Proofs.Storage.Changes
import ScreenedSuite.World

/-! # Actions that extend a world

Until it records or delivers anything, a run only looks at its world, tells its user something and
adds to the file tree. An action is within a region if every run of it grows the tree there and
leaves all else alone. Sequences of actions within a region are within it
(`ScreenedSuite.World.Within.bind`).

The steady services of a world are its services when nothing outside the world keeps the run from
writing to the standard output and to an open log.
-/

namespace ScreenedSuite.World

variable {α β : Type}

/-! ## Runs of actions -/

@[simp] theorem run_bind (first : StateM World α) (next : α → StateM World β) (world : World) :
    (first >>= next).run world = (next (first.run world).1).run (first.run world).2 :=
  rfl

@[simp] theorem run_pure (value : α) (world : World) :
    (pure value : StateM World α).run world = (value, world) :=
  rfl

/-- A world after one storage call more. -/
def called (world : World) : World :=
  { world with outages := world.outages.tail }

/-- A world in which the next storage call meets no outage. -/
def spared (world : World) : World :=
  { world with outages := none :: world.outages }

/-- Without an outage a call does what it is for, or fails as that does. -/
theorem call_of_head {world : World} (noOutage : world.outages.head?.join = none)
    (action : World → Except StorageError (α × World)) :
    (call action).run world =
      match action world.called with
      | .ok (value, after) => (.ok value, after)
      | .error error => (.error error, world.called) := by
  cases done : action world.called with
  | ok result =>
    rw [called] at done
    simp only [call, StateT.run, noOutage, done]
  | error error =>
    rw [called] at done
    simp only [call, StateT.run, noOutage, called, done]

/-- A call fails and changes nothing, or does what it is for. -/
theorem call_cases (action : World → Except StorageError (α × World)) (world : World) :
    (∃ error, (call action).run world = (.error error, world.called)) ∨
      ∃ value after, action world.called = .ok (value, after) ∧
        (call action).run world = (.ok value, after) := by
  cases outage : world.outages.head?.join with
  | some error =>
    refine .inl ⟨error, ?_⟩
    simp only [call, StateT.run, outage, called]
  | none =>
    rw [call_of_head outage]
    cases done : action world.called with
    | error error => exact .inl ⟨error, rfl⟩
    | ok result => exact .inr ⟨result.1, result.2, rfl, rfl⟩

/-- A call that succeeds does what it is for. -/
theorem call_eq_ok {action : World → Except StorageError (α × World)} {world after : World}
    {value : α} (done : (call action).run world = (.ok value, after)) :
    action world.called = .ok (value, after) := by
  rcases call_cases action world with ⟨error, ran⟩ | ⟨other, final, acted, ran⟩
  · rw [ran] at done
    cases (Prod.mk.inj done).1
  · rw [ran] at done
    obtain ⟨sameValue, rfl⟩ := Prod.mk.inj done
    rw [acted, Except.ok.inj sameValue]

/-- Whether no storage call to come fails for a reason outside the world. -/
def Undisturbed (world : World) : Prop :=
  ∀ outage ∈ world.outages, outage = none

theorem Undisturbed.called {world : World} (calm : world.Undisturbed) :
    world.called.Undisturbed :=
  fun outage member => calm outage (List.mem_of_mem_tail member)

/-- Whether none of the storage calls that lead from a world to a later one fails for a reason
outside the world. -/
def UndisturbedUntil (world after : World) : Prop :=
  ∀ met, world.outages = met ++ after.outages → ∀ outage ∈ met, outage = none

theorem UndisturbedUntil.split {world middle after : World}
    (calm : world.UndisturbedUntil after) (first : middle.outages <:+ world.outages)
    (second : after.outages <:+ middle.outages) :
    world.UndisturbedUntil middle ∧ middle.UndisturbedUntil after := by
  obtain ⟨early, isEarly⟩ := first
  obtain ⟨late, isLate⟩ := second
  constructor
  · intro met isMet outage member
    refine calm (met ++ late) ?_ outage (List.mem_append_left late member)
    rw [isMet, ← isLate, List.append_assoc]
  · intro met isMet outage member
    refine calm (early ++ met) ?_ outage (List.mem_append_right early member)
    rw [← isEarly, isMet, List.append_assoc]

/-- A storage call before which no call is disturbed meets no outage itself. -/
theorem UndisturbedUntil.head {world after : World} (calm : world.UndisturbedUntil after)
    (later : after.outages <:+ world.outages.tail) : world.outages.head?.join = none := by
  cases outages : world.outages with
  | nil => rfl
  | cons outage rest =>
    rw [outages] at later
    obtain ⟨met, isMet⟩ := later
    have split : world.outages = (outage :: met) ++ after.outages := by
      rw [outages, List.cons_append, isMet, List.tail_cons]
    exact calm (outage :: met) split outage List.mem_cons_self

/-- Undisturbed, a call fails only if what it is for fails. -/
theorem Undisturbed.exists_error {world after : World} (calm : world.Undisturbed)
    {action : World → Except StorageError (α × World)} {error : StorageError}
    (failed : (call action).run world = (.error error, after)) :
    ∃ cause, action world.called = .error cause := by
  have noOutage : world.outages.head?.join = none := by
    cases outages : world.outages with
    | nil => rfl
    | cons outage rest =>
      obtain rfl : outage = none := calm outage (outages ▸ List.mem_cons_self)
      rfl
  rw [call_of_head noOutage] at failed
  cases acted : action world.called with
  | error cause => exact ⟨cause, rfl⟩
  | ok result =>
    rw [acted] at failed
    cases (Prod.mk.inj failed).1

/-- A call takes one outage off those to come. -/
theorem call_outages {action : World → Except StorageError (α × World)}
    (kept : ∀ world value after, action world = .ok (value, after) →
      after.outages = world.outages) (world : World) :
    ((call action).run world).2.outages = world.outages.tail := by
  rcases call_cases action world with ⟨error, ran⟩ | ⟨value, after, acted, ran⟩
  · rw [ran]
    rfl
  · rw [ran]
    exact kept _ _ _ acted

/-- The services of a world in which no outage befalls the standard output and the open log. -/
def steady : Host (StateM World) Nat (List String) :=
  { host with
    writeOutput := fun text world => (host.writeOutput text).run world.spared
    appendLog := fun number text world => (host.appendLog number text).run world.spared }

theorem steady_writeOutput (text : String) (world : World) :
    (steady.writeOutput text).run world = (.ok (), { world with output := world.output ++ text }) :=
  rfl

theorem steady_appendLog (number : Nat) (text : String) (world : World) :
    (steady.appendLog number text).run world =
      (.ok (), { world with
        tree := world.tree.updateFile number fun file =>
          { file with content := file.content ++ text.toUTF8 } }) :=
  rfl

/-! ## The environment -/

/-- The value of an environment variable. -/
def environmentValue? (world : World) (name : String) : Option String :=
  (world.environment.find? (·.1 == name)).map (·.2)

/-- The home directory of the user's account, if it has one. -/
def accountDirectory? (world : World) : Option String :=
  world.accountHome.filter (!·.isEmpty)

/-- The home directory, if it is known: the one that the environment names, or else the one of the
user's account. -/
def home? (world : World) : Option String :=
  ((world.environmentValue? "HOME").filter (!·.isEmpty)).orElse fun _ => world.accountDirectory?

/-! ## Extensions -/

/-- Whether two worlds are the same but for their trees, what was told and the outages to come. -/
structure SameBeside (world after : World) : Prop where
  here : after.here = world.here
  environment : after.environment = world.environment
  accountHome : after.accountHome = world.accountHome
  input : after.input = world.input
  output : after.output = world.output
  time : after.time = world.time

namespace SameBeside

variable {world middle after : World}

theorem refl (world : World) : SameBeside world world :=
  ⟨rfl, rfl, rfl, rfl, rfl, rfl⟩

theorem called (world : World) : SameBeside world world.called :=
  ⟨rfl, rfl, rfl, rfl, rfl, rfl⟩

theorem withTree (world : World) (tree : FileTree) : SameBeside world { world with tree } :=
  ⟨rfl, rfl, rfl, rfl, rfl, rfl⟩

theorem withTold (world : World) (told : List Notice) : SameBeside world { world with told } :=
  ⟨rfl, rfl, rfl, rfl, rfl, rfl⟩

theorem trans (first : SameBeside world middle) (second : SameBeside middle after) :
    SameBeside world after where
  here := second.here.trans first.here
  environment := second.environment.trans first.environment
  accountHome := second.accountHome.trans first.accountHome
  input := second.input.trans first.input
  output := second.output.trans first.output
  time := second.time.trans first.time

theorem home?_eq (same : SameBeside world after) : after.home? = world.home? := by
  simp only [home?, environmentValue?, accountDirectory?, same.environment, same.accountHome]

end SameBeside

/-- Whether a world comes from another one by growth of its tree within a region, which depends on
the current directory, by things told and by storage calls. -/
structure Extends (region : List String → List String → FileNode → Prop) (world after : World) :
    Prop where
  tree : FileTree.Grows (region world.here) world.tree after.tree
  beside : SameBeside world after
  outages : after.outages <:+ world.outages

/-- The region of an action that leaves the tree as it is. -/
def nowhere (_here _place : List String) (_node : FileNode) : Prop :=
  False

namespace Extends

variable {region : List String → List String → FileNode → Prop} {world middle after : World}

theorem refl (world : World) : Extends region world world :=
  ⟨.refl, .refl world, List.suffix_rfl⟩

theorem trans (first : Extends region world middle) (second : Extends region middle after) :
    Extends region world after where
  tree := first.tree.trans (first.beside.here ▸ second.tree)
  beside := first.beside.trans second.beside
  outages := second.outages.trans first.outages

theorem mono {wider : List String → List String → FileNode → Prop}
    (extended : Extends region world after)
    (within : ∀ here place node, region here place node → wider here place node) :
    Extends wider world after :=
  ⟨extended.tree.mono (within world.here), extended.beside, extended.outages⟩

/-- A world that grows nowhere keeps its tree. -/
theorem tree_eq (quiet : Extends nowhere world after) : after.tree = world.tree := by
  have unchanged : ∀ {tree : FileTree}, FileTree.Grows (nowhere world.here) world.tree tree →
      tree = world.tree := by
    intro tree grows
    cases grows with
    | refl => rfl
    | put _ inside => exact inside.elim
  exact unchanged quiet.tree

theorem of_nowhere (quiet : Extends nowhere world after) : Extends region world after :=
  quiet.mono fun _ _ _ impossible => impossible.elim

end Extends

/-- Whether every run of an action extends its world within a region. -/
def Within (region : List String → List String → FileNode → Prop) (action : StateM World α) :
    Prop :=
  ∀ world, Extends region world (action.run world).2

namespace Within

variable {region : List String → List String → FileNode → Prop}

theorem pure (value : α) : Within region (Pure.pure value) :=
  Extends.refl

theorem bind {first : StateM World α} {next : α → StateM World β} (before : Within region first)
    (later : ∀ value, Within region (next value)) : Within region (first >>= next) :=
  fun world => (before world).trans (later _ _)

theorem mono {wider : List String → List String → FileNode → Prop} {action : StateM World α}
    (inside : Within region action)
    (within : ∀ here place node, region here place node → wider here place node) :
    Within wider action :=
  fun world => (inside world).mono within

theorem of_nowhere {action : StateM World α} (quiet : Within nowhere action) :
    Within region action :=
  fun world => (quiet world).of_nowhere

end Within

namespace UndisturbedUntil

variable {early late : List String → List String → FileNode → Prop} {first : StateM World α}
  {next : α → StateM World β} {world : World}

/-- If no outage comes up during a sequence, none comes up during either part. -/
theorem of_bind (calm : world.UndisturbedUntil ((first >>= next).run world).2)
    (before : Within early first) (later : ∀ value, Within late (next value)) :
    world.UndisturbedUntil (first.run world).2 ∧
      (first.run world).2.UndisturbedUntil
        ((next (first.run world).1).run (first.run world).2).2 :=
  calm.split (before world).outages (later _ _).outages

/-- If no outage comes up during a sequence, the storage call that it begins with meets none. -/
theorem head_of_bind (calm : world.UndisturbedUntil ((first >>= next).run world).2)
    (calls : (first.run world).2.outages = world.outages.tail)
    (later : ∀ value, Within late (next value)) : world.outages.head?.join = none :=
  calm.head (calls ▸ (later _ _).outages)

end UndisturbedUntil

namespace Within

variable {region : List String → List String → FileNode → Prop}

/-! ## Services that stay within a region -/

theorem environment? (name : String) : Within region (steady.environment? name) :=
  Extends.refl

theorem accountHome? : Within region steady.accountHome? :=
  Extends.refl

theorem readInput : Within region steady.readInput :=
  Extends.refl

theorem pathExists (path : String) : Within region (steady.pathExists path) :=
  Extends.refl

theorem isDirectory (path : String) : Within region (steady.isDirectory path) :=
  Extends.refl

theorem tell (notice : Notice) : Within region (steady.tell notice) :=
  fun world => ⟨.refl, .withTold world _, List.suffix_rfl⟩

theorem call {action : World → Except StorageError (α × World)}
    (extended : ∀ world value after, action world = .ok (value, after) →
      Extends region world after) : Within region (World.call action) := by
  intro world
  have noticed : Extends region world world.called :=
    ⟨.refl, .called world, List.tail_suffix world.outages⟩
  rcases call_cases action world with ⟨error, ran⟩ | ⟨value, after, done, ran⟩
  · rw [ran]
    exact noticed
  · rw [ran]
    exact noticed.trans (extended _ _ _ done)

theorem readFile (path : String) : Within region (steady.readFile path) := by
  apply Within.call
  intro world content after done
  obtain ⟨read, -, same⟩ := Outcome.map_eq_ok_iff.mp done
  obtain ⟨rfl, rfl⟩ := Prod.mk.inj same
  exact .refl world

theorem makeDirectory {path : String}
    (inside : ∀ here, FileTree.placeOf here path ≠ FileTree.start here path →
      region here (FileTree.placeOf here path) .directory) :
    Within region (steady.makeDirectory path) := by
  apply Within.call
  intro world value after done
  obtain ⟨tree, made, same⟩ := Outcome.map_eq_ok_iff.mp done
  obtain ⟨rfl, rfl⟩ := Prod.mk.inj same
  have grows := FileTree.grows_of_makeDirectory (inside world.here) made
  exact ⟨grows, .withTree world tree, List.suffix_rfl⟩

theorem openLog {path : String}
    (inside : ∀ here file, region here (FileTree.placeOf here path) (.file file)) :
    Within region (steady.openLog path) := by
  apply Within.call
  intro world value after done
  obtain ⟨⟨number, tree⟩, opened, same⟩ := Outcome.map_eq_ok_iff.mp done
  obtain ⟨rfl, rfl⟩ := Prod.mk.inj same
  have grows := (FileTree.grows_of_openForAppend _ (inside world.here) opened).1
  exact ⟨grows, .withTree world tree, List.suffix_rfl⟩

end Within

/-! ## Services without outages -/

theorem makeDirectory_run {world : World} (noOutage : world.outages.head?.join = none)
    (path : String) :
    (steady.makeDirectory path).run world =
      match world.tree.makeDirectory world.here path with
      | .ok tree => (.ok (), { world.called with tree })
      | .error error => (.error error, world.called) := by
  have isCall : steady.makeDirectory path = treeCall fun world =>
    world.tree.makeDirectory world.here path := rfl
  rw [isCall, treeCall, call_of_head noOutage]
  simp only [called]
  cases world.tree.makeDirectory world.here path with
  | ok tree => rfl
  | error error => rfl

theorem makeDirectory_outages (path : String) (world : World) :
    ((steady.makeDirectory path).run world).2.outages = world.outages.tail := by
  refine call_outages (fun world value after made => ?_) world
  obtain ⟨tree, -, same⟩ := Outcome.map_eq_ok_iff.mp made
  obtain ⟨-, rfl⟩ := Prod.mk.inj same
  rfl

theorem readFile_run {world : World} (noOutage : world.outages.head?.join = none) (path : String) :
    (steady.readFile path).run world = (world.tree.read world.here path, world.called) := by
  have isCall : steady.readFile path = call fun world => do
      let content ← world.tree.read world.here path
      return (content, world) := rfl
  rw [isCall, call_of_head noOutage]
  simp only [called]
  cases world.tree.read world.here path with
  | ok content => rfl
  | error error => rfl

theorem readFile_outages (path : String) (world : World) :
    ((steady.readFile path).run world).2.outages = world.outages.tail := by
  refine call_outages (fun world value after read => ?_) world
  obtain ⟨content, -, same⟩ := Outcome.map_eq_ok_iff.mp read
  obtain ⟨-, rfl⟩ := Prod.mk.inj same
  rfl

theorem openLog_run {world : World} (noOutage : world.outages.head?.join = none) {path : String}
    {opened : Nat × FileTree} (success : world.tree.openForAppend world.here path = .ok opened) :
    (steady.openLog path).run world = (.ok opened.1, { world.called with tree := opened.2 }) := by
  have isCall : steady.openLog path = call fun world => do
      let opened ← world.tree.openForAppend world.here path
      return (opened.1, { world with tree := opened.2 }) := rfl
  rw [isCall, call_of_head noOutage]
  simp only [called, success]
  rfl

theorem openLog_outages (path : String) (world : World) :
    ((steady.openLog path).run world).2.outages = world.outages.tail := by
  refine call_outages (fun world value after opened => ?_) world
  obtain ⟨opened, -, same⟩ := Outcome.map_eq_ok_iff.mp opened
  obtain ⟨-, rfl⟩ := Prod.mk.inj same
  rfl

/-- A log that was opened is the file at the place of its path. -/
theorem openLog_eq_ok {path : String} {world after : World} {number : Nat}
    (opened : (steady.openLog path).run world = (.ok number, after)) :
    ∃ file, after.tree.node? (FileTree.placeOf world.here path) = some (.file file) ∧
      file.number = number := by
  have isCall : steady.openLog path = call fun world => do
      let opened ← world.tree.openForAppend world.here path
      return (opened.1, { world with tree := opened.2 }) := rfl
  rw [isCall] at opened
  obtain ⟨⟨other, tree⟩, found, same⟩ := Outcome.map_eq_ok_iff.mp (call_eq_ok opened)
  obtain ⟨rfl, rfl⟩ := Prod.mk.inj same
  exact (FileTree.grows_of_openForAppend (fun _ _ => True) (fun _ => trivial) found).2

end ScreenedSuite.World
