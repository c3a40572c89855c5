import ScreenedSuite.Proofs.World.Extension
import ScreenedSuite.ScriptFile

/-! # Staging a script

A script is written as a whole or not at all: a write that succeeds puts its text at the place of
the destination and changes no other place, and a write that fails changes no place. It fails only
for a reason: an outage, a destination at which no script can stand, or a directory in which
nothing can be staged (`ScreenedSuite.ScriptFile.write_ends`).
-/

namespace ScreenedSuite

open World

variable {α β : Type}

/-! ## Conditions before and after an action -/

/-- Whether an action that starts under one condition ends under a second one if it succeeds, and
under a third one if it fails. -/
def World.Ends (before : World → Prop) (action : StateM World (Except StorageError α))
    (done failed : World → Prop) : Prop :=
  ∀ now, before now →
    match (action.run now).1 with
    | .ok _ => done (action.run now).2
    | .error _ => failed (action.run now).2

namespace World.Ends

variable {before middle done failed : World → Prop}

/-- A sequence fails where one of its parts does. -/
theorem bind {first : StateM World (Except StorageError α)}
    {next : α → ExceptT StorageError (StateM World) β} (start : Ends before first middle failed)
    (later : ∀ value, Ends middle (next value).run done failed) :
    Ends before (ExceptT.mk first >>= next).run done failed := by
  intro now holds
  have started := start now holds
  have run : (ExceptT.mk first >>= next).run.run now =
      match (first.run now).1 with
      | .ok value => (next value).run.run (first.run now).2
      | .error error => (.error error, (first.run now).2) := by
    change ((first >>= ExceptT.bindCont next : StateM World _)).run now = _
    rw [run_bind]
    cases (first.run now).1 with
    | ok value => rfl
    | error error => rfl
  rw [run]
  cases outcome : (first.run now).1 with
  | ok value =>
    rw [outcome] at started
    exact later value _ started
  | error error =>
    rw [outcome] at started
    exact started

theorem treeCall {change : World → Except StorageError FileTree}
    (missed : ∀ now, before now →
      (now.Undisturbed → ∃ error, change now.called = .error error) → failed now.called)
    (changed : ∀ now tree, before now → change now.called = .ok tree →
      done { now.called with tree }) : Ends before (World.treeCall change) done failed := by
  intro now holds
  rcases call_cases _ now with ⟨error, ran⟩ | ⟨value, after, acted, ran⟩
  · rw [World.treeCall, ran]
    refine missed now holds fun calm => ?_
    obtain ⟨cause, acted⟩ := calm.exists_error ran
    exact ⟨cause, Outcome.map_eq_error_iff.mp acted⟩
  · obtain ⟨tree, made, same⟩ := Outcome.map_eq_ok_iff.mp acted
    obtain ⟨rfl, rfl⟩ := Prod.mk.inj same
    rw [World.treeCall, ran]
    exact changed now tree holds made

end World.Ends

/-! ## Where a script can stand -/

/-- A script is staged in the directory to which the names before the last one of its path lead. -/
theorem Path.stagingDirectory_of_names {path name : String} {front : List String}
    (split : names path = front ++ [name]) (leads : isIdle name = false) :
    isAbsolute (ScriptFile.stagingDirectory path) = isAbsolute path ∧
      steps (ScriptFile.stagingDirectory path) = front.filter (!isIdle ·) := by
  obtain ⟨above, parent, through⟩ := Option.map_eq_some_iff.mp (parent?_of_names split leads)
  have start := (parent?_above parent).1
  simp only [ScriptFile.stagingDirectory, parent]
  split
  case isTrue empty =>
    obtain rfl := String.isEmpty_iff.mp empty
    exact ⟨start, through⟩
  case isFalse => exact ⟨start, through⟩

namespace ScriptFile

/-- Whether a script can stand at a destination. Its path can be looked up and ends in a name that
a file can have, its parent is a directory, and it is not a directory itself. -/
structure Placeable (world : World) (destination : String) : Prop where
  readable : ∃ names, FileTree.pathNames destination = .ok names
  name : ∃ name, (Path.names destination).getLast? = some name ∧ Path.isIdle name = false ∧
    name ≠ ".." ∧ name.utf8ByteSize ≤ FileTree.nameLimit
  parent : world.tree.isDirectory world.here (stagingDirectory destination) = true
  vacant : world.tree.node? (FileTree.placeOf world.here destination) ≠ some .directory

/-- Whether a file can be staged in a directory as far as names go: its path is not too long, and
one of the names with six digits is free. -/
structure StagingRoom (world : World) (directory : String) : Prop where
  path : ∃ names, FileTree.pathNames (stagedPath world.here directory) = .ok names
  name : ∃ tag < 10 ^ 6, world.tree.node?
    (FileTree.placeOf world.here directory ++ [FileTree.stagedName tag]) = none

/-- Whether there is a reason for which a script cannot be written. -/
def Hindered (world : World) (destination : String) : Prop :=
  world.Undisturbed → Placeable world destination →
    ¬ StagingRoom world (stagingDirectory destination)

variable {world now : World} {place : List String} {fits : File → Prop} {path text : String}

/-- A destination at which a script can stand can be followed. -/
theorem Placeable.follow (placeable : Placeable world path) :
    world.tree.follow world.here path = .ok (FileTree.placeOf world.here path) := by
  obtain ⟨name, last, leads, stays, short⟩ := placeable.name
  obtain ⟨front, split⟩ := List.getLast?_eq_some_iff.mp last
  obtain ⟨start, through⟩ := Path.stagingDirectory_of_names split leads
  obtain ⟨names, readable⟩ := placeable.readable
  obtain rfl := FileTree.eq_names_of_pathNames readable
  have parent := placeable.parent
  rw [FileTree.isDirectory] at parent
  split at parent
  case h_2 => cases parent
  case h_1 above followed =>
    have standing : world.tree.node? above = some .directory := by simpa using parent
    obtain ⟨aboveNames, aboveReadable, walked⟩ := Outcome.bind_eq_ok_iff.mp followed
    obtain rfl := FileTree.eq_names_of_pathNames aboveReadable
    rw [← FileTree.walk_filter_iff standing, ← Path.steps, through, FileTree.start, start,
      ← FileTree.start, FileTree.walk_filter_iff standing] at walked
    have found : world.tree.follow world.here path = .ok (above ++ [name]) := by
      refine Outcome.bind_eq_ok_iff.mpr ⟨_, readable, ?_⟩
      rw [split, FileTree.walk_append, walked]
      change world.tree.walk above [name] = _
      simp [FileTree.walk, standing, leads, stays, Nat.not_lt.mpr short]
    rw [found, FileTree.follow_eq_placeOf found]

/-! ## Writing a file -/

/-- What the world has become while a script is staged: a file stands at a place that was free,
and what else there is has not changed. -/
structure Staged (world : World) (place : List String) (fits : File → Prop) (now : World) :
    Prop where
  beside : SameBeside world now
  calm : world.Undisturbed → now.Undisturbed
  free : world.tree.node? place = none
  file : ∃ file, now.tree.node? place = some (.file file) ∧ fits file
  others : ∀ other, other ≠ place → now.tree.node? other = world.tree.node? other

/-- Whether a file with a script stands at a place, for its owner only. -/
def Holds (world : World) (place : List String) (text : String) : Prop :=
  ∃ file, world.tree.node? place = some (.file file) ∧ file.content = text.toUTF8 ∧
    file.mode = 0o600

/-- What the world has become when a script was written: it stands at the place of its path, and
what else there is has not changed. -/
structure Written (world : World) (path text : String) (now : World) : Prop where
  beside : SameBeside world now
  file : Holds now (FileTree.placeOf world.here path) text
  others : ∀ other, other ≠ FileTree.placeOf world.here path →
    now.tree.node? other = world.tree.node? other

/-- What the world has become when a script was not written: at no place anything has changed. -/
structure Unwritten (world now : World) : Prop where
  beside : SameBeside world now
  nodes : ∀ place, now.tree.node? place = world.tree.node? place

namespace Staged

theorem called (staged : Staged world place fits now) : Staged world place fits now.called where
  beside := staged.beside.trans (.called now)
  calm undisturbed := (staged.calm undisturbed).called
  free := staged.free
  file := staged.file
  others := staged.others

theorem mono {weaker : File → Prop} (staged : Staged world place fits now)
    (implies : ∀ file, fits file → weaker file) : Staged world place weaker now where
  beside := staged.beside
  calm := staged.calm
  free := staged.free
  file :=
    let ⟨file, there, isFit⟩ := staged.file
    ⟨file, there, implies file isFit⟩
  others := staged.others

/-- After a call that failed the file stays staged. -/
theorem missed (staged : Staged world place fits now) :
    Staged world place (fun _ => True) now.called :=
  staged.called.mono fun _ _ => trivial

/-- What is put at the place of a staged file stays staged. -/
theorem put {after : File → Prop} (staged : Staged world place fits now) {file : File}
    (isFit : after file) :
    Staged world place after { now with tree := now.tree.put place (.file file) } where
  beside := staged.beside.trans (.withTree now _)
  calm := staged.calm
  free := staged.free
  file := ⟨file, FileTree.node?_put_self _ (FileTree.ne_nil_of_node?_eq_none staged.free) _, isFit⟩
  others other apart := (FileTree.node?_put_of_ne _ apart _).trans (staged.others other apart)

/-- Removing a staged file undoes the staging. -/
theorem remove (staged : Staged world place fits now) :
    Unwritten world ((steady.remove place).run now).2 where
  beside := staged.beside.trans (.withTree now _)
  nodes other := by
    change (now.tree.erase place).node? other = world.tree.node? other
    by_cases same : other = place
    · subst same
      rw [FileTree.node?_erase_self _ (FileTree.ne_nil_of_node?_eq_none staged.free), staged.free]
    · rw [FileTree.node?_erase_of_ne _ same, staged.others other same]

/-- Staging takes no directory away. -/
theorem directories_kept (staged : Staged world place fits now) {other : List String}
    (isDirectory : world.tree.node? other = some .directory) :
    now.tree.node? other = some .directory := by
  have apart : other ≠ place := by
    rintro rfl
    simp [staged.free] at isDirectory
  rw [staged.others other apart, isDirectory]

/-- A staged file can take its place at a destination where a script can stand. -/
theorem exists_rename_eq_ok (staged : Staged world place fits now)
    (placeable : Placeable world path) :
    ∃ tree, now.tree.rename now.here place path = .ok tree := by
  obtain ⟨name, last, leads, stays, _⟩ := placeable.name
  obtain ⟨file, there, _⟩ := staged.file
  have found := FileTree.follow_of_directories_kept (fun _ => staged.directories_kept)
    placeable.follow
  rw [← staged.beside.here] at found
  have vacant : now.tree.node? (FileTree.placeOf now.here path) ≠ some .directory := by
    rw [staged.beside.here]
    by_cases same : FileTree.placeOf world.here path = place
    · simp [same, there]
    · rw [staged.others _ same]
      exact placeable.vacant
  rw [staged.beside.here] at found vacant ⊢
  exact ⟨_, FileTree.rename_of_follow last leads stays found vacant there⟩

end Staged

/-- Whether a script is staged in a file of any kind and cannot be written. -/
def Stuck (world : World) (path : String) (place : List String) (now : World) : Prop :=
  Staged world place (fun _ => True) now ∧ Hindered world path

/-- Only an outage keeps the run from a change that is always possible. -/
theorem hindered_of_possible {outcome : Except StorageError FileTree}
    (staged : Staged world place fits now)
    (failed : now.Undisturbed → ∃ error, outcome = .error error)
    (possible : ∃ tree, outcome = .ok tree) : Hindered world path := by
  intro undisturbed _ _
  obtain ⟨error, rfl⟩ := failed (staged.calm undisturbed)
  obtain ⟨tree, absurdity⟩ := possible
  cases absurdity

/-- Changing a staged file keeps it staged, also if that fails. -/
theorem changeFile_ends (after : File → Prop) (change : File → File)
    (becomes : ∀ file, fits file → after (change file)) :
    Ends (Staged world place fits) (changeFile place change) (Staged world place after)
      (Stuck world path place) := by
  refine Ends.treeCall (fun now staged failed => ⟨staged.missed, ?_⟩) ?_
  · refine hindered_of_possible staged failed ?_
    obtain ⟨file, there, _⟩ := staged.called.file
    exact ⟨_, by rw [there]⟩
  · intro now tree staged changed
    obtain ⟨file, there, isFit⟩ := staged.called.file
    rw [there] at changed
    obtain rfl := Except.ok.inj changed
    exact staged.called.put (becomes file isFit)

/-- The new file takes the place of the destination. -/
theorem rename_ends (path text : String) :
    Ends (Staged world place fun file => file.content = text.toUTF8 ∧ file.mode = 0o600)
      (steady.rename place path) (Written world path text) (Stuck world path place) := by
  refine Ends.treeCall (fun now staged failed => ⟨staged.missed, ?_⟩) ?_
  · intro undisturbed placeable room
    exact hindered_of_possible staged failed (staged.called.exists_rename_eq_ok placeable)
      undisturbed placeable room
  · intro now tree staged renamed
    obtain ⟨file, there, isFit⟩ := staged.called.file
    obtain ⟨node, isNode, below, rfl⟩ := FileTree.rename_eq_ok renamed
    obtain rfl : node = .file file := Option.some.inj (isNode.symm.trans there)
    rw [staged.called.beside.here] at below ⊢
    refine ⟨staged.called.beside.trans (.withTree _ _), ⟨file, ?_, isFit⟩, fun other apart => ?_⟩
    · exact FileTree.node?_put_self _ below _
    · refine (FileTree.node?_put_of_ne _ apart _).trans ?_
      exact staged.called.remove.nodes other

/-- A staged file is restricted, filled and put in its place, or it stays staged. -/
theorem finish_ends (path text : String) :
    Ends (Staged world place fun _ => True) (finish steady place path text).run
      (Written world path text) (Stuck world path place) := by
  refine Ends.bind (changeFile_ends (fun file => file.mode = 0o600) _ fun _ _ => rfl)
    fun _ => ?_
  refine Ends.bind (changeFile_ends
    (fun file => file.content = text.toUTF8 ∧ file.mode = 0o600) _
    fun _ restricted => ⟨rfl, restricted⟩) fun _ => ?_
  refine Ends.bind ?_ fun _ => rename_ends path text
  refine Ends.treeCall (fun now staged failed => ⟨staged.missed, ?_⟩) ?_
  · exact hindered_of_possible staged failed ⟨_, rfl⟩
  · intro now tree staged same
    obtain rfl := Except.ok.inj same
    exact staged.called

/-- A file is staged, or nothing is changed. -/
theorem stage_cases (path : String) (world : World) :
    (∃ error, (steady.stage (stagingDirectory path)).run world = (.error error, world.called) ∧
        Hindered world path) ∨
      ∃ place now, (steady.stage (stagingDirectory path)).run world = (.ok place, now) ∧
        Staged world place (fun _ => True) now := by
  have isStage : steady.stage (stagingDirectory path) = World.stage (stagingDirectory path) := rfl
  rw [isStage, World.stage]
  rcases call_cases _ world with ⟨error, ran⟩ | ⟨place, now, acted, ran⟩
  · refine .inl ⟨error, ran, fun undisturbed placeable room => ?_⟩
    obtain ⟨cause, failed⟩ := undisturbed.exists_error ran
    obtain ⟨names, readable⟩ := room.path
    obtain ⟨tag, short, free⟩ := room.name
    obtain ⟨place, staged⟩ := FileTree.exists_stage_eq_ok placeable.parent short free
    have found : (FileTree.pathNames (stagedPath world.called.here (stagingDirectory path)) >>=
        fun _ => world.called.tree.stage world.called.here (stagingDirectory path)) = .ok _ :=
      Outcome.bind_eq_ok_iff.mpr ⟨names, readable, staged⟩
    dsimp only at failed
    rw [found] at failed
    cases failed
  · refine .inr ⟨place, now, ran, ?_⟩
    dsimp only at acted
    split at acted
    case h_2 => cases acted
    case h_1 found tree made =>
      obtain ⟨rfl, rfl⟩ := Prod.mk.inj (Except.ok.inj acted)
      obtain ⟨_, _, staged⟩ := Outcome.bind_eq_ok_iff.mp made
      obtain ⟨free, rfl⟩ := FileTree.stage_eq_ok staged
      have below := FileTree.ne_nil_of_node?_eq_none free
      exact {
        beside := (SameBeside.called world).trans (.withTree _ _)
        calm := Undisturbed.called
        free
        file := ⟨_, FileTree.node?_put_self _ below _, trivial⟩
        others := fun other apart => FileTree.node?_put_of_ne _ apart _ }

/-- A script is written as a whole, or there is a reason and nothing is written. -/
theorem write_ends (path text : String) :
    Ends (· = world) (write steady path text) (Written world path text)
      (fun now => Unwritten world now ∧ Hindered world path) := by
  rintro now rfl
  unfold write
  rw [run_bind]
  rcases stage_cases path now with ⟨error, ran, hindered⟩ | ⟨place, between, ran, staged⟩
  · rw [ran]
    exact ⟨⟨.called now, fun _ => rfl⟩, hindered⟩
  · rw [ran]
    have finished := finish_ends path text between staged
    dsimp only
    rw [run_bind]
    cases ended : ((finish steady place path text).run.run between).1 with
    | ok =>
      rw [ended] at finished
      exact finished
    | error error =>
      rw [ended] at finished
      exact ⟨finished.1.remove, finished.2⟩

end ScriptFile

end ScreenedSuite
