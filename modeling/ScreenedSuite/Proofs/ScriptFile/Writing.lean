import ScreenedSuite.Proofs.ScriptFile.Staging

/-! # Writing scripts

Every write of a script is all or nothing, and so is every write of a sequence
(`ScreenedSuite.ScriptFile.write_all_or_nothing`). After a sequence the last text that was written
to a place stands there, and where nothing was written nothing has changed.
-/

namespace ScreenedSuite.ScriptFile

open World

/-- Whether a name is of the kind that staged files have. -/
def IsStagedName (name : String) : Prop :=
  ∃ middle, name = ".json2robot-" ++ middle ++ ".robot.tmp"

/-- Whether a write puts the script at its destination or changes nothing, leaves no staged file
behind, and succeeds unless something hinders it. A destination may itself be named like a staged
file. -/
structure AllOrNothing (world : World) (destination text : String)
    (outcome : Except StorageError Unit) (after : World) : Prop where
  settled : match outcome with
    | .ok () => Written world destination text after
    | .error _ => Unwritten world after
  clean : ∀ directory name, IsStagedName name →
    world.tree.node? (directory ++ [name]) = none →
    after.tree.node? (directory ++ [name]) ≠ none →
      outcome = .ok () ∧ directory ++ [name] = FileTree.placeOf world.here destination
  placed : world.Undisturbed → Placeable world destination →
    StagingRoom world (stagingDirectory destination) → outcome = .ok ()

theorem allOrNothing_write (world : World) (destination text : String) :
    AllOrNothing world destination text ((write host destination text).run world).1
      ((write host destination text).run world).2 := by
  have isSteady : write host destination text = write steady destination text := rfl
  have ends := write_ends destination text world rfl
  rw [isSteady]
  generalize (write steady destination text).run world = ran at ends
  obtain ⟨outcome, after⟩ := ran
  cases outcome with
  | ok =>
    have written : Written world destination text after := ends
    refine ⟨written, fun directory name _ absent present => ⟨rfl, ?_⟩, fun _ _ _ => rfl⟩
    by_contra apart
    exact present ((written.others _ apart).trans absent)
  | error error =>
    have unwritten : Unwritten world after := ends.1
    refine ⟨unwritten, fun directory name _ absent present => ?_, fun calm placeable room => ?_⟩
    · exact absurd ((unwritten.nodes _).trans absent) present
    · exact absurd room (ends.2 calm placeable)

/-! ## Sequences of writes -/

section Sequences

variable {m : Type → Type} {log staged : Type} [Monad m]

/-- Write scripts to their destinations one after another, whether or not the earlier ones could
be written. -/
def writeAll (host : Host m log staged) :
    List (String × String) → m (List (Except StorageError Unit))
  | [] => return []
  | (destination, text) :: rest => do
    let outcome ← write host destination text
    return outcome :: (← writeAll host rest)

end Sequences

/-- Whether every write of a sequence is all or nothing, each in the world that the writes before
it leave. -/
inductive EachAllOrNothing :
    World → List (String × String) → List (Except StorageError Unit) → World → Prop
  | nil (world : World) : EachAllOrNothing world [] [] world
  | cons {world middle after : World} {destination text : String} {rest : List (String × String)}
    {outcome : Except StorageError Unit} {outcomes : List (Except StorageError Unit)} :
    AllOrNothing world destination text outcome middle →
      EachAllOrNothing middle rest outcomes after →
      EachAllOrNothing world ((destination, text) :: rest) (outcome :: outcomes) after

theorem eachAllOrNothing_writeAll (jobs : List (String × String)) (world : World) :
    EachAllOrNothing world jobs ((writeAll host jobs).run world).1
      ((writeAll host jobs).run world).2 := by
  induction jobs generalizing world with
  | nil => exact .nil world
  | cons job rest ih => exact .cons (allOrNothing_write world job.1 job.2) (ih _)

/-- The text of the last write that succeeded at a place. -/
def lastText? (here place : List String) :
    List (String × String) → List (Except StorageError Unit) → Option String
  | (destination, text) :: rest, outcome :: outcomes =>
    (lastText? here place rest outcomes).or
      (if outcome.isOk && FileTree.placeOf here destination == place then some text else none)
  | _, _ => none

/-- What a sequence of writes leaves at a place: the text of the last write that succeeded there,
or what stood there before. -/
def Leaves (world after : World) (place : List String) : Option String → Prop
  | some text => Holds after place text
  | none => after.tree.node? place = world.tree.node? place

/-- The last write that succeeds at a place decides what stands there. -/
theorem EachAllOrNothing.leaves {world after : World} {jobs : List (String × String)}
    {outcomes : List (Except StorageError Unit)}
    (each : EachAllOrNothing world jobs outcomes after) (place : List String) :
    Leaves world after place (lastText? world.here place jobs outcomes) := by
  induction each with
  | nil => rfl
  | @cons world middle after destination text rest outcome outcomes first _ ih =>
    have here : middle.here = world.here := by
      cases outcome with
      | ok => exact first.settled.beside.here
      | error => exact first.settled.beside.here
    rw [here] at ih
    rw [lastText?]
    cases later : lastText? world.here place rest outcomes with
    | some last =>
      rw [later] at ih
      exact ih
    | none =>
      -- No later write touches the place, so it is as the first one leaves it.
      have unchanged : after.tree.node? place = middle.tree.node? place := by
        rw [later] at ih
        exact ih
      cases outcome with
      | error error => exact unchanged.trans (first.settled.nodes place)
      | ok =>
        by_cases same : FileTree.placeOf world.here destination = place
        · obtain ⟨file, there, isFit⟩ := first.settled.file
          have stands : Holds after place text :=
            ⟨file, unchanged.trans (same ▸ there), isFit⟩
          simpa [Except.isOk, Except.toBool, same, Leaves] using stands
        · have untouched : after.tree.node? place = world.tree.node? place :=
            unchanged.trans (first.settled.others place (Ne.symm same))
          simpa [Except.isOk, Except.toBool, same, Leaves] using untouched

/-- **Writing is all or nothing.** Every write of a script puts it at its destination, for its
owner only, or changes nothing. It leaves no staged file behind and it succeeds unless it is
hindered. All writes of a sequence do so, and after them the last text written to a place stands
there and no other place has changed. -/
theorem write_all_or_nothing (world : World) :
    (∀ destination text, AllOrNothing world destination text
      ((write host destination text).run world).1 ((write host destination text).run world).2) ∧
    ∀ jobs,
      let ran := (writeAll host jobs).run world
      EachAllOrNothing world jobs ran.1 ran.2 ∧
        ∀ place, Leaves world ran.2 place (lastText? world.here place jobs ran.1) := by
  refine ⟨allOrNothing_write world, fun jobs => ?_⟩
  have each := eachAllOrNothing_writeAll jobs world
  exact ⟨each, each.leaves⟩

/-- A world with a directory and a script in it. -/
def deskWorld : World :=
  { tree := ⟨[(["out"], .directory), (["out", "a.robot"], .file ⟨0, "old".toUTF8, 0o644⟩)]⟩ }

/-- A script that is there is replaced, since nothing hinders the write. -/
theorem write_all_or_nothing_desk :
    deskWorld.Undisturbed ∧ Placeable deskWorld "out/a.robot" ∧
      StagingRoom deskWorld (stagingDirectory "out/a.robot") ∧
      ((write host "out/a.robot" "first").run deskWorld).1 = .ok () := by
  have undisturbed : deskWorld.Undisturbed := List.forall_mem_nil _
  have placeable : Placeable deskWorld "out/a.robot" := {
    readable := ⟨["out", "a.robot"], by decide +kernel⟩
    name := ⟨"a.robot", by decide +kernel⟩
    parent := by decide +kernel
    vacant := by decide +kernel }
  have room : StagingRoom deskWorld (stagingDirectory "out/a.robot") := {
    path := ⟨["", "out", FileTree.stagedName 0], by decide +kernel⟩
    name := ⟨0, by decide +kernel⟩ }
  exact ⟨undisturbed, placeable, room,
    ((write_all_or_nothing deskWorld).1 "out/a.robot" "first").placed undisturbed placeable room⟩

/-- Two scripts for one place, and between them one for a directory that does not exist. -/
def deskJobs : List (String × String) :=
  [("out/a.robot", "first"), ("none/b.robot", "second"), ("out//a.robot", "third")]

example :
    ((writeAll host deskJobs).run deskWorld).2.tree.read [] "out/a.robot" = .ok "third".toUTF8 := by
  decide +kernel

/-- A name that is one byte too long. -/
def longName : String :=
  String.ofList (List.replicate 256 'a')

/-- A destination that is named like a staged file remains. One whose name is too long and one that
holds the null character cannot be written, although they are free and their parent is a
directory. -/
theorem write_staged_name_and_unfit_names :
    (IsStagedName ".json2robot-mine.robot.tmp" ∧
      ((write host ".json2robot-mine.robot.tmp" "x").run {}).1 = .ok () ∧
      ({} : World).tree.node? [".json2robot-mine.robot.tmp"] = none ∧
      ((write host ".json2robot-mine.robot.tmp" "x").run {}).2.tree.node?
        [".json2robot-mine.robot.tmp"] ≠ none) ∧
    ({} : World).Undisturbed ∧
    (Path.names longName = [longName] ∧
      ({} : World).tree.isDirectory [] (stagingDirectory longName) = true ∧
      ({} : World).tree.node? (FileTree.placeOf [] longName) = none ∧
      ((write host longName "x").run {}).1 = .error .nameTooLong) ∧
    Path.names "a\x00" = ["a\x00"] ∧
      ({} : World).tree.isDirectory [] (stagingDirectory "a\x00") = true ∧
      ({} : World).tree.node? (FileTree.placeOf [] "a\x00") = none ∧
      ((write host "a\x00" "x").run {}).1 = .error .nullInPath := by
  have undisturbed : ({} : World).Undisturbed := List.forall_mem_nil _
  refine ⟨⟨⟨"mine", by decide +kernel⟩, ?_⟩, undisturbed, ?_, ?_⟩
  · decide +kernel
  · decide +kernel
  · decide +kernel

end ScreenedSuite.ScriptFile
