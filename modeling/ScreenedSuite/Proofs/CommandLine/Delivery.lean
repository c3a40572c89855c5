import ScreenedSuite.Proofs.CommandLine.Phases
import ScreenedSuite.Proofs.ScriptFile.Staging

/-! # Delivering a script

A script without a destination goes to the standard output. A script with one is written there as
a whole, or the run fails and no file has changed
(`ScreenedSuite.CommandLine.deliver_some_cases`).
-/

namespace ScreenedSuite

open World

namespace CommandLine

theorem deliver_none_run (filter : LogFilter) (text : String) (world : World) :
    (deliver steady filter text none).run world =
      (.ok (), { world with output := world.output ++ text }) := by
  rw [deliver, run_bind, steady_writeOutput, run_pure]

/-- A script with a destination is written, or the run fails and nothing is written. -/
theorem deliver_some_cases (filter : LogFilter) (text path : String) (world : World) :
    (∃ now, (deliver steady filter text (some path)).run world = (.ok (), now) ∧
        ScriptFile.Written world path text now) ∨
      ∃ error now,
        (deliver steady filter text (some path)).run world = (.error (.storage error), now) ∧
          ScriptFile.Unwritten world now := by
  have ends := ScriptFile.write_ends path text world rfl
  rw [deliver, run_bind]
  cases outcome : ((ScriptFile.write steady path text).run world).1 with
  | ok =>
    rw [outcome] at ends
    have told : Within nowhere
        (tellOne steady filter (ScriptFile.writtenEvent path text)) := tellOne_within filter _
    have quiet := told ((ScriptFile.write steady path text).run world).2
    refine .inl ⟨_, rfl, ends.beside.trans quiet.beside, ?_, ?_⟩
    · obtain ⟨file, there, isFit⟩ := ends.file
      exact ⟨file, quiet.tree_eq ▸ there, isFit⟩
    · exact quiet.tree_eq ▸ ends.others
  | error error =>
    rw [outcome] at ends
    exact .inr ⟨error, _, rfl, ends.1⟩

end CommandLine

end ScreenedSuite
