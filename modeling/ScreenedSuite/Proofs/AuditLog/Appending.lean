import ScreenedSuite.Proofs.AuditLog.Entries
import ScreenedSuite.Proofs.CommandLine.Phases

/-! # Appending to audit logs

Conversions that are recorded one after the other add one line each to an open log, behind what it
held before, and change no other file. A log that is off changes nothing
(`ScreenedSuite.AuditLog.recordAll_appends`).
-/

namespace ScreenedSuite.AuditLog

open World

/-- What records do to a file tree: the file at a place holds its old content and then one line for
each of them, and where this file is not, nothing has changed. -/
structure Grown (place : List String) (content : ByteArray)
    (records : List (String × AuditEntry)) (tree after : FileTree) : Prop where
  log : ∃ texts, List.Forall₂ (fun record text => record.2.Tells record.1 text) records texts ∧
    after.contentAt place = content ++ (String.join (texts.map (· ++ "\n"))).toUTF8
  elsewhere : ∀ other, tree.numberAt other ≠ tree.numberAt place →
    after.node? other = tree.node? other

variable {number : Nat} {place : List String} {tree : FileTree}

theorem numberAt_appended (text : String) (other : List String) :
    (appended ⟨some number⟩ text tree).numberAt other = tree.numberAt other := by
  apply FileTree.numberAt_updateFile
  intro file
  rfl

/-- One record more is one line more. -/
theorem Grown.cons (isOpen : tree.numberAt place = some number) {time : String} {entry : AuditEntry}
    (fits : entry.Fits) {records : List (String × AuditEntry)} {after : FileTree}
    (grown : Grown place (tree.contentAt place ++ (entry.line time).toUTF8) records
      (appended ⟨some number⟩ (entry.line time) tree) after) :
    Grown place (tree.contentAt place) ((time, entry) :: records) tree after := by
  obtain ⟨texts, told, content⟩ := grown.log
  refine ⟨⟨(entry.json time).compact :: texts, .cons (AuditEntry.tells_compact fits time) told, ?_⟩,
    fun other apart => ?_⟩
  · have joined : String.join (((entry.json time).compact :: texts).map (· ++ "\n")) =
        entry.line time ++ String.join (texts.map (· ++ "\n")) := by
      rw [← String.toList_inj]
      simp only [AuditEntry.line, List.map_cons, String.toList_append, String.toList_join,
        List.flatMap_cons, List.append_assoc]
    rw [content, ByteArray.append_assoc, joined]
    simp only [String.toUTF8_eq_toByteArray, String.toByteArray_append]
  · have later := grown.elsewhere other (by rwa [numberAt_appended, numberAt_appended])
    rw [later, appended]
    exact FileTree.node?_updateFile_of_numberAt_ne (isOpen ▸ apart) _

end ScreenedSuite.AuditLog
