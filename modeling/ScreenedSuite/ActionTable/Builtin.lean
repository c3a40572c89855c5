import ScreenedSuite.ActionTable.Basic

/-! # Built-in actions

The actions that are known without registering any: processes, files and directories, and general
keywords.
-/

namespace ScreenedSuite.ActionTable

/-- The actions on processes. -/
def processActions : List (String × Template) := [
  ("run_command", {
    keyword := "Run Process"
    library := some "Process"
    roles := [.command]
    trailing := ["shell=True"]
    assign := some r"${result}"
    followUps := [⟨"Should Be Equal As Integers", [r"${result.rc}", "0"], none⟩] }),
  ("run_command_allow_failure", {
    keyword := "Run Process"
    library := some "Process"
    roles := [.command]
    trailing := ["shell=True"] }),
  ("start_process", {
    keyword := "Start Process"
    library := some "Process"
    roles := [.command]
    trailing := ["shell=True"] }),
  ("terminate_all_processes", {
    keyword := "Terminate All Processes"
    library := some "Process" })]

/-- A keyword on files and directories. -/
def fileKeyword (keyword : String) (roles : List Role) : Template where
  keyword := keyword
  library := some "OperatingSystem"
  roles := roles

/-- The actions on files, directories and the environment. -/
def fileActions : List (String × Template) := [
  ("create_file", { fileKeyword "Create File" [.path] with rest := some .text }),
  ("append_to_file", fileKeyword "Append To File" [.path, .text]),
  ("read_file", { fileKeyword "Get File" [.path] with assign := some r"${content}" }),
  ("remove_file", fileKeyword "Remove File" [.path]),
  ("copy_file", fileKeyword "Copy File" [.path, .path]),
  ("move_file", fileKeyword "Move File" [.path, .path]),
  ("file_should_exist", fileKeyword "File Should Exist" [.path]),
  ("file_should_not_exist", fileKeyword "File Should Not Exist" [.path]),
  ("create_directory", fileKeyword "Create Directory" [.path]),
  ("remove_directory", {
    fileKeyword "Remove Directory" [.path] with trailing := ["recursive=True"] }),
  ("directory_should_exist", fileKeyword "Directory Should Exist" [.path]),
  ("set_environment_variable", fileKeyword "Set Environment Variable" [.text, .text])]

/-- The general actions. -/
def generalActions : List (String × Template) := [
  ("log", { keyword := "Log", roles := [.text], rest := some .text }),
  ("sleep", { keyword := "Sleep", roles := [.text] }),
  ("no_operation", { keyword := "No Operation" }),
  ("fail", { keyword := "Fail", roles := [.text] }),
  ("should_be_equal", { keyword := "Should Be Equal", roles := [.text, .text] }),
  ("should_contain", { keyword := "Should Contain", roles := [.text, .text] })]

/-- The table of the built-in actions. -/
def builtin : ActionTable :=
  ofList (processActions ++ fileActions ++ generalActions)

end ScreenedSuite.ActionTable
