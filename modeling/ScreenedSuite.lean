import ScreenedSuite.Main
import ScreenedSuite.Proofs.Catalog.Replacement
import ScreenedSuite.Proofs.Pattern.Search
import ScreenedSuite.Proofs.Screening.Concatenation
import ScreenedSuite.Proofs.Screening.Exactness
import ScreenedSuite.Proofs.Screening.Failures
import ScreenedSuite.Proofs.Screening.Levels
import ScreenedSuite.Proofs.Screening.Withholding
import ScreenedSuite.Proofs.Suite.ReadBack
import ScreenedSuite.Proofs.TestCase.Grammar
import ScreenedSuite.Proofs.TestCase.Reading
import ScreenedSuite.World
import ScreenedSuite.Proofs.Pattern.Context
import ScreenedSuite.Proofs.Catalog.Surroundings
import ScreenedSuite.Proofs.Screening.StrictCommands
import ScreenedSuite.Proofs.CommandLine.Contract
import ScreenedSuite.Proofs.AuditLog.Appending
import ScreenedSuite.Proofs.Cell.Blanks
import ScreenedSuite.Proofs.Cell.EqualsSigns
import ScreenedSuite.Proofs.Screening.CommandCells
import ScreenedSuite.Proofs.Cell.Items
import ScreenedSuite.Proofs.Suite.NameLine
import ScreenedSuite.Proofs.Finding.Report
import ScreenedSuite.Proofs.TestCase.Writing
import ScreenedSuite.Proofs.Catalog.Continuations
import ScreenedSuite.Proofs.Screening.Policies
import ScreenedSuite.Proofs.Screening.FreeText
import ScreenedSuite.Proofs.ScriptFile.Writing
import ScreenedSuite.Proofs.Settings.Loading
import ScreenedSuite.Proofs.ActionTable.Registration
import ScreenedSuite.Proofs.Screening.DeclaredRoles
import ScreenedSuite.Proofs.Settings.Choices
