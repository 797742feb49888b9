import Playbook.Main
import Playbook.Proofs.Characters
import Playbook.Proofs.Encodings
import Playbook.Proofs.Lexeme
import Playbook.Proofs.Pending
import Playbook.Proofs.Scanner
import Playbook.Proofs.LexemeScan
import Playbook.Proofs.LiteralGrammar
import Playbook.Proofs.LiteralFaults
import Playbook.Proofs.LiteralCompletion
import Playbook.Proofs.LiteralCuts
import Playbook.Proofs.Escapes
import Playbook.Proofs.Spellings
import Playbook.Proofs.Quoting
import Playbook.Proofs.FlatGrammar
import Playbook.Proofs.FlatReading
import Playbook.Proofs.RoundTrip
import Playbook.Proofs.Effects
import Playbook.Proofs.LiteralRejection
import Playbook.Proofs.LiteralLines
import Playbook.Proofs.DialectAgreement
import Playbook.Proofs.Plays
import Playbook.Proofs.Course
import Playbook.Proofs.Invariants
import Playbook.Proofs.PolitePages
import Playbook.Proofs.ExitStatus
import Playbook.Proofs.Housekeeping
import Playbook.Proofs.DiskFiles
import Playbook.Proofs.FirstFault
import Playbook.Proofs.XmlReader
import Playbook.Proofs.XmlRoundTrip
import Playbook.Proofs.SuiteReading
import Playbook.Proofs.DurationGrammar
import Playbook.Proofs.StepTexts
import Playbook.Proofs.Reports
import Playbook.Proofs.BlankFront
import Playbook.Proofs.RunComposition
import Playbook.Proofs.CommandLineGrammar
import Playbook.Proofs.Overrides
import Playbook.Proofs.FinalReport
import Playbook.Proofs.StrictUtf8
import Playbook.Proofs.LenientUtf8
import Playbook.Proofs.Decodings
import Playbook.Proofs.LiteralBodies
import Playbook.Proofs.LineReading
import Playbook.Proofs.FlawlessRuns
import Playbook.Proofs.Chronicle
import Playbook.Proofs.Cancellation
import Playbook.Proofs.SourceFaults
import Playbook.Proofs.Strictness
import Playbook.Proofs.StandardOutput
import Playbook.Proofs.PlannedCalls
import Playbook.Proofs.StepEndings
import Playbook.Proofs.RejectedRecords
import Playbook.Proofs.ReportOnce
import Playbook.Proofs.Descriptions
import Playbook.Proofs.LastValues
import Playbook.Proofs.Lowering
import Playbook.Proofs.Vocabularies
import Playbook.Proofs.TimeBounds
import Playbook.Proofs.Pictures
import Playbook.Proofs.WrittenFiles
import Playbook.Proofs.SessionCalls
import Playbook.Proofs.SideBySide
import Playbook.Proofs.DebugFlag
import Playbook.Proofs.ShownRuns
import Playbook.Proofs.TokenPlaces
import Playbook.Proofs.UnclosedLiterals
