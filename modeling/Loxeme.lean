import Loxeme.Scan.Scanner
import Loxeme.Command.Run
import Loxeme.Main
import Loxeme.Scan.Cursor
import Loxeme.Scan.Finding
import Loxeme.Scan.Round
import Loxeme.Source.Grammar
import Loxeme.Proofs.ScanPieces
import Loxeme.Source.Lawful
import Loxeme.Proofs.Report
import Loxeme.Proofs.Lines
import Loxeme.Proofs.Lexemes
import Loxeme.Proofs.Continuation
import Loxeme.Proofs.LineEnds
import Loxeme.Proofs.PromptFile
import Loxeme.Proofs.LineJoin
import Loxeme.Proofs.CharacterMachine
import Loxeme.Proofs.Layout
import Loxeme.Proofs.Dialogue
import Loxeme.Proofs.DumpReading
import Loxeme.Proofs.Reuse
import Loxeme.Proofs.ScanLog
import Loxeme.Proofs.Watched
import Loxeme.Proofs.CursorBounds
import Loxeme.Proofs.Messages
import Loxeme.Proofs.FileMode
import Loxeme.Proofs.Recovery
import Loxeme.Proofs.Lookahead
import Loxeme.Proofs.Edits
import Loxeme.Proofs.NumberValues
import Loxeme.Proofs.NumberTexts
