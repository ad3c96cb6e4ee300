import EntityDiagram.Main
import EntityDiagram.Proofs.Diagram.Accounting
import EntityDiagram.Proofs.Diagram.Exchange
import EntityDiagram.Proofs.Diagram.GroupOrder
import EntityDiagram.Proofs.Diagram.SortedLayout
import EntityDiagram.Proofs.Files.Bytes
import EntityDiagram.Proofs.Files.TerminatedLines
import EntityDiagram.Proofs.Files.Listing
import EntityDiagram.Proofs.Source.Edits
import EntityDiagram.Proofs.Source.Keywords
import EntityDiagram.Proofs.Source.LetterCase
import EntityDiagram.Proofs.Source.Log
import EntityDiagram.Proofs.Source.PastedDiagram
import EntityDiagram.Proofs.Source.Pattern
import EntityDiagram.Proofs.Source.Refusal
import EntityDiagram.Proofs.Source.Spacing
import EntityDiagram.Proofs.Source.WrittenEntity
