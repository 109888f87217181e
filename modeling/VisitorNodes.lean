import VisitorNodes.Calculator.Outline
import VisitorNodes.Calculator.Run
import VisitorNodes.Demos.Bench
import VisitorNodes.Main
import VisitorNodes.Session
import VisitorNodes.Proofs.Grammar.LineShape
import VisitorNodes.Proofs.Reading
import VisitorNodes.Proofs.Outcome
import VisitorNodes.Proofs.Appending
import VisitorNodes.Proofs.Text.Letter
import VisitorNodes.Proofs.Text.LineText
import VisitorNodes.Proofs.Printer.SolidNames
import VisitorNodes.Proofs.Text.Blocks
import VisitorNodes.Proofs.Printer.CSharpText
import VisitorNodes.Proofs.Printer.RustText
import VisitorNodes.Proofs.Printer.CSharpDispatch
import VisitorNodes.Proofs.Printer.Dispatch
import VisitorNodes.Proofs.Printer.CSharpInjective
import VisitorNodes.Proofs.Printer.Containment
import VisitorNodes.Proofs.Printer.RustInjective
import VisitorNodes.Proofs.NameClash
import VisitorNodes.Proofs.FileTree.Growth
import VisitorNodes.Proofs.Command.Ending
import VisitorNodes.Proofs.Command.FileName
import VisitorNodes.Proofs.Command.Saved
import VisitorNodes.Proofs.Command.Arguments
import VisitorNodes.Proofs.Text.Nesting
import VisitorNodes.Proofs.Printer.BareNames
import VisitorNodes.Proofs.Printer.CSharpNesting
import VisitorNodes.Proofs.Printer.RustNesting
import VisitorNodes.Proofs.Printer.Nesting
import VisitorNodes.Proofs.Command.Refusal
import VisitorNodes.Proofs.Command.Shown
import VisitorNodes.Proofs.FileTree.Directories
import VisitorNodes.Proofs.Command.Order
import VisitorNodes.Proofs.Printer.Insertion
import VisitorNodes.Proofs.Story
import VisitorNodes.Proofs.Printer.Replacement
import VisitorNodes.Proofs.Printer.NormalForm
import VisitorNodes.Proofs.Printer.PointerTypes
import VisitorNodes.Proofs.Text.Excerpts
import VisitorNodes.Proofs.Printer.CSharpFields
import VisitorNodes.Proofs.Printer.RustStorage
import VisitorNodes.Proofs.Printer.RustBlocks
import VisitorNodes.Proofs.Printer.RustViews
import VisitorNodes.Proofs.Printer.RustFields
import VisitorNodes.Proofs.Printer.Parameters
import VisitorNodes.Proofs.Printer.VisitorParameter
import VisitorNodes.Proofs.Grammar.FirstDefect
import VisitorNodes.Proofs.LineEndings
import VisitorNodes.Proofs.DuplicateNames
import VisitorNodes.Proofs.Text.Quoted
import VisitorNodes.Proofs.Messages
import VisitorNodes.Proofs.Calculator.Evaluation
import VisitorNodes.Proofs.Calculator.Course
import VisitorNodes.Proofs.Calculator.Flattening
import VisitorNodes.Proofs.Printer.Indentation
