import BlockScribe.Emission.Emitter
import BlockScribe.FileTree
import BlockScribe.Main
import BlockScribe.Proofs.Naming
import BlockScribe.Proofs.Emission.Frame
import BlockScribe.Proofs.Emission.Faults
import BlockScribe.Proofs.Target.Steps
import BlockScribe.Proofs.Target.Hygiene
import BlockScribe.Proofs.Emission.Draft
import BlockScribe.Proofs.Emission.Statements
import BlockScribe.Proofs.Emission.References
import BlockScribe.Proofs.Emission.Bindings
import BlockScribe.Proofs.Target.Draft
import BlockScribe.Proofs.Target.Globals
import BlockScribe.Proofs.Target.Calls
import BlockScribe.Proofs.Text.Indentation
import BlockScribe.Proofs.Text.Lexical
import BlockScribe.Proofs.Emission.Notices
import BlockScribe.Proofs.Target.Diagnostics
import BlockScribe.Proofs.Emission.Scopes
import BlockScribe.Proofs.Emission.ClosedText
import BlockScribe.Proofs.Target.Scopes
import BlockScribe.Proofs.Target.WellFormed
import BlockScribe.Proofs.Text.Pieces
import BlockScribe.Proofs.Emission.Pieces
import BlockScribe.Proofs.Target.Literals
import BlockScribe.Proofs.Target.Capture
import BlockScribe.Proofs.Files.Resolution
import BlockScribe.Proofs.Files.Accesses
import BlockScribe.Proofs.Output.Confinement
import BlockScribe.Proofs.Emission.Dependence
import BlockScribe.Proofs.Target.Unreached
import BlockScribe.Proofs.Target.Isolation
import BlockScribe.Proofs.Text.Comments
import BlockScribe.Proofs.Run.Stages
import BlockScribe.Proofs.Target.Placeholders
import BlockScribe.Proofs.Emission.Bookkeeping
import BlockScribe.Proofs.Emission.Sequence
import BlockScribe.Proofs.Text.Lines
import BlockScribe.Proofs.Emission.OneLine
import BlockScribe.Proofs.Emission.TopDown
import BlockScribe.Proofs.Target.Denotation
import BlockScribe.Proofs.Target.Parameters
import BlockScribe.Proofs.Target.Predeclaration
import BlockScribe.Proofs.Target.Fragments
import BlockScribe.Proofs.Emission.Comparisons
import BlockScribe.Proofs.Attempts
import BlockScribe.Proofs.Signature.Overlay
import BlockScribe.Proofs.Emission.Menus
import BlockScribe.Proofs.Project.Grammar
import BlockScribe.Proofs.Emission.Termination
import BlockScribe.Proofs.Text.Numerals
import BlockScribe.Proofs.Target.InitialValues
import BlockScribe.Proofs.Output.Names
import BlockScribe.Proofs.Files.Growth
import BlockScribe.Proofs.Output.Placing
import BlockScribe.Proofs.Output.Course
import BlockScribe.Proofs.Output.Accounting
import BlockScribe.Proofs.Emission.Surroundings
import BlockScribe.Proofs.Text.Quotation
import BlockScribe.Proofs.Text.LineByLine
import BlockScribe.Proofs.Renaming
import BlockScribe.Proofs.Text.NumeralGrammar
