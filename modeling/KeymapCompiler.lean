import KeymapCompiler.FileSystem
import KeymapCompiler.Main
import KeymapCompiler.Proofs.Text.Lines
import KeymapCompiler.Proofs.Template
import KeymapCompiler.Proofs.Devicetree.Comment
import KeymapCompiler.Proofs.Preprocessor
import KeymapCompiler.Proofs.Devicetree.Description
import KeymapCompiler.Proofs.Layer.Symbols
import KeymapCompiler.Proofs.Grid
import KeymapCompiler.Proofs.Grid.Geometry
import KeymapCompiler.Proofs.Binding.Families
import KeymapCompiler.Proofs.Binding.Dispatch
import KeymapCompiler.Proofs.Binding.Modifiers
import KeymapCompiler.Proofs.Binding.Malformed
import KeymapCompiler.Proofs.Binding.Spelling
import KeymapCompiler.Proofs.Binding.Bluetooth
import KeymapCompiler.Proofs.Binding.ErrorToken
import KeymapCompiler.Proofs.Decimal.Rounding
import KeymapCompiler.Proofs.Decimal.Layout
import KeymapCompiler.Proofs.Kconfig.Settings
import KeymapCompiler.Proofs.Kconfig.Lines
import KeymapCompiler.Proofs.Kconfig.Integers
import KeymapCompiler.Proofs.Kconfig.Accounting
import KeymapCompiler.Proofs.Kconfig.Literals
import KeymapCompiler.Proofs.Kconfig.Strings
import KeymapCompiler.Proofs.Validation.Layout
import KeymapCompiler.Proofs.Config.Saving
import KeymapCompiler.Proofs.Validation
import KeymapCompiler.Proofs.Behavior.Registry
import KeymapCompiler.Proofs.Declaration
import KeymapCompiler.Proofs.Declaration.Acceptance
import KeymapCompiler.Proofs.Declaration.Callable
import KeymapCompiler.Proofs.Node.Keymap
import KeymapCompiler.Proofs.Node.Warnings
import KeymapCompiler.Proofs.Node.Cells
import KeymapCompiler.Proofs.Node.HoldTap
import KeymapCompiler.Proofs.Node.Combo
import KeymapCompiler.Proofs.Node.Rebind
import KeymapCompiler.Proofs.Node.Description
import KeymapCompiler.Proofs.Record
import KeymapCompiler.Proofs.Document.Entries
import KeymapCompiler.Proofs.Compile.Stages
import KeymapCompiler.Proofs.Compile.Clean
import KeymapCompiler.Proofs.Compile.Repair
import KeymapCompiler.Proofs.Compile.Outcome
import KeymapCompiler.Proofs.Compile.Keys
import KeymapCompiler.Proofs.Compile.Identifiers
import KeymapCompiler.Proofs.Compile.Header
import KeymapCompiler.Proofs.Compile.Isolation
import KeymapCompiler.Proofs.Command.Reading
import KeymapCompiler.Proofs.Command.Agreement
