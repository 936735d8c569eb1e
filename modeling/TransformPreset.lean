import TransformPreset.Capability.Composition
import TransformPreset.Capability.Override
import TransformPreset.Capability.Requirement
import TransformPreset.Capability.Shipped
import TransformPreset.Capability.Table
import TransformPreset.Command.Arguments
import TransformPreset.Command.Gather
import TransformPreset.Command.Help
import TransformPreset.Command.Line
import TransformPreset.Command.Run
import TransformPreset.Console.Basic
import TransformPreset.Console.Cell
import TransformPreset.Console.Drawing
import TransformPreset.Console.Emoji
import TransformPreset.Console.Emoji.Face
import TransformPreset.Console.Emoji.Figure
import TransformPreset.Console.Emoji.Flag
import TransformPreset.Console.Emoji.Scene
import TransformPreset.Console.Emoji.Sign
import TransformPreset.Console.Literal
import TransformPreset.Console.Literal.Number
import TransformPreset.Console.Literal.Quoted
import TransformPreset.Console.Literal.Token
import TransformPreset.Console.Markup
import TransformPreset.Console.Screen
import TransformPreset.Console.Style
import TransformPreset.Console.Styled
import TransformPreset.Console.Table
import TransformPreset.Entries
import TransformPreset.Failure
import TransformPreset.Json.Reader
import TransformPreset.Json.Writer
import TransformPreset.Main
import TransformPreset.Names
import TransformPreset.Number.Binary64
import TransformPreset.Number.Digits
import TransformPreset.Number.Leading
import TransformPreset.Number.Literal
import TransformPreset.Number.Order
import TransformPreset.Number.Written
import TransformPreset.Preset.Basic
import TransformPreset.Preset.Options
import TransformPreset.Preset.Plan
import TransformPreset.Preset.Report
import TransformPreset.Preset.Session
import TransformPreset.Proofs.Capability.Agreement
import TransformPreset.Proofs.Capability.Composition
import TransformPreset.Proofs.Capability.CompositionOrder
import TransformPreset.Proofs.Capability.FailSafe
import TransformPreset.Proofs.Capability.NewerRuntime
import TransformPreset.Proofs.Capability.Requirement
import TransformPreset.Proofs.Capability.Selection
import TransformPreset.Proofs.Capability.Union
import TransformPreset.Proofs.Checks
import TransformPreset.Proofs.Command.Agreement
import TransformPreset.Proofs.Command.ElectronArgument
import TransformPreset.Proofs.Command.Escapes
import TransformPreset.Proofs.Command.Gathering
import TransformPreset.Proofs.Command.Resolving
import TransformPreset.Proofs.Command.TargetArguments
import TransformPreset.Proofs.Command.TargetLayers
import TransformPreset.Proofs.Console.Markup
import TransformPreset.Proofs.Console.Table
import TransformPreset.Proofs.Entries
import TransformPreset.Proofs.Json.Number
import TransformPreset.Proofs.Json.Writer
import TransformPreset.Proofs.Names
import TransformPreset.Proofs.Number.Digits
import TransformPreset.Proofs.Number.FloatText
import TransformPreset.Proofs.Number.Forms
import TransformPreset.Proofs.Number.Leading
import TransformPreset.Proofs.Number.Rounding
import TransformPreset.Proofs.Number.Shortest
import TransformPreset.Proofs.Number.Written
import TransformPreset.Proofs.Outcome
import TransformPreset.Proofs.Preset.Assembly
import TransformPreset.Proofs.Preset.Building
import TransformPreset.Proofs.Preset.Checks
import TransformPreset.Proofs.Preset.Completion
import TransformPreset.Proofs.Preset.History
import TransformPreset.Proofs.Preset.InnerReading
import TransformPreset.Proofs.Preset.MoreQueries
import TransformPreset.Proofs.Preset.NamedRelease
import TransformPreset.Proofs.Preset.Options
import TransformPreset.Proofs.Preset.Overrides
import TransformPreset.Proofs.Preset.Plan
import TransformPreset.Proofs.Preset.Prevalidated
import TransformPreset.Proofs.Preset.Report
import TransformPreset.Proofs.Preset.ReportOnce
import TransformPreset.Proofs.Preset.ReportReasons
import TransformPreset.Proofs.Preset.ResolverCalls
import TransformPreset.Proofs.Preset.Shape
import TransformPreset.Proofs.Registry.Bundles
import TransformPreset.Proofs.Registry.History
import TransformPreset.Proofs.Registry.LastWrite
import TransformPreset.Proofs.Registry.Sources
import TransformPreset.Proofs.Settings.Discovery
import TransformPreset.Proofs.Settings.Layer
import TransformPreset.Proofs.Target.Canonical
import TransformPreset.Proofs.Target.Checks
import TransformPreset.Proofs.Target.Electron
import TransformPreset.Proofs.Target.Given
import TransformPreset.Proofs.Target.KeyedMinimum
import TransformPreset.Proofs.Target.LeastVersion
import TransformPreset.Proofs.Target.Meaning
import TransformPreset.Proofs.Target.NormalForm
import TransformPreset.Proofs.Target.Plain
import TransformPreset.Proofs.Target.Projection
import TransformPreset.Proofs.Target.QuerySet
import TransformPreset.Proofs.Target.Reading
import TransformPreset.Proofs.Target.Release
import TransformPreset.Proofs.Target.Runtime
import TransformPreset.Proofs.Target.Widening
import TransformPreset.Proofs.Text.LongestStart
import TransformPreset.Proofs.Text.LowerCase
import TransformPreset.Proofs.Toml.Data
import TransformPreset.Proofs.Toml.Refusal
import TransformPreset.Proofs.Value.Data
import TransformPreset.Registry.Basic
import TransformPreset.Registry.Discovery
import TransformPreset.Settings.Disk
import TransformPreset.Settings.File
import TransformPreset.Settings.Layer
import TransformPreset.Settings.Path
import TransformPreset.Signal
import TransformPreset.Target.Canonical
import TransformPreset.Target.Electron
import TransformPreset.Target.Reading
import TransformPreset.Target.Release
import TransformPreset.Target.Runtime
import TransformPreset.Target.Spec
import TransformPreset.Text.Blank
import TransformPreset.Text.CharClass
import TransformPreset.Text.CharName
import TransformPreset.Text.CharName.FromA
import TransformPreset.Text.CharName.FromB
import TransformPreset.Text.CharName.FromC
import TransformPreset.Text.CharName.FromD
import TransformPreset.Text.CharName.FromG
import TransformPreset.Text.CharName.FromJ
import TransformPreset.Text.CharName.FromM
import TransformPreset.Text.CharName.FromN
import TransformPreset.Text.CharName.FromS
import TransformPreset.Text.CharName.FromT
import TransformPreset.Text.Digit
import TransformPreset.Text.Hex
import TransformPreset.Text.LowerCase
import TransformPreset.Text.Pieces
import TransformPreset.Text.Points
import TransformPreset.Text.Printable
import TransformPreset.Text.Quoted
import TransformPreset.Text.Width
import TransformPreset.Text.Word
import TransformPreset.Toml.Date
import TransformPreset.Toml.Document
import TransformPreset.Toml.Scalar
import TransformPreset.Trace
import TransformPreset.Value.Basic
import TransformPreset.Value.Writable
import TransformPreset.Value.Written
