import LayeredSettings.CommandLine.Command
import LayeredSettings.CommandLine.Grammar
import LayeredSettings.CommandLine.Help
import LayeredSettings.CommandLine.Profiles
import LayeredSettings.CommandLine.Program
import LayeredSettings.CommandLine.Reading
import LayeredSettings.CommandLine.Run
import LayeredSettings.CommandLine.Settings
import LayeredSettings.CommandLine.Work
import LayeredSettings.Context.Basic
import LayeredSettings.Context.Hook
import LayeredSettings.Context.Program
import LayeredSettings.Context.Request
import LayeredSettings.Context.Schedule
import LayeredSettings.Context.Thread
import LayeredSettings.Definition
import LayeredSettings.Environment
import LayeredSettings.EnvironmentFile
import LayeredSettings.Error
import LayeredSettings.Files
import LayeredSettings.Journal
import LayeredSettings.Json.Reader
import LayeredSettings.Json.Scalar
import LayeredSettings.Logging
import LayeredSettings.Logging.Directive
import LayeredSettings.Main
import LayeredSettings.NameMap
import LayeredSettings.Number.Binary64
import LayeredSettings.Number.Decimal
import LayeredSettings.Number.Shortest
import LayeredSettings.Number.Style
import LayeredSettings.Path
import LayeredSettings.Path.Parts
import LayeredSettings.Profile.Basic
import LayeredSettings.Profile.Collection
import LayeredSettings.Profile.Name
import LayeredSettings.Proofs.CommandLine.Masking
import LayeredSettings.Proofs.CommandLine.Outcome
import LayeredSettings.Proofs.CommandLine.Refinement
import LayeredSettings.Proofs.CommandLine.Repair
import LayeredSettings.Proofs.CommandLine.ViewAfterSet
import LayeredSettings.Proofs.Context.Guarding
import LayeredSettings.Proofs.Context.HookCalls
import LayeredSettings.Proofs.Context.HookOrder
import LayeredSettings.Proofs.Context.LevelFollowing
import LayeredSettings.Proofs.Context.Numbering
import LayeredSettings.Proofs.Context.PrivateStacks
import LayeredSettings.Proofs.Context.QuietHooks
import LayeredSettings.Proofs.Context.Restoration
import LayeredSettings.Proofs.Context.Sweeping
import LayeredSettings.Proofs.Context.ThreadStack
import LayeredSettings.Proofs.Context.Turns
import LayeredSettings.Proofs.Error
import LayeredSettings.Proofs.Files
import LayeredSettings.Proofs.Lists
import LayeredSettings.Proofs.NameMap
import LayeredSettings.Proofs.Number.Digits
import LayeredSettings.Proofs.Number.Rounding
import LayeredSettings.Proofs.Number.Shortest
import LayeredSettings.Proofs.Number.Text
import LayeredSettings.Proofs.Path
import LayeredSettings.Proofs.Profile.Assignment
import LayeredSettings.Proofs.Profile.BatchEffect
import LayeredSettings.Proofs.Profile.BatchRefusals
import LayeredSettings.Proofs.Profile.BatchSteps
import LayeredSettings.Proofs.Profile.Checked
import LayeredSettings.Proofs.Profile.Editing
import LayeredSettings.Proofs.Profile.Name
import LayeredSettings.Proofs.Profile.Operations
import LayeredSettings.Proofs.Profile.StaleKeys
import LayeredSettings.Proofs.Profile.StoredKeys
import LayeredSettings.Proofs.Registry.Building
import LayeredSettings.Proofs.Registry.Keys
import LayeredSettings.Proofs.Registry.PlainTemplates
import LayeredSettings.Proofs.Registry.Reordering
import LayeredSettings.Proofs.Registry.Variables
import LayeredSettings.Proofs.Session
import LayeredSettings.Proofs.Settings.CanonicalKeys
import LayeredSettings.Proofs.Settings.Cycles
import LayeredSettings.Proofs.Settings.Dependence
import LayeredSettings.Proofs.Settings.Equations
import LayeredSettings.Proofs.Settings.Finiteness
import LayeredSettings.Proofs.Settings.Independence
import LayeredSettings.Proofs.Settings.LayerAlgebra
import LayeredSettings.Proofs.Settings.Layering
import LayeredSettings.Proofs.Settings.Merging
import LayeredSettings.Proofs.Settings.Precedence
import LayeredSettings.Proofs.Settings.PrefixedEnvironment
import LayeredSettings.Proofs.Settings.ProfileLayering
import LayeredSettings.Proofs.Settings.ProfileProvenance
import LayeredSettings.Proofs.Settings.Refusals
import LayeredSettings.Proofs.Settings.Reordering
import LayeredSettings.Proofs.Settings.Rounds
import LayeredSettings.Proofs.Settings.Secrecy
import LayeredSettings.Proofs.Settings.Supplied
import LayeredSettings.Proofs.Settings.Validity
import LayeredSettings.Proofs.Store.Acceptance
import LayeredSettings.Proofs.Store.Access
import LayeredSettings.Proofs.Store.Document
import LayeredSettings.Proofs.Store.Restoring
import LayeredSettings.Proofs.Template
import LayeredSettings.Proofs.Text.Blank
import LayeredSettings.Proofs.Text.ByteOrder
import LayeredSettings.Proofs.Toml.DistinctKeys
import LayeredSettings.Proofs.Toml.DistinctReading
import LayeredSettings.Proofs.Value.Finite
import LayeredSettings.Proofs.Value.HomeExpansion
import LayeredSettings.Proofs.Value.RoundTrip
import LayeredSettings.Registry.Basic
import LayeredSettings.Registry.Catalog
import LayeredSettings.Session
import LayeredSettings.Settings.Basic
import LayeredSettings.Settings.Expansion
import LayeredSettings.Settings.Layer
import LayeredSettings.Settings.Resolve
import LayeredSettings.Store.Basic
import LayeredSettings.Store.Document
import LayeredSettings.Template
import LayeredSettings.Text.Basic
import LayeredSettings.Text.Escape
import LayeredSettings.Text.Escape.Table
import LayeredSettings.Text.Letter.Table
import LayeredSettings.Text.Upper
import LayeredSettings.Text.Upper.Table
import LayeredSettings.Toml.DateTable
import LayeredSettings.Toml.DateText
import LayeredSettings.Toml.Document
import LayeredSettings.Toml.Lexical
import LayeredSettings.Toml.Number
import LayeredSettings.Toml.Reader
import LayeredSettings.Toml.Tree
import LayeredSettings.Toml.Writer
import LayeredSettings.Value.Basic
import LayeredSettings.Value.Cast
