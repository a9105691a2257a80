import WebScaffold.Artifact.DatabaseSchema
import WebScaffold.Artifact.Hosting
import WebScaffold.Artifact.PackageManifest
import WebScaffold.Artifact.PageModule
import WebScaffold.Artifact.SampleRows
import WebScaffold.Artifact.SignIn
import WebScaffold.BuildGate
import WebScaffold.CommandLine.Arguments
import WebScaffold.CommandLine.Program
import WebScaffold.CommandLine.Summary
import WebScaffold.Decimal.Binary64
import WebScaffold.Decimal.Literal
import WebScaffold.Decimal.Seconds
import WebScaffold.Decimal.Shortest
import WebScaffold.File.Disk
import WebScaffold.File.Error
import WebScaffold.File.Path
import WebScaffold.File.Staging
import WebScaffold.File.Tree
import WebScaffold.Generator.Basic
import WebScaffold.Generator.Chat
import WebScaffold.Generator.Child
import WebScaffold.Generator.Offline
import WebScaffold.Issue
import WebScaffold.Json.Basic
import WebScaffold.Json.Decode
import WebScaffold.Json.Loose
import WebScaffold.Json.Mismatch
import WebScaffold.Json.Printer
import WebScaffold.Json.Reader
import WebScaffold.Json.Skim
import WebScaffold.Json.Typed
import WebScaffold.Main
import WebScaffold.Noted
import WebScaffold.Plan.Basic
import WebScaffold.Plan.Wire
import WebScaffold.Project
import WebScaffold.Questionnaire
import WebScaffold.Route
import WebScaffold.Run
import WebScaffold.Scaffold
import WebScaffold.Schema.Basic
import WebScaffold.Schema.Check
import WebScaffold.Settings.Basic
import WebScaffold.Settings.Load
import WebScaffold.Spec.Basic
import WebScaffold.Spec.Refine
import WebScaffold.Spec.Repair
import WebScaffold.Spec.Schema
import WebScaffold.Spec.Validate
import WebScaffold.Spec.Wire
import WebScaffold.Synthesis
import WebScaffold.Table
import WebScaffold.Template.Basic
import WebScaffold.Template.Library
import WebScaffold.Text.Blank
import WebScaffold.Text.Case
import WebScaffold.Text.CaseTable
import WebScaffold.Text.Lines
import WebScaffold.Text.PrintableTable
import WebScaffold.Text.Quoted
import WebScaffold.Text.Search
import WebScaffold.Variant
import WebScaffold.Yaml.Cursor
import WebScaffold.Yaml.Meaning
import WebScaffold.Yaml.Node
import WebScaffold.Yaml.Parser
import WebScaffold.Yaml.Property
import WebScaffold.Yaml.Scalar
import WebScaffold.Yaml.Scanner
import WebScaffold.Yaml.Token
import WebScaffold.Yaml.Value
import WebScaffold.Proofs.Accepts
import WebScaffold.Proofs.Decode
import WebScaffold.Proofs.Describes
import WebScaffold.Proofs.Wire
import WebScaffold.Proofs.Draft
import WebScaffold.Proofs.Repair
import WebScaffold.Proofs.Conformance
import WebScaffold.Proofs.Planned
import WebScaffold.Proofs.Reading
import WebScaffold.Proofs.Synthesis
import WebScaffold.Proofs.Override
import WebScaffold.Proofs.FileTree
import WebScaffold.Proofs.Disk
import WebScaffold.Proofs.Staging
import WebScaffold.Proofs.AtomicWrite
import WebScaffold.Proofs.Scaffold
import WebScaffold.Proofs.Path
import WebScaffold.Proofs.Layout
import WebScaffold.Proofs.Literal
import WebScaffold.Proofs.Case
import WebScaffold.Proofs.DatabaseSchema
import WebScaffold.Proofs.PageModel
import WebScaffold.Proofs.SampleRows
import WebScaffold.Proofs.SampleIds
import WebScaffold.Proofs.SampleValues
import WebScaffold.Proofs.Growth
import WebScaffold.Proofs.Repetition
import WebScaffold.Proofs.Containment
import WebScaffold.Proofs.Routes
import WebScaffold.Proofs.RenderedLines
import WebScaffold.Proofs.PageImports
import WebScaffold.Proofs.StaticHost
import WebScaffold.Proofs.Chat
import WebScaffold.Proofs.Offline
import WebScaffold.Proofs.Taking
import WebScaffold.Proofs.Values
import WebScaffold.Proofs.Spelling
import WebScaffold.Proofs.Envelope
import WebScaffold.Proofs.Escape
import WebScaffold.Proofs.Substitution
import WebScaffold.Proofs.Completion
import WebScaffold.Proofs.DynamicSegment
import WebScaffold.Proofs.RepeatedNames
import WebScaffold.Proofs.SchemaLines
import WebScaffold.Proofs.Violations
import WebScaffold.Proofs.PageLinks
import WebScaffold.Proofs.NumberText
import WebScaffold.Proofs.IdeaMarkers
import WebScaffold.Proofs.Written
import WebScaffold.Proofs.PrintedValues
import WebScaffold.Proofs.Softening
import WebScaffold.Proofs.Weight
import WebScaffold.Proofs.ReadingWeight
import WebScaffold.Proofs.TrailingCommas
import WebScaffold.Proofs.Blank
import WebScaffold.Proofs.InputLines
import WebScaffold.Proofs.Questionnaire
import WebScaffold.Proofs.Warnings
import WebScaffold.Proofs.LandingBullets
import WebScaffold.Proofs.PackageName
import WebScaffold.Proofs.StringLiteral
import WebScaffold.Proofs.IdentifierPattern
