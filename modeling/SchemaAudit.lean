import SchemaAudit.Json.Reader
import SchemaAudit.Annotation.Classify
import SchemaAudit.Registry.Library
import SchemaAudit.Manifest.Reader
import SchemaAudit.Diagnostics.Saved
import SchemaAudit.Feed
import SchemaAudit.Artifact.Writer
import SchemaAudit.Rpc.Client
import SchemaAudit.Audit.Run
import SchemaAudit.Json.Shown
import SchemaAudit.Settings.Basic
import SchemaAudit.Log.Message
import SchemaAudit.Log.Line
import SchemaAudit.Diagnostics.Reading
import SchemaAudit.Diagnostics.Inspection
import SchemaAudit.Report.Json
import SchemaAudit.Report.Summary
import SchemaAudit.Display.Report
import SchemaAudit.Display.Structure
import SchemaAudit.CommandLine.Run
import SchemaAudit.Main
import SchemaAudit.Proofs.Lookup
import SchemaAudit.Proofs.Json.Strings
import SchemaAudit.Proofs.Json.Numbers
import SchemaAudit.Proofs.Json.Values
import SchemaAudit.Proofs.Json.Lines
import SchemaAudit.Proofs.Text.Utf8
import SchemaAudit.Proofs.Report.RoundTrip
import SchemaAudit.Proofs.Report.Comparison
import SchemaAudit.Proofs.Report.Composition
import SchemaAudit.Proofs.File.Path
import SchemaAudit.Proofs.File.Store
import SchemaAudit.Proofs.File.Directories
import SchemaAudit.Proofs.File.Saving
import SchemaAudit.Proofs.Artifact.Key
import SchemaAudit.Proofs.Artifact.Document
import SchemaAudit.Proofs.Artifact.Writer
import SchemaAudit.Proofs.Artifact.Sequence
import SchemaAudit.Proofs.Artifact.Encoding
import SchemaAudit.Proofs.Audit.Tables
import SchemaAudit.Proofs.Audit.Verdict
import SchemaAudit.Audit.Pool
import SchemaAudit.Proofs.File.Gathering
import SchemaAudit.Proofs.Artifact.Gathering
import SchemaAudit.Proofs.Audit.Pool
import SchemaAudit.Proofs.Audit.Isolation
import SchemaAudit.Proofs.Audit.Ending
import SchemaAudit.Proofs.Json.Within
import SchemaAudit.Proofs.Diagnostics.Reading
import SchemaAudit.Proofs.Diagnostics.Saved
import SchemaAudit.Proofs.Text.Blank
import SchemaAudit.Proofs.Text.Case
import SchemaAudit.Proofs.Ddl.Splitting
import SchemaAudit.Proofs.Ddl.Statement
import SchemaAudit.Proofs.Ddl.Agreement
import SchemaAudit.Proofs.Ddl.Layout
import SchemaAudit.Proofs.Report.Repair
import SchemaAudit.Proofs.Diagnostics.Violations
import SchemaAudit.Proofs.Text.Quoted
import SchemaAudit.Proofs.Audit.Abort
import SchemaAudit.Proofs.CommandLine.SavedFile
import SchemaAudit.Proofs.Diagnostics.Loading
import SchemaAudit.Proofs.Diagnostics.Words
import SchemaAudit.Proofs.Feed
import SchemaAudit.Proofs.Artifact.Structure
import SchemaAudit.Proofs.File.Addition
import SchemaAudit.Proofs.File.Glob
import SchemaAudit.Proofs.Manifest.Discovery
import SchemaAudit.Proofs.Manifest.Lookup
import SchemaAudit.Proofs.Audit.Preparation
import SchemaAudit.Proofs.Diagnostics.Foreign
import SchemaAudit.Proofs.Audit.Writes
import SchemaAudit.Proofs.CommandLine.Answer
import SchemaAudit.Proofs.CommandLine.Printed
import SchemaAudit.Proofs.CommandLine.Foreseen
import SchemaAudit.Proofs.Report.Arrangement
import SchemaAudit.Proofs.Report.Vouched
import SchemaAudit.Proofs.Diagnostics.Projection
import SchemaAudit.Proofs.Display.Markup
import SchemaAudit.Proofs.Display.Drafts
import SchemaAudit.Proofs.Display.Escaping
import SchemaAudit.Proofs.TypeToken
import SchemaAudit.Proofs.Annotation.Wrapping
import SchemaAudit.Proofs.Annotation.Arguments
import SchemaAudit.Proofs.Annotation.Members
import SchemaAudit.Proofs.Annotation.Metadata
import SchemaAudit.Proofs.Annotation.Sameness
import SchemaAudit.Proofs.Annotation.Unions
import SchemaAudit.Proofs.Diagnostics.Partition
import SchemaAudit.Proofs.Rpc.Fetch
import SchemaAudit.Proofs.Text.Lower
import SchemaAudit.Proofs.Ddl.WellFormed
import SchemaAudit.Proofs.Ddl.Places
import SchemaAudit.Proofs.Registry.Loading
import SchemaAudit.Proofs.Log.Line
import SchemaAudit.Proofs.Ddl.Pieces
import SchemaAudit.Proofs.Text.Pattern
import SchemaAudit.Proofs.Ddl.Block
import SchemaAudit.Proofs.Ddl.TableName
import SchemaAudit.Proofs.Artifact.Paths
import SchemaAudit.Proofs.Manifest.Naming
