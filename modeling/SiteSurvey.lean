import SiteSurvey.Artifact
import SiteSurvey.Config
import SiteSurvey.Detector.Basic
import SiteSurvey.Detector.Builtin
import SiteSurvey.Detector.Load
import SiteSurvey.Detector.Offer
import SiteSurvey.Detector.Plugin
import SiteSurvey.Failure
import SiteSurvey.Json.Basic
import SiteSurvey.Json.Check
import SiteSurvey.Json.Display
import SiteSurvey.Json.Printer
import SiteSurvey.Json.Reader
import SiteSurvey.Log.Line
import SiteSurvey.Log.Moment
import SiteSurvey.Log.Notice
import SiteSurvey.Log.Setup
import SiteSurvey.Path
import SiteSurvey.Pattern.Basic
import SiteSurvey.Pattern.Class
import SiteSurvey.Pattern.Cursor
import SiteSurvey.Pattern.Flaw
import SiteSurvey.Pattern.Item
import SiteSurvey.Pattern.Match
import SiteSurvey.Pattern.Parser
import SiteSurvey.Pattern.Regex
import SiteSurvey.Pattern.Width
import SiteSurvey.Proofs.Artifact.Atomic
import SiteSurvey.Proofs.Artifact.Batch
import SiteSurvey.Proofs.Artifact.Document
import SiteSurvey.Proofs.Artifact.Landing
import SiteSurvey.Proofs.Artifact.ReadBack
import SiteSurvey.Proofs.Artifact.Remains
import SiteSurvey.Proofs.Artifact.Room
import SiteSurvey.Proofs.Artifact.Search
import SiteSurvey.Proofs.Artifact.Unique
import SiteSurvey.Proofs.Detector.Accepted
import SiteSurvey.Proofs.Detector.AccessKey
import SiteSurvey.Proofs.Detector.Builtin
import SiteSurvey.Proofs.Detector.Rejected
import SiteSurvey.Proofs.Detector.Selection
import SiteSurvey.Proofs.Detector.Trial
import SiteSurvey.Proofs.Detector.Verdict
import SiteSurvey.Proofs.Json.Ascii
import SiteSurvey.Proofs.Json.Documents
import SiteSurvey.Proofs.Json.Letters
import SiteSurvey.Proofs.Json.Numbers
import SiteSurvey.Proofs.Json.Reals
import SiteSurvey.Proofs.Json.RoundTrip
import SiteSurvey.Proofs.Json.Same
import SiteSurvey.Proofs.Json.Strings
import SiteSurvey.Proofs.Listing
import SiteSurvey.Proofs.Log.Course
import SiteSurvey.Proofs.Log.Line
import SiteSurvey.Proofs.Outcome
import SiteSurvey.Proofs.Path
import SiteSurvey.Proofs.Pattern.Advance
import SiteSurvey.Proofs.Pattern.Fits
import SiteSurvey.Proofs.Query
import SiteSurvey.Proofs.Request.Event
import SiteSurvey.Proofs.Request.History
import SiteSurvey.Proofs.Request.Seed
import SiteSurvey.Proofs.Request.Select
import SiteSurvey.Proofs.Request.Veil
import SiteSurvey.Proofs.Scan.Context
import SiteSurvey.Proofs.Scan.Distinct
import SiteSurvey.Proofs.Scan.Occurrence
import SiteSurvey.Proofs.Scan.Report
import SiteSurvey.Proofs.Scan.Searches
import SiteSurvey.Proofs.Script.Escape
import SiteSurvey.Proofs.Script.Nesting
import SiteSurvey.Proofs.Script.Skeleton
import SiteSurvey.Proofs.Script.StringValue
import SiteSurvey.Proofs.Script.Template
import SiteSurvey.Proofs.Script.Units
import SiteSurvey.Proofs.Script.Veil
import SiteSurvey.Proofs.Script.Walk
import SiteSurvey.Proofs.Script.Watch
import SiteSurvey.Proofs.Signal.Extract
import SiteSurvey.Proofs.Signal.Relevant
import SiteSurvey.Proofs.Signal.Report
import SiteSurvey.Proofs.Signal.Sequence
import SiteSurvey.Proofs.Site.Forms
import SiteSurvey.Proofs.Site.Hostname
import SiteSurvey.Proofs.Survey.Again
import SiteSurvey.Proofs.Survey.Collected
import SiteSurvey.Proofs.Survey.Confined
import SiteSurvey.Proofs.Survey.Corpus
import SiteSurvey.Proofs.Survey.Drift
import SiteSurvey.Proofs.Survey.Foreseen
import SiteSurvey.Proofs.Survey.Notices
import SiteSurvey.Proofs.Survey.Passes
import SiteSurvey.Proofs.Survey.Pool
import SiteSurvey.Proofs.Survey.Quiet
import SiteSurvey.Proofs.Survey.Run
import SiteSurvey.Proofs.Survey.Sought
import SiteSurvey.Proofs.Survey.Stable
import SiteSurvey.Proofs.Survey.Stages
import SiteSurvey.Proofs.Survey.Tally
import SiteSurvey.Proofs.Survey.Tame
import SiteSurvey.Proofs.Survey.Tool
import SiteSurvey.Proofs.Survey.Trace
import SiteSurvey.Proofs.Survey.Whole
import SiteSurvey.Proofs.Text.CodePoint
import SiteSurvey.Proofs.Text.Utf8
import SiteSurvey.Proofs.Volume.Alike
import SiteSurvey.Proofs.Volume.Change
import SiteSurvey.Proofs.Volume.Lookup
import SiteSurvey.Proofs.Volume.Removal
import SiteSurvey.Proofs.Volume.Resolve
import SiteSurvey.Proofs.Volume.Sayable
import SiteSurvey.Proofs.Volume.Seen
import SiteSurvey.Proofs.Volume.Sound
import SiteSurvey.Proofs.Volume.Trail
import SiteSurvey.Proofs.Volume.Walk
import SiteSurvey.Query
import SiteSurvey.Request.Extract
import SiteSurvey.Request.Finding
import SiteSurvey.Request.Reader
import SiteSurvey.Request.Scope
import SiteSurvey.Scan.Context
import SiteSurvey.Scan.Occurrence
import SiteSurvey.Scan.Record
import SiteSurvey.Script.Grammar.Binding
import SiteSurvey.Script.Grammar.Definition
import SiteSurvey.Script.Grammar.Expression
import SiteSurvey.Script.Grammar.Goal
import SiteSurvey.Script.Grammar.Literal
import SiteSurvey.Script.Grammar.Markup
import SiteSurvey.Script.Grammar.Statement
import SiteSurvey.Script.Grammar.Types
import SiteSurvey.Script.Kind
import SiteSurvey.Script.Literal
import SiteSurvey.Script.Node
import SiteSurvey.Script.Parse
import SiteSurvey.Script.Parser
import SiteSurvey.Script.Source
import SiteSurvey.Script.Strict
import SiteSurvey.Setting
import SiteSurvey.Signal
import SiteSurvey.Site.Address
import SiteSurvey.Site.Hostname
import SiteSurvey.Source
import SiteSurvey.Survey.Analysis
import SiteSurvey.Survey.PatternScan
import SiteSurvey.Survey.Pool
import SiteSurvey.Survey.RequestSurface
import SiteSurvey.Survey.Tool
import SiteSurvey.Survey.Triage
import SiteSurvey.Template.Fault
import SiteSurvey.Template.Fill
import SiteSurvey.Template.Number
import SiteSurvey.Text.Basic
import SiteSurvey.Text.Case
import SiteSurvey.Text.Integer
import SiteSurvey.Text.Quoted
import SiteSurvey.Text.Trim
import SiteSurvey.Text.Utf8
import SiteSurvey.Unicode.Blank
import SiteSurvey.Unicode.Case
import SiteSurvey.Unicode.Delimiter
import SiteSurvey.Unicode.Digit
import SiteSurvey.Unicode.Identifier
import SiteSurvey.Unicode.Letter
import SiteSurvey.Unicode.Name
import SiteSurvey.Unicode.Printable
import SiteSurvey.Unicode.Ranges
import SiteSurvey.Volume.Basic
import SiteSurvey.Volume.Change
import SiteSurvey.Volume.Fault
import SiteSurvey.Volume.Lookup
import SiteSurvey.World
import SiteSurvey.Proofs.Request.Rename
import SiteSurvey.Proofs.Request.Scope
import SiteSurvey.Proofs.Script.Fault
