import TypedPid.Address.Ip
import TypedPid.Address.Socket
import TypedPid.Api
import TypedPid.Api.Problem
import TypedPid.Api.Route
import TypedPid.Api.Submission
import TypedPid.Cache.Entries
import TypedPid.Cache.Simulation
import TypedPid.Cache.State
import TypedPid.Config
import TypedPid.Decimal.Binary64
import TypedPid.Decimal.Shortest
import TypedPid.Definition
import TypedPid.Http.Form
import TypedPid.Http.Header
import TypedPid.Http.MediaType
import TypedPid.Http.Message
import TypedPid.Http.Target
import TypedPid.Json.Node
import TypedPid.Json.Number
import TypedPid.Json.Reading
import TypedPid.Json.Value
import TypedPid.Keyed
import TypedPid.Lookup
import TypedPid.Pattern
import TypedPid.Proofs.Cache.Leadership
import TypedPid.Proofs.Cache.Origin
import TypedPid.Proofs.Cache.Transition
import TypedPid.Proofs.Validation.Conformance
import TypedPid.Record
import TypedPid.Record.Json
import TypedPid.Regex.Basic
import TypedPid.Regex.Brackets
import TypedPid.Regex.Escape
import TypedPid.Regex.Flags
import TypedPid.Regex.Reader
import TypedPid.Regex.Search
import TypedPid.Registry
import TypedPid.Service
import TypedPid.Service.Procedure
import TypedPid.Service.Running
import TypedPid.Store
import TypedPid.Text.Duration
import TypedPid.Text.Hex
import TypedPid.Text.Percent
import TypedPid.Text.Punycode
import TypedPid.Text.Quoted
import TypedPid.Text.Unsigned
import TypedPid.Text.Utf8
import TypedPid.TypeDocument
import TypedPid.Unicode.Age
import TypedPid.Unicode.BinaryProperty
import TypedPid.Unicode.Blank
import TypedPid.Unicode.BreakProperty
import TypedPid.Unicode.CaseFolding
import TypedPid.Unicode.CharSet
import TypedPid.Unicode.Decomposition
import TypedPid.Unicode.Direction
import TypedPid.Unicode.GeneralCategory
import TypedPid.Unicode.HostMapping
import TypedPid.Unicode.Joining
import TypedPid.Unicode.Lowercase
import TypedPid.Unicode.Normalize
import TypedPid.Unicode.Property
import TypedPid.Unicode.Ranges
import TypedPid.Unicode.Script
import TypedPid.Unicode.ScriptExtensions
import TypedPid.Url.Basic
import TypedPid.Url.Domain
import TypedPid.Url.Host
import TypedPid.Url.Path
import TypedPid.Url.Reader
import TypedPid.Validation
import TypedPid.Proofs.Service.Course
import TypedPid.Proofs.Service.Traffic
import TypedPid.Proofs.Service.Admission
import TypedPid.Proofs.Cache.Retention
import TypedPid.Proofs.Validation.Findings
import TypedPid.Proofs.Regex.Locality
import TypedPid.Proofs.Regex.Matching
import TypedPid.Proofs.Service.History
import TypedPid.Proofs.Regex.Coverage
import TypedPid.Proofs.Service.Contention
import TypedPid.Proofs.Cache.Renewal
import TypedPid.Proofs.Regex.Progress
import TypedPid.Proofs.Regex.Breakout
import TypedPid.Proofs.Text.Decoding
import TypedPid.Proofs.Registry.Locators
import TypedPid.Proofs.Service.Alone
import TypedPid.Proofs.Http.Reading
import TypedPid.Proofs.Api.Outcome
import TypedPid.Proofs.Api.Effects
import TypedPid.Proofs.Api.Problems
import TypedPid.Proofs.Json.Writing
import TypedPid.Proofs.Api.Locations
import TypedPid.Proofs.Record.Entries
import TypedPid.Proofs.Api.Availability
import TypedPid.Proofs.Json.Readers
import TypedPid.Proofs.Json.Roundtrip
import TypedPid.Proofs.Validation.NullValues
import TypedPid.Proofs.Validation.Views
import TypedPid.Proofs.Record.Roundtrip
import TypedPid.Proofs.TypeDocument.Roundtrip
import TypedPid.Proofs.Cache.Waiting
import TypedPid.Proofs.Cache.Isolation
import TypedPid.Proofs.Registry.Loading
import TypedPid.Proofs.Api.Identity
import TypedPid.Proofs.Cache.Capacity
import TypedPid.Proofs.Cache.Failures
import TypedPid.Proofs.Cache.Lifetime
import TypedPid.Proofs.Cache.Accounting
import TypedPid.Proofs.Definition.Building
import TypedPid.Proofs.TypeDocument.Faults
import TypedPid.Proofs.TypeDocument.Meaning
import TypedPid.Proofs.Record.Projection
import TypedPid.Proofs.Validation.Completeness
import TypedPid.Proofs.Record.History
import TypedPid.Proofs.Validation.Lookups
import TypedPid.Proofs.Unicode.Lowercase
import TypedPid.Proofs.Text.Numerals
import TypedPid.Proofs.Config.Settings
import TypedPid.Proofs.Json.Fields
import TypedPid.Proofs.Record.Contents
