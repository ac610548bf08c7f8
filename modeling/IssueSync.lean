import IssueSync.Text.Digit
import IssueSync.Text.Blank
import IssueSync.Text.Base64
import IssueSync.Text.Printable
import IssueSync.Text.CaseMap
import IssueSync.Text.Quoted
import IssueSync.Text.Percent
import IssueSync.Number.Shortest
import IssueSync.Number.FloatText
import IssueSync.Number.IntText
import IssueSync.Data.Value
import IssueSync.Data.ValueText
import IssueSync.Data.Json.Reader
import IssueSync.Data.Json.Writer
import IssueSync.Failure
import IssueSync.Version
import IssueSync.Resolution
import IssueSync.Finding.Key
import IssueSync.Finding.Meta
import IssueSync.Store.Path
import IssueSync.Api.Key
import IssueSync.Time.Stamp
import IssueSync.Finding.Basic
import IssueSync.Finding.ResolvedSet
import IssueSync.Config.Connection
import IssueSync.Config.Scope
import IssueSync.Config.Settings
import IssueSync.Data.Yaml.Token
import IssueSync.Data.Yaml.Event
import IssueSync.Text.Pattern
import IssueSync.Data.Yaml.Tag
import IssueSync.Data.Yaml.Node
import IssueSync.Data.Yaml.Document
import IssueSync.Config.File
import IssueSync.Data.Json.Bytes
import IssueSync.Text.Utf8
import IssueSync.Text.Newline
import IssueSync.Store.Files
import IssueSync.Remote.Exchange
import IssueSync.Remote.Script
import IssueSync.Host
import IssueSync.Remote.Client
import IssueSync.Remote.Gateway
import IssueSync.Data.Mapping
import IssueSync.Store.LocalOnly
import IssueSync.Store.ServerFindings
import IssueSync.Store.ServerInfo
import IssueSync.Service.Basic
import IssueSync.Service.Capability
import IssueSync.Service.Operations
import IssueSync.Session.Step
import IssueSync.Session.Report
import IssueSync.Sweep.Options
import IssueSync.Config.Locate
import IssueSync.Sweep.Resync
import IssueSync.Api.Route
import IssueSync.Api.Validate
import IssueSync.Api.App
import IssueSync.Proofs.IdText
import IssueSync.Proofs.Run
import IssueSync.Proofs.LocalStore
import IssueSync.Proofs.Requests
import IssueSync.Proofs.Frame
import IssueSync.Proofs.StorePaths
import IssueSync.Proofs.BindingChain
import IssueSync.Proofs.FindingRecord
import IssueSync.Proofs.SearchReply
import IssueSync.Proofs.Service
import IssueSync.Proofs.Operations
import IssueSync.Proofs.Queries
import IssueSync.Proofs.ResolvedSet
import IssueSync.Proofs.PushAgreement
import IssueSync.Proofs.FailureAtomicity
import IssueSync.Proofs.StoreEffect
import IssueSync.Proofs.Routing
import IssueSync.Proofs.UnscriptedServer
import IssueSync.Proofs.ScopeIsolation
import IssueSync.Proofs.ProjectPush
import IssueSync.Proofs.AwaitPoints
import IssueSync.Proofs.Scheduler
import IssueSync.Proofs.Footprint
import IssueSync.Proofs.Serializable
import IssueSync.Proofs.CacheView
import IssueSync.Proofs.ScopeLock
import IssueSync.Proofs.Recording
import IssueSync.Proofs.Linearizable
import IssueSync.Proofs.CacheUpdates
import IssueSync.Proofs.KeyGate
import IssueSync.Proofs.Permission
import IssueSync.Proofs.Telemetry
import IssueSync.Proofs.VersionOrder
import IssueSync.Proofs.ServerCache
import IssueSync.Proofs.Ingest
import IssueSync.Proofs.StampText
import IssueSync.Proofs.StoreHistory
import IssueSync.Proofs.KeySpelling
import IssueSync.Proofs.JsonRoundTrip
import IssueSync.Proofs.ServerInfoCache
