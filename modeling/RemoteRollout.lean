import RemoteRollout.Text.Characters
import RemoteRollout.Text.Pieces
import RemoteRollout.Text.Quoted
import RemoteRollout.Text.Utf8
import RemoteRollout.Json.Decode
import RemoteRollout.RemoteConfiguration
import RemoteRollout.ErrorResponse
import RemoteRollout.Event
import RemoteRollout.Cohort
import RemoteRollout.Version
import RemoteRollout.Version.Precedence
import RemoteRollout.Bisection
import RemoteRollout.Storage.Disk
import RemoteRollout.Storage.Cache
import RemoteRollout.ClusterMap
import RemoteRollout.Selection
import RemoteRollout.Metrics
import RemoteRollout.Startup
import RemoteRollout.Yaml.Block
import RemoteRollout.Yaml.Fold
import RemoteRollout.Yaml.Plain
import RemoteRollout.Yaml.Quoted
import RemoteRollout.Yaml.Spot
import RemoteRollout.Yaml.Decode
import RemoteRollout.SettingsText
import RemoteRollout.SettingsFile
import RemoteRollout.LogFilter
import RemoteRollout.CommandLine.Outcome
import RemoteRollout.Storage.Snapshot
import RemoteRollout.CommandLine.Record
import RemoteRollout.CommandLine.Resources
import RemoteRollout.Main
import RemoteRollout.LogFilter.Pattern
import RemoteRollout.LogFilter.ValueTest
import RemoteRollout.Proofs.Precedence
import RemoteRollout.Proofs.Reading
import RemoteRollout.Proofs.Spelling
import RemoteRollout.Proofs.Metrics.Counting
import RemoteRollout.Proofs.Metrics.Exposition
import RemoteRollout.Proofs.ClusterMap.Acceptance
import RemoteRollout.Proofs.ClusterMap.Floor
import RemoteRollout.Proofs.ClusterMap.Faults
import RemoteRollout.Proofs.ClusterMap.Insertion
import RemoteRollout.Proofs.Storage.ReadThrough
import RemoteRollout.Proofs.Storage.Below
import RemoteRollout.Proofs.Storage.Session
import RemoteRollout.Proofs.Service.Requests
import RemoteRollout.Proofs.Service.Queries
import RemoteRollout.Proofs.Service.Run
import RemoteRollout.Proofs.ClusterMap.Loading
import RemoteRollout.Proofs.Startup
import RemoteRollout.Proofs.Startup.Validation
import RemoteRollout.Proofs.Startup.Traces
import RemoteRollout.Proofs.Settings.ListItems
import RemoteRollout.Proofs.Selection.ClusterId
import RemoteRollout.Proofs.Selection.Allowlist
import RemoteRollout.Proofs.Service.Availability
import RemoteRollout.Proofs.Service.Transparency
import RemoteRollout.Proofs.Service.Isolation
import RemoteRollout.Proofs.Service.Permanence
import RemoteRollout.Proofs.Service.Conservation
import RemoteRollout.Proofs.Metrics.Attribution
import RemoteRollout.Proofs.CommandLine.Preflight
import RemoteRollout.Proofs.Json.Source
import RemoteRollout.Proofs.Json.Literals
import RemoteRollout.Proofs.Json.Scanning
import RemoteRollout.Proofs.Json.Printing
import RemoteRollout.Proofs.Json.Members
import RemoteRollout.Proofs.Json.Values
import RemoteRollout.Proofs.Json.Records
import RemoteRollout.Proofs.Utf8
import RemoteRollout.Proofs.Json.Spelled
import RemoteRollout.Proofs.Json.Accepted
import RemoteRollout.Proofs.Documents.RoundTrip
import RemoteRollout.Proofs.CommandLine.Reporting
import RemoteRollout.Proofs.Documents.Fidelity
import RemoteRollout.Proofs.ClusterMap.Confinement
import RemoteRollout.Proofs.Selection.Consultation
import RemoteRollout.Proofs.Service.Consultation
import RemoteRollout.Proofs.Service.Effects
import RemoteRollout.Proofs.Service.Artifacts
import RemoteRollout.Proofs.Service.BuildMetadata
import RemoteRollout.Proofs.Settings.Layers
import RemoteRollout.Proofs.Storage.Trees
import RemoteRollout.Proofs.Metrics.Recordings
import RemoteRollout.Proofs.CommandLine.Replay
import RemoteRollout.Proofs.Json.Shapes
import RemoteRollout.Proofs.Json.RecordShapes
import RemoteRollout.Proofs.Documents.Schema
import RemoteRollout.Proofs.ClusterMap.Written
import RemoteRollout.Proofs.Settings.ListText
import RemoteRollout.Proofs.Settings.Shown
