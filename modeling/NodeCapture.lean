import NodeCapture.Api.Basic
import NodeCapture.Api.Body
import NodeCapture.Api.Route
import NodeCapture.CommandLine.Basic
import NodeCapture.CommandLine.Capturing
import NodeCapture.CommandLine.Command
import NodeCapture.CommandLine.Errand
import NodeCapture.CommandLine.Options
import NodeCapture.Configuration
import NodeCapture.Filter
import NodeCapture.Json.Basic
import NodeCapture.Json.Reader
import NodeCapture.Json.Writer
import NodeCapture.Kubeconfig
import NodeCapture.Kubectl.Basic
import NodeCapture.Kubectl.Command
import NodeCapture.Kubectl.Listing
import NodeCapture.Main
import NodeCapture.Message
import NodeCapture.Message.Check
import NodeCapture.Message.Codec
import NodeCapture.Moment
import NodeCapture.Node
import NodeCapture.Number
import NodeCapture.Operation.Basic
import NodeCapture.Operation.Task
import NodeCapture.Orchestrator
import NodeCapture.Projection
import NodeCapture.Proofs.ActionableCaptures
import NodeCapture.Proofs.Calendar
import NodeCapture.Proofs.CaptureListings
import NodeCapture.Proofs.CaptureNames
import NodeCapture.Proofs.CaptureRuns
import NodeCapture.Proofs.CheckedNodes
import NodeCapture.Proofs.CheckedObjects
import NodeCapture.Proofs.ChosenFilters
import NodeCapture.Proofs.CleanUp
import NodeCapture.Proofs.CoherentFilters
import NodeCapture.Proofs.CopyOptions
import NodeCapture.Proofs.Decimals
import NodeCapture.Proofs.DerivedFilters
import NodeCapture.Proofs.DistinctCaptures
import NodeCapture.Proofs.Downloads
import NodeCapture.Proofs.Edits
import NodeCapture.Proofs.Endings
import NodeCapture.Proofs.Errands
import NodeCapture.Proofs.Events
import NodeCapture.Proofs.FilterLanguage
import NodeCapture.Proofs.FirstFailures
import NodeCapture.Proofs.Folding
import NodeCapture.Proofs.GeneratedNames
import NodeCapture.Proofs.Intents
import NodeCapture.Proofs.InvalidResponses
import NodeCapture.Proofs.Isolation
import NodeCapture.Proofs.JoinedListings
import NodeCapture.Proofs.KeptCaptures
import NodeCapture.Proofs.KeylessRequests
import NodeCapture.Proofs.KnownNodes
import NodeCapture.Proofs.Lines
import NodeCapture.Proofs.ListedPods
import NodeCapture.Proofs.Listings
import NodeCapture.Proofs.LocalPaths
import NodeCapture.Proofs.LooseSessions
import NodeCapture.Proofs.Markers
import NodeCapture.Proofs.Marks
import NodeCapture.Proofs.NodeList
import NodeCapture.Proofs.Nodes
import NodeCapture.Proofs.Numerals
import NodeCapture.Proofs.PodCells
import NodeCapture.Proofs.PodRemoval
import NodeCapture.Proofs.PreviewedFilters
import NodeCapture.Proofs.Previews
import NodeCapture.Proofs.Redelivery
import NodeCapture.Proofs.ReferenceListings
import NodeCapture.Proofs.RefusedRequests
import NodeCapture.Proofs.RemovedPods
import NodeCapture.Proofs.ReportedFiles
import NodeCapture.Proofs.Responding
import NodeCapture.Proofs.RunningCaptures
import NodeCapture.Proofs.Runs
import NodeCapture.Proofs.SearchWords
import NodeCapture.Proofs.SerializedResponses
import NodeCapture.Proofs.ShellTokens
import NodeCapture.Proofs.ShellWords
import NodeCapture.Proofs.ShownNames
import NodeCapture.Proofs.StatusOperations
import NodeCapture.Proofs.StatusTable
import NodeCapture.Proofs.StoppedCaptures
import NodeCapture.Proofs.TakenCaptures
import NodeCapture.Proofs.Transcripts
import NodeCapture.Proofs.UncheckedResponses
import NodeCapture.Proofs.Validation
import NodeCapture.Protocol
import NodeCapture.ReferenceData
import NodeCapture.Session
import NodeCapture.Session.Loose
import NodeCapture.Session.Unchecked
import NodeCapture.Settings
import NodeCapture.Setup
import NodeCapture.Station
import NodeCapture.System
import NodeCapture.Text.Basic
import NodeCapture.Text.Case
import NodeCapture.Text.Quoted
import NodeCapture.Yaml.Cursor
import NodeCapture.Yaml.Reader
import NodeCapture.Yaml.Text
import NodeCapture.Yaml.Writer
