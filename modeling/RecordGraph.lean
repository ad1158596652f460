import RecordGraph.Actor
import RecordGraph.Command.Arguments
import RecordGraph.Command.Invocation
import RecordGraph.Command.Perform
import RecordGraph.Command.Run
import RecordGraph.Command.Workspace
import RecordGraph.Config
import RecordGraph.Document.Archive
import RecordGraph.Document.Read
import RecordGraph.Document.Write
import RecordGraph.Error
import RecordGraph.Files.Path
import RecordGraph.Files.StoreFile
import RecordGraph.Files.Tree
import RecordGraph.Graph.Condition
import RecordGraph.Graph.Derivation
import RecordGraph.Graph.Mapping
import RecordGraph.Graph.NeighborCache
import RecordGraph.Graph.Query
import RecordGraph.Graph.Records
import RecordGraph.Graph.Traversal
import RecordGraph.Job.Basic
import RecordGraph.Job.Ledger
import RecordGraph.Job.Log
import RecordGraph.Job.Row
import RecordGraph.Job.Status
import RecordGraph.Json.Basic
import RecordGraph.Json.Binary64
import RecordGraph.Json.Number
import RecordGraph.Json.Quoted
import RecordGraph.Json.Raw
import RecordGraph.Json.Shortest
import RecordGraph.Json.Write
import RecordGraph.Main
import RecordGraph.Object
import RecordGraph.Ordered
import RecordGraph.Output.Layout
import RecordGraph.Output.Listing
import RecordGraph.Output.Mode
import RecordGraph.Output.Report
import RecordGraph.Policy
import RecordGraph.Registry
import RecordGraph.Relationship
import RecordGraph.Schema
import RecordGraph.Store.Basic
import RecordGraph.Store.Connection
import RecordGraph.Store.Lookup
import RecordGraph.Store.Rows
import RecordGraph.Stub
import RecordGraph.Text.Blank
import RecordGraph.Text.Decimal
import RecordGraph.Timestamp
import RecordGraph.Toml.Basic
import RecordGraph.Toml.Document
import RecordGraph.Toml.Scalar
import RecordGraph.Proofs.Rows
import RecordGraph.Proofs.Transition
import RecordGraph.Proofs.GraphTransitions
import RecordGraph.Proofs.GraphRuns
import RecordGraph.Proofs.StoreIntegrity
import RecordGraph.Proofs.SnapshotSeparation
import RecordGraph.Proofs.LedgerTransitions
import RecordGraph.Proofs.LedgerRuns
import RecordGraph.Proofs.NeighborCache
import RecordGraph.Proofs.FailureAtomicity
import RecordGraph.Proofs.ImportClearing
import RecordGraph.Proofs.JobLifecycle
import RecordGraph.Proofs.EdgeChanges
import RecordGraph.Proofs.EdgePermissions
import RecordGraph.Proofs.CommandTurns
import RecordGraph.Proofs.StrandedEdges
import RecordGraph.Proofs.AccessorIndex
import RecordGraph.Proofs.Traversals
import RecordGraph.Proofs.RelatedObjects
import RecordGraph.Proofs.RowContinuity
import RecordGraph.Proofs.RowHistory
import RecordGraph.Proofs.DerivedLinks
import RecordGraph.Proofs.OpenTransactions
import RecordGraph.Proofs.JobSeparation
import RecordGraph.Proofs.CacheUnion
import RecordGraph.Proofs.MappingOrder
import RecordGraph.Proofs.ParentChains
import RecordGraph.Proofs.RecordChanges
import RecordGraph.Proofs.SnapshotOrigins
import RecordGraph.Proofs.WrittenNumbers
import RecordGraph.Proofs.Rounding
import RecordGraph.Proofs.Scaling
import RecordGraph.Proofs.WrittenFloats
import RecordGraph.Proofs.QuotedStrings
import RecordGraph.Proofs.DocumentText
import RecordGraph.Proofs.IntegerDocuments
import RecordGraph.Proofs.StoredResults
import RecordGraph.Proofs.KeptResults
import RecordGraph.Proofs.FileTrees
import RecordGraph.Proofs.CommandLines
import RecordGraph.Proofs.FailedCommands
import RecordGraph.Proofs.MappingDryRun
import RecordGraph.Proofs.RepeatedInit
import RecordGraph.Proofs.WrittenLines
import RecordGraph.Proofs.MappingLines
import RecordGraph.Proofs.EagerLoading
import RecordGraph.Proofs.NextNumbers
import RecordGraph.Proofs.Requirements
import RecordGraph.Proofs.RelatedQueries
import RecordGraph.Proofs.Derivations
import RecordGraph.Proofs.RecordRemoval
import RecordGraph.Proofs.JobListings
import RecordGraph.Proofs.RecordInsertion
import RecordGraph.Proofs.RunRemoval
import RecordGraph.Proofs.UndoneMapping
import RecordGraph.Proofs.PolicyLayers
import RecordGraph.Proofs.ReferenceGrammar
import RecordGraph.Proofs.SchemaMigrations
import RecordGraph.Proofs.ByteOrder
import RecordGraph.Proofs.BulkReads
import RecordGraph.Proofs.JobWords
import RecordGraph.Proofs.Registrations
import RecordGraph.Proofs.ListedRecords
import RecordGraph.Proofs.TableLines
