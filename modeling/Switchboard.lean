import Switchboard.Acknowledgement
import Switchboard.Aggregate.Model
import Switchboard.Aggregate.Root
import Switchboard.Bus.Basic
import Switchboard.Bus.Monitor
import Switchboard.Bus.Posting
import Switchboard.Bus.Processing
import Switchboard.Bus.Run
import Switchboard.Bus.Sweep
import Switchboard.Consumer.Basic
import Switchboard.Consumer.Delivery
import Switchboard.Consumer.HandlerSet
import Switchboard.Consumer.Registry
import Switchboard.Entity.Cache
import Switchboard.Entity.Key
import Switchboard.Entity.RecordFiles
import Switchboard.Entity.Snapshot
import Switchboard.Entity.Storage
import Switchboard.Failure
import Switchboard.FileSystem
import Switchboard.Json.Decoder
import Switchboard.Json.Document
import Switchboard.Json.Location
import Switchboard.Json.Members
import Switchboard.Json.Parts
import Switchboard.Json.Record
import Switchboard.Json.Source
import Switchboard.Json.Text
import Switchboard.Json.Token
import Switchboard.Json.Value
import Switchboard.Message
import Switchboard.Mismatch
import Switchboard.Number.Binary64
import Switchboard.Number.Shortest
import Switchboard.Outcome
import Switchboard.Rejection
import Switchboard.Report
import Switchboard.Repository.Actors
import Switchboard.Repository.Basic
import Switchboard.Repository.Worker
import Switchboard.Sample.Bank.Account
import Switchboard.Sample.Bank.Message
import Switchboard.Sample.Brief
import Switchboard.Sample.Cast
import Switchboard.Sample.Catalog
import Switchboard.Sample.Journal
import Switchboard.Sample.Lab.Message
import Switchboard.Sample.Lab.Model
import Switchboard.Sample.Notes
import Switchboard.Sample.Playbook
import Switchboard.Sample.Scene
import Switchboard.Sample.Script
import Switchboard.Sample.Transcript
import Switchboard.Signal.Basic
import Switchboard.Signal.Record
import Switchboard.Signal.Store
import Switchboard.Signal.Supply
import Switchboard.Table
import Switchboard.Text
import Switchboard.Text.Invisible
import Switchboard.Uuid
import Switchboard.World
import Switchboard.Proofs.Aggregate.Replay
import Switchboard.Proofs.Aggregate.Answer
import Switchboard.Proofs.Entity.StorageView
import Switchboard.Proofs.Repository.Inventory
import Switchboard.Proofs.Repository.Worker
import Switchboard.Proofs.Repository.Sending
import Switchboard.Proofs.Repository.Caching
import Switchboard.Proofs.Repository.Durability
import Switchboard.Proofs.Repository.History
import Switchboard.Proofs.Aggregate.Answers
import Switchboard.Proofs.Repository.BatchRefinement
import Switchboard.Proofs.Bus.Recording
import Switchboard.Proofs.Repository.Drawing
import Switchboard.Proofs.Bus.Pipeline
import Switchboard.Proofs.Bus.Handling
import Switchboard.Proofs.Consumer.Registration
import Switchboard.Proofs.Bus.Enrollment
import Switchboard.Proofs.Sample.Office
import Switchboard.Proofs.Bus.Conduct
import Switchboard.Proofs.Bus.Life
import Switchboard.Proofs.Bus.Settlement
import Switchboard.Proofs.Bus.Legality
import Switchboard.Proofs.Bus.Serving
import Switchboard.Proofs.Bus.Claiming
import Switchboard.Proofs.Bus.Interleaving
import Switchboard.Proofs.Sample.Booth
import Switchboard.Proofs.Bus.Stranding
import Switchboard.Proofs.Table
import Switchboard.Proofs.Signal.Schedule
import Switchboard.Proofs.Bus.Sweeping
import Switchboard.Proofs.Forest
import Switchboard.Proofs.Sample.Square
import Switchboard.Proofs.Bus.LevelOrder
import Switchboard.Proofs.Signal.Future
import Switchboard.Proofs.Repository.Foresight
import Switchboard.Proofs.Bus.Foresight
import Switchboard.Proofs.Bus.Postponement
import Switchboard.Proofs.Entity.Transparency
import Switchboard.Proofs.Entity.Tenancy
import Switchboard.Proofs.Bus.Tenants
import Switchboard.Proofs.Bus.Refusal
import Switchboard.Proofs.FileSystem
import Switchboard.Proofs.Entity.RecordFiles
import Switchboard.Proofs.Consumer.Lookups
import Switchboard.Proofs.Repository.Twins
import Switchboard.Proofs.Repository.Isolation
import Switchboard.Proofs.Signal.Essence
import Switchboard.Proofs.Consumer.Reordering
import Switchboard.Proofs.Consumer.Regularity
import Switchboard.Proofs.Bus.Storing
import Switchboard.Proofs.Bus.Reordering
import Switchboard.Proofs.Aggregate.FastForward
import Switchboard.Proofs.Sample.Lobby
import Switchboard.Proofs.Consumer.Release
import Switchboard.Proofs.Consumer.Founding
import Switchboard.Proofs.Bus.Acknowledging
import Switchboard.Proofs.Json.Reading
import Switchboard.Proofs.Uuid
import Switchboard.Proofs.Signal.Encoding
import Switchboard.Proofs.Aggregate.Construction
import Switchboard.Proofs.Aggregate.Applicability
import Switchboard.Proofs.Sample.Bench
import Switchboard.Proofs.Aggregate.Transactions
import Switchboard.Proofs.Aggregate.Accounting
import Switchboard.Proofs.Aggregate.Buffer
import Switchboard.Proofs.Consumer.Undoing
import Switchboard.Proofs.Bus.Termination
import Switchboard.Proofs.Bus.InTurn
import Switchboard.Proofs.Signal.Delay
import Switchboard.Proofs.Entity.RecordPaths
import Switchboard.Proofs.Json.Scanning
import Switchboard.Proofs.Acknowledgement
import Switchboard.Proofs.Encoding
