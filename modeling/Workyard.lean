import Workyard.Client.Manager
import Workyard.Client.Worker
import Workyard.Command.File
import Workyard.Command.Recorder
import Workyard.CommandLine.Operator
import Workyard.CommandLine.Serve
import Workyard.Files.LogBook
import Workyard.Json.Access
import Workyard.Main
import Workyard.Proofs.Client.Classification
import Workyard.Proofs.Client.Posting
import Workyard.Proofs.Command.Delivery
import Workyard.Proofs.Command.Resumption
import Workyard.Proofs.Command.Writing
import Workyard.Proofs.Dispatch.Counters
import Workyard.Proofs.Dispatch.Omission
import Workyard.Proofs.Endpoint.Listening
import Workyard.Proofs.Endpoint.Spelling
import Workyard.Proofs.Execution.Boundary
import Workyard.Proofs.Execution.Waiting
import Workyard.Proofs.Files.ReadBack
import Workyard.Proofs.Rpc.Fitting
import Workyard.Proofs.Wire.Records
import Workyard.Proofs.Yard.Joining
import Workyard.Proofs.Yard.Logging
import Workyard.Proofs.Yard.Observers
import Workyard.Proofs.Yard.Outcomes
import Workyard.Proofs.Yard.Progress
import Workyard.Proofs.Yard.Registration
import Workyard.Rehearsal.Campaign
import Workyard.Rpc.Worker
import Workyard.Shell.Executor
import Workyard.Text.Brief
