import FileTail.Agent.Session
import FileTail.Follow.Rehearsal
import FileTail.Main
import FileTail.Tasks
import FileTail.Proofs.Delimiter
import FileTail.Proofs.Plan
import FileTail.Proofs.Record
import FileTail.Proofs.Track
import FileTail.Proofs.Tailing
import FileTail.Proofs.Delivery
import FileTail.Proofs.Replacement
import FileTail.Proofs.Revisit
import FileTail.Proofs.Arrears
import FileTail.Proofs.Visit
import FileTail.Proofs.Standstill
import FileTail.Proofs.Pace
import FileTail.Proofs.Watching
import FileTail.Proofs.Reservation
import FileTail.Proofs.Indices
import FileTail.Proofs.Range
import FileTail.Proofs.Loop
import FileTail.Proofs.Advance
import FileTail.Proofs.Harvest
import FileTail.Proofs.Account
import FileTail.Proofs.Omission
import FileTail.Proofs.Parts
import FileTail.Proofs.Alignment
import FileTail.Proofs.Isolation
import FileTail.Proofs.Retry
import FileTail.Proofs.Traffic
import FileTail.Proofs.Shutdown
import FileTail.Proofs.Reads
import FileTail.Proofs.Resync
import FileTail.Proofs.Boundaries
import FileTail.Proofs.TextSplit
import FileTail.Proofs.Segmentation
import FileTail.Proofs.Cooldown
import FileTail.Proofs.Succession
import FileTail.Proofs.Repertoire
import FileTail.Proofs.Waiting
import FileTail.Proofs.Validity
import FileTail.Proofs.JsonReader
import FileTail.Proofs.Documents
import FileTail.Proofs.Exporting
import FileTail.Proofs.Arguments
import FileTail.Proofs.Escapes
import FileTail.Proofs.Heads
