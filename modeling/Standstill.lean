import Standstill.Contention.Session
import Standstill.Json.Value
import Standstill.Main
import Standstill.Semaphore.Session
import Standstill.Socket.Parties
import Standstill.Proofs.Contention.Exclusion
import Standstill.Proofs.Semaphore.Wakeup
import Standstill.Proofs.Contention.Consistency
import Standstill.Proofs.Socket.Loops
import Standstill.Proofs.Socket.Stream
import Standstill.Proofs.Json.Words
import Standstill.Proofs.Json.Codecs
import Standstill.Proofs.Json.Records
import Standstill.Proofs.Socket.Handover
import Standstill.Proofs.Socket.Fork
import Standstill.Proofs.Socket.Progress
import Standstill.Proofs.Socket.Deadlock
import Standstill.Proofs.Text.Digits
import Standstill.Proofs.Net.Addresses
import Standstill.Proofs.Json.Containers
import Standstill.Proofs.Json.Lines
import Standstill.Proofs.Orchestrator.Verdicts
import Standstill.Proofs.Socket.Setup
import Standstill.Proofs.Orchestrator.Runs
import Standstill.Proofs.CommandLine.Options
import Standstill.Proofs.Orchestrator.Arguments
import Standstill.Proofs.Orchestrator.ExitCodes
import Standstill.Proofs.Orchestrator.Work
import Standstill.Proofs.Socket.Receiving
import Standstill.Proofs.Contention.Attempts
import Standstill.Proofs.Orchestrator.Judging
import Standstill.Proofs.Socket.Reading
import Standstill.Proofs.Socket.Writing
import Standstill.Proofs.Waits
import Standstill.Proofs.CommandLine.Vocabulary
import Standstill.Proofs.CommandLine.Fixtures
