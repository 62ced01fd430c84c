import Standstill.Net.Endpoint
import Standstill.Socket.Role
import Standstill.System.Fault
import Standstill.Time.Span

/-!
# Why a run fails

A failure keeps a run from being set up or from being reported. A peer that
closes the stream early is none: it is part of a report. Each failure has
one message and an exit code, and the code for a host without a usable
interface is no other failure's.

Results:
* `Failure.exitCode_eq_noInterface_iff`.
-/
namespace Standstill

/-- What is wrong with a configuration. -/
inductive ConfigFault
  | noCycles
  | noWorkers
  | noLocks
  | delayTooLong (ticks : UInt32) (tick : Span)
  | waitTooLong (ticks : UInt32) (tick : Span)
  /-- A port of the system's choice is known to the listener's own run only. -/
  | portNotFixed (role : Socket.Role)
  | stated (text : String)
deriving Repr, DecidableEq

def ConfigFault.message : ConfigFault → String
  | .noCycles => "cycles must be greater than zero"
  | .noWorkers => "at least one worker is required"
  | .noLocks => "at least one lock is required"
  | .delayTooLong n t =>
    "connect delay of " ++ toString n.toNat ++ " ticks of " ++ t.text ++ " overflows"
  | .waitTooLong n t =>
    "timed wait of " ++ toString n.toNat ++ " ticks of " ++ t.text ++ " overflows"
  | .portNotFixed r => "port 0 requires role 'both', got '" ++ r.name ++ "'"
  | .stated s => s

/-- A party that a run depends on. -/
inductive Peer
  | worker
  | connector
deriving Repr, DecidableEq

def Peer.name : Peer → String
  | .worker => "worker"
  | .connector => "connector"

/-- How a party ended that did not end well. -/
inductive PeerEnd
  | exitCode (code : Int32)
  /-- Ended by a signal. -/
  | killed (process : Nat) (signal : String) (dumped : Bool)
  /-- Exit code zero, but no report came. -/
  | silent
  | stated (text : String)
deriving Repr, DecidableEq

def PeerEnd.message : PeerEnd → String
  | .exitCode c => "exit code " ++ toString c.toInt
  | .killed p s d =>
    "Signaled(Pid(" ++ toString p ++ "), " ++ s ++ ", " ++ (if d then "true" else "false") ++ ")"
  | .silent => "exited without sending its report"
  | .stated s => s

/-- Why a record could not be read or written. -/
inductive RecordFault
  | json (e : Json.Error)
  | io (f : IoFault)
deriving Repr, DecidableEq

def RecordFault.message : RecordFault → String
  | .json e => e.message
  | .io f => f.text

inductive Failure
  | noInterface
  | interfaceScan (source : Errno)
  | bind (address : Endpoint) (source : IoFault)
  | listen (address : Endpoint) (source : Errno)
  | accept (source : IoFault)
  | connect (address : Endpoint) (source : IoFault)
  | spawn (worker : UInt64) (source : IoFault)
  | fork (source : Errno)
  | wait (source : Errno)
  | peer (who : Peer) (how : PeerEnd)
  | config (fault : ConfigFault)
  | io (source : IoFault)
  | record (source : RecordFault)
deriving Repr, DecidableEq

namespace Failure

def message : Failure → String
  | .noInterface => "No non-loopback IPv4 interface found"
  | .interfaceScan e => "Interface scan failed: " ++ e.title
  | .bind a f => "Bind to " ++ a.text ++ " failed: " ++ f.text
  | .listen a e => "Listen on " ++ a.text ++ " failed: " ++ e.title
  | .accept f => "Accept failed: " ++ f.text
  | .connect a f => "Connect to " ++ a.text ++ " failed: " ++ f.text
  | .spawn i f => "Failed to spawn worker " ++ toString i.toNat ++ ": " ++ f.text
  | .fork e => "Fork failed: " ++ e.title
  | .wait e => "Waiting for peer process failed: " ++ e.title
  | .peer w h => "Peer " ++ w.name ++ " exited abnormally: " ++ h.message
  | .config c => "Configuration error: " ++ c.message
  | .io f => "IO error: " ++ f.text
  | .record f => "Serialization error: " ++ f.message

/-- The text of the fault below, if there is one. -/
def source? : Failure → Option String
  | .noInterface | .peer .. | .config _ => none
  | .interfaceScan e | .listen _ e | .fork e | .wait e => some e.title
  | .bind _ f | .accept f | .connect _ f | .spawn _ f | .io f => some f.text
  | .record f => some f.message

/-- Exit code of a process on a host without a usable interface. -/
def noInterfaceCode : Nat := 2

/-- Exit code of a process that fails in any other way. -/
def setupCode : Nat := 1

/-- The exit code of a process that fails so. -/
def exitCode : Failure → Nat
  | .noInterface => noInterfaceCode
  | _ => setupCode

theorem exitCode_eq_noInterface_iff (f : Failure) :
    f.exitCode = noInterfaceCode ↔ f = .noInterface := by
  cases f <;> simp [exitCode, noInterfaceCode, setupCode]

end Failure

/-- A misuse that ends a run on the spot, with no failure to report. -/
inductive Defect
  | noPermits
  | noLockToShare
  /-- A list would take up more bytes than there are addresses. -/
  | capacityOverflow
  /-- The host has no memory for a list of so many bytes. -/
  | outOfMemory (bytes : Nat)
deriving Repr, DecidableEq

def Defect.message : Defect → String
  | .noPermits => "CountingSemaphore needs at least one permit"
  | .noLockToShare => "attempt to calculate the remainder with a divisor of zero"
  | .capacityOverflow => "capacity overflow"
  | .outOfMemory n => "memory allocation of " ++ toString n ++ " bytes failed"

/-- Exit code of a process that notices a defect. -/
def defectCode : Nat := 101

/-- The exit code of a process that a defect ends, unless a signal does: with no
memory left, the process is aborted. -/
def Defect.exitCode? : Defect → Option Nat
  | .outOfMemory _ => none
  | .noPermits | .noLockToShare | .capacityOverflow => some defectCode

/-- Why a run comes to no result. -/
inductive Halt
  | failure (f : Failure)
  | defect (d : Defect)
deriving Repr, DecidableEq

end Standstill
