import Standstill.System.Errno

/-!
# Faults of input and output

A call fails with an error number, or with a kind of fault, bare or with a
text of its own. Only the kind decides whether a call is tried again.
-/
namespace Standstill

inductive FaultKind
  | addressInUse
  | addressNotAvailable
  | alreadyExists
  | argumentListTooLong
  | brokenPipe
  | connectionAborted
  | connectionRefused
  | connectionReset
  | crossesDevices
  | deadlock
  | directoryNotEmpty
  | executableFileBusy
  | fileTooLarge
  | filesystemLoop
  | hostUnreachable
  | inProgress
  | interrupted
  | invalidData
  | invalidFilename
  | invalidInput
  | isDirectory
  | networkDown
  | networkUnreachable
  | notConnected
  | notDirectory
  | notFound
  | notSeekable
  | other
  | outOfMemory
  | permissionDenied
  | quotaExceeded
  | readOnlyFilesystem
  | resourceBusy
  | staleNetworkFileHandle
  | storageFull
  | timedOut
  | tooManyLinks
  | uncategorized
  | unexpectedEnd
  | unsupported
  | wouldBlock
  | writeZero
deriving Repr, DecidableEq

def FaultKind.text : FaultKind → String
  | .addressInUse => "address in use"
  | .addressNotAvailable => "address not available"
  | .alreadyExists => "entity already exists"
  | .argumentListTooLong => "argument list too long"
  | .brokenPipe => "broken pipe"
  | .connectionAborted => "connection aborted"
  | .connectionRefused => "connection refused"
  | .connectionReset => "connection reset"
  | .crossesDevices => "cross-device link or rename"
  | .deadlock => "deadlock"
  | .directoryNotEmpty => "directory not empty"
  | .executableFileBusy => "executable file busy"
  | .fileTooLarge => "file too large"
  | .filesystemLoop => "filesystem loop or indirection limit (e.g. symlink loop)"
  | .hostUnreachable => "host unreachable"
  | .inProgress => "in progress"
  | .interrupted => "operation interrupted"
  | .invalidData => "invalid data"
  | .invalidFilename => "invalid filename"
  | .invalidInput => "invalid input parameter"
  | .isDirectory => "is a directory"
  | .networkDown => "network down"
  | .networkUnreachable => "network unreachable"
  | .notConnected => "not connected"
  | .notDirectory => "not a directory"
  | .notFound => "entity not found"
  | .notSeekable => "seek on unseekable file"
  | .other => "other error"
  | .outOfMemory => "out of memory"
  | .permissionDenied => "permission denied"
  | .quotaExceeded => "quota exceeded"
  | .readOnlyFilesystem => "read-only filesystem or storage medium"
  | .resourceBusy => "resource busy"
  | .staleNetworkFileHandle => "stale network file handle"
  | .storageFull => "no storage space"
  | .timedOut => "timed out"
  | .tooManyLinks => "too many links"
  | .uncategorized => "uncategorized error"
  | .unexpectedEnd => "unexpected end of file"
  | .unsupported => "unsupported"
  | .wouldBlock => "operation would block"
  | .writeZero => "write zero"

/-- Why an input or output call failed. -/
inductive IoFault
  | errno (e : Errno)
  | kind (k : FaultKind)
  /-- A fault of a kind in words of its own. -/
  | stated (k : FaultKind) (text : String)
deriving Repr, DecidableEq

namespace IoFault

def text : IoFault → String
  | .errno e => e.text ++ " (os error " ++ toString e.code.toInt ++ ")"
  | .kind k => k.text
  | .stated _ t => t

/-- Whether the call was broken off and is to be tried again. -/
def isInterrupted : IoFault → Bool
  | .errno e => e == .interrupted
  | .kind k => k == .interrupted
  | .stated k _ => k == .interrupted

/-- A writer that takes nothing more. -/
def writerFull : IoFault := .stated .writeZero "failed to write whole buffer"

/-- Bytes that are no text. -/
def notText : IoFault := .stated .invalidData "stream did not contain valid UTF-8"

end IoFault

end Standstill
