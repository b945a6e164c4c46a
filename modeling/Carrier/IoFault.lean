/-!
# Faults of the operating system

- `IoKind`: what went wrong, for faults that carry nothing else.
- `IoFault`: such a kind, an error number of the system, or an address that is no address.
- `IoFault.message`: the wording of each.
-/

namespace Carrier

/-- What went wrong with an input or output operation. -/
inductive IoKind where
  | brokenPipe
  | connectionReset
  | connectionRefused
  | connectionAborted
  | notFound
  | permissionDenied
  | addressInUse
  | addressNotAvailable
  | timedOut
  | unexpectedEnd
  | writeZero
  | invalidInput
  | invalidData
  | other
  deriving DecidableEq, Repr

/-- The wording of a fault that carries nothing but its kind. -/
def IoKind.message : IoKind → String
  | .brokenPipe => "broken pipe"
  | .connectionReset => "connection reset"
  | .connectionRefused => "connection refused"
  | .connectionAborted => "connection aborted"
  | .notFound => "entity not found"
  | .permissionDenied => "permission denied"
  | .addressInUse => "address in use"
  | .addressNotAvailable => "address not available"
  | .timedOut => "timed out"
  | .unexpectedEnd => "unexpected end of file"
  | .writeZero => "write zero"
  | .invalidInput => "invalid input parameter"
  | .invalidData => "invalid data"
  | .other => "other error"

/-- An error number of the system, of those this program meets. -/
inductive SystemFault where
  | noSuchFile
  | permissionDenied
  | notADirectory
  | isADirectory
  | nameTooLong
  | addressInUse
  | addressNotAvailable
  | networkUnreachable
  | connectionReset
  | connectionRefused
  deriving DecidableEq, Repr

namespace SystemFault

/-- The number the system gives to the fault. -/
def code : SystemFault → Nat
  | .noSuchFile => 2
  | .permissionDenied => 13
  | .notADirectory => 20
  | .isADirectory => 21
  | .nameTooLong => 36
  | .addressInUse => 98
  | .addressNotAvailable => 99
  | .networkUnreachable => 101
  | .connectionReset => 104
  | .connectionRefused => 111

/-- The system's wording of the fault. -/
def wording : SystemFault → String
  | .noSuchFile => "No such file or directory"
  | .permissionDenied => "Permission denied"
  | .notADirectory => "Not a directory"
  | .isADirectory => "Is a directory"
  | .nameTooLong => "File name too long"
  | .addressInUse => "Address already in use"
  | .addressNotAvailable => "Cannot assign requested address"
  | .networkUnreachable => "Network is unreachable"
  | .connectionReset => "Connection reset by peer"
  | .connectionRefused => "Connection refused"

end SystemFault

/-- A fault of an input or output operation. -/
inductive IoFault where
  /-- A fault known by its kind alone. -/
  | bare (kind : IoKind)
  /-- A fault that the system reports by number. -/
  | system (fault : SystemFault)
  /-- An address to bind has no port part. -/
  | invalidSocketAddress
  /-- The port part of an address to bind is no port number. -/
  | invalidPort
  /-- A host has no address to bind. -/
  | noAddress
  /-- There is no host of a name. -/
  | unknownHost
  /-- Nobody can be asked for the name of a host. -/
  | noNameService
  /-- A file to be read as text holds bytes that are no text. -/
  | invalidText
  /-- A name of a file holds a zero byte. -/
  | nulInName
  deriving DecidableEq, Repr

/-- The wording of a fault. -/
def IoFault.message : IoFault → String
  | .bare kind => kind.message
  | .system fault => fault.wording ++ " (os error " ++ toString fault.code ++ ")"
  | .invalidSocketAddress => "invalid socket address"
  | .invalidPort => "invalid port value"
  | .noAddress => "could not resolve to any address"
  | .unknownHost => "failed to lookup address information: Name or service not known"
  | .noNameService =>
    "failed to lookup address information: Temporary failure in name resolution"
  | .invalidText => "stream did not contain valid UTF-8"
  | .nulInName => "file name contained an unexpected NUL byte"

end Carrier
