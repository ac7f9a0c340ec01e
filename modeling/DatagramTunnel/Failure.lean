/-!
# I/O failures

What a transport, a socket or the end of a stream reports: a kind from a fixed list and a text.
-/

namespace DatagramTunnel

/-- The kind of an I/O failure. -/
inductive FailureKind where
  | notFound | permissionDenied | connectionRefused | connectionReset | hostUnreachable
  | networkUnreachable | connectionAborted | notConnected | addrInUse | addrNotAvailable
  | networkDown | brokenPipe | alreadyExists | wouldBlock | notADirectory | isADirectory
  | directoryNotEmpty | readOnlyFilesystem | staleNetworkFileHandle | invalidInput | invalidData
  | timedOut | writeZero | storageFull | notSeekable | quotaExceeded | fileTooLarge | resourceBusy
  | executableFileBusy | deadlock | crossesDevices | tooManyLinks | invalidFilename
  | argumentListTooLong | interrupted | unsupported | unexpectedEof | outOfMemory | other
  deriving DecidableEq, Repr

namespace FailureKind

/-- The name of a kind. -/
def name : FailureKind → String
  | .notFound => "NotFound"
  | .permissionDenied => "PermissionDenied"
  | .connectionRefused => "ConnectionRefused"
  | .connectionReset => "ConnectionReset"
  | .hostUnreachable => "HostUnreachable"
  | .networkUnreachable => "NetworkUnreachable"
  | .connectionAborted => "ConnectionAborted"
  | .notConnected => "NotConnected"
  | .addrInUse => "AddrInUse"
  | .addrNotAvailable => "AddrNotAvailable"
  | .networkDown => "NetworkDown"
  | .brokenPipe => "BrokenPipe"
  | .alreadyExists => "AlreadyExists"
  | .wouldBlock => "WouldBlock"
  | .notADirectory => "NotADirectory"
  | .isADirectory => "IsADirectory"
  | .directoryNotEmpty => "DirectoryNotEmpty"
  | .readOnlyFilesystem => "ReadOnlyFilesystem"
  | .staleNetworkFileHandle => "StaleNetworkFileHandle"
  | .invalidInput => "InvalidInput"
  | .invalidData => "InvalidData"
  | .timedOut => "TimedOut"
  | .writeZero => "WriteZero"
  | .storageFull => "StorageFull"
  | .notSeekable => "NotSeekable"
  | .quotaExceeded => "QuotaExceeded"
  | .fileTooLarge => "FileTooLarge"
  | .resourceBusy => "ResourceBusy"
  | .executableFileBusy => "ExecutableFileBusy"
  | .deadlock => "Deadlock"
  | .crossesDevices => "CrossesDevices"
  | .tooManyLinks => "TooManyLinks"
  | .invalidFilename => "InvalidFilename"
  | .argumentListTooLong => "ArgumentListTooLong"
  | .interrupted => "Interrupted"
  | .unsupported => "Unsupported"
  | .unexpectedEof => "UnexpectedEof"
  | .outOfMemory => "OutOfMemory"
  | .other => "Other"

/-- Every kind, each once. -/
def all : List FailureKind :=
  [.notFound, .permissionDenied, .connectionRefused, .connectionReset, .hostUnreachable,
    .networkUnreachable, .connectionAborted, .notConnected, .addrInUse, .addrNotAvailable,
    .networkDown, .brokenPipe, .alreadyExists, .wouldBlock, .notADirectory, .isADirectory,
    .directoryNotEmpty, .readOnlyFilesystem, .staleNetworkFileHandle, .invalidInput, .invalidData,
    .timedOut, .writeZero, .storageFull, .notSeekable, .quotaExceeded, .fileTooLarge,
    .resourceBusy, .executableFileBusy, .deadlock, .crossesDevices, .tooManyLinks,
    .invalidFilename, .argumentListTooLong, .interrupted, .unsupported, .unexpectedEof,
    .outOfMemory, .other]

/-- The kind of a name. -/
def ofName? (name : String) : Option FailureKind := all.find? fun kind => kind.name == name

end FailureKind

/-- An I/O failure. -/
structure Failure where
  kind : FailureKind
  text : String
  deriving DecidableEq, Repr

namespace Failure

/-- A fixed-size field of a stream ends early. -/
def endOfStream : Failure := ⟨.unexpectedEof, "unexpected end of file"⟩

/-- A field whose length was announced ends early. -/
def earlyEnd : Failure := ⟨.unexpectedEof, "early eof"⟩

/-- A stream ends inside a record. -/
def endInsideRecord : Failure := ⟨.unexpectedEof, "EOF reached in the middle of a packet"⟩

/-- A transport takes no byte of an address. -/
def nothingTaken : Failure := ⟨.writeZero, "write zero"⟩

/-- A transport takes no byte of a record. -/
def recordNotTaken : Failure := ⟨.writeZero, "failed to write packet"⟩

/-- There is no file of the name. -/
def noSuchFile : Failure := ⟨.notFound, "No such file or directory (os error 2)"⟩

/-- The name is that of a directory. -/
def nameOfDirectory : Failure := ⟨.isADirectory, "Is a directory (os error 21)"⟩

end Failure

end DatagramTunnel
