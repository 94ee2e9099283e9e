set_option autoImplicit false

namespace AnsibleTooling.Io

inductive Kind
  | notFound
  | permissionDenied
  | connectionRefused
  | connectionReset
  | hostUnreachable
  | networkUnreachable
  | connectionAborted
  | notConnected
  | addrInUse
  | addrNotAvailable
  | networkDown
  | brokenPipe
  | alreadyExists
  | wouldBlock
  | notADirectory
  | isADirectory
  | directoryNotEmpty
  | readOnlyFilesystem
  | filesystemLoop
  | staleNetworkFileHandle
  | invalidInput
  | invalidData
  | timedOut
  | writeZero
  | storageFull
  | notSeekable
  | quotaExceeded
  | fileTooLarge
  | resourceBusy
  | executableFileBusy
  | deadlock
  | crossesDevices
  | tooManyLinks
  | invalidFilename
  | argumentListTooLong
  | interrupted
  | unsupported
  | unexpectedEof
  | outOfMemory
  | inProgress
  | other
  | uncategorized
  deriving DecidableEq, Repr

namespace Kind

def table : List (Kind × String) := [
  (.notFound, "NotFound"), (.permissionDenied, "PermissionDenied"),
  (.connectionRefused, "ConnectionRefused"), (.connectionReset, "ConnectionReset"),
  (.hostUnreachable, "HostUnreachable"), (.networkUnreachable, "NetworkUnreachable"),
  (.connectionAborted, "ConnectionAborted"), (.notConnected, "NotConnected"),
  (.addrInUse, "AddrInUse"), (.addrNotAvailable, "AddrNotAvailable"),
  (.networkDown, "NetworkDown"), (.brokenPipe, "BrokenPipe"),
  (.alreadyExists, "AlreadyExists"), (.wouldBlock, "WouldBlock"),
  (.notADirectory, "NotADirectory"), (.isADirectory, "IsADirectory"),
  (.directoryNotEmpty, "DirectoryNotEmpty"), (.readOnlyFilesystem, "ReadOnlyFilesystem"),
  (.filesystemLoop, "FilesystemLoop"), (.staleNetworkFileHandle, "StaleNetworkFileHandle"),
  (.invalidInput, "InvalidInput"), (.invalidData, "InvalidData"), (.timedOut, "TimedOut"),
  (.writeZero, "WriteZero"), (.storageFull, "StorageFull"), (.notSeekable, "NotSeekable"),
  (.quotaExceeded, "QuotaExceeded"), (.fileTooLarge, "FileTooLarge"),
  (.resourceBusy, "ResourceBusy"), (.executableFileBusy, "ExecutableFileBusy"),
  (.deadlock, "Deadlock"), (.crossesDevices, "CrossesDevices"),
  (.tooManyLinks, "TooManyLinks"), (.invalidFilename, "InvalidFilename"),
  (.argumentListTooLong, "ArgumentListTooLong"), (.interrupted, "Interrupted"),
  (.unsupported, "Unsupported"), (.unexpectedEof, "UnexpectedEof"),
  (.outOfMemory, "OutOfMemory"), (.inProgress, "InProgress"), (.other, "Other"),
  (.uncategorized, "Uncategorized")]

def name (kind : Kind) : String :=
  ((table.find? fun row => row.1 == kind).map Prod.snd).getD ""

def ofName? (name : String) : Option Kind :=
  (table.find? fun row => row.2 == name).map Prod.fst

end Kind

inductive Failure
  | notFound
  | tooManyArguments
  | badExecutable
  | accessDenied
  | alreadyThere
  | notDirectory
  | isDirectory
  | brokenPipe
  | nameTooLong
  | linkLoop
  | nulInPath
  | nulInArgument
  | notText
  | other (kind : Kind) (text : String)
  deriving DecidableEq, Repr

namespace Failure

def message : Failure -> String
  | .notFound => "No such file or directory (os error 2)"
  | .tooManyArguments => "Argument list too long (os error 7)"
  | .badExecutable => "Exec format error (os error 8)"
  | .accessDenied => "Permission denied (os error 13)"
  | .alreadyThere => "File exists (os error 17)"
  | .notDirectory => "Not a directory (os error 20)"
  | .isDirectory => "Is a directory (os error 21)"
  | .brokenPipe => "Broken pipe (os error 32)"
  | .nameTooLong => "File name too long (os error 36)"
  | .linkLoop => "Too many levels of symbolic links (os error 40)"
  | .nulInPath => "file name contained an unexpected NUL byte"
  | .nulInArgument => "nul byte found in provided data"
  | .notText => "stream did not contain valid UTF-8"
  | .other _ text => text

def kind : Failure -> Kind
  | .notFound => .notFound
  | .tooManyArguments => .argumentListTooLong
  | .badExecutable => .uncategorized
  | .accessDenied => .permissionDenied
  | .alreadyThere => .alreadyExists
  | .notDirectory => .notADirectory
  | .isDirectory => .isADirectory
  | .brokenPipe => .brokenPipe
  | .nameTooLong => .invalidFilename
  | .linkLoop => .filesystemLoop
  | .nulInPath => .invalidInput
  | .nulInArgument => .invalidInput
  | .notText => .invalidData
  | .other kind _ => kind

end Failure

end AnsibleTooling.Io
