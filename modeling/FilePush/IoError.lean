/-!
# Errors reported by the system

An input or output operation fails either with a number that the operating system reports, whose
wording is fixed, or with a text of its own.  The number is a signed word.  Only those from 0 on
have a wording, and not all of them.
-/

namespace FilePush

/-- Why an input or output operation failed. -/
inductive IoError
  /-- The operating system reported this number. -/
  | system (number : Int32)
  /-- The failure has a text of its own. -/
  | other (text : String)
  deriving DecidableEq, Repr

namespace IoError

/-- The operating system's wording of its error numbers, from 0 on. -/
def systemTexts : List String :=
  ["Success", "Operation not permitted", "No such file or directory", "No such process",
    "Interrupted system call", "Input/output error", "No such device or address",
    "Argument list too long", "Exec format error", "Bad file descriptor", "No child processes",
    "Resource temporarily unavailable", "Cannot allocate memory", "Permission denied",
    "Bad address", "Block device required", "Device or resource busy", "File exists",
    "Invalid cross-device link", "No such device", "Not a directory", "Is a directory",
    "Invalid argument", "Too many open files in system", "Too many open files",
    "Inappropriate ioctl for device", "Text file busy", "File too large",
    "No space left on device", "Illegal seek", "Read-only file system", "Too many links",
    "Broken pipe", "Numerical argument out of domain", "Numerical result out of range",
    "Resource deadlock avoided", "File name too long", "No locks available",
    "Function not implemented", "Directory not empty", "Too many levels of symbolic links",
    "Unknown error 41", "No message of desired type", "Identifier removed",
    "Channel number out of range", "Level 2 not synchronized", "Level 3 halted", "Level 3 reset",
    "Link number out of range", "Protocol driver not attached", "No CSI structure available",
    "Level 2 halted", "Invalid exchange", "Invalid request descriptor", "Exchange full",
    "No anode", "Invalid request code", "Invalid slot", "Unknown error 58",
    "Bad font file format", "Device not a stream", "No data available", "Timer expired",
    "Out of streams resources", "Machine is not on the network", "Package not installed",
    "Object is remote", "Link has been severed", "Advertise error", "Srmount error",
    "Communication error on send", "Protocol error", "Multihop attempted", "RFS specific error",
    "Bad message", "Value too large for defined data type", "Name not unique on network",
    "File descriptor in bad state", "Remote address changed",
    "Can not access a needed shared library", "Accessing a corrupted shared library",
    ".lib section in a.out corrupted", "Attempting to link in too many shared libraries",
    "Cannot exec a shared library directly", "Invalid or incomplete multibyte or wide character",
    "Interrupted system call should be restarted", "Streams pipe error", "Too many users",
    "Socket operation on non-socket", "Destination address required", "Message too long",
    "Protocol wrong type for socket", "Protocol not available", "Protocol not supported",
    "Socket type not supported", "Operation not supported", "Protocol family not supported",
    "Address family not supported by protocol", "Address already in use",
    "Cannot assign requested address", "Network is down", "Network is unreachable",
    "Network dropped connection on reset", "Software caused connection abort",
    "Connection reset by peer", "No buffer space available",
    "Transport endpoint is already connected", "Transport endpoint is not connected",
    "Cannot send after transport endpoint shutdown", "Too many references: cannot splice",
    "Connection timed out", "Connection refused", "Host is down", "No route to host",
    "Operation already in progress", "Operation now in progress", "Stale file handle",
    "Structure needs cleaning", "Not a XENIX named type file", "No XENIX semaphores available",
    "Is a named type file", "Remote I/O error", "Disk quota exceeded", "No medium found",
    "Wrong medium type", "Operation canceled", "Required key not available", "Key has expired",
    "Key has been revoked", "Key was rejected by service", "Owner died", "State not recoverable",
    "Operation not possible due to RF-kill", "Memory page has hardware error"]

/-- The operating system's wording of an error number. -/
def systemText (number : Int32) : String :=
  (number.toInt.toNat?.bind fun index => systemTexts[index]?).getD s!"Unknown error {number}"

/-- The text of an error. -/
def message : IoError → String
  | system number => s!"{systemText number} (os error {number})"
  | other text => text

/-- There is no such entry. -/
def notFound : IoError := system 2

/-- The entry exists already. -/
def alreadyExists : IoError := system 17

/-- A component of the path is not a directory. -/
def notADirectory : IoError := system 20

/-- The entry is a directory. -/
def isADirectory : IoError := system 21

/-- The device has no space left. -/
def noSpace : IoError := system 28

/-- A name or a path is too long. -/
def nameTooLong : IoError := system 36

/-- The address is in use already. -/
def addressInUse : IoError := system 98

/-- Nobody listens at the address. -/
def connectionRefused : IoError := system 111

/-- The path holds a NUL byte and names nothing. -/
def nulInPath : IoError := other "file name contained an unexpected NUL byte"

/-- The receiving end took none of the bytes. -/
def writeZero : IoError := other "write zero"

end IoError

end FilePush
