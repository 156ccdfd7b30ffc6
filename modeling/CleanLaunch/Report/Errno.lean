import CleanLaunch.Bytes

/-! Error numbers of the kernel.

    An `Errno` is one of the numbers the launcher can name. A number it cannot name counts as
    `Errno.unknown`, whose own number is 0. Each has a symbolic name and a description, shown as
    `NAME: description` in every message, and beside them what the C library and the input/output
    layer of a caller make of it. -/

namespace CleanLaunch

/-- What kind of input/output error a caller should take an error for. -/
inductive ErrorCategory
  | uncategorized | addressInUse | addressNotAvailable | alreadyExists | argumentListTooLong
  | brokenPipe | connectionAborted | connectionRefused | connectionReset | crossesDevices
  | deadlock | directoryNotEmpty | executableFileBusy | fileTooLarge | filesystemLoop
  | hostUnreachable | inProgress | inputOutput | interrupted | invalidFilename | invalidInput
  | isADirectory | networkDown | networkUnreachable | notADirectory | notConnected | notFound
  | notSeekable | outOfMemory | permissionDenied | quotaExceeded | readOnlyFilesystem
  | resourceBusy | staleNetworkFileHandle | storageFull | timedOut | tooManyLinks
  | tooManyOpenFiles | unsupported | wouldBlock
  deriving DecidableEq

/-- An error number of the kernel. -/
inductive Errno
  | unknown | EPERM | ENOENT | ESRCH | EINTR | EIO | ENXIO | E2BIG | ENOEXEC | EBADF | ECHILD
  | EAGAIN | ENOMEM | EACCES | EFAULT | ENOTBLK | EBUSY | EEXIST | EXDEV | ENODEV | ENOTDIR
  | EISDIR | EINVAL | ENFILE | EMFILE | ENOTTY | ETXTBSY | EFBIG | ENOSPC | ESPIPE | EROFS
  | EMLINK | EPIPE | EDOM | ERANGE | EDEADLK | ENAMETOOLONG | ENOLCK | ENOSYS | ENOTEMPTY | ELOOP
  | ENOMSG | EIDRM | ECHRNG | EL2NSYNC | EL3HLT | EL3RST | ELNRNG | EUNATCH | ENOCSI | EL2HLT
  | EBADE | EBADR | EXFULL | ENOANO | EBADRQC | EBADSLT | EBFONT | ENOSTR | ENODATA | ETIME
  | ENOSR | ENONET | ENOPKG | EREMOTE | ENOLINK | EADV | ESRMNT | ECOMM | EPROTO | EMULTIHOP
  | EDOTDOT | EBADMSG | EOVERFLOW | ENOTUNIQ | EBADFD | EREMCHG | ELIBACC | ELIBBAD | ELIBSCN
  | ELIBMAX | ELIBEXEC | EILSEQ | ERESTART | ESTRPIPE | EUSERS | ENOTSOCK | EDESTADDRREQ
  | EMSGSIZE | EPROTOTYPE | ENOPROTOOPT | EPROTONOSUPPORT | ESOCKTNOSUPPORT | EOPNOTSUPP
  | EPFNOSUPPORT | EAFNOSUPPORT | EADDRINUSE | EADDRNOTAVAIL | ENETDOWN | ENETUNREACH | ENETRESET
  | ECONNABORTED | ECONNRESET | ENOBUFS | EISCONN | ENOTCONN | ESHUTDOWN | ETOOMANYREFS
  | ETIMEDOUT | ECONNREFUSED | EHOSTDOWN | EHOSTUNREACH | EALREADY | EINPROGRESS | ESTALE
  | EUCLEAN | ENOTNAM | ENAVAIL | EISNAM | EREMOTEIO | EDQUOT | ENOMEDIUM | EMEDIUMTYPE
  | ECANCELED | ENOKEY | EKEYEXPIRED | EKEYREVOKED | EKEYREJECTED | EOWNERDEAD | ENOTRECOVERABLE
  | ERFKILL | EHWPOISON
  deriving DecidableEq

namespace Errno

/-- What is known of one error number. -/
structure Facts where
  number : Nat
  name : String
  /-- The wording of the launcher's own messages. -/
  description : String
  category : ErrorCategory
  /-- The wording of the C library. -/
  wording : String

/-- The table of error numbers. -/
def facts : Errno → Facts
  | .unknown => ⟨0, "UnknownErrno", "Unknown errno", .uncategorized, "Success"⟩
  | .EPERM => ⟨1, "EPERM", "Operation not permitted", .permissionDenied, "Operation not permitted"⟩
  | .ENOENT => ⟨2, "ENOENT", "No such file or directory", .notFound, "No such file or directory"⟩
  | .ESRCH => ⟨3, "ESRCH", "No such process", .uncategorized, "No such process"⟩
  | .EINTR => ⟨4, "EINTR", "Interrupted system call", .interrupted, "Interrupted system call"⟩
  | .EIO => ⟨5, "EIO", "I/O error", .inputOutput, "Input/output error"⟩
  | .ENXIO => ⟨6, "ENXIO", "No such device or address", .uncategorized, "No such device or address"⟩
  | .E2BIG => ⟨7, "E2BIG", "Argument list too long", .argumentListTooLong, "Argument list too long"⟩
  | .ENOEXEC => ⟨8, "ENOEXEC", "Exec format error", .uncategorized, "Exec format error"⟩
  | .EBADF => ⟨9, "EBADF", "Bad file number", .uncategorized, "Bad file descriptor"⟩
  | .ECHILD => ⟨10, "ECHILD", "No child processes", .uncategorized, "No child processes"⟩
  | .EAGAIN => ⟨11, "EAGAIN", "Try again", .wouldBlock, "Resource temporarily unavailable"⟩
  | .ENOMEM => ⟨12, "ENOMEM", "Out of memory", .outOfMemory, "Cannot allocate memory"⟩
  | .EACCES => ⟨13, "EACCES", "Permission denied", .permissionDenied, "Permission denied"⟩
  | .EFAULT => ⟨14, "EFAULT", "Bad address", .uncategorized, "Bad address"⟩
  | .ENOTBLK => ⟨15, "ENOTBLK", "Block device required", .uncategorized, "Block device required"⟩
  | .EBUSY => ⟨16, "EBUSY", "Device or resource busy", .resourceBusy, "Device or resource busy"⟩
  | .EEXIST => ⟨17, "EEXIST", "File exists", .alreadyExists, "File exists"⟩
  | .EXDEV => ⟨18, "EXDEV", "Cross-device link", .crossesDevices, "Invalid cross-device link"⟩
  | .ENODEV => ⟨19, "ENODEV", "No such device", .uncategorized, "No such device"⟩
  | .ENOTDIR => ⟨20, "ENOTDIR", "Not a directory", .notADirectory, "Not a directory"⟩
  | .EISDIR => ⟨21, "EISDIR", "Is a directory", .isADirectory, "Is a directory"⟩
  | .EINVAL => ⟨22, "EINVAL", "Invalid argument", .invalidInput, "Invalid argument"⟩
  | .ENFILE => ⟨23, "ENFILE", "File table overflow", .tooManyOpenFiles,
      "Too many open files in system"⟩
  | .EMFILE => ⟨24, "EMFILE", "Too many open files", .tooManyOpenFiles, "Too many open files"⟩
  | .ENOTTY => ⟨25, "ENOTTY", "Not a typewriter", .uncategorized, "Inappropriate ioctl for device"⟩
  | .ETXTBSY => ⟨26, "ETXTBSY", "Text file busy", .executableFileBusy, "Text file busy"⟩
  | .EFBIG => ⟨27, "EFBIG", "File too large", .fileTooLarge, "File too large"⟩
  | .ENOSPC => ⟨28, "ENOSPC", "No space left on device", .storageFull, "No space left on device"⟩
  | .ESPIPE => ⟨29, "ESPIPE", "Illegal seek", .notSeekable, "Illegal seek"⟩
  | .EROFS => ⟨30, "EROFS", "Read-only file system", .readOnlyFilesystem, "Read-only file system"⟩
  | .EMLINK => ⟨31, "EMLINK", "Too many links", .tooManyLinks, "Too many links"⟩
  | .EPIPE => ⟨32, "EPIPE", "Broken pipe", .brokenPipe, "Broken pipe"⟩
  | .EDOM => ⟨33, "EDOM", "Math argument out of domain of func", .uncategorized,
      "Numerical argument out of domain"⟩
  | .ERANGE => ⟨34, "ERANGE", "Math result not representable", .uncategorized,
      "Numerical result out of range"⟩
  | .EDEADLK => ⟨35, "EDEADLK", "Resource deadlock would occur", .deadlock,
      "Resource deadlock avoided"⟩
  | .ENAMETOOLONG => ⟨36, "ENAMETOOLONG", "File name too long", .invalidFilename,
      "File name too long"⟩
  | .ENOLCK => ⟨37, "ENOLCK", "No record locks available", .uncategorized, "No locks available"⟩
  | .ENOSYS => ⟨38, "ENOSYS", "Function not implemented", .unsupported, "Function not implemented"⟩
  | .ENOTEMPTY => ⟨39, "ENOTEMPTY", "Directory not empty", .directoryNotEmpty,
      "Directory not empty"⟩
  | .ELOOP => ⟨40, "ELOOP", "Too many symbolic links encountered", .filesystemLoop,
      "Too many levels of symbolic links"⟩
  | .ENOMSG => ⟨42, "ENOMSG", "No message of desired type", .uncategorized,
      "No message of desired type"⟩
  | .EIDRM => ⟨43, "EIDRM", "Identifier removed", .uncategorized, "Identifier removed"⟩
  | .ECHRNG => ⟨44, "ECHRNG", "Channel number out of range", .uncategorized,
      "Channel number out of range"⟩
  | .EL2NSYNC => ⟨45, "EL2NSYNC", "Level 2 not synchronized", .uncategorized,
      "Level 2 not synchronized"⟩
  | .EL3HLT => ⟨46, "EL3HLT", "Level 3 halted", .uncategorized, "Level 3 halted"⟩
  | .EL3RST => ⟨47, "EL3RST", "Level 3 reset", .uncategorized, "Level 3 reset"⟩
  | .ELNRNG => ⟨48, "ELNRNG", "Link number out of range", .uncategorized,
      "Link number out of range"⟩
  | .EUNATCH => ⟨49, "EUNATCH", "Protocol driver not attached", .uncategorized,
      "Protocol driver not attached"⟩
  | .ENOCSI => ⟨50, "ENOCSI", "No CSI structure available", .uncategorized,
      "No CSI structure available"⟩
  | .EL2HLT => ⟨51, "EL2HLT", "Level 2 halted", .uncategorized, "Level 2 halted"⟩
  | .EBADE => ⟨52, "EBADE", "Invalid exchange", .uncategorized, "Invalid exchange"⟩
  | .EBADR => ⟨53, "EBADR", "Invalid request descriptor", .uncategorized,
      "Invalid request descriptor"⟩
  | .EXFULL => ⟨54, "EXFULL", "Exchange full", .uncategorized, "Exchange full"⟩
  | .ENOANO => ⟨55, "ENOANO", "No anode", .uncategorized, "No anode"⟩
  | .EBADRQC => ⟨56, "EBADRQC", "Invalid request code", .uncategorized, "Invalid request code"⟩
  | .EBADSLT => ⟨57, "EBADSLT", "Invalid slot", .uncategorized, "Invalid slot"⟩
  | .EBFONT => ⟨59, "EBFONT", "Bad font file format", .uncategorized, "Bad font file format"⟩
  | .ENOSTR => ⟨60, "ENOSTR", "Device not a stream", .uncategorized, "Device not a stream"⟩
  | .ENODATA => ⟨61, "ENODATA", "No data available", .uncategorized, "No data available"⟩
  | .ETIME => ⟨62, "ETIME", "Timer expired", .uncategorized, "Timer expired"⟩
  | .ENOSR => ⟨63, "ENOSR", "Out of streams resources", .uncategorized, "Out of streams resources"⟩
  | .ENONET => ⟨64, "ENONET", "Machine is not on the network", .uncategorized,
      "Machine is not on the network"⟩
  | .ENOPKG => ⟨65, "ENOPKG", "Package not installed", .uncategorized, "Package not installed"⟩
  | .EREMOTE => ⟨66, "EREMOTE", "Object is remote", .uncategorized, "Object is remote"⟩
  | .ENOLINK => ⟨67, "ENOLINK", "Link has been severed", .uncategorized, "Link has been severed"⟩
  | .EADV => ⟨68, "EADV", "Advertise error", .uncategorized, "Advertise error"⟩
  | .ESRMNT => ⟨69, "ESRMNT", "Srmount error", .uncategorized, "Srmount error"⟩
  | .ECOMM => ⟨70, "ECOMM", "Communication error on send", .uncategorized,
      "Communication error on send"⟩
  | .EPROTO => ⟨71, "EPROTO", "Protocol error", .uncategorized, "Protocol error"⟩
  | .EMULTIHOP => ⟨72, "EMULTIHOP", "Multihop attempted", .uncategorized, "Multihop attempted"⟩
  | .EDOTDOT => ⟨73, "EDOTDOT", "RFS specific error", .uncategorized, "RFS specific error"⟩
  | .EBADMSG => ⟨74, "EBADMSG", "Not a data message", .uncategorized, "Bad message"⟩
  | .EOVERFLOW => ⟨75, "EOVERFLOW", "Value too large for defined data type", .uncategorized,
      "Value too large for defined data type"⟩
  | .ENOTUNIQ => ⟨76, "ENOTUNIQ", "Name not unique on network", .uncategorized,
      "Name not unique on network"⟩
  | .EBADFD => ⟨77, "EBADFD", "File descriptor in bad state", .uncategorized,
      "File descriptor in bad state"⟩
  | .EREMCHG => ⟨78, "EREMCHG", "Remote address changed", .uncategorized, "Remote address changed"⟩
  | .ELIBACC => ⟨79, "ELIBACC", "Can not access a needed shared library", .uncategorized,
      "Can not access a needed shared library"⟩
  | .ELIBBAD => ⟨80, "ELIBBAD", "Accessing a corrupted shared library", .uncategorized,
      "Accessing a corrupted shared library"⟩
  | .ELIBSCN => ⟨81, "ELIBSCN", ".lib section in a.out corrupted", .uncategorized,
      ".lib section in a.out corrupted"⟩
  | .ELIBMAX => ⟨82, "ELIBMAX", "Attempting to link in too many shared libraries", .uncategorized,
      "Attempting to link in too many shared libraries"⟩
  | .ELIBEXEC => ⟨83, "ELIBEXEC", "Cannot exec a shared library directly", .uncategorized,
      "Cannot exec a shared library directly"⟩
  | .EILSEQ => ⟨84, "EILSEQ", "Illegal byte sequence", .uncategorized,
      "Invalid or incomplete multibyte or wide character"⟩
  | .ERESTART => ⟨85, "ERESTART", "Interrupted system call should be restarted", .uncategorized,
      "Interrupted system call should be restarted"⟩
  | .ESTRPIPE => ⟨86, "ESTRPIPE", "Streams pipe error", .uncategorized, "Streams pipe error"⟩
  | .EUSERS => ⟨87, "EUSERS", "Too many users", .uncategorized, "Too many users"⟩
  | .ENOTSOCK => ⟨88, "ENOTSOCK", "Socket operation on non-socket", .uncategorized,
      "Socket operation on non-socket"⟩
  | .EDESTADDRREQ => ⟨89, "EDESTADDRREQ", "Destination address required", .uncategorized,
      "Destination address required"⟩
  | .EMSGSIZE => ⟨90, "EMSGSIZE", "Message too long", .uncategorized, "Message too long"⟩
  | .EPROTOTYPE => ⟨91, "EPROTOTYPE", "Protocol wrong type for socket", .uncategorized,
      "Protocol wrong type for socket"⟩
  | .ENOPROTOOPT => ⟨92, "ENOPROTOOPT", "Protocol not available", .uncategorized,
      "Protocol not available"⟩
  | .EPROTONOSUPPORT => ⟨93, "EPROTONOSUPPORT", "Protocol not supported", .uncategorized,
      "Protocol not supported"⟩
  | .ESOCKTNOSUPPORT => ⟨94, "ESOCKTNOSUPPORT", "Socket type not supported", .uncategorized,
      "Socket type not supported"⟩
  | .EOPNOTSUPP => ⟨95, "EOPNOTSUPP", "Operation not supported on transport endpoint", .unsupported,
      "Operation not supported"⟩
  | .EPFNOSUPPORT => ⟨96, "EPFNOSUPPORT", "Protocol family not supported", .uncategorized,
      "Protocol family not supported"⟩
  | .EAFNOSUPPORT => ⟨97, "EAFNOSUPPORT", "Address family not supported by protocol", .uncategorized,
      "Address family not supported by protocol"⟩
  | .EADDRINUSE => ⟨98, "EADDRINUSE", "Address already in use", .addressInUse,
      "Address already in use"⟩
  | .EADDRNOTAVAIL => ⟨99, "EADDRNOTAVAIL", "Cannot assign requested address", .addressNotAvailable,
      "Cannot assign requested address"⟩
  | .ENETDOWN => ⟨100, "ENETDOWN", "Network is down", .networkDown, "Network is down"⟩
  | .ENETUNREACH => ⟨101, "ENETUNREACH", "Network is unreachable", .networkUnreachable,
      "Network is unreachable"⟩
  | .ENETRESET => ⟨102, "ENETRESET", "Network dropped connection because of reset", .uncategorized,
      "Network dropped connection on reset"⟩
  | .ECONNABORTED => ⟨103, "ECONNABORTED", "Software caused connection abort", .connectionAborted,
      "Software caused connection abort"⟩
  | .ECONNRESET => ⟨104, "ECONNRESET", "Connection reset by peer", .connectionReset,
      "Connection reset by peer"⟩
  | .ENOBUFS => ⟨105, "ENOBUFS", "No buffer space available", .uncategorized,
      "No buffer space available"⟩
  | .EISCONN => ⟨106, "EISCONN", "Transport endpoint is already connected", .uncategorized,
      "Transport endpoint is already connected"⟩
  | .ENOTCONN => ⟨107, "ENOTCONN", "Transport endpoint is not connected", .notConnected,
      "Transport endpoint is not connected"⟩
  | .ESHUTDOWN => ⟨108, "ESHUTDOWN", "Cannot send after transport endpoint shutdown", .uncategorized,
      "Cannot send after transport endpoint shutdown"⟩
  | .ETOOMANYREFS => ⟨109, "ETOOMANYREFS", "Too many references: cannot splice", .uncategorized,
      "Too many references: cannot splice"⟩
  | .ETIMEDOUT => ⟨110, "ETIMEDOUT", "Connection timed out", .timedOut, "Connection timed out"⟩
  | .ECONNREFUSED => ⟨111, "ECONNREFUSED", "Connection refused", .connectionRefused,
      "Connection refused"⟩
  | .EHOSTDOWN => ⟨112, "EHOSTDOWN", "Host is down", .uncategorized, "Host is down"⟩
  | .EHOSTUNREACH => ⟨113, "EHOSTUNREACH", "No route to host", .hostUnreachable, "No route to host"⟩
  | .EALREADY => ⟨114, "EALREADY", "Operation already in progress", .uncategorized,
      "Operation already in progress"⟩
  | .EINPROGRESS => ⟨115, "EINPROGRESS", "Operation now in progress", .inProgress,
      "Operation now in progress"⟩
  | .ESTALE => ⟨116, "ESTALE", "Stale file handle", .staleNetworkFileHandle, "Stale file handle"⟩
  | .EUCLEAN => ⟨117, "EUCLEAN", "Structure needs cleaning", .uncategorized,
      "Structure needs cleaning"⟩
  | .ENOTNAM => ⟨118, "ENOTNAM", "Not a XENIX named type file", .uncategorized,
      "Not a XENIX named type file"⟩
  | .ENAVAIL => ⟨119, "ENAVAIL", "No XENIX semaphores available", .uncategorized,
      "No XENIX semaphores available"⟩
  | .EISNAM => ⟨120, "EISNAM", "Is a named type file", .uncategorized, "Is a named type file"⟩
  | .EREMOTEIO => ⟨121, "EREMOTEIO", "Remote I/O error", .uncategorized, "Remote I/O error"⟩
  | .EDQUOT => ⟨122, "EDQUOT", "Quota exceeded", .quotaExceeded, "Disk quota exceeded"⟩
  | .ENOMEDIUM => ⟨123, "ENOMEDIUM", "No medium found", .uncategorized, "No medium found"⟩
  | .EMEDIUMTYPE => ⟨124, "EMEDIUMTYPE", "Wrong medium type", .uncategorized, "Wrong medium type"⟩
  | .ECANCELED => ⟨125, "ECANCELED", "Operation canceled", .uncategorized, "Operation canceled"⟩
  | .ENOKEY => ⟨126, "ENOKEY", "Required key not available", .uncategorized,
      "Required key not available"⟩
  | .EKEYEXPIRED => ⟨127, "EKEYEXPIRED", "Key has expired", .uncategorized, "Key has expired"⟩
  | .EKEYREVOKED => ⟨128, "EKEYREVOKED", "Key has been revoked", .uncategorized,
      "Key has been revoked"⟩
  | .EKEYREJECTED => ⟨129, "EKEYREJECTED", "Key was rejected by service", .uncategorized,
      "Key was rejected by service"⟩
  | .EOWNERDEAD => ⟨130, "EOWNERDEAD", "Owner died", .uncategorized, "Owner died"⟩
  | .ENOTRECOVERABLE => ⟨131, "ENOTRECOVERABLE", "State not recoverable", .uncategorized,
      "State not recoverable"⟩
  | .ERFKILL => ⟨132, "ERFKILL", "Operation not possible due to RF-kill", .uncategorized,
      "Operation not possible due to RF-kill"⟩
  | .EHWPOISON => ⟨133, "EHWPOISON", "Memory page has hardware error", .uncategorized,
      "Memory page has hardware error"⟩

/-- Every error number that has a name. -/
def named : List Errno :=
  [.EPERM, .ENOENT, .ESRCH, .EINTR, .EIO, .ENXIO, .E2BIG, .ENOEXEC, .EBADF, .ECHILD, .EAGAIN,
   .ENOMEM, .EACCES, .EFAULT, .ENOTBLK, .EBUSY, .EEXIST, .EXDEV, .ENODEV, .ENOTDIR, .EISDIR,
   .EINVAL, .ENFILE, .EMFILE, .ENOTTY, .ETXTBSY, .EFBIG, .ENOSPC, .ESPIPE, .EROFS, .EMLINK,
   .EPIPE, .EDOM, .ERANGE, .EDEADLK, .ENAMETOOLONG, .ENOLCK, .ENOSYS, .ENOTEMPTY, .ELOOP,
   .ENOMSG, .EIDRM, .ECHRNG, .EL2NSYNC, .EL3HLT, .EL3RST, .ELNRNG, .EUNATCH, .ENOCSI, .EL2HLT,
   .EBADE, .EBADR, .EXFULL, .ENOANO, .EBADRQC, .EBADSLT, .EBFONT, .ENOSTR, .ENODATA, .ETIME,
   .ENOSR, .ENONET, .ENOPKG, .EREMOTE, .ENOLINK, .EADV, .ESRMNT, .ECOMM, .EPROTO, .EMULTIHOP,
   .EDOTDOT, .EBADMSG, .EOVERFLOW, .ENOTUNIQ, .EBADFD, .EREMCHG, .ELIBACC, .ELIBBAD, .ELIBSCN,
   .ELIBMAX, .ELIBEXEC, .EILSEQ, .ERESTART, .ESTRPIPE, .EUSERS, .ENOTSOCK, .EDESTADDRREQ,
   .EMSGSIZE, .EPROTOTYPE, .ENOPROTOOPT, .EPROTONOSUPPORT, .ESOCKTNOSUPPORT, .EOPNOTSUPP,
   .EPFNOSUPPORT, .EAFNOSUPPORT, .EADDRINUSE, .EADDRNOTAVAIL, .ENETDOWN, .ENETUNREACH,
   .ENETRESET, .ECONNABORTED, .ECONNRESET, .ENOBUFS, .EISCONN, .ENOTCONN, .ESHUTDOWN,
   .ETOOMANYREFS, .ETIMEDOUT, .ECONNREFUSED, .EHOSTDOWN, .EHOSTUNREACH, .EALREADY, .EINPROGRESS,
   .ESTALE, .EUCLEAN, .ENOTNAM, .ENAVAIL, .EISNAM, .EREMOTEIO, .EDQUOT, .ENOMEDIUM, .EMEDIUMTYPE,
   .ECANCELED, .ENOKEY, .EKEYEXPIRED, .EKEYREVOKED, .EKEYREJECTED, .EOWNERDEAD, .ENOTRECOVERABLE,
   .ERFKILL, .EHWPOISON]

def number (errno : Errno) : Nat := errno.facts.number

/-- A number without a name is `unknown`. -/
def ofNumber (n : Int) : Errno :=
  (named.find? fun errno => (errno.number : Int) == n).getD .unknown

def category (errno : Errno) : ErrorCategory := errno.facts.category

/-- `NAME: description`, as messages show it. -/
def text (errno : Errno) : Bytes :=
  utf8 errno.facts.name ++ utf8 ": " ++ utf8 errno.facts.description

/-- The C library's wording. -/
def wording (errno : Errno) : Bytes := utf8 errno.facts.wording

/-- The C library's wording with the number, as the input/output layer shows it. -/
def systemText (errno : Errno) : Bytes :=
  errno.wording ++ utf8 " (os error " ++ Bytes.decimal errno.number ++ utf8 ")"

end Errno

end CleanLaunch
