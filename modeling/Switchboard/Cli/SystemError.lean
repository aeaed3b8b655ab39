import Switchboard.Tcp.Handshake

/-!
The error numbers of the system, as far as files and sockets bring them up.
-/
namespace Switchboard.Cli

def errorTable : List (Nat × IoFault × String) :=
  [(1, .permissionDenied, "Operation not permitted"),
    (2, .notFound, "No such file or directory"),
    (4, .interrupted, "Interrupted system call"),
    (5, .other, "Input/output error"),
    (11, .wouldBlock, "Resource temporarily unavailable"),
    (12, .outOfMemory, "Cannot allocate memory"),
    (13, .permissionDenied, "Permission denied"),
    (17, .alreadyExists, "File exists"),
    (20, .other, "Not a directory"),
    (21, .other, "Is a directory"),
    (22, .invalidInput, "Invalid argument"),
    (28, .other, "No space left on device"),
    (30, .other, "Read-only file system"),
    (32, .brokenPipe, "Broken pipe"),
    (36, .other, "File name too long"),
    (98, .addressInUse, "Address already in use"),
    (99, .addressNotAvailable, "Cannot assign requested address"),
    (101, .networkUnreachable, "Network is unreachable"),
    (103, .connectionAborted, "Software caused connection abort"),
    (104, .connectionReset, "Connection reset by peer"),
    (107, .notConnected, "Transport endpoint is not connected"),
    (110, .timedOut, "Connection timed out"),
    (111, .connectionRefused, "Connection refused"),
    (113, .hostUnreachable, "No route to host")]

/-- An error number as a fault; one that is not in the table keeps the details that came with it. -/
def faultOfNumber (n : Nat) (details : String) : Tcp.Fault :=
  let number := " (os error " ++ toString n ++ ")"
  match errorTable.lookup n with
  | some (kind, text) => ⟨kind, text ++ number⟩
  | none => ⟨.other, details ++ number⟩

end Switchboard.Cli
