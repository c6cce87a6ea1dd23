import ReverseTunnel.Protocol

/-!
# Errors of the operating system

The causes for which a socket or file operation fails, and their wording.
-/

namespace ReverseTunnel

/-- Why the operating system refuses an operation. -/
inductive SystemError where
  | noSuchFile
  | notADirectory
  | isADirectory
  | addressInUse
  | addressNotAvailable
  | networkUnreachable
  | connectionRefused
  | timedOut
  | invalidSocketAddress
  | invalidPort
  | unknownHost
  | unresolvedHost
  | noAddressOfFamily (protocol : Protocol) (address : String)
  | pathTooLong
  | notUtf8
  deriving DecidableEq

/-- The wording of a system error. -/
def SystemError.message : SystemError → String
  | .noSuchFile => "No such file or directory (os error 2)"
  | .notADirectory => "Not a directory (os error 20)"
  | .isADirectory => "Is a directory (os error 21)"
  | .addressInUse => "Address already in use (os error 98)"
  | .addressNotAvailable => "Cannot assign requested address (os error 99)"
  | .networkUnreachable => "Network is unreachable (os error 101)"
  | .connectionRefused => "Connection refused (os error 111)"
  | .timedOut => "timed out"
  | .invalidSocketAddress => "invalid socket address"
  | .invalidPort => "invalid port value"
  | .unknownHost => "failed to lookup address information: Name or service not known"
  | .unresolvedHost =>
    "failed to lookup address information: Temporary failure in name resolution"
  | .noAddressOfFamily protocol address => "no " ++ protocol.name ++ " address for " ++ address
  | .pathTooLong => "path must be shorter than SUN_LEN"
  | .notUtf8 => "stream did not contain valid UTF-8"

end ReverseTunnel
