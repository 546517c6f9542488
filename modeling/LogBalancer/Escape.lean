/-
# Failures that nothing handles

Most failures are reported as part of a result.  The ones here are not: they end the operation,
and the message is all that is left of it.
-/

import LogBalancer.FileTree.Update
import LogBalancer.Port
import LogBalancer.TextStream
import LogBalancer.Yaml.Fault

namespace LogBalancer

/-- A failure that ends an operation. -/
inductive Escape
  /-- A team file is not UTF-8. -/
  | undecodable (e : Text.DecodeError)
  /-- A scalar of a team file does not fit its type, or a number or an escape in it is too large. -/
  | misfit (m : Yaml.Misfit)
  /-- The parts of a team file nest more deeply than the reader can go. -/
  | tooDeep
  /-- A file operation is refused. -/
  | system (f : Failure)
  /-- A path holds the character NUL. -/
  | nul
  /-- A port has too many digits. -/
  | tooLong
  /-- The output stream is closed. -/
  | closedStream
  deriving DecidableEq, Repr

/-- What is wrong with octets that are not UTF-8. -/
def Text.DecodeReason.message : Text.DecodeReason → String
  | .startByte => "invalid start byte"
  | .continuation => "invalid continuation byte"
  | .truncated => "unexpected end of data"

/-- The report of octets that are not UTF-8. -/
def Text.DecodeError.message (e : Text.DecodeError) : String :=
  let place :=
    if e.size = 1 then
      "byte 0x" ++ String.ofList (Text.hexDigits 2 e.byte.toNat) ++ " in position " ++
        Decimal.natural e.position
    else
      "bytes in position " ++ Decimal.natural e.position ++ "-" ++
        Decimal.natural (e.position + e.size - 1)
  "'utf-8' codec can't decode " ++ place ++ ": " ++ e.reason.message

/-- A failure in one line. -/
def Escape.message : Escape → String
  | .undecodable e => e.message
  | .misfit m => m.message
  | .tooDeep => Yaml.tooDeepMessage
  | .system f => f.message
  | .nul => "embedded null byte"
  | .tooLong => TooLong.message
  | .closedStream => TextStream.EmitError.closed.message

end LogBalancer
