/-! The errors of error.rs. What std::io and prost put into theirs is kept as the
text they print. -/

namespace PeatSapient

structure DecodeError where
  description : String
  deriving DecidableEq

inductive SapientError where
  | io (detail : String)
  | decode (error : DecodeError)
  | encode (detail : String)
  | connectionFailed (detail : String)
  | nodeNotFound (nodeId : String)
  | mappingError (kind detail : String)
  | unsupportedCoordinateSystem (detail : String)
  | taskRejected (nodeId reason : String)
  | frameTooLarge (size max : Nat)
  deriving DecidableEq

end PeatSapient
