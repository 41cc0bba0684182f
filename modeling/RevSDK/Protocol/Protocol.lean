import Mathlib.Data.List.Basic

/-!
# Protocols and test results

The two transport protocols of the SDK and the result of one availability
test.  Everywhere else in the SDK a protocol is known by its name.
-/

namespace RevSDK

def standardProtocolName : String := "standard"

def quicProtocolName : String := "quic"

inductive Protocol where
  | StandardProtocol
  | QUICProtocol
  deriving DecidableEq

namespace Protocol

def protocolName : Protocol → String
  | .StandardProtocol => standardProtocolName
  | .QUICProtocol => "quic"

end Protocol

structure AvailabilityTestResult where
  ProtocolID : String
  Available : Bool
  deriving DecidableEq

end RevSDK
