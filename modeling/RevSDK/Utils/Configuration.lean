import Mathlib.Data.Rat.Defs

/-!
# Configurations

The record that the SDK is configured by.  The default constructor leaves the
integers it does not assign indeterminate; they are zero here, and no default
configuration has them read.
-/

namespace RevSDK

inductive RSOperationModeInner where
  | kRSOperationModeInnerOff
  | kRSOperationModeInnerTransport
  | kRSOperationModeInnerReport
  | kRSOperationModeInnerTransportAndReport
  deriving DecidableEq

inductive RSStatsReportingLevel where
  | kRSStatsReportingLevelDebug
  | kRSStatsReportingLevelRelease
  deriving DecidableEq

structure Configuration where
  abTesMode : Bool := false
  abTestingRatio : Int := -1
  SDKDomain : String := "revsdk.net"
  quicUDPPort : Int := 443
  failuresMonitoringInterval : Int := 120
  failuresFailoverThreshold : ℚ := 6 / 10
  sdkReleaseVersion : ℚ := 0
  configurationApiURL : String := ""
  refreshInterval : Int := 0
  staleTimeout : Int := 0
  edgeHost : String := ""
  operationMode : RSOperationModeInner := .kRSOperationModeInnerOff
  allowedProtocols : List String := []
  initialTransportProtocol : String := ""
  transportMonitoringURL : String := ""
  statsReportingURL : String := ""
  statsReportingInterval : Int := 0
  statsReportingLevel : RSStatsReportingLevel := .kRSStatsReportingLevelDebug
  statsReportingMaxRequests : Int := 0
  domainsProvisionedList : List String := []
  domainsWhiteList : List String := []
  domainsBlackList : List String := []
  domainsInternalBlackList : List String := []
  appName : String := ""
  os : String := ""
  loggingLevel : String := ""
  deriving DecidableEq

namespace RSOperationModeInner

def reports : RSOperationModeInner → Bool
  | .kRSOperationModeInnerReport => true
  | .kRSOperationModeInnerTransportAndReport => true
  | _ => false

def transports : RSOperationModeInner → Bool
  | .kRSOperationModeInnerTransport => true
  | .kRSOperationModeInnerTransportAndReport => true
  | _ => false

end RSOperationModeInner

end RevSDK
