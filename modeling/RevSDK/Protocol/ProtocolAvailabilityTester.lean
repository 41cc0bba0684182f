import RevSDK.Foundation.Outcome
import RevSDK.Protocol.Protocol

/-!
# The availability tester

`ProtocolAvailabilityTester` with the blocks that its methods dispatch to the
main queue.  A block either starts a test connection or reports the results of
a run; that effect is returned beside the new state of the tester.  The stack
`mProtocolsToTest` is a list with its top first, and a callback is a number.
-/

namespace RevSDK

open RevSDK.Foundation

structure ProtocolAvailabilityTester where
  mRunning : Bool
  mCurrentResults : List AvailabilityTestResult
  mProtocolsToTest : List Protocol
  mCompletitionCallback : Option Nat
  mCachedURL : String
  deriving DecidableEq

namespace ProtocolAvailabilityTester

inductive Block where
  | onTestResult (aSuccess : Bool)
  | runTests (aMonitoringURL : String) (cbOnComplete : Nat)
  | runTestsIgnoring (aMonitoringURL aIgnoreProtocol : String)
      (cbOnComplete : Nat)
  deriving DecidableEq

inductive Effect where
  | performReques (aProtocol : Protocol) (aURL : String)
  | completed (callback : Nat) (results : List AvailabilityTestResult)
  deriving DecidableEq

def construct : ProtocolAvailabilityTester where
  mRunning := false
  mCurrentResults := []
  mProtocolsToTest := []
  mCompletitionCallback := none
  mCachedURL := ""

def top (tester : ProtocolAvailabilityTester) : Outcome Protocol :=
  match tester.mProtocolsToTest with
  | [] => .error (.undefinedBehaviour "top() of an empty stack")
  | protocol :: _ => .ok protocol

def pop (tester : ProtocolAvailabilityTester) :
    Outcome ProtocolAvailabilityTester :=
  match tester.mProtocolsToTest with
  | [] => .error (.undefinedBehaviour "pop() of an empty stack")
  | _ :: rest => .ok { tester with mProtocolsToTest := rest }

def initTester (tester : ProtocolAvailabilityTester) :
    ProtocolAvailabilityTester where
  mRunning := tester.mRunning
  mCurrentResults := []
  mProtocolsToTest := [.StandardProtocol, .QUICProtocol]
  mCompletitionCallback := tester.mCompletitionCallback
  mCachedURL := tester.mCachedURL

/-- The stack that the second overload of `runTests` pushes. -/
def protocolsWithout (aIgnoreProtocol : String) : List Protocol :=
  let quic := if quicProtocolName ≠ aIgnoreProtocol then
    [Protocol.QUICProtocol] else []
  if standardProtocolName ≠ aIgnoreProtocol then
    .StandardProtocol :: quic else quic

def begin (tester : ProtocolAvailabilityTester) (aMonitoringURL : String)
    (cbOnComplete : Nat) : Outcome (ProtocolAvailabilityTester × Effect) := do
  let tester := { tester with
    mCompletitionCallback := some cbOnComplete
    mCachedURL := aMonitoringURL }
  let protocol ← tester.top
  return (tester, .performReques protocol aMonitoringURL)

def runBlock (tester : ProtocolAvailabilityTester) :
    Block → Outcome (ProtocolAvailabilityTester × Effect)
  | .onTestResult aSuccess => do
      let protocol ← tester.top
      let result : AvailabilityTestResult :=
        { ProtocolID := protocol.protocolName, Available := aSuccess }
      let tester ← pop { tester with
        mCurrentResults := tester.mCurrentResults ++ [result] }
      if tester.mProtocolsToTest.isEmpty then
        match tester.mCompletitionCallback with
        | none => .error (.exceptionRaised "bad_function_call")
        | some callback =>
            return ({ tester with mCurrentResults := [], mRunning := false },
              .completed callback tester.mCurrentResults)
      else do
        let next ← tester.top
        return (tester, .performReques next tester.mCachedURL)
  | .runTests aMonitoringURL cbOnComplete =>
      begin tester.initTester aMonitoringURL cbOnComplete
  | .runTestsIgnoring aMonitoringURL aIgnoreProtocol cbOnComplete =>
      begin { tester with
        mCurrentResults := []
        mProtocolsToTest := protocolsWithout aIgnoreProtocol }
        aMonitoringURL cbOnComplete

/-- `runTests` dispatches its block if no run is in progress. -/
def exchangeRunning (tester : ProtocolAvailabilityTester) (block : Block) :
    ProtocolAvailabilityTester × List Block :=
  if tester.mRunning then (tester, [])
  else ({ tester with mRunning := true }, [block])

def Block.protocols : Block → List Protocol
  | .onTestResult _ => []
  | .runTests _ _ => [.StandardProtocol, .QUICProtocol]
  | .runTestsIgnoring _ aIgnoreProtocol _ => protocolsWithout aIgnoreProtocol

def Block.callback : Block → Option Nat
  | .onTestResult _ => none
  | .runTests _ cbOnComplete => some cbOnComplete
  | .runTestsIgnoring _ _ cbOnComplete => some cbOnComplete

theorem protocolsWithout_ne_nil (aIgnoreProtocol : String) :
    protocolsWithout aIgnoreProtocol ≠ [] := by
  unfold protocolsWithout
  by_cases hstandard : standardProtocolName = aIgnoreProtocol
  · have hquic : quicProtocolName ≠ aIgnoreProtocol := by
      rw [← hstandard]
      decide
    simp [hquic, hstandard]
  · simp [hstandard]

theorem protocolsWithout_nodup (aIgnoreProtocol : String) :
    (protocolsWithout aIgnoreProtocol).Nodup := by
  unfold protocolsWithout
  split <;> split <;> simp

end ProtocolAvailabilityTester

end RevSDK
