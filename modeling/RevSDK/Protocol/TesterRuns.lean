import RevSDK.Foundation.Runs
import RevSDK.Protocol.ProtocolAvailabilityTester

/-!
# Runs of the availability tester

The tester with the blocks waiting in the main queue and the test connections
it has started.  A delegate event only dispatches a block, so the tester meets
it when the main queue comes to it.  `accepted` lists the blocks of the calls
of `runTests` that started a run and `completions` the calls of completion
callbacks; a connection belongs to the run that was in progress when
`performReques` created it.
-/

namespace RevSDK

open RevSDK.Foundation

inductive ConnectionClass where
  | StandardConnection
  | QUICConnection
  deriving DecidableEq

structure TestConnection where
  connectionClass : ConnectionClass
  aURL : String
  run : Nat
  protocol : Protocol
  firstOutcome : Option Bool
  deriving DecidableEq

structure Completion where
  callback : Nat
  results : List AvailabilityTestResult
  deriving DecidableEq

structure TesterWorld where
  tester : ProtocolAvailabilityTester
  mainQueue : List ProtocolAvailabilityTester.Block
  connections : List TestConnection
  ended : List Nat
  accepted : List ProtocolAvailabilityTester.Block
  completions : List Completion
  deriving DecidableEq

inductive TesterEvent where
  | runTests (aMonitoringURL : String) (cbOnComplete : Nat)
  | runTestsIgnoring (aMonitoringURL aIgnoreProtocol : String)
      (cbOnComplete : Nat)
  | connectionDidReceiveResponse (index : Nat) (statusCode : Int)
  | connectionDidFailWithError (index : Nat)
  | connectionDidFinish (index : Nat)
  | runBlock
  deriving DecidableEq

namespace TesterWorld

open ProtocolAvailabilityTester

def start : TesterWorld where
  tester := construct
  mainQueue := []
  connections := []
  ended := []
  accepted := []
  completions := []

def getConnectionFromProto (protocolName : String) : Outcome ConnectionClass :=
  if protocolName = standardProtocolName then .ok .StandardConnection
  else if protocolName = quicProtocolName then .ok .QUICConnection
  else .error (.assertionFailed "false")

def performReques (world : TesterWorld) (aProtocol : Protocol)
    (aURL : String) : Outcome TesterWorld := do
  let connectionClass ← getConnectionFromProto aProtocol.protocolName
  return { world with
    connections := world.connections ++
      [⟨connectionClass, aURL, world.completions.length, aProtocol, none⟩] }

def call (world : TesterWorld) (block : Block) : TesterWorld :=
  let (tester, dispatched) := world.tester.exchangeRunning block
  { world with
    tester := tester
    mainQueue := world.mainQueue ++ dispatched
    accepted := world.accepted ++ dispatched }

/-- `MockDelegate` passes an outcome of a connection to `onTestResult`. -/
def cbOnResponse (world : TesterWorld) (index : Nat) (aSuccess : Bool) :
    TesterWorld :=
  { world with
    mainQueue := world.mainQueue ++ [.onTestResult aSuccess]
    connections := world.connections.modify index fun connection =>
      { connection with
        firstOutcome := connection.firstOutcome.or (some aSuccess) } }

def react (world : TesterWorld) : TesterEvent → Outcome TesterWorld
  | .runTests aMonitoringURL cbOnComplete =>
      .ok (world.call (.runTests aMonitoringURL cbOnComplete))
  | .runTestsIgnoring aMonitoringURL aIgnoreProtocol cbOnComplete =>
      .ok (world.call
        (.runTestsIgnoring aMonitoringURL aIgnoreProtocol cbOnComplete))
  | .connectionDidReceiveResponse index statusCode =>
      .ok (world.cbOnResponse index (statusCode == 200))
  | .connectionDidFailWithError index =>
      .ok { world.cbOnResponse index false with
        ended := index :: world.ended }
  | .connectionDidFinish index =>
      .ok { world with ended := index :: world.ended }
  | .runBlock =>
      match world.mainQueue with
      | [] => .ok world
      | block :: rest => do
          let (tester, effect) ← world.tester.runBlock block
          let world := { world with tester := tester, mainQueue := rest }
          match effect with
          | .performReques aProtocol aURL =>
              world.performReques aProtocol aURL
          | .completed callback results =>
              return { world with
                completions := world.completions ++ [⟨callback, results⟩] }

def system : EventSystem TesterWorld TesterEvent where
  initial world := world = start
  step world event := (world.react event).toOption

def outcomeOf (world : TesterWorld) (index : Nat) : Option Bool :=
  world.connections[index]?.bind TestConnection.firstOutcome

/-- At most one response, and afterwards at most one terminal event. -/
def Admitted (world : TesterWorld) : TesterEvent → Prop
  | .connectionDidReceiveResponse index _ =>
      index < world.connections.length ∧ index ∉ world.ended ∧
        world.outcomeOf index = none
  | .connectionDidFailWithError index =>
      index < world.connections.length ∧ index ∉ world.ended
  | .connectionDidFinish index =>
      index < world.connections.length ∧ index ∉ world.ended
  | _ => True

instance (world : TesterWorld) (event : TesterEvent) :
    Decidable (world.Admitted event) := by
  cases event <;> unfold Admitted <;> infer_instance

/-- A connection fails only before it has delivered a response. -/
def FailsFirst (world : TesterWorld) : TesterEvent → Prop
  | .connectionDidFailWithError index => world.outcomeOf index = none
  | _ => True

instance (world : TesterWorld) (event : TesterEvent) :
    Decidable (world.FailsFirst event) := by
  cases event <;> unfold FailsFirst <;> infer_instance

def startedFor (world : TesterWorld) (run : Nat) : List TestConnection :=
  world.connections.filter fun connection => connection.run == run

def answer (connection : TestConnection) : Option AvailabilityTestResult :=
  connection.firstOutcome.map fun available =>
    ⟨connection.protocol.protocolName, available⟩

/--
The callback of the run got one result for each protocol under test: the first
outcome of the one connection started for that protocol.
-/
structure Attributed (world : TesterWorld) (run : Nat) (block : Block)
    (completion : Completion) : Prop where
  callback : block.callback = some completion.callback
  nodup : block.protocols.Nodup
  protocols : (world.startedFor run).map TestConnection.protocol =
    block.protocols
  results : (world.startedFor run).map answer =
    completion.results.map some

end TesterWorld

end RevSDK
