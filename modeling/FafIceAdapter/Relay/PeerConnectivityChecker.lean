import FafIceAdapter.Json.Value
import FafIceAdapter.Relay.Timer

namespace Faf

/-- The callbacks of the three timers. -/
inductive CheckerTask where
  | startPing
  | sendPing
  | checkConnectivity
  deriving DecidableEq

/-- The times are nanoseconds of the steady clock, and the data channel is named by its peer connection. -/
structure PeerConnectivityChecker where
  dataChannel : Nat
  pingStartDelayTimer : Timer CheckerTask
  pingTimer : Timer CheckerTask
  connectivityCheckTimer : Timer CheckerTask
  timerStartTime : Int
  lastSentPingTime : Option Int
  lastReceivedPongTime : Option Int
  lastReceivedDataTime : Option Int

namespace PeerConnectivityChecker

/-- The terminating zero belongs to the message. -/
def PingMessage : Bytes := bytes "ICEADAPTERPING" ++ [0]

def PongMessage : Bytes := bytes "ICEADAPTERPONG" ++ [0]

def connectionTimeoutMs : Nat := 10000
def connectionCheckIntervalMs : Nat := 1000
def connectionPingStartDelayTimeMs : Nat := 5000
def connectionPingIntervalMs : Nat := 500

def milliseconds (count : Nat) : Int := count * 1000000

def timer (task : CheckerTask) (checker : PeerConnectivityChecker) : Timer CheckerTask :=
  match task with
  | .startPing => checker.pingStartDelayTimer
  | .sendPing => checker.pingTimer
  | .checkConnectivity => checker.connectivityCheckTimer

def setTimer (task : CheckerTask) (timer : Timer CheckerTask) (checker : PeerConnectivityChecker) :
    PeerConnectivityChecker :=
  match task with
  | .startPing => { checker with pingStartDelayTimer := timer }
  | .sendPing => { checker with pingTimer := timer }
  | .checkConnectivity => { checker with connectivityCheckTimer := timer }

/-- The constructor starts the check and the delay of the pings. -/
def create (dataChannel : Nat) (now : Int) : PeerConnectivityChecker where
  dataChannel := dataChannel
  pingStartDelayTimer := Timer.initial.singleShot connectionPingStartDelayTimeMs .startPing
  pingTimer := .initial
  connectivityCheckTimer := Timer.initial.start connectionCheckIntervalMs .checkConnectivity
  timerStartTime := now
  lastSentPingTime := none
  lastReceivedPongTime := none
  lastReceivedDataTime := none

/-- The connectivity check is pending. -/
def Running (checker : PeerConnectivityChecker) : Prop :=
  checker.connectivityCheckTimer = Timer.initial.start connectionCheckIntervalMs .checkConnectivity

/-- The flag tells whether the message is consumed. -/
def handleMessageFromPeer (data : Bytes) (now : Int) (checker : PeerConnectivityChecker) :
    Bool × PeerConnectivityChecker :=
  if data = PongMessage then (true, { checker with lastReceivedPongTime := some now })
  else (false, { checker with lastReceivedDataTime := some now })

/-- The pending check finds its callback. -/
theorem started_deliver {checker : PeerConnectivityChecker} {timer : Timer CheckerTask} (running : checker.Running)
    (delivered : (checker.timer .checkConnectivity).deliver = some timer) : timer.started := by
  have held : checker.timer .checkConnectivity = _ := running
  rw [held] at delivered
  obtain rfl := Option.some.inj delivered
  rfl

/-- The check is posted again after its callback. -/
theorem finish_deliver {checker : PeerConnectivityChecker} {timer : Timer CheckerTask} (running : checker.Running)
    (delivered : (checker.timer .checkConnectivity).deliver = some timer) :
    timer.finish = Timer.initial.start connectionCheckIntervalMs .checkConnectivity := by
  have held : checker.timer .checkConnectivity = _ := running
  rw [held] at delivered
  obtain rfl := Option.some.inj delivered
  rfl

theorem running_handleMessageFromPeer (data : Bytes) (now : Int) {checker : PeerConnectivityChecker}
    (running : checker.Running) : (checker.handleMessageFromPeer data now).2.Running := by
  unfold handleMessageFromPeer
  split
  · exact running
  · exact running

/-- Whether the connectivity is assumed to be lost. -/
def checkConnectivity (now : Int) (checker : PeerConnectivityChecker) : Bool :=
  let connectionLostAssumptionTime := now - milliseconds connectionTimeoutMs
  if checker.lastReceivedDataTime = none ∧ checker.lastReceivedPongTime = none ∧
      connectionLostAssumptionTime < checker.timerStartTime then false
  else if checker.lastReceivedDataTime.any fun time => connectionLostAssumptionTime < time then false
  else if checker.lastReceivedPongTime.any fun time => connectionLostAssumptionTime < time then false
  else true

def startPing (checker : PeerConnectivityChecker) : PeerConnectivityChecker :=
  { checker with pingTimer := checker.pingTimer.start connectionPingIntervalMs .sendPing }

/-- The caller sends the message on the data channel. -/
def sendPing (now : Int) (checker : PeerConnectivityChecker) : PeerConnectivityChecker :=
  { checker with lastSentPingTime := some now }

end PeerConnectivityChecker
end Faf
