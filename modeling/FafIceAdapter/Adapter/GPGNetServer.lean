import FafIceAdapter.GPGNet.Frame

namespace Faf
open Json

/-- The values of `InitMode`. -/
inductive InitMode where
  | NormalLobby
  | AutoLobby

def InitMode.code : InitMode → Nat
  | NormalLobby => 0
  | AutoLobby => 1

namespace GPGNetServer

/-! The messages that the server builds for the game. -/

def createLobby (initMode : InitMode) (port : Int) (login : Bytes) (playerId natTraversalProvider : Int) :
    GPGNetMessage :=
  ⟨bytes "CreateLobby", [.uintValue initMode.code, .intValue port, .stringValue login, .intValue playerId,
    .intValue natTraversalProvider]⟩

def connectToPeer (addressAndPort playerName : Bytes) (playerId : Int) : GPGNetMessage :=
  ⟨bytes "ConnectToPeer", [.stringValue addressAndPort, .stringValue playerName, .intValue playerId]⟩

def joinGame (addressAndPort remotePlayerName : Bytes) (remotePlayerId : Int) : GPGNetMessage :=
  ⟨bytes "JoinGame", [.stringValue addressAndPort, .stringValue remotePlayerName, .intValue remotePlayerId]⟩

def hostGame (map : Bytes) : GPGNetMessage := ⟨bytes "HostGame", [.stringValue map]⟩

def disconnectFromPeer (remotePlayerId : Int) : GPGNetMessage :=
  ⟨bytes "DisconnectFromPeer", [.intValue remotePlayerId]⟩

end GPGNetServer

/-- The address of a relay, from which the game reaches the peer. -/
def loopback (port : Nat) : Bytes := bytes "127.0.0.1:" ++ decimal port

/-- The port that an address carries after the host. -/
def portOf (address : Bytes) : Nat :=
  Nat.ofDigitChars 10 ((address.drop (bytes "127.0.0.1:").length).map fun digit => Char.ofNat digit.toNat) 0

/-- The game recovers the port of a relay from its address. -/
theorem portOf_loopback (port : Nat) : portOf (loopback port) = port := by
  have digits : (decimal port).map (fun digit => Char.ofNat digit.toNat) = Nat.toDigits 10 port := by
    have unsigned : ¬ (port : Int) < 0 := by omega
    rw [decimal, if_neg unsigned, List.nil_append, List.map_map, Int.natAbs_natCast]
    refine (List.map_congr_left fun char inside => ?_).trans (List.map_id _)
    have digit := Nat.isDigit_of_mem_toDigits (by decide) (by decide) inside
    rw [Char.isDigit, Bool.and_eq_true, decide_eq_true_eq, decide_eq_true_eq] at digit
    have high : char.toNat ≤ 57 := digit.2
    have kept : (UInt8.ofNat char.toNat).toNat = char.toNat := by
      rw [UInt8.toNat_ofNat']
      omega
    simp only [Function.comp_apply, kept, Char.ofNat_toNat, id_eq]
  rw [portOf, loopback, List.drop_left, digits, Nat.ofDigitChars_ten_toDigits]

/-- The peers that a game knows and the port of each. -/
abbrev Peers := Int → Option Nat

/-- What a game learns from a message. -/
def GPGNetMessage.tell (message : GPGNetMessage) (peers : Peers) : Peers :=
  match message.chunks with
  | [.stringValue addressAndPort, .stringValue _, .intValue playerId] =>
      if message.header = bytes "JoinGame" ∨ message.header = bytes "ConnectToPeer" then
        Function.update peers playerId (some (portOf addressAndPort))
      else peers
  | [.intValue playerId] =>
      if message.header = bytes "DisconnectFromPeer" then Function.update peers playerId none else peers
  | _ => peers

section Tell

variable (peers : Peers)

theorem tell_hostGame (map : Bytes) : (GPGNetServer.hostGame map).tell peers = peers := rfl

theorem tell_joinGame (port : Nat) (login : Bytes) (playerId : Int) :
    (GPGNetServer.joinGame (loopback port) login playerId).tell peers =
      Function.update peers playerId (some port) := by
  rw [GPGNetMessage.tell, GPGNetServer.joinGame]
  simp only [true_or, if_true, portOf_loopback]

theorem tell_connectToPeer (port : Nat) (login : Bytes) (playerId : Int) :
    (GPGNetServer.connectToPeer (loopback port) login playerId).tell peers =
      Function.update peers playerId (some port) := by
  rw [GPGNetMessage.tell, GPGNetServer.connectToPeer]
  simp only [or_true, if_true, portOf_loopback]

theorem tell_disconnectFromPeer (playerId : Int) :
    (GPGNetServer.disconnectFromPeer playerId).tell peers = Function.update peers playerId none := by
  rw [GPGNetMessage.tell, GPGNetServer.disconnectFromPeer]
  simp only [if_true]

end Tell

end Faf
