import FafIceAdapter.GPGNet.Message
import FafIceAdapter.Library.Ledger

namespace Faf
open Json

/-- `AsyncSocket::Send` returns the number of bytes that it accepted, or -1. -/
inductive SendResult where
  | accepted (count : Nat)
  | refused
  deriving DecidableEq

/-- The number of bytes that are accepted. -/
def SendResult.taken : SendResult → Nat
  | accepted count => count
  | refused => 0

/-- A registered socket and what was sent to it. -/
structure Connection where
  socket : Nat
  ledger : Ledger UInt8

namespace Connection

def send (message : Bytes) (result : SendResult) (connection : Connection) : Connection :=
  { connection with ledger := connection.ledger.send message result.taken }

/-- The registered sockets are ordered by their addresses. -/
def register (socket : Nat) : List Connection → List Connection
  | [] => [⟨socket, .empty⟩]
  | it :: rest =>
      if socket < it.socket then ⟨socket, .empty⟩ :: it :: rest else it :: register socket rest

def erase (socket : Nat) (connections : List Connection) : List Connection :=
  connections.filter fun connection => connection.socket ≠ socket

def registered (connections : List Connection) : List Nat := connections.map socket

theorem mem_register {socket : Nat} {connections : List Connection} {connection : Connection}
    (member : connection ∈ register socket connections) :
    connection = ⟨socket, .empty⟩ ∨ connection ∈ connections := by
  induction connections with
  | nil => exact .inl (List.mem_singleton.mp member)
  | cons it rest ih =>
      unfold register at member
      split at member
      · exact List.mem_cons.mp member
      · rcases List.mem_cons.mp member with same | later
        · exact .inr (List.mem_cons.mpr (.inl same))
        · rcases ih later with fresh | old
          · exact .inl fresh
          · exact .inr (List.mem_cons_of_mem it old)

theorem registered_register (socket : Nat) (connections : List Connection) :
    (registered (register socket connections)).Perm (socket :: registered connections) := by
  induction connections with
  | nil => exact List.Perm.refl _
  | cons it rest ih =>
      unfold register
      split
      · exact List.Perm.refl _
      · exact (ih.cons it.socket).trans (List.Perm.swap _ _ _)

theorem registered_erase (socket : Nat) (connections : List Connection) :
    (registered (erase socket connections)).Sublist (registered connections) := List.filter_sublist.map _

theorem mem_of_mem_erase {socket : Nat} {connections : List Connection} {connection : Connection}
    (member : connection ∈ erase socket connections) : connection ∈ connections :=
  (List.mem_filter.mp member).1

end Connection

/-- The handler of each client ignores the result of its socket. -/
def GPGNetServer.sendMessage (message : Bytes) (results : Nat → SendResult)
    (connectedSockets : List Connection) : List Connection :=
  connectedSockets.map fun it => it.send message (results it.socket)

namespace JsonRpcServer

/-- The loop tests the result of `Send` as a truth value. A socket that accepts nothing is erased, and
then the iterator moves over the next one, which is a message that does not reach that socket. There is
no next element after the last one. -/
def sendLoop (message : Bytes) (socket : Option Nat) (results : Nat → SendResult) :
    List Connection → Option (List Connection)
  | [] => some []
  | it :: rest =>
      if socket ≠ none ∧ socket ≠ some it.socket then (sendLoop message socket results rest).map (it :: ·)
      else if results it.socket = .accepted 0 then
        match rest with
        | [] => none
        | skipped :: later =>
            (sendLoop message socket results later).map
              ((if socket = none then skipped.send message .refused else skipped) :: ·)
      else (sendLoop message socket results rest).map (it.send message (results it.socket) :: ·)

/-- The returned flag only tells whether there is a socket. -/
def sendMessage (message : Bytes) (socket : Option Nat) (results : Nat → SendResult)
    (connectedSockets : List Connection) : Option (Bool × List Connection) :=
  if connectedSockets = [] then some (false, [])
  else (sendLoop message socket results connectedSockets).map (true, ·)

section Loop

variable {message : Bytes} {socket : Option Nat} {results : Nat → SendResult} {it : Connection}
  {rest : List Connection}

theorem sendLoop_passed (passed : socket ≠ none ∧ socket ≠ some it.socket) :
    sendLoop message socket results (it :: rest) = (sendLoop message socket results rest).map (it :: ·) := by
  rw [sendLoop.eq_def]
  exact if_pos passed

theorem sendLoop_addressed (addressed : ¬ (socket ≠ none ∧ socket ≠ some it.socket))
    (nonzero : results it.socket ≠ .accepted 0) :
    sendLoop message socket results (it :: rest) =
      (sendLoop message socket results rest).map (it.send message (results it.socket) :: ·) := by
  rw [sendLoop.eq_def]
  exact (if_neg addressed).trans (if_neg nonzero)

end Loop

end JsonRpcServer
end Faf
