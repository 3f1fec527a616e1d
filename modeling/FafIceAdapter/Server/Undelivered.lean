import FafIceAdapter.Server.Sessions

namespace Faf
open Json JsonRpc

namespace JsonRpcServer

/-- The target is registered, and its `Send` accepts at least one byte. -/
def Accepts (target : Nat) (results : Nat → SendResult) (server : JsonRpcServer) : Prop :=
  target ∈ Connection.registered server.connectedSockets ∧ 0 < (results target).taken

/-- The result callback of the call runs with an error before the call returns. -/
def Reports (jsonCpp : JsonCpp) (method : Bytes) (paramsArray : Value) (target : Nat)
    (results : Nat → SendResult) (server : JsonRpcServer) : Prop :=
  ∃ next error, server.sendRequest jsonCpp method paramsArray (some target) true results = some next ∧
    next.requests.invocations =
      server.requests.invocations ++ [⟨server.requests.calls.length, .nullValue, error, none⟩] ∧
    error.isNull = false

section Calls

variable {jsonCpp : JsonCpp} {method : Bytes} {paramsArray : Value} {target : Nat}
  {results : Nat → SendResult} {server : JsonRpcServer}

/-- A call that finds a socket counts as sent, whatever becomes of its message. -/
theorem not_reports_of_registered (array : paramsArray.isArray) (named : method ≠ [])
    (registered : server.connectedSockets ≠ []) :
    ¬ Reports jsonCpp method paramsArray target results server := by
  intro reports
  obtain ⟨next, error, sends, invoked, _⟩ := reports
  rw [sendRequest, if_pos ⟨array, named⟩] at sends
  obtain ⟨⟨sent, connectedSockets⟩, messaged, later⟩ := Option.bind_eq_some_iff.mp sends
  obtain ⟨requests, stored, last⟩ := Option.bind_eq_some_iff.mp later
  obtain rfl := Option.some.inj last
  rw [sendMessage, if_neg registered] at messaged
  obtain ⟨_, _, same⟩ := Option.map_eq_some_iff.mp messaged
  obtain ⟨rfl, _⟩ := Prod.mk.inj same
  have kept : requests.invocations = server.requests.invocations := by
    rw [Requests.sendRequest, array, if_neg (by simp), if_neg named, if_neg (by simp)] at stored
    obtain ⟨_, stored⟩ := Option.ite_none_left_eq_some.mp stored
    obtain rfl := Option.some.inj stored
    rfl
  exact absurd (List.self_eq_append_right.mp (kept.symm.trans invoked)) (List.cons_ne_nil _ _)

/-- A call that finds no socket fails, unless its id cannot be counted. -/
theorem reports_of_empty (array : paramsArray.isArray) (named : method ≠ [])
    (empty : server.connectedSockets = []) :
    Reports jsonCpp method paramsArray target results server ↔ FitsInt32 (server.requests.currentId + 1) := by
  have messaged (request : Bytes) :
      sendMessage request (some target) results server.connectedSockets = some (false, []) := if_pos empty
  have calls : server.sendRequest jsonCpp method paramsArray (some target) true results =
      (server.requests.sendRequest method paramsArray (some target) true false).map fun requests =>
        ⟨[], requests⟩ := by
    rw [sendRequest, if_pos ⟨array, named⟩]
    simp only [messaged, Option.bind_eq_bind, Option.bind_some]
    exact Option.map_eq_bind.symm
  have stored : server.requests.sendRequest method paramsArray (some target) true false =
      if ¬ FitsInt32 (server.requests.currentId + 1) then none
      else some ((server.requests.store (some target)).sendFailed server.requests.calls.length
        server.requests.currentId) := by
    rw [Requests.sendRequest, array, if_neg (by simp), if_neg named, if_neg (by simp)]
    rfl
  unfold Reports
  rw [calls, stored]
  constructor
  · intro reports
    obtain ⟨next, error, sends, _⟩ := reports
    by_contra wide
    rw [if_pos wide] at sends
    contradiction
  · intro fits
    rw [if_neg (not_not.mpr fits)]
    exact ⟨_, _, rfl, rfl, rfl⟩

end Calls

/-- An undelivered request is reported exactly when no socket is registered, up to the overflow of the id. -/
theorem sendRequest_reports_iff (jsonCpp : JsonCpp) (method : Bytes) (paramsArray : Value) (target : Nat)
    (results : Nat → SendResult) (server : JsonRpcServer) (array : paramsArray.isArray) (named : method ≠ []) :
    (¬ Accepts target results server → Reports jsonCpp method paramsArray target results server) ↔
      Accepts target results server ∨
        server.connectedSockets = [] ∧ FitsInt32 (server.requests.currentId + 1) := by
  by_cases empty : server.connectedSockets = []
  · have unaccepted : ¬ Accepts target results server := by
      intro accepts
      rw [Accepts, empty] at accepts
      exact List.not_mem_nil accepts.1
    simp only [unaccepted, not_false_eq_true, true_imp_iff, false_or, empty, true_and]
    exact reports_of_empty array named empty
  · have silent := @not_reports_of_registered jsonCpp method paramsArray target results server array named empty
    simp only [silent, empty, false_and, or_false, imp_false, not_not]

/-- A server without sockets. -/
theorem sendRequest_reports_iff_empty :
    (¬ Accepts 1 (fun _ => .refused) ⟨[], .initial⟩ →
      Reports (Sample.jsonCpp fun _ => (false, .nullValue)) (bytes "ask") (.arrayValue []) 1 (fun _ => .refused)
        ⟨[], .initial⟩) ↔
      Accepts 1 (fun _ => .refused) ⟨[], .initial⟩ ∨
        ([] : List Connection) = [] ∧ FitsInt32 (Requests.initial.currentId + 1) :=
  sendRequest_reports_iff (Sample.jsonCpp fun _ => (false, .nullValue)) (bytes "ask") (.arrayValue []) 1
    (fun _ => .refused) ⟨[], .initial⟩ rfl (by decide)

/-- The socket of another client makes a request to an unknown one count as sent. -/
theorem sendRequest_unreported : ¬ ∀ (jsonCpp : JsonCpp) (method : Bytes) (paramsArray : Value) (target : Nat)
    (results : Nat → SendResult) (server : JsonRpcServer), paramsArray.isArray → method ≠ [] →
    ¬ Accepts target results server → Reports jsonCpp method paramsArray target results server := by
  intro claim
  have unaccepted : ¬ Accepts 2 (fun _ => .accepted 40) ⟨[⟨1, .empty⟩], .initial⟩ := by
    intro accepts
    exact absurd accepts.1 (by decide)
  obtain ⟨next, error, sends, invoked, _⟩ := claim (Sample.jsonCpp fun _ => (false, .nullValue)) (bytes "ask")
    (.arrayValue []) 2 (fun _ => .accepted 40) ⟨[⟨1, .empty⟩], .initial⟩ rfl (by decide) unaccepted
  obtain rfl := Option.some.inj (show some _ = some next from sends)
  contradiction

end JsonRpcServer
end Faf
