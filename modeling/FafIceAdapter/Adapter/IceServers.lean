import FafIceAdapter.Adapter.Effects
import FafIceAdapter.Adapter.Rpc

namespace Faf
open Json Transition

namespace LiveAdapter

theorem members_concat (entries : List (String × Value)) (entry : String × Value) :
    members (entries ++ [entry]) = (members entries).set (bytes entry.1) entry.2 := by
  rw [members, List.foldl_append, List.foldl_cons, List.foldl_nil]
  rfl

theorem assigned_members (entries : List (String × Value)) :
    (members entries).isNull || (members entries).isObject := by
  induction entries using List.reverseRecOn with
  | nil => rfl
  | append_singleton entries entry ih =>
      rw [members_concat, Value.isObject_set ih, Bool.or_true]

/-- Of the entries with a name the last one counts. -/
theorem member_members (entries : List (String × Value)) (name : Bytes) :
    (members entries).member name =
      ((entries.reverse.find? fun entry => bytes entry.1 = name).map Prod.snd).getD .nullValue := by
  induction entries using List.reverseRecOn with
  | nil => rfl
  | append_singleton entries entry ih =>
      rw [members_concat, List.reverse_concat, List.find?_cons]
      by_cases own : bytes entry.1 = name
      · subst own
        simp [Value.member_set_same (assigned_members entries)]
      · rw [Value.member_set_of_ne (Ne.symm own), ih]
        simp [own]

theorem isObject_iceServerStatus (server : IceServer) : (iceServerStatus server).isObject := by
  rw [iceServerStatus, List.append_cons, members_concat]
  exact Value.isObject_set (assigned_members _) _ _

theorem member_iceServers (environment : RpcEnvironment) (live : LiveAdapter) :
    (live.status environment).member (bytes "ice_servers") =
      .arrayValue (live.adapter.iceServers.map iceServerStatus) := by
  have options : bytes "options" ≠ bytes "ice_servers" := by decide
  have gpgnet : bytes "gpgnet" ≠ bytes "ice_servers" := by decide
  have relays : bytes "relays" ≠ bytes "ice_servers" := by decide
  rw [status, member_members]
  simp [options, gpgnet, relays]

section Names

variable (server : IceServer)

theorem member_url : (iceServerStatus server).member (bytes "url") =
    if server.uri = [] then .nullValue else .stringValue server.uri := by
  have urls : bytes "urls" ≠ bytes "url" := by decide
  have credential : bytes "credential" ≠ bytes "url" := by decide
  have username : bytes "username" ≠ bytes "url" := by decide
  rw [iceServerStatus, member_members]
  by_cases noUri : server.uri = [] <;> by_cases noUrls : server.urls = [] <;>
    simp [noUri, noUrls, urls, credential, username]

theorem member_urls : (iceServerStatus server).member (bytes "urls") =
    if server.urls = [] then .nullValue else .arrayValue (server.urls.map .stringValue) := by
  have url : bytes "url" ≠ bytes "urls" := by decide
  have credential : bytes "credential" ≠ bytes "urls" := by decide
  have username : bytes "username" ≠ bytes "urls" := by decide
  rw [iceServerStatus, member_members]
  by_cases noUri : server.uri = [] <;> by_cases noUrls : server.urls = [] <;>
    simp [noUri, noUrls, url, credential, username]

theorem member_credential : (iceServerStatus server).member (bytes "credential") =
    .stringValue server.password := by
  have username : bytes "username" ≠ bytes "credential" := by decide
  rw [iceServerStatus, member_members]
  simp [username]

theorem member_username : (iceServerStatus server).member (bytes "username") = .stringValue server.username := by
  rw [iceServerStatus, member_members]
  simp

end Names

end LiveAdapter

namespace IceAdapter

section Servers

variable {jsonCpp : JsonCpp} (emptyText : jsonCpp.asString .nullValue = .ok [])
include emptyText

/-- The status of a server describes it. A member that is left out reads as an empty text or as no texts. -/
theorem describes_iceServerStatus (server : IceServer) :
    Describes jsonCpp (LiveAdapter.iceServerStatus server) server where
  uri := by
    rw [LiveAdapter.member_url]
    split
    · rename_i empty
      rw [empty, emptyText]
    · exact jsonCpp.asString_string server.uri
  urls := by
    rw [LiveAdapter.member_urls]
    split
    · rename_i empty
      rw [empty]
      rfl
    · change (server.urls.map Value.stringValue).map jsonCpp.asString = _
      rw [List.map_map]
      exact List.map_congr_left fun url _ => jsonCpp.asString_string url
  password := by
    rw [LiveAdapter.member_credential]
    exact jsonCpp.asString_string server.password
  username := by
    rw [LiveAdapter.member_username]
    exact jsonCpp.asString_string server.username

theorem storeIceServers_status (iceServers : List IceServer) :
    storeIceServers jsonCpp (iceServers.map LiveAdapter.iceServerStatus) = (iceServers, none) := by
  induction iceServers with
  | nil => rfl
  | cons server rest ih =>
      have read := iceServer_ok.mpr (describes_iceServerStatus emptyText server)
      rw [List.map_cons, storeIceServers, LiveAdapter.isObject_iceServerStatus, read, ih]
      rfl

end Servers

/-- Every relay has the servers of the adapter. -/
def Shared (adapter : IceAdapter) : Prop :=
  ∀ (playerId : Int) (relay : PeerRelay), adapter.relays[playerId]? = some relay →
    relay.iceServerList = adapter.iceServers

/-- No call of `setIceServers` throws. -/
def Completes (jsonCpp : JsonCpp) (adapter : IceAdapter) : Event → Prop
  | .setIceServers servers => (adapter.setIceServers jsonCpp servers).2 = none
  | _ => True

section Sharing

variable {jsonCpp : JsonCpp} {adapter next : IceAdapter} {event : Event}

/-- The tasks change neither the relays nor the servers. -/
theorem Shared.tryExecuteGameTasks (shared : Shared adapter) : Shared adapter.tryExecuteGameTasks := by
  obtain ⟨_, _, _, _, same⟩ := adapter.tryExecuteGameTasks_spec
  rw [same]
  exact shared

theorem Shared.queueGameTask (shared : Shared adapter) (task : IceAdapterGameTask) :
    Shared (adapter.queueGameTask task) := Shared.tryExecuteGameTasks shared

/-- A new relay gets the servers of the adapter. -/
theorem Shared.addRelay (shared : Shared adapter) (remotePlayerId : Int) {relay : PeerRelay}
    (own : relay.iceServerList = adapter.iceServers) :
    Shared { adapter with relays := addRelay remotePlayerId relay adapter.relays } := by
  unfold IceAdapter.addRelay
  split
  · exact shared
  · intro playerId other found
    change (adapter.relays.insert remotePlayerId relay)[playerId]? = some other at found
    rw [Std.ExtTreeMap.getElem?_insert] at found
    split at found
    · obtain rfl := Option.some.inj found
      exact own
    · exact shared playerId other found

theorem Shared.erase (shared : Shared adapter) (remotePlayerId : Int) :
    Shared { adapter with relays := adapter.relays.erase remotePlayerId } := by
  intro playerId relay found
  change (adapter.relays.erase remotePlayerId)[playerId]? = some relay at found
  rw [Std.ExtTreeMap.getElem?_erase] at found
  split at found
  · contradiction
  · exact shared playerId relay found

/-- All relays get the new servers. -/
theorem shared_setIceServers (iceServers : List IceServer) : Shared { adapter with
    iceServers := iceServers
    relays := adapter.relays.map fun _ relay => relay.setIceServers iceServers } := by
  intro playerId relay found
  change (adapter.relays.map fun _ relay => relay.setIceServers iceServers)[playerId]? = some relay at found
  rw [Std.ExtTreeMap.getElem?_map] at found
  obtain ⟨_, _, rfl⟩ := Option.map_eq_some_iff.mp found
  rfl

theorem Shared.step (shared : Shared adapter) (completes : Completes jsonCpp adapter event)
    (steps : step jsonCpp adapter event = some next) : Shared next := by
  cases stepped_of_step steps with
  | hosted map => exact shared.queueGameTask ⟨.HostGame, map, [], 0⟩
  | joined login playerId port => exact Shared.queueGameTask (shared.addRelay playerId rfl) _
  | connected login playerId createOffer port => exact Shared.queueGameTask (shared.addRelay playerId rfl) _
  | disconnected playerId present => exact Shared.queueGameTask (shared.erase playerId) _
  | interrupted stored =>
      have completed : (adapter.setIceServers jsonCpp _).2 = none := completes
      rw [setIceServers, stored] at completed
      contradiction
  | iceServers iceServers stored => exact shared_setIceServers iceServers
  | gameState handler message gameState registered single text =>
      apply Shared.tryExecuteGameTasks
      rw [answerGameState]
      split
      · exact shared
      · exact shared
  | removed handler registered =>
      intro playerId relay found
      change (∅ : Relays)[playerId]? = some relay at found
      simp at found
  | _ => exact shared

/-- Relays that have the servers already do not change. -/
theorem Shared.map_setIceServers (shared : Shared adapter) :
    (adapter.relays.map fun _ relay => relay.setIceServers adapter.iceServers) = adapter.relays := by
  apply Std.ExtTreeMap.ext_getElem?
  intro playerId
  rw [Std.ExtTreeMap.getElem?_map]
  cases found : adapter.relays[playerId]? with
  | none => rfl
  | some relay =>
      have same := shared playerId relay found
      rw [Option.map_some, PeerRelay.setIceServers, ← same]

end Sharing

/-- Setting the servers that the status shows changes nothing. -/
theorem Shared.setIceServers_status {environment : RpcEnvironment} {live : LiveAdapter}
    (emptyText : environment.jsonCpp.asString .nullValue = .ok []) (shared : Shared live.adapter) :
    live.adapter.setIceServers environment.jsonCpp ((live.status environment).member (bytes "ice_servers")) =
      (live.adapter, none) := by
  rw [LiveAdapter.member_iceServers, setIceServers, Value.elements, storeIceServers_status emptyText]
  simp only [shared.map_setIceServers]

end IceAdapter

namespace LiveAdapter

/-- A client can send the servers of a status back. -/
theorem call_setIceServers_status {environment : RpcEnvironment} {live : LiveAdapter}
    (emptyText : environment.jsonCpp.asString .nullValue = .ok []) (shared : IceAdapter.Shared live.adapter) :
    call environment .setIceServers [(call environment .status [] live).2.1.member (bytes "ice_servers")] live =
      (live, .stringValue (bytes "ok"), .nullValue) := by
  have status : (call environment .status [] live).2.1 = live.status environment := rfl
  have array : ((live.status environment).member (bytes "ice_servers")).isArray := by
    rw [member_iceServers]
    rfl
  rw [status, call]
  simp only [callback?, RpcCallback.call, RpcCallback.setIceServers, RpcCallback.param, List.getD_cons_zero, array,
    shared.setIceServers_status emptyText]
  rfl

/-- In every run in which no call of `setIceServers` throws, the servers that the status shows can be set again without
a change, and every relay has the servers of the adapter. -/
theorem iceServers_fed_back (environment : RpcEnvironment)
    (emptyText : environment.jsonCpp.asString .nullValue = .ok []) (options : IceAdapterOptions) (freePort : Int)
    (events : List IceAdapter.Event) (live : LiveAdapter)
    (run : (IceAdapter.machine environment.jsonCpp options freePort).Reaches
      (IceAdapter.Completes environment.jsonCpp) events live.adapter) :
    live.adapter.setIceServers environment.jsonCpp ((live.status environment).member (bytes "ice_servers")) =
        (live.adapter, none) ∧
      ∀ (playerId : Int) (relay : PeerRelay), live.adapter.relays[playerId]? = some relay →
        relay.iceServerList = live.adapter.iceServers := by
  have shared : IceAdapter.Shared live.adapter := by
    apply run.invariant IceAdapter.Shared
    · intro playerId relay found
      change (∅ : Relays)[playerId]? = some relay at found
      simp at found
    · intro adapter event next shared completes steps
      exact shared.step completes steps
  exact ⟨shared.setIceServers_status emptyText, shared⟩

instance (jsonCpp : JsonCpp) (adapter : IceAdapter) (event : IceAdapter.Event) :
    Decidable (IceAdapter.Completes jsonCpp adapter event) :=
  match event with
  | .setIceServers servers => inferInstanceAs (Decidable ((adapter.setIceServers jsonCpp servers).2 = none))
  | .hostGame _ | .joinGame _ _ _ | .connectToPeer _ _ _ _ | .disconnectFromPeer _ | .setLobbyInitMode _
  | .sendToGpgNet _ | .newClient | .clientMessage _ _ | .removeClient _ => instDecidableTrue

/-- A server with a list of urls. -/
def turnServer : Value :=
  members [("urls", .arrayValue [.stringValue (bytes "turn:vmrbg145.informatik.tu-muenchen.de?transport=tcp"),
    .stringValue []]), ("credential", .stringValue (bytes "banana"))]

/-- One relay is created before the servers are set, and one after it. -/
def joining : List IceAdapter.Event :=
  [.connectToPeer (bytes "Alice") 1 true 6001, .setIceServers (.arrayValue [stunServer, .nullValue, turnServer]),
    .joinGame (bytes "Bob") 2 6002]

def joined : LiveAdapter :=
  ⟨((IceAdapter.machine plainEnvironment.jsonCpp ⟨3, bytes "Rhiza", 0⟩ 6112).run joining).getD
    (.initial ⟨3, bytes "Rhiza", 0⟩ 6112), fun _ => none, false⟩

theorem iceServers_fed_back_joined :
    joined.adapter.iceServers.length = 2 ∧
      joined.adapter.setIceServers plainEnvironment.jsonCpp
          ((joined.status plainEnvironment).member (bytes "ice_servers")) = (joined.adapter, none) ∧
      ∀ (playerId : Int) (relay : PeerRelay), joined.adapter.relays[playerId]? = some relay →
        relay.iceServerList = joined.adapter.iceServers := by
  have run : (IceAdapter.machine plainEnvironment.jsonCpp ⟨3, bytes "Rhiza", 0⟩ 6112).runWhere
      (IceAdapter.Completes plainEnvironment.jsonCpp) joining = some joined.adapter := rfl
  exact ⟨rfl, iceServers_fed_back plainEnvironment rfl _ _ joining joined
    (Machine.reaches_iff_runWhere.mpr run)⟩

end LiveAdapter
end Faf
