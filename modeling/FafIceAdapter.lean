import FafIceAdapter.GPGNet.Totality
import FafIceAdapter.JsonRpc.Segments
import FafIceAdapter.JsonRpc.Rejected
import FafIceAdapter.JsonRpc.Requests
import FafIceAdapter.Server.Framing
import FafIceAdapter.Server.Undelivered
import FafIceAdapter.Server.Isolation
import FafIceAdapter.Relay.Connected
import FafIceAdapter.Relay.DataChannels
import FafIceAdapter.Relay.Replacement
import FafIceAdapter.Relay.Activity
import FafIceAdapter.Relay.Schedule
import FafIceAdapter.Adapter.Peers
import FafIceAdapter.Adapter.GameState
import FafIceAdapter.Adapter.WakeUp
import FafIceAdapter.Adapter.IceServers
import FafIceAdapter.System.RpcStream
import FafIceAdapter.System.GameNetwork
import FafIceAdapter.System.Station
import FafIceAdapter.Lobby.Directed
import FafIceAdapter.Lobby.Routing
import FafIceAdapter.Ping.Network
