import FafIceAdapter.Lobby.Mesh

namespace Faf
open Json JsonRpc Transition Mesh

/-- The ICE message that a client passes on to its adapter, when its user filters no candidates. -/
def Testclient.iceMessage? (environment : RpcEnvironment) (params : List Value) : Option (Int × Value) :=
  if params.length < 2 then none
  else
    match environment.jsonCpp.asString (params.getD 0 .nullValue) with
    | .error _ => none
    | .ok method =>
        let arguments := (params.getD 1 .nullValue).elements
        if method = bytes "iceMsg" ∧ arguments.length = 2 then
          (environment.jsonCpp.asInt (arguments.getD 0 .nullValue)).toOption.bind fun peerId =>
            RpcMethod.iceMsg.iceMessage? environment [.intValue peerId, arguments.getD 1 .nullValue]
        else none

namespace Lobby

variable {environment : RpcEnvironment} {lobby : Lobby} {sender receiver : Int} {socket : Nat}

end Lobby
end Faf
