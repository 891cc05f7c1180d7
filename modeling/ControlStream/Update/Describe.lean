import ControlStream.Update.Basic

/-!
# One line about an update

What the text format shows of an update: its kind and, of its fields, texts as they came and the
sizes of bytes and lists.
-/

namespace ControlStream

namespace Update

def describeSender (sender : Option TypedKey) : String :=
  match sender with
  | some key => key.text
  | none => "private route"

def countText {α : Type} (items : List α) : String := toString items.length

def describe : Update → String
  | .log entry => "log " ++ entry.level.name ++ ": " ++ entry.message
  | .appMessage app =>
      "app_message from " ++ describeSender app.sender ++ ": " ++ countText app.message ++ " bytes"
  | .appCall app =>
      "app_call " ++ app.operationId.text ++ " from " ++ describeSender app.sender ++ ": " ++
        countText app.message ++ " bytes"
  | .attachment report =>
      "attachment " ++ report.state.name ++
        " public_internet_ready=" ++ toString report.publicInternetReady ++
        " local_network_ready=" ++ toString report.localNetworkReady
  | .network state =>
      "network started=" ++ toString state.started ++
        " bps_down=" ++ state.bpsDown.text ++
        " bps_up=" ++ state.bpsUp.text ++
        " peers=" ++ countText state.peers
  | .config state => "config " ++ countText state.config ++ " keys"
  | .routeChange change =>
      "route_change dead_routes=" ++ countText change.deadRoutes ++
        " dead_remote_routes=" ++ countText change.deadRemoteRoutes
  | .valueChange change =>
      "value_change " ++ change.key.text ++
        " subkeys=[" ++ ",".intercalate (change.subkeys.map Scalar.text) ++
        "] count=" ++ toString change.count.toNat ++
        " seq=" ++ change.value.seq.text
  | .shutdown => "shutdown"

end Update

end ControlStream
