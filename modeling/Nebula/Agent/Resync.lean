import Nebula.Agent.XrayWhole

/-!
# Rendering the served configs again at startup

The agent renders both configs from the clients it has recorded. If Xray does not load its
new config, the text that was served before is written back; nothing is written back for a
reload that times out, nor when it is the Hysteria2 half that fails.
-/

namespace Nebula.Agent.XrayCall

open Effects Store ControlPlane

variable (ends : Ends)

def leaves {Value : Type} : EStateM.Result XrayError Host Value → Host
  | .ok _ after | .error _ after => after

end Nebula.Agent.XrayCall
