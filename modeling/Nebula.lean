import Nebula.Edge.Vless
import Nebula.ControlPlane.Summary
import Nebula.ControlPlane.CdnPorts
import Nebula.Lifecycle.Finality
import Nebula.Lifecycle.Operations
import Nebula.Lifecycle.Rounds
import Nebula.Lifecycle.Addresses
import Nebula.Lifecycle.Attribution
import Nebula.Lifecycle.Charging
import Nebula.Agent.Dispatch
import Nebula.Agent.WireGuardCall
import Nebula.Agent.DeviceDriver
import Nebula.Agent.XraySteps
import Nebula.Agent.LingeringRestart
import Nebula.Agent.PruneExact
import Nebula.Agent.LiveUpdate
import Nebula.Agent.Resync
import Nebula.Agent.HysteriaAuth
import Nebula.Fleet.Peers
import Nebula.Fleet.PeerRemoval
import Nebula.Fleet.ClientRemoval
import Nebula.Usage.Servers
import Nebula.Usage.Exact
import Nebula.Pruning.Tracked
import Nebula.Pruning.Confirmed
import Nebula.Admin.Owners
import Nebula.Admin.Lineage
import Nebula.Admin.Lockouts
import Nebula.Admin.SessionLimits
import Nebula.Admin.PasswordChange
import Nebula.Auth.Rotation
import Nebula.Auth.RateLimit
import Nebula.Lifecycle.SignOut
import Nebula.Lifecycle.Expiry
import Nebula.Lifecycle.Repairs
import Nebula.Audit.Exports
import Nebula.Audit.Paging
import Nebula.Email.Payloads
import Nebula.Mobile.Routes
import Nebula.Mobile.Checks
import Nebula.Mobile.Leftovers
import Nebula.Mobile.Session
import Nebula.Mobile.Attempts
import Nebula.Mobile.Hedging
import Nebula.Mobile.Subscriptions
import Nebula.Mobile.ApiRouting
import Nebula.Mobile.KillSwitch
import Nebula.Mobile.ProfileOrder
import Nebula.Mobile.Versions
import Nebula.Mobile.TokenRefresh
