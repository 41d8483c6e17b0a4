import Meshquill.Error
import Meshquill.Store.Disk

/-!
# Command failures

`ExitStatus` of `output.rs` and `CliError` of `error.rs`, with the conversion of the errors of the
client and of the store. The status of a converted error is what later code branches on; its
texts are what the user sees.
-/
namespace Meshquill

open Store (PathBuf StoreError)

inductive ExitStatus where
  | success
  | usage
  | configuration
  | discovery
  | connection
  | protocol
  | timeout
  | authentication
  | denied
  | notFound
  | hook
  | mqtt
  | interrupted
deriving DecidableEq

structure CliError where
  status : ExitStatus
  message : String
  hint : Option String := none
deriving DecidableEq

namespace CliError

def withHint (hint : String) (error : CliError) : CliError := { error with hint := some hint }

/-- `From<CoreError>`. -/
def ofCore : CoreError → CliError
  | .timeout | .transport .timeout =>
    { status := .timeout, message := "the bounded device operation timed out"
      hint := some "Check the selected profile and try a longer configured timeout." }
  | .transport .notConnected | .transport .closed | .transport .reconnectUnsupported
  | .transport (.reconnectFailed _) | .disconnected | .actorStopped =>
    { status := .connection, message := "the companion connection is unavailable"
      hint := some "Check the profile endpoint and whether another application owns it." }
  | .transport (.io _ _) =>
    { status := .connection
      message := "transport I/O failed while communicating with the companion"
      hint := some "Check device presence, endpoint reachability, and OS access." }
  | .transport (.backpressure queue capacity) =>
    { status := .protocol
      message := "bounded transport queue '" ++ queue ++ "' is full (capacity " ++
        toString capacity ++ ")" }
  | .transport (.payloadTooLarge maximum actual) =>
    { status := .usage
      message := "payload is " ++ toString actual ++ " bytes; the transport maximum is " ++
        toString maximum }
  | .parse _ | .protocolInvariant _ | .invalidUtf8 _ =>
    { status := .protocol
      message := "the companion returned data that violates the supported protocol"
      hint := some "Run `meshquill doctor --connect` and check firmware compatibility." }
  | .invalidArgument field message =>
    { status := .usage, message := "invalid " ++ field ++ ": " ++ message }
  | .deviceRejected operation code =>
    { status := .denied
      message := "the companion rejected " ++ operation ++ " (code " ++
        code.elim "unspecified" toString ++ ")" }
  | .featureDisabled feature =>
    { status := .denied, message := "the companion reports that " ++ feature ++ " is disabled" }
  | .authenticationFailed =>
    { status := .authentication, message := "remote authentication failed"
      hint := some "Verify the target and credential source before retrying." }

/-- `Path::display`; the root is an empty component. -/
def displayPath (path : PathBuf) : String := "/".intercalate path

/-- `From<StoreError>`. -/
def ofStore : StoreError → CliError
  | .parse path _ =>
    { status := .configuration
      message := "configuration at " ++ displayPath path ++ " is malformed"
      hint := some "Run `meshquill config repair` to create a backup and recover defaults." }
  | .unsupportedVersion version =>
    { status := .configuration
      message := "configuration schema version " ++ toString version.toNat ++ " is unsupported"
      hint := some "Upgrade Meshquill or restore a compatible configuration backup." }
  | .validation field message =>
    { status := .configuration
      message := "invalid configuration field " ++ field ++ ": " ++ message }
  | .lockTimeout path =>
    { status := .configuration
      message := "another process is still updating " ++ displayPath path
      hint := some "Wait for the other Meshquill process to finish, then retry." }
  | .promptRequired =>
    { status := .authentication, message := "a credential requires an interactive prompt" }
  | .secretUnavailable backend _ =>
    { status := .authentication
      message := "credential resolution through " ++ backend ++ " failed" }
  | .io _ | .atomicRename _ _ | .serde _ =>
    { status := .configuration, message := "configuration could not be read or written safely"
      hint := some "Check the selected path and its directory permissions." }

end CliError

end Meshquill
