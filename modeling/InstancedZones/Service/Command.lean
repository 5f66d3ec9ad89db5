import InstancedZones.Registry.Lifecycle
import InstancedZones.Ticker

/-!
# What can be asked of the service

Every command has a reply of its own kind, unless the operation declines or the
service has stopped.
-/

namespace InstancedZones

/-- Why a request to the service has no answer of its own. -/
inductive ServiceFault
  /-- The service has stopped. -/
  | unavailable
  /-- The operation declined. -/
  | refused (refusal : Refusal)
deriving DecidableEq, Repr

namespace ServiceFault

/-- The wording of the fault. -/
def message : ServiceFault → String
  | .unavailable => "instance service is unavailable"
  | .refused refusal => refusal.message

/-- The wording of the fault, and of the errors that led to it. -/
def chain : ServiceFault → List String
  | .unavailable => [unavailable.message]
  | .refused refusal => refusal.chain

/-- The refusal, if the operation was reached. -/
def refusal? : ServiceFault → Option Refusal
  | .unavailable => none
  | .refused refusal => some refusal

end ServiceFault

/-- What can be asked of the service. -/
inductive Command
  /-- Open an instance. -/
  | create (blueprint : Blueprint)
  /-- Let a player into an instance. -/
  | bindPlayer (player : PlayerId) (id : InstanceId)
  /-- Let a party into an instance. -/
  | bindParty (leader : PlayerId) (id : InstanceId)
  /-- Teleport a player into an instance. -/
  | teleportInto (id : InstanceId) (player : PlayerId)
  /-- Close an instance. -/
  | close (id : InstanceId) (reason : String)
  /-- Take a player out. -/
  | playerLeave (player : PlayerId)
  /-- Ask whether a player is in an instance. -/
  | isPlayerBound (player : PlayerId) (id : InstanceId)
  /-- List the open instances. -/
  | list
  /-- Pause the sweep. -/
  | pauseSweep
  /-- Resume the sweep. -/
  | resumeSweep
  /-- Ask what has been counted of the sweep. -/
  | sweepMetrics
  /-- Close everything and stop. -/
  | shutdown
deriving DecidableEq

/-- What the service replies. -/
inductive Reply
  /-- An instance was opened. -/
  | created (id : InstanceId)
  /-- It is done. -/
  | done
  /-- An instance was closed. -/
  | closed (report : CloseReport)
  /-- Yes or no. -/
  | answer (value : Bool)
  /-- The open instances. -/
  | listing (summaries : List InstanceSummary)
  /-- What has been counted. -/
  | metrics (value : TickerMetrics)
  /-- The instances that were closed at the end. -/
  | reports (value : List CloseReport)
deriving DecidableEq

end InstancedZones
