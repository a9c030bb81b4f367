import ChainProvision.Follow.Poller
import ChainProvision.Identity.Wei
import ChainProvision.Number.Word

/-!
# Deployment settings

What does not change between attempts: contract, blueprint, jobs, event names and times.
-/

namespace ChainProvision

/-- The names of the contract's events by which deployments are recognised. -/
structure EventNames where
  /-- Emitted when a job is submitted; its key is the call. -/
  jobSubmitted : String := "JobSubmitted"
  /-- Emitted when a service is requested; its key is the request. -/
  serviceRequested : String := "ServiceRequested"
  /-- Emitted when a requested service is there; its key is the request. -/
  serviceInitialized : String := "ServiceInitialized"
  deriving DecidableEq, Repr

/-- What does not change between attempts. -/
structure Settings where
  contract : Address
  blueprint : BlueprintId
  /-- The shared service that sandboxes are made on. -/
  sandboxService : ServiceId
  sandboxJob : Word8 := .ofNat 0
  instanceJob : Word8 := .ofNat 0
  /-- The value attached to jobs. -/
  jobValue : Wei := Wei.zero
  ttlBlocks : Word64 := .ofNat 0
  events : EventNames := {}
  pollInterval : Span := defaultPollInterval
  /-- The longest wait for a resource; none waits for ever. -/
  provisionTimeout : Option Span := none
  deriving DecidableEq

end ChainProvision
