import ChainProvision.Deployment.Settings
import ChainProvision.Number.Word
import ChainProvision.Operator.Endpoint
import ChainProvision.Setup.Failure
import ChainProvision.Yaml.Fields

/-!
# The configuration file

What a user configures: where the operator is, which contract and services to use, and how long to wait.
Most of it has defaults.

## Main definitions

* `Config`: what is configured;
* `Config.read`: the configuration that a YAML text gives;
* `Config.settings`, `Config.endpoint`: what deployments and the operator's client make of it.
-/

namespace ChainProvision

/-- The jobs of the services contract that make resources. -/
structure Jobs where
  createSandbox : Word8 := .ofNat 0
  createInstance : Word8 := .ofNat 1
  deriving DecidableEq

/-- What a user configures. -/
structure Config where
  /-- The URL of the operator's API as written. -/
  operatorApi : String
  pollInterval : Span := defaultPollInterval
  provisionTimeout : Option Span := none
  contract : Address
  blueprint : BlueprintId
  sandboxService : ServiceId
  jobs : Jobs := {}
  jobValue : Wei := Wei.zero
  ttlBlocks : Word64 := .ofNat 0
  /-- The names of events as written. -/
  events : EventNames := {}
  deriving DecidableEq

/-! ## Reading -/

/-- The contracts that a node gives, of which there is one. -/
def Config.contractOfYaml (n : Yaml.Node) : Yaml.Reading Address := do
  let fs ← Yaml.fieldsOf [.of "services" Address.ofYaml] n
  Yaml.required fs "services" Address.ofYaml

/-- The jobs that a node gives. -/
def Jobs.ofYaml (n : Yaml.Node) : Yaml.Reading Jobs := do
  let fs ← Yaml.fieldsOf
    [.of "create_sandbox" (Yaml.asNatural 256), .of "create_instance" (Yaml.asNatural 256)] n
  let usual : Jobs := {}
  return {
    createSandbox := ← Yaml.defaulted fs "create_sandbox" usual.createSandbox (Yaml.asNatural 256)
    createInstance := ← Yaml.defaulted fs "create_instance" usual.createInstance (Yaml.asNatural 256) }

/-- The names of events that a node gives. -/
def EventNames.ofYaml (n : Yaml.Node) : Yaml.Reading EventNames := do
  let fs ← Yaml.fieldsOf
    [.of "job_submitted" Yaml.asText, .of "service_requested" Yaml.asText,
      .of "service_initialized" Yaml.asText] n
  let usual : EventNames := {}
  return {
    jobSubmitted := ← Yaml.defaulted fs "job_submitted" usual.jobSubmitted Yaml.asText
    serviceRequested := ← Yaml.defaulted fs "service_requested" usual.serviceRequested Yaml.asText
    serviceInitialized := ← Yaml.defaulted fs "service_initialized" usual.serviceInitialized Yaml.asText }

namespace Config

/-- The fields of a configuration. -/
def fields : List Yaml.Field := [
  .of "operator_api" Yaml.asText,
  .of "poll_interval" Yaml.asSpan,
  .of "provision_timeout" (Yaml.asOption Yaml.asSpan),
  .of "contracts" contractOfYaml,
  .of "blueprint_id" (Id.ofYaml .blueprint),
  .of "sandbox_service_id" (Id.ofYaml .service),
  .of "jobs" Jobs.ofYaml,
  .of "job_value" Wei.ofYaml,
  .of "ttl_blocks" (Yaml.asNatural UInt64.size),
  .of "events" EventNames.ofYaml]

/-- The configuration that a node gives. -/
def ofYaml (n : Yaml.Node) : Yaml.Reading Config := do
  let fs ← Yaml.fieldsOf fields n
  return {
    operatorApi := ← Yaml.required fs "operator_api" Yaml.asText
    pollInterval := ← Yaml.defaulted fs "poll_interval" defaultPollInterval Yaml.asSpan
    provisionTimeout := ← Yaml.defaulted fs "provision_timeout" none (Yaml.asOption Yaml.asSpan)
    contract := ← Yaml.required fs "contracts" contractOfYaml
    blueprint := ← Yaml.required fs "blueprint_id" (Id.ofYaml .blueprint)
    sandboxService := ← Yaml.required fs "sandbox_service_id" (Id.ofYaml .service)
    jobs := ← Yaml.defaulted fs "jobs" {} Jobs.ofYaml
    jobValue := ← Yaml.defaulted fs "job_value" Wei.zero Wei.ofYaml
    ttlBlocks := ← Yaml.defaulted fs "ttl_blocks" (Word64.ofNat 0) (Yaml.asNatural UInt64.size)
    events := ← Yaml.defaulted fs "events" {} EventNames.ofYaml }

/-- The first fault of a configuration that could be read. -/
def fault? (c : Config) : Option ConfigFault :=
  if c.pollInterval.isZero then some .pollInterval
  else if c.provisionTimeout.any Span.isZero then some .provisionTimeout
  else if [c.events.jobSubmitted, c.events.serviceRequested, c.events.serviceInitialized].any
      Text.isBlankText then some .eventNames
  else none

/-- The configuration that a YAML text gives. -/
def read (text : String) : Except SetupError Config :=
  match Yaml.decode ofYaml text with
  | .error fault => .error (.yaml fault)
  | .ok c =>
    match c.fault? with
    | some fault => .error (.invalid fault)
    | none => .ok c

/-! ## Use -/

/-- Where the configured operator is reached. -/
def endpoint (c : Config) : Except FetchError Endpoint := Endpoint.read c.operatorApi

/-- The settings of deployments under a configuration. -/
def settings (c : Config) : Settings :=
  { contract := c.contract
    blueprint := c.blueprint
    sandboxService := c.sandboxService
    sandboxJob := c.jobs.createSandbox
    instanceJob := c.jobs.createInstance
    jobValue := c.jobValue
    ttlBlocks := c.ttlBlocks
    events := {
      jobSubmitted := Text.trim c.events.jobSubmitted
      serviceRequested := Text.trim c.events.serviceRequested
      serviceInitialized := Text.trim c.events.serviceInitialized }
    pollInterval := c.pollInterval
    provisionTimeout := c.provisionTimeout }

end Config

end ChainProvision
