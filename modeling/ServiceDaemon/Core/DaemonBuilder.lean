/-
Purpose: How the policies of a trigger generation are chosen: the configuration
  overrides a daemon is built with, and the priority chain of the default
  `run_as_service`.
Main exports: TriggerConfigs, ServiceDaemonBuilder, DaemonSettings
-/
import ServiceDaemon.Core.EventLoop

namespace ServiceDaemon

open AsyncLib

/-!
The overrides live in a map keyed by type, which holds at most one value for
each type.  The framework reads two of its slots; values of any other type are
for custom hosts.  A template declares its own scaling policy with
`scaling_policy()`, which is `None` unless the template overrides it.

[SRC core/service_daemon/builder.rs]
[SRC models/trigger.rs, core/context/api.rs]
-/

/-- A value passed to `with_trigger_config`. -/
inductive TriggerConfig where
  | scaling (policy : ScalingPolicy)
  | restart (policy : RestartPolicy)
  | other (typeId : Nat)

/-- The map from types to configuration values. -/
structure TriggerConfigs where
  scaling : Option ScalingPolicy
  restart : Option RestartPolicy
  others : List Nat

namespace TriggerConfigs

def empty : TriggerConfigs :=
  { scaling := none, restart := none, others := [] }

/-- `insert`: a second value of a type replaces the first. -/
def insert (configs : TriggerConfigs) : TriggerConfig → TriggerConfigs
  | .scaling policy => { configs with scaling := some policy }
  | .restart policy => { configs with restart := some policy }
  | .other typeId =>
    { configs with others := typeId :: configs.others.erase typeId }

/-- Insert every entry of `entries`, whose keys are distinct. -/
def extend (configs entries : TriggerConfigs) : TriggerConfigs :=
  { scaling := entries.scaling.or configs.scaling
    restart := entries.restart.or configs.restart
    others :=
      entries.others ++
        configs.others.filter fun typeId => typeId ∉ entries.others }

end TriggerConfigs

/-- The fields of `ServiceDaemonBuilder` that reach a trigger runner. -/
structure ServiceDaemonBuilder where
  restartPolicy : RestartPolicy
  triggerConfigs : TriggerConfigs

namespace ServiceDaemonBuilder

def new : ServiceDaemonBuilder :=
  { restartPolicy := .default, triggerConfigs := .empty }

def withRestartPolicy (builder : ServiceDaemonBuilder)
    (policy : RestartPolicy) : ServiceDaemonBuilder :=
  { builder with restartPolicy := policy }

def withTriggerConfig (builder : ServiceDaemonBuilder)
    (config : TriggerConfig) : ServiceDaemonBuilder :=
  { builder with triggerConfigs := builder.triggerConfigs.insert config }

/-- `build`, as far as the shared `trigger_configs` are concerned: the restart
policy of the daemon first, then the overrides. -/
def build (builder : ServiceDaemonBuilder) : TriggerConfigs :=
  (TriggerConfigs.empty.insert (.restart builder.restartPolicy)).extend
    builder.triggerConfigs

@[simp] theorem build_scaling (builder : ServiceDaemonBuilder) :
    builder.build.scaling = builder.triggerConfigs.scaling := by
  simp [build, TriggerConfigs.extend, TriggerConfigs.insert, TriggerConfigs.empty]

end ServiceDaemonBuilder

/-! ### Isolated startups -/

structure NonZeroUsize where
  get : Usize
  nonzero : get.val ≠ 0

/-- The builder together with its bound on isolated startups, which reaches no
trigger runner. -/
structure DaemonSettings where
  builder : ServiceDaemonBuilder
  isolatedStartupConcurrencyLimit : Usize

namespace DaemonSettings

/-- `ServiceDaemonBuilder::new`; `ISOLATED_STARTUP_CONCURRENCY_LIMIT` is
four. -/
def new : DaemonSettings :=
  { builder := .new, isolatedStartupConcurrencyLimit := 4 }

def withIsolatedStartupConcurrencyLimit (settings : DaemonSettings)
    (limit : NonZeroUsize) : DaemonSettings :=
  { settings with isolatedStartupConcurrencyLimit := limit.get }

/-- The semaphore that `build` creates for isolated startups. -/
def isolatedStartupPermits (settings : DaemonSettings) : Semaphore Nat :=
  Semaphore.new settings.isolatedStartupConcurrencyLimit.val

end DaemonSettings

/-! ### The runner of a trigger -/

/-- The runner that the default `run_as_service` constructs inside a daemon
with the given configuration.  `declared` is what `scaling_policy()` of the
host returns. -/
def runAsService (configs : TriggerConfigs) (declared : Option ScalingPolicy)
    (name : String) (serviceId : ServiceId) (generation : Nat) :
    RunnerConfig :=
  { name := name
    serviceId := serviceId
    generation := generation
    base :=
      { restartPolicy := configs.restart.getD .default
        -- user override > template declaration > none
        scaling := configs.scaling.or declared }
    inDaemon := true
    hasDiagnostics := true }

end ServiceDaemon
