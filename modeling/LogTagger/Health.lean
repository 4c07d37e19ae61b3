import LogTagger.Json.Basic

/-!
# Health

The health of a component, and of the daemon as the worst health of its enabled modules. Of the
modules with the worst health every one is named with its reason, in their order.
-/

namespace LogTagger

/-- The health of a component. -/
inductive HealthStatus where
  /-- All is well. -/
  | healthy
  /-- It works, but not as it should. -/
  | degraded (reason : String)
  /-- It does not work. -/
  | unhealthy (reason : String)
  deriving DecidableEq

namespace HealthStatus

/-- The wording of a health. -/
def text : HealthStatus → String
  | .healthy => "healthy"
  | .degraded reason => "degraded: " ++ reason
  | .unhealthy reason => "unhealthy: " ++ reason

/-- Whether all is well. -/
def isHealthy : HealthStatus → Bool
  | .healthy => true
  | _ => false

/-- Whether the component does not work. -/
def isUnhealthy : HealthStatus → Bool
  | .unhealthy _ => true
  | _ => false

/-- How bad a health is. -/
def severity : HealthStatus → Nat
  | .healthy => 0
  | .degraded _ => 1
  | .unhealthy _ => 2

/-- The reason for a health other than the best. -/
def reason : HealthStatus → String
  | .healthy => ""
  | .degraded reason => reason
  | .unhealthy reason => reason

/-- The JSON object of a health. -/
def toJson : HealthStatus → Json
  | .healthy => .object [("status", .string "healthy")]
  | .degraded reason => .object [("status", .string "degraded"), ("reason", .string reason)]
  | .unhealthy reason => .object [("status", .string "unhealthy"), ("reason", .string reason)]

end HealthStatus

/-- The health of a module of the daemon. -/
structure ModuleHealth where
  /-- The name of the module. -/
  name : String
  /-- Whether the module counts. -/
  enabled : Bool := true
  /-- Its health. -/
  status : HealthStatus
  deriving DecidableEq

namespace ModuleHealth

/-- The module's name with its reason. -/
def complaint (m : ModuleHealth) : String := m.name ++ ": " ++ m.status.reason

/-- The JSON object of a module. -/
def toJson (m : ModuleHealth) : Json :=
  .object [("name", .string m.name), ("enabled", .bool m.enabled), ("status", m.status.toJson)]

end ModuleHealth

namespace HealthStatus

/-- What has been found so far: the worst severity, and the complaints of the modules that have it. -/
def worse (found : Nat × List String) (m : ModuleHealth) : Nat × List String :=
  let s := m.status.severity
  if !m.enabled || s < found.1 || s == 0 then found
  else if found.1 < s then (s, [m.complaint])
  else (s, found.2 ++ [m.complaint])

/-- The health with a severity and complaints. -/
def ofSeverity : Nat → List String → HealthStatus
  | 0, _ => .healthy
  | 1, complaints => .degraded ("; ".intercalate complaints)
  | _, complaints => .unhealthy ("; ".intercalate complaints)

/-- The worst health of the enabled modules. -/
def ofModules (modules : List ModuleHealth) : HealthStatus :=
  let found := modules.foldl worse (0, [])
  ofSeverity found.1 found.2

end HealthStatus

/-- The report on the daemon's health. -/
structure DaemonHealth where
  /-- The health of the daemon. -/
  status : HealthStatus
  /-- The seconds since it started. -/
  uptimeSecs : UInt64
  /-- The number of cached documents. -/
  cachedContainers : Nat
  /-- The modules. -/
  modules : List ModuleHealth

/-- The JSON object of a report; `uptime` chooses whether it tells the time. -/
def DaemonHealth.toJson (h : DaemonHealth) (uptime : Bool) : Json :=
  .object ([("status", h.status.toJson)] ++ (if uptime then [("uptime_secs", Json.ofUInt64 h.uptimeSecs)] else []) ++
    [("cached_containers", (Json.ofNat? h.cachedContainers).getD .null),
      ("modules", .array (h.modules.map ModuleHealth.toJson))])

end LogTagger
