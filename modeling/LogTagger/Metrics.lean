/-!
# Metrics

The counters and gauges of the program. A series is a metric with its labels; `Metrics` holds the
value of every series that has been touched, a counter raised by nothing included.
-/

namespace LogTagger

/-- What starts a synchronisation of the cache. -/
inductive SyncTrigger where
  /-- The start of the scheduler. -/
  | startup
  /-- The timer. -/
  | interval
  /-- A request. -/
  | manual
  /-- The creation of a container. -/
  | event
  deriving DecidableEq

/-- The name of a trigger. -/
def SyncTrigger.name : SyncTrigger → String
  | .startup => "startup"
  | .interval => "interval"
  | .manual => "manual"
  | .event => "event"

/-- A metric with its labels. -/
inductive Series where
  /-- The number of cached documents. -/
  | cachedContainers
  /-- Fetches that succeeded or failed. -/
  | fetches (success : Bool)
  /-- Documents that were evicted. -/
  | evictions
  /-- Synchronisations by what started them and how they ended. -/
  | syncCycles (trigger : SyncTrigger) (success : Bool)
  /-- Resources seen by the enricher. -/
  | resources
  /-- Resources that were enriched. -/
  | enriched
  /-- Resources without metadata. -/
  | cacheMisses
  /-- Attributes that were written. -/
  | attributesWritten
  /-- Values that went under another key, or else were dropped, because their key was taken. -/
  | keyCollisions (renamed : Bool)
  /-- Resources of agents. -/
  | agentTagged
  /-- One, with the version as a label. -/
  | buildInfo
  /-- The seconds since the daemon started. -/
  | uptime
  /-- Lines that could be read, or could not. -/
  | inputLines (ok : Bool)
  deriving DecidableEq

namespace Series

/-- The version of the program. -/
def version : String := "0.1.0"

/-- The name of the metric. -/
def name : Series → String
  | .cachedContainers => "dockmeta_metadata_cached_containers"
  | .fetches _ => "dockmeta_metadata_fetches_total"
  | .evictions => "dockmeta_metadata_evictions_total"
  | .syncCycles _ _ => "dockmeta_metadata_sync_cycles_total"
  | .resources => "dockmeta_enrichment_resources_total"
  | .enriched => "dockmeta_enrichment_enriched_total"
  | .cacheMisses => "dockmeta_enrichment_cache_misses_total"
  | .attributesWritten => "dockmeta_enrichment_attributes_written_total"
  | .keyCollisions _ => "dockmeta_enrichment_key_collisions_total"
  | .agentTagged => "dockmeta_enrichment_agent_tagged_total"
  | .buildInfo => "dockmeta_daemon_build_info"
  | .uptime => "dockmeta_daemon_uptime_seconds"
  | .inputLines _ => "dockmeta_daemon_input_lines_total"

/-- The labels, by name. -/
def labels : Series → List (String × String)
  | .fetches success => [("result", if success then "success" else "failure")]
  | .syncCycles trigger success => [("result", if success then "success" else "failure"), ("trigger", trigger.name)]
  | .keyCollisions renamed => [("result", if renamed then "renamed" else "dropped")]
  | .buildInfo => [("version", version)]
  | .inputLines ok => [("result", if ok then "ok" else "malformed")]
  | _ => []

/-- The name of the metric with its labels. -/
def text (s : Series) : String :=
  if s.labels.isEmpty then s.name
  else s.name ++ "\x7b" ++ ",".intercalate (s.labels.map (fun (name, value) => name ++ "=" ++ value)) ++ "\x7d"

/-- Whether the metric is a gauge; else it is a counter. -/
def isGauge : Series → Bool
  | .cachedContainers | .buildInfo | .uptime => true
  | _ => false

/-- What the metric tells. -/
def description : Series → String
  | .cachedContainers => "Number of containers with cached metadata documents"
  | .fetches _ => "Metadata document fetches by result (success, failure)"
  | .evictions => "Cached metadata entries evicted because the container disappeared"
  | .syncCycles _ _ => "Metadata synchronisation cycles by trigger and result"
  | .resources => "Resources seen by the enricher"
  | .enriched => "Resources enriched with container metadata"
  | .cacheMisses => "Resources passed through because no metadata was cached"
  | .attributesWritten => "Resource attributes written from flattened metadata"
  | .keyCollisions _ => "Flattened keys produced by more than one field path, by resolution (renamed, dropped)"
  | .agentTagged => "Resources tagged as ECS agent logs"
  | .buildInfo => "Build information (always 1)"
  | .uptime => "Daemon uptime in seconds"
  | .inputLines _ => "Input lines read by result (success, malformed)"

/-- One series of each metric, in the order in which the metrics are described. -/
def described : List Series :=
  [.cachedContainers, .fetches true, .evictions, .syncCycles .startup true, .resources, .enriched, .cacheMisses,
    .attributesWritten, .keyCollisions true, .agentTagged, .buildInfo, .uptime, .inputLines true]

end Series

/-- The value of every series that has been touched. -/
structure Metrics where
  /-- The series and their values. -/
  readings : List (Series × Nat) := []
  deriving DecidableEq

namespace Metrics

/-- The value of a series in a list of readings. -/
def find (s : Series) : List (Series × Nat) → Option Nat
  | [] => none
  | (t, n) :: rest => if s = t then some n else find s rest

/-- The readings with a series set to a value. -/
def put (s : Series) (n : Nat) : List (Series × Nat) → List (Series × Nat)
  | [] => [(s, n)]
  | (t, m) :: rest => if s = t then (s, n) :: rest else (t, m) :: put s n rest

/-- The value of a series, if it has been touched. -/
def get? (m : Metrics) (s : Series) : Option Nat := find s m.readings

/-- The value of a counter; one that has not been touched stands at zero. -/
def count (m : Metrics) (s : Series) : Nat := (m.get? s).getD 0

/-- Sets a gauge. -/
def set (m : Metrics) (s : Series) (n : Nat) : Metrics := ⟨put s n m.readings⟩

/-- Raises a counter. -/
def add (m : Metrics) (s : Series) (n : Nat) : Metrics := m.set s (m.count s + n)

theorem find_put (s t : Series) (n : Nat) (l : List (Series × Nat)) :
    find t (put s n l) = if t = s then some n else find t l := by
  induction l with
  | nil => simp [put, find]
  | cons hd tl ih =>
    obtain ⟨u, k⟩ := hd
    rw [put]
    split
    · simp only [find]; split <;> simp_all
    · simp only [find, ih]; split <;> grind

theorem get?_set (m : Metrics) (s t : Series) (n : Nat) : (m.set s n).get? t = if t = s then some n else m.get? t :=
  find_put s t n m.readings

theorem count_add (m : Metrics) (s t : Series) (n : Nat) :
    (m.add s n).count t = if t = s then m.count s + n else m.count t := by
  unfold add
  rw [count, get?_set]
  split <;> rfl

theorem count_set_of_ne (m : Metrics) {s t : Series} (n : Nat) (h : t ≠ s) : (m.set s n).count t = m.count t := by
  simp [count, get?_set, h]

end Metrics

end LogTagger
