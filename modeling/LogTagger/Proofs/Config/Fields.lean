import LogTagger.Config.File

/-!
# The settings one by one

`Config.Field` names each setting of a configuration, by the kind of its values: where it stands in a
configuration file (`Field.path`), how its value is read there (`Field.read`) and which part of a
configuration it is (`Field.get`). A configuration is what its settings are (`Config.ext_get`).

**`get_of_ofToml?`**: a file gives each setting the value that stands at its place, or leaves it at its
default if nothing does.
-/

namespace LogTagger

/-! ### Places in a file -/

namespace Toml

/-- What stands under a name in a section whose settings have the given names. -/
def member? (names : List String) (name : String) (v : Toml) : Option Toml :=
  (v.slots? names).bind (SortedMap.lookup name)

/-- What stands at a place: each step of it goes under a name, among the names that there are. -/
def find? : List (List String × String) → Toml → Option Toml
  | [], v => some v
  | (names, name) :: rest, v => (v.member? names name).bind (find? rest)

variable {α : Type}

/-- The value that stands at a place. -/
def valueAt? (path : List (List String × String)) (read : Toml → Option α) (v : Toml) : Option α :=
  (v.find? path).bind read

theorem valueAt?_nil (read : Toml → Option α) (v : Toml) : v.valueAt? [] read = read v := rfl

theorem valueAt?_cons (names : List String) (name : String) (rest : List (List String × String))
    (read : Toml → Option α) (v : Toml) :
    v.valueAt? ((names, name) :: rest) read = (v.member? names name).bind (valueAt? rest read) := by
  rw [valueAt?, find?, Option.bind_assoc]
  rfl

/-- A part of what is read from under a name is what stands further on, and the part of the default if nothing is
under the name. -/
theorem get_of_fieldOr {β : Type} (get : β → α) {slots : List (String × Toml)} {names : List String} {name : String}
    {v : Toml} {rest : List (List String × String)} {readAll : Toml → Option β} {read : Toml → Option α} {b d : β}
    (hslots : v.slots? names = some slots) (h : fieldOr slots name readAll d = some b)
    (hpart : ∀ w b', readAll w = some b' → get b' = (w.valueAt? rest read).getD (get d)) :
    get b = (v.valueAt? ((names, name) :: rest) read).getD (get d) := by
  rw [valueAt?_cons, member?, hslots, Option.bind_some]
  rw [fieldOr] at h
  cases hlookup : SortedMap.lookup name slots with
  | none =>
    rw [hlookup] at h
    cases h
    rfl
  | some w =>
    rw [hlookup] at h
    exact hpart w b h

/-- What is read from under a name is what stands there. -/
theorem eq_of_fieldOr {slots : List (String × Toml)} {names : List String} {name : String} {v : Toml}
    {read : Toml → Option α} {a d : α} (hslots : v.slots? names = some slots) (h : fieldOr slots name read d = some a) :
    a = (v.valueAt? [(names, name)] read).getD d := by
  refine get_of_fieldOr id hslots h fun w a' ha' => ?_
  rw [valueAt?_nil, ha']
  rfl

end Toml

/-! ### Settings -/

namespace Config

/-- The settings, by the kind of their values. -/
inductive Field : Type → Type where
  /-- The least severity that is logged. -/
  | logLevel : Field String
  /-- The format of the log. -/
  | logFormat : Field String
  /-- The socket of the Docker daemon. -/
  | dockerSocket : Field String
  /-- The seconds between two synchronisations. -/
  | refreshIntervalSecs : Field UInt64
  /-- The seconds that a fetch may take. -/
  | fetchTimeoutSecs : Field UInt64
  /-- The greatest size of a document. -/
  | maxDocumentBytes : Field UInt64
  /-- Whether container events start a synchronisation. -/
  | watchEvents : Field Bool
  /-- The attributes in which a container id is sought. -/
  | containerIdSources : Field (List String)
  /-- The patterns of the attributes that are written. -/
  | attributes : Field (List String)
  /-- How documents are flattened. -/
  | flattenMode : Field FlattenMode
  /-- How their keys are named. -/
  | keyNaming : Field KeyNaming
  /-- Whether metrics are served. -/
  | metricsEnabled : Field Bool
  /-- The address at which they are served. -/
  | listenAddr : Field String
  /-- The port at which they are served. -/
  | port : Field UInt16

namespace Field

variable {α : Type}

/-- The value of a setting. -/
def get : Field α → Config → α
  | logLevel, c => c.general.logLevel
  | logFormat, c => c.general.logFormat
  | dockerSocket, c => c.metadata.dockerSocket
  | refreshIntervalSecs, c => c.metadata.refreshIntervalSecs
  | fetchTimeoutSecs, c => c.metadata.fetchTimeoutSecs
  | maxDocumentBytes, c => c.metadata.maxDocumentBytes
  | watchEvents, c => c.metadata.watchEvents
  | containerIdSources, c => c.enrichment.containerIdSources
  | attributes, c => c.enrichment.attributes
  | flattenMode, c => c.enrichment.flatten.mode
  | keyNaming, c => c.enrichment.flatten.naming
  | metricsEnabled, c => c.metrics.enabled
  | listenAddr, c => c.metrics.listenAddr
  | port, c => c.metrics.port

/-- The value that a setting has unless it is set. -/
def default (f : Field α) : α := f.get {}

/-- The names of the sections. -/
def sections : List String := ["general", "metadata", "enrichment", "metrics"]

/-- The names of the general settings. -/
def generalNames : List String := ["log_level", "log_format"]

/-- The names of the settings of the metadata source. -/
def metadataNames : List String :=
  ["docker_socket", "refresh_interval_secs", "fetch_timeout_secs", "max_document_bytes", "watch_events"]

/-- The names of the settings of the enrichment. -/
def enrichmentNames : List String := ["container_id_sources", "attributes", "flatten"]

/-- The names of the settings of flattening. -/
def flattenNames : List String := ["mode", "key_naming"]

/-- The names of the settings of the metrics listener. -/
def metricsNames : List String := ["enabled", "listen_addr", "port"]

/-- The place of a setting in a configuration file: the section and the name in it, each among the names that there
are. -/
def path : Field α → List (List String × String)
  | logLevel => [(sections, "general"), (generalNames, "log_level")]
  | logFormat => [(sections, "general"), (generalNames, "log_format")]
  | dockerSocket => [(sections, "metadata"), (metadataNames, "docker_socket")]
  | refreshIntervalSecs => [(sections, "metadata"), (metadataNames, "refresh_interval_secs")]
  | fetchTimeoutSecs => [(sections, "metadata"), (metadataNames, "fetch_timeout_secs")]
  | maxDocumentBytes => [(sections, "metadata"), (metadataNames, "max_document_bytes")]
  | watchEvents => [(sections, "metadata"), (metadataNames, "watch_events")]
  | containerIdSources => [(sections, "enrichment"), (enrichmentNames, "container_id_sources")]
  | attributes => [(sections, "enrichment"), (enrichmentNames, "attributes")]
  | flattenMode => [(sections, "enrichment"), (enrichmentNames, "flatten"), (flattenNames, "mode")]
  | keyNaming => [(sections, "enrichment"), (enrichmentNames, "flatten"), (flattenNames, "key_naming")]
  | metricsEnabled => [(sections, "metrics"), (metricsNames, "enabled")]
  | listenAddr => [(sections, "metrics"), (metricsNames, "listen_addr")]
  | port => [(sections, "metrics"), (metricsNames, "port")]

/-- How the value of a setting is read. -/
def read : Field α → Toml → Option α
  | logLevel | logFormat | dockerSocket | listenAddr => Toml.text?
  | refreshIntervalSecs | fetchTimeoutSecs | maxDocumentBytes => Toml.uint64?
  | watchEvents | metricsEnabled => Toml.bool?
  | containerIdSources | attributes => Toml.texts?
  | flattenMode => Toml.choice? [("generic", FlattenMode.generic), ("ecs", .ecs)]
  | keyNaming => Toml.choice? [("dotted", KeyNaming.dotted), ("literal", .literal)]
  | port => Toml.uint16?

/-- The value that a file gives a setting. -/
def inFile (f : Field α) (root : Toml) : Option α := root.valueAt? f.path f.read

end Field

/-- A configuration is what its settings are. -/
theorem ext_get {c c' : Config} (h : ∀ (α : Type) (f : Field α), f.get c = f.get c') : c = c' := by
  obtain ⟨⟨level, format⟩, ⟨socket, refresh, timeout, bytes, events⟩, ⟨sources, attributes, ⟨mode, naming⟩⟩,
    ⟨enabled, addr, port⟩⟩ := c
  obtain ⟨⟨level', format'⟩, ⟨socket', refresh', timeout', bytes', events'⟩, ⟨sources', attributes', ⟨mode', naming'⟩⟩,
    ⟨enabled', addr', port'⟩⟩ := c'
  obtain rfl : level = level' := h _ .logLevel
  obtain rfl : format = format' := h _ .logFormat
  obtain rfl : socket = socket' := h _ .dockerSocket
  obtain rfl : refresh = refresh' := h _ .refreshIntervalSecs
  obtain rfl : timeout = timeout' := h _ .fetchTimeoutSecs
  obtain rfl : bytes = bytes' := h _ .maxDocumentBytes
  obtain rfl : events = events' := h _ .watchEvents
  obtain rfl : sources = sources' := h _ .containerIdSources
  obtain rfl : attributes = attributes' := h _ .attributes
  obtain rfl : mode = mode' := h _ .flattenMode
  obtain rfl : naming = naming' := h _ .keyNaming
  obtain rfl : enabled = enabled' := h _ .metricsEnabled
  obtain rfl : addr = addr' := h _ .listenAddr
  obtain rfl : port = port' := h _ .port
  rfl

end Config

/-! ### Reading the sections -/

open Config.Field (sections generalNames metadataNames enrichmentNames flattenNames metricsNames)

section Sections

variable {v : Toml}

theorem GeneralSettings.of_ofToml? {s : GeneralSettings} (h : ofToml? v = some s) :
    s.logLevel = (v.valueAt? [(generalNames, "log_level")] Toml.text?).getD "info" ∧
      s.logFormat = (v.valueAt? [(generalNames, "log_format")] Toml.text?).getD "json" := by
  obtain ⟨slots, hslots, h⟩ := Option.bind_eq_some_iff.mp h
  obtain ⟨level, hlevel, h⟩ := Option.bind_eq_some_iff.mp h
  obtain ⟨format, hformat, h⟩ := Option.bind_eq_some_iff.mp h
  cases h
  exact ⟨Toml.eq_of_fieldOr hslots hlevel, Toml.eq_of_fieldOr hslots hformat⟩

theorem SourceSettings.of_ofToml? {s : SourceSettings} (h : ofToml? v = some s) :
    s.dockerSocket = (v.valueAt? [(metadataNames, "docker_socket")] Toml.text?).getD "" ∧
      s.refreshIntervalSecs = (v.valueAt? [(metadataNames, "refresh_interval_secs")] Toml.uint64?).getD 60 ∧
      s.fetchTimeoutSecs = (v.valueAt? [(metadataNames, "fetch_timeout_secs")] Toml.uint64?).getD 5 ∧
      s.maxDocumentBytes = (v.valueAt? [(metadataNames, "max_document_bytes")] Toml.uint64?).getD 1048576 ∧
      s.watchEvents = (v.valueAt? [(metadataNames, "watch_events")] Toml.bool?).getD true := by
  obtain ⟨slots, hslots, h⟩ := Option.bind_eq_some_iff.mp h
  obtain ⟨socket, hsocket, h⟩ := Option.bind_eq_some_iff.mp h
  obtain ⟨refresh, hrefresh, h⟩ := Option.bind_eq_some_iff.mp h
  obtain ⟨timeout, htimeout, h⟩ := Option.bind_eq_some_iff.mp h
  obtain ⟨bytes, hbytes, h⟩ := Option.bind_eq_some_iff.mp h
  obtain ⟨events, hevents, h⟩ := Option.bind_eq_some_iff.mp h
  cases h
  exact ⟨Toml.eq_of_fieldOr hslots hsocket, Toml.eq_of_fieldOr hslots hrefresh, Toml.eq_of_fieldOr hslots htimeout,
    Toml.eq_of_fieldOr hslots hbytes, Toml.eq_of_fieldOr hslots hevents⟩

theorem Flattener.of_ofToml? {f : Flattener} (h : ofToml? v = some f) :
    f.mode = (v.valueAt? [(flattenNames, "mode")] Config.Field.flattenMode.read).getD .generic ∧
      f.naming = (v.valueAt? [(flattenNames, "key_naming")] Config.Field.keyNaming.read).getD .dotted := by
  obtain ⟨slots, hslots, h⟩ := Option.bind_eq_some_iff.mp h
  obtain ⟨mode, hmode, h⟩ := Option.bind_eq_some_iff.mp h
  obtain ⟨naming, hnaming, h⟩ := Option.bind_eq_some_iff.mp h
  cases h
  exact ⟨Toml.eq_of_fieldOr hslots hmode, Toml.eq_of_fieldOr hslots hnaming⟩

theorem EnrichmentSettings.of_ofToml? {s : EnrichmentSettings} (h : ofToml? v = some s) :
    s.containerIdSources = (v.valueAt? [(enrichmentNames, "container_id_sources")] Toml.texts?).getD defaultSources ∧
      s.attributes = (v.valueAt? [(enrichmentNames, "attributes")] Toml.texts?).getD defaultPatterns ∧
      s.flatten.mode = (v.valueAt? [(enrichmentNames, "flatten"), (flattenNames, "mode")]
        Config.Field.flattenMode.read).getD .generic ∧
      s.flatten.naming = (v.valueAt? [(enrichmentNames, "flatten"), (flattenNames, "key_naming")]
        Config.Field.keyNaming.read).getD .dotted := by
  obtain ⟨slots, hslots, h⟩ := Option.bind_eq_some_iff.mp h
  obtain ⟨sources, hsources, h⟩ := Option.bind_eq_some_iff.mp h
  obtain ⟨attributes, hattributes, h⟩ := Option.bind_eq_some_iff.mp h
  obtain ⟨flatten, hflatten, h⟩ := Option.bind_eq_some_iff.mp h
  cases h
  exact ⟨Toml.eq_of_fieldOr hslots hsources, Toml.eq_of_fieldOr hslots hattributes,
    Toml.get_of_fieldOr Flattener.mode hslots hflatten fun _ _ hf => (Flattener.of_ofToml? hf).1,
    Toml.get_of_fieldOr Flattener.naming hslots hflatten fun _ _ hf => (Flattener.of_ofToml? hf).2⟩

theorem MetricsSettings.of_ofToml? {s : MetricsSettings} (h : ofToml? v = some s) :
    s.enabled = (v.valueAt? [(metricsNames, "enabled")] Toml.bool?).getD false ∧
      s.listenAddr = (v.valueAt? [(metricsNames, "listen_addr")] Toml.text?).getD "127.0.0.1" ∧
      s.port = (v.valueAt? [(metricsNames, "port")] Toml.uint16?).getD 9464 := by
  obtain ⟨slots, hslots, h⟩ := Option.bind_eq_some_iff.mp h
  obtain ⟨enabled, henabled, h⟩ := Option.bind_eq_some_iff.mp h
  obtain ⟨addr, haddr, h⟩ := Option.bind_eq_some_iff.mp h
  obtain ⟨port, hport, h⟩ := Option.bind_eq_some_iff.mp h
  cases h
  exact ⟨Toml.eq_of_fieldOr hslots henabled, Toml.eq_of_fieldOr hslots haddr, Toml.eq_of_fieldOr hslots hport⟩

/-- **Each setting is what the file says**, or its default. -/
theorem Config.get_of_ofToml? {c : Config} (h : ofToml? v = some c) {α : Type} (f : Field α) :
    f.get c = (f.inFile v).getD f.default := by
  obtain ⟨slots, hslots, h⟩ := Option.bind_eq_some_iff.mp h
  obtain ⟨general, hgeneral, h⟩ := Option.bind_eq_some_iff.mp h
  obtain ⟨metadata, hmetadata, h⟩ := Option.bind_eq_some_iff.mp h
  obtain ⟨enrichment, henrichment, h⟩ := Option.bind_eq_some_iff.mp h
  obtain ⟨metrics, hmetrics, h⟩ := Option.bind_eq_some_iff.mp h
  cases h
  cases f with
  | logLevel =>
    exact Toml.get_of_fieldOr GeneralSettings.logLevel hslots hgeneral fun _ _ hs => (GeneralSettings.of_ofToml? hs).1
  | logFormat =>
    exact Toml.get_of_fieldOr GeneralSettings.logFormat hslots hgeneral fun _ _ hs => (GeneralSettings.of_ofToml? hs).2
  | dockerSocket =>
    exact Toml.get_of_fieldOr SourceSettings.dockerSocket hslots hmetadata
      fun _ _ hs => (SourceSettings.of_ofToml? hs).1
  | refreshIntervalSecs =>
    exact Toml.get_of_fieldOr SourceSettings.refreshIntervalSecs hslots hmetadata
      fun _ _ hs => (SourceSettings.of_ofToml? hs).2.1
  | fetchTimeoutSecs =>
    exact Toml.get_of_fieldOr SourceSettings.fetchTimeoutSecs hslots hmetadata
      fun _ _ hs => (SourceSettings.of_ofToml? hs).2.2.1
  | maxDocumentBytes =>
    exact Toml.get_of_fieldOr SourceSettings.maxDocumentBytes hslots hmetadata
      fun _ _ hs => (SourceSettings.of_ofToml? hs).2.2.2.1
  | watchEvents =>
    exact Toml.get_of_fieldOr SourceSettings.watchEvents hslots hmetadata
      fun _ _ hs => (SourceSettings.of_ofToml? hs).2.2.2.2
  | containerIdSources =>
    exact Toml.get_of_fieldOr EnrichmentSettings.containerIdSources hslots henrichment
      fun _ _ hs => (EnrichmentSettings.of_ofToml? hs).1
  | attributes =>
    exact Toml.get_of_fieldOr EnrichmentSettings.attributes hslots henrichment
      fun _ _ hs => (EnrichmentSettings.of_ofToml? hs).2.1
  | flattenMode =>
    exact Toml.get_of_fieldOr (fun s : EnrichmentSettings => s.flatten.mode) hslots henrichment
      fun _ _ hs => (EnrichmentSettings.of_ofToml? hs).2.2.1
  | keyNaming =>
    exact Toml.get_of_fieldOr (fun s : EnrichmentSettings => s.flatten.naming) hslots henrichment
      fun _ _ hs => (EnrichmentSettings.of_ofToml? hs).2.2.2
  | metricsEnabled =>
    exact Toml.get_of_fieldOr MetricsSettings.enabled hslots hmetrics fun _ _ hs => (MetricsSettings.of_ofToml? hs).1
  | listenAddr =>
    exact Toml.get_of_fieldOr MetricsSettings.listenAddr hslots hmetrics
      fun _ _ hs => (MetricsSettings.of_ofToml? hs).2.1
  | port =>
    exact Toml.get_of_fieldOr MetricsSettings.port hslots hmetrics fun _ _ hs => (MetricsSettings.of_ofToml? hs).2.2

end Sections

end LogTagger
