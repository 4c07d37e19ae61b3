import LogTagger.Json.Shape

/-!
# Shapes of the daemon's answers

The forms that the Docker daemon's answers must have: events, the list of containers, the details of
a container and the message of a refusal. Few of the fields are read, but all of them are checked.
-/

namespace LogTagger.Docker

open Json (Shape)

namespace Shapes

/-- Strings by name. -/
def labels : Shape := .map .text

/-- Names without values. -/
def nameSet : Shape := .map .vacant

/-- Some strings. -/
def texts : Shape := .list .text

/-- One of some names, or no name. -/
def oneOf (names : List String) : Shape := .choice ("" :: names)

/-! ### Events -/

/-- The kinds of objects of which the daemon tells events. -/
def eventType : Shape :=
  oneOf ["builder", "config", "container", "daemon", "image", "network", "node", "plugin", "secret", "service",
    "volume"]

/-- The object of an event. -/
def actor : Shape := .partialRecord [("ID", .text), ("Attributes", labels)]

/-- An event. -/
def event : Shape :=
  .partialRecord [("Type", eventType), ("Action", .text), ("Actor", actor), ("scope", oneOf ["local", "swarm"]),
    ("time", .int64), ("timeNano", .int64)]

/-! ### Parts of containers -/

/-- A port of a container. -/
def port : Shape :=
  .record ["PrivatePort"] [("IP", .optional .text), ("PrivatePort", .uint16), ("PublicPort", .optional .uint16),
    ("Type", .optional (oneOf ["tcp", "udp", "sctp"]))]

/-- The addresses of a container in a network. -/
def networkAddresses : Shape :=
  .partialRecord [("IPv4Address", .text), ("IPv6Address", .text), ("LinkLocalIPs", texts)]

/-- The place of a container in a network. -/
def network : Shape :=
  .partialRecord [("IPAMConfig", networkAddresses), ("Links", texts), ("MacAddress", .text), ("Aliases", texts),
    ("DriverOpts", labels), ("NetworkID", .text), ("EndpointID", .text), ("Gateway", .text), ("IPAddress", .text),
    ("IPPrefixLen", .int64), ("IPv6Gateway", .text), ("GlobalIPv6Address", .text), ("GlobalIPv6PrefixLen", .int64),
    ("DNSNames", texts)]

/-- The kinds of mounts. -/
def mountType : Shape := oneOf ["bind", "volume", "tmpfs", "npipe", "cluster"]

/-- A mount in use. -/
def mountPoint : Shape :=
  .partialRecord [("Type", mountType), ("Name", .text), ("Source", .text), ("Destination", .text), ("Driver", .text),
    ("Mode", .text), ("RW", .flag), ("Propagation", .text)]

/-- The ports of a container that are bound to ports of its host. -/
def portBindings : Shape :=
  .map (.optional (.list (.partialRecord [("HostIp", .text), ("HostPort", .text)])))

/-! ### The list of containers -/

/-- A container in the list. -/
def listed : Shape :=
  .partialRecord [("Id", .text), ("Names", texts), ("Image", .text), ("ImageID", .text), ("Command", .text),
    ("Created", .int64), ("Ports", .list port), ("SizeRw", .int64), ("SizeRootFs", .int64), ("Labels", labels),
    ("State", .text), ("Status", .text),
    ("HostConfig", .partialRecord [("NetworkMode", .text), ("Annotations", labels)]),
    ("NetworkSettings", .partialRecord [("Networks", .map network)]), ("Mounts", .list mountPoint)]

/-- The list of containers. -/
def list : Shape := .list listed

/-! ### The details of a container -/

/-- The health of a container. -/
def health : Shape :=
  .partialRecord [("Status", oneOf ["none", "starting", "healthy", "unhealthy"]), ("FailingStreak", .int64),
    ("Log", .list (.partialRecord [("Start", .text), ("End", .text), ("ExitCode", .int64), ("Output", .text)]))]

/-- The state of a container. -/
def state : Shape :=
  .partialRecord [
    ("Status", oneOf ["created", "running", "paused", "restarting", "removing", "exited", "dead"]),
    ("Running", .flag), ("Paused", .flag), ("Restarting", .flag), ("OOMKilled", .flag), ("Dead", .flag),
    ("Pid", .int64), ("ExitCode", .int64), ("Error", .text), ("StartedAt", .text), ("FinishedAt", .text),
    ("Health", health)]

/-- A rate for a device. -/
def deviceRate : Shape := .partialRecord [("Path", .text), ("Rate", .int64)]

/-- A request for devices. -/
def deviceRequest : Shape :=
  .partialRecord [("Driver", .text), ("Count", .int64), ("DeviceIDs", texts), ("Capabilities", .list texts),
    ("Options", labels)]

/-- The resources that a container may use. -/
def resources : List (String × Shape) :=
  [("CpuShares", .int64), ("Memory", .int64), ("CgroupParent", .text), ("BlkioWeight", .uint16),
    ("BlkioWeightDevice", .list (.partialRecord [("Path", .text), ("Weight", .uint64)])),
    ("BlkioDeviceReadBps", .list deviceRate), ("BlkioDeviceWriteBps", .list deviceRate),
    ("BlkioDeviceReadIOps", .list deviceRate), ("BlkioDeviceWriteIOps", .list deviceRate), ("CpuPeriod", .int64),
    ("CpuQuota", .int64), ("CpuRealtimePeriod", .int64), ("CpuRealtimeRuntime", .int64), ("CpusetCpus", .text),
    ("CpusetMems", .text),
    ("Devices", .list (.partialRecord [("PathOnHost", .text), ("PathInContainer", .text),
      ("CgroupPermissions", .text)])),
    ("DeviceCgroupRules", texts), ("DeviceRequests", .list deviceRequest), ("KernelMemoryTCP", .int64),
    ("MemoryReservation", .int64), ("MemorySwap", .int64), ("MemorySwappiness", .int64), ("NanoCpus", .int64),
    ("OomKillDisable", .flag), ("Init", .flag), ("PidsLimit", .int64),
    ("Ulimits", .list (.partialRecord [("Name", .text), ("Soft", .int64), ("Hard", .int64)])), ("CpuCount", .int64),
    ("CpuPercent", .int64), ("IOMaximumIOps", .int64), ("IOMaximumBandwidth", .int64)]

/-- The options of a bind mount. -/
def bindOptions : Shape :=
  .partialRecord [("Propagation", oneOf ["private", "rprivate", "shared", "rshared", "slave", "rslave"]),
    ("NonRecursive", .flag), ("CreateMountpoint", .flag), ("ReadOnlyNonRecursive", .flag),
    ("ReadOnlyForceRecursive", .flag)]

/-- The options of a volume. -/
def volumeOptions : Shape :=
  .partialRecord [("NoCopy", .flag), ("Labels", labels),
    ("DriverConfig", .partialRecord [("Name", .text), ("Options", labels)]), ("Subpath", .text)]

/-- A mount that is asked for. -/
def mount : Shape :=
  .partialRecord [("Target", .text), ("Source", .text), ("Type", mountType), ("ReadOnly", .flag),
    ("Consistency", .text), ("BindOptions", bindOptions), ("VolumeOptions", volumeOptions),
    ("TmpfsOptions", .partialRecord [("SizeBytes", .int64), ("Mode", .int64), ("Options", .list texts)])]

/-- What the host provides for a container. -/
def hostConfig : Shape :=
  .partialRecord (resources ++ [("Binds", texts), ("ContainerIDFile", .text),
    ("LogConfig", .partialRecord [("Type", .text), ("Config", labels)]), ("NetworkMode", .text),
    ("PortBindings", portBindings),
    ("RestartPolicy", .partialRecord [("Name", oneOf ["no", "always", "unless-stopped", "on-failure"]),
      ("MaximumRetryCount", .int64)]),
    ("AutoRemove", .flag), ("VolumeDriver", .text), ("VolumesFrom", texts), ("Mounts", .list mount),
    ("ConsoleSize", .list .int32), ("Annotations", labels), ("CapAdd", texts), ("CapDrop", texts),
    ("CgroupnsMode", oneOf ["private", "host"]), ("Dns", texts), ("DnsOptions", texts), ("DnsSearch", texts),
    ("ExtraHosts", texts), ("GroupAdd", texts), ("IpcMode", .text), ("Cgroup", .text), ("Links", texts),
    ("OomScoreAdj", .int64), ("PidMode", .text), ("Privileged", .flag), ("PublishAllPorts", .flag),
    ("ReadonlyRootfs", .flag), ("SecurityOpt", texts), ("StorageOpt", labels), ("Tmpfs", labels), ("UTSMode", .text),
    ("UsernsMode", .text), ("ShmSize", .int64), ("Sysctls", labels), ("Runtime", .text),
    ("Isolation", oneOf ["default", "process", "hyperv"]), ("MaskedPaths", texts), ("ReadonlyPaths", texts)])

/-- The driver of a container's file system. -/
def driver : Shape := .record ["Name", "Data"] [("Name", .text), ("Data", .optional labels)]

/-- How the health of a container is found out. -/
def healthCheck : Shape :=
  .partialRecord [("Test", texts), ("Interval", .int64), ("Timeout", .int64), ("Retries", .int64),
    ("StartPeriod", .int64), ("StartInterval", .int64)]

/-- The configuration of a container. -/
def config : Shape :=
  .partialRecord [("Hostname", .text), ("Domainname", .text), ("User", .text), ("AttachStdin", .flag),
    ("AttachStdout", .flag), ("AttachStderr", .flag), ("ExposedPorts", nameSet), ("Tty", .flag), ("OpenStdin", .flag),
    ("StdinOnce", .flag), ("Env", texts), ("Cmd", texts), ("Healthcheck", healthCheck), ("ArgsEscaped", .flag),
    ("Image", .text), ("Volumes", nameSet), ("WorkingDir", .text), ("Entrypoint", texts), ("NetworkDisabled", .flag),
    ("MacAddress", .text), ("OnBuild", texts), ("Labels", labels), ("StopSignal", .text), ("StopTimeout", .int64),
    ("Shell", texts)]

/-- An address. -/
def address : Shape := .partialRecord [("Addr", .text), ("PrefixLen", .int64)]

/-- The networks of a container. -/
def networkSettings : Shape :=
  .partialRecord [("Bridge", .text), ("SandboxID", .text), ("HairpinMode", .flag), ("LinkLocalIPv6Address", .text),
    ("LinkLocalIPv6PrefixLen", .int64), ("Ports", portBindings), ("SandboxKey", .text),
    ("SecondaryIPAddresses", .list address), ("SecondaryIPv6Addresses", .list address), ("EndpointID", .text),
    ("Gateway", .text), ("GlobalIPv6Address", .text), ("GlobalIPv6PrefixLen", .int64), ("IPAddress", .text),
    ("IPPrefixLen", .int64), ("IPv6Gateway", .text), ("MacAddress", .text), ("Networks", .map network)]

/-- The details of a container. -/
def details : Shape :=
  .partialRecord [("Id", .text), ("Created", .text), ("Path", .text), ("Args", texts), ("State", state),
    ("Image", .text), ("ResolvConfPath", .text), ("HostnamePath", .text), ("HostsPath", .text), ("LogPath", .text),
    ("Name", .text), ("RestartCount", .int64), ("Driver", .text), ("Platform", .text), ("MountLabel", .text),
    ("ProcessLabel", .text), ("AppArmorProfile", .text), ("ExecIDs", texts), ("HostConfig", hostConfig),
    ("GraphDriver", driver), ("SizeRw", .int64), ("SizeRootFs", .int64), ("Mounts", .list mountPoint),
    ("Config", config), ("NetworkSettings", networkSettings)]

/-! ### Refusals -/

/-- The message of a refusal. -/
def message : Shape := .record ["message"] [("message", .text)]

end Shapes

end LogTagger.Docker
