import SealedBuild.Engine.Schema.Basic

/-!
# The host's side of containers

Schemas of the limits, devices and mounts that a container is run with.
-/

namespace SealedBuild.Engine.Schema

open Json (Schema FieldSpec)

/-- A whole number of sixteen bits that is not negative. -/
def shortField (name : String) : FieldSpec Schema :=
  .maybe name (.whole "u16" 0 65536)

/-- A whole number of a machine word that is not negative. -/
def sizeField (name : String) : FieldSpec Schema :=
  .maybe name (.whole "usize" 0 18446744073709551616)

/-- The rates that a device is limited to. -/
def throttleField (name : String) : FieldSpec Schema :=
  .maybe name (.list (.record "ThrottleDevice" [textField "Path", longField "Rate"]))

/-- The ports of the host that a port is bound to. -/
def portBindings : Schema :=
  .map (.optional (.list (.record "PortBinding" [textField "HostIp", textField "HostPort"])))

def blkioWeightDevice : Schema :=
  .record "ResourcesBlkioWeightDevice" [textField "Path", sizeField "Weight"]

def deviceMapping : Schema :=
  .record "DeviceMapping"
    [textField "PathOnHost", textField "PathInContainer", textField "CgroupPermissions"]

def deviceRequest : Schema :=
  .record "DeviceRequest"
    [textField "Driver", longField "Count", textsField "DeviceIDs",
      .maybe "Capabilities" (.list (.list .text)), textMapField "Options"]

/-- The limits of a container's resources. -/
def resourceFields : List (FieldSpec Schema) :=
  [longField "CpuShares", longField "Memory", textField "CgroupParent",
    shortField "BlkioWeight", .maybe "BlkioWeightDevice" (.list blkioWeightDevice),
    throttleField "BlkioDeviceReadBps", throttleField "BlkioDeviceWriteBps",
    throttleField "BlkioDeviceReadIOps", throttleField "BlkioDeviceWriteIOps",
    longField "CpuPeriod", longField "CpuQuota", longField "CpuRealtimePeriod",
    longField "CpuRealtimeRuntime", textField "CpusetCpus", textField "CpusetMems",
    .maybe "Devices" (.list deviceMapping), textsField "DeviceCgroupRules",
    .maybe "DeviceRequests" (.list deviceRequest), longField "KernelMemoryTCP",
    longField "MemoryReservation", longField "MemorySwap", longField "MemorySwappiness",
    longField "NanoCpus", truthField "OomKillDisable", truthField "Init",
    longField "PidsLimit",
    .maybe "Ulimits" (.list (.record "ResourcesUlimits"
      [textField "Name", longField "Soft", longField "Hard"])),
    longField "CpuCount", longField "CpuPercent", longField "IOMaximumIOps",
    longField "IOMaximumBandwidth"]

/-- What is mounted into containers. -/
def mountTypes : List String :=
  ["bind", "volume", "tmpfs", "npipe", "cluster"]

def bindOptions : Schema :=
  .record "MountBindOptions"
    [choiceField "Propagation" ["private", "rprivate", "shared", "rshared", "slave", "rslave"],
      truthField "NonRecursive", truthField "CreateMountpoint",
      truthField "ReadOnlyNonRecursive", truthField "ReadOnlyForceRecursive"]

def volumeOptions : Schema :=
  .record "MountVolumeOptions"
    [truthField "NoCopy", textMapField "Labels",
      .maybe "DriverConfig" (.record "MountVolumeOptionsDriverConfig"
        [textField "Name", textMapField "Options"]),
      textField "Subpath"]

def tmpfsOptions : Schema :=
  .record "MountTmpfsOptions"
    [longField "SizeBytes", longField "Mode", .maybe "Options" (.list (.list .text))]

def mount : Schema :=
  .record "Mount"
    [textField "Target", textField "Source", choiceField "Type" mountTypes,
      truthField "ReadOnly", textField "Consistency", .maybe "BindOptions" bindOptions,
      .maybe "VolumeOptions" volumeOptions, .maybe "TmpfsOptions" tmpfsOptions]

/-- What a container asks of its host besides its resources. -/
def hostFields : List (FieldSpec Schema) :=
  [textsField "Binds", textField "ContainerIDFile",
    .maybe "LogConfig" (.record "HostConfigLogConfig" [textField "Type", textMapField "Config"]),
    textField "NetworkMode", .maybe "PortBindings" portBindings,
    .maybe "RestartPolicy" (.record "RestartPolicy"
      [choiceField "Name" ["no", "always", "unless-stopped", "on-failure"],
        longField "MaximumRetryCount"]),
    truthField "AutoRemove", textField "VolumeDriver", textsField "VolumesFrom",
    .maybe "Mounts" (.list mount), .maybe "ConsoleSize" (.list .word),
    textMapField "Annotations", textsField "CapAdd", textsField "CapDrop",
    choiceField "CgroupnsMode" ["private", "host"], textsField "Dns", textsField "DnsOptions",
    textsField "DnsSearch", textsField "ExtraHosts", textsField "GroupAdd",
    textField "IpcMode", textField "Cgroup", textsField "Links", longField "OomScoreAdj",
    textField "PidMode", truthField "Privileged", truthField "PublishAllPorts",
    truthField "ReadonlyRootfs", textsField "SecurityOpt", textMapField "StorageOpt",
    textMapField "Tmpfs", textField "UTSMode", textField "UsernsMode", longField "ShmSize",
    textMapField "Sysctls", textField "Runtime",
    choiceField "Isolation" ["default", "process", "hyperv"], textsField "MaskedPaths",
    textsField "ReadonlyPaths"]

/-- How a container is run on its host. -/
def hostConfig : Schema :=
  .record "HostConfig" (resourceFields ++ hostFields)

/-- A place that is mounted into a container. -/
def mountPoint : Schema :=
  .record "MountPoint"
    [choiceField "Type" mountTypes, textField "Name", textField "Source",
      textField "Destination", textField "Driver", textField "Mode", truthField "RW",
      textField "Propagation"]

end SealedBuild.Engine.Schema
