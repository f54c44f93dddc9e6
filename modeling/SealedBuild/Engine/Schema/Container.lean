import SealedBuild.Engine.Schema.Host

/-!
# Descriptions of containers

Schemas of what an engine says of containers: their creation, their state, the end of a wait.
-/

namespace SealedBuild.Engine.Schema

open Json (Schema FieldSpec)

/-- The reply to the creation of a container. -/
def containerCreated : Schema :=
  .record "ContainerCreateResponse" [.needed "Id" .text, neededList "Warnings" .text]

def healthResult : Schema :=
  .record "HealthcheckResult"
    [textField "Start", textField "End", longField "ExitCode", textField "Output"]

def health : Schema :=
  .record "Health"
    [choiceField "Status" ["none", "starting", "healthy", "unhealthy"],
      longField "FailingStreak", .maybe "Log" (.list healthResult)]

/-- The state of a container. -/
def containerState : Schema :=
  .record "ContainerState"
    [choiceField "Status"
        ["created", "running", "paused", "restarting", "removing", "exited", "dead"],
      truthField "Running", truthField "Paused", truthField "Restarting",
      truthField "OOMKilled", truthField "Dead", longField "Pid", longField "ExitCode",
      textField "Error", textField "StartedAt", textField "FinishedAt",
      .maybe "Health" health]

def address : Schema :=
  .record "Address" [textField "Addr", longField "PrefixLen"]

def endpointAddresses : Schema :=
  .record "EndpointIpamConfig"
    [textField "IPv4Address", textField "IPv6Address", textsField "LinkLocalIPs"]

/-- A container's place in a network. -/
def endpointSettings : Schema :=
  .record "EndpointSettings"
    [.maybe "IPAMConfig" endpointAddresses, textsField "Links", textField "MacAddress",
      textsField "Aliases", textMapField "DriverOpts", textField "NetworkID",
      textField "EndpointID", textField "Gateway", textField "IPAddress",
      longField "IPPrefixLen", textField "IPv6Gateway", textField "GlobalIPv6Address",
      longField "GlobalIPv6PrefixLen", textsField "DNSNames"]

def networkSettings : Schema :=
  .record "NetworkSettings"
    [textField "Bridge", textField "SandboxID", truthField "HairpinMode",
      textField "LinkLocalIPv6Address", longField "LinkLocalIPv6PrefixLen",
      .maybe "Ports" portBindings, textField "SandboxKey",
      .maybe "SecondaryIPAddresses" (.list address),
      .maybe "SecondaryIPv6Addresses" (.list address), textField "EndpointID",
      textField "Gateway", textField "GlobalIPv6Address", longField "GlobalIPv6PrefixLen",
      textField "IPAddress", longField "IPPrefixLen", textField "IPv6Gateway",
      textField "MacAddress", .maybe "Networks" (.map endpointSettings)]

/-- The inspection of a container. -/
def containerInspected : Schema :=
  .record "ContainerInspectResponse"
    [textField "Id", textField "Created", textField "Path", textsField "Args",
      .maybe "State" containerState, textField "Image", textField "ResolvConfPath",
      textField "HostnamePath", textField "HostsPath", textField "LogPath", textField "Name",
      longField "RestartCount", textField "Driver", textField "Platform",
      textField "MountLabel", textField "ProcessLabel", textField "AppArmorProfile",
      textsField "ExecIDs", .maybe "HostConfig" hostConfig, .maybe "GraphDriver" graphDriver,
      longField "SizeRw", longField "SizeRootFs", .maybe "Mounts" (.list mountPoint),
      .maybe "Config" (.record "ContainerConfig" configFields),
      .maybe "NetworkSettings" networkSettings]

/-- The end of a wait for a container. -/
def waitEnded : Schema :=
  .record "ContainerWaitResponse"
    [.needed "StatusCode" .long,
      .maybe "Error" (.record "ContainerWaitExitError" [textField "Message"])]

end SealedBuild.Engine.Schema
