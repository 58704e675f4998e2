import Mathlib.Data.String.Basic

/-!
# Toolchain config messages

The fields of the `cmdpb` protocol messages that the config loader reads or
writes. A pointer field that Go may leave nil is an `Option`; fields no modelled
function touches are left out.
-/

namespace GomaServer

/-- `Selector`: the name, version, target and binary hash of one compiler. -/
structure Selector where
  name : String
  version : String
  target : String
  binaryHash : String
  deriving DecidableEq, Repr

/-- `CmdDescriptor_PathType`. -/
inductive PathType where
  | unknownPathType
  | posix
  | windows
  deriving DecidableEq, Repr

/-- `CmdDescriptor_Setup`, of which the loader reads the path type. -/
structure Setup where
  pathType : PathType
  deriving DecidableEq, Repr

/-- `CmdDescriptor`: what a descriptor object in the bucket parses to. -/
structure CmdDescriptor where
  selector : Option Selector
  setup : Option Setup
  deriving DecidableEq, Repr

/-- A name and value pair, of `Platform` and of `RemoteexecPlatform` alike. -/
structure Property where
  name : String
  value : String
  deriving DecidableEq, Repr

/-- `PlatformRuntimeConfig`: present when the runtime accepts toolchains that a
compile request brings along. -/
structure PlatformRuntimeConfig where
  hasNsjail : Bool
  dimensions : List String
  deriving DecidableEq, Repr

/-- `RuntimeConfig`: one runtime of the config map. The ACL is carried along and
never read, so its text stands for the message. -/
structure RuntimeConfig where
  name : String
  serviceAddr : String
  platform : Option (List Property)
  platformRuntimeConfig : Option PlatformRuntimeConfig
  acl : Option String
  allowedPrebuilts : List String
  disallowedPrebuilts : List String
  disallowedCommands : List Selector
  deriving DecidableEq, Repr

/-- `RemoteexecPlatform`. -/
structure RemoteexecPlatform where
  properties : List Property
  hasNsjail : Bool
  deriving DecidableEq, Repr

/-- `Config`: one record served to clients. `target` is `Target.Addr` and
`buildInfo` is `BuildInfo.Timestamp`, in seconds. -/
structure Config where
  target : Option String
  buildInfo : Option Nat
  cmdDescriptor : Option CmdDescriptor
  remoteexecPlatform : Option RemoteexecPlatform
  dimensions : List String
  acl : Option String
  deriving DecidableEq, Repr

/-- `ConfigResp`. -/
structure ConfigResp where
  versionId : String
  configs : List Config
  deriving DecidableEq, Repr

end GomaServer
