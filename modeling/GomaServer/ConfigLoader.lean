import GomaServer.LoadConfigs

/-!
# ConfigLoader.Load

The configs of one runtime: its descriptors, loaded by `loadConfigs` with the
platform built from the runtime config, and one more config without a descriptor
when the runtime accepts toolchains a compile request brings along.
-/

namespace GomaServer

/-- The `RemoteexecPlatform` that `ConfigLoader.Load` builds from a runtime config. -/
def runtimePlatform (rc : RuntimeConfig) : RemoteexecPlatform where
  properties := rc.platform.getD []
  hasNsjail := (rc.platformRuntimeConfig.map PlatformRuntimeConfig.hasNsjail).getD false

/-- The config for toolchains a compile request brings along: a platform and no
descriptor. -/
def platformConfig (rc : RuntimeConfig) (prc : PlatformRuntimeConfig) : Config where
  target := none
  buildInfo := none
  cmdDescriptor := none
  remoteexecPlatform := some (runtimePlatform rc)
  dimensions := prc.dimensions
  acl := rc.acl

/-- `ConfigLoader.Load`. Its `loadConfigs` call returns the list of
`loadConfigsInOrder` under every schedule, and fails exactly when it does
(`loadConfigs_agrees_inOrder`); `EnableParallel` only picks the number of tokens. -/
def ConfigLoader.load (client : StorageClient) (uri : String) (rc : RuntimeConfig) :
    Except String (List Config) := do
  let confs ← loadConfigsInOrder client uri rc (runtimePlatform rc)
  match rc.platformRuntimeConfig with
  | some prc => pure (confs ++ [platformConfig rc prc])
  | none => pure confs

/-! ## mergePlatformProperties -/

/-- `mergePlatformProperties`: append the properties of `platform` whose names
`rbePlatform` lacks. `m` holds the names from before the loop and is never added
to, so every property of a new name is appended, repeated names included. -/
def mergePlatformProperties (rbePlatform : RemoteexecPlatform) :
    Option (List Property) → RemoteexecPlatform
  | none => rbePlatform
  | some properties =>
      let m := rbePlatform.properties.map Property.name
      { rbePlatform with
        properties := properties.foldl
          (fun acc p => if p.name ∈ m then acc else acc ++ [⟨p.name, p.value⟩])
          rbePlatform.properties }

theorem foldl_mergeProperty (m : List String) (properties acc : List Property) :
    properties.foldl (fun acc p => if p.name ∈ m then acc else acc ++ [⟨p.name, p.value⟩]) acc =
      acc ++ properties.filter fun p => p.name ∉ m := by
  induction properties generalizing acc with
  | nil => simp
  | cons p rest ih =>
      by_cases listed : p.name ∈ m <;> simp [ih, listed]

theorem mergePlatformProperties_some (rbePlatform : RemoteexecPlatform)
    (properties : List Property) :
    mergePlatformProperties rbePlatform (some properties) =
      { rbePlatform with
        properties := rbePlatform.properties ++ properties.filter
          fun p => p.name ∉ rbePlatform.properties.map Property.name } := by
  simp only [mergePlatformProperties, foldl_mergeProperty]

/-- The target keeps its properties and gains, in the platform's order, those
whose names it lacks; a second merge of the same platform adds nothing. -/
theorem mergePlatformProperties_properties (rbePlatform : RemoteexecPlatform)
    (platform : Option (List Property)) :
    (mergePlatformProperties rbePlatform platform).properties =
      rbePlatform.properties ++ (platform.getD []).filter
        (fun p => p.name ∉ rbePlatform.properties.map Property.name) ∧
    mergePlatformProperties (mergePlatformProperties rbePlatform platform) platform =
      mergePlatformProperties rbePlatform platform := by
  cases platform with
  | none => simp [mergePlatformProperties]
  | some properties =>
      refine ⟨by rw [mergePlatformProperties_some]; rfl, ?_⟩
      have named : ∀ p ∈ properties,
          p.name ∈ (mergePlatformProperties rbePlatform (some properties)).properties.map
            Property.name := by
        intro p mem
        rw [mergePlatformProperties_some, List.map_append, List.mem_append]
        by_cases listed : p.name ∈ rbePlatform.properties.map Property.name
        · exact .inl listed
        · exact .inr (List.mem_map_of_mem _ (List.mem_filter.mpr ⟨mem, by simpa using listed⟩))
      rw [mergePlatformProperties_some (mergePlatformProperties rbePlatform (some properties)),
        List.filter_eq_nil_iff.mpr fun p mem => by simpa using named p mem, List.append_nil]

example : (mergePlatformProperties ⟨[⟨"OS", "Linux"⟩], false⟩
    (some [⟨"OS", "Windows"⟩, ⟨"ABI", "x64"⟩])).properties = [⟨"OS", "Linux"⟩, ⟨"ABI", "x64"⟩] := by
  decide

end GomaServer
