import GomaServer.Storage

/-!
# Which descriptor objects a runtime loads

The listing loop of `loadConfigs` keeps an object when `checkPrebuilt` accepts
its prebuilt item and its parent directory is `descriptors`. A kept object's
descriptor is then dropped again when `checkSelector` refuses it.
-/

namespace GomaServer

/-- The prebuilt item `checkPrebuilt` reads off an object name: the base of
everything before the first `/descriptors`. -/
def prebuiltName (objName : String) : Option String :=
  (index objName "/descriptors").map fun i => pathBase (sliceTo objName i)

/-- `checkPrebuilt`: the deny list is tried first, then a non-empty allow list. -/
def checkPrebuilt (rc : RuntimeConfig) (objName : String) : Except String Unit :=
  match prebuiltName objName with
  | none => .error ("no prebuilt dir: " ++ objName)
  | some prebuilt =>
      match rc.disallowedPrebuilts.find? (hasPrefix prebuilt) with
      | some pre => .error ("disallowed prebuilt " ++ objName ++ ": by " ++ pre)
      | none =>
          if rc.allowedPrebuilts.isEmpty then .ok ()
          else if rc.allowedPrebuilts.any (hasPrefix prebuilt) then .ok ()
          else .error ("not allowed prebuilt " ++ objName)

/-- Why `checkSelector` refuses a descriptor. Go prints the selector into the
text of these errors, which only reach the log. -/
inductive SelectorError where
  | noSelector
  | disallowedByName (name : String)
  | disallowedByVersion (version : String)
  | disallowedByTarget (target : String)
  | disallowedByBinaryHash (binaryHash : String)
  deriving DecidableEq, Repr

/-- One field test of `checkSelector`: the disallowed selector sets the field and
the descriptor's selector has the same value. -/
def fieldDisallows (field : Selector → String) (s sel : Selector) : Bool :=
  field s != "" && field s == field sel

/-- The first field of `sel` that the disallowed selector `s` matches. -/
def disallowedBy (s sel : Selector) : Option SelectorError :=
  if fieldDisallows Selector.name s sel then some (.disallowedByName s.name)
  else if fieldDisallows Selector.version s sel then some (.disallowedByVersion s.version)
  else if fieldDisallows Selector.target s sel then some (.disallowedByTarget s.target)
  else if fieldDisallows Selector.binaryHash s sel then some (.disallowedByBinaryHash s.binaryHash)
  else none

/-- `checkSelector`. -/
def checkSelector (rc : RuntimeConfig) : Option Selector → Except SelectorError Unit
  | none => .error .noSelector
  | some sel =>
      match rc.disallowedCommands.findSome? (disallowedBy · sel) with
      | some err => .error err
      | none => .ok ()

/-- The listing loop's test of one object name. -/
def keepObject (rc : RuntimeConfig) (name : String) : Bool :=
  match checkPrebuilt rc name with
  | .error _ => false
  | .ok () => pathBase (pathDir name) == "descriptors"

/-- `attrsList`: the listed objects the loop keeps, in listing order. -/
def keptObjects (rc : RuntimeConfig) (objs : List ObjectAttrs) : List ObjectAttrs :=
  objs.filter fun attrs => keepObject rc attrs.name

theorem checkSelector_ok_iff (rc : RuntimeConfig) (sel : Selector) :
    checkSelector rc (some sel) = .ok () ↔ ∀ s ∈ rc.disallowedCommands, disallowedBy s sel = none := by
  simp only [checkSelector]
  split
  · next found =>
      obtain ⟨s, mem, hs⟩ := List.exists_of_findSome?_eq_some found
      simpa using ⟨s, mem, by simp [hs]⟩
  · simp_all

/-- A runtime allowed the prebuilt items starting with `descriptors-v2`. -/
def descriptorsV2Runtime : RuntimeConfig where
  name := "clang"
  serviceAddr := "remoteexec"
  platform := none
  platformRuntimeConfig := none
  acl := none
  allowedPrebuilts := ["descriptors-v2"]
  disallowedPrebuilts := []
  disallowedCommands := []

/-- The descriptor `clang/descriptors-v2/descriptors/h` sits in the prebuilt item
`descriptors-v2`, which the allow list names, yet it is not kept: the first
`/descriptors` of the name ends the runtime `clang`, so `checkPrebuilt` tests
`clang` against the allow list. -/
theorem keepObject_descriptorsV2 :
    pathBase (pathDir "clang/descriptors-v2/descriptors/h") = "descriptors" ∧
      pathBase (pathDir (pathDir "clang/descriptors-v2/descriptors/h")) = "descriptors-v2" ∧
      hasPrefix "descriptors-v2" "descriptors-v2" = true ∧
      keepObject descriptorsV2Runtime "clang/descriptors-v2/descriptors/h" = false := by
  decide

end GomaServer
