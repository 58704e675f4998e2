import GomaServer.ConfigLoader
import GomaServer.LoadRuns

/-!
# Where a runtime's configs come from

`Load` hands `ConfigLoader.Load` the URI `gs://<bucket>/<name>`, and `loadConfigs`
lists the objects whose names begin with `<name>`, with no `/` after it. So every
descriptor stored under a runtime is the descriptor of an object listed under the
runtime's name as a prefix, in every store a run of `Load` reaches
(`origin_runStore`). That does not tie the object to the runtime's directory: the
listing of `clang` also holds the objects of `clang-next`.
-/

namespace GomaServer

/-- `d` is the descriptor of an object that `client` lists in `bucket` under the
prefix `pre`. -/
def ListedUnder (client : StorageClient) (bucket pre : String) (d : CmdDescriptor) : Prop :=
  ∃ objs, client.objects bucket pre = .ok objs ∧
    ∃ attrs ∈ objs, client.read bucket attrs.name = .ok (.descriptor d)

theorem descriptorConfig_cmdDescriptor {rc : RuntimeConfig} {platform : RemoteexecPlatform}
    {attrs : ObjectAttrs} {d : CmdDescriptor} {c : Config}
    (h : descriptorConfig rc platform attrs d = some c) : c.cmdDescriptor = some d := by
  unfold descriptorConfig at h
  repeat' split at h
  all_goals first | (cases h; rfl) | cases h

/-- A slot holding a config with a descriptor was filled from the object the slot
reads. -/
theorem loadSlot_read {client : StorageClient} {bucket : String} {rc : RuntimeConfig}
    {platform : RemoteexecPlatform} {attrs : ObjectAttrs} {c : Config} {d : CmdDescriptor}
    (h : loadSlot client bucket rc platform attrs = .ok (some c)) (hd : c.cmdDescriptor = some d) :
    client.read bucket attrs.name = .ok (.descriptor d) := by
  unfold loadSlot loadDescriptor at h
  split at h
  · cases h
  · cases h
  · next d' read =>
      have eq := descriptorConfig_cmdDescriptor (Except.ok.inj h)
      rw [read, ← Option.some.inj (hd.symm.trans eq)]

theorem mem_of_mapM_ok {α β : Type} {f : α → Except String β} {l : List α} {bs : List β}
    (h : l.mapM f = .ok bs) {b : β} (mem : b ∈ bs) : ∃ a ∈ l, f a = .ok b := by
  rw [mapM_except_eq_ok_iff] at h
  have listed := List.mem_map_of_mem (Except.ok : β → Except String β) mem
  rw [← h] at listed
  simpa using listed

/-- A config with a descriptor that `loadConfigs` returns was read from an object
of the listing under the URI's object path. -/
theorem loadConfigsInOrder_listed {client : StorageClient} {uri : String} {rc : RuntimeConfig}
    {platform : RemoteexecPlatform} {confs : List Config} {c : Config} {d : CmdDescriptor}
    (h : loadConfigsInOrder client uri rc platform = .ok confs) (mem : c ∈ confs)
    (hd : c.cmdDescriptor = some d) :
    ∃ bucket obj, splitGCSPath uri = .ok (bucket, obj) ∧ ListedUnder client bucket obj d := by
  cases split : splitGCSPath uri with
  | error e => simp [loadConfigsInOrder, split, bind, Except.bind] at h
  | ok path =>
  obtain ⟨bucket, obj⟩ := path
  refine ⟨bucket, obj, rfl, ?_⟩
  cases listing : client.objects bucket obj with
  | error e => simp [loadConfigsInOrder, split, listing, bind, Except.bind] at h
  | ok objs =>
  simp only [loadConfigsInOrder, split, listing, bind, Except.bind] at h
  split at h
  · cases h
  next slots loaded =>
    cases h
    obtain ⟨slot, slotMem, rfl⟩ := List.mem_filterMap.mp mem
    obtain ⟨attrs, kept, read⟩ := mem_of_mapM_ok loaded slotMem
    exact ⟨objs, listing, attrs, List.mem_of_mem_filter kept, loadSlot_read read hd⟩

/-- The same for `ConfigLoader.Load`: the config it adds has no descriptor. -/
theorem ConfigLoader.load_listed {client : StorageClient} {uri : String} {rc : RuntimeConfig}
    {confs : List Config} {c : Config} {d : CmdDescriptor}
    (h : ConfigLoader.load client uri rc = .ok confs) (mem : c ∈ confs)
    (hd : c.cmdDescriptor = some d) :
    ∃ bucket obj, splitGCSPath uri = .ok (bucket, obj) ∧ ListedUnder client bucket obj d := by
  unfold ConfigLoader.load at h
  rcases loaded : loadConfigsInOrder client uri rc (runtimePlatform rc) with e | confs'
  · rw [loaded] at h; cases h
  rw [loaded] at h
  dsimp only [bind, Except.bind] at h
  split at h <;> cases h
  · rcases List.mem_append.mp mem with mem | mem
    · exact loadConfigsInOrder_listed loaded mem hd
    · rw [List.mem_singleton.mp mem] at hd; cases hd
  · exact loadConfigsInOrder_listed loaded mem hd

/-- Every descriptor stored under a name is that of an object `client` lists in
`bucket` under the name. -/
def Origin (client : StorageClient) (bucket : String) (store : ConfigStore) : Prop :=
  ∀ name entry, store.lookup name = some entry → ∀ c ∈ entry.configs, ∀ d,
    c.cmdDescriptor = some d → ListedUnder client bucket name d

theorem origin_empty (client : StorageClient) (bucket : String) :
    Origin client bucket ConfigStore.empty := by
  intro name entry h
  simp at h

section Step

variable {client : StorageClient} {bucket : String}

/-- Whatever a call with the bucket's own loader returns, it keeps `Origin`. -/
theorem origin_load (noSlash : '/' ∉ bucket.data) {configMap : ConfigMap}
    (sameBucket : ∀ b, configMap.bucket = .ok b → b = bucket) (versionId : String)
    {store : ConfigStore} (force : Bool) (origin : Origin client bucket store) :
    Origin client bucket
      (load (ConfigLoader.load client) configMap versionId store force).2 := by
  intro name entry found c mem d hd
  have ran : load (ConfigLoader.load client) configMap versionId store force =
      ((load (ConfigLoader.load client) configMap versionId store force).1,
        (load (ConfigLoader.load client) configMap versionId store force).2) := rfl
  rcases load_lookup ran name with same | ⟨-, -, -, gone⟩ |
      ⟨-, seq, b, -, rc, confs, -, -, -, hb, -, -, -, loaded, entry'⟩
  · exact origin name entry (same ▸ found) c mem d hd
  · rw [gone] at found; cases found
  · obtain rfl := Option.some.inj (found.symm.trans entry')
    obtain rfl := sameBucket b hb
    obtain ⟨b', obj, split, listed⟩ := ConfigLoader.load_listed loaded mem hd
    rw [splitGCSPath_gcsURI noSlash] at split
    cases split
    exact listed

/-- A call that uses the bucket's own loader and reads the bucket name or fails. -/
def Call.ReadsBucket (client : StorageClient) (bucket : String) (call : Call) : Prop :=
  call.loader = ConfigLoader.load client ∧ ∀ b, call.configMap.bucket = .ok b → b = bucket

/-- Every store a run of such calls reaches keeps `Origin`. -/
theorem origin_runStore (noSlash : '/' ∉ bucket.data) (calls : List Call)
    (reads : ∀ call ∈ calls, call.ReadsBucket client bucket) :
    ∀ store, Origin client bucket store → Origin client bucket (runStore store calls) := by
  induction calls with
  | nil => exact fun _ origin => origin
  | cons call calls ih =>
      intro store origin
      obtain ⟨loader, sameBucket⟩ := reads call (List.mem_cons_self _ _)
      have step : Origin client bucket (call.run store).2 := by
        unfold Call.run
        rw [loader]
        exact origin_load noSlash sameBucket _ _ origin
      exact ih (fun call' mem => reads call' (List.mem_cons_of_mem _ mem)) _ step

end Step

/-! ## Two runtimes, one a prefix of the other -/

/-- A descriptor of the `clang` toolchain. -/
def clangDescriptor : CmdDescriptor :=
  ⟨some ⟨"clang", "17", "x86_64-linux-gnu", "h1"⟩, some ⟨.posix⟩⟩

/-- A descriptor of the `clang-next` toolchain. -/
def clangNextDescriptor : CmdDescriptor :=
  ⟨some ⟨"clang", "18", "x86_64-linux-gnu", "h2"⟩, some ⟨.posix⟩⟩

/-- One descriptor in the directory of each runtime, in name order. -/
def twoRuntimeObjects : List StoredObject :=
  [⟨⟨"clang-next/p/descriptors/h2", 2⟩, .descriptor clangNextDescriptor⟩,
    ⟨⟨"clang/p/descriptors/h1", 1⟩, .descriptor clangDescriptor⟩]

/-- The runtimes `clang` and `clang-next`, both with an address. -/
def twoRuntimesConfigMap : ConfigMap where
  seqs := .ok (((∅ : AList fun _ : String => String).insert "clang" "1").insert "clang-next" "1")
  bucket := .ok "toolchain-config"
  runtimeConfigs := .ok ((Finmap.singleton "clang" clangRuntime).insert "clang-next"
    { clangRuntime with name := "clang-next" })

/-- A `Load` of both runtimes with the bucket's own loader. -/
def twoRuntimesCall : Call :=
  ⟨twoRuntimesConfigMap, ConfigLoader.load (.ofBucket "toolchain-config" twoRuntimeObjects), "v1",
    false⟩

theorem origin_runStore_twoRuntimes :
    '/' ∉ "toolchain-config".data ∧
      (∀ call ∈ [twoRuntimesCall],
        call.ReadsBucket (.ofBucket "toolchain-config" twoRuntimeObjects) "toolchain-config") ∧
      Origin (.ofBucket "toolchain-config" twoRuntimeObjects) "toolchain-config" .empty ∧
      Origin (.ofBucket "toolchain-config" twoRuntimeObjects) "toolchain-config"
        (runStore .empty [twoRuntimesCall]) :=
  have noSlash : '/' ∉ "toolchain-config".data := by decide
  have reads : ∀ call ∈ [twoRuntimesCall],
      call.ReadsBucket (.ofBucket "toolchain-config" twoRuntimeObjects) "toolchain-config" := by
    intro call mem
    rw [List.mem_singleton.mp mem]
    exact ⟨rfl, fun _ named => (Except.ok.inj named).symm⟩
  ⟨noSlash, reads, origin_empty _ _,
    origin_runStore noSlash _ reads _ (origin_empty _ _)⟩

/-- From the empty store, one `Load` stores the descriptor of
`clang-next/p/descriptors/h2` under `clang-next` and under `clang` too: the
listing of `clang` is of the prefix `clang`, which `clang-next/...` begins with. -/
theorem load_stores_clang_next_under_clang :
    (((load (ConfigLoader.load (.ofBucket "toolchain-config" twoRuntimeObjects))
        twoRuntimesConfigMap "v1" .empty false).2.lookup "clang").map
        fun entry => entry.configs.filterMap Config.cmdDescriptor) =
      some [clangNextDescriptor, clangDescriptor] ∧
    (((load (ConfigLoader.load (.ofBucket "toolchain-config" twoRuntimeObjects))
        twoRuntimesConfigMap "v1" .empty false).2.lookup "clang-next").map
        fun entry => entry.configs.filterMap Config.cmdDescriptor) =
      some [clangNextDescriptor] := by
  decide

end GomaServer
