import GomaServer.ConfigMapLoader

/-!
# ConfigMapBucket

The `ConfigMap` of the proxy: a config map of runtimes, held in the flags or in a
text-proto file, and a bucket with a `seq` object under each runtime's name.
`Seqs` and `RuntimeConfigs` each read the config map afresh and build their maps
apart.
-/

namespace GomaServer

/-- An error of `storageReadAll`: `storage.ErrObjectNotExist`, or any other. -/
inductive ReadError where
  | objectNotExist
  | other (err : String)
  deriving DecidableEq, Repr

/-- `ConfigMapBucket`. `runtimes` are the runtimes of its `ConfigMap` field,
`readConfigMapFile` reads `ConfigMapFile` and unmarshals it, and `readAll` is
`storageReadAll` on its storage client. A file and a bucket that do not change
during a call give the same answer to every read. -/
structure ConfigMapBucket where
  uri : String
  configMapFile : String
  runtimes : List RuntimeConfig
  readConfigMapFile : String → Except String (List RuntimeConfig)
  readAll : String → String → Except ReadError String
  remoteexecAddr : String

namespace ConfigMapBucket

/-- `configMap`: the runtimes of the config map, from the flags when no file is
given. -/
def configMap (c : ConfigMapBucket) : Except String (List RuntimeConfig) :=
  if c.configMapFile = "" then .ok c.runtimes else c.readConfigMapFile c.configMapFile

/-- The loop of `Seqs`: the contents of each runtime's `seq` object, under the
runtime's name; a missing object is skipped, any other error ends the loop. -/
def seqsLoop (readAll : String → Except ReadError String) :
    List RuntimeConfig → AList (fun _ : String => String) →
      Except String (AList fun _ : String => String)
  | [], m => .ok m
  | r :: rest, m =>
      match readAll (pathJoin [r.name, "seq"]) with
      | .error .objectNotExist => seqsLoop readAll rest m
      | .error (.other err) => .error err
      | .ok buf => seqsLoop readAll rest (m.insert r.name buf)

/-- `Seqs`. -/
def seqs (c : ConfigMapBucket) : Except String (AList fun _ : String => String) := do
  let (bucket, _) ← splitGCSPath c.uri
  let runtimes ← c.configMap
  seqsLoop (c.readAll bucket) runtimes ∅

/-- `Bucket`. -/
def bucket (c : ConfigMapBucket) : Except String String :=
  (splitGCSPath c.uri).map Prod.fst

/-- A runtime as `RuntimeConfigs` stores it: with the default address when it
has none. -/
def withServiceAddr (remoteexecAddr : String) (rt : RuntimeConfig) : RuntimeConfig :=
  if rt.serviceAddr = "" then { rt with serviceAddr := remoteexecAddr } else rt

/-- `RuntimeConfigs`: a later runtime of a name replaces an earlier one. -/
def runtimeConfigs (c : ConfigMapBucket) :
    Except String (Finmap fun _ : String => RuntimeConfig) :=
  c.configMap.map fun runtimes =>
    runtimes.foldl (fun m rt => m.insert rt.name (withServiceAddr c.remoteexecAddr rt)) ∅

/-! ## The keys of the two maps -/

theorem mem_seqsLoop {readAll : String → Except ReadError String} {runtimes : List RuntimeConfig}
    {m m' : AList fun _ : String => String} (h : seqsLoop readAll runtimes m = .ok m')
    {name : String} (mem : name ∈ m') : name ∈ m ∨ name ∈ runtimes.map RuntimeConfig.name := by
  induction runtimes generalizing m with
  | nil => cases h; exact .inl mem
  | cons r rest ih =>
      simp only [seqsLoop] at h
      rw [List.map_cons, List.mem_cons]
      split at h
      · exact (ih h).imp_right .inr
      · cases h
      · rcases ih h with mem | mem
        · exact ((AList.mem_insert _).mp mem).elim (.inr ∘ .inl) .inl
        · exact .inr (.inr mem)

theorem mem_foldl_insert {f : RuntimeConfig → RuntimeConfig} (runtimes : List RuntimeConfig)
    (m : Finmap fun _ : String => RuntimeConfig) (name : String) :
    name ∈ runtimes.foldl (fun m rt => m.insert rt.name (f rt)) m ↔
      name ∈ m ∨ name ∈ runtimes.map RuntimeConfig.name := by
  induction runtimes generalizing m with
  | nil => simp
  | cons r rest ih =>
      rw [List.foldl_cons, ih, Finmap.mem_insert, List.map_cons, List.mem_cons, or_assoc,
        or_left_comm]

/-- Every name of `Seqs` is a key of `RuntimeConfigs`: both range over the
runtimes of the one config map. -/
theorem mem_runtimeConfigs_of_mem_seqs (c : ConfigMapBucket)
    {seqs : AList fun _ : String => String} {rcs : Finmap fun _ : String => RuntimeConfig}
    (hs : c.seqs = .ok seqs) (hr : c.runtimeConfigs = .ok rcs) {name : String}
    (mem : name ∈ seqs) : name ∈ rcs := by
  cases split : splitGCSPath c.uri with
  | error e => simp [ConfigMapBucket.seqs, split, bind, Except.bind] at hs
  | ok path =>
  cases read : c.configMap with
  | error e => simp [runtimeConfigs, read, Except.map] at hr
  | ok runtimes =>
  simp only [ConfigMapBucket.seqs, split, read, bind, Except.bind] at hs
  simp only [runtimeConfigs, read, Except.map, Except.ok.injEq] at hr
  subst hr
  exact (mem_foldl_insert runtimes ∅ name).mpr ((mem_seqsLoop hs mem).imp_left nofun)

/-! ## A `Load` over the bucket -/

/-- `configMap` is what `c` answers to one `Load`: the map of `Seqs`, ranged over
in any order, and the answers of `Bucket` and `RuntimeConfigs`. -/
def Answers (c : ConfigMapBucket) (configMap : ConfigMap) : Prop :=
  configMap.seqs.map AList.toFinmap = c.seqs.map AList.toFinmap ∧
    configMap.bucket = c.bucket ∧ configMap.runtimeConfigs = c.runtimeConfigs

theorem answers_self (c : ConfigMapBucket) : c.Answers ⟨c.seqs, c.bucket, c.runtimeConfigs⟩ :=
  ⟨rfl, rfl, rfl⟩

theorem map_eq_error {α β : Type} {f : α → β} {x : Except String α} {e : String} :
    x.map f = .error e ↔ x = .error e := by
  cases x <;> simp [Except.map]

theorem map_eq_ok {α β : Type} {f : α → β} {x : Except String α} {b : β} :
    x.map f = .ok b ↔ ∃ a, x = .ok a ∧ f a = b := by
  cases x <;> simp [Except.map]

/-- A `Load` over `c` fails with an error of `Seqs`, `Bucket` or `RuntimeConfigs`,
or with the loader's error at a runtime it has a runtime config for: never at a
runtime without one. -/
theorem load_error_of_answers (c : ConfigMapBucket) :
    (∀ seqs runtimeConfigs, c.seqs = .ok seqs → c.runtimeConfigs = .ok runtimeConfigs →
      ∀ name ∈ seqs, name ∈ runtimeConfigs) ∧
    ∀ configMap, c.Answers configMap →
      ∀ (loader : String → RuntimeConfig → Except String (List Config)) versionId store force err,
        (load loader configMap versionId store force).1 = .error err →
        c.seqs = .error err ∨ c.bucket = .error err ∨ c.runtimeConfigs = .error err ∨
          ∃ bucket runtimeConfigs name rc, c.bucket = .ok bucket ∧
            c.runtimeConfigs = .ok runtimeConfigs ∧ runtimeConfigs.lookup name = some rc ∧
            loader (gcsURI bucket name) rc = .error err := by
  refine ⟨fun _ _ hs hr _ mem => c.mem_runtimeConfigs_of_mem_seqs hs hr mem, ?_⟩
  rintro configMap ⟨sameSeqs, sameBucket, sameConfigs⟩ loader versionId store force err h
  have ran : load loader configMap versionId store force =
      (.error err, (load loader configMap versionId store force).2) := Prod.ext h rfl
  rcases load_error ran with failed | failed | failed |
      ⟨seqs', bucket, rcs, name, seq, hs, hb, hr, mem, ⟨missing, -⟩ | ⟨rc, found, loaded⟩⟩
  · rw [failed] at sameSeqs
    exact .inl (map_eq_error.mp sameSeqs.symm)
  · exact .inr (.inl (sameBucket ▸ failed))
  · exact .inr (.inr (.inl (sameConfigs ▸ failed)))
  · rw [hs] at sameSeqs
    obtain ⟨seqs, hseqs, same⟩ := map_eq_ok.mp sameSeqs.symm
    have listed : name ∈ seqs' :=
      AList.lookup_isSome.mp (Option.isSome_iff_exists.mpr ⟨seq, (mem_updatedSeqs.mp mem).1⟩)
    have inSeqs : name ∈ seqs := Finmap.mem_toFinmap.mp (same ▸ Finmap.mem_toFinmap.mpr listed)
    exact absurd (c.mem_runtimeConfigs_of_mem_seqs hseqs (sameConfigs ▸ hr) inSeqs)
      (Finmap.lookup_eq_none.mp missing)
  · exact .inr (.inr (.inr ⟨bucket, rcs, name, rc, sameBucket ▸ hb, sameConfigs ▸ hr, found,
      loaded⟩))

end ConfigMapBucket

end GomaServer
