import GomaServer.ConfigMapLoader

/-!
# Runs of Load

`Load` is called again and again by one caller, each call on the store the last
one left. A source that does not change answers every call alike, except that
any call of it may fail; a failed `Load` leaves whatever it had deleted or set.
-/

namespace GomaServer

/-- One call of `Load`: what the config map and `ConfigLoader.Load` answer during
it, the clock reading, and the force flag. -/
structure Call where
  configMap : ConfigMap
  loader : String → RuntimeConfig → Except String (List Config)
  versionId : String
  force : Bool

/-- The result of a call and the store it leaves. -/
def Call.run (call : Call) (store : ConfigStore) : LoadResult × ConfigStore :=
  load call.loader call.configMap call.versionId store call.force

/-- The store after a sequence of calls. -/
def runStore (store : ConfigStore) (calls : List Call) : ConfigStore :=
  calls.foldl (fun store call => (call.run store).2) store

theorem load_resp_configMap {loader : String → RuntimeConfig → Except String (List Config)}
    {configMap : ConfigMap} {versionId : String} {store store' : ConfigStore} {force : Bool}
    {resp : ConfigResp} (h : load loader configMap versionId store force = (.resp resp, store')) :
    ∃ seqs bucket runtimeConfigs, configMap = ⟨.ok seqs, .ok bucket, .ok runtimeConfigs⟩ := by
  obtain ⟨seqs, bucket, runtimeConfigs⟩ := configMap
  simp only [load] at h
  split at h
  · cases h
  split at h
  · cases h
  repeat' split at h
  all_goals first | exact ⟨_, _, _, rfl⟩ | cases h

section Converge

variable {seqs : AList fun _ : String => String} {bucket : String}
  {runtimeConfigs : Finmap fun _ : String => RuntimeConfig}
  {loader : String → RuntimeConfig → Except String (List Config)}
  {store target : ConfigStore}

theorem seq_of_lookup_eq {c d : ConfigStore} {name : String} (h : c.lookup name = d.lookup name) :
    c.seq name = d.seq name := by
  simp [ConfigStore.seq_eq, h]

end Converge

/-- The token map of `clang` alone, at token `1`. -/
def clangSeqs : AList fun _ : String => String :=
  (∅ : AList fun _ : String => String).insert "clang" "1"

section Twice

variable {loader : String → RuntimeConfig → Except String (List Config)}
  {seqs : AList fun _ : String => String} {store : ConfigStore} {versionId : String}

/-- With nothing to update or delete, an unforced call answers `ErrNoUpdate`. -/
theorem load_quiet {bucket : Except String String}
    {runtimeConfigs : Except String (Finmap fun _ : String => RuntimeConfig)}
    (noUpdated : updatedSeqs store seqs = []) (noDeleted : deletedNames store seqs = []) :
    load loader ⟨.ok seqs, bucket, runtimeConfigs⟩ versionId store false = (.noUpdate, store) := by
  simp [load, noUpdated, noDeleted]

/-- With nothing to delete and only runtimes without an address to update, a call
answers a response and changes nothing. -/
theorem load_only_skipped {bucket : String} {runtimeConfigs : Finmap fun _ : String => RuntimeConfig}
    {force : Bool} (noDeleted : deletedNames store seqs = [])
    (updated : updatedSeqs store seqs ≠ [])
    (skipped : ∀ e ∈ updatedSeqs store seqs,
      ∃ rc, runtimeConfigs.lookup e.1 = some rc ∧ rc.serviceAddr = "") :
    load loader ⟨.ok seqs, .ok bucket, .ok runtimeConfigs⟩ versionId store force =
      (.resp (store.configResp versionId), store) := by
  simp [load, noDeleted, updated, updateConfigs_skipped store skipped]

/-- After a call that answers a response or `ErrNoUpdate`, the next unforced call
on an unchanged source changes nothing. It answers `ErrNoUpdate` unless some
token still differs from the store; every such runtime is one the first call
skipped for its empty address, and then it answers a response again. -/
theorem load_load_false {seqs' : AList fun _ : String => String} {bucket : Except String String}
    {runtimeConfigs : Except String (Finmap fun _ : String => RuntimeConfig)}
    {versionId' : String} {force : Bool} {result : LoadResult} {stored : ConfigStore}
    (sameSeqs : ∀ name, seqs'.lookup name = seqs.lookup name)
    (first : load loader ⟨.ok seqs, bucket, runtimeConfigs⟩ versionId store force = (result, stored))
    (answered : result = .noUpdate ∨ ∃ resp, result = .resp resp) :
    (load loader ⟨.ok seqs', bucket, runtimeConfigs⟩ versionId' stored false).2 = stored ∧
      ((¬∃ name seq, seqs.lookup name = some seq ∧ stored.seq name ≠ seq) →
        (load loader ⟨.ok seqs', bucket, runtimeConfigs⟩ versionId' stored false).1 = .noUpdate) ∧
      ((∃ name seq, seqs.lookup name = some seq ∧ stored.seq name ≠ seq) →
        (load loader ⟨.ok seqs', bucket, runtimeConfigs⟩ versionId' stored false).1 =
          .resp (stored.configResp versionId')) ∧
      ∀ name seq, seqs.lookup name = some seq → stored.seq name ≠ seq →
        ∃ rcs rc, runtimeConfigs = .ok rcs ∧ rcs.lookup name = some rc ∧ rc.serviceAddr = "" := by
  have same : ∀ {current : ConfigStore},
      (updatedSeqs current seqs' = [] ↔ updatedSeqs current seqs = []) ∧
        (deletedNames current seqs' = [] ↔ deletedNames current seqs = []) := by
    simp only [updatedSeqs_eq_nil_iff, deletedNames_eq_nil_iff, sameSeqs, implies_true, and_self]
  have quiet_iff : updatedSeqs stored seqs = [] ↔
      ¬∃ name seq, seqs.lookup name = some seq ∧ stored.seq name ≠ seq := by
    simp only [updatedSeqs_eq_nil_iff, not_exists, not_and, not_not]
  rcases answered with rfl | ⟨resp, rfl⟩
  · obtain ⟨rfl, -, seqs₀, found, noUpdated, noDeleted⟩ := load_noUpdate first
    cases found
    have quiet := quiet_iff.mp noUpdated
    rw [load_quiet (same.1.mpr noUpdated) (same.2.mpr noDeleted)]
    exact ⟨rfl, fun _ => rfl, fun differs => absurd differs quiet,
      fun name seq hseq differs => absurd ⟨name, seq, hseq, differs⟩ quiet⟩
  · obtain ⟨seqs₀, bucket₀, rcs, hcm⟩ := load_resp_configMap first
    simp only [ConfigMap.mk.injEq, Except.ok.injEq] at hcm
    obtain ⟨rfl, rfl, rfl⟩ := hcm
    obtain ⟨-, reloaded⟩ := load_resp first
    have noDeleted : deletedNames stored seqs = [] :=
      deletedNames_eq_nil_iff.mpr fun name present gone => by
        simp [(reloaded name).of_lookup_none gone] at present
    have skipped : ∀ name seq, seqs.lookup name = some seq → stored.seq name ≠ seq →
        ∃ rc, rcs.lookup name = some rc ∧ rc.serviceAddr = "" := by
      intro name seq hseq differs
      by_cases same : store.seq name = seq
      · exact absurd (seq_of_lookup_eq ((reloaded name).of_seq_eq hseq same) ▸ same) differs
      · obtain ⟨rc, found, ⟨noAddr, -⟩ | ⟨-, confs, -, entry⟩⟩ := (reloaded name).of_seq_ne hseq same
        · exact ⟨rc, found, noAddr⟩
        · exact absurd (by simp [ConfigStore.seq_eq, entry]) differs
    by_cases differs : ∃ name seq, seqs.lookup name = some seq ∧ stored.seq name ≠ seq
    · rw [load_only_skipped (same.2.mpr noDeleted) (mt same.1.mp (mt quiet_iff.mp (not_not.mpr differs)))
        fun e mem => skipped e.1 e.2 ((sameSeqs e.1).symm.trans (mem_updatedSeqs.mp mem).1)
          (mem_updatedSeqs.mp mem).2]
      exact ⟨rfl, fun quiet => absurd differs quiet, fun _ => rfl, fun name seq hseq differs =>
        (skipped name seq hseq differs).elim fun rc found => ⟨rcs, rc, rfl, found⟩⟩
    · rw [load_quiet (same.1.mpr (quiet_iff.mpr differs)) (same.2.mpr noDeleted)]
      exact ⟨rfl, fun _ => rfl, fun d => absurd d differs, fun name seq hseq d =>
        absurd ⟨name, seq, hseq, d⟩ differs⟩

end Twice

/-- The runtime config of `clang` with no service address. -/
def noAddrConfigs : Finmap fun _ : String => RuntimeConfig :=
  Finmap.singleton "clang" { clangRuntime with serviceAddr := "" }

/-- The first unforced call on the empty store answers a response and leaves the
store empty; the call right after it, on the same source, answers a response
again instead of `ErrNoUpdate`. -/
theorem load_twice_without_addr :
    load (fun _ _ => .ok []) ⟨.ok clangSeqs, .ok "toolchain-config", .ok noAddrConfigs⟩ "v1"
        .empty false = (.resp ⟨"v1", []⟩, .empty) ∧
      load (fun _ _ => .ok []) ⟨.ok clangSeqs, .ok "toolchain-config", .ok noAddrConfigs⟩ "v2"
        .empty false = (.resp ⟨"v2", []⟩, .empty) := by
  decide

theorem load_load_false_without_addr :
    (∀ name, clangSeqs.lookup name = clangSeqs.lookup name) ∧
      load (fun _ _ => .ok []) ⟨.ok clangSeqs, .ok "toolchain-config", .ok noAddrConfigs⟩ "v1"
        .empty false = (.resp ⟨"v1", []⟩, .empty) ∧
      (LoadResult.resp ⟨"v1", []⟩ = .noUpdate ∨ ∃ resp, LoadResult.resp ⟨"v1", []⟩ = .resp resp) ∧
      ((load (fun _ _ => .ok []) ⟨.ok clangSeqs, .ok "toolchain-config", .ok noAddrConfigs⟩ "v2"
          .empty false).2 = .empty ∧
        ((¬∃ name seq, clangSeqs.lookup name = some seq ∧ ConfigStore.empty.seq name ≠ seq) →
          (load (fun _ _ => .ok []) ⟨.ok clangSeqs, .ok "toolchain-config", .ok noAddrConfigs⟩ "v2"
            .empty false).1 = .noUpdate) ∧
        ((∃ name seq, clangSeqs.lookup name = some seq ∧ ConfigStore.empty.seq name ≠ seq) →
          (load (fun _ _ => .ok []) ⟨.ok clangSeqs, .ok "toolchain-config", .ok noAddrConfigs⟩ "v2"
            .empty false).1 = .resp (ConfigStore.empty.configResp "v2")) ∧
        ∀ name seq, clangSeqs.lookup name = some seq → ConfigStore.empty.seq name ≠ seq →
          ∃ rcs rc, (Except.ok noAddrConfigs : Except String _) = .ok rcs ∧
            rcs.lookup name = some rc ∧ rc.serviceAddr = "") :=
  have first : load (fun _ _ => .ok []) ⟨.ok clangSeqs, .ok "toolchain-config", .ok noAddrConfigs⟩
      "v1" .empty false = (.resp ⟨"v1", []⟩, .empty) := by decide
  ⟨fun _ => rfl, first, .inr ⟨_, rfl⟩, load_load_false (fun _ => rfl) first (.inr ⟨_, rfl⟩)⟩

/-! ## What the caller was handed -/

/-- The store, and the configs of the last response the caller was handed. -/
structure Served where
  store : ConfigStore
  served : List Config
  deriving DecidableEq

/-- A call, and what the caller holds after it. -/
def Call.serve (call : Call) (s : Served) : LoadResult × Served :=
  match call.run s.store with
  | (.resp resp, store) => (.resp resp, ⟨store, resp.configs⟩)
  | (result, store) => (result, ⟨store, s.served⟩)

/-- Each call of a run: its result and what the caller holds after it. -/
def serveTrace : Served → List Call → List (LoadResult × Served)
  | _, [] => []
  | s, call :: rest => call.serve s :: serveTrace (call.serve s).2 rest

/-- The configs `ConfigResp` would produce now are the last ones handed out. -/
def Synced (s : Served) : Prop := (s.store.configResp "").configs = s.served

instance (s : Served) : Decidable (Synced s) := inferInstanceAs (Decidable (_ = _))

/-- A config of the runtime `gcc`. -/
def gccConfig : Config where
  target := some "remoteexec"
  buildInfo := none
  cmdDescriptor := none
  remoteexecPlatform := none
  dimensions := []
  acl := none

/-- A store holding `gcc`, whose configs the caller was handed. -/
def gccServed : Served := ⟨ConfigStore.empty.set "gcc" "g" [gccConfig], [gccConfig]⟩

/-- `gcc` has left the config map, and the bucket name cannot be read. -/
def bucketFails : Call :=
  ⟨⟨.ok ∅, .error "bucket unavailable", .ok ∅⟩, fun _ _ => .ok [], "v1", false⟩

/-- The same map, and the bucket readable again. -/
def bucketBack : Call :=
  ⟨⟨.ok ∅, .ok "toolchain-config", .ok ∅⟩, fun _ _ => .ok [], "v2", false⟩

/-- The first call deletes `gcc` and then fails; the second finds nothing to do and
answers `ErrNoUpdate`, while the store would serve no config and the caller still
holds `gcc`'s. -/
theorem noUpdate_after_failed_delete :
    Synced gccServed ∧
      serveTrace gccServed [bucketFails, bucketBack] =
        [(.error "bucket unavailable", ⟨.empty, [gccConfig]⟩), (.noUpdate, ⟨.empty, [gccConfig]⟩)] ∧
      ¬Synced ⟨.empty, [gccConfig]⟩ := by
  decide

/-- Whether, after a call with `result` took the store from `before` to `after`,
some call since the last response has failed after changing the store. -/
def staleAfter (stale : Bool) (result : LoadResult) (before after : ConfigStore) : Bool :=
  match result with
  | .resp _ => false
  | .noUpdate => stale
  | .error _ => stale || decide (after ≠ before)

/-- `serveTrace`, each step also recording `staleAfter`. -/
def staleTrace : Served → Bool → List Call → List (LoadResult × Served × Bool)
  | _, _, [] => []
  | s, stale, call :: rest =>
      let stale' := staleAfter stale (call.serve s).1 s.store (call.serve s).2.store
      ((call.serve s).1, (call.serve s).2, stale') :: staleTrace (call.serve s).2 stale' rest

theorem staleTrace_forget (s : Served) (stale : Bool) (calls : List Call) :
    (staleTrace s stale calls).map (fun step => (step.1, step.2.1)) = serveTrace s calls := by
  induction calls generalizing s stale with
  | nil => rfl
  | cons call rest ih => simp [staleTrace, serveTrace, ih]

/-- A call keeps the configs in step with the last response unless it fails after
changing the store. -/
theorem serve_synced (call : Call) (s : Served) {stale : Bool} (synced : stale = false → Synced s) :
    staleAfter stale (call.serve s).1 s.store (call.serve s).2.store = false →
      Synced (call.serve s).2 := by
  unfold Call.serve
  have ran : load call.loader call.configMap call.versionId s.store call.force =
      ((call.run s.store).1, (call.run s.store).2) := rfl
  cases hrun : call.run s.store with
  | mk result store =>
      rw [hrun] at ran
      dsimp only at ran
      cases result with
      | resp resp =>
          obtain ⟨seqs, bucket, rcs, hcm⟩ := load_resp_configMap ran
          rw [hcm] at ran
          obtain ⟨rfl, -⟩ := load_resp ran
          exact fun _ => rfl
      | noUpdate =>
          obtain ⟨rfl, -⟩ := load_noUpdate ran
          exact synced
      | error err =>
          intro fresh
          simp only [staleAfter, Bool.or_eq_false_iff, decide_eq_false_iff_not, not_not] at fresh
          obtain ⟨rfl, rfl⟩ := fresh
          exact synced rfl

/-- Over every run from a caller holding what the store serves, a call that
answers `ErrNoUpdate` leaves the store serving the configs of the last response,
unless some call since that response failed after deleting or setting an entry. -/
theorem noUpdate_synced (s : Served) (synced : Synced s) (calls : List Call) :
    ∀ step ∈ staleTrace s false calls, step.1 = .noUpdate → step.2.2 = false → Synced step.2.1 := by
  suffices ∀ s stale, (stale = false → Synced s) →
      ∀ step ∈ staleTrace s stale calls, step.2.2 = false → Synced step.2.1 from
    fun step mem _ => this s false (fun _ => synced) step mem
  induction calls with
  | nil => simp [staleTrace]
  | cons call rest ih =>
      intro s stale synced step mem
      simp only [staleTrace, List.mem_cons] at mem
      rcases mem with rfl | mem
      · exact serve_synced call s synced
      · exact ih _ _ (serve_synced call s synced) step mem

/-- `gcc` under a new `seq`, its runtime config, and a loader that finds its config. -/
def gccUpdate : Call :=
  ⟨⟨.ok ((∅ : AList fun _ : String => String).insert "gcc" "g2"), .ok "toolchain-config",
      .ok (Finmap.singleton "gcc" { clangRuntime with name := "gcc" })⟩,
    fun _ _ => .ok [gccConfig], "v2", false⟩

/-- The first call reloads `gcc` and answers a response; the second, with nothing
changed, answers `ErrNoUpdate` with no failure since, and the store serves what
the response handed out. -/
theorem noUpdate_synced_gcc :
    Synced gccServed ∧
      (∀ step ∈ staleTrace gccServed false [gccUpdate, gccUpdate], step.1 = .noUpdate →
        step.2.2 = false → Synced step.2.1) ∧
      ((staleTrace gccServed false [gccUpdate, gccUpdate]).map fun step =>
          (decide (step.1 = .noUpdate), step.2.2)) = [(false, false), (true, false)] :=
  have synced : Synced gccServed := by decide
  ⟨synced, noUpdate_synced gccServed synced _, by decide⟩

end GomaServer
