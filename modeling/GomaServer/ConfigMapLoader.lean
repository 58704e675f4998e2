import Mathlib.Data.List.AList
import GomaServer.ConfigStore
import GomaServer.Storage

/-!
# ConfigMapLoader.Load

One reconciliation pass: delete the runtimes the config map dropped, reload those
whose sequence token changed, and serve the store; every call it makes may fail,
and what the store went through before a failure stays. A Go map `Load` ranges
over is an `AList` listed in the order of the range.
-/

namespace GomaServer

/-- What the `ConfigMap` interface answers during one call of `Load`. -/
structure ConfigMap where
  seqs : Except String (AList fun _ : String => String)
  bucket : Except String String
  runtimeConfigs : Except String (Finmap fun _ : String => RuntimeConfig)

/-- What `Load` returns: a response, `ErrNoUpdate`, or an error. -/
inductive LoadResult where
  | resp (resp : ConfigResp)
  | noUpdate
  | error (err : String)
  deriving DecidableEq, Repr

/-- `updated`: the entries of `seqs` whose token differs from the store's `Seq`. -/
def updatedSeqs (store : ConfigStore) (seqs : AList fun _ : String => String) :
    List (Σ _ : String, String) :=
  seqs.entries.filter fun e => store.seq e.1 != e.2

/-- `deleted`: the stored names that `seqs` lacks. -/
def deletedNames (store : ConfigStore) (seqs : AList fun _ : String => String) : List String :=
  store.list.filter fun name => name ∉ seqs

section Diff

variable {store : ConfigStore} {seqs : AList fun _ : String => String}

theorem mem_updatedSeqs {name seq : String} :
    (⟨name, seq⟩ : Σ _ : String, String) ∈ updatedSeqs store seqs ↔
      seqs.lookup name = some seq ∧ store.seq name ≠ seq := by
  simp [updatedSeqs, ← AList.mem_lookup_iff]

theorem mem_keys_updatedSeqs {name : String} :
    name ∈ (updatedSeqs store seqs).keys ↔ ∃ seq, seqs.lookup name = some seq ∧ store.seq name ≠ seq := by
  simp [List.mem_keys, mem_updatedSeqs]

theorem updatedSeqs_nodupKeys : (updatedSeqs store seqs).NodupKeys :=
  seqs.nodupKeys.sublist (List.filter_sublist _)

theorem updatedSeqs_eq_nil_iff :
    updatedSeqs store seqs = [] ↔ ∀ name seq, seqs.lookup name = some seq → store.seq name = seq := by
  simp only [List.eq_nil_iff_forall_not_mem]
  constructor
  · intro none name seq hseq
    by_contra differs
    exact none ⟨name, seq⟩ (mem_updatedSeqs.mpr ⟨hseq, differs⟩)
  · rintro all ⟨name, seq⟩ mem
    obtain ⟨hseq, differs⟩ := mem_updatedSeqs.mp mem
    exact differs (all name seq hseq)

theorem mem_deletedNames {name : String} :
    name ∈ deletedNames store seqs ↔ (store.lookup name).isSome ∧ seqs.lookup name = none := by
  simp [deletedNames, AList.lookup_eq_none]

theorem deletedNames_eq_nil_iff :
    deletedNames store seqs = [] ↔ ∀ name, (store.lookup name).isSome → seqs.lookup name ≠ none := by
  simp only [List.eq_nil_iff_forall_not_mem, mem_deletedNames, not_and]

/-- After the deletions, a name keeps its entry exactly when `seqs` has it. -/
theorem lookup_afterDelete (name : String) :
    ((deletedNames store seqs).foldl ConfigStore.delete store).lookup name =
      if seqs.lookup name = none then none else store.lookup name := by
  rw [ConfigStore.lookup_foldl_delete]
  by_cases h : seqs.lookup name = none <;> cases hs : store.lookup name <;>
    simp [h, hs, mem_deletedNames]

end Diff

section Load

variable (loader : String → RuntimeConfig → Except String (List Config))

/-- The loop of `Load` over `updated`: the error it stops at, if any, and the store. -/
def updateConfigs (bucket : String) (runtimeConfigs : Finmap fun _ : String => RuntimeConfig) :
    List (Σ _ : String, String) → ConfigStore → Option String × ConfigStore
  | [], store => (none, store)
  | ⟨name, seq⟩ :: rest, store =>
      match runtimeConfigs.lookup name with
      | none => (some ("runtime config " ++ name ++ " not found"), store)
      | some runtime =>
          if runtime.serviceAddr = "" then updateConfigs bucket runtimeConfigs rest store
          else
            match loader (gcsURI bucket name) runtime with
            | .error err => (some err, store)
            | .ok confs => updateConfigs bucket runtimeConfigs rest (store.set name seq confs)

/-- `ConfigMapLoader.Load`: the result and the store it leaves. `versionId` is the
clock reading `ConfigResp` stamps. -/
def load (configMap : ConfigMap) (versionId : String) (store : ConfigStore) (force : Bool) :
    LoadResult × ConfigStore :=
  match configMap.seqs with
  | .error err => (.error err, store)
  | .ok seqs =>
      let updated := updatedSeqs store seqs
      let deleted := deletedNames store seqs
      if updated.isEmpty ∧ deleted.isEmpty ∧ force = false then (.noUpdate, store)
      else
        let store := deleted.foldl ConfigStore.delete store
        match configMap.bucket with
        | .error err => (.error err, store)
        | .ok bucket =>
            match configMap.runtimeConfigs with
            | .error err => (.error err, store)
            | .ok runtimeConfigs =>
                match updateConfigs loader bucket runtimeConfigs updated store with
                | (some err, store) => (.error err, store)
                | (none, store) => (.resp (store.configResp versionId), store)

/-- What a `Load` that returns a response leaves under `name`: nothing when
`seqs` lacks it; the old entry when its token is the one `Seq` reads or its
runtime has no address; otherwise the new token with the loader's configs. -/
def Reloaded (bucket : String) (runtimeConfigs : Finmap fun _ : String => RuntimeConfig)
    (store : ConfigStore) (seqs : AList fun _ : String => String) (name : String)
    (entry : Option Configs) : Prop :=
  match seqs.lookup name with
  | none => entry = none
  | some seq =>
      if store.seq name = seq then entry = store.lookup name
      else ∃ rc, runtimeConfigs.lookup name = some rc ∧
        if rc.serviceAddr = "" then entry = store.lookup name
        else ∃ confs, loader (gcsURI bucket name) rc = .ok confs ∧ entry = some ⟨seq, confs⟩

variable {loader}

section Reloaded

variable {bucket : String} {runtimeConfigs : Finmap fun _ : String => RuntimeConfig}
  {store : ConfigStore} {seqs : AList fun _ : String => String} {name seq : String}
  {entry : Option Configs}

theorem Reloaded.of_lookup_none (h : Reloaded loader bucket runtimeConfigs store seqs name entry)
    (hseq : seqs.lookup name = none) : entry = none := by
  simpa only [Reloaded, hseq] using h

theorem Reloaded.of_seq_eq (h : Reloaded loader bucket runtimeConfigs store seqs name entry)
    (hseq : seqs.lookup name = some seq) (same : store.seq name = seq) :
    entry = store.lookup name := by
  simpa only [Reloaded, hseq, if_pos same] using h

/-- A name whose token differs keeps its entry when its runtime has no address,
and otherwise holds the new token with the loader's configs. -/
theorem Reloaded.of_seq_ne (h : Reloaded loader bucket runtimeConfigs store seqs name entry)
    (hseq : seqs.lookup name = some seq) (differs : store.seq name ≠ seq) :
    ∃ rc, runtimeConfigs.lookup name = some rc ∧
      (rc.serviceAddr = "" ∧ entry = store.lookup name ∨
        rc.serviceAddr ≠ "" ∧ ∃ confs, loader (gcsURI bucket name) rc = .ok confs ∧
          entry = some ⟨seq, confs⟩) := by
  simp only [Reloaded, hseq, if_neg differs] at h
  obtain ⟨rc, found, h⟩ := h
  by_cases noAddr : rc.serviceAddr = ""
  · exact ⟨rc, found, .inl ⟨noAddr, by simpa only [if_pos noAddr] using h⟩⟩
  · exact ⟨rc, found, .inr ⟨noAddr, by simpa only [if_neg noAddr] using h⟩⟩

end Reloaded

/-- What the loop does with one runtime: it stops, with the store as it is, at a
missing runtime config or at an error of the loader, and answers that error; it
skips a runtime without an address; or it sets the loader's configs and goes on. -/
theorem updateConfigs_cons {bucket : String}
    {runtimeConfigs : Finmap fun _ : String => RuntimeConfig} {name seq : String}
    {rest : List (Σ _ : String, String)} {store store' : ConfigStore} {err : Option String}
    (h : updateConfigs loader bucket runtimeConfigs (⟨name, seq⟩ :: rest) store = (err, store')) :
    (((runtimeConfigs.lookup name = none ∧ err = some ("runtime config " ++ name ++ " not found")) ∨
        ∃ rc e, runtimeConfigs.lookup name = some rc ∧ rc.serviceAddr ≠ "" ∧
          loader (gcsURI bucket name) rc = .error e ∧ err = some e) ∧ store' = store) ∨
      (∃ rc, runtimeConfigs.lookup name = some rc ∧ rc.serviceAddr = "" ∧
        updateConfigs loader bucket runtimeConfigs rest store = (err, store')) ∨
      ∃ rc confs, runtimeConfigs.lookup name = some rc ∧ rc.serviceAddr ≠ "" ∧
        loader (gcsURI bucket name) rc = .ok confs ∧
        updateConfigs loader bucket runtimeConfigs rest (store.set name seq confs) = (err, store') := by
  simp only [updateConfigs] at h
  split at h
  · cases h; exact .inl ⟨.inl ⟨‹_›, rfl⟩, rfl⟩
  · next rc found =>
      split at h
      · exact .inr (.inl ⟨rc, found, ‹_›, h⟩)
      · split at h
        · cases h; exact .inl ⟨.inr ⟨rc, _, found, ‹_›, ‹_›, rfl⟩, rfl⟩
        · exact .inr (.inr ⟨rc, _, found, ‹_›, ‹_›, h⟩)

/-- Each name the loop passes ends with its old entry or with the new token and
the loader's configs. -/
theorem updateConfigs_lookup {bucket : String} {runtimeConfigs : Finmap fun _ : String => RuntimeConfig}
    {updated : List (Σ _ : String, String)} {store store' : ConfigStore} {err : Option String}
    (h : updateConfigs loader bucket runtimeConfigs updated store = (err, store')) (name : String) :
    store'.lookup name = store.lookup name ∨
      ∃ seq rc confs, (⟨name, seq⟩ : Σ _ : String, String) ∈ updated ∧
        runtimeConfigs.lookup name = some rc ∧ rc.serviceAddr ≠ "" ∧
        loader (gcsURI bucket name) rc = .ok confs ∧ store'.lookup name = some ⟨seq, confs⟩ := by
  induction updated generalizing store with
  | nil => cases h; exact .inl rfl
  | cons entry rest ih =>
      obtain ⟨m, seq⟩ := entry
      rcases updateConfigs_cons h with ⟨-, rfl⟩ | ⟨rc, -, -, h⟩ | ⟨rc, confs, found, addr, loaded, h⟩
      · exact .inl rfl
      · exact (ih h).imp_right fun ⟨s, r, c, mem, more⟩ => ⟨s, r, c, List.mem_cons_of_mem _ mem, more⟩
      · rcases ih h with same | ⟨s, r, c, mem, more⟩
        · by_cases hn : name = m
          · subst hn
            exact .inr ⟨seq, rc, confs, List.mem_cons_self _ _, found, addr, loaded, by simp [same]⟩
          · exact .inl (by simp [same, hn])
        · exact .inr ⟨s, r, c, List.mem_cons_of_mem _ mem, more⟩

/-- A loop that stops does so at a runtime it passes, for want of its runtime
config or with its loader's error. -/
theorem updateConfigs_error {bucket : String}
    {runtimeConfigs : Finmap fun _ : String => RuntimeConfig}
    {updated : List (Σ _ : String, String)} {store store' : ConfigStore} {err : String}
    (h : updateConfigs loader bucket runtimeConfigs updated store = (some err, store')) :
    ∃ name seq, (⟨name, seq⟩ : Σ _ : String, String) ∈ updated ∧
      ((runtimeConfigs.lookup name = none ∧ err = "runtime config " ++ name ++ " not found") ∨
        ∃ rc, runtimeConfigs.lookup name = some rc ∧ loader (gcsURI bucket name) rc = .error err) := by
  induction updated generalizing store with
  | nil => cases h
  | cons entry rest ih =>
      obtain ⟨m, seq⟩ := entry
      rcases updateConfigs_cons h with ⟨⟨missing, stopped⟩ | ⟨rc, e, found, -, failed, stopped⟩, -⟩ |
          ⟨_, -, -, h⟩ | ⟨_, _, -, -, -, h⟩
      · exact ⟨m, seq, List.mem_cons_self _ _, .inl ⟨missing, Option.some.inj stopped⟩⟩
      · exact ⟨m, seq, List.mem_cons_self _ _, .inr ⟨rc, found, Option.some.inj stopped ▸ failed⟩⟩
      all_goals
        obtain ⟨name, seq', mem, why⟩ := ih h
        exact ⟨name, seq', List.mem_cons_of_mem _ mem, why⟩

/-- A loop over runtimes that all lack an address changes nothing. -/
theorem updateConfigs_skipped {bucket : String}
    {runtimeConfigs : Finmap fun _ : String => RuntimeConfig}
    {updated : List (Σ _ : String, String)} (store : ConfigStore)
    (skipped : ∀ e ∈ updated, ∃ rc, runtimeConfigs.lookup e.1 = some rc ∧ rc.serviceAddr = "") :
    updateConfigs loader bucket runtimeConfigs updated store = (none, store) := by
  induction updated with
  | nil => rfl
  | cons entry rest ih =>
      obtain ⟨rc, found, noAddr⟩ := skipped entry (List.mem_cons_self _ _)
      obtain ⟨name, seq⟩ := entry
      simp only [updateConfigs, found, noAddr, if_true]
      exact ih fun e mem => skipped e (List.mem_cons_of_mem _ mem)

/-- A loop that runs to its end reloads every runtime it passes that has an
address, and touches nothing else. -/
theorem updateConfigs_none {bucket : String}
    {runtimeConfigs : Finmap fun _ : String => RuntimeConfig}
    {updated : List (Σ _ : String, String)} {store store' : ConfigStore}
    (nodup : updated.NodupKeys)
    (h : updateConfigs loader bucket runtimeConfigs updated store = (none, store')) :
    (∀ name, name ∉ updated.keys → store'.lookup name = store.lookup name) ∧
      ∀ name seq, (⟨name, seq⟩ : Σ _ : String, String) ∈ updated →
        ∃ rc, runtimeConfigs.lookup name = some rc ∧
          if rc.serviceAddr = "" then store'.lookup name = store.lookup name
          else ∃ confs, loader (gcsURI bucket name) rc = .ok confs ∧
            store'.lookup name = some ⟨seq, confs⟩ := by
  induction updated generalizing store with
  | nil => cases h; exact ⟨fun _ _ => rfl, by simp⟩
  | cons entry rest ih =>
      obtain ⟨m, seq⟩ := entry
      have fresh : m ∉ rest.keys := (List.nodupKeys_cons.mp nodup).1
      rcases updateConfigs_cons h with ⟨stopped, -⟩ | ⟨rc, found, noAddr, h⟩ |
          ⟨rc, confs, found, addr, loaded, h⟩
      · rcases stopped with ⟨-, stopped⟩ | ⟨_, _, -, -, -, stopped⟩ <;> cases stopped
      · obtain ⟨untouched, reloaded⟩ := ih (List.nodupKeys_cons.mp nodup).2 h
        refine ⟨fun n out => untouched n (by simp_all [List.keys_cons]), ?_⟩
        intro n s mem
        rcases List.mem_cons.mp mem with same | mem
        · cases same
          exact ⟨rc, found, by simp [noAddr, untouched m fresh]⟩
        · exact reloaded n s mem
      · obtain ⟨untouched, reloaded⟩ := ih (List.nodupKeys_cons.mp nodup).2 h
        refine ⟨fun n out => ?_, ?_⟩
        · have ne : n ≠ m := fun eq => out (by simp [eq, List.keys_cons])
          rw [untouched n (by simp_all [List.keys_cons])]
          simp [ne]
        intro n s mem
        rcases List.mem_cons.mp mem with same | mem
        · cases same
          exact ⟨rc, found, by simp [addr, loaded, untouched m fresh]⟩
        · have ne : n ≠ m := fun eq => fresh (eq ▸ List.mem_keys_of_mem mem)
          obtain ⟨r, hr, rest⟩ := reloaded n s mem
          exact ⟨r, hr, by simpa [ne] using rest⟩

theorem load_resp {seqs : AList fun _ : String => String} {bucket versionId : String}
    {runtimeConfigs : Finmap fun _ : String => RuntimeConfig} {store store' : ConfigStore}
    {force : Bool} {resp : ConfigResp}
    (h : load loader ⟨.ok seqs, .ok bucket, .ok runtimeConfigs⟩ versionId store force =
      (.resp resp, store')) :
    resp = store'.configResp versionId ∧
      ∀ name, Reloaded loader bucket runtimeConfigs store seqs name (store'.lookup name) := by
  simp only [load] at h
  split at h
  · cases h
  split at h
  · cases h
  next reloaded loop =>
  cases h
  obtain ⟨untouched, updated⟩ := updateConfigs_none updatedSeqs_nodupKeys loop
  refine ⟨rfl, fun name => ?_⟩
  unfold Reloaded
  cases hseq : seqs.lookup name with
  | none =>
      rw [untouched name (by simp [mem_keys_updatedSeqs, hseq]), lookup_afterDelete, hseq, if_pos rfl]
  | some seq =>
      dsimp only
      by_cases same : store.seq name = seq
      · rw [if_pos same, untouched name (by simp [mem_keys_updatedSeqs, hseq, same]),
          lookup_afterDelete, hseq]
        rfl
      · rw [if_neg same]
        obtain ⟨rc, found, entry⟩ := updated name seq (mem_updatedSeqs.mpr ⟨hseq, same⟩)
        rw [lookup_afterDelete, hseq] at entry
        exact ⟨rc, found, by simpa using entry⟩

theorem load_noUpdate {configMap : ConfigMap} {versionId : String} {store store' : ConfigStore}
    {force : Bool} (h : load loader configMap versionId store force = (.noUpdate, store')) :
    store' = store ∧ force = false ∧ ∃ seqs, configMap.seqs = .ok seqs ∧
      updatedSeqs store seqs = [] ∧ deletedNames store seqs = [] := by
  simp only [load] at h
  split at h
  · cases h
  next seqs found =>
  split at h
  · next quiet =>
      cases h
      simp only [List.isEmpty_iff] at quiet
      exact ⟨rfl, quiet.2.2, seqs, found, quiet.1, quiet.2.1⟩
  · repeat' split at h
    all_goals cases h

/-- A call fails with an error of the config map, or with the error its loop
stops at: a runtime it reloads has no runtime config, or its loader fails. -/
theorem load_error {configMap : ConfigMap} {versionId : String} {store store' : ConfigStore}
    {force : Bool} {err : String}
    (h : load loader configMap versionId store force = (.error err, store')) :
    configMap.seqs = .error err ∨ configMap.bucket = .error err ∨
      configMap.runtimeConfigs = .error err ∨
      ∃ seqs bucket runtimeConfigs name seq, configMap.seqs = .ok seqs ∧
        configMap.bucket = .ok bucket ∧ configMap.runtimeConfigs = .ok runtimeConfigs ∧
        (⟨name, seq⟩ : Σ _ : String, String) ∈ updatedSeqs store seqs ∧
        ((runtimeConfigs.lookup name = none ∧ err = "runtime config " ++ name ++ " not found") ∨
          ∃ rc, runtimeConfigs.lookup name = some rc ∧ loader (gcsURI bucket name) rc = .error err) := by
  simp only [load] at h
  split at h
  · cases h; exact .inl ‹_›
  next seqs foundSeqs =>
  split at h
  · cases h
  split at h
  · cases h; exact .inr (.inl ‹_›)
  next bucket foundBucket =>
  split at h
  · cases h; exact .inr (.inr (.inl ‹_›))
  next runtimeConfigs foundConfigs =>
  split at h
  · next loop =>
      cases h
      obtain ⟨name, seq, mem, why⟩ := updateConfigs_error loop
      exact .inr (.inr (.inr ⟨seqs, bucket, runtimeConfigs, name, seq, foundSeqs, foundBucket,
        foundConfigs, mem, why⟩))
  · cases h

/-- Whatever a call returns, each name ends with its old entry, loses it to the
deletions, or holds the new token with the loader's configs. -/
theorem load_lookup {configMap : ConfigMap} {versionId : String} {store store' : ConfigStore}
    {force : Bool} {result : LoadResult}
    (h : load loader configMap versionId store force = (result, store')) (name : String) :
    store'.lookup name = store.lookup name ∨
      (∃ seqs, configMap.seqs = .ok seqs ∧ seqs.lookup name = none ∧ store'.lookup name = none) ∨
      ∃ seqs seq bucket runtimeConfigs rc confs, configMap.seqs = .ok seqs ∧
        seqs.lookup name = some seq ∧ store.seq name ≠ seq ∧ configMap.bucket = .ok bucket ∧
        configMap.runtimeConfigs = .ok runtimeConfigs ∧ runtimeConfigs.lookup name = some rc ∧
        rc.serviceAddr ≠ "" ∧ loader (gcsURI bucket name) rc = .ok confs ∧
        store'.lookup name = some ⟨seq, confs⟩ := by
  simp only [load] at h
  split at h
  · cases h; exact .inl rfl
  next seqs found =>
  have deleted : store'.lookup name = ((deletedNames store seqs).foldl ConfigStore.delete store).lookup name →
      store'.lookup name = store.lookup name ∨
        (∃ seqs', configMap.seqs = .ok seqs' ∧ seqs'.lookup name = none ∧ store'.lookup name = none) := by
    intro eq
    rw [eq, lookup_afterDelete]
    by_cases hseq : seqs.lookup name = none
    · exact .inr ⟨seqs, found, hseq, by simp [hseq]⟩
    · exact .inl (by simp [hseq])
  split at h
  · cases h; exact .inl rfl
  split at h
  · cases h; exact (deleted rfl).elim .inl (.inr ∘ .inl)
  next bucket foundBucket =>
  split at h
  · cases h; exact (deleted rfl).elim .inl (.inr ∘ .inl)
  next runtimeConfigs foundConfigs =>
  have loop := fun err store'' (loop : updateConfigs loader bucket runtimeConfigs
      (updatedSeqs store seqs) ((deletedNames store seqs).foldl ConfigStore.delete store) =
        (err, store'')) => updateConfigs_lookup loop name
  split at h <;> cases h
  all_goals
    rcases loop _ _ ‹_› with same | ⟨seq, rc, confs, mem, rcFound, addr, loaded, entry⟩
    · exact (deleted same).elim .inl (.inr ∘ .inl)
    · obtain ⟨hseq, differs⟩ := mem_updatedSeqs.mp mem
      exact .inr (.inr ⟨seqs, seq, bucket, runtimeConfigs, rc, confs, found, hseq, differs,
        foundBucket, foundConfigs, rcFound, addr, loaded, entry⟩)

end Load

/-! ## A new runtime whose token is empty -/

/-- A runtime `clang` served at `remoteexec`. -/
def clangRuntime : RuntimeConfig where
  name := "clang"
  serviceAddr := "remoteexec"
  platform := none
  platformRuntimeConfig := none
  acl := none
  allowedPrebuilts := []
  disallowedPrebuilts := []
  disallowedCommands := []

/-- A config map whose one runtime, `clang`, has the empty string as its token. -/
def emptyTokenConfigMap : ConfigMap where
  seqs := .ok ((∅ : AList fun _ : String => String).insert "clang" "")
  bucket := .ok "toolchain-config"
  runtimeConfigs := .ok (Finmap.singleton "clang" clangRuntime)

/-- `clang` is new to the empty store, has an address, and a forced load answers
with a response, yet the store stays empty: `Seq` reads the missing entry as the
empty string, which equals the token. -/
theorem load_skips_new_empty_token :
    load (fun _ _ => .ok []) emptyTokenConfigMap "v1" ConfigStore.empty true =
      (.resp ⟨"v1", []⟩, ConfigStore.empty) := by
  decide

/-- The same map against the empty store: `clang` is in the map and not in the
store, yet `Load` answers `ErrNoUpdate`. -/
theorem load_noUpdate_new_empty_token :
    load (fun _ _ => .ok []) emptyTokenConfigMap "v1" ConfigStore.empty false =
      (.noUpdate, ConfigStore.empty) := by
  decide

end GomaServer
