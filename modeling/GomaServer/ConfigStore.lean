import Mathlib.Data.Finmap
import GomaServer.GoString
import GomaServer.Toolchain

/-!
# The config store

`ConfigStore` keeps, for every runtime name, the sequence token and the configs
of its last successful load. Its map is a `Finmap`: a Go map is a finite partial
function, and two stores are equal exactly when every name looks up alike.
-/

namespace GomaServer

/-- `configs`: what the store holds for one runtime. -/
structure Configs where
  seq : String
  configs : List Config
  deriving DecidableEq, Repr

/-- `ConfigStore`, keyed by toolchain runtime name. -/
structure ConfigStore where
  lastConfigs : Finmap (fun _ : String => Configs)
  deriving DecidableEq

namespace ConfigStore

/-- The store before its first `Set`. -/
def empty : ConfigStore := ⟨∅⟩

/-- `c.lastConfigs[name]`, with Go's missing entry as `none`. -/
def lookup (c : ConfigStore) (name : String) : Option Configs := c.lastConfigs.lookup name

/-- `List`: the runtime names, sorted. -/
def list (c : ConfigStore) : List String := sortStrings c.lastConfigs.keys

/-- `Set`. -/
def set (c : ConfigStore) (name seq : String) (confs : List Config) : ConfigStore :=
  ⟨c.lastConfigs.insert name ⟨seq, confs⟩⟩

/-- `Seq`: for a name the store lacks, Go's zero value, the empty string. -/
def seq (c : ConfigStore) (name : String) : String :=
  match c.lookup name with
  | some e => e.seq
  | none => ""

/-- `Delete`. -/
def delete (c : ConfigStore) (name : String) : ConfigStore := ⟨c.lastConfigs.erase name⟩

/-- `ConfigResp`: the configs of all runtimes, runtimes in sorted order. The
version identifier is the clock reading `versionID` returns. -/
def configResp (c : ConfigStore) (versionId : String) : ConfigResp :=
  ⟨versionId, c.list.flatMap fun name =>
    match c.lookup name with
    | some e => e.configs
    | none => []⟩

theorem ext {c d : ConfigStore} (h : ∀ name, c.lookup name = d.lookup name) : c = d := by
  cases c; cases d
  exact congrArg _ (Finmap.ext_lookup h)

@[simp] theorem lookup_empty (name : String) : empty.lookup name = none := rfl

@[simp] theorem lookup_set (c : ConfigStore) (name seq : String) (confs : List Config)
    (other : String) :
    (c.set name seq confs).lookup other =
      if other = name then some ⟨seq, confs⟩ else c.lookup other := by
  unfold lookup set
  split
  · subst other; exact Finmap.lookup_insert _
  · exact Finmap.lookup_insert_of_ne _ ‹_›

@[simp] theorem lookup_delete (c : ConfigStore) (name other : String) :
    (c.delete name).lookup other = if other = name then none else c.lookup other := by
  unfold lookup delete
  split
  · subst other; exact Finmap.lookup_erase _ _
  · exact Finmap.lookup_erase_ne ‹_›

theorem seq_eq (c : ConfigStore) (name : String) :
    c.seq name = ((c.lookup name).map Configs.seq).getD "" := by
  unfold seq; split <;> simp_all

@[simp] theorem mem_list (c : ConfigStore) (name : String) :
    name ∈ c.list ↔ (c.lookup name).isSome := by
  simp [list, lookup, Finmap.mem_keys, Finmap.lookup_isSome]

theorem list_nodup (c : ConfigStore) : c.list.Nodup := sortStrings_nodup _

/-- Deleting a set of names gives one store, whatever order the names come in. -/
theorem foldl_delete_perm {names names' : List String} (perm : names.Perm names')
    (c : ConfigStore) :
    names.foldl delete c = names'.foldl delete c :=
  perm.foldl_eq' (fun _ _ _ _ d => ConfigStore.ext fun n => by
    simp only [lookup_delete]; split_ifs <;> rfl) c

@[simp] theorem lookup_foldl_delete (names : List String) (c : ConfigStore) (other : String) :
    (names.foldl delete c).lookup other = if other ∈ names then none else c.lookup other := by
  induction names generalizing c with
  | nil => simp
  | cons name rest ih =>
      simp only [List.foldl_cons, ih, lookup_delete, List.mem_cons]
      by_cases h : other = name <;> simp [h]

end ConfigStore

end GomaServer
