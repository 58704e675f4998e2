import GomaServer.GoString

/-!
# The PATH of an nsjail config

`pathFromToolchainSpec` puts the directory of every file of a toolchain in a map,
ranges over the map, drops `""` and `.`, and sorts what is left before joining it
with `:`, since Go fixes no order for a range. The sort makes the result the join
of the ascending list of those directories, whatever order the range takes and
whatever order and repetitions the toolchain's files come in
(`pathFromToolchainSpec_eq_join`).
-/

namespace GomaServer

/-- An order a Go `range` over a map may visit the map's keys in: each key once. -/
structure RangeOrder where
  visit : Finset String → List String
  visit_perm : ∀ keys, (visit keys : Multiset String) = keys.val

/-- The range in ascending order. -/
def RangeOrder.ascending : RangeOrder := ⟨sortStrings, sortStrings_perm⟩

namespace RangeOrder

theorem mem_visit (range : RangeOrder) {keys : Finset String} {k : String} :
    k ∈ range.visit keys ↔ k ∈ keys := by
  rw [← Multiset.mem_coe, range.visit_perm, Finset.mem_val]

theorem visit_nodup (range : RangeOrder) (keys : Finset String) : (range.visit keys).Nodup := by
  rw [← Multiset.coe_nodup, range.visit_perm]
  exact keys.nodup

end RangeOrder

/-- Two strictly ascending lists with the same members are one list. -/
theorem eq_of_sorted_of_mem_iff {l₁ l₂ : List String} (sorted₁ : l₁.Sorted (· < ·))
    (sorted₂ : l₂.Sorted (· < ·)) (same : ∀ x, x ∈ l₁ ↔ x ∈ l₂) : l₁ = l₂ :=
  List.eq_of_perm_of_sorted ((List.perm_ext_iff_of_nodup sorted₁.nodup sorted₂.nodup).mpr same)
    sorted₁.le_of_lt sorted₂.le_of_lt

namespace Remoteexec

/-- The `clientFilePath` interface, which src does not contain, by the one method
`pathFromToolchainSpec` calls. -/
structure ClientFilePath where
  dir : String → String

/-- `gomapb.ToolchainSpec`, by the one field read here. A nil spec reads as the
empty path. -/
structure ToolchainSpec where
  path : String
  deriving DecidableEq, Repr

/-- The keys of `m`: the directory of every spec's path. -/
def toolchainDirs (cfp : ClientFilePath) (ts : List ToolchainSpec) : Finset String :=
  (ts.map fun e => cfp.dir e.path).toFinset

/-- `pathFromToolchainSpec`, with the range over `m` visiting its keys in the
order of `range`. -/
def pathFromToolchainSpec (range : RangeOrder) (cfp : ClientFilePath)
    (ts : List ToolchainSpec) : String :=
  let m := toolchainDirs cfp ts
  let r := (range.visit m).filter fun k => !(k == "" || k == ".")
  ":".intercalate (r.insertionSort GoLE)

theorem mem_toolchainDirs {cfp : ClientFilePath} {ts : List ToolchainSpec} {d : String} :
    d ∈ toolchainDirs cfp ts ↔ ∃ e ∈ ts, cfp.dir e.path = d := by
  simp [toolchainDirs]

/-- Whatever order the range takes, the joined list is strictly ascending and holds
the directories other than `""` and `.`. -/
theorem pathFromToolchainSpec_sorted (range : RangeOrder) (cfp : ClientFilePath)
    (ts : List ToolchainSpec) :
    ∃ dirs : List String, dirs.Sorted (· < ·) ∧
      (∀ d, d ∈ dirs ↔ (∃ e ∈ ts, cfp.dir e.path = d) ∧ d ≠ "" ∧ d ≠ ".") ∧
      pathFromToolchainSpec range cfp ts = ":".intercalate dirs := by
  let r := (range.visit (toolchainDirs cfp ts)).filter fun k => !(k == "" || k == ".")
  have sorted : (r.insertionSort GoLE).Sorted (· ≤ ·) :=
    (List.sorted_insertionSort GoLE r).imp fun h => (goLE_iff _ _).mp h
  have nodup : (r.insertionSort GoLE).Nodup :=
    (List.perm_insertionSort GoLE r).nodup_iff.mpr ((range.visit_nodup _).filter _)
  refine ⟨r.insertionSort GoLE, sorted.lt_of_le nodup, fun d => ?_, rfl⟩
  rw [(List.perm_insertionSort GoLE r).mem_iff, List.mem_filter, range.mem_visit,
    mem_toolchainDirs]
  simp

/-- `pathFromToolchainSpec` is the `:`-join of the ascending list of the
directories other than `""` and `.`, for every order of the range; so two
toolchains with the same directories give the same string. -/
theorem pathFromToolchainSpec_eq_join (range : RangeOrder) (cfp : ClientFilePath)
    (ts : List ToolchainSpec) :
    (∃ dirs : List String, dirs.Sorted (· < ·) ∧
      (∀ d, d ∈ dirs ↔ (∃ e ∈ ts, cfp.dir e.path = d) ∧ d ≠ "" ∧ d ≠ ".") ∧
      pathFromToolchainSpec range cfp ts = ":".intercalate dirs) ∧
    ∀ (range' : RangeOrder) (cfp' : ClientFilePath) (ts' : List ToolchainSpec),
      (∀ d, (∃ e ∈ ts', cfp'.dir e.path = d) ↔ ∃ e ∈ ts, cfp.dir e.path = d) →
      pathFromToolchainSpec range' cfp' ts' = pathFromToolchainSpec range cfp ts := by
  refine ⟨pathFromToolchainSpec_sorted range cfp ts, fun range' cfp' ts' sameDirs => ?_⟩
  obtain ⟨dirs, sorted, mem, joined⟩ := pathFromToolchainSpec_sorted range cfp ts
  obtain ⟨dirs', sorted', mem', joined'⟩ := pathFromToolchainSpec_sorted range' cfp' ts'
  rw [joined, joined', eq_of_sorted_of_mem_iff sorted' sorted fun d => by rw [mem', mem, sameDirs]]

example : pathFromToolchainSpec .ascending ⟨pathDir⟩
    [⟨"bin/clang"⟩, ⟨"lib/libc.so"⟩, ⟨"clang"⟩, ⟨"bin/ld"⟩] = "bin:lib" := by
  decide

end Remoteexec

end GomaServer
