import Mathlib.Algebra.Group.Int
import Mathlib.Algebra.Group.Nat.Basic

/-!
# Memory admission in the frontend and the file server

Both servers turn requests away when their resident memory is too large: they read
the resident size, and if it is over a threshold run a GC and read it again; a
request turned away marks the server unhealthy with a message naming the sizes.
The sizes are Go `int64`s, whose sums and differences wrap (`wrap64`).
-/

namespace GomaServer.Admission

/-- Go's `int64` arithmetic: a result wraps into `[-2^63, 2^63)`. -/
def wrap64 (x : Int) : Int := x.bmod (2 ^ 64)

theorem wrap64_of_mem {x : Int} (lo : -2 ^ 63 ≤ x) (hi : x < 2 ^ 63) : wrap64 x = x := by
  rw [wrap64, Int.bmod_def]
  split <;> omega

/-- The gRPC codes the checks answer with. -/
inductive Code where
  | resourceExhausted
  | unavailable
  deriving DecidableEq, Repr

/-- A gRPC status error. -/
structure Status where
  code : Code
  message : String
  deriving DecidableEq, Repr

/-- How a check ends: it admits the request, or marks the server unhealthy with a
message and turns the request away, or panics reading through a nil pointer. -/
inductive Outcome where
  | admitted
  | reject (unhealthy : String) (status : Status)
  | nilDereference
  deriving DecidableEq, Repr

/-! ## The frontend -/

/-- `memoryCheck`. -/
structure MemoryCheck where
  hardThreshold : Int
  softThreshold : Int
  deriving DecidableEq, Repr

/-- `memoryCheck.Admit`, given what `server.ResidentMemorySize` reads, `rss`, and
what `server.GC` reads after collecting, `gcRSS`. -/
def MemoryCheck.admit (mc : MemoryCheck) (rss gcRSS : Int) : Outcome :=
  if mc.softThreshold ≤ 0 then .admitted
  else if rss ≤ mc.softThreshold then .admitted
  else if gcRSS ≤ mc.softThreshold then .admitted
  else
    .reject ("memory size " ++ toString gcRSS ++ " > soft threshold:" ++
        toString mc.softThreshold ++ ": over=" ++ toString (wrap64 (gcRSS - mc.softThreshold)))
      (if mc.hardThreshold > 0 ∧ gcRSS > mc.hardThreshold then
        ⟨.resourceExhausted, "server resource exhausted"⟩
      else ⟨.unavailable, "server unavailable"⟩)

/-- The `memoryCheck` of the frontend's `main`, from the value of the quantity
`--memory-margin` (`none` when the flag is empty) and `server.MemoryLimit()`; the
thresholds stay zero when either is missing. -/
def memoryChecker (margin : Option Int) (limit : Except String Int) : MemoryCheck :=
  match margin, limit with
  | some q, .ok limit => ⟨wrap64 (limit - q), wrap64 (limit - wrap64 (2 * q))⟩
  | _, _ => ⟨0, 0⟩

/-- The message `Admit` marks the server unhealthy with. -/
def softMessage (gcRSS softThreshold : Int) : String :=
  "memory size " ++ toString gcRSS ++ " > soft threshold:" ++ toString softThreshold ++
    ": over=" ++ toString (gcRSS - softThreshold)

/-- A frontend whose `main` set no thresholds admits every request. -/
theorem admit_unset (mc : MemoryCheck) (unset : mc.softThreshold ≤ 0) (rss gcRSS : Int) :
    MemoryCheck.admit mc rss gcRSS = .admitted := by
  simp [unset, MemoryCheck.admit]

/-- With the thresholds the frontend's `main` sets from a positive margin `q` and
a known limit `L`, the sizes being `int64`s that do not overflow, `Admit` turns a
request away exactly when the memory is over `L - 2q` both before and after the
GC. It then marks the server unhealthy, and answers `ResourceExhausted` when the
memory after the GC is over `L - q`, and `Unavailable` otherwise. Without a
margin or a known limit it admits every request. -/
theorem admit_memoryChecker (q L : Int) (positive : 0 < q) (small : 2 * q < 2 ^ 63)
    (bounded : 0 ≤ L ∧ L < 2 ^ 63) (rss gcRSS : Int) (gcBounded : 0 ≤ gcRSS ∧ gcRSS < 2 ^ 63) :
    MemoryCheck.admit (memoryChecker (some q) (.ok L)) rss gcRSS =
      (if 0 < L - 2 * q ∧ L - 2 * q < rss ∧ L - 2 * q < gcRSS then
        .reject (softMessage gcRSS (L - 2 * q))
          (if L - q < gcRSS then ⟨.resourceExhausted, "server resource exhausted"⟩
          else ⟨.unavailable, "server unavailable"⟩)
      else .admitted) ∧
    ∀ margin limit, (margin = none ∨ ∃ err, limit = .error err) →
      MemoryCheck.admit (memoryChecker margin limit) rss gcRSS = .admitted := by
  refine ⟨?_, fun margin limit unset => admit_unset _ ?_ rss gcRSS⟩
  · have hard : wrap64 (L - q) = L - q := wrap64_of_mem (by omega) (by omega)
    have twice : wrap64 (2 * q) = 2 * q := wrap64_of_mem (by omega) (by omega)
    have soft : wrap64 (L - 2 * q) = L - 2 * q := wrap64_of_mem (by omega) (by omega)
    simp only [memoryChecker, twice, hard, soft, MemoryCheck.admit]
    by_cases rejected : 0 < L - 2 * q ∧ L - 2 * q < rss ∧ L - 2 * q < gcRSS
    · obtain ⟨pos, before, after⟩ := rejected
      have over : wrap64 (gcRSS - (L - 2 * q)) = gcRSS - (L - 2 * q) :=
        wrap64_of_mem (by omega) (by omega)
      have hardPos : L - q > 0 := by omega
      simp only [if_neg (Int.not_le.mpr pos), if_neg (Int.not_le.mpr before),
        if_neg (Int.not_le.mpr after),
        if_pos (And.intro pos (And.intro before after)), over, hardPos, true_and, softMessage,
        gt_iff_lt]
    · rw [if_neg rejected]
      split_ifs with unset before after
      all_goals first | rfl | exact absurd ⟨by omega, by omega, by omega⟩ rejected
  · rcases unset with rfl | ⟨err, rfl⟩
    · exact Int.le_refl 0
    · cases margin <;> exact Int.le_refl 0

/-- With `--memory-margin=64Mi` and a limit of 1 GiB, a GiB of memory that a GC
does not free is over the soft threshold of 896 MiB and under the hard one of
960 MiB. -/
theorem admit_memoryChecker_one_gib :
    (0 : Int) < 67108864 ∧ 2 * (67108864 : Int) < 2 ^ 63 ∧
    ((0 : Int) ≤ 1073741824 ∧ (1073741824 : Int) < 2 ^ 63) ∧
    ((0 : Int) ≤ 1000000000 ∧ (1000000000 : Int) < 2 ^ 63) ∧
    MemoryCheck.admit (memoryChecker (some 67108864) (.ok 1073741824)) 1000000000
      1000000000 =
      (if 0 < 1073741824 - 2 * 67108864 ∧ 1073741824 - 2 * 67108864 < (1000000000 : Int) ∧
          1073741824 - 2 * 67108864 < (1000000000 : Int) then
        .reject (softMessage 1000000000 (1073741824 - 2 * 67108864))
          (if 1073741824 - 67108864 < (1000000000 : Int) then
            ⟨.resourceExhausted, "server resource exhausted"⟩
          else ⟨.unavailable, "server unavailable"⟩)
      else .admitted) ∧
    ∀ margin limit, (margin = none ∨ ∃ err, limit = .error err) →
      MemoryCheck.admit (memoryChecker margin limit) 1000000000 1000000000 = .admitted :=
  ⟨by decide, by decide, ⟨by decide, by decide⟩, ⟨by decide, by decide⟩,
    admit_memoryChecker 67108864 1073741824 (by decide) (by decide) ⟨by decide, by decide⟩
      1000000000 1000000000 ⟨by decide, by decide⟩⟩

/-! ## The file server -/

/-- `cachepb.KV`, by what `AdmitPut` reads. -/
structure KV where
  key : String
  value : List UInt8
  deriving DecidableEq, Repr

/-- `cachepb.PutReq`, by its `kv`, `none` when it is nil. -/
structure PutReq where
  kv : Option KV
  deriving DecidableEq, Repr

/-- `len(in.Kv.Key) + len(in.Kv.Value)`: the entry's size in bytes. -/
def KV.size (kv : KV) : Int := kv.key.utf8ByteSize + kv.value.length

/-- `admissionController`. -/
structure AdmissionController where
  limit : Int
  deriving DecidableEq, Repr

/-- The message `AdmitPut` marks the server unhealthy with and answers. -/
def putMessage (rss size limit gcRSS : Int) : String :=
  "memory size " ++ toString rss ++ " + req:" ++ toString size ++ " > limit " ++
    toString limit ++ ": gc->" ++ toString gcRSS

/-- `admissionController.AdmitPut`, given what `server.ResidentMemorySize` reads,
`rss`, and what `server.GC` reads after collecting, `gcRSS`. -/
def AdmissionController.admitPut (a : AdmissionController) (req : PutReq) (rss gcRSS : Int) :
    Outcome :=
  if a.limit ≤ 0 then .admitted
  else
    match req.kv with
    | none => .nilDereference
    | some kv =>
        if wrap64 (rss + wrap64 (2 * kv.size)) ≤ a.limit then .admitted
        else if wrap64 (gcRSS + wrap64 (2 * kv.size)) ≤ a.limit then .admitted
        else
          .reject (putMessage rss kv.size a.limit gcRSS)
            ⟨.resourceExhausted, putMessage rss kv.size a.limit gcRSS⟩

/-- The `admissionController` of the file server's `main`, from
`server.MemoryLimit()` and `file.DefaultMaxMsgSize`; there is none when the limit
is unknown. -/
def fileServerAdmission (limit : Except String Int) (defaultMaxMsgSize : Int) :
    Option AdmissionController :=
  match limit with
  | .ok limit => some ⟨wrap64 (limit - 2 * defaultMaxMsgSize)⟩
  | .error _ => none

/-- With the limit the file server's `main` sets from a known memory limit `L`
and a message size `M`, when `L - 2M` is positive, `AdmitPut` panics on a request
without an entry. It turns an entry of `s` bytes away exactly when the memory
plus `2s` is over `L - 2M` both before and after the GC, and then marks the server
unhealthy with the message it answers `ResourceExhausted` with. The sizes are
`int64`s that do not overflow. -/
theorem admitPut_fileServer (L M : Int) (bounded : 0 ≤ L ∧ L < 2 ^ 63)
    (msgSize : 0 < M ∧ 2 * M < 2 ^ 63) (set : 0 < L - 2 * M) (rss gcRSS : Int)
    (readings : 0 ≤ rss ∧ rss < 2 ^ 62 ∧ 0 ≤ gcRSS ∧ gcRSS < 2 ^ 62) :
    fileServerAdmission (.ok L) M = some ⟨L - 2 * M⟩ ∧
    (AdmissionController.admitPut ⟨L - 2 * M⟩ ⟨none⟩ rss gcRSS = .nilDereference) ∧
    ∀ kv : KV, kv.size < 2 ^ 61 →
      AdmissionController.admitPut ⟨L - 2 * M⟩ ⟨some kv⟩ rss gcRSS =
        if L - 2 * M < rss + 2 * kv.size ∧ L - 2 * M < gcRSS + 2 * kv.size then
          .reject (putMessage rss kv.size (L - 2 * M) gcRSS)
            ⟨.resourceExhausted, putMessage rss kv.size (L - 2 * M) gcRSS⟩
        else .admitted := by
  have limit : wrap64 (L - 2 * M) = L - 2 * M := wrap64_of_mem (by omega) (by omega)
  refine ⟨by rw [fileServerAdmission, limit],
    by simp [AdmissionController.admitPut, Int.not_le.mpr set], fun kv small => ?_⟩
  have size : 0 ≤ kv.size := by
    unfold KV.size
    omega
  have twice : wrap64 (2 * kv.size) = 2 * kv.size := wrap64_of_mem (by omega) (by omega)
  have before : wrap64 (rss + 2 * kv.size) = rss + 2 * kv.size := wrap64_of_mem (by omega) (by omega)
  have after : wrap64 (gcRSS + 2 * kv.size) = gcRSS + 2 * kv.size :=
    wrap64_of_mem (by omega) (by omega)
  simp only [AdmissionController.admitPut, if_neg (Int.not_le.mpr set), twice, before, after]
  by_cases rejected : L - 2 * M < rss + 2 * kv.size ∧ L - 2 * M < gcRSS + 2 * kv.size
  · rw [if_neg (Int.not_le.mpr rejected.1), if_neg (Int.not_le.mpr rejected.2), if_pos rejected]
  · rw [if_neg rejected]
    split_ifs
    all_goals first | rfl | exact absurd ⟨by omega, by omega⟩ rejected

/-- A memory limit of 1 GiB and a message size of 64 MiB leave a limit of 896 MiB. -/
theorem admitPut_fileServer_one_gib :
    ((0 : Int) ≤ 1073741824 ∧ (1073741824 : Int) < 2 ^ 63) ∧
    ((0 : Int) < 67108864 ∧ 2 * (67108864 : Int) < 2 ^ 63) ∧
    (0 : Int) < 1073741824 - 2 * 67108864 ∧
    ((0 : Int) ≤ 1000000000 ∧ (1000000000 : Int) < 2 ^ 62 ∧ (0 : Int) ≤ 1000000000 ∧
      (1000000000 : Int) < 2 ^ 62) ∧
    fileServerAdmission (.ok 1073741824) 67108864 = some ⟨1073741824 - 2 * 67108864⟩ ∧
    (AdmissionController.admitPut ⟨1073741824 - 2 * 67108864⟩ ⟨none⟩ 1000000000 1000000000 =
      .nilDereference) ∧
    ∀ kv : KV, kv.size < 2 ^ 61 →
      AdmissionController.admitPut ⟨1073741824 - 2 * 67108864⟩ ⟨some kv⟩ 1000000000 1000000000 =
        if 1073741824 - 2 * 67108864 < 1000000000 + 2 * kv.size ∧
            1073741824 - 2 * 67108864 < 1000000000 + 2 * kv.size then
          .reject (putMessage 1000000000 kv.size (1073741824 - 2 * 67108864) 1000000000)
            ⟨.resourceExhausted,
              putMessage 1000000000 kv.size (1073741824 - 2 * 67108864) 1000000000⟩
        else .admitted :=
  ⟨⟨by decide, by decide⟩, ⟨by decide, by decide⟩, by decide,
    ⟨by decide, by decide, by decide, by decide⟩,
    admitPut_fileServer 1073741824 67108864 ⟨by decide, by decide⟩ ⟨by decide, by decide⟩
      (by decide) 1000000000 1000000000 ⟨by decide, by decide, by decide, by decide⟩⟩

end GomaServer.Admission
