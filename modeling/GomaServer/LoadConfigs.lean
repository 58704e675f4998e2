import GomaServer.Prebuilt

/-!
# loadConfigs and its worker pool

After the listing, `loadConfigs` starts one goroutine per kept object, at most
`concurrent` at a time, through the tokens of `sema`. Goroutine `i` loads
descriptor `i` and writes slot `i` of `confList` or returns an error, and
`eg.Wait` gives the first error returned. The goroutines share nothing but their
slots and errgroup's guarded error, so a body is one step, and a schedule is the
order of the launches and completions.
-/

namespace GomaServer

/-- What goroutine `i` writes into its slot for the descriptor it loaded, or
`none` where it logs the descriptor and returns nil. -/
def descriptorConfig (rc : RuntimeConfig) (platform : RemoteexecPlatform)
    (attrs : ObjectAttrs) (d : CmdDescriptor) : Option Config :=
  match checkSelector rc d.selector with
  | .error _ => none
  | .ok () =>
      match d.setup with
      | none => none
      | some setup =>
          if setup.pathType = .unknownPathType then none
          else some
            { target := some rc.serviceAddr
              buildInfo := some attrs.updated
              cmdDescriptor := some d
              remoteexecPlatform := some platform
              dimensions := []
              acl := rc.acl }

/-- The body of goroutine `i`: its error, or what it writes into `confList[i]`. -/
def loadSlot (client : StorageClient) (bucket : String) (rc : RuntimeConfig)
    (platform : RemoteexecPlatform) (attrs : ObjectAttrs) : Except String (Option Config) :=
  (loadDescriptor client bucket attrs.name).map (descriptorConfig rc platform attrs)

/-- The worker pool: the main loop's index, the goroutines holding a token of
`sema`, the slots `confList`, and the error errgroup keeps. -/
structure Pool where
  next : Nat
  running : List Nat
  confList : List (Option Config)
  err : Option String
  deriving DecidableEq, Repr

/-- The steps of a schedule. -/
inductive PoolEvent where
  /-- `sema <- struct{}{}` goes through and `eg.Go` starts goroutine `next`. -/
  | launch
  /-- Goroutine `i` runs its body and releases its token. -/
  | finish (i : Nat)
  deriving DecidableEq, Repr

/-- The number of tokens of `sema`. -/
def concurrency (parallel : Bool) (numCPU : Nat) : Nat := if parallel then numCPU * 4 else 1

namespace Pool

variable {concurrent : Nat} {work : List (Except String (Option Config))}

/-- The pool for `n` kept objects, before the main loop starts. -/
def init (n : Nat) : Pool := ⟨0, [], List.replicate n none, none⟩

/-- Goroutine `i` returns `result`: errgroup keeps the first error, a config goes
into slot `i`. -/
def complete (p : Pool) (i : Nat) : Except String (Option Config) → Pool
  | .error e => { p with running := p.running.erase i, err := some (p.err.getD e) }
  | .ok conf => { p with running := p.running.erase i, confList := p.confList.set i conf }

/-- One step of a schedule, `none` when the schedule asks for a step that cannot
happen now. `work` lists what each goroutine's body returns. -/
def step (concurrent : Nat) (work : List (Except String (Option Config))) (p : Pool) :
    PoolEvent → Option Pool
  | .launch =>
      if p.next < work.length ∧ p.running.length < concurrent then
        some { p with next := p.next + 1, running := p.next :: p.running }
      else none
  | .finish i =>
      match work[i]? with
      | some result => if i ∈ p.running then some (p.complete i result) else none
      | none => none

/-- A schedule run from `p`. -/
def run (concurrent : Nat) (work : List (Except String (Option Config))) :
    Pool → List PoolEvent → Option Pool
  | p, [] => some p
  | p, e :: es => (p.step concurrent work e).bind fun q => run concurrent work q es

/-- The main loop has launched every goroutine and `eg.Wait` has seen them all return. -/
def Finished (n : Nat) (p : Pool) : Prop := p.next = n ∧ p.running = []

instance (n : Nat) (p : Pool) : Decidable (p.Finished n) := inferInstanceAs (Decidable (_ ∧ _))

/-- `eg.Wait`, then the loop that drops the empty slots. -/
def result (p : Pool) : Except String (List Config) :=
  match p.err with
  | some e => .error e
  | none => .ok (p.confList.filterMap id)

/-- Goroutine `i` has returned. -/
def Done (p : Pool) (i : Nat) : Prop := i < p.next ∧ i ∉ p.running

instance (p : Pool) (i : Nat) : Decidable (p.Done i) := inferInstanceAs (Decidable (_ ∧ _))

/-- What a returned goroutine leaves in its slot. -/
def slotOf : Except String (Option Config) → Option Config
  | .ok conf => conf
  | .error _ => none

/-- What holds of the pool at every point of every schedule. -/
structure Inv (concurrent : Nat) (work : List (Except String (Option Config))) (p : Pool) :
    Prop where
  next_le : p.next ≤ work.length
  running_lt : ∀ i ∈ p.running, i < p.next
  running_nodup : p.running.Nodup
  running_le : p.running.length ≤ concurrent
  slot : ∀ i, p.confList[i]? = work[i]?.map fun r => if p.Done i then slotOf r else none
  err_some : ∀ e, p.err = some e → ∃ i, p.Done i ∧ work[i]? = some (.error e)
  err_none : p.err = none → ∀ i e, p.Done i → work[i]? ≠ some (.error e)

theorem inv_init : Inv concurrent work (init work.length) where
  next_le := Nat.zero_le _
  running_lt := by simp [init]
  running_nodup := List.nodup_nil
  running_le := Nat.zero_le _
  slot i := by
    simp only [init, List.getElem?_replicate, Done, Nat.not_lt_zero, false_and, if_false]
    split
    · next lt => simp [List.getElem?_eq_getElem lt]
    · next ge => simp [List.getElem?_eq_none (Nat.le_of_not_lt ge)]
  err_some := by simp [init]
  err_none := by simp [Done, init]

@[simp] theorem complete_next (p : Pool) (i : Nat) (r : Except String (Option Config)) :
    (p.complete i r).next = p.next := by cases r <;> rfl

@[simp] theorem complete_running (p : Pool) (i : Nat) (r : Except String (Option Config)) :
    (p.complete i r).running = p.running.erase i := by cases r <;> rfl

theorem done_launch (p : Pool) (j : Nat) :
    Done { p with next := p.next + 1, running := p.next :: p.running } j ↔ p.Done j := by
  simp only [Done, List.mem_cons, not_or]
  constructor
  · rintro ⟨lt, ne, out⟩; exact ⟨by omega, out⟩
  · rintro ⟨lt, out⟩; exact ⟨by omega, by omega, out⟩

theorem done_complete {p : Pool} {i : Nat} (nodup : p.running.Nodup) (mem : i ∈ p.running)
    (below : i < p.next) (r : Except String (Option Config)) (j : Nat) :
    (p.complete i r).Done j ↔ p.Done j ∨ j = i := by
  simp only [Done, complete_next, complete_running, nodup.mem_erase_iff]
  by_cases h : j = i
  · subst h; simp [below]
  · simp [h]

theorem inv_launch {p : Pool} (inv : Inv concurrent work p)
    (guard : p.next < work.length ∧ p.running.length < concurrent) :
    Inv concurrent work { p with next := p.next + 1, running := p.next :: p.running } where
  next_le := guard.1
  running_lt i mem := by
    rcases List.mem_cons.mp mem with rfl | mem
    · exact Nat.lt_succ_self _
    · exact Nat.lt_succ_of_lt (inv.running_lt i mem)
  running_nodup := List.nodup_cons.mpr ⟨fun mem => Nat.lt_irrefl _ (inv.running_lt _ mem),
    inv.running_nodup⟩
  running_le := guard.2
  slot i := by simpa only [done_launch p] using inv.slot i
  err_some e h := by simpa only [done_launch p] using inv.err_some e h
  err_none h := by simpa only [done_launch p] using inv.err_none h

theorem inv_finish {p : Pool} {i : Nat} {r : Except String (Option Config)}
    (inv : Inv concurrent work p) (found : work[i]? = some r) (mem : i ∈ p.running) :
    Inv concurrent work (p.complete i r) := by
  have done := done_complete inv.running_nodup mem (inv.running_lt i mem) r
  refine ⟨by simpa using inv.next_le, fun j hj => ?_, ?_, ?_, fun j => ?_, ?_, ?_⟩
  · simpa using inv.running_lt j (List.mem_of_mem_erase (by simpa using hj))
  · simpa using inv.running_nodup.erase i
  · simpa [List.length_erase_of_mem mem] using Nat.le_trans (Nat.sub_le _ 1) inv.running_le
  · have old := inv.slot j
    by_cases h : j = i
    · subst h
      have len : j < p.confList.length := by
        by_contra out
        rw [List.getElem?_eq_none (by omega), found] at old
        cases old
      cases r <;> simp_all [complete, slotOf, List.getElem?_set]
    · cases r <;> simp_all [complete, Ne.symm h, List.getElem?_set_ne]
  · intro e he
    cases r with
    | error e' =>
        cases herr : p.err with
        | none =>
            simp only [complete, herr, Option.getD_none, Option.some.injEq] at he
            exact ⟨i, (done i).mpr (.inr rfl), he ▸ found⟩
        | some e0 =>
            simp only [complete, herr, Option.getD_some, Option.some.injEq] at he
            obtain ⟨j, dj, wj⟩ := inv.err_some e0 herr
            exact ⟨j, (done j).mpr (.inl dj), he ▸ wj⟩
    | ok conf =>
        obtain ⟨j, dj, wj⟩ := inv.err_some e he
        exact ⟨j, (done j).mpr (.inl dj), wj⟩
  · intro he j e dj
    cases r with
    | error e' => simp [complete] at he
    | ok conf =>
        rcases (done j).mp dj with dj | rfl
        · exact inv.err_none he j e dj
        · simp [found]

theorem inv_step {p q : Pool} {event : PoolEvent} (inv : Inv concurrent work p)
    (stepped : p.step concurrent work event = some q) : Inv concurrent work q := by
  cases event with
  | launch =>
      simp only [step] at stepped
      split at stepped
      · cases stepped; exact inv_launch inv ‹_›
      · cases stepped
  | finish i =>
      simp only [step] at stepped
      split at stepped
      · split at stepped
        · cases stepped; exact inv_finish inv ‹_› ‹_›
        · cases stepped
      · cases stepped

theorem inv_run {p q : Pool} {schedule : List PoolEvent} (inv : Inv concurrent work p)
    (ran : run concurrent work p schedule = some q) : Inv concurrent work q := by
  induction schedule generalizing p with
  | nil => cases ran; exact inv
  | cons event rest ih =>
      simp only [run, Option.bind_eq_some] at ran
      obtain ⟨p', stepped, ran⟩ := ran
      exact ih (inv_step inv stepped) ran

/-! ## Every schedule finishes -/

/-- Two units for each goroutine not yet launched, one for each running one. -/
def pending (n : Nat) (p : Pool) : Nat := 2 * (n - p.next) + p.running.length

theorem pending_step {p q : Pool} {event : PoolEvent}
    (stepped : p.step concurrent work event = some q) :
    pending work.length q + 1 = pending work.length p := by
  cases event with
  | launch =>
      simp only [step] at stepped
      split at stepped
      · cases stepped; simp only [pending, List.length_cons]; omega
      · cases stepped
  | finish i =>
      simp only [step] at stepped
      split at stepped
      · split at stepped
        · cases stepped
          have pos := List.length_pos_of_mem ‹i ∈ p.running›
          simp only [pending, complete_next, complete_running, List.length_erase_of_mem ‹_›]
          omega
        · cases stepped
      · cases stepped

/-- With at least one token, some step is possible until every goroutine has returned. -/
theorem step_enabled {p : Pool} (inv : Inv concurrent work p) (tokens : 0 < concurrent)
    (unfinished : ¬ p.Finished work.length) :
    ∃ event q, p.step concurrent work event = some q := by
  cases hrun : p.running with
  | cons i rest =>
      have lt : i < work.length :=
        Nat.lt_of_lt_of_le (inv.running_lt i (by simp [hrun])) inv.next_le
      exact ⟨.finish i, p.complete i work[i], by simp [step, List.getElem?_eq_getElem lt, hrun]⟩
  | nil =>
      have lt : p.next < work.length := by
        have := inv.next_le
        simp only [Finished, hrun, and_true] at unfinished
        omega
      exact ⟨.launch, { p with next := p.next + 1, running := p.next :: p.running },
        by simp [step, lt, hrun, tokens]⟩

/-- From any state a schedule reaches, some continuation finishes the pool. -/
theorem run_completes {p : Pool} (inv : Inv concurrent work p) (tokens : 0 < concurrent) :
    ∃ rest q, run concurrent work p rest = some q ∧ q.Finished work.length := by
  suffices ∀ n p, pending work.length p = n → Inv concurrent work p →
      ∃ rest q, run concurrent work p rest = some q ∧ q.Finished work.length from
    this _ p rfl inv
  intro n
  induction n using Nat.strong_induction_on with
  | _ n ih =>
      intro p measure inv
      by_cases fin : p.Finished work.length
      · exact ⟨[], p, rfl, fin⟩
      · obtain ⟨event, q, stepped⟩ := step_enabled inv tokens fin
        have down := pending_step stepped
        obtain ⟨rest, r, ran, fin'⟩ := ih _ (by omega) q rfl (inv_step inv stepped)
        exact ⟨event :: rest, r, by simp [run, stepped, ran], fin'⟩

/-! ## What a finished pool returns -/

theorem done_of_finished {p : Pool} (fin : p.Finished work.length) (i : Nat) :
    p.Done i ↔ i < work.length := by
  simp [Done, fin.1, fin.2]

theorem confList_of_finished {p : Pool} (inv : Inv concurrent work p)
    (fin : p.Finished work.length) : p.confList = work.map slotOf := by
  refine List.ext_getElem? fun i => ?_
  rw [inv.slot i, List.getElem?_map]
  cases h : work[i]? with
  | none => rfl
  | some r =>
      simp [(done_of_finished fin i).mpr (List.getElem?_eq_some_iff.mp h).fst]

theorem ok_of_no_error :
    ∀ {work : List (Except String (Option Config))},
      (∀ (i : Nat) (e : String), work[i]? ≠ some (.error e)) → work = (work.map slotOf).map .ok
  | [], _ => rfl
  | r :: rest, noError => by
      have tail := @ok_of_no_error rest fun i e => by
        simpa using noError (i + 1) e
      cases r with
      | error e => exact absurd (by simp) (noError 0 e)
      | ok conf => simpa [slotOf] using tail

theorem result_of_finished {p : Pool} (inv : Inv concurrent work p)
    (fin : p.Finished work.length) :
    ((∃ e, p.result = .error e) ↔ ∃ (i : Nat) (e : String), work[i]? = some (.error e)) ∧
      ∀ confs : List (Option Config), work = confs.map .ok → p.result = .ok (confs.filterMap id) := by
  have done := done_of_finished fin
  constructor
  · constructor
    · rintro ⟨e, he⟩
      cases herr : p.err with
      | none => simp [result, herr] at he
      | some e' =>
          obtain ⟨i, -, found⟩ := inv.err_some e' herr
          exact ⟨i, e', found⟩
    · rintro ⟨i, e, found⟩
      cases herr : p.err with
      | none =>
          have lt := (List.getElem?_eq_some_iff.mp found).fst
          exact absurd found (inv.err_none herr i e ((done i).mpr lt))
      | some e' => exact ⟨e', by simp [result, herr]⟩
  · intro confs hwork
    cases herr : p.err with
    | some e =>
        obtain ⟨i, -, found⟩ := inv.err_some e herr
        simp [hwork, List.getElem?_map] at found
    | none =>
        simp [result, herr, confList_of_finished inv fin, hwork, Function.comp_def, slotOf]

end Pool

/-! ## loadConfigs -/

/-- `loadConfigs`, with the schedule its main loop and goroutines ran in; `none`
when the schedule is not that of a run to `eg.Wait`'s return. -/
def loadConfigs (client : StorageClient) (uri : String) (rc : RuntimeConfig)
    (platform : RemoteexecPlatform) (parallel : Bool) (numCPU : Nat)
    (schedule : List PoolEvent) : Option (Except String (List Config)) :=
  match splitGCSPath uri with
  | .error e => some (.error e)
  | .ok (bucket, obj) =>
      match client.objects bucket obj with
      | .error e => some (.error e)
      | .ok objs =>
          let work := (keptObjects rc objs).map (loadSlot client bucket rc platform)
          match Pool.run (concurrency parallel numCPU) work (Pool.init work.length) schedule with
          | some p => if p.Finished work.length then some p.result else none
          | none => none

/-- `loadConfigs` as the spec reads it: walk the kept objects in listing order,
stop at the first descriptor that cannot be loaded, and keep the configs of the
descriptors that pass. -/
def loadConfigsInOrder (client : StorageClient) (uri : String) (rc : RuntimeConfig)
    (platform : RemoteexecPlatform) : Except String (List Config) := do
  let (bucket, obj) ← splitGCSPath uri
  let objs ← client.objects bucket obj
  let slots ← (keptObjects rc objs).mapM (loadSlot client bucket rc platform)
  pure (slots.filterMap id)

theorem mapM_except_eq_ok_iff {α β : Type} (f : α → Except String β) (l : List α)
    (bs : List β) : l.mapM f = .ok bs ↔ l.map f = bs.map .ok := by
  induction l generalizing bs with
  | nil => cases bs <;> exact ⟨fun h => by cases h <;> rfl, fun h => by cases h <;> rfl⟩
  | cons a l ih =>
      rw [List.mapM_cons]
      cases ha : f a with
      | error e => cases bs <;> simp [ha, bind, Except.bind]
      | ok b =>
          have inj : ∀ xs ys : List β,
              xs.map (Except.ok : β → Except String β) = ys.map Except.ok ↔ xs = ys :=
            fun _ _ => (List.map_injective_iff.mpr fun _ _ h => Except.ok.inj h).eq_iff
          cases hl : l.mapM f with
          | error e => cases bs <;> simp_all [bind, Except.bind, pure, Except.pure]
          | ok bs' => cases bs <;> simp_all [bind, Except.bind, pure, Except.pure]

/-- A finished pool returns what the in-order walk returns, up to which error. -/
theorem result_agrees_inOrder {concurrent : Nat} {f : ObjectAttrs → Except String (Option Config)}
    {kept : List ObjectAttrs} {p : Pool} (inv : Pool.Inv concurrent (kept.map f) p)
    (fin : p.Finished (kept.map f).length) :
    ((∃ e, p.result = .error e) ↔ ∃ e, ((kept.mapM f).map (List.filterMap id)) = .error e) ∧
      ∀ confs, (kept.mapM f).map (List.filterMap id) = .ok confs → p.result = .ok confs := by
  obtain ⟨errors, values⟩ := Pool.result_of_finished inv fin
  cases hm : kept.mapM f with
  | ok slots =>
      rw [values slots ((mapM_except_eq_ok_iff f kept slots).mp hm)]
      exact ⟨iff_of_false (by simp) (by simp [Except.map]), fun confs h => by
        simpa [Except.map] using h⟩
  | error e =>
      refine ⟨iff_of_true ?_ ⟨e, rfl⟩, fun _ h => by cases h⟩
      rw [errors]
      by_contra noError
      push_neg at noError
      have ok := (mapM_except_eq_ok_iff f kept _).mpr (Pool.ok_of_no_error noError)
      rw [hm] at ok
      cases ok

/-- Under every schedule of every concurrency bound, `loadConfigs` fails exactly
when the in-order walk fails and otherwise returns its list; some schedule runs to
the end, and none gets stuck before it (`Pool.run_completes`). -/
theorem loadConfigs_agrees_loadConfigsInOrder (client : StorageClient) (uri : String)
    (rc : RuntimeConfig) (platform : RemoteexecPlatform) (parallel : Bool) (numCPU : Nat)
    (cpus : 0 < numCPU) :
    (∃ schedule r, loadConfigs client uri rc platform parallel numCPU schedule = some r) ∧
      ∀ schedule r, loadConfigs client uri rc platform parallel numCPU schedule = some r →
        ((∃ e, r = .error e) ↔ ∃ e, loadConfigsInOrder client uri rc platform = .error e) ∧
          ∀ confs, loadConfigsInOrder client uri rc platform = .ok confs → r = .ok confs := by
  have tokens : 0 < concurrency parallel numCPU := by
    unfold concurrency; split <;> omega
  unfold loadConfigs loadConfigsInOrder
  rcases splitGCSPath uri with e | ⟨bucket, obj⟩
  · exact ⟨⟨[], _, rfl⟩, fun _ r h => by cases h; simp [bind, Except.bind]⟩
  dsimp only [bind, Except.bind]
  rcases client.objects bucket obj with e | objs
  · exact ⟨⟨[], _, rfl⟩, fun _ r h => by cases h; simp⟩
  dsimp only
  constructor
  · obtain ⟨schedule, q, ran, fin⟩ := @Pool.run_completes _
      ((keptObjects rc objs).map (loadSlot client bucket rc platform)) _ Pool.inv_init tokens
    exact ⟨schedule, _, by rw [ran]; exact if_pos fin⟩
  · intro schedule r h
    split at h
    · next p ran =>
        split at h
        · cases h
          simpa [Except.map] using result_agrees_inOrder (Pool.inv_run Pool.inv_init ran) ‹_›
        · cases h
    · cases h

/-! ## The contract, in listing order -/

/-- A kept descriptor that `loadConfigs` makes a config of: `checkSelector` passes
and the setup is there, with a known path type. -/
def serves (rc : RuntimeConfig) (d : CmdDescriptor) : Bool :=
  (checkSelector rc d.selector).isOk && d.setup.any fun setup => setup.pathType != .unknownPathType

/-- The kept objects walked in listing order: the first descriptor that cannot be
loaded is the error, and each one served gives the config
`{Target.Addr: rc.ServiceAddr, BuildInfo.Timestamp: attrs.Updated, CmdDescriptor: d,
RemoteexecPlatform: platform, Acl: rc.Acl}`. -/
def walkInOrder (client : StorageClient) (bucket : String) (rc : RuntimeConfig)
    (platform : RemoteexecPlatform) : List ObjectAttrs → Except String (List Config)
  | [] => .ok []
  | attrs :: rest =>
      match loadDescriptor client bucket attrs.name with
      | .error e => .error e
      | .ok d =>
          (walkInOrder client bucket rc platform rest).map fun confs =>
            if serves rc d then
              { target := some rc.serviceAddr, buildInfo := some attrs.updated,
                cmdDescriptor := some d, remoteexecPlatform := some platform,
                dimensions := [], acl := rc.acl } :: confs
            else confs

/-- What `loadConfigs` promises: list the objects under the URI's path, keep those
that `checkPrebuilt` accepts and whose parent directory is `descriptors`, and walk
them in listing order. -/
def configsInListingOrder (client : StorageClient) (uri : String) (rc : RuntimeConfig)
    (platform : RemoteexecPlatform) : Except String (List Config) := do
  let (bucket, obj) ← splitGCSPath uri
  let objs ← client.objects bucket obj
  walkInOrder client bucket rc platform (objs.filter fun attrs =>
    (checkPrebuilt rc attrs.name).isOk && pathBase (pathDir attrs.name) == "descriptors")

theorem keptObjects_eq_filter (rc : RuntimeConfig) (objs : List ObjectAttrs) :
    keptObjects rc objs = objs.filter fun attrs =>
      (checkPrebuilt rc attrs.name).isOk && pathBase (pathDir attrs.name) == "descriptors" := by
  refine List.filter_congr fun attrs _ => ?_
  unfold keepObject
  cases checkPrebuilt rc attrs.name <;> rfl

theorem descriptorConfig_eq (rc : RuntimeConfig) (platform : RemoteexecPlatform)
    (attrs : ObjectAttrs) (d : CmdDescriptor) :
    descriptorConfig rc platform attrs d =
      if serves rc d then
        some { target := some rc.serviceAddr, buildInfo := some attrs.updated,
               cmdDescriptor := some d, remoteexecPlatform := some platform,
               dimensions := [], acl := rc.acl }
      else none := by
  unfold descriptorConfig serves
  cases checkSelector rc d.selector with
  | error => rfl
  | ok =>
      cases d.setup with
      | none => rfl
      | some setup =>
          by_cases known : setup.pathType = .unknownPathType <;> simp [known, Except.isOk, Except.toBool]

/-- The goroutines' bodies run in listing order, then the compaction of the slots,
are the in-order walk. -/
theorem mapM_loadSlot (client : StorageClient) (bucket : String) (rc : RuntimeConfig)
    (platform : RemoteexecPlatform) : ∀ kept : List ObjectAttrs,
    (kept.mapM (loadSlot client bucket rc platform)).map (List.filterMap id) =
      walkInOrder client bucket rc platform kept
  | [] => rfl
  | attrs :: rest => by
      rw [List.mapM_cons, walkInOrder, ← mapM_loadSlot client bucket rc platform rest]
      cases loaded : loadDescriptor client bucket attrs.name with
      | error e => simp [loadSlot, loaded, bind, Except.bind, Except.map]
      | ok d =>
          cases rest.mapM (loadSlot client bucket rc platform) <;>
            by_cases served : serves rc d <;>
            simp [loadSlot, loaded, served, descriptorConfig_eq, Except.map, bind, Except.bind, pure,
              Except.pure]

/-- The in-order walk `ConfigLoader.Load` is modelled with is the contract. -/
theorem loadConfigsInOrder_eq (client : StorageClient) (uri : String) (rc : RuntimeConfig)
    (platform : RemoteexecPlatform) :
    loadConfigsInOrder client uri rc platform = configsInListingOrder client uri rc platform := by
  unfold loadConfigsInOrder configsInListingOrder
  simp only [← keptObjects_eq_filter, ← mapM_loadSlot]
  rfl

/-- Under every schedule of every concurrency bound, `loadConfigs` fails exactly
when the contract fails and otherwise returns the contract's list; some schedule
runs to the end. -/
theorem loadConfigs_agrees_inOrder (client : StorageClient) (uri : String) (rc : RuntimeConfig)
    (platform : RemoteexecPlatform) (parallel : Bool) (numCPU : Nat) (cpus : 0 < numCPU) :
    (∃ schedule r, loadConfigs client uri rc platform parallel numCPU schedule = some r) ∧
      ∀ schedule r, loadConfigs client uri rc platform parallel numCPU schedule = some r →
        ((∃ e, r = .error e) ↔ ∃ e, configsInListingOrder client uri rc platform = .error e) ∧
          ∀ confs, configsInListingOrder client uri rc platform = .ok confs → r = .ok confs := by
  rw [← loadConfigsInOrder_eq]
  exact loadConfigs_agrees_loadConfigsInOrder client uri rc platform parallel numCPU cpus

/-- A served descriptor of `clang`. -/
def servedDescriptor : CmdDescriptor :=
  ⟨some ⟨"clang", "17", "x86_64-linux-gnu", "h1"⟩, some ⟨.posix⟩⟩

/-- The objects under `clang`: a served descriptor, a descriptor with no setup, one
whose selector the runtime disallows, an unparsable object outside any
`descriptors` directory, and an unparsable descriptor in a prebuilt item the
runtime denies. -/
def mixedObjects : List StoredObject :=
  [⟨⟨"clang/p/descriptors/h1", 1⟩, .descriptor servedDescriptor⟩,
    ⟨⟨"clang/p/descriptors/h2", 2⟩, .descriptor ⟨some ⟨"clang", "17", "x86_64-linux-gnu", "h2"⟩, none⟩⟩,
    ⟨⟨"clang/p/descriptors/h3", 3⟩,
      .descriptor ⟨some ⟨"clang", "16", "x86_64-linux-gnu", "h3"⟩, some ⟨.posix⟩⟩⟩,
    ⟨⟨"clang/p/README", 4⟩, .unparsable "not a descriptor"⟩,
    ⟨⟨"clang/q/descriptors/h4", 5⟩, .unparsable "truncated"⟩]

/-- `clang`, denying the prebuilt item `q` and the commands of version 16. -/
def denyingRuntime : RuntimeConfig :=
  { descriptorsV2Runtime with
    allowedPrebuilts := []
    disallowedPrebuilts := ["q"]
    disallowedCommands := [⟨"", "16", "", ""⟩] }

/-- Two CPUs, eight tokens: every schedule returns the one config of
`clang/p/descriptors/h1`. -/
theorem loadConfigs_agrees_inOrder_mixedObjects :
    0 < 2 ∧
      ((∃ schedule r, loadConfigs (.ofBucket "b" mixedObjects) (gcsURI "b" "clang") denyingRuntime
          ⟨[], false⟩ true 2 schedule = some r) ∧
        ∀ schedule r, loadConfigs (.ofBucket "b" mixedObjects) (gcsURI "b" "clang") denyingRuntime
            ⟨[], false⟩ true 2 schedule = some r →
          ((∃ e, r = .error e) ↔ ∃ e, configsInListingOrder (.ofBucket "b" mixedObjects)
              (gcsURI "b" "clang") denyingRuntime ⟨[], false⟩ = .error e) ∧
            ∀ confs, configsInListingOrder (.ofBucket "b" mixedObjects) (gcsURI "b" "clang")
                denyingRuntime ⟨[], false⟩ = .ok confs → r = .ok confs) ∧
      configsInListingOrder (.ofBucket "b" mixedObjects) (gcsURI "b" "clang") denyingRuntime
          ⟨[], false⟩ =
        .ok [⟨some "remoteexec", some 1, some servedDescriptor, some ⟨[], false⟩, [], none⟩] :=
  ⟨Nat.two_pos, loadConfigs_agrees_inOrder _ _ _ _ _ _ Nat.two_pos, rfl⟩

end GomaServer
