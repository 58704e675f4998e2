import GomaServer.GoString

/-!
# The bucket watcher

`configMapBucketWatcher.run` sends each Pub/Sub message it receives on the
unbuffered channel `ch` and closes `ch` when its receive loop ends; `Next` takes
messages from `ch`, acks each, and after the first message announcing a new `seq`
object drains the messages `run` is already offering and returns. An
interleaving of the two is a list of events over an explicit state.
-/

namespace GomaServer

/-- `storage.ObjectFinalizeEvent`, the event type of a new object generation. -/
def objectFinalizeEvent : String := "OBJECT_FINALIZE"

/-- A Pub/Sub message: its ID and its attributes. -/
structure Message where
  id : String
  attributes : List (String × String)
  deriving DecidableEq, Repr

/-- `msg.Attributes[key]`, the empty string when the key is missing. -/
def Message.attribute (msg : Message) (key : String) : String :=
  (msg.attributes.lookup key).getD ""

/-- The test that ends the loop of `Next`: a new generation of a `seq` object. -/
def Message.wakes (msg : Message) : Bool :=
  msg.attribute "eventType" == objectFinalizeEvent && pathBase (msg.attribute "objectId") == "seq"

/-- A `seq` update of the runtime `clang`. -/
def seqUpdate : Message :=
  ⟨"1", [("eventType", "OBJECT_FINALIZE"), ("objectId", "clang/seq")]⟩

/-- How `Next` ends: `nil`, `ErrWatcherClosed`, `ctx.Err()`, or the runtime panic of
reading a field of a nil `*pubsub.Message`. -/
inductive NextResult where
  | ok
  | watcherClosed
  | ctxErr
  | nilDereference
  deriving DecidableEq, Repr

/-- Where `Next` is: at the select of its loop, at the select of the drain loop,
or returned. -/
inductive NextPc where
  | select
  | drain
  | returned (result : NextResult)
  deriving DecidableEq, Repr

/-- The watcher while one call of `Next` runs. `received` and `acked` are the
messages `Next` took from `ch` and the messages it acked, in order. -/
structure Watch where
  pending : List Message
  offering : Bool
  closed : Bool
  cancelled : Bool
  pc : NextPc
  received : List Message
  acked : List Message
  deriving DecidableEq, Repr

/-- The steps of an interleaving: `run` blocks sending its next message, `run`
closes `ch`, the caller's context is done, `Next` takes the `ch` case of its
select, the `ctx.Done()` case, or the drain loop's `default`. -/
inductive WatchEvent where
  | offer
  | close
  | cancel
  | recv
  | ctxDone
  | default
  deriving DecidableEq, Repr

namespace Watch

/-- A call of `Next` as `run` starts: nothing sent, `ch` open. -/
def init (msgs : List Message) : Watch :=
  ⟨msgs, false, false, false, .select, [], []⟩

/-- `Next` takes `msg` from `run`'s send and acks it. -/
def take (s : Watch) (msg : Message) (rest : List Message) (pc : NextPc) : Watch :=
  { s with pending := rest, offering := false, received := s.received ++ [msg],
           acked := s.acked ++ [msg], pc := pc }

/-- One event, or `none` where Go cannot take it. A receive of `ch` is ready when
`run` is blocked in a send or `ch` is closed; a closed `ch` yields the zero value,
which the loop's select tests with `ok` and the drain loop's does not. -/
def step (s : Watch) : WatchEvent → Option Watch
  | .offer =>
      if !s.offering && !s.closed && !s.pending.isEmpty then some { s with offering := true }
      else none
  | .close =>
      if !s.offering && !s.closed && s.pending.isEmpty then some { s with closed := true }
      else none
  | .cancel => if !s.cancelled then some { s with cancelled := true } else none
  | .recv =>
      match s.pc, s.offering, s.pending with
      | .select, true, msg :: rest =>
          some (s.take msg rest (if msg.wakes then .drain else .select))
      | .drain, true, msg :: rest => some (s.take msg rest .drain)
      | .select, false, _ => if s.closed then some { s with pc := .returned .watcherClosed } else none
      | .drain, false, _ => if s.closed then some { s with pc := .returned .nilDereference } else none
      | _, _, _ => none
  | .ctxDone =>
      match s.pc with
      | .select => if s.cancelled then some { s with pc := .returned .ctxErr } else none
      | _ => none
  | .default =>
      match s.pc with
      | .drain => if !s.offering && !s.closed then some { s with pc := .returned .ok } else none
      | _ => none

/-- The state after an interleaving, or `none` if some event of it cannot happen. -/
def run : Watch → List WatchEvent → Option Watch
  | s, [] => some s
  | s, e :: es => (s.step e).bind fun s' => run s' es

theorem run_append (s : Watch) (es es' : List WatchEvent) :
    run s (es ++ es') = (run s es).bind fun s' => run s' es' := by
  induction es generalizing s with
  | nil => rfl
  | cons e es ih =>
      cases hstep : s.step e with
      | none => simp only [List.cons_append, run, hstep, Option.none_bind]
      | some s₁ =>
          simp only [List.cons_append, run, hstep, Option.some_bind]
          exact ih s₁

/-- What each result of `Next` needs to have happened first. -/
def Cause (s : Watch) : NextResult → Prop
  | .ok => ∃ msg ∈ s.received, msg.wakes = true
  | .watcherClosed => s.closed = true
  | .ctxErr => s.cancelled = true
  | .nilDereference => s.closed = true ∧ ∃ msg ∈ s.received, msg.wakes = true

/-- A cause stays once it has happened. -/
theorem Cause.mono {s : Watch} {r : NextResult} (h : s.Cause r) (s' : Watch)
    (received : s'.received = s.received) (closed : s.closed = true → s'.closed = true)
    (cancelled : s.cancelled = true → s'.cancelled = true) : s'.Cause r := by
  cases r with
  | ok => show ∃ msg ∈ s'.received, msg.wakes = true; exact received ▸ h
  | watcherClosed => exact closed h
  | ctxErr => exact cancelled h
  | nilDereference => exact ⟨closed h.1, received ▸ h.2⟩

/-- What every reachable state keeps. -/
structure Inv (msgs : List Message) (s : Watch) : Prop where
  sent : s.received ++ s.pending = msgs
  acked : s.acked = s.received
  offering_pending : s.offering = true → s.pending ≠ []
  closed_pending : s.closed = true → s.pending = [] ∧ s.offering = false
  drain_woken : s.pc = .drain → ∃ msg ∈ s.received, msg.wakes = true
  returned : ∀ r, s.pc = .returned r → s.Cause r

theorem inv_init (msgs : List Message) : Inv msgs (init msgs) :=
  ⟨rfl, rfl, nofun, nofun, nofun, nofun⟩

/-- Taking a message keeps `Inv`; the drain loop follows a waking message. -/
theorem inv_take {msgs : List Message} {s : Watch} (inv : Inv msgs s) {msg : Message}
    {rest : List Message} (pending : s.pending = msg :: rest) (offering : s.offering = true)
    {pc : NextPc} (woken : pc = .drain → s.pc = .drain ∨ msg.wakes = true)
    (notReturned : ∀ r, pc ≠ .returned r) : Inv msgs (s.take msg rest pc) where
  sent := by simpa [take, pending] using inv.sent
  acked := by simp [take, inv.acked]
  offering_pending := nofun
  closed_pending closed := absurd offering (by simp [(inv.closed_pending closed).2])
  drain_woken drain := (woken drain).elim
    (fun d => (inv.drain_woken d).imp fun _ ⟨mem, w⟩ => ⟨List.mem_append_left _ mem, w⟩)
    fun w => ⟨msg, by simp [take], w⟩
  returned r h := absurd h (notReturned r)

/-- `Next` returning `r` keeps `Inv` when `r` has its cause. -/
theorem inv_returned {msgs : List Message} {s : Watch} (inv : Inv msgs s) {r : NextResult}
    (cause : s.Cause r) : Inv msgs { s with pc := .returned r } :=
  { inv with
    drain_woken := nofun
    returned := fun _ h => by cases h; exact cause }

theorem inv_step {msgs : List Message} {s s' : Watch} (inv : Inv msgs s) {e : WatchEvent}
    (h : s.step e = some s') : Inv msgs s' := by
  cases e with
  | offer =>
      simp only [step, Bool.and_eq_true, Bool.not_eq_true', List.isEmpty_eq_false] at h
      split at h <;> cases h
      next enabled =>
        exact { inv with
          offering_pending := fun _ => by simpa [List.isEmpty_iff] using enabled.2
          closed_pending := fun h => absurd h (by simp [enabled.1.2]) }
  | close =>
      simp only [step, Bool.and_eq_true, Bool.not_eq_true', List.isEmpty_iff] at h
      split at h <;> cases h
      next enabled =>
        exact { inv with
          closed_pending := fun _ => ⟨enabled.2, enabled.1.1⟩
          returned := fun r ret =>
            (inv.returned r ret).mono { s with closed := true } rfl (fun _ => rfl) id }
  | cancel =>
      simp only [step] at h
      split at h <;> cases h
      exact { inv with
        returned := fun r ret =>
          (inv.returned r ret).mono { s with cancelled := true } rfl id fun _ => rfl }
  | recv =>
      simp only [step] at h
      split at h
      · cases h
        exact inv_take inv ‹_› ‹_› (fun drain => .inr (by split at drain <;> simp_all))
          (by split <;> simp)
      · cases h
        exact inv_take inv ‹_› ‹_› (fun _ => .inl ‹_›) (by simp)
      · split at h <;> cases h
        exact inv_returned inv ‹_›
      · split at h <;> cases h
        exact inv_returned inv ⟨‹_›, inv.drain_woken ‹_›⟩
      · cases h
  | ctxDone =>
      simp only [step] at h
      split at h
      · split at h <;> cases h
        exact inv_returned inv ‹_›
      · cases h
  | default =>
      simp only [step] at h
      split at h
      · split at h <;> cases h
        exact inv_returned inv (inv.drain_woken ‹_›)
      · cases h

theorem inv_run {msgs : List Message} {s s' : Watch} (inv : Inv msgs s) {es : List WatchEvent}
    (h : run s es = some s') : Inv msgs s' := by
  induction es generalizing s with
  | nil => cases h; exact inv
  | cons e es ih =>
      simp only [run] at h
      cases hstep : s.step e with
      | none => rw [hstep] at h; cases h
      | some s₁ => rw [hstep] at h; exact ih (inv_step inv hstep) h

/-- Over every message list and every interleaving, `ch` delivers `run`'s messages
in order, none lost or repeated; `Next` acks each message it receives, once and
in order; `nil` follows a message that wakes it, `ErrWatcherClosed` a closed `ch`,
`ctx.Err()` a done context; and the nil dereference happens only at a closed `ch`
after a waking message, that is, in the drain loop. -/
theorem run_init_inv (msgs : List Message) (es : List WatchEvent) {s : Watch}
    (h : run (init msgs) es = some s) : Inv msgs s :=
  inv_run (inv_init msgs) h

/-! ## Closing while `Next` drains -/

/-- `run` sends one message and `Next`, at the select of its loop, takes it. -/
theorem run_offer_recv_select {s : Watch} {msg : Message} {rest : List Message}
    (pending : s.pending = msg :: rest) (idle : s.offering = false) (opened : s.closed = false)
    (select : s.pc = .select) :
    run s [.offer, .recv] = some (s.take msg rest (if msg.wakes then .drain else .select)) := by
  obtain ⟨pending', offering, closed, cancelled, pc, received, acked⟩ := s
  cases pending; cases idle; cases opened; cases select
  rfl

/-- `run` sends one message and the drain loop takes it. -/
theorem run_offer_recv_drain {s : Watch} {msg : Message} {rest : List Message}
    (pending : s.pending = msg :: rest) (idle : s.offering = false) (opened : s.closed = false)
    (drain : s.pc = .drain) :
    run s [.offer, .recv] = some (s.take msg rest .drain) := by
  obtain ⟨pending', offering, closed, cancelled, pc, received, acked⟩ := s
  cases pending; cases idle; cases opened; cases drain
  rfl

/-- From the drain loop with every message still to send, some interleaving
delivers them all, closes `ch`, and reaches the nil dereference. -/
theorem drain_reaches_nilDereference (msgs : List Message) :
    ∀ s : Watch, s.pc = .drain → s.offering = false → s.closed = false → s.pending = msgs →
      ∃ es s', run s es = some s' ∧ s'.pc = .returned .nilDereference := by
  induction msgs with
  | nil =>
      intro s drain idle opened pending
      obtain ⟨pending', offering, closed, cancelled, pc, received, acked⟩ := s
      cases drain; cases idle; cases opened; cases pending
      exact ⟨[.close, .recv], _, rfl, rfl⟩
  | cons msg rest ih =>
      intro s drain idle opened pending
      obtain ⟨es, s', ran, panics⟩ := ih (s.take msg rest .drain) rfl rfl opened rfl
      refine ⟨[.offer, .recv] ++ es, s', ?_, panics⟩
      rw [run_append, run_offer_recv_drain pending idle opened drain]
      exact ran

/-- For every message list with a message that wakes `Next`, some interleaving of
`run` and `Next` ends in the nil dereference: `run` offers and `Next` takes each
message up to the first that wakes it, then the rest in the drain loop, `run`
closes `ch`, and the drain loop receives the zero value. -/
theorem exists_nilDereference (msgs : List Message) (woken : ∃ msg ∈ msgs, msg.wakes = true) :
    ∃ es s, run (init msgs) es = some s ∧ s.pc = .returned .nilDereference := by
  suffices select : ∀ s : Watch, s.pc = .select → s.offering = false → s.closed = false →
      (∃ msg ∈ s.pending, msg.wakes = true) →
      ∃ es s', run s es = some s' ∧ s'.pc = .returned .nilDereference from
    select (init msgs) rfl rfl rfl woken
  intro s
  generalize pending : s.pending = msgs'
  induction msgs' generalizing s with
  | nil => intro _ _ _ ⟨_, mem, _⟩; cases mem
  | cons msg rest ih =>
      intro select idle opened woken'
      have ran := run_offer_recv_select pending idle opened select
      by_cases wakes : msg.wakes = true
      · obtain ⟨es, s', ran', panics⟩ :=
          drain_reaches_nilDereference rest (s.take msg rest .drain) rfl rfl opened rfl
        refine ⟨[.offer, .recv] ++ es, s', ?_, panics⟩
        rw [run_append, ran]
        simpa [wakes] using ran'
      · have later : ∃ m ∈ rest, m.wakes = true := by
          obtain ⟨m, mem, w⟩ := woken'
          rcases List.mem_cons.mp mem with rfl | mem
          · exact absurd w wakes
          · exact ⟨m, mem, w⟩
        obtain ⟨es, s', ran', panics⟩ :=
          ih (s.take msg rest .select) rfl rfl rfl opened later
        refine ⟨[.offer, .recv] ++ es, s', ?_, panics⟩
        rw [run_append, ran]
        simpa [wakes] using ran'

/-- `run` has one `seq` update to send, and some interleaving ends in the nil
dereference. -/
theorem exists_nilDereference_seqUpdate :
    (∃ msg ∈ [seqUpdate], msg.wakes = true) ∧
      ∃ es s, run (init [seqUpdate]) es = some s ∧ s.pc = .returned .nilDereference :=
  have woken : ∃ msg ∈ [seqUpdate], msg.wakes = true :=
    ⟨seqUpdate, List.mem_singleton_self _, by decide⟩
  ⟨woken, exists_nilDereference _ woken⟩

end Watch

/-- `run` sends one `seq` update, `Next` takes it and enters the drain loop, `run`
ends and closes `ch`, and the drain loop's select takes the closed channel's
zero value and reads its `ID`. -/
theorem next_drains_closed_channel :
    (Watch.run (Watch.init [seqUpdate]) [.offer, .recv, .close, .recv]).map Watch.pc =
      some (.returned .nilDereference) := by
  decide

end GomaServer
