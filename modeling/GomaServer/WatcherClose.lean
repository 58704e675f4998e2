import GomaServer.Watcher

/-!
# Closing the bucket watcher

`configMapBucketWatcher.Close` cancels the context of `run`'s receive and starts a
goroutine that ranges over `ch`, acking each message, until `run` closes `ch`.
The callbacks already running still send their messages on the unbuffered `ch`:
these are what `run` has left to send once a call of `Next` has returned.
-/

namespace GomaServer

namespace Watch

/-- The watcher once `Close` has started its goroutine: what `run` has left to
send, whether it is blocked in a send, whether `ch` is closed, and what the
goroutine has acked. -/
structure Drain where
  pending : List Message
  offering : Bool
  closed : Bool
  acked : List Message
  deriving DecidableEq, Repr

/-- The steps after `Close`: `run` blocks sending its next message, the goroutine
receives it and acks it, or `run`, with nothing left, closes `ch`. -/
inductive DrainEvent where
  | offer
  | recv
  | close
  deriving DecidableEq, Repr

/-- `Close` on the watcher `s`: the goroutine starts with nothing acked. -/
def close (s : Watch) : Drain := ⟨s.pending, s.offering, s.closed, []⟩

namespace Drain

/-- One event, or `none` where Go cannot take it. The goroutine's receive is ready
when `run` is blocked in a send; at a closed `ch` its `range` ends. -/
def step (d : Drain) : DrainEvent → Option Drain
  | .offer =>
      if !d.offering && !d.closed && !d.pending.isEmpty then some { d with offering := true }
      else none
  | .recv =>
      match d.offering, d.pending with
      | true, msg :: rest => some ⟨rest, false, d.closed, d.acked ++ [msg]⟩
      | _, _ => none
  | .close =>
      if !d.offering && !d.closed && d.pending.isEmpty then some { d with closed := true }
      else none

/-- The state after an interleaving, or `none` if some event of it cannot happen. -/
def run : Drain → List DrainEvent → Option Drain
  | d, [] => some d
  | d, e :: es => (d.step e).bind fun d' => run d' es

/-- The steps left: two per message to send, less one for a send under way, and
the close. -/
def left (d : Drain) : Nat :=
  2 * d.pending.length + (if d.closed then 0 else 1) - (if d.offering then 1 else 0)

theorem left_le (d : Drain) : d.left ≤ 2 * d.pending.length + 1 := by
  unfold left
  split_ifs <;> omega

/-- What every state after `Close` keeps, for the messages `pending₀` that `run`
had left when it was called. -/
structure Inv (pending₀ : List Message) (d : Drain) : Prop where
  sent : d.acked ++ d.pending = pending₀
  offering_pending : d.offering = true → d.pending ≠ []
  closed_pending : d.closed = true → d.pending = [] ∧ d.offering = false

theorem inv_close {msgs : List Message} {s : Watch} (inv : Watch.Inv msgs s) :
    Inv s.pending s.close :=
  ⟨rfl, inv.offering_pending, inv.closed_pending⟩

/-- Each step keeps `Inv` and takes one from `left`. -/
theorem inv_step {pending₀ : List Message} {d d' : Drain} (inv : Inv pending₀ d)
    {e : DrainEvent} (h : d.step e = some d') : Inv pending₀ d' ∧ d'.left + 1 = d.left := by
  obtain ⟨pending, offering, closed, acked⟩ := d
  obtain ⟨sent, offering_pending, closed_pending⟩ := inv
  cases e with
  | offer =>
      simp only [step, Bool.and_eq_true, Bool.not_eq_true', List.isEmpty_eq_false] at h
      split at h <;> cases h
      next enabled =>
        obtain ⟨⟨rfl, rfl⟩, nonempty⟩ := enabled
        obtain ⟨msg, rest, rfl⟩ := List.exists_cons_of_ne_nil (by simpa using nonempty)
        exact ⟨⟨sent, fun _ => List.cons_ne_nil _ _, nofun⟩, by simp [left]⟩
  | recv =>
      cases offering with
      | false => cases pending <;> simp [step] at h
      | true =>
          cases pending with
          | nil => simp [step] at h
          | cons msg rest =>
              simp only [step, Option.some.injEq] at h
              subst h
              have opened : closed = false := by
                cases closed
                · rfl
                · exact absurd (closed_pending rfl).2 (by simp)
              subst opened
              exact ⟨⟨by simpa using sent, nofun, nofun⟩, by simp [left]; omega⟩
  | close =>
      simp only [step, Bool.and_eq_true, Bool.not_eq_true', List.isEmpty_iff] at h
      split at h <;> cases h
      next enabled =>
        obtain ⟨⟨rfl, rfl⟩, rfl⟩ := enabled
        exact ⟨⟨sent, nofun, fun _ => ⟨rfl, rfl⟩⟩, by simp [left]⟩

/-- A whole interleaving keeps `Inv`, and is as long as the steps it took from
`left`. -/
theorem inv_run {pending₀ : List Message} {d d' : Drain} (inv : Inv pending₀ d)
    {es : List DrainEvent} (h : d.run es = some d') :
    Inv pending₀ d' ∧ es.length + d'.left = d.left := by
  induction es generalizing d with
  | nil => cases h; exact ⟨inv, by simp⟩
  | cons e es ih =>
      simp only [run] at h
      cases hstep : d.step e with
      | none => rw [hstep] at h; cases h
      | some d₁ =>
          rw [hstep] at h
          obtain ⟨inv₁, took⟩ := inv_step inv hstep
          obtain ⟨inv', ran⟩ := ih inv₁ h
          exact ⟨inv', by simp only [List.length_cons]; omega⟩

/-- A state where no event can happen has `ch` closed: until then `run` can send,
the goroutine can receive, or `run` can close. -/
theorem closed_of_stuck {pending₀ : List Message} {d : Drain} (inv : Inv pending₀ d)
    (stuck : ∀ e, d.step e = none) : d.closed = true := by
  obtain ⟨pending, offering, closed, acked⟩ := d
  cases closed
  · exfalso
    cases offering
    · cases pending with
      | nil => exact absurd (stuck .close) (by simp [step])
      | cons msg rest => exact absurd (stuck .offer) (by simp [step])
    · cases pending with
      | nil => exact inv.offering_pending rfl rfl
      | cons msg rest => exact absurd (stuck .recv) (by simp [step])
  · rfl

end Drain

/-- Over every message list, every interleaving of `run` and a call of `Next` that
has returned, and every interleaving of `run` and `Close`'s goroutine after it:
the second takes at most two steps per message and one more, and one that cannot
go on has `ch` closed, with every message acked once, in order, by `Next` and then
by the goroutine. -/
theorem close_acks_all (msgs : List Message) (es : List WatchEvent) (s : Watch)
    (ran : run (init msgs) es = some s) (r : NextResult) (_returned : s.pc = .returned r)
    (ds : List DrainEvent) (d : Drain) (drained : s.close.run ds = some d) :
    ds.length ≤ 2 * msgs.length + 1 ∧
      ((∀ e, d.step e = none) → d.closed = true ∧ s.acked ++ d.acked = msgs) := by
  have inv := run_init_inv msgs es ran
  obtain ⟨inv', took⟩ := Drain.inv_run (Drain.inv_close inv) drained
  have bound : s.close.left ≤ 2 * msgs.length + 1 := by
    have length := congrArg List.length inv.sent
    simp only [List.length_append] at length
    have := Drain.left_le s.close
    simp only [close] at this ⊢
    omega
  refine ⟨by omega, fun stuck => ⟨Drain.closed_of_stuck inv' stuck, ?_⟩⟩
  have empty := (inv'.closed_pending (Drain.closed_of_stuck inv' stuck)).1
  have sent := inv'.sent
  rw [empty, List.append_nil] at sent
  rw [sent, inv.acked, inv.sent]

/-- `Next` takes a `seq` update and returns; `run` still has a second one to send,
which `Close`'s goroutine takes before `run` closes `ch`. -/
theorem close_acks_all_second_update :
    run (init [seqUpdate, seqUpdate]) [.offer, .recv, .default] =
        some ⟨[seqUpdate], false, false, false, .returned .ok, [seqUpdate], [seqUpdate]⟩ ∧
      (⟨[seqUpdate], false, false, false, .returned .ok, [seqUpdate], [seqUpdate]⟩ : Watch).pc =
        .returned .ok ∧
      (close ⟨[seqUpdate], false, false, false, .returned .ok, [seqUpdate], [seqUpdate]⟩).run
          [.offer, .recv, .close] = some ⟨[], false, true, [seqUpdate]⟩ ∧
      [DrainEvent.offer, .recv, .close].length ≤ 2 * [seqUpdate, seqUpdate].length + 1 ∧
      ((∀ e, (⟨[], false, true, [seqUpdate]⟩ : Drain).step e = none) →
        (⟨[], false, true, [seqUpdate]⟩ : Drain).closed = true ∧
          [seqUpdate] ++ [seqUpdate] = [seqUpdate, seqUpdate]) :=
  ⟨by decide, rfl, by decide,
    close_acks_all [seqUpdate, seqUpdate] [.offer, .recv, .default]
      ⟨[seqUpdate], false, false, false, .returned .ok, [seqUpdate], [seqUpdate]⟩ (by decide)
      .ok rfl [.offer, .recv, .close] ⟨[], false, true, [seqUpdate]⟩ (by decide)⟩

end Watch

end GomaServer
