import Turnstile.Proofs.Pool.Deliveries
import Turnstile.Proofs.Pool.Drained

/-!
# Tasks that panic

A worker that runs a task which panics delivers the panic as an outcome, counts the panic,
counts the run, and begins a new round. None of these actions can be held up, and nobody else
makes notes of that task. But what was thrown is discarded between the delivery and the
counting: if it panics once more there, the worker dies before it has counted anything.
-/

namespace Turnstile.Pool

set_option autoImplicit false

open World (total)
open Turnstile.Task (Ticket Job Body Payload Outcome)

variable {α : Type} {me : ThreadId} {pool later : Pool α} {ticket : Ticket} {config : Config}
  {world after first last : Running α} {old new : Point α} {hand next : Worker α}
  {payload : Payload} {noted : Nat}

def Note.isPanic : Note → Bool
  | .panicked _ _ _ => true
  | _ => false

def Note.isRun : Note → Bool
  | .finished _ _ => true
  | _ => false

/-- The counters count what is in the journal, as far as 64 bits can. -/
structure Tallied (pool : Pool α) : Prop where
  panicked : pool.counters.panicked = UInt64.ofNat (pool.journal.countP Note.isPanic)
  executed : pool.counters.executed = UInt64.ofNat (pool.journal.countP Note.isRun)

theorem Deed.tallied (deed : Deed me pool old new later) (tallied : Tallied pool) :
    Tallied later := by
  have more (counts : Note → Bool) (note : Note) (tells : counts note = true) (n : UInt64)
      (counted : n = UInt64.ofNat (pool.journal.countP counts)) :
      n + 1 = UInt64.ofNat ((note :: pool.journal).countP counts) := by
    rw [List.countP_cons_of_pos tells, UInt64.ofNat_add, counted]
    rfl
  cases deed with
  | plain before after plain =>
      refine ⟨?_, ?_⟩
      · rw [plain.panicked, tallied.panicked, plain.countP_eq]
        intro note silent
        cases note <;> first | rfl | cases silent
      · rw [plain.executed, tallied.executed, plain.countP_eq]
        intro note silent
        cases note <;> first | rfl | cases silent
  | deliver | collect | perish => exact ⟨tallied.panicked, tallied.executed⟩
  | countPanic other message => exact ⟨more _ _ rfl _ tallied.panicked, tallied.executed⟩
  | countRun other => exact ⟨tallied.panicked, more _ _ rfl _ tallied.executed⟩
  | dismantle =>
      refine ⟨?_, ?_⟩
      · rw [countP_dismantle fun _ => rfl]
        exact tallied.panicked
      · rw [countP_dismantle fun _ => rfl]
        exact tallied.executed

theorem tallied_of_run (opened : start config = .ok first)
    (run : Relation.ReflTransGen Step first last) : Tallied last.shared := by
  induction run with
  | refl =>
      unfold start at opened
      split at opened
      · cases opened
      · split at opened <;> cases opened
        exact ⟨rfl, rfl⟩
  | tail _ step ih =>
      rcases step.cases_on_deed with ⟨me, old, new, pool, _, deed, rfl⟩ | ⟨made, rfl⟩ | ⟨signal, rfl⟩
      · exact deed.tallied ih
      · exact ih
      · exact ⟨ih.panicked, ih.executed⟩

inductive Worker.Throws (ticket : Ticket) (payload : Payload) : Worker α → Prop where
  | body {frame : Frame α} {rest : Body α} (same : frame.ticket = ticket)
      (next : frame.rest = .panic payload :: rest) : Throws ticket payload (.run frame)
  /-- A submission that is aimed at no worker panics as well. -/
  | fault {frame : Frame α} {fault : Fault} (same : frame.ticket = ticket)
      (text : payload = .text fault.message) :
      Throws ticket payload (.post frame (.done (.fault fault)))
  | deliver : Throws ticket payload (.deliver ticket (.error payload))

/-- A worker that has still to come to terms with a panic, and how often it has noted it. -/
inductive Worker.Recovers (ticket : Ticket) (payload : Payload) : Worker α → Nat → Prop where
  | throws {hand : Worker α} (throws : hand.Throws ticket payload) :
      Recovers ticket payload hand 0
  | countPanic : Recovers ticket payload (.countPanic ticket payload.message) 0
  | countRun : Recovers ticket payload (.countRun ticket) 1

namespace Worker

theorem Throws.holds (throws : hand.Throws ticket payload) :
    holding ticket (.worker hand) = 1 := by
  cases throws with
  | body same | fault same =>
      subst same
      simp [holding, Point.holds?, Worker.holds?, Worker.runs?, isFor]
  | deliver => simp [holding, Point.holds?, Worker.holds?, Worker.runs?, isFor]

theorem Recovers.holds (recovers : hand.Recovers ticket payload noted) :
    holding ticket (.worker hand) = 1 := by
  cases recovers with
  | throws throws => exact throws.holds
  | countPanic | countRun =>
      simp [holding, Point.holds?, Worker.holds?, Worker.runs?, isFor]

theorem Throws.not_gone (throws : hand.Throws ticket payload) : hand ≠ .gone := by
  cases throws <;> exact nofun

theorem Recovers.not_gone (recovers : hand.Recovers ticket payload noted) : hand ≠ .gone := by
  cases recovers with
  | throws throws => exact throws.not_gone
  | countPanic | countRun => exact nofun

theorem Throws.act (throws : hand.Throws ticket payload) (me : Nat) (pool : Pool α) :
    hand.act me pool = some (.deliver ticket (.error payload), pool) ∨
    hand.act me pool = some (Worker.afterDelivery ticket (pool.isForgone ticket) (.error payload),
      pool.setDelivery ticket (.ready (.error (.panicked payload.message)))) := by
  cases throws with
  | body same next =>
      subst same
      refine .inl ?_
      simp only [Worker.act, runBody, next]
  | fault same text =>
      subst same text
      exact .inl rfl
  | deliver => exact .inr rfl

theorem Throws.expire (throws : hand.Throws ticket payload) (me : Nat) (pool : Pool α) :
    hand.expire me pool = none := by
  cases throws <;> rfl

theorem Recovers.expire (recovers : hand.Recovers ticket payload noted) (me : Nat)
    (pool : Pool α) : hand.expire me pool = none := by
  cases recovers with
  | throws throws => exact throws.expire me pool
  | countPanic | countRun => rfl

theorem afterDelivery_of_panic (calm : payload ≠ .explosive) (forgone : Bool) :
    (afterDelivery ticket forgone (.error payload) : Worker α) =
      .countPanic ticket payload.message :=
  if_neg fun bursting => calm (of_decide_eq_true bursting)

end Worker

theorem Deed.notes_eq (deed : Deed me pool old new later) (apart : holding ticket old = 0) :
    later.mishaps .panicked ticket = pool.mishaps .panicked ticket ∧
      later.times .finished ticket = pool.times .finished ticket := by
  cases deed with
  | plain before after plain => exact ⟨plain.mishaps_eq _ _, plain.finished_eq _⟩
  | deliver | collect => exact ⟨rfl, rfl⟩
  | countPanic other message =>
      have elsewhere : isFor ticket (some other) = 0 := apart
      rw [mishaps_note, times_note]
      simp [Note.mishap?, Note.milestone?, elsewhere]
  | countRun other =>
      have elsewhere : isFor ticket (some other) = 0 := apart
      rw [mishaps_note, times_note]
      simp [Note.mishap?, Note.milestone?, elsewhere]
  | perish held =>
      rw [mishaps_note, times_note]
      cases held <;> simp [Note.mishap?, Note.milestone?]
  | dismantle =>
      rw [mishaps_dismantle, times, countP_dismantle fun _ => rfl]
      exact ⟨rfl, rfl⟩

theorem Booked.apart (booked : Booked ticket world) {other : ThreadId}
    (found : world.threads[me]? = some old) (holds : 0 < holding ticket old)
    (foundOther : world.threads[other]? = some new) (different : other ≠ me) :
    holding ticket new = 0 := by
  by_contra held
  have once := booked.held_once
  exact different (World.eq_of_total_le_one (Nat.le_of_add_right_le once) foundOther
    (Nat.pos_of_ne_zero held) found holds)

/-- The worker has not yet come to terms with the panic, and has noted since `world` how far
it has come. -/
inductive Recovering (me : ThreadId) (ticket : Ticket) (payload : Payload)
    (world last : Running α) : Prop where
  | intro {hand : Worker α} {noted : Nat} (found : last.threads[me]? = some (.worker hand))
      (recovers : hand.Recovers ticket payload noted)
      (panics : last.shared.mishaps .panicked ticket =
        world.shared.mishaps .panicked ticket + noted)
      (runs : last.shared.times .finished ticket = world.shared.times .finished ticket)

/-- The worker begins a new round, and has noted one panic and one run since `world`. -/
structure Recovered (me : ThreadId) (ticket : Ticket) (world last : Running α) : Prop where
  found : last.threads[me]? = some (.worker (.look 0))
  alive : last.shared.fates[me]? = some .alive
  panics : last.shared.mishaps .panicked ticket = world.shared.mishaps .panicked ticket + 1
  runs : last.shared.times .finished ticket = world.shared.times .finished ticket + 1

/-- What a worker does next that has to come to terms with a panic: it goes on to do so, having
noted what `more` says, or it begins a new round. -/
theorem Worker.Recovers.moved (recovers : hand.Recovers ticket payload noted)
    (calm : payload ≠ .explosive) (acted : hand.act me pool = some (next, later)) :
    (∃ more, next.Recovers ticket payload more ∧
      later.mishaps .panicked ticket + noted = pool.mishaps .panicked ticket + more ∧
      later.times .finished ticket = pool.times .finished ticket) ∨
    next = .look 0 ∧ noted = 1 ∧
      later.mishaps .panicked ticket = pool.mishaps .panicked ticket ∧
      later.times .finished ticket = pool.times .finished ticket + 1 := by
  cases recovers with
  | throws throws =>
      rcases throws.act me pool with acts | acts
      · rw [acts] at acted
        cases acted
        exact .inl ⟨0, .throws .deliver, rfl, rfl⟩
      · rw [acts, Worker.afterDelivery_of_panic calm] at acted
        cases acted
        exact .inl ⟨0, .countPanic, rfl, rfl⟩
  | countPanic =>
      cases acted
      refine .inl ⟨1, .countRun, ?_, ?_⟩
      · rw [mishaps_note, mishaps_count]
        simp [Note.mishap?, isFor]
      · rw [times_note, times_count]
        rfl
  | countRun =>
      cases acted
      refine .inr ⟨rfl, rfl, ?_, ?_⟩
      · rw [mishaps_note, mishaps_count]
        rfl
      · rw [times_note, times_count]
        simp [Note.milestone?, isFor]

theorem Recovering.step (recovering : Recovering me ticket payload world last)
    (recorded : Recorded config last) (calm : payload ≠ .explosive) (step : Step last after) :
    Recovering me ticket payload world after ∨ Recovered me ticket world after := by
  have recordedAfter := recorded.step step
  obtain @⟨hand, noted, found, recovers, panics, runs⟩ := recovering
  rcases step.cases_on_move with
    ⟨other, old, new, pool, foundOther, moved, rfl⟩ | ⟨made, rfl⟩ | ⟨signal, rfl⟩
  · by_cases same : other = me
    · subst same
      rw [found] at foundOther
      cases foundOther
      rcases moved with acted | expired
      · rw [Pool.act, Option.map_eq_some_iff] at acted
        obtain ⟨⟨next, changed⟩, acted, same⟩ := acted
        cases same
        rcases recovers.moved calm acted with ⟨more, goesOn, sum, still⟩ | ⟨rfl, rfl, still, ran⟩
        · exact .inl ⟨World.found_set found, goesOn, by simp only [World.put]; omega,
            still.trans runs⟩
        · have looks : (last.threads.set other (.worker (.look 0)))[other]? =
              some (.worker (.look 0)) := World.found_set found
          exact .inr ⟨looks, recordedAfter.alive looks (by simp), still.trans panics,
            ran.trans (congrArg (· + 1) runs)⟩
      · rw [Pool.expire, recovers.expire] at expired
        cases expired
    · obtain ⟨_, booked⟩ := recorded.serving found recovers.not_gone
      have holds : 0 < holding ticket (.worker hand) := recovers.holds ▸ Nat.one_pos
      have apart := (booked ticket).apart found holds foundOther same
      obtain ⟨samePanics, sameRuns⟩ := (Point.deed_of_move moved).notes_eq apart
      exact .inl ⟨(List.getElem?_set_ne same).trans found, recovers, samePanics.trans panics,
        sameRuns.trans runs⟩
  · exact .inl ⟨World.found_append found, recovers, panics, runs⟩
  · exact .inl ⟨found, recovers, panics, runs⟩

theorem Recovering.run (recovering : Recovering me ticket payload world world)
    (recorded : Recorded config world) (calm : payload ≠ .explosive)
    (run : Relation.ReflTransGen Step world last) :
    Recovering me ticket payload world last ∨
      ∃ mid, Relation.ReflTransGen Step world mid ∧ Relation.ReflTransGen Step mid last ∧
        Recovered me ticket world mid := by
  induction run with
  | refl => exact .inl recovering
  | @tail mid after before step ih =>
      rcases ih with still | ⟨done, earlier, later, recovered⟩
      · rcases still.step (recorded.run before) calm step with still | recovered
        · exact .inl still
        · exact .inr ⟨after, before.tail step, .refl, recovered⟩
      · exact .inr ⟨done, earlier, later.tail step, recovered⟩

theorem Worker.Recovers.acts (recovers : hand.Recovers ticket payload noted) (me : Nat)
    (pool : Pool α) : ∃ moved, hand.act me pool = some moved := by
  cases recovers with
  | throws throws => exact (throws.act me pool).elim (fun acts => ⟨_, acts⟩) fun acts => ⟨_, acts⟩
  | countPanic | countRun => exact ⟨_, rfl⟩

theorem Worker.Throws.delivered (throws : hand.Throws ticket payload)
    (booked : Booked ticket world) (found : world.threads[me]? = some (.worker hand))
    (moved : Pool.act me (.worker hand) world.shared = some (new, later) ∨
      Pool.expire me (.worker hand) world.shared = some (new, later)) :
    (∃ still : Worker α, new = .worker still ∧ still.Throws ticket payload) ∨
    (0 < sent ticket (world.put me (new, later)) ∧
      later.deliveries[ticket]? = some (.ready (.error (.panicked payload.message)))) := by
  rcases moved with acted | expired
  · rw [Pool.act] at acted
    rcases throws.act me world.shared with acts | acts
    · rw [acts] at acted
      cases acted
      exact .inl ⟨_, rfl, .deliver⟩
    · rw [acts] at acted
      cases acted
      have holds : 0 < holding ticket (.worker hand) := throws.holds ▸ Nat.one_pos
      have issued := booked.issued_of_held found holds
      have settles := World.weight_le_total (settling ticket)
        (World.found_set found : (world.threads.set me
          (.worker (Worker.afterDelivery ticket (world.shared.isForgone ticket)
            (.error payload))))[me]? = _)
      rw [settling_afterDelivery, if_pos rfl] at settles
      exact .inr ⟨Nat.lt_of_lt_of_le settles (Nat.le_add_right _ _),
        World.found_set (List.getElem?_eq_getElem issued)⟩
  · rw [Pool.expire, throws.expire] at expired
    cases expired

theorem Recorded.told_of_throws (recorded : Recorded config world)
    (found : world.threads[me]? = some (.worker hand)) (throws : hand.Throws ticket payload)
    (run : Relation.ReflTransGen (Uncollected ticket) world last) :
    (∃ still : Worker α, last.threads[me]? = some (.worker still) ∧
      still.Throws ticket payload) ∨
    (0 < sent ticket last ∧ last.shared.deliveries[ticket]? =
      some (.ready (.error (.panicked payload.message)))) := by
  induction run with
  | refl => exact .inl ⟨hand, found, throws⟩
  | @tail mid after before uncollected ih =>
      have recorded := recorded.run (Uncollected.run before)
      rcases ih with ⟨still, foundStill, throwing⟩ | ⟨gone, ready⟩
      · rcases uncollected.step.cases_on_move with
          ⟨other, old, new, pool, foundOther, moved, rfl⟩ | ⟨made, rfl⟩ | ⟨signal, rfl⟩
        · by_cases same : other = me
          · subst same
            rw [foundStill] at foundOther
            cases foundOther
            obtain ⟨_, booked⟩ := recorded.serving foundStill throwing.not_gone
            rcases throwing.delivered (booked ticket) foundStill moved with
              ⟨goesOn, rfl, throws⟩ | delivered
            · exact .inl ⟨goesOn, World.found_set foundStill, throws⟩
            · exact .inr delivered
          · exact .inl ⟨still, (List.getElem?_set_ne same).trans foundStill, throwing⟩
        · exact .inl ⟨still, World.found_append foundStill, throwing⟩
        · exact .inl ⟨still, foundStill, throwing⟩
      · exact .inr ⟨Nat.lt_of_lt_of_le gone (uncollected.step.sent_le ticket),
          recorded.ready_of_run gone ready (.single uncollected)⟩

/-- Whoever calls an open pool whenever and however often, whatever the other tasks do, and
however the actions of all threads interleave: let a worker run a task that panics. If what is
thrown can be discarded without another panic, the worker is alive and can go on until it
begins a new round, and in between it has noted one panic and one run of that task; and the
counters count just these notes. Whatever is thrown, once the worker has delivered it, whoever
is the first to ask is told of the panic, with the text of what was thrown. -/
theorem panic_recovered (config : Config) (first world : Running α)
    (opened : start config = .ok first) (run : Relation.ReflTransGen Step first world)
    (me : ThreadId) (hand : Worker α) (ticket : Ticket) (payload : Payload)
    (found : world.threads[me]? = some (.worker hand)) (throws : hand.Throws ticket payload) :
    (payload ≠ .explosive → ∀ last, Relation.ReflTransGen Step world last →
      (∃ (still : Worker α) (noted : Nat), last.threads[me]? = some (.worker still) ∧
        still.Recovers ticket payload noted ∧ last.shared.fates[me]? = some .alive ∧
        ∃ moved, still.act me last.shared = some moved) ∨
      ∃ mid, Relation.ReflTransGen Step world mid ∧ Relation.ReflTransGen Step mid last ∧
        Recovered me ticket world mid) ∧
    (∀ last, Relation.ReflTransGen Step world last → Tallied last.shared) ∧
    ∀ last, Relation.ReflTransGen (Uncollected ticket) world last →
      (∃ still : Worker α, last.threads[me]? = some (.worker still) ∧
        still.Throws ticket payload) ∨
      Told ticket last (some (.error (.panicked payload.message))) := by
  have recorded : Recorded config world := (Recorded.start opened).run run
  refine ⟨?_, ?_, ?_⟩
  · intro calm last onward
    have begins : Recovering me ticket payload world world :=
      ⟨found, .throws throws, rfl, rfl⟩
    rcases begins.run recorded calm onward with @⟨still, noted, foundStill, recovers, _, _⟩ | done
    · exact .inl ⟨still, noted, foundStill, recovers,
        (recorded.run onward).alive foundStill recovers.not_gone, recovers.acts me last.shared⟩
    · exact .inr done
  · intro last onward
    exact tallied_of_run opened (run.trans onward)
  · intro last onward
    exact (recorded.told_of_throws found throws onward).imp_right fun ⟨_, ready⟩ =>
      told_iff.mpr ⟨_, ready, rfl⟩

/-- Threads act in turn, as long as nobody collects the outcome of the first ticket. -/
def perform (order : List ThreadId) (world : Running Unit) : Running Unit :=
  (perform? (fun world after => !collects 0 world after) order world).getD world

/-- Thread 1 submits a task that panics, to the one worker that there is. -/
def provoked (payload : Payload) : Running Unit := opened.spawn (begin (.submit [.panic payload]))

def taking : List ThreadId := List.replicate 3 1 ++ List.replicate 2 0

def throwing (payload : Payload) : Running Unit := perform taking (provoked payload)

/-- The worker delivers the panic, counts it, counts the run, and looks for another task. -/
def recovered : Running Unit := perform (List.replicate 4 0) (throwing (.text "boom"))

private theorem run_to_throwing (payload : Payload) :
    Relation.ReflTransGen (Uncollected 0) opened (throwing payload) :=
  .head (uncollected_of_collects (.call (.submit [.panic payload])) rfl)
    (reached_of_perform uncollected_of_collects taking rfl)

private theorem throwing_to_recovered :
    Relation.ReflTransGen (Uncollected 0) (throwing (.text "boom")) recovered :=
  reached_of_perform uncollected_of_collects (List.replicate 4 0) rfl

theorem recovered_tells_of_boom :
    Tallied recovered.shared ∧ Told 0 recovered (some (.error (.panicked "boom"))) ∧
      ∃ mid, Recovered 0 0 (throwing (.text "boom")) mid := by
  have before := Uncollected.run (run_to_throwing (.text "boom"))
  have after := Uncollected.run throwing_to_recovered
  obtain ⟨recovers, tallied, told⟩ := panic_recovered narrow opened (throwing (.text "boom"))
    start_narrow before 0 _ 0 (.text "boom") rfl (.body rfl rfl)
  refine ⟨tallied recovered after, ?_, ?_⟩
  · rcases told recovered throwing_to_recovered with ⟨still, found, throws⟩ | told
    · cases found
      cases throws
    · exact told
  · rcases recovers nofun recovered after with ⟨still, noted, found, recovers, _⟩ | ⟨mid, _, _, done⟩
    · cases found
      cases recovers with
      | throws throws => cases throws
    · exact ⟨mid, done⟩

/-- The worker delivers the panic, and dies when it discards what was thrown. -/
def burst : Running Unit := perform (List.replicate 3 0) (throwing .explosive)

/-- A panic can take a worker down: where what was thrown panics when it is discarded, the
worker has died, and neither a panic nor a run is counted; all that is as it should be is what
whoever asks is told. -/
theorem burst_takes_the_worker_down :
    start narrow = .ok opened ∧ Relation.ReflTransGen (Uncollected 0) opened burst ∧
      (∃ frame : Frame Unit, (throwing .explosive).threads[0]? = some (.worker (.run frame)) ∧
        frame.ticket = 0 ∧ frame.rest = [.panic .explosive]) ∧
      burst.threads[0]? = some (.worker .gone) ∧ burst.shared.fates = [.died] ∧
      burst.shared.counters.panicked = 0 ∧ burst.shared.counters.executed = 0 ∧
      Told 0 burst (some (.error (.panicked "non-string panic payload"))) := by
  refine ⟨start_narrow, ?_, ⟨_, rfl, rfl, rfl⟩, rfl, rfl, rfl, rfl, ?_⟩
  · exact (run_to_throwing .explosive).trans
      (reached_of_perform uncollected_of_collects (List.replicate 3 0) rfl)
  · exact told_iff.mpr ⟨_, rfl, rfl⟩

end Turnstile.Pool
