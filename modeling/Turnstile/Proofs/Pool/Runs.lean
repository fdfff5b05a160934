import Turnstile.Proofs.Pool.Changes

/-!
# Runs of a pool

Anybody may call the pool at any time, any number of callers at once, and tasks
call it too. A `Run` is any interleaving of the actions of the workers and of the
callers with new calls, with the opening of gates and with the dropping of handles, in
which no worker comes to discard something that panics then.
-/

namespace Turnstile.Pool

set_option autoImplicit false

open Turnstile.Task (Ticket Job)

variable {α : Type} {me : ThreadId} {pool changed : Pool α} {world later first last : Running α}

namespace Point

def submission? : Point α → Option (Submission α)
  | .worker hand => hand.submission?
  | .submission posting => some posting
  | .inquiry _ | .closing _ => none

def runs? : Point α → Option Ticket
  | .worker hand => hand.runs?
  | .submission _ | .inquiry _ | .closing _ => none

def explodes (pool : Pool α) : Point α → Bool
  | .worker hand => hand.explodes pool
  | .submission _ | .inquiry _ | .closing _ => false

inductive Change (me : ThreadId) (pool : Pool α) : Point α → Point α → Pool α → Prop where
  | worker {old new : Worker α} {changed : Pool α} (change : Worker.Change me pool old new changed) :
      Change me pool (.worker old) (.worker new) changed
  | submission {old new : Submission α} {changed : Pool α}
      (change : Submission.Change pool old new changed) :
      Change me pool (.submission old) (.submission new) changed
  | inquiry {old new : Inquiry α} {changed : Pool α} (quiet : Quiet pool changed) :
      Change me pool (.inquiry old) (.inquiry new) changed
  | closing {old new : Closing} {changed : Pool α} (change : Closing.Change pool old new changed) :
      Change me pool (.closing old) (.closing new) changed

end Point

theorem Inquiry.quiet_of_act {inquiry new : Inquiry α}
    (acted : inquiry.act pool = some (new, changed)) : Quiet pool changed := by
  cases inquiry with
  | ask ticket =>
      rw [act, Option.map_eq_some_iff] at acted
      obtain ⟨delivery, _, acted⟩ := acted
      cases acted
      exact (Quiet.refl pool).setDelivery _ _
  | wait ticket timed =>
      rw [act, Option.bind_eq_some_iff] at acted
      obtain ⟨delivery, _, acted⟩ := acted
      split at acted
      · cases acted
        exact (Quiet.refl pool).setDelivery _ _
      · cases acted
  | done outcome => cases acted

theorem Inquiry.quiet_of_expire {inquiry new : Inquiry α}
    (expired : inquiry.expire pool = some (new, changed)) : Quiet pool changed := by
  unfold expire at expired
  split at expired
  · cases expired
    exact .refl pool
  · cases expired

namespace Point

variable {old new : Point α}

theorem change_of_act (idle : pool.Idle) (calm : old.explodes pool = false)
    (alive : ∀ ticket, old ≠ .worker (.perish ticket))
    (acted : act me old pool = some (new, changed)) : Change me pool old new changed := by
  cases old with
  | worker hand =>
      rw [act, Option.map_eq_some_iff] at acted
      obtain ⟨⟨next, after⟩, acted, same⟩ := acted
      cases same
      have living : ∀ ticket, hand ≠ .perish ticket := fun ticket same => alive ticket (same ▸ rfl)
      exact .worker (Worker.change_of_act idle calm living acted)
  | submission posting =>
      rw [act, Option.map_eq_some_iff] at acted
      obtain ⟨⟨next, after⟩, acted, same⟩ := acted
      cases same
      exact .submission (Submission.change_of_act idle acted)
  | inquiry asked =>
      rw [act, Option.map_eq_some_iff] at acted
      obtain ⟨⟨next, after⟩, acted, same⟩ := acted
      cases same
      exact .inquiry (Inquiry.quiet_of_act acted)
  | closing closer =>
      rw [act, Option.map_eq_some_iff] at acted
      obtain ⟨⟨next, after⟩, acted, same⟩ := acted
      cases same
      exact .closing (Closing.change_of_act acted)

theorem change_of_expire (idle : pool.Idle) (expired : expire me old pool = some (new, changed)) :
    Change me pool old new changed := by
  cases old with
  | worker hand =>
      rw [expire, Option.map_eq_some_iff] at expired
      obtain ⟨⟨next, after⟩, expired, same⟩ := expired
      cases same
      exact .worker (Worker.change_of_expire idle expired)
  | inquiry asked =>
      rw [expire, Option.map_eq_some_iff] at expired
      obtain ⟨⟨next, after⟩, expired, same⟩ := expired
      cases same
      exact .inquiry (Inquiry.quiet_of_expire expired)
  | submission _ => cases expired
  | closing _ => cases expired

end Point

/-- What can happen in a pool. -/
inductive Step (world : Running α) : Running α → Prop where
  | act {later : Running α} (me : ThreadId) (acted : world.act? (machine α) me = some later) :
      Step world later
  | expire {later : Running α} (me : ThreadId)
      (expired : world.expire? (machine α) me = some later) : Step world later
  | call (made : Call α) : Step world (world.spawn (begin made))
  | heed (signal : Signal) : Step world ⟨world.shared.heed signal, world.threads⟩

/-- No body has thrown what panics again when it is discarded, and none has ended with a result
that panics when it is discarded and whose handle has been dropped. -/
def Calm (world : Running α) : Prop :=
  ∀ point ∈ world.threads, point.explodes world.shared = false

instance (world : Running α) : Decidable (Calm world) :=
  inferInstanceAs (Decidable (∀ point ∈ world.threads, point.explodes world.shared = false))

inductive Run (first : Running α) : Running α → Prop where
  | refl : Run first first
  | step {mid last : Running α} : Run first mid → Step mid last → Calm last → Run first last

theorem Run.trans (run : Run first world) (onward : Run world last) : Run first last := by
  induction onward with
  | refl => exact run
  | step _ step calm ih => exact .step ih step calm

def actCalmly? (world : Running α) (me : ThreadId) : Option (Running α) :=
  (world.act? (machine α) me).filter fun after => Calm after

theorem Run.perform (run : Run first world) (order : List ThreadId)
    (performed : order.foldlM actCalmly? world = some last) : Run first last := by
  induction order generalizing world with
  | nil =>
      cases performed
      exact run
  | cons me rest ih =>
      rw [List.foldlM_cons, Option.bind_eq_bind, Option.bind_eq_some_iff] at performed
      obtain ⟨mid, acted, performed⟩ := performed
      obtain ⟨acted, calm⟩ := Option.filter_eq_some_iff.mp acted
      exact ih (.step run (.act me acted) (by simpa using calm)) performed

theorem Step.cases_on_move (step : Step world later) :
    (∃ me old new pool, world.threads[me]? = some old ∧
      (Pool.act me old world.shared = some (new, pool) ∨
        Pool.expire me old world.shared = some (new, pool)) ∧ later = world.put me (new, pool)) ∨
    (∃ made, later = world.spawn (begin made)) ∨
    ∃ signal, later = ⟨world.shared.heed signal, world.threads⟩ := by
  cases step with
  | act me acted =>
      rw [World.act?, Option.bind_eq_some_iff] at acted
      obtain ⟨old, found, acted⟩ := acted
      rw [Option.map_eq_some_iff] at acted
      obtain ⟨⟨new, pool⟩, acted, rfl⟩ := acted
      exact .inl ⟨me, old, new, pool, found, .inl acted, rfl⟩
  | expire me expired =>
      rw [World.expire?, Option.bind_eq_some_iff] at expired
      obtain ⟨old, found, expired⟩ := expired
      rw [Option.map_eq_some_iff] at expired
      obtain ⟨⟨new, pool⟩, expired, rfl⟩ := expired
      exact .inl ⟨me, old, new, pool, found, .inr expired, rfl⟩
  | call made => exact .inr (.inl ⟨made, rfl⟩)
  | heed signal => exact .inr (.inr ⟨signal, rfl⟩)

theorem Step.cases_on_thread (idle : world.shared.Idle) (calm : Calm world)
    (alive : ∀ (me : ThreadId) (ticket : Option Ticket),
      world.threads[me]? ≠ some (.worker (.perish ticket)))
    (step : Step world later) :
    (∃ me old new pool, world.threads[me]? = some old ∧
      Point.Change me world.shared old new pool ∧ later = world.put me (new, pool)) ∨
    (∃ made, later = world.spawn (begin made)) ∨
    ∃ signal, later = ⟨world.shared.heed signal, world.threads⟩ := by
  refine step.cases_on_move.imp_left ?_
  rintro ⟨me, old, new, pool, found, acted | expired, rfl⟩
  · have quiet : old.explodes world.shared = false := calm old (List.mem_of_getElem? found)
    have living : ∀ ticket, old ≠ .worker (.perish ticket) :=
      fun ticket same => alive me ticket (same ▸ found)
    exact ⟨me, old, new, pool, found, Point.change_of_act idle quiet living acted, rfl⟩
  · exact ⟨me, old, new, pool, found, Point.change_of_expire idle expired, rfl⟩

end Turnstile.Pool
