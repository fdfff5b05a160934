import Turnstile.Proofs.Pool.Losses

/-!
# What the holder of a ticket is told

A delivery is pending until a worker delivers the outcome, ready until somebody collects
it, and closed then. Only a job that is discarded closes its delivery without an outcome.
So as long as nobody has collected the outcome of a ticket, a delivery that is closed
belongs to a job that was discarded, and a job that has run has an outcome that waits.
-/

namespace Turnstile.Pool

set_option autoImplicit false

open World (total)
open Turnstile.Task (Ticket Job Delivery Outcome Payload)

variable {α : Type} {me : ThreadId} {pool later : Pool α} {ticket : Ticket} {config : Config}
  {world after first last : Running α} {old new : Point α} {delivery : Delivery α}

def Collects (ticket : Ticket) (world after : Running α) : Prop :=
  ∃ outcome, world.shared.deliveries[ticket]? = some (.ready outcome) ∧
    after.shared.deliveries[ticket]? = some .closed

/-- A step in which nobody collects the outcome of a ticket. -/
structure Uncollected (ticket : Ticket) (world after : Running α) : Prop where
  step : Step world after
  kept : ¬ Collects ticket world after

theorem Uncollected.run (kept : Relation.ReflTransGen (Uncollected ticket) first last) :
    Relation.ReflTransGen Step first last :=
  Relation.ReflTransGen.mono (fun _ _ uncollected => Uncollected.step uncollected) _ _ kept

def collects (ticket : Ticket) (world after : Running α) : Bool :=
  match world.shared.deliveries[ticket]?, after.shared.deliveries[ticket]? with
  | some (.ready _), some .closed => true
  | _, _ => false

theorem uncollected_of_collects (step : Step world after)
    (kept : (!collects ticket world after) = true) : Uncollected ticket world after := by
  refine ⟨step, ?_⟩
  rintro ⟨outcome, ready, closed⟩
  simp [collects, ready, closed] at kept

/-- What whoever asks for an outcome is told. -/
def Told (ticket : Ticket) (world : Running α) (told : Option (Outcome α)) : Prop :=
  ∃ pool, Inquiry.act (.ask ticket) world.shared = some (.done told, pool)

theorem told_iff {told : Option (Outcome α)} :
    Told ticket world told ↔
      ∃ delivery, world.shared.deliveries[ticket]? = some delivery ∧
        (Inquiry.collect delivery).1 = told := by
  simp only [Told, Inquiry.act, Option.map_eq_some_iff, Prod.mk.injEq, Inquiry.done.injEq]
  constructor
  · rintro ⟨pool, delivery, found, collected, _⟩
    exact ⟨delivery, found, collected⟩
  · rintro ⟨delivery, found, collected⟩
    exact ⟨_, delivery, found, collected, rfl⟩

theorem countP_dismantle {counts : Note → Bool}
    (ignores : ∀ ticket, counts (.discarded ticket) = false) (pool : Pool α) :
    pool.dismantle.journal.countP counts = pool.journal.countP counts := by
  rw [dismantle, List.countP_append, List.countP_reverse, List.countP_map, Nat.add_eq_right,
    List.countP_eq_zero]
  intro left _
  simp [ignores]

theorem ended_dismantle (ticket : Ticket) (pool : Pool α) :
    pool.dismantle.ended ticket = pool.ended ticket := by
  rw [ended, ended, mishaps_dismantle, times, countP_dismantle fun _ => rfl]
  rfl

theorem delivery_dismantle (found : pool.deliveries[ticket]? = some delivery) :
    pool.dismantle.deliveries[ticket]? =
      some (if 0 < pool.queuedTimes ticket then delivery.close else delivery) := by
  have listed : (pool.queued.map Job.ticket).contains ticket = true ↔
      0 < pool.queuedTimes ticket := by
    rw [List.contains_iff_mem, queuedTimes_eq_count, List.count_pos_iff]
  rw [dismantle, List.getElem?_mapIdx, found, Option.map_some]
  simp only [listed]

theorem Deed.delivery_cases (deed : Deed me pool old new later)
    (found : pool.deliveries[ticket]? = some delivery) :
    later.deliveries[ticket]? = some delivery ∨
    (∃ ending, old = .worker (.deliver ticket ending) ∧
      later.deliveries[ticket]? = some (.ready (Worker.outcome ending))) ∨
    (∃ outcome, delivery = .ready outcome ∧ later.deliveries[ticket]? = some .closed) ∨
    (delivery = .pending ∧ later.deliveries[ticket]? = some .closed ∧
      0 < later.mishaps .discarded ticket) := by
  cases deed with
  | plain before after plain =>
      refine .inl ?_
      rcases plain.deliveries with same | more
      · rw [same, found]
      · rw [more]
        exact World.found_append found
  | deliver other ending =>
      by_cases same : other = ticket
      · subst same
        exact .inr (.inl ⟨ending, rfl, World.found_set found⟩)
      · exact .inl ((List.getElem?_set_ne same).trans found)
  | @collect _ _ other collected foundOther =>
      by_cases same : other = ticket
      · subst same
        rw [found] at foundOther
        cases foundOther
        cases delivery with
        | pending | closed => exact .inl (World.found_set found)
        | ready outcome => exact .inr (.inr (.inl ⟨outcome, rfl, World.found_set found⟩))
      · exact .inl ((List.getElem?_set_ne same).trans found)
  | countPanic | countRun | perish => exact .inl found
  | dismantle =>
      rw [delivery_dismantle found, mishaps_dismantle, if_pos rfl]
      by_cases left : 0 < pool.queuedTimes ticket
      · rw [if_pos left]
        cases delivery with
        | ready outcome | closed => exact .inl rfl
        | pending => exact .inr (.inr (.inr ⟨rfl, rfl, Nat.add_pos_right _ left⟩))
      · rw [if_neg left]
        exact .inl rfl

theorem Deed.delivery_fresh (deed : Deed me pool old new later)
    (unissued : pool.deliveries[ticket]? = none)
    (found : later.deliveries[ticket]? = some delivery) : delivery = .pending := by
  have beyond := List.getElem?_eq_none_iff.mp unissued
  have never {other : Delivery α} (found : pool.deliveries[ticket]? = some other) : False := by
    rw [unissued] at found
    cases found
  have unset (index : Nat) (set : Delivery α) :
      (pool.deliveries.set index set)[ticket]? = none := by
    rwa [List.getElem?_eq_none_iff, List.length_set]
  cases deed with
  | plain before after plain =>
      rcases plain.deliveries with same | more
      · exact (never (same ▸ found)).elim
      · rw [more] at found
        rcases World.found_or_eq_of_append found with found | same
        · exact (never found).elim
        · exact same
  | deliver other ending =>
      rw [setDelivery, unset] at found
      cases found
  | collect foundOther =>
      rw [setDelivery, unset] at found
      cases found
  | countPanic | countRun | perish => exact (never found).elim
  | dismantle =>
      rw [Pool.dismantle, List.getElem?_mapIdx, unissued] at found
      cases found

theorem Step.delivery_cases (step : Step world after)
    (found : after.shared.deliveries[ticket]? = some delivery) :
    delivery = .pending ∨ world.shared.deliveries[ticket]? = some delivery ∨
    (∃ ending, delivery = .ready (Worker.outcome ending)) ∨
    (Collects ticket world after ∧ delivery = .closed) ∨
    (delivery = .closed ∧ 0 < after.shared.mishaps .discarded ticket) := by
  rcases step.cases_on_deed with ⟨me, old, new, pool, _, deed, rfl⟩ | ⟨made, rfl⟩ | ⟨signal, rfl⟩
  · cases foundBefore : world.shared.deliveries[ticket]? with
    | none => exact .inl (deed.delivery_fresh foundBefore found)
    | some before =>
        rcases deed.delivery_cases foundBefore with
          same | ⟨ending, _, same⟩ | ⟨outcome, rfl, same⟩ | ⟨_, same, lost⟩
        · exact .inr (.inl (same.symm.trans found))
        · cases found.symm.trans same
          exact .inr (.inr (.inl ⟨ending, rfl⟩))
        · cases found.symm.trans same
          exact .inr (.inr (.inr (.inl ⟨⟨outcome, foundBefore, same⟩, rfl⟩)))
        · cases found.symm.trans same
          exact .inr (.inr (.inr (.inr ⟨rfl, lost⟩)))
  · exact .inr (.inl found)
  · exact .inr (.inl found)

theorem Worker.outcome_ne_abandoned (ending : Ending α) :
    Worker.outcome ending ≠ .error .abandoned := by
  cases ending <;> exact nofun

theorem ready_ne_abandoned (opened : start config = .ok first)
    (run : Relation.ReflTransGen Step first last) {outcome : Outcome α}
    (found : last.shared.deliveries[ticket]? = some (.ready outcome)) :
    outcome ≠ .error .abandoned := by
  induction run generalizing outcome with
  | refl =>
      unfold start at opened
      split at opened
      · cases opened
      · split at opened <;> cases opened
        cases found
  | tail _ step ih =>
      rcases step.delivery_cases found with none | same | ⟨ending, same⟩ | ⟨_, closed⟩ | ⟨closed, _⟩
      · cases none
      · exact ih same
      · cases same
        exact Worker.outcome_ne_abandoned ending
      · cases closed
      · cases closed

theorem discarded_of_closed (opened : start config = .ok first)
    (run : Relation.ReflTransGen (Uncollected ticket) first last)
    (closed : last.shared.deliveries[ticket]? = some .closed) :
    0 < last.shared.mishaps .discarded ticket := by
  induction run with
  | refl =>
      unfold start at opened
      split at opened
      · cases opened
      · split at opened <;> cases opened
        cases closed
  | tail _ uncollected ih =>
      rcases uncollected.step.delivery_cases closed with
        none | same | ⟨ending, same⟩ | ⟨collects, _⟩ | ⟨_, lost⟩
      · cases none
      · exact Nat.lt_of_lt_of_le (ih same) (uncollected.step.countP_le _)
      · cases same
      · exact absurd collects uncollected.kept
      · exact lost

/-- A thread has delivered the outcome of the ticket and has still to note it. -/
def settling (ticket : Ticket) (point : Point α) : Nat := isFor ticket point.settles?

def sent (ticket : Ticket) (world : Running α) : Nat :=
  total (settling ticket) world.threads + world.shared.ended ticket

theorem settling_le_holding (point : Point α) : settling ticket point ≤ holding ticket point := by
  match point with
  | .worker (.countPanic _ _) | .worker (.countRun _) | .worker (.perish _) => exact Nat.le_refl _
  | .worker .start | .worker (.look _) | .worker (.countTheft _ _) | .worker .sleep
  | .worker .checkClosed | .worker .checkEmpty | .worker (.run _) | .worker (.post _ _)
  | .worker (.deliver _ _) | .worker .leave | .worker .gone | .submission _ | .inquiry _
  | .closing _ => exact Nat.zero_le _

theorem settling_afterDelivery (other : Ticket) (forgone : Bool) (ending : Ending α) :
    settling ticket (.worker (Worker.afterDelivery other forgone ending)) =
      if other = ticket then 1 else 0 := by
  rcases Worker.afterDelivery_cases other forgone ending with
    after | after | ⟨message, after⟩ <;>
    simp [after, settling, Point.settles?, Worker.settles?, isFor]

theorem Deed.sent_cases (deed : Deed me pool old new later) (ticket : Ticket) :
    settling ticket new + later.ended ticket = settling ticket old + pool.ended ticket ∨
    ∃ ending, old = .worker (.deliver ticket ending) ∧
      new = .worker (Worker.afterDelivery ticket (pool.isForgone ticket) ending) ∧
      later = pool.setDelivery ticket (.ready (Worker.outcome ending)) := by
  cases deed with
  | plain before after plain =>
      rw [settling, settling, before, after, plain.ended_eq]
      exact .inl rfl
  | deliver other ending =>
      by_cases same : other = ticket
      · subst same
        exact .inr ⟨ending, rfl, rfl, rfl⟩
      · refine .inl ?_
        rw [settling_afterDelivery, if_neg same]
        rfl
  | countPanic other message =>
      rw [ended, ended, times_note, mishaps_note]
      exact .inl rfl
  | countRun other =>
      refine .inl ?_
      rw [ended, ended, times_note, mishaps_note]
      simp only [settling, Point.settles?, Worker.settles?, Note.milestone?, Note.mishap?,
        isFor_milestone, isFor_none, mishaps_count, if_true, times_count]
      omega
  | perish held =>
      refine .inl ?_
      rw [ended, ended, times_note, mishaps_note]
      cases held with
      | none => rfl
      | some held =>
          simp only [settling, Point.settles?, Worker.settles?, Note.milestone?, Note.mishap?,
            isFor_mishap, isFor_none, mishaps_setFate, if_true, times_setFate]
          omega
  | collect => exact .inl rfl
  | dismantle =>
      rw [ended_dismantle]
      exact .inl rfl

theorem sent_put (found : world.threads[me]? = some old) (ticket : Ticket) :
    sent ticket (world.put me (new, later)) + settling ticket old + world.shared.ended ticket =
      sent ticket world + settling ticket new + later.ended ticket := by
  have settle := World.total_set (settling ticket) found new
  simp only [sent, World.put]
  omega

theorem sent_call (ticket : Ticket) (world : Running α) (made : Call α) :
    sent ticket (world.spawn (begin made)) = sent ticket world := by
  have resting : settling ticket (begin made) = 0 := by cases made <;> rfl
  rw [sent, World.spawn, World.total_append, resting]
  rfl

theorem Step.sent_le (step : Step world after) (ticket : Ticket) :
    sent ticket world ≤ sent ticket after := by
  rcases step.cases_on_deed with ⟨me, old, new, pool, found, deed, rfl⟩ | ⟨made, rfl⟩ | ⟨signal, rfl⟩
  · have moved : sent ticket (world.put me (new, pool)) + _ + _ = _ := sent_put found ticket
    rcases deed.sent_cases ticket with same | ⟨ending, rfl, rfl, rfl⟩
    · omega
    · rw [settling_afterDelivery, if_pos rfl] at moved
      have before : settling ticket (Point.worker (.deliver ticket ending) : Point α) = 0 := rfl
      have same : (world.shared.setDelivery ticket (.ready (Worker.outcome ending))).ended ticket =
          world.shared.ended ticket := rfl
      omega
  · exact (sent_call ticket world made).ge
  · exact Nat.le_refl _

theorem Recorded.serving (recorded : Recorded config world) {hand : Worker α}
    (found : world.threads[me]? = some (.worker hand)) (here : hand ≠ .gone) :
    world.shared.Idle ∧ ∀ ticket, Booked ticket world := by
  cases recorded.era with
  | serving idle whole booked => exact ⟨idle, booked⟩
  | finished finished _ =>
      exact absurd rfl (finished.ended _ (List.mem_of_getElem? (recorded.alive found here)))

namespace Booked

theorem issued_of_held (booked : Booked ticket world) (found : world.threads[me]? = some old)
    (holds : 0 < holding ticket old) : ticket < world.shared.deliveries.length := by
  have some := World.weight_le_total (holding ticket) found
  have decided := booked.decided
  have stored := booked.stored
  have ran := booked.ran
  by_contra beyond
  rw [issued, if_neg beyond] at decided
  omega

theorem not_delivering (booked : Booked ticket world) (gone : 0 < sent ticket world)
    {ending : Ending α} (found : world.threads[me]? = some (.worker (.deliver ticket ending))) :
    False := by
  have once := booked.held_once
  have held : total (holding ticket) world.threads = total (settling ticket) world.threads +
      total (fun point => holding ticket point - settling ticket point) world.threads := by
    rw [← World.total_add]
    refine congrArg (total · world.threads) (funext fun point => ?_)
    have less : settling ticket point ≤ holding ticket point := settling_le_holding point
    omega
  have here := World.weight_le_total
    (fun point => holding ticket point - settling ticket point) found
  have single : holding ticket (Point.worker (.deliver ticket ending)) -
      settling ticket (Point.worker (.deliver ticket ending)) = 1 := by
    simp [holding, settling, Point.holds?, Point.settles?, Worker.holds?, Worker.settles?,
      Worker.runs?, isFor]
  rw [sent] at gone
  omega

end Booked

theorem Recorded.sent_le_one (recorded : Recorded config first)
    (run : Relation.ReflTransGen Step first last) (fresh : sent ticket first ≤ 1) :
    sent ticket last ≤ 1 := by
  induction run with
  | refl => exact fresh
  | @tail world after before step ih =>
      rcases step.cases_on_deed with
        ⟨me, old, new, pool, found, deed, rfl⟩ | ⟨made, rfl⟩ | ⟨signal, rfl⟩
      · have moved : sent ticket (world.put me (new, pool)) + _ + _ = _ := sent_put found ticket
        rcases deed.sent_cases ticket with same | ⟨ending, rfl, rfl, rfl⟩
        · omega
        · obtain ⟨_, booked⟩ := (recorded.run before).serving found nofun
          have unsent : sent ticket world = 0 := by
            by_contra gone
            exact (booked ticket).not_delivering (Nat.pos_of_ne_zero gone) found
          rw [settling_afterDelivery, if_pos rfl] at moved
          have same : (world.shared.setDelivery ticket (.ready (Worker.outcome ending))).ended
              ticket = world.shared.ended ticket := rfl
          omega
      · rw [sent_call]
        exact ih
      · exact ih

theorem sent_start (opened : start config = .ok first) (ticket : Ticket) :
    sent ticket first = 0 := by
  unfold start at opened
  split at opened
  · cases opened
  · split at opened
    · cases opened
      rw [sent, World.total_replicate]
      rfl
    · cases opened

theorem Recorded.delivered_of_sent (recorded : Recorded config first)
    (run : Relation.ReflTransGen Step first last) (fresh : sent ticket first = 0)
    (gone : 0 < sent ticket last) :
    ∃ delivery, last.shared.deliveries[ticket]? = some delivery ∧ delivery ≠ .pending := by
  induction run with
  | refl => omega
  | @tail world after before step ih =>
      have recorded := recorded.run before
      by_cases already : 0 < sent ticket world
      · obtain ⟨delivery, found, settled⟩ := ih already
        rcases step.cases_on_deed with
          ⟨me, old, new, pool, _, deed, rfl⟩ | ⟨made, rfl⟩ | ⟨signal, rfl⟩
        · rcases deed.delivery_cases found with
            same | ⟨ending, _, same⟩ | ⟨outcome, _, same⟩ | ⟨none, _⟩
          · exact ⟨delivery, same, settled⟩
          · exact ⟨_, same, nofun⟩
          · exact ⟨_, same, nofun⟩
          · exact absurd none settled
        · exact ⟨delivery, found, settled⟩
        · exact ⟨delivery, found, settled⟩
      · rcases step.cases_on_deed with
          ⟨me, old, new, pool, found, deed, rfl⟩ | ⟨made, rfl⟩ | ⟨signal, rfl⟩
        · have moved : sent ticket (world.put me (new, pool)) + _ + _ = _ := sent_put found ticket
          rcases deed.sent_cases ticket with same | ⟨ending, rfl, rfl, rfl⟩
          · omega
          · obtain ⟨_, booked⟩ := recorded.serving found nofun
            have issued := (booked ticket).issued_of_held found
              (by simp [holding, Point.holds?, Worker.holds?, Worker.runs?, isFor])
            exact ⟨_, World.found_set (List.getElem?_eq_getElem issued), nofun⟩
        · rw [sent_call] at gone
          exact absurd gone already
        · exact absurd gone already

theorem Recorded.ready_of_run (recorded : Recorded config world) (gone : 0 < sent ticket world)
    {outcome : Outcome α} (ready : world.shared.deliveries[ticket]? = some (.ready outcome))
    (run : Relation.ReflTransGen (Uncollected ticket) world last) :
    last.shared.deliveries[ticket]? = some (.ready outcome) := by
  suffices kept : Recorded config last ∧ 0 < sent ticket last ∧
      last.shared.deliveries[ticket]? = some (.ready outcome) from kept.2.2
  induction run with
  | refl => exact ⟨recorded, gone, ready⟩
  | @tail mid after _ uncollected ih =>
      obtain ⟨recorded, gone, ready⟩ := ih
      refine ⟨recorded.step uncollected.step,
        Nat.lt_of_lt_of_le gone (uncollected.step.sent_le ticket), ?_⟩
      rcases uncollected.step.cases_on_deed with
        ⟨me, old, new, pool, found, deed, rfl⟩ | ⟨made, rfl⟩ | ⟨signal, rfl⟩
      · rcases deed.delivery_cases ready with
          same | ⟨ending, rfl, _⟩ | ⟨_, _, closed⟩ | ⟨none, _⟩
        · exact same
        · obtain ⟨_, booked⟩ := recorded.serving found nofun
          exact ((booked ticket).not_delivering gone found).elim
        · exact absurd ⟨outcome, ready, closed⟩ uncollected.kept
        · cases none
      · exact ready
      · exact ready

end Turnstile.Pool
