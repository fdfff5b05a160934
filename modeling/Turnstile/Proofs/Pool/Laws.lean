import Turnstile.Proofs.Pool.Drain

/-!
# The laws of a pool

The invariant of every run: each worker keeps to its duty, each ticket is accounted
for, nobody has thrown what goes off again, and whoever is told that a submission was
accepted is told the truth. Milestones are never taken back.
-/

namespace Turnstile.Pool

set_option autoImplicit false

open Turnstile.Task (Ticket Job)

variable {α : Type} {me : ThreadId} {pool later : Pool α} {ticket : Ticket} {config : Config}
  {world after last : Running α}

def Accepted (ticket : Ticket) (world : Running α) : Prop :=
  0 < world.shared.times .accepted ticket

instance (ticket : Ticket) (world : Running α) : Decidable (Accepted ticket world) :=
  inferInstanceAs (Decidable (0 < world.shared.times .accepted ticket))

/-- A submission that has found room, and knows it. -/
inductive Submission.Told (ticket : Ticket) : Submission α → Prop where
  | count : Told ticket (.count ticket)
  | done : Told ticket (.done (.accepted ticket))

theorem times_le_note (milestone : Milestone) (ticket : Ticket) (what : Note) (pool : Pool α) :
    pool.times milestone ticket ≤ (pool.note what).times milestone ticket := by
  rw [times_note]
  exact Nat.le_add_right _ _

theorem times_pos_of_note {milestone : Milestone} {what : Note}
    (tells : what.milestone? = some (milestone, ticket)) (pool : Pool α) :
    0 < (pool.note what).times milestone ticket := by
  rw [times_note, tells]
  simp [isFor]

theorem Submission.Change.times_le {old new : Submission α} (change : Change pool old new later)
    (milestone : Milestone) (ticket : Ticket) :
    pool.times milestone ticket ≤ later.times milestone ticket := by
  cases change with
  | issue fresh seeks queues fates issued journal => exact (times_of_eq journal milestone).ge
  | seek seeks still quiet => exact (quiet.times milestone ticket).ge
  | store seeks found stores => exact times_le_note _ _ _ _
  | turnAway seeks found retains => exact times_le_note _ _ _ _
  | retry | misaim | count => exact Nat.le_refl _

theorem Worker.Change.times_le {old new : Worker α} (change : Change me pool old new later)
    (milestone : Milestone) (ticket : Ticket) :
    pool.times milestone ticket ≤ later.times milestone ticket := by
  cases change with
  | work runs still before after quiet => exact (quiet.times milestone ticket).ge
  | submit frame change => exact change.times_le milestone ticket
  | start | take | finish | leave => exact times_le_note _ _ _ _
  | miss | resume | findClosed | findEmpty | post => exact Nat.le_refl _

theorem Point.Change.times_le {old new : Point α} (change : Point.Change me pool old new later)
    (milestone : Milestone) (ticket : Ticket) :
    pool.times milestone ticket ≤ later.times milestone ticket := by
  cases change with
  | worker change => exact change.times_le milestone ticket
  | submission change => exact change.times_le milestone ticket
  | inquiry quiet => exact (quiet.times milestone ticket).ge
  | closing change =>
      cases change with
      | begin | mourn | stop => exact times_le_note _ _ _ _
      | dismantle =>
          rw [times, times, Pool.dismantle, List.countP_append]
          exact Nat.le_add_left _ _
      | shut | await | bury | report => exact Nat.le_refl _

theorem Submission.Change.told {old new : Submission α} (change : Change pool old new later)
    (told : new.Told ticket) : old.Told ticket ∨ 0 < later.times .accepted ticket := by
  cases change with
  | issue fresh seeks => cases told <;> cases seeks
  | misaim => cases told
  | seek seeks still => cases told <;> cases still
  | retry seeks still => cases told <;> cases still
  | store seeks found stores =>
      cases told
      exact .inr (times_pos_of_note rfl _)
  | turnAway => cases told
  | count done =>
      cases told
      exact .inl .count

theorem Submission.Change.of_seeks {old new : Submission α} (change : Change pool old new later)
    {job : Job α} (seeks : old.seeks? = some job) :
    new.seeks? = some job ∨
      (new = .count job.ticket ∧ 0 < later.times .accepted job.ticket) ∨
      (new = .done (.refused .shutDown) ∧ 0 < later.times .refused job.ticket) := by
  cases change with
  | issue fresh =>
      rw [fresh.seeks_nothing] at seeks
      cases seeks
  | misaim => cases seeks
  | seek same still =>
      rw [same] at seeks
      exact .inl (still.trans seeks)
  | retry same still =>
      rw [same] at seeks
      exact .inl (still.trans seeks)
  | store same found stores =>
      rw [same] at seeks
      cases seeks
      exact .inr (.inl ⟨rfl, times_pos_of_note rfl _⟩)
  | turnAway same found retains =>
      rw [same] at seeks
      cases seeks
      exact .inr (.inr ⟨rfl, times_pos_of_note rfl _⟩)
  | count => cases seeks

/-- A thread makes its submission go on, or it is not looking for room and at most begins
a new one. -/
theorem Point.Change.submission_cases {old new : Point α}
    (change : Point.Change me pool old new later) :
    (old.submission?.bind Submission.seeks? = none ∧
      ∀ next, new.submission? = some next → next.Fresh) ∨
    ∃ before next, old.submission? = some before ∧ new.submission? = some next ∧
      Submission.Change pool before next later := by
  have silent : ∀ hand : Worker α, hand.submission? = none →
      ∀ next, (Point.worker hand).submission? = some next → next.Fresh := by
    intro hand quiet next posts
    rw [submission?, quiet] at posts
    cases posts
  cases change with
  | worker change =>
      cases change with
      | take roams runs quiet =>
          exact .inl ⟨by rw [submission?, roams.runs_nothing.2]; rfl, silent _ quiet⟩
      | miss roams still =>
          exact .inl ⟨by rw [submission?, roams.runs_nothing.2]; rfl,
            silent _ still.runs_nothing.2⟩
      | resume before roams =>
          refine .inl ⟨?_, silent _ roams.runs_nothing.2⟩
          rcases before with before | rfl
          · rw [submission?, before.runs_nothing.2]
            rfl
          · rfl
      | work runs still before quiet => exact .inl ⟨before, silent _ quiet⟩
      | post frame rest fresh =>
          refine .inl ⟨rfl, ?_⟩
          intro next posts
          cases posts
          exact fresh
      | submit frame change => exact .inr ⟨_, _, rfl, rfl, change⟩
      | start | findClosed | findEmpty | finish | leave => exact .inl ⟨rfl, silent _ rfl⟩
  | submission change => exact .inr ⟨_, _, rfl, rfl, change⟩
  | inquiry quiet => exact .inl ⟨rfl, fun _ posts => by cases posts⟩
  | closing change => exact .inl ⟨rfl, fun _ posts => by cases posts⟩

structure Lawful (config : Config) (world : Running α) : Prop where
  staffed : Staffed config world
  accounted : ∀ ticket, Accounted ticket world
  calm : Calm world
  told : ∀ (me : ThreadId) (point : Point α) (submission : Submission α) (ticket : Ticket),
    world.threads[me]? = some point → point.submission? = some submission →
    submission.Told ticket → Accepted ticket world

namespace Lawful

theorem start {first : Running α} (opened : start config = .ok first) : Lawful config first := by
  unfold Pool.start at opened
  split at opened
  · cases opened
  · split at opened
    · next queue made =>
      cases opened
      obtain ⟨idle, empty⟩ := Queue.Balanced.ofCapacity made
      have starts : ∀ (me : ThreadId) (point : Point α),
          (List.replicate config.workers (Point.worker (Worker.start : Worker α)))[me]? =
            some point → point = .worker .start :=
        fun _ _ found => List.eq_of_mem_replicate (List.mem_of_getElem? found)
      refine ⟨.start config idle, fun _ => .start config empty, ?_, ?_⟩
      · intro point member
        rw [List.eq_of_mem_replicate member]
        rfl
      · intro me point submission ticket found posts
        rw [starts me point found] at posts
        cases posts
    · cases opened

theorem put (lawful : Lawful config world) {old new : Point α}
    (found : world.threads[me]? = some old) (change : Point.Change me world.shared old new later)
    (calm : Calm (world.put me (new, later))) : Lawful config (world.put me (new, later)) := by
  refine ⟨lawful.staffed.put found change, ?_, calm, ?_⟩
  · intro ticket
    exact (lawful.accounted ticket).put found
      (change.fair lawful.staffed.idle (lawful.staffed.settled found))
  · intro other point submission ticket foundOther posts told
    have grown := change.times_le .accepted ticket
    by_cases same : me = other
    · subst same
      rw [World.put, World.found_set found] at foundOther
      cases foundOther
      rcases change.submission_cases with ⟨_, fresh⟩ | ⟨before, next, posted, postsNext, step⟩
      · cases fresh submission posts <;> cases told
      · rw [posts] at postsNext
        cases postsNext
        rcases step.told told with earlier | now
        · exact Nat.lt_of_lt_of_le (lawful.told me old before ticket found posted earlier) grown
        · exact now
    · rw [World.put, List.getElem?_set_ne same] at foundOther
      exact Nat.lt_of_lt_of_le (lawful.told other point submission ticket foundOther posts told) grown

theorem step (lawful : Lawful config world) (step : Step world after) (calm : Calm after) :
    Lawful config after := by
  rcases step.cases_on_thread lawful.staffed.idle lawful.calm lawful.staffed.alive with
    ⟨me, old, new, pool, found, change, rfl⟩ | ⟨made, rfl⟩ | ⟨signal, rfl⟩
  · exact lawful.put found change calm
  · refine ⟨lawful.staffed.call made, fun ticket => (lawful.accounted ticket).call made, calm, ?_⟩
    intro me point submission ticket found posts told
    rcases World.found_or_eq_of_append found with found | rfl
    · exact lawful.told me point submission ticket found posts told
    · cases made with
      | submit | submitTo =>
          cases posts
          cases told
      | _ => cases posts
  · exact ⟨lawful.staffed.heed signal, fun ticket => (lawful.accounted ticket).heed signal,
      calm, lawful.told⟩

theorem times_le (lawful : Lawful config world) (step : Step world after)
    (milestone : Milestone) (ticket : Ticket) :
    world.shared.times milestone ticket ≤ after.shared.times milestone ticket := by
  rcases step.cases_on_thread lawful.staffed.idle lawful.calm lawful.staffed.alive with
    ⟨me, old, new, pool, found, change, rfl⟩ | ⟨made, rfl⟩ | ⟨signal, rfl⟩
  · exact change.times_le milestone ticket
  · exact Nat.le_refl _
  · exact Nat.le_refl _

theorem run (lawful : Lawful config world) (run : Run world last) : Lawful config last := by
  induction run with
  | refl => exact lawful
  | step _ step calm ih => exact ih.step step calm

theorem times_le_of_run (lawful : Lawful config world) (run : Run world last)
    (milestone : Milestone) (ticket : Ticket) :
    world.shared.times milestone ticket ≤ last.shared.times milestone ticket := by
  induction run with
  | refl => exact Nat.le_refl _
  | step before step _ ih =>
      exact Nat.le_trans ih ((lawful.run before).times_le step milestone ticket)

theorem answered (lawful : Lawful config world) (step : Step world after) {point : Point α}
    {submission : Submission α} {job : Job α} (found : world.threads[me]? = some point)
    (posts : point.submission? = some submission) (seeks : submission.seeks? = some job) :
    ∃ new next, after.threads[me]? = some new ∧ new.submission? = some next ∧
      (next.seeks? = some job ∨
        (next = .count job.ticket ∧ Accepted job.ticket after) ∨
        (next = .done (.refused .shutDown) ∧ 0 < after.shared.times .refused job.ticket)) := by
  rcases step.cases_on_thread lawful.staffed.idle lawful.calm lawful.staffed.alive with
    ⟨other, old, new, pool, foundOther, change, rfl⟩ | ⟨made, rfl⟩ | ⟨signal, rfl⟩
  · by_cases same : other = me
    · subst same
      rw [foundOther] at found
      cases found
      rcases change.submission_cases with ⟨idle, _⟩ | ⟨before, next, posted, postsNext, change⟩
      · rw [posts, Option.bind_some, seeks] at idle
        cases idle
      · rw [posts] at posted
        cases posted
        exact ⟨new, next, World.found_set foundOther, postsNext, change.of_seeks seeks⟩
    · refine ⟨point, submission, ?_, posts, .inl seeks⟩
      rwa [World.put, List.getElem?_set_ne same]
  · exact ⟨point, submission, World.found_append found, posts, .inl seeks⟩
  · exact ⟨point, submission, found, posts, .inl seeks⟩

end Lawful

end Turnstile.Pool
