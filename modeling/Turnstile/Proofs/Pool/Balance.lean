import Turnstile.Proofs.Pool.Endings
import Turnstile.Proofs.Pool.Scans

/-!
# The counters account for all work

An outcome is delivered before the run is counted, and a job that kills its worker is
never counted. But once nothing moves any more, nobody is between an event and its
counter, and so the books balance: what was submitted is what was executed, what waits,
what is in progress, and what killed a worker.
-/

namespace Turnstile.Pool

set_option autoImplicit false

open World (total)
open Turnstile.Task (Ticket Job)

variable {α : Type} {me : ThreadId} {pool later : Pool α} {ticket : Ticket} {config : Config}
  {world after first last : Running α} {old new : Point α} {history : List (Occurrence α)}

def Point.inBody : Point α → Bool
  | .worker hand => hand.inBody
  | .submission _ | .inquiry _ | .closing _ => false

def inProgress (world : Running α) : Nat := world.threads.countP Point.inBody

theorem Worker.Stays.settled {hand : Worker α} (stays : hand.Stays me pool) :
    hand.settles? = none ∧ stealing (.worker hand) = 0 ∧
      hand.holds?.isSome = hand.inBody := by
  cases stays <;> exact ⟨rfl, rfl, rfl⟩

theorem Submission.Stays.settled {submission : Submission α} (stays : submission.Stays me world)
    (attempts : Nat) :
    submission.exhausted? attempts = none ∧ ∀ ticket, submission ≠ .count ticket := by
  cases stays <;> exact ⟨rfl, nofun⟩

namespace Upheld

variable (upheld : Upheld config world) (quiet : world.Quiet (machine α))
include upheld quiet

theorem nothing_open (found : world.threads[me]? = some old) (attempts : Nat) (ticket : Ticket) :
    answering old = 0 ∧ stealing old = 0 ∧ old.settles? = none ∧
      exhausted attempts ticket old = 0 ∧ old.holds?.isSome = old.inBody := by
  have unsought : old.exhausted? attempts = none ∧ answering old = 0 := by
    cases posts : old.submission? with
    | none => simp [Point.exhausted?, answering, posts]
    | some submission =>
        have settled := (upheld.submission_stays quiet found posts).settled attempts
        refine ⟨by rw [Point.exhausted?, posts]; exact settled.1, ?_⟩
        unfold answering
        split
        · next ticket counts =>
          rw [posts] at counts
          exact absurd (Option.some.inj counts) (settled.2 ticket)
        · rfl
  have unexhausted : exhausted attempts ticket old = 0 := by
    rw [exhausted, unsought.1, isFor_none]
  cases old with
  | worker hand =>
      obtain ⟨settles, steals, holds⟩ := (upheld.stays quiet found).settled
      exact ⟨unsought.2, steals, settles, unexhausted, holds⟩
  | submission | inquiry | closing => exact ⟨unsought.2, rfl, rfl, unexhausted, rfl⟩

theorem held_eq : held world = inProgress world := by
  refine List.countP_congr fun point member => ?_
  obtain ⟨me, found⟩ := List.mem_iff_getElem?.mp member
  rw [(upheld.nothing_open quiet found 0 0).2.2.2.2]

end Upheld

/-- The jobs that have run, have left their worker alive, and had a body that panicked. -/
def panickedRuns (world : Running α) (history : List (Occurrence α)) : Nat :=
  (List.range world.shared.deliveries.length).countP fun ticket =>
    0 < panics ticket history && 0 < world.shared.times .finished ticket

/-- The submissions whose whole scan has met full queues only. -/
def vainScans (attempts : Nat) (world : Running α) (history : List (Occurrence α)) : Nat :=
  (List.range world.shared.deliveries.length).countP (inVain attempts history)

theorem sum_range_countP (counts : Nat → Bool) (bound : Nat) :
    ∑ k ∈ Finset.range bound, (if counts k then 1 else 0) = (List.range bound).countP counts := by
  induction bound with
  | zero => rfl
  | succ bound ih =>
      rw [Finset.sum_range_succ, ih, List.range_succ, List.countP_append, List.countP_singleton]

theorem len_eq_length {queue : Queue (Job α)} (idle : queue.Idle) :
    queue.len = queue.toList.length := idle.holds.count

theorem Idle.stats_queued (idle : pool.Idle) : pool.stats.queued = pool.queued.length := by
  have sums : ∀ queues : List (Queue (Job α)), (∀ queue ∈ queues, queue.Idle) →
      queues.foldr (fun queue rest => queue.len + rest) 0 =
        (queues.flatMap Queue.toList).length := by
    intro queues
    induction queues with
    | nil => exact fun _ => rfl
    | cons first rest ih =>
        intro idle
        rw [List.foldr_cons, List.flatMap_cons, List.length_append,
          ih fun queue member => idle queue (List.mem_cons_of_mem first member),
          len_eq_length (idle first (List.mem_cons_self ..))]
  exact sums pool.queues idle

theorem panicked_eq (closed : Closed ticket world history)
    (settled : ∀ (me : ThreadId) (point : Point α), world.threads[me]? = some point →
      point.settles? = none) (booked : Booked ticket world) :
    world.shared.mishaps .panicked ticket =
      if (0 < panics ticket history && 0 < world.shared.times .finished ticket) then 1 else 0 := by
  have ended := closed.ended
  have panicked := closed.panicked
  have survived := closed.survived
  have succumbed := closed.succumbed
  have less : panics ticket history ≤ ends ticket history := panics_le_ends ticket history
  have once := booked.held_once
  have unsettled : total (settling ticket) world.threads = 0 :=
    World.total_eq_zero fun me point found => by rw [settling, settled me point found, isFor_none]
  have ungrieved : total (grieving ticket) world.threads = 0 :=
    World.total_eq_zero fun me point found => (aloof_of_settles ticket (settled me point found)).1
  have unsurvived : total (surviving ticket) world.threads = 0 :=
    World.total_eq_zero fun me point found => (aloof_of_settles ticket (settled me point found)).2.1
  have unsuccumbed : total (succumbing ticket) world.threads = 0 :=
    World.total_eq_zero fun me point found => (aloof_of_settles ticket (settled me point found)).2.2
  rw [sent, unsettled, Pool.ended] at ended
  rw [Pool.ended] at once
  by_cases both : 0 < panics ticket history ∧ 0 < world.shared.times .finished ticket
  · rw [if_pos (by simpa using both)]
    omega
  · rw [if_neg (by simpa using both)]
    omega

/-- The counters of a pool, and what they stand for. -/
structure Accounts (config : Config) (world : Running α) (history : List (Occurrence α)) :
    Prop where
  /-- The submissions that have answered that their job was accepted. -/
  submitted : world.shared.stats.counters.submitted = UInt64.ofNat (answers history)
  /-- Jobs that have run and left their worker alive. -/
  executed : world.shared.stats.counters.executed =
    UInt64.ofNat (world.shared.reached .finished)
  /-- No submission is lost: its job has run, or waits, or is in progress, or has killed. -/
  balance : answers history = world.shared.reached .finished + world.shared.stats.queued +
    inProgress world + world.shared.befell .killed
  panicked : world.shared.stats.counters.panicked = UInt64.ofNat (panickedRuns world history)
  panicked_le : panickedRuns world history ≤ world.shared.reached .finished
  stolen : world.shared.stats.counters.stolen =
    UInt64.ofNat (world.shared.journal.countP Note.isTheft)
  fallbacks : world.shared.stats.counters.fallbacks =
    UInt64.ofNat (vainScans config.submitAttempts world history)

theorem reached_finished_eq (pool : Pool α) :
    pool.reached .finished = pool.journal.countP Note.isRun :=
  List.countP_congr fun note _ => by cases note <;> simp [ticketOf, Note.milestone?, Note.isRun]

theorem befell_panicked_eq (pool : Pool α) :
    pool.befell .panicked = pool.journal.countP Note.isPanic := by
  refine List.countP_congr fun note _ => ?_
  cases note with
  | perished worker held => cases held <;> simp [ticketOf, Note.mishap?, Note.isPanic]
  | _ => simp [ticketOf, Note.mishap?, Note.isPanic]

namespace Accounts

variable (closed : ∀ ticket, Closed ticket world history)
  (settled : ∀ (me : ThreadId) (point : Point α), world.threads[me]? = some point →
    point.settles? = none)
  (booked : ∀ ticket, Booked ticket world)

include booked in
theorem panickedRuns_le : panickedRuns world history ≤ world.shared.reached .finished := by
  rw [panickedRuns, ← sum_range_countP, ← sum_times booked .finished nofun]
  refine Finset.sum_le_sum fun ticket _ => ?_
  split
  · next both =>
    simp only [Bool.and_eq_true, decide_eq_true_eq] at both
    exact both.2
  · exact Nat.zero_le _

include closed settled booked in
theorem panics_eq : world.shared.journal.countP Note.isPanic = panickedRuns world history := by
  have each (ticket : Ticket) := panicked_eq (closed ticket) settled (booked ticket)
  have beyond : ∀ ticket, world.shared.deliveries.length ≤ ticket →
      world.shared.mishaps .panicked ticket = 0 := by
    intro ticket beyond
    obtain ⟨_, _, _, _, _, unfinished, _⟩ := (booked ticket).nothing_beyond beyond
    rw [each, unfinished]
    simp
  rw [← befell_panicked_eq, panickedRuns, ← sum_range_countP, befell]
  simp only [← each, mishaps_eq_countP]
  refine (sum_countP_key (keys_bounded ?_)).symm
  simpa only [mishaps_eq_countP] using beyond

theorem fallbacks_eq {attempts : Nat} (scanned : Scanned attempts world history)
    (done : ∀ ticket, total (exhausted attempts ticket) world.threads = 0) :
    world.shared.journal.countP (·.fallen?.isSome) = vainScans attempts world history := by
  have each (ticket : Ticket) : (if inVain attempts history ticket then 1 else 0) =
      world.shared.fallen ticket := by
    rw [scanned.counted, done, Nat.add_zero]
  rw [vainScans, ← sum_range_countP]
  simp only [each, fallen]
  refine (sum_countP_key (keys_bounded ?_)).symm
  intro ticket beyond
  have unoffered := (scanned.unissued ticket beyond).2
  have none := each ticket
  rw [inVain, unoffered, Bool.false_and, if_neg Bool.false_ne_true] at none
  exact none.symm

end Accounts

/-- Whoever calls an open pool whenever and however often, whatever the tasks throw, and
however the actions of all threads interleave: once nothing moves any more, and as long as the
pool has not been taken down, the counters account for all work. They do so modulo the size of
a counter; while fewer submissions have been accepted than a counter can count, the equation
holds of the numbers that are shown. -/
theorem counters_account_for_all_work (config : Config) (first last : Running α)
    (history : List (Occurrence α)) (opened : start config = .ok first)
    (chronicle : Chronicle first last history) (quiet : last.Quiet (machine α))
    (standing : Standing last) :
    Accounts config last history ∧
      (answers history < UInt64.size →
        last.shared.stats.counters.submitted.toNat =
            last.shared.stats.counters.executed.toNat + last.shared.stats.queued +
              inProgress last + last.shared.befell .killed ∧
          last.shared.stats.counters.panicked.toNat ≤
            last.shared.stats.counters.executed.toNat) := by
  have recorded : Recorded config last := (Recorded.start opened).run chronicle.run
  have reckoned := Reckoned.of_chronicle opened chronicle
  have scanned := Scanned.of_chronicle opened chronicle standing
  have closed := Closed.of_chronicle opened chronicle
  have tallied := tallied_of_run opened chronicle.run
  obtain ⟨idle, booked⟩ := recorded.booked standing
  have still {me : ThreadId} {point : Point α} (found : last.threads[me]? = some point) :=
    recorded.upheld.nothing_open quiet found config.submitAttempts
  have unanswered : total answering last.threads = 0 :=
    World.total_eq_zero fun me point found => (still found 0).1
  have unstolen : total stealing last.threads = 0 :=
    World.total_eq_zero fun me point found => (still found 0).2.1
  have settled (me : ThreadId) (point : Point α) (found : last.threads[me]? = some point) :
      point.settles? = none := (still found 0).2.2.1
  have scans (ticket : Ticket) : total (exhausted config.submitAttempts ticket) last.threads = 0 :=
    World.total_eq_zero fun me point found => (still found ticket).2.2.2.1
  have executed : last.shared.stats.counters.executed =
      UInt64.ofNat (last.shared.reached .finished) := by
    rw [reached_finished_eq]
    exact tallied.executed
  have balance : answers history = last.shared.reached .finished + last.shared.stats.queued +
      inProgress last + last.shared.befell .killed := by
    have accepted := reckoned.accepted
    rw [accepted_eq booked, recorded.upheld.held_eq quiet, unanswered] at accepted
    rw [idle.stats_queued]
    omega
  have panicked : last.shared.stats.counters.panicked =
      UInt64.ofNat (panickedRuns last history) := by
    rw [← Accounts.panics_eq closed settled booked]
    exact tallied.panicked
  have panicked_le : panickedRuns last history ≤ last.shared.reached .finished :=
    Accounts.panickedRuns_le booked
  refine ⟨⟨reckoned.submitted, executed, balance, panicked, panicked_le, ?_, ?_⟩, ?_⟩
  · rw [reckoned.thefts, unstolen]
    exact reckoned.stolen
  · rw [← Accounts.fallbacks_eq scanned scans]
    exact reckoned.fallbacks
  · intro few
    have submitted : last.shared.stats.counters.submitted = UInt64.ofNat (answers history) :=
      reckoned.submitted
    rw [submitted, executed, panicked, UInt64.toNat_ofNat_of_lt' few,
      UInt64.toNat_ofNat_of_lt' (by omega), UInt64.toNat_ofNat_of_lt' (by omega)]
    exact ⟨balance, panicked_le⟩

/-- Two workers get a task that waits at a gate, one that panics, one that kills, and three
that do nothing. -/
def calls : List (Call Unit) :=
  [.submitTo 0 [.pass "gate"], .submitTo 0 [.panic (.text "boom")], .submit [],
    .submit [.panic .explosive], .submit [], .submit []]

/-- The callers are threads 2 to 7. The first worker is held up, the second one steals the task
that panics, and dies of its own. Then there is no room left for the last caller. -/
def labour : List ThreadId :=
  List.replicate 3 2 ++ List.replicate 2 0 ++ List.replicate 3 3 ++ List.replicate 12 1 ++
    List.replicate 3 4 ++ List.replicate 3 5 ++ List.replicate 4 1 ++ List.replicate 4 6 ++
    List.replicate 6 7

def employed : Running Unit × List (Occurrence Unit) := Chronicle.callAll calls (twinOpened, [])

def strained : Running Unit × List (Occurrence Unit) :=
  (Chronicle.narrate? labour employed).getD employed

private theorem chronicle_of_strained : Chronicle twinOpened strained.1 strained.2 := by
  have asked : Chronicle twinOpened employed.1 employed.2 := Chronicle.refl.callAll_chronicle calls
  exact asked.narrated_getD labour

private theorem strained_quiet : strained.1.Quiet (machine Unit) := by
  intro me
  match me with
  | 0 | 1 | 2 | 3 | 4 | 5 | 6 | 7 | _ + 8 => rfl

private theorem strained_standing : Standing strained.1 := by
  intro closer
  match closer with
  | 0 | 1 | 2 | 3 | 4 | 5 | 6 | 7 | _ + 8 => exact nofun

/-- Five tasks were accepted: one has run, two wait, one is in progress, and one has killed. -/
theorem strained_accounts :
    Accounts twin strained.1 strained.2 ∧ strained.1.shared.stats =
      { workers := 2, queued := 2
        counters :=
          { submitted := 5, executed := 1, stolen := 1, panicked := 1, fallbacks := 1 } } ∧
      inProgress strained.1 = 1 ∧ strained.1.shared.befell .killed = 1 := by
  obtain ⟨accounts, _⟩ := counters_account_for_all_work twin twinOpened strained.1 strained.2
    start_twin chronicle_of_strained strained_quiet strained_standing
  exact ⟨accounts, rfl, rfl, rfl⟩

end Turnstile.Pool
