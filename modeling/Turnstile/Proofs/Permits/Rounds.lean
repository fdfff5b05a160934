import Turnstile.Proofs.Permits.Conservation
import Turnstile.Proofs.Permits.Scramble
import Turnstile.Proofs.Report
import Turnstile.Proofs.Schedule

/-!
# One event at a time

While everybody rests, a caller comes to a permit counter, or a timed wait ends, and the
threads act in any order until everybody rests again. A counter is `Prompt` if its readings
say as much of what does not happen as of what happens: a caller in the line does nothing, a
wait that has begun can end, and the actions come to an end. Then the count, the number of
callers that wait and all answers are those of the `Tally`.
-/

namespace Turnstile.Permits

set_option autoImplicit false

open World (total)

/-- What a counter does, and does not do, besides what its reading says. -/
structure Prompt {backend : Backend} (reading : Reading backend) (checked : Bool) : Prop where
  asked : ∀ (shared : backend.Shared) (points : List backend.Point) (request : Request),
    reading.Upholds shared points → reading.Upholds shared (points ++ [backend.start request])
  returned : ∀ (me : ThreadId) (point : backend.Point) (shared : backend.Shared) (answer : Answer),
    reading.standing point = .done answer → backend.machine.act me point shared = none
  sleeps : ∀ (me : ThreadId) (point : backend.Point) (shared : backend.Shared) (timed : Bool),
    reading.standing point = .asleep timed → me ∈ reading.line shared →
      backend.machine.act me point shared = none
  sums : ∀ (me : ThreadId) (point new : backend.Point) (shared changed : backend.Shared)
    (permits : UInt64) (wake : Wake), reading.standing point = .adding permits wake →
    backend.machine.act me point shared = some (new, changed) →
    let counter := reading.counter shared
    (reading.standing new = .done (.fault .sumOverflow) ∧ reading.counter changed = counter ∧
        checked = true ∧ UInt64.size ≤ counter.permits.toNat + permits.toNat) ∨
      (reading.standing new = .waking wake ∧
        reading.counter changed = { counter with permits := counter.permits + permits } ∧
        ¬(checked = true ∧ UInt64.size ≤ counter.permits.toNat + permits.toNat))
  lapses : ∀ (me : ThreadId) (point : backend.Point) (shared : backend.Shared),
    reading.standing point = .asleep true → me ∈ reading.line shared →
      ∃ lapsed, backend.machine.expire me point shared = some lapsed
  comes : ∀ (shared : backend.Shared) (points : List backend.Point), reading.Upholds shared points →
    Lined (points.map reading.standing) (reading.counter shared) →
      ∃ moves, moves ≤ World.horizon points.length ∧
        World.Comes backend.machine (fun _ => True) moves ⟨shared, points⟩

/-- An event has taken place, and everybody has come to rest. The thread is the one whose
answer is awaited. -/
inductive Served (backend : Backend) (before : World backend.Shared backend.Point) :
    Event → ThreadId → World backend.Shared backend.Point → Prop where
  | call {request : Request} {last : World backend.Shared backend.Point}
      (settles : (before.spawn (backend.start request)).Settles backend.machine last) :
      Served backend before (.call request) before.threads.length last
  | inTime {last : World backend.Shared backend.Point}
      (settles : (before.spawn (backend.start (.acquire true))).Settles backend.machine last)
      (ended : last.expire? backend.machine before.threads.length = none) :
      Served backend before .callBriefly before.threads.length last
  | tooLate {parked lapsed last : World backend.Shared backend.Point}
      (settles : (before.spawn (backend.start (.acquire true))).Settles backend.machine parked)
      (expires : parked.expire? backend.machine before.threads.length = some lapsed)
      (ends : lapsed.Settles backend.machine last) :
      Served backend before .callBriefly before.threads.length last
  | lapse {me : ThreadId} {lapsed last : World backend.Shared backend.Point}
      (expires : before.expire? backend.machine me = some lapsed)
      (ends : lapsed.Settles backend.machine last) : Served backend before .lapse me last

variable {backend : Backend} {reading : Reading backend} {checked : Bool} {tally : Tally}
  {before last : World backend.Shared backend.Point} {me : ThreadId} {event : Event}
  {points : List backend.Point} {shared : backend.Shared} {standing : Standing}

namespace Reading

def standings (reading : Reading backend) (world : World backend.Shared backend.Point) :
    List Standing := world.threads.map reading.standing

theorem unanswered_eq (reading : Reading backend) (points : List backend.Point) :
    World.unanswered backend.machine points = total Standing.unanswered (points.map reading.standing) := by
  rw [World.total_map, World.unanswered, List.countP_eq_length_filter, ← List.countP_eq_length_filter]
  induction points with
  | nil => rfl
  | cons point rest ih =>
      rw [List.countP_cons, ih, reading.answers]
      cases answered : (reading.standing point).answer? <;>
        simp [total, Standing.unanswered, answered, Nat.add_comm]

theorem answer_of_found {point : backend.Point} (reading : Reading backend)
    (found : last.threads[me]? = some point) :
    last.answer? backend.machine me = (reading.standing point).answer? := by
  rw [World.answer?, found]
  exact reading.answers point

theorem found_standing (reading : Reading backend) (found : (reading.standings last)[me]? = some standing) :
    last.answer? backend.machine me = standing.answer? := by
  rw [standings, List.getElem?_map, Option.map_eq_some_iff] at found
  obtain ⟨point, found, rfl⟩ := found
  exact reading.answer_of_found found

end Reading

theorem Rested.unanswered_eq {standings : List Standing} {counter : Semaphore}
    (rested : Rested standings counter) : total Standing.unanswered standings = counter.line.length := by
  rw [World.total_eq_sum_range, ← List.toFinset_card_of_nodup rested.lined.distinct,
    Finset.card_eq_sum_ones]
  have inside : counter.line.toFinset ⊆ Finset.range standings.length := by
    intro me member
    obtain ⟨timed, found⟩ := rested.lined.parked me (List.mem_toFinset.mp member)
    exact Finset.mem_range.mpr (List.getElem?_eq_some_iff.mp found).1
  rw [← Finset.sum_subset inside]
  · refine Finset.sum_congr rfl fun me member => ?_
    obtain ⟨timed, found⟩ := rested.lined.parked me (List.mem_toFinset.mp member)
    rw [found]
    rfl
  · intro me member outside
    have bound := Finset.mem_range.mp member
    rcases rested.rests me _ (List.getElem?_eq_getElem bound) with ⟨answer, done⟩ | ⟨timed, _, listed⟩
    · rw [List.getElem?_eq_getElem bound, done]
      rfl
    · exact absurd (List.mem_toFinset.mpr listed) outside

namespace Prompt

theorem awake (prompt : Prompt reading checked) (upholds : reading.Upholds shared points)
    (lined : Lined (points.map reading.standing) (reading.counter shared)) {old new : backend.Point}
    {changed : backend.Shared} (found : points[me]? = some old)
    (acted : backend.machine.act me old shared = some (new, changed)) :
    Awake checked me (reading.standing old) (reading.counter shared) (reading.standing new)
      (reading.counter changed) ∧ reading.Upholds changed (points.set me new) := by
  obtain ⟨change, upheld⟩ := reading.acts me points old new shared changed upholds lined.parked found acted
  have stands : (points.map reading.standing)[me]? = some (reading.standing old) := by
    rw [List.getElem?_map, found]
    rfl
  refine ⟨⟨change, ?_, ?_, ?_⟩, upheld⟩
  · cases standing : reading.standing old with
    | done answer =>
        rw [prompt.returned me old shared answer standing] at acted
        cases acted
    | _ => rfl
  · intro member
    obtain ⟨timed, asleep⟩ := lined.parked me member
    rw [stands] at asleep
    rw [prompt.sleeps me old shared timed (Option.some.inj asleep) member] at acted
    cases acted
  · exact fun permits wake adding => prompt.sums me old new shared changed permits wake adding acted

theorem surely (prompt : Prompt reading checked) {Phase : List Standing → Semaphore → Prop}
    (lined : ∀ {standings counter}, Phase standings counter → Lined standings counter)
    (step : ∀ {me old new standings counter changed}, Phase standings counter →
      standings[me]? = some old → Awake checked me old counter new changed →
        Phase (standings.set me new) changed)
    (upholds : reading.Upholds shared points)
    (phase : Phase (points.map reading.standing) (reading.counter shared)) :
    World.Surely backend.machine (fun last => reading.Upholds last.shared last.threads ∧
      Phase (reading.standings last) (reading.counter last.shared) ∧
        Rested (reading.standings last) (reading.counter last.shared)) ⟨shared, points⟩ := by
  have kept : ∀ world later : World backend.Shared backend.Point,
      (reading.Upholds world.shared world.threads ∧
        Phase (reading.standings world) (reading.counter world.shared)) →
      world.Acts backend.machine later →
      (reading.Upholds later.shared later.threads ∧
        Phase (reading.standings later) (reading.counter later.shared)) := by
    rintro world later ⟨upholds, phase⟩ ⟨me, moved⟩
    obtain ⟨old, new, changed, found, acted, rfl⟩ := World.act_eq_some_iff.mp moved
    obtain ⟨awake, upheld⟩ := prompt.awake upholds (lined phase) found acted
    have stands : (reading.standings world)[me]? = some (reading.standing old) := by
      rw [Reading.standings, List.getElem?_map, found]
      rfl
    refine ⟨upheld, ?_⟩
    simp only [Reading.standings, World.put, List.map_set]
    exact step phase stands awake
  refine World.Surely.of_kept kept ⟨upholds, phase⟩ ?_
  rintro last ⟨upholds, phase⟩ quiet
  refine ⟨upholds, phase, lined phase, ?_⟩
  intro me standing found
  rw [Reading.standings, List.getElem?_map, Option.map_eq_some_iff] at found
  obtain ⟨point, found, rfl⟩ := found
  exact reading.still me point last.shared (World.still_of_quiet quiet found)

theorem settles (prompt : Prompt reading checked) {start : World backend.Shared backend.Point}
    (upholds : reading.Upholds start.shared start.threads)
    (lined : Lined (reading.standings start) (reading.counter start.shared)) :
    start.Settles backend.machine (start.settle backend.machine) := by
  obtain ⟨moves, enough, comes⟩ := prompt.comes start.shared start.threads upholds lined
  exact comes.run enough

end Prompt

/-! ## What an event comes to -/

/-- Everybody rests, and the numbers are those of the tally. -/
structure Resting (reading : Reading backend) (tally : Tally)
    (world : World backend.Shared backend.Point) : Prop where
  upholds : reading.Upholds world.shared world.threads
  rested : Rested (reading.standings world) (reading.counter world.shared)
  permits : backend.count world.shared = tally.permits
  waiting : (reading.line world.shared).length = tally.waiting

structure Agrees (outcome : Outcome) (report : Report Answer) (permits : UInt64) : Prop where
  answer : report.answer = outcome.answer
  released : report.released.map Prod.snd = outcome.released
  waiting : report.waiting.length = outcome.tally.waiting
  permits : permits = outcome.tally.permits

namespace Resting

theorem unanswered (resting : Resting reading tally before) :
    World.unanswered backend.machine before.threads = tally.waiting := by
  rw [reading.unanswered_eq, ← resting.waiting]
  exact resting.rested.unanswered_eq

theorem agrees {outcome : Outcome} {answer : Answer} (resting : Resting reading tally before)
    (after : Resting reading outcome.tally last) (later : before.Later backend.machine last)
    (answered : last.answer? backend.machine me = outcome.answer)
    (alike : ∀ me given, me < before.threads.length → before.answer? backend.machine me = none →
      last.answer? backend.machine me = some given → given = answer)
    {returned : Nat} (released : outcome.released = .replicate returned answer)
    (balance : returned + outcome.tally.waiting = tally.waiting +
      World.unanswered backend.machine (last.threads.drop before.threads.length)) :
    Agrees outcome (before.report backend.machine last me) (backend.count last.shared) := by
  have waiting : (before.report backend.machine last me).waiting.length = outcome.tally.waiting := by
    rw [World.length_report_waiting, after.unanswered]
  refine ⟨answered, ?_, waiting, after.permits⟩
  have count := World.length_report_released me later
  rw [after.unanswered, resting.unanswered] at count
  rw [released, List.eq_replicate_iff, List.length_map]
  refine ⟨by omega, ?_⟩
  intro given member
  obtain ⟨⟨who, given⟩, listed, rfl⟩ := List.mem_map.mp member
  obtain ⟨old, new, foundOld, foundNew, waited, returned⟩ := World.mem_report_released.mp listed
  obtain ⟨bound, _⟩ := List.getElem?_eq_some_iff.mp foundOld
  refine alike who given bound ?_ ?_
  · rw [World.answer?, foundOld]
    exact waited
  · rw [World.answer?, foundNew]
    exact returned

end Resting
end Turnstile.Permits
