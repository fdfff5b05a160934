import Turnstile.Proofs.Permits.Pace

/-!
# The two counters can be exchanged

The same events happen to a counter with a parking line and to one under a monitor, each
once everybody rests, and each followed in any order of the threads. As long as no release
leaves the range, nobody who looks at answers and numbers can tell the counters apart, also
where callers are left waiting beside permits. The first release that leaves the range does:
one counter wraps, the other breaks off.
-/

namespace Turnstile.Permits

set_option autoImplicit false

variable {initial : UInt64} {events : List Event} {event : Event} {me : ThreadId}

/-- The same events have happened to both counters, in any order of the threads of each, and no
release has left the range. The callers whose waits have ended need not be the same. -/
inductive Together (initial : UInt64) :
    List Event → World Backend.parking.Shared Backend.parking.Point →
      World Backend.monitor.Shared Backend.monitor.Point → Prop where
  | opened : Together initial [] ⟨Backend.parking.ofPermits initial, []⟩
      ⟨Backend.monitor.ofPermits initial, []⟩
  | next {events : List Event} {event : Event} {me other : ThreadId}
      {parking parkingLast : World Backend.parking.Shared Backend.parking.Point}
      {monitor monitorLast : World Backend.monitor.Shared Backend.monitor.Point}
      (earlier : Together initial events parking monitor)
      (fits : event.Fits (Backend.parking.count parking.shared))
      (one : Served .parking parking event me parkingLast)
      (another : Served .monitor monitor event other monitorLast) :
      Together initial (events ++ [event]) parkingLast monitorLast

/-- What is seen of an event at two counters is the same, but for which callers return. -/
structure Alike (report other : Report Answer) : Prop where
  answer : report.answer = other.answer
  released : report.released.map Prod.snd = other.released.map Prod.snd
  waiting : report.waiting.length = other.waiting.length

/-- Every event has an end, which the schedule that is run reaches. -/
structure Runs (backend : Backend) (world : World backend.Shared backend.Point) : Prop where
  call : ∀ request : Request, Served backend world (.call request) world.threads.length
    (world.issue backend.machine (backend.start request)).1
  callBriefly : Served backend world .callBriefly world.threads.length
    (world.issueBriefly backend.machine (backend.start (.acquire true))).1
  lapse : ∀ (me : ThreadId) (lapsed : World backend.Shared backend.Point),
    world.expire? backend.machine me = some lapsed →
      Served backend world .lapse me (lapsed.settle backend.machine)

theorem Agrees.alike {outcome : Outcome} {report other : Report Answer} {permits others : UInt64}
    (one : Agrees outcome report permits) (another : Agrees outcome other others) :
    Alike report other ∧ permits = others :=
  ⟨⟨one.answer.trans another.answer.symm, one.released.trans another.released.symm,
    one.waiting.trans another.waiting.symm⟩, one.permits.trans another.permits.symm⟩

namespace Resting

variable {backend : Backend} {reading : Reading backend} {checked : Bool} {tally : Tally}
  {world : World backend.Shared backend.Point}

theorem opened (reading : Reading backend) (initial : UInt64) :
    Resting reading ⟨initial, 0⟩ ⟨backend.ofPermits initial, []⟩ := by
  obtain ⟨permits, line, upholds⟩ := reading.opened initial
  have empty : (reading.counter (backend.ofPermits initial)).line = [] := line
  refine ⟨upholds, ⟨⟨?_, ?_⟩, nofun⟩, permits, ?_⟩
  · rw [empty]
    exact nofun
  · rw [empty]
    exact List.nodup_nil
  · exact congrArg List.length line

theorem runs (resting : Resting reading tally world) (prompt : Prompt reading checked) :
    Runs backend world := by
  have called (request : Request) : (world.spawn (backend.start request)).Settles backend.machine
      ((world.spawn (backend.start request)).settle backend.machine) := by
    refine prompt.settles (prompt.asked _ _ request resting.upholds) ?_
    rw [standings_spawn]
    exact resting.rested.lined.append _
  have lapsed {world : World backend.Shared backend.Point} {tally : Tally} {me : ThreadId}
      {later : World backend.Shared backend.Point} (resting : Resting reading tally world)
      (expires : world.expire? backend.machine me = some later) :
      later.Settles backend.machine (later.settle backend.machine) := by
    rw [World.expire?, Option.bind_eq_some_iff] at expires
    obtain ⟨old, found, expires⟩ := expires
    rw [Option.map_eq_some_iff] at expires
    obtain ⟨⟨new, changed⟩, expires, rfl⟩ := expires
    obtain ⟨expired, upholds⟩ := reading.expires me _ old new _ changed resting.upholds found expires
    refine prompt.settles upholds ?_
    simp only [Reading.standings, World.put, List.map_set]
    exact resting.rested.lined.change (reading.stands found) expired.change
  refine ⟨fun request => ?_, ?_, ?_⟩
  · rw [World.issue_fst]
    exact .call (called request)
  · rw [World.issueBriefly_fst]
    have waits := called (.acquire true)
    cases expires : ((world.spawn (backend.start (.acquire true))).settle backend.machine).expire?
        backend.machine world.threads.length with
    | none =>
        rw [Option.map_none, Option.getD_none]
        exact .inTime waits expires
    | some later =>
        rw [Option.map_some, Option.getD_some]
        exact .tooLate waits expires (lapsed (resting.acquire prompt waits).1 expires)
  · exact fun me later expires => .lapse expires (lapsed resting expires)

end Resting

theorem Together.resting {parking : World Backend.parking.Shared Backend.parking.Point}
    {monitor : World Backend.monitor.Shared Backend.monitor.Point}
    (together : Together initial events parking monitor) :
    Resting Parking.reading (Tally.handleAll events ⟨initial, 0⟩) parking ∧
      Resting Monitor.reading (Tally.handleAll events ⟨initial, 0⟩) monitor := by
  induction together with
  | opened => exact ⟨.opened Parking.reading initial, .opened Monitor.reading initial⟩
  | next earlier fits one another ih =>
      obtain ⟨resting, others⟩ := ih
      rw [resting.permits] at fits
      rw [Tally.handleAll, List.foldl_append]
      refine ⟨(resting.serve Parking.prompt one).1, ?_⟩
      have served := (others.serve Monitor.prompt another).1
      rwa [Tally.handle_of_fits fits] at served

/-- After the same events at both counters, none of which has left the range, and in whatever order
the threads of each acted on them: the counts are the same, as many callers wait, and both numbers
are those of the tally. Of any event that follows and stays in the range, in whatever order the
threads act on it, the answer, the number and the answers of the callers that return, the number
of those that wait, and the count are the same. Of a release that leaves the range, the counter
with the parking line wraps and wakes its callers, who take what there is then, and the counter
under a monitor breaks off and stays as it was. Every event comes to an end. -/
theorem backends_interchangeable (initial : UInt64) (events : List Event)
    (parking : World Backend.parking.Shared Backend.parking.Point)
    (monitor : World Backend.monitor.Shared Backend.monitor.Point)
    (together : Together initial events parking monitor) :
    let tally := Tally.handleAll events ⟨initial, 0⟩
    (Backend.parking.count parking.shared = tally.permits ∧
      Backend.monitor.count monitor.shared = tally.permits) ∧
    (World.unanswered Backend.parking.machine parking.threads = tally.waiting ∧
      World.unanswered Backend.monitor.machine monitor.threads = tally.waiting) ∧
    (∀ event : Event, event.Fits tally.permits → ∀ me other parkingLast monitorLast,
      Served .parking parking event me parkingLast → Served .monitor monitor event other monitorLast →
      Alike (parking.report Backend.parking.machine parkingLast me)
          (monitor.report Backend.monitor.machine monitorLast other) ∧
        Backend.parking.count parkingLast.shared = Backend.monitor.count monitorLast.shared ∧
        Agrees (tally.handle false event) (parking.report Backend.parking.machine parkingLast me)
          (Backend.parking.count parkingLast.shared)) ∧
    (∀ (permits : UInt64) (wake : Wake), UInt64.size ≤ tally.permits.toNat + permits.toNat →
      (∀ me last, Served .parking parking (.call (.release permits wake)) me last →
        let sum := (tally.permits.toNat + permits.toNat) % UInt64.size
        let taken := min (wake.woken tally.waiting) sum
        let report := parking.report Backend.parking.machine last me
        report.answer = some .released ∧ report.released.map Prod.snd = .replicate taken .taken ∧
          report.waiting.length = tally.waiting - taken ∧
          (Backend.parking.count last.shared).toNat = sum - taken) ∧
      ∀ me last, Served .monitor monitor (.call (.release permits wake)) me last →
        let report := monitor.report Backend.monitor.machine last me
        report.answer = some (.fault .sumOverflow) ∧ report.released = [] ∧
          report.waiting.length = tally.waiting ∧
          Backend.monitor.count last.shared = tally.permits) ∧
    Runs .parking parking ∧ Runs .monitor monitor := by
  intro tally
  obtain ⟨resting, others⟩ := together.resting
  refine ⟨⟨resting.permits, others.permits⟩, ⟨resting.unanswered, others.unanswered⟩, ?_, ?_,
    resting.runs Parking.prompt, others.runs Monitor.prompt⟩
  · intro event fits me other parkingLast monitorLast one another
    have agrees := (resting.serve Parking.prompt one).2
    have agreesToo := (others.serve Monitor.prompt another).2
    rw [Tally.handle_of_fits fits] at agreesToo
    obtain ⟨alike, same⟩ := agrees.alike agreesToo
    exact ⟨alike, same, agrees⟩
  · intro permits wake exceeds
    have breaks : tally.Exceeds permits := exceeds
    constructor
    · intro me last served
      have agrees := (resting.serve Parking.prompt served).2
      have outcome : tally.handle false (.call (.release permits wake)) = tally.release permits wake := by
        simp [Tally.handle]
      rw [outcome] at agrees
      have sum : (tally.permits + permits).toNat =
          (tally.permits.toNat + permits.toNat) % UInt64.size := UInt64.toNat_add _ _
      rw [← sum]
      refine ⟨agrees.answer, agrees.released, agrees.waiting, ?_⟩
      rw [agrees.permits]
      have bound := (tally.permits + permits).toNat_lt_size
      exact UInt64.toNat_ofNat_of_lt' (Nat.lt_of_le_of_lt (Nat.sub_le _ _) bound)
    · intro me last served
      have agrees := (others.serve Monitor.prompt served).2
      have outcome : tally.handle true (.call (.release permits wake)) =
          ⟨some (.fault .sumOverflow), [], tally⟩ := if_pos ⟨rfl, breaks⟩
      rw [outcome] at agrees
      exact ⟨agrees.answer, List.map_eq_nil_iff.mp agrees.released, agrees.waiting, agrees.permits⟩

theorem Together.call {parking : World Backend.parking.Shared Backend.parking.Point}
    {monitor : World Backend.monitor.Shared Backend.monitor.Point}
    (together : Together initial events parking monitor) (request : Request)
    (fits : (Event.call request).Fits (Tally.handleAll events ⟨initial, 0⟩).permits) :
    Together initial (events ++ [.call request])
      (parking.issue Backend.parking.machine (Backend.parking.start request)).1
      (monitor.issue Backend.monitor.machine (Backend.monitor.start request)).1 := by
  obtain ⟨resting, others⟩ := together.resting
  rw [← resting.permits] at fits
  exact together.next fits ((resting.runs Parking.prompt).call request)
    ((others.runs Monitor.prompt).call request)

/-- Where the calls of a list lead to at an empty counter. -/
def callAll (backend : Backend) (requests : List Request) : World backend.Shared backend.Point :=
  requests.foldl (fun world request => (world.issue backend.machine (backend.start request)).1)
    ⟨backend.ofPermits 0, []⟩

/-- Two callers wait, and a release of three permits wakes one of them. -/
def generous : List Request := [.acquire false, .acquire true, .release 3 .one]

private theorem together_generous : Together 0 (generous.map .call) (callAll .parking generous)
    (callAll .monitor generous) :=
  ((Together.opened.call (.acquire false) trivial).call (.acquire true) trivial).call
    (.release 3 .one) (by decide)

/-- At both counters one caller is left waiting beside two permits. -/
theorem left_beside_permits :
    Backend.parking.count (callAll .parking generous).shared = 2 ∧
      Backend.monitor.count (callAll .monitor generous).shared = 2 ∧
      World.unanswered Backend.parking.machine (callAll .parking generous).threads = 1 ∧
      World.unanswered Backend.monitor.machine (callAll .monitor generous).threads = 1 := by
  have left : Tally.handleAll (generous.map .call) ⟨0, 0⟩ = ⟨2, 1⟩ := by decide
  obtain ⟨⟨parking, monitor⟩, ⟨waiting, others⟩, _⟩ :=
    backends_interchangeable 0 (generous.map .call) _ _ together_generous
  rw [left] at parking monitor waiting others
  exact ⟨parking, monitor, waiting, others⟩

end Turnstile.Permits
