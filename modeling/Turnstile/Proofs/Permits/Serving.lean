import Turnstile.Proofs.Permits.Rounds

/-!
# What an event comes to

Each kind of event is followed from where everybody rests to where everybody rests again.
A release wakes some callers, and they scramble for what there is; a newcomer scrambles
alone; a caller that only looks, or whose wait has ended, looks once. `Resting.serve` puts
them together: the numbers and the answers are those of the tally, in whatever order the
threads act.
-/

namespace Turnstile.Permits

set_option autoImplicit false

open World (total)

variable {backend : Backend} {reading : Reading backend} {checked : Bool} {tally : Tally}
  {before last : World backend.Shared backend.Point} {me : ThreadId} {event : Event}

/-! ## A scramble in the world -/

section
variable {newcomer : Standing} {stay : List ThreadId} {count : Nat}

theorem Reading.length_standings (reading : Reading backend)
    (world : World backend.Shared backend.Point) :
    (reading.standings world).length = world.threads.length := List.length_map _

theorem Reading.found_of_answer (reading : Reading backend) {answer : Answer}
    (given : before.answer? backend.machine me = some answer) :
    (reading.standings before)[me]? = some (.done answer) := by
  rw [World.answer?, Option.bind_eq_some_iff] at given
  obtain ⟨point, found, given⟩ := given
  rw [Reading.standings, List.getElem?_map, found, Option.map_some]
  rw [reading.answers] at given
  cases standing : reading.standing point with
  | done other =>
      rw [standing] at given
      cases given
      rfl
  | adding | waking | seeking | asleep =>
      rw [standing] at given
      cases given

theorem Reading.found_of_bound (reading : Reading backend) (bound : me < last.threads.length) :
    ∃ standing, (reading.standings last)[me]? = some standing ∧
      last.answer? backend.machine me = standing.answer? := by
  have found := List.getElem?_eq_getElem (reading.length_standings last ▸ bound)
  exact ⟨_, found, reading.found_standing found⟩

variable (scramble : Scramble (reading.standings before ++ [newcomer]) stay count
  (reading.standings last) (reading.counter last.shared))

include scramble

theorem Scramble.length_last : last.threads.length = before.threads.length + 1 := by
  have length := scramble.length
  rwa [List.length_append, reading.length_standings, reading.length_standings, List.length_singleton] at length

theorem Scramble.goes_old {old : Standing} (found : (reading.standings before)[me]? = some old) :
    ∃ new, Goes old new ∧ last.answer? backend.machine me = new.answer? := by
  obtain ⟨bound, _⟩ := List.getElem?_eq_some_iff.mp found
  rw [reading.length_standings] at bound
  obtain ⟨new, foundNew, answer⟩ := reading.found_of_bound
    (Nat.lt_of_lt_of_eq (Nat.lt_succ_of_lt bound) scramble.length_last.symm)
  exact ⟨new, scramble.goes me old new (World.found_append found) foundNew, answer⟩

theorem Scramble.later : before.Later backend.machine last := by
  refine ⟨scramble.length_last ▸ Nat.le_succ _, ?_⟩
  intro me answer given
  obtain ⟨new, goes, answered⟩ := scramble.goes_old (reading.found_of_answer given)
  cases goes with
  | done => exact answered
  | still wanted | takes wanted => cases wanted

theorem Scramble.alike (me : ThreadId) (given : Answer) (bound : me < before.threads.length)
    (waited : before.answer? backend.machine me = none)
    (returned : last.answer? backend.machine me = some given) : given = .taken := by
  obtain ⟨old, found, asked⟩ := reading.found_of_bound bound
  obtain ⟨new, goes, answered⟩ := scramble.goes_old found
  rw [returned] at answered
  rw [waited] at asked
  cases goes with
  | done => cases asked
  | still wanted wants =>
      rename_i timed
      cases new <;> cases wants <;> cases answered
  | takes =>
      cases answered
      rfl

theorem Scramble.answer_newest {answer : Answer} (returned : newcomer = .done answer) :
    last.answer? backend.machine before.threads.length = some answer := by
  subst returned
  have bound : before.threads.length < last.threads.length := by
    have length := scramble.length_last
    omega
  obtain ⟨new, found, answered⟩ := reading.found_of_bound bound
  have newest : (reading.standings before ++ [Standing.done answer])[before.threads.length]? =
      some (.done answer) := by
    rw [← reading.length_standings before]
    exact List.getElem?_concat_length
  rw [answered]
  cases scramble.goes _ _ _ newest found with
  | done => rfl
  | still wanted | takes wanted => cases wanted

end

theorem newcomer_only {newcomer : Standing}
    (same : reading.standings last = reading.standings before ++ [newcomer]) :
    before.Later backend.machine last ∧ last.threads.length = before.threads.length + 1 ∧
      last.answer? backend.machine before.threads.length = newcomer.answer? ∧
      ∀ me given, me < before.threads.length → before.answer? backend.machine me = none →
        last.answer? backend.machine me ≠ some given := by
  have length : last.threads.length = before.threads.length + 1 := by
    rw [← reading.length_standings last, same, List.length_append, reading.length_standings]
    rfl
  have old : ∀ me, me < before.threads.length →
      last.answer? backend.machine me = before.answer? backend.machine me := by
    intro me bound
    obtain ⟨standing, found, answered⟩ := reading.found_of_bound bound
    rw [answered]
    exact reading.found_standing (same ▸ World.found_append found)
  refine ⟨⟨length ▸ Nat.le_succ _, ?_⟩, length, ?_, ?_⟩
  · intro me answer given
    obtain ⟨bound, _⟩ := List.getElem?_eq_some_iff.mp (reading.found_of_answer given)
    rw [reading.length_standings] at bound
    rw [old me bound]
    exact given
  · refine reading.found_standing ?_
    rw [same, ← reading.length_standings before]
    exact List.getElem?_concat_length
  · intro me given bound waits
    rw [old me bound, waits]
    exact nofun

theorem Prompt.look_surely (prompt : Prompt reading checked) {world : World backend.Shared backend.Point}
    {first : List Standing} (upholds : reading.Upholds world.shared world.threads)
    (seeks : reading.standings world = first.set me (.seeking .giveUp)) (bound : me < first.length)
    (lined : Lined first (reading.counter world.shared)) (outside : me ∉ reading.line world.shared)
    (permits : backend.count world.shared = tally.permits)
    (others : ∀ (other : ThreadId) (standing : Standing), other ≠ me →
      first[other]? = some standing → (∃ answer, standing = .done answer) ∨
        ∃ timed, standing = .asleep timed ∧ other ∈ reading.line world.shared) :
    World.Surely backend.machine (fun last => reading.Upholds last.shared last.threads ∧
      Rested (reading.standings last) (reading.counter last.shared) ∧
        reading.standings last = first.set me (.done tally.look.1) ∧
          backend.count last.shared = tally.look.2.permits ∧
            reading.line last.shared = reading.line world.shared) world := by
  have phase : GivingUp me first (reading.counter world.shared) (world.threads.map reading.standing)
      (reading.counter world.shared) := by
    rw [Reading.standings] at seeks
    rw [seeks]
    exact .seeking
  refine (prompt.surely (GivingUp.lined lined outside)
    (fun givingUp found awake => givingUp.change others found awake) upholds phase).mono ?_
  rintro last - ⟨upholds, givingUp, rested⟩
  have here : (reading.counter world.shared).permits = tally.permits := permits
  refine ⟨upholds, rested, ?_⟩
  rcases givingUp.settled bound rested with ⟨some, same, counter⟩ | ⟨none, same, counter⟩
  · rw [here] at some
    simp only [Tally.look, if_neg some]
    refine ⟨same, ?_, congrArg Semaphore.line counter⟩
    rw [← permits]
    exact congrArg Semaphore.permits counter
  · rw [here] at none
    simp only [Tally.look, if_pos none]
    exact ⟨same, (congrArg Semaphore.permits counter).trans here, congrArg Semaphore.line counter⟩

namespace Resting

variable {request : Request}

theorem standings_spawn : reading.standings (before.spawn (backend.start request)) =
    reading.standings before ++ [.ofRequest request] := by
  rw [Reading.standings, World.spawn, List.map_append, List.map_singleton, reading.starts]
  rfl

theorem call_surely (resting : Resting reading tally before) (prompt : Prompt reading checked)
    {Phase : List Standing → Semaphore → Prop}
    (lined : ∀ {standings counter}, Phase standings counter → Lined standings counter)
    (step : ∀ {me old new standings counter changed}, Phase standings counter →
      standings[me]? = some old → Awake checked me old counter new changed →
        Phase (standings.set me new) changed)
    (phase : Phase (reading.standings before ++ [.ofRequest request]) (reading.counter before.shared)) :
    World.Surely backend.machine (fun last => reading.Upholds last.shared last.threads ∧
      Phase (reading.standings last) (reading.counter last.shared) ∧
        Rested (reading.standings last) (reading.counter last.shared))
      (before.spawn (backend.start request)) := by
  refine prompt.surely lined step (prompt.asked _ _ request resting.upholds) ?_
  have starts : (before.threads ++ [backend.start request]).map reading.standing =
      reading.standings before ++ [.ofRequest request] := standings_spawn
  rw [starts]
  exact phase

theorem acquire (resting : Resting reading tally before) (prompt : Prompt reading checked)
    {timed : Bool} (settles : (before.spawn (backend.start (.acquire timed))).Settles backend.machine last) :
    Resting reading (tally.handle checked (.call (.acquire timed))).tally last ∧
      before.Later backend.machine last ∧
      last.threads.length = before.threads.length + 1 ∧
      last.answer? backend.machine before.threads.length =
        (tally.handle checked (.call (.acquire timed))).answer ∧
      (tally.permits = 0 →
        (reading.standings last)[before.threads.length]? = some (.asleep timed)) ∧
      ∀ me given, me < before.threads.length → before.answer? backend.machine me = none →
        last.answer? backend.machine me = some given → given = .taken := by
  obtain ⟨upholds, scramble, rested⟩ := resting.call_surely prompt Scramble.lined Scramble.change
    (resting.rested.seek timed) last settles
  have length := scramble.length_last
  have later := scramble.later
  have begun : total Standing.unanswered (reading.standings before ++ [.ofRequest (.acquire timed)]) =
      (reading.counter before.shared).line.length + 1 := by
    rw [World.total_append, resting.rested.unanswered_eq]
    rfl
  obtain ⟨permits, waiting⟩ := scramble.settled begun rested.unanswered_eq
  have here : (reading.counter before.shared).permits = tally.permits := resting.permits
  have waited : (reading.counter before.shared).line.length = tally.waiting := resting.waiting
  rw [here] at permits waiting
  have count := World.length_report_released before.threads.length later
  rw [World.unanswered_newest length, resting.unanswered] at count
  have bound : before.threads.length < last.threads.length := by omega
  obtain ⟨standing, found, answered⟩ := reading.found_of_bound bound
  have newest : (reading.standings before ++ [Standing.ofRequest (.acquire timed)])[before.threads.length]? =
      some (.seeking (.wait timed)) := by
    rw [← reading.length_standings before]
    exact List.getElem?_concat_length
  have goes := scramble.goes _ _ _ newest found
  by_cases none : tally.permits = 0
  · simp only [Tally.handle, if_pos none]
    have after : Resting reading { tally with waiting := tally.waiting + 1 } last := by
      refine ⟨upholds, rested, ?_, ?_⟩
      · rw [none] at permits ⊢
        exact UInt64.toNat_inj.mp permits
      · rw [none] at waiting
        rw [← waited]
        exact waiting
    have unanswered : World.unanswered backend.machine last.threads = tally.waiting + 1 := after.unanswered
    have waits : last.answer? backend.machine before.threads.length = Option.none := by
      by_contra answered
      rw [if_neg answered, unanswered] at count
      omega
    refine ⟨after, later, length, waits, fun _ => ?_, scramble.alike⟩
    rw [waits] at answered
    rw [found]
    rcases rested.rests _ standing found with ⟨answer, rfl⟩ | ⟨_, rfl, _⟩
    · cases answered
    · cases goes with
      | still wanted wants =>
          cases wanted
          cases wants
          rfl
  · simp only [Tally.handle, Tally.look, if_neg none]
    have positive : 0 < tally.permits.toNat :=
      Nat.pos_of_ne_zero fun zero => none (UInt64.toNat_inj.mp zero)
    have same : (reading.counter last.shared).line.length = (reading.counter before.shared).line.length := by
      omega
    refine ⟨⟨upholds, rested, ?_, same.trans waited⟩, later, length, ?_, (absurd · none), scramble.alike⟩
    · have less : (reading.counter last.shared).permits.toNat = (tally.permits - 1).toNat := by
        rw [Tally.toNat_sub_one none]
        omega
      exact UInt64.toNat_inj.mp less
    · -- the line is as it was, so the newcomer is not in it
      have unchanged := scramble.stays.eq_of_length same.symm
      rw [answered]
      rcases rested.rests _ standing found with ⟨answer, rfl⟩ | ⟨_, rfl, member⟩
      · cases goes with
        | takes => rfl
        | still _ wants => cases wants
      · rw [← unchanged] at member
        obtain ⟨_, old⟩ := resting.rested.lined.parked _ member
        obtain ⟨bound, _⟩ := List.getElem?_eq_some_iff.mp old
        rw [reading.length_standings] at bound
        exact absurd bound (Nat.lt_irrefl _)

theorem release (resting : Resting reading tally before) (prompt : Prompt reading checked)
    {permits : UInt64} {wake : Wake}
    (settles : (before.spawn (backend.start (.release permits wake))).Settles backend.machine last) :
    Resting reading (tally.handle checked (.call (.release permits wake))).tally last ∧
      before.Later backend.machine last ∧
      last.threads.length = before.threads.length + 1 ∧
      last.answer? backend.machine before.threads.length =
        (tally.handle checked (.call (.release permits wake))).answer ∧
      ∀ me given, me < before.threads.length → before.answer? backend.machine me = none →
        last.answer? backend.machine me = some given → given = .taken := by
  obtain ⟨upholds, releasing, rested⟩ := resting.call_surely prompt (Releasing.lined resting.rested)
    (Releasing.change resting.rested) .adding last settles
  have here : (reading.counter before.shared).permits = tally.permits := resting.permits
  have waited : (reading.counter before.shared).line.length = tally.waiting := resting.waiting
  rcases releasing.settled rested with ⟨checks, exceeds, same, kept⟩ | ⟨fits, scramble⟩
  · rw [here] at exceeds
    have exceeds : tally.Exceeds permits := exceeds
    simp only [Tally.handle, if_pos (And.intro checks exceeds)]
    obtain ⟨later, length, answered, nobody⟩ := newcomer_only same
    refine ⟨⟨upholds, rested, ?_, ?_⟩, later, length, answered, ?_⟩
    · exact (congrArg Semaphore.permits kept).trans here
    · exact (congrArg (fun counter => counter.line.length) kept).trans waited
    · exact fun me given bound waits returned => absurd returned (nobody me given bound waits)
  · rw [here] at fits scramble
    have fits : ¬(checked = true ∧ tally.Exceeds permits) := fits
    simp only [Tally.handle, if_neg fits, Tally.release]
    have begun : total Standing.unanswered (reading.standings before ++ [.done .released]) =
        (wake.spares (reading.counter before.shared).line).length + wake.woken tally.waiting := by
      rw [World.total_append, resting.rested.unanswered_eq, ← waited]
      exact wake.length_spares _
    obtain ⟨left, waiting⟩ := scramble.settled begun rested.unanswered_eq
    have length := scramble.length_last
    refine ⟨⟨upholds, rested, ?_, ?_⟩, scramble.later, length, ?_, scramble.alike⟩
    · rw [← left]
      exact UInt64.ofNat_toNat.symm
    · have woken := wake.length_spares (reading.counter before.shared).line
      rw [waited] at woken
      rw [← woken] at waiting
      exact waiting
    · exact scramble.answer_newest rfl

theorem newcomer_outside (resting : Resting reading tally before) :
    before.threads.length ∉ reading.line before.shared := by
  intro member
  obtain ⟨_, old⟩ := resting.rested.lined.parked _ member
  obtain ⟨bound, _⟩ := List.getElem?_eq_some_iff.mp old
  rw [reading.length_standings] at bound
  exact absurd bound (Nat.lt_irrefl _)

theorem tryAcquire (resting : Resting reading tally before) (prompt : Prompt reading checked)
    (settles : (before.spawn (backend.start .tryAcquire)).Settles backend.machine last) :
    Resting reading tally.look.2 last ∧ before.Later backend.machine last ∧
      last.threads.length = before.threads.length + 1 ∧
      last.answer? backend.machine before.threads.length = some tally.look.1 ∧
      ∀ me given, me < before.threads.length → before.answer? backend.machine me = none →
        last.answer? backend.machine me ≠ some given := by
  have newest (new : Standing) : (reading.standings before ++ [Standing.seeking .giveUp]).set
      before.threads.length new = reading.standings before ++ [new] := by
    rw [← reading.length_standings before]
    exact set_newest new
  have bound : before.threads.length < (reading.standings before ++ [Standing.seeking .giveUp]).length := by
    rw [List.length_append, reading.length_standings]
    exact Nat.lt_succ_self _
  have upholds := prompt.asked _ _ .tryAcquire resting.upholds
  have seeks : reading.standings (before.spawn (backend.start .tryAcquire)) =
      (reading.standings before ++ [Standing.seeking .giveUp]).set before.threads.length
        (.seeking .giveUp) := by
    rw [newest, standings_spawn]
    rfl
  obtain ⟨upholds, rested, same, permits, line⟩ := prompt.look_surely upholds seeks bound
    (resting.rested.lined.append _) resting.newcomer_outside resting.permits (by
      intro other standing different found
      rcases World.found_or_last_of_append found with found | ⟨newest, _⟩
      · exact resting.rested.rests other standing found
      · rw [reading.length_standings] at newest
        exact absurd newest different) last settles
  rw [newest] at same
  refine ⟨⟨upholds, rested, permits, ?_⟩, newcomer_only same⟩
  rw [line, Tally.waiting_look]
  exact resting.waiting

theorem lapse (resting : Resting reading tally before) (prompt : Prompt reading checked)
    {lapsed : World backend.Shared backend.Point}
    (expires : before.expire? backend.machine me = some lapsed)
    (settles : lapsed.Settles backend.machine last) :
    Resting reading { tally.look.2 with waiting := tally.waiting - 1 } last ∧
      0 < tally.waiting ∧ last.threads.length = before.threads.length ∧
      before.answer? backend.machine me = none ∧
      last.answer? backend.machine me = some tally.look.1 ∧
      ∀ other, other ≠ me → last.answer? backend.machine other = before.answer? backend.machine other := by
  rw [World.expire?, Option.bind_eq_some_iff] at expires
  obtain ⟨old, found, expires⟩ := expires
  rw [Option.map_eq_some_iff] at expires
  obtain ⟨⟨new, changed⟩, expires, rfl⟩ := expires
  obtain ⟨⟨asleep, seeking, withdrawn⟩, upholds⟩ :=
    reading.expires me _ old new _ changed resting.upholds found expires
  obtain ⟨member, erased⟩ := Semaphore.withdraw_eq_some withdrawn
  have line : reading.line changed = (reading.line before.shared).erase me := congrArg Semaphore.line erased
  have permits : backend.count changed = backend.count before.shared := congrArg Semaphore.permits erased
  have stands : (reading.standings before)[me]? = some (.asleep true) := by
    rw [Reading.standings, List.getElem?_map, found, ← asleep]
    rfl
  have bound := (List.getElem?_eq_some_iff.mp stands).1
  have distinct : (reading.line before.shared).Nodup := resting.rested.lined.distinct
  have seeks : reading.standings (before.put me (new, changed)) =
      (reading.standings before).set me (.seeking .giveUp) := by
    rw [Reading.standings, World.put, List.map_set, seeking]
    rfl
  have lined : Lined (reading.standings before) (reading.counter changed) := by
    refine resting.rested.lined.of_sublist _ ?_
    rw [line]
    exact List.erase_sublist
  have outside : me ∉ reading.line changed := by
    rw [line]
    exact fun listed => (distinct.mem_erase_iff.mp listed).1 rfl
  obtain ⟨upholds, rested, same, left, stays⟩ := prompt.look_surely upholds seeks bound lined outside
    (permits.trans resting.permits) (by
      intro other standing different foundOther
      rcases resting.rested.rests other standing foundOther with returned | ⟨timed, rfl, listed⟩
      · exact .inl returned
      · refine .inr ⟨timed, rfl, ?_⟩
        show other ∈ reading.line changed
        rw [line]
        exact (List.mem_erase_of_ne different).mpr listed) last settles
  have length : last.threads.length = before.threads.length := by
    rw [← reading.length_standings last, same, List.length_set, reading.length_standings]
  have stays : reading.line last.shared = reading.line changed := stays
  have looked : (reading.standings last)[me]? = some (.done tally.look.1) := by
    rw [same]
    exact List.getElem?_set_self bound
  refine ⟨⟨upholds, rested, left, ?_⟩, ?_, length, reading.found_standing stands,
    reading.found_standing looked, ?_⟩
  · rw [stays, line, List.length_erase_of_mem member, resting.waiting]
  · rw [← resting.waiting]
    exact List.length_pos_of_mem member
  · intro other different
    have elsewhere : (reading.standings last)[other]? = (reading.standings before)[other]? := by
      rw [same, List.getElem?_set_ne (Ne.symm different)]
    cases there : (reading.standings before)[other]? with
    | none =>
        rw [there] at elsewhere
        rw [Reading.standings, List.getElem?_map, Option.map_eq_none_iff] at elsewhere there
        rw [World.answer?, World.answer?, elsewhere, there]
    | some standing =>
        rw [there] at elsewhere
        rw [reading.found_standing elsewhere, reading.found_standing there]

theorem callBriefly (resting : Resting reading tally before) (prompt : Prompt reading checked)
    (served : Served backend before .callBriefly me last) :
    Resting reading tally.look.2 last ∧ before.Later backend.machine last ∧ me = before.threads.length ∧
      last.threads.length = before.threads.length + 1 ∧
      last.answer? backend.machine before.threads.length = some tally.look.1 ∧
      ∀ me given, me < before.threads.length → before.answer? backend.machine me = none →
        last.answer? backend.machine me = some given → given = .taken := by
  cases served with
  | inTime settles ended =>
      obtain ⟨after, later, length, answered, waits, alike⟩ := resting.acquire prompt settles
      by_cases none : tally.permits = 0
      · -- the newcomer waits, and a wait in the line can end
        have asleep := waits none
        rcases after.rested.rests _ _ asleep with ⟨_, same⟩ | ⟨_, _, member⟩
        · cases same
        · rw [Reading.standings, List.getElem?_map, Option.map_eq_some_iff] at asleep
          obtain ⟨point, found, asleep⟩ := asleep
          obtain ⟨lapsed, expires⟩ := prompt.lapses _ point last.shared asleep member
          rw [World.expire?, found, Option.bind_some, expires] at ended
          cases ended
      · simp only [Tally.handle, if_neg none] at after answered
        refine ⟨after, later, rfl, length, ?_, alike⟩
        rw [answered, Tally.look_of_some none]
  | @tooLate parked _ _ settles expires ends =>
      obtain ⟨after, later, length, answered, waits, alike⟩ := resting.acquire prompt settles
      obtain ⟨gone, _, same, waited, refused, others⟩ := after.lapse prompt expires ends
      by_cases none : tally.permits = 0
      · have looks : Tally.look ⟨tally.permits, tally.waiting + 1⟩ =
            (.refused, ⟨tally.permits, tally.waiting + 1⟩) := Tally.look_of_none none
        simp only [Tally.handle, if_pos none, looks] at gone refused
        rw [Tally.look_of_none none]
        refine ⟨gone, ⟨?_, ?_⟩, rfl, same.trans length, refused, ?_⟩
        · omega
        · intro me answer given
          have kept := later.keeps me answer given
          by_cases newest : me = before.threads.length
          · rw [newest, waited] at kept
            cases kept
          · rw [others me newest]
            exact kept
        · intro me given bound waits returned
          rw [others me (Nat.ne_of_lt bound)] at returned
          exact alike me given bound waits returned
      · simp only [Tally.handle, if_neg none] at answered
        rw [answered] at waited
        cases waited

theorem serve (resting : Resting reading tally before) (prompt : Prompt reading checked)
    (served : Served backend before event me last) :
    Resting reading (tally.handle checked event).tally last ∧
      Agrees (tally.handle checked event) (before.report backend.machine last me)
        (backend.count last.shared) := by
  have newest {waiting : Option Answer} (length : last.threads.length = before.threads.length + 1)
      (answered : last.answer? backend.machine before.threads.length = waiting) :
      World.unanswered backend.machine (last.threads.drop before.threads.length) =
        if waiting = none then 1 else 0 := by
    rw [World.unanswered_newest length, answered]
  have looked {answer : Answer} (after : Resting reading tally.look.2 last)
      (later : before.Later backend.machine last)
      (length : last.threads.length = before.threads.length + 1)
      (answered : last.answer? backend.machine before.threads.length = some tally.look.1)
      (alike : ∀ me given, me < before.threads.length → before.answer? backend.machine me = none →
        last.answer? backend.machine me = some given → given = answer) :
      Agrees ⟨some tally.look.1, [], tally.look.2⟩
        (before.report backend.machine last before.threads.length) (backend.count last.shared) := by
    have balance : 0 + tally.look.2.waiting = tally.waiting +
        World.unanswered backend.machine (last.threads.drop before.threads.length) := by
      rw [newest length answered, Tally.waiting_look, if_neg (Option.some_ne_none _), Nat.zero_add]
      rfl
    exact resting.agrees after later answered alike rfl balance
  cases event with
  | callBriefly =>
      obtain ⟨after, later, rfl, length, answered, alike⟩ := resting.callBriefly prompt served
      exact ⟨after, looked after later length answered alike⟩
  | lapse =>
      cases served with
      | lapse expires ends =>
          obtain ⟨after, some, length, waited, answered, others⟩ := resting.lapse prompt expires ends
          have later : before.Later backend.machine last := by
            refine ⟨Nat.le_of_eq length.symm, fun other answer given => ?_⟩
            by_cases same : other = me
            · rw [same, waited] at given
              cases given
            · rwa [others other same]
          have alike : ∀ other given, other < before.threads.length →
              before.answer? backend.machine other = none →
              last.answer? backend.machine other = Option.some given → given = tally.look.1 := by
            intro other given _ waits returned
            by_cases same : other = me
            · rw [same, answered] at returned
              exact (Option.some.inj returned).symm
            · rw [others other same, waits] at returned
              cases returned
          have balance : 1 + (tally.waiting - 1) = tally.waiting +
              World.unanswered backend.machine (last.threads.drop before.threads.length) := by
            rw [← length, List.drop_length]
            exact Nat.add_sub_cancel' some
          exact ⟨after, resting.agrees after later answered alike rfl balance⟩
  | call request =>
      cases served with
      | call settles =>
          cases request with
          | tryAcquire =>
              obtain ⟨after, later, length, answered, nobody⟩ := resting.tryAcquire prompt settles
              have alike : ∀ me given, me < before.threads.length →
                  before.answer? backend.machine me = none →
                  last.answer? backend.machine me = some given → given = .taken :=
                fun me given bound waits returned => absurd returned (nobody me given bound waits)
              exact ⟨after, looked after later length answered alike⟩
          | acquire timed =>
              obtain ⟨after, later, length, answered, _, alike⟩ := resting.acquire prompt settles
              by_cases none : tally.permits = 0
              · have outcome : tally.handle checked (.call (.acquire timed)) =
                    ⟨Option.none, [], { tally with waiting := tally.waiting + 1 }⟩ := if_pos none
                rw [outcome] at after answered ⊢
                have balance : 0 + (tally.waiting + 1) = tally.waiting +
                    World.unanswered backend.machine (last.threads.drop before.threads.length) := by
                  rw [newest length answered, if_pos rfl, Nat.zero_add]
                exact ⟨after, resting.agrees after later answered alike rfl balance⟩
              · have outcome : tally.handle checked (.call (.acquire timed)) =
                    ⟨some tally.look.1, [], tally.look.2⟩ := by
                  rw [Tally.handle, if_neg none, Tally.look_of_some none]
                rw [outcome] at after answered ⊢
                exact ⟨after, looked after later length answered alike⟩
          | release permits wake =>
              obtain ⟨after, later, length, answered, alike⟩ := resting.release prompt settles
              by_cases breaks : checked = true ∧ tally.Exceeds permits
              · have outcome : tally.handle checked (.call (.release permits wake)) =
                    ⟨some (.fault .sumOverflow), [], tally⟩ := if_pos breaks
                rw [outcome] at after answered ⊢
                have balance : 0 + tally.waiting = tally.waiting +
                    World.unanswered backend.machine (last.threads.drop before.threads.length) := by
                  rw [newest length answered, if_neg (Option.some_ne_none _), Nat.zero_add]
                  rfl
                exact ⟨after, resting.agrees after later answered alike rfl balance⟩
              · have outcome : tally.handle checked (.call (.release permits wake)) =
                    tally.release permits wake := if_neg breaks
                rw [outcome] at after answered ⊢
                have returned : (tally.release permits wake).answer ≠ none := Option.some_ne_none _
                refine ⟨after, resting.agrees after later answered alike rfl ?_⟩
                rw [newest length answered, if_neg returned]
                have fewer := wake.woken_le tally.waiting
                simp only [Tally.release]
                omega

end Resting

end Turnstile.Permits
