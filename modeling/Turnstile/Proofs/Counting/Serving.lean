import Turnstile.Counting
import Turnstile.Proofs.Permits.Rounds
import Turnstile.Proofs.Report
import Turnstile.Proofs.Schedule
import Turnstile.Proofs.Semaphore
import Turnstile.Proofs.SignedWord

/-!
# One call of a counting semaphore at a time

Between two calls everybody has returned or sleeps in the line of the inner semaphore, which
has no permit then. The signed count is the permits of a `Tally` less its waiting callers,
and one of these two is zero. A post that finds the count negative posts a permit of the
inner semaphore, and the caller that waits longest takes it before everybody rests again.
So each call comes to what the tally says, as long as the count stays in its word.
-/

namespace Turnstile.Counting

set_option autoImplicit false

open Permits (Agrees Tally Outcome Request)

variable {tally : Tally} {outcome : Outcome} {before last : World Counting Point}
  {state : Counting} {threads : List Point} {line rest : List ThreadId} {first : ThreadId}
  {call : Call} {moves : Nat}

/-- The answer of a permit counter that says the same. -/
def Answer.plain : Answer → Permits.Answer
  | posted => .released
  | taken => .taken
  | refused => .refused

/-- The request that a call is to a permit counter. -/
def Call.request : Call → Request
  | post => .release 1 .one
  | wait => .acquire false
  | tryWait => .tryAcquire

/-- The call leaves the count in its word. -/
def Call.Fits (count : Int64) : Call → Prop
  | post => count.toInt < 2 ^ 63 - 1
  | wait => -2 ^ 63 < count.toInt
  | tryWait => True

/-! ## Everybody rests -/

/-- Everybody in the line sleeps, and everybody else has returned. -/
structure Seated (line : List ThreadId) (threads : List Point) : Prop where
  distinct : line.Nodup
  parked : ∀ me ∈ line, threads[me]? = some .sleep
  others : ∀ me point, threads[me]? = some point →
    (∃ answer, point = .done answer) ∨ point = .sleep ∧ me ∈ line

namespace Seated

theorem newest_outside (seated : Seated line threads) : threads.length ∉ line := by
  intro member
  have found := seated.parked _ member
  rw [List.getElem?_eq_none (Nat.le_refl _)] at found
  cases found

theorem still (seated : Seated line threads) (same : state.asleep.line = line) {me : ThreadId}
    {point : Point} (found : threads[me]? = some point) : machine.act me point state = none := by
  rcases seated.others me point found with ⟨answer, rfl⟩ | ⟨rfl, member⟩
  · rfl
  · have asleep : state.asleep.wait me = .asleep :=
      Semaphore.wait_asleep_iff.mpr (same ▸ member)
    simp [machine, act, asleep]

theorem quiet (seated : Seated line threads) (state : Counting) (same : state.asleep.line = line) :
    World.Quiet machine ⟨state, threads⟩ :=
  World.quiet_of_still fun _ _ found => seated.still same found

theorem alone (seated : Seated line threads) (state : Counting) (same : state.asleep.line = line)
    (point : Point) : World.Alone machine threads.length ⟨state, threads ++ [point]⟩ :=
  World.Alone.newest (fun _ _ found => seated.still same found) point

theorem answered (seated : Seated line threads) (answer : Answer) :
    Seated line (threads ++ [.done answer]) := by
  constructor
  · exact seated.distinct
  · exact fun me member => World.found_append (seated.parked me member)
  · intro me point found
    rcases World.found_or_eq_of_append found with found | rfl
    · exact seated.others me point found
    · exact .inl ⟨answer, rfl⟩

theorem joined (seated : Seated line threads) :
    Seated (line ++ [threads.length]) (threads ++ [.sleep]) := by
  constructor
  · apply List.nodup_append.mpr
    refine ⟨seated.distinct, List.nodup_singleton _, ?_⟩
    intro me member newest isNewest same
    rw [List.mem_singleton.mp isNewest] at same
    exact seated.newest_outside (same ▸ member)
  · intro me member
    rcases List.mem_append.mp member with member | newest
    · exact World.found_append (seated.parked me member)
    · rw [List.mem_singleton.mp newest]
      exact List.getElem?_concat_length
  · intro me point found
    rcases World.found_or_last_of_append found with found | ⟨rfl, rfl⟩
    · rcases seated.others me point found with done | ⟨asleep, member⟩
      · exact .inl done
      · exact .inr ⟨asleep, List.mem_append_left _ member⟩
    · exact .inr ⟨rfl, List.mem_append_right _ (List.mem_singleton_self _)⟩

theorem served (seated : Seated (first :: rest) threads) (answer : Answer) :
    Seated rest (threads.set first (.done answer)) := by
  have distinct := List.nodup_cons.mp seated.distinct
  have found := seated.parked first List.mem_cons_self
  constructor
  · exact distinct.2
  · intro me member
    have different : first ≠ me := fun same => distinct.1 (same ▸ member)
    rw [List.getElem?_set_ne different]
    exact seated.parked me (List.mem_cons_of_mem _ member)
  · intro me point foundMe
    by_cases same : first = me
    · subst same
      rw [World.found_set found] at foundMe
      cases foundMe
      exact .inl ⟨answer, rfl⟩
    · rw [List.getElem?_set_ne same] at foundMe
      rcases seated.others me point foundMe with done | ⟨asleep, member⟩
      · exact .inl done
      · refine .inr ⟨asleep, ?_⟩
        rcases List.mem_cons.mp member with isFirst | member
        · exact absurd isFirst.symm same
        · exact member

theorem mem_line_iff (seated : Seated line threads) {me : ThreadId} :
    me ∈ line ↔ ∃ point, threads[me]? = some point ∧ machine.answer? point = none := by
  constructor
  · exact fun member => ⟨.sleep, seated.parked me member, rfl⟩
  · rintro ⟨point, found, unanswered⟩
    rcases seated.others me point found with ⟨answer, rfl⟩ | ⟨_, member⟩
    · cases unanswered
    · exact member

theorem unanswered (seated : Seated line threads) :
    World.unanswered machine threads = line.length := by
  let world : World Counting Point := ⟨⟨0, .empty⟩, threads⟩
  have waiting : (world.report machine world threads.length).waiting.Perm line :=
    World.report_waiting_perm seated.distinct fun _ => seated.mem_line_iff
  rw [← waiting.length_eq, World.length_report_waiting]

end Seated

/-- Everybody rests, and the numbers are those of the tally. -/
structure Resting (tally : Tally) (world : World Counting Point) : Prop where
  seated : Seated world.shared.asleep.line world.threads
  spent : world.shared.asleep.permits = 0
  waiting : world.shared.asleep.line.length = tally.waiting
  count : world.shared.count.toInt = tally.permits.toNat - tally.waiting
  /-- Nobody waits beside a permit. -/
  apart : tally.permits = 0 ∨ tally.waiting = 0

/-- Everybody has come to rest after a call, and those that it released have taken permits. -/
structure Arrives (before : World Counting Point) (outcome : Outcome)
    (last : World Counting Point) : Prop where
  resting : Resting outcome.tally last
  threads : ∃ (released : List ThreadId) (point : Point),
    last.threads = World.settled .done (released.map (·, .taken)) before.threads ++ [point] ∧
      (answer? point).map Answer.plain = outcome.answer ∧
      outcome.released = .replicate released.length .taken ∧
      (∀ me ∈ released, before.threads[me]? = some .sleep) ∧ released.Nodup

theorem Arrives.agrees (arrives : Arrives before outcome last) :
    Agrees outcome ((before.report machine last before.threads.length).map Answer.plain)
      outcome.tally.permits := by
  obtain ⟨released, point, threads, answered, returned, waited, once⟩ := arrives.threads
  have ends : World.Ends machine (released.map (·, .taken)) (answer? point) before last := by
    apply World.Ends.of_threads (fun _ => rfl) threads
    · intro me answer member
      obtain ⟨_, listed, same⟩ := List.mem_map.mp member
      cases same
      exact ⟨.sleep, waited me listed, rfl⟩
    · rwa [List.map_map, Function.comp_def, List.map_id']
  constructor
  · have given := congrArg (Option.map Answer.plain) ends.report_answer
    rw [answered] at given
    exact given
  · have permuted := ends.report_released.map fun given => given.2.plain
    rw [returned]
    apply List.perm_replicate.mp
    simpa [Report.map, Function.comp_def, Answer.plain] using permuted
  · rw [← arrives.resting.waiting, ← arrives.resting.seated.unanswered]
    show (before.report machine last before.threads.length).waiting.length = _
    exact World.length_report_waiting
  · rfl

/-! ## What a call comes to -/

theorem toNat_pos_iff {permits : UInt64} : 0 < permits.toNat ↔ permits ≠ 0 := by
  rw [Nat.pos_iff_ne_zero, ne_eq, ne_eq, ← UInt64.toNat_inj, UInt64.toNat_zero]

namespace Resting

theorem pos_iff (resting : Resting tally before) :
    0 < before.shared.count ↔ tally.permits ≠ 0 := by
  have total := resting.count
  rw [Int64.lt_iff_toInt_lt, Int64.toInt_zero, ← toNat_pos_iff]
  rcases resting.apart with empty | nobody
  · rw [empty] at total ⊢
    rw [UInt64.toNat_zero] at total ⊢
    omega
  · omega

theorem lt_one_iff (resting : Resting tally before) :
    before.shared.count < 1 ↔ tally.permits = 0 := by
  have positive := resting.pos_iff
  rw [Int64.lt_iff_toInt_lt, Int64.toInt_zero] at positive
  rw [Int64.lt_iff_toInt_lt, Int64.toInt_one, ← not_iff_not, ← ne_eq (tally.permits), ← positive]
  omega

theorem neg_iff (resting : Resting tally before) :
    before.shared.count < 0 ↔ tally.waiting ≠ 0 := by
  have total := resting.count
  rw [Int64.lt_iff_toInt_lt, Int64.toInt_zero]
  rcases resting.apart with empty | nobody
  · rw [empty, UInt64.toNat_zero] at total
    omega
  · omega

theorem returns (resting : Resting tally before) (answer : Answer) (later : Tally) (count : Int64)
    (waiting : later.waiting = tally.waiting)
    (fits : count.toInt = later.permits.toNat - later.waiting)
    (apart : later.permits = 0 ∨ later.waiting = 0) :
    World.Comes machine (Arrives before ⟨some answer.plain, [], later⟩) moves
      ⟨⟨count, before.shared.asleep⟩, before.threads ++ [.done answer]⟩ := by
  have seated := resting.seated.answered answer
  apply World.Comes.of_quiet
  · exact seated.quiet ⟨count, before.shared.asleep⟩ rfl
  · constructor
    · exact ⟨seated, resting.spent, resting.waiting.trans waiting.symm, fits, apart⟩
    · refine ⟨[], .done answer, ?_, rfl, rfl, nofun, List.nodup_nil⟩
      rw [List.map_nil, World.settled_nil]

theorem takes (resting : Resting tally before) (some : tally.permits ≠ 0) (count : Int64)
    (fewer : count.toInt = before.shared.count.toInt - 1) :
    World.Comes machine (Arrives before ⟨.some .taken, [], tally.look.2⟩) moves
      ⟨⟨count, before.shared.asleep⟩, before.threads ++ [.done .taken]⟩ := by
  have nobody := resting.apart.resolve_left some
  have total := resting.count
  have positive := toNat_pos_iff.mpr some
  have left := Tally.toNat_sub_one some
  rw [Tally.look_of_some some]
  apply resting.returns .taken
  · rfl
  · show count.toInt = ((tally.permits - 1).toNat : Int) - tally.waiting
    omega
  · exact .inr nobody

theorem joins (resting : Resting tally before) (empty : tally.permits = 0) (count : Int64)
    (fewer : count.toInt = before.shared.count.toInt - 1) :
    World.Comes machine (Arrives before ⟨none, [], { tally with waiting := tally.waiting + 1 }⟩)
      (moves + 1) ⟨⟨count, before.shared.asleep⟩, before.threads ++ [.sleep]⟩ := by
  have total := resting.count
  have parks := Semaphore.wait_of_none resting.seated.newest_outside resting.spent
  have slept : machine.act before.threads.length .sleep ⟨count, before.shared.asleep⟩ =
      some (.sleep, ⟨count, { before.shared.asleep with
        line := before.shared.asleep.line ++ [before.threads.length] }⟩) := by
    simp [machine, act, parks]
  apply (resting.seated.alone ⟨count, before.shared.asleep⟩ rfl _).newcomer slept
  have seated := resting.seated.joined
  apply World.Comes.of_quiet
  · exact seated.quiet _ rfl
  · constructor
    · refine ⟨seated, resting.spent, ?_, ?_, .inl empty⟩
      · rw [List.length_append, resting.waiting, List.length_singleton]
      · show count.toInt = tally.permits.toNat - ((tally.waiting + 1 : Nat) : Int)
        omega
    · refine ⟨[], .sleep, ?_, rfl, rfl, nofun, List.nodup_nil⟩
      rw [List.map_nil, World.settled_nil]

theorem wait_comes (resting : Resting tally before) (fits : Call.wait.Fits before.shared.count) :
    World.Comes machine (Arrives before (tally.handle false (.call (.acquire false)))) 3
      (before.spawn .lower) := by
  have fewer : (before.shared.count - 1).toInt = before.shared.count.toInt - 1 :=
    toInt_sub_one _ fits
  by_cases empty : tally.permits = 0
  · have below := resting.lt_one_iff.mpr empty
    have acted : machine.act before.threads.length .lower before.shared =
        some (.sleep, ⟨before.shared.count - 1, before.shared.asleep⟩) := by
      simp [machine, act, below]
    apply (resting.seated.alone _ rfl _).newcomer acted
    rw [Tally.handle, if_pos empty]
    exact resting.joins empty _ fewer
  · have above := mt resting.lt_one_iff.mp empty
    have acted : machine.act before.threads.length .lower before.shared =
        some (.done .taken, ⟨before.shared.count - 1, before.shared.asleep⟩) := by
      simp [machine, act, above]
    apply (resting.seated.alone _ rfl _).newcomer acted
    rw [Tally.handle, if_neg empty]
    exact resting.takes empty _ fewer

theorem tryWait_comes (resting : Resting tally before) :
    World.Comes machine (Arrives before (tally.handle false (.call .tryAcquire))) 3
      (before.spawn .read) := by
  have read : machine.act before.threads.length .read before.shared =
      some (afterLook before.shared.count, before.shared) := rfl
  apply (resting.seated.alone _ rfl _).newcomer read
  rw [Tally.handle]
  by_cases empty : tally.permits = 0
  · have refused : afterLook before.shared.count = .done .refused :=
      if_neg fun positive => resting.pos_iff.mp positive empty
    rw [refused, Tally.look_of_none empty]
    exact resting.returns .refused tally _ rfl resting.count resting.apart
  · have positive := resting.pos_iff.mpr empty
    have exchanges : afterLook before.shared.count = .exchange before.shared.count :=
      if_pos positive
    have acted : machine.act before.threads.length (.exchange before.shared.count) before.shared =
        some (.done .taken, ⟨before.shared.count - 1, before.shared.asleep⟩) := by
      simp [machine, act]
    have fewer : (before.shared.count - 1).toInt = before.shared.count.toInt - 1 := by
      rw [Int64.lt_iff_toInt_lt, Int64.toInt_zero] at positive
      exact toInt_sub_one _ (by omega)
    rw [exchanges, Tally.look_of_some empty]
    apply (resting.seated.alone _ rfl _).newcomer acted
    have taken : World.Comes machine _ 1 _ := resting.takes empty _ fewer
    rwa [Tally.look_of_some empty] at taken

theorem first_comes (resting : Resting tally before) (lined : before.shared.asleep.line = first :: rest)
    (count : Int64) (more : count.toInt = before.shared.count.toInt + 1) :
    World.Comes machine
      (Arrives before ⟨some .released, [.taken], { tally with waiting := tally.waiting - 1 }⟩)
      (moves + 1) ⟨⟨count, ⟨1, rest⟩⟩, before.threads ++ [.done .posted]⟩ := by
  have seated := resting.seated
  rw [lined] at seated
  have outside : first ∉ rest := (List.nodup_cons.mp seated.distinct).1
  have found : before.threads[first]? = some .sleep := seated.parked first List.mem_cons_self
  have waiting : rest.length + 1 = tally.waiting := by
    rw [← resting.waiting, lined, List.length_cons]
  have alone : World.Alone machine first
      ⟨⟨count, ⟨1, rest⟩⟩, before.threads ++ [.done .posted]⟩ := by
    apply World.Alone.of_still
    intro other point different there
    rcases (seated.answered .posted).others other point there with ⟨answer, rfl⟩ | ⟨rfl, member⟩
    · rfl
    · rcases List.mem_cons.mp member with same | member
      · exact absurd same different
      · have asleep : Semaphore.wait other ⟨1, rest⟩ = .asleep :=
          Semaphore.wait_asleep_iff.mpr member
        simp [machine, act, asleep]
  have acted : machine.act first .sleep ⟨count, ⟨1, rest⟩⟩ = some (.done .taken, ⟨count, ⟨0, rest⟩⟩) := by
    have takes : Semaphore.wait first ⟨1, rest⟩ = .taken ⟨1 - 1, rest⟩ :=
      Semaphore.wait_of_some outside (by simp)
    simp [machine, act, takes]
  apply alone.comes (World.found_append found) acted
  obtain ⟨bound, _⟩ := List.getElem?_eq_some_iff.mp found
  rw [List.set_append_left _ _ bound]
  have returned := (seated.served .taken).answered .posted
  apply World.Comes.of_quiet
  · exact returned.quiet ⟨count, ⟨0, rest⟩⟩ rfl
  · constructor
    · have total := resting.count
      have empty := resting.apart.resolve_right (by omega)
      refine ⟨returned, rfl, ?_, ?_, .inl empty⟩
      · show rest.length = tally.waiting - 1
        omega
      · show count.toInt = (tally.permits.toNat : Int) - ((tally.waiting - 1 : Nat) : Int)
        omega
    · refine ⟨[first], .done .posted, ?_, rfl, rfl, ?_, List.nodup_singleton _⟩
      · rw [List.map_singleton, World.settled_singleton]
      · intro me member
        rw [List.mem_singleton.mp member]
        exact found

theorem post_comes (resting : Resting tally before) (fits : Call.post.Fits before.shared.count) :
    World.Comes machine (Arrives before (tally.handle false (.call (.release 1 .one)))) 3
      (before.spawn .raise) := by
  have more : (before.shared.count + 1).toInt = before.shared.count.toInt + 1 :=
    toInt_add_one _ fits
  have total := resting.count
  rw [Tally.handle_release]
  by_cases nobody : tally.waiting = 0
  · have acted : machine.act before.threads.length .raise before.shared =
        some (.done .posted, ⟨before.shared.count + 1, before.shared.asleep⟩) := by
      have positive : ¬before.shared.count < 0 := fun negative => resting.neg_iff.mp negative nobody
      simp [machine, act, positive]
    apply (resting.seated.alone _ rfl _).newcomer acted
    rw [Tally.release_of_nobody nobody]
    apply resting.returns .posted
    · rfl
    · have fits : before.shared.count.toInt < 2 ^ 63 - 1 := fits
      have sum : (tally.permits + 1).toNat = tally.permits.toNat + 1 := by
        apply Semaphore.toNat_permits_add
        rw [UInt64.toNat_one]
        show tally.permits.toNat + 1 < 18446744073709551616
        omega
      show (before.shared.count + 1).toInt = ((tally.permits + 1).toNat : Int) - tally.waiting
      omega
    · exact .inr nobody
  · have acted : machine.act before.threads.length .raise before.shared =
        some (.wake, ⟨before.shared.count + 1, before.shared.asleep⟩) := by
      have negative := resting.neg_iff.mpr nobody
      simp [machine, act, negative]
    apply (resting.seated.alone _ rfl _).newcomer acted
    have woken : machine.act before.threads.length .wake ⟨before.shared.count + 1, before.shared.asleep⟩ =
        some (.done .posted, ⟨before.shared.count + 1, before.shared.asleep.post⟩) := rfl
    apply (resting.seated.alone ⟨before.shared.count + 1, before.shared.asleep⟩ rfl _).newcomer woken
    have empty := resting.apart.resolve_right nobody
    rw [Tally.release_of_none empty nobody]
    cases lined : before.shared.asleep.line with
    | nil =>
        have short := resting.waiting
        rw [lined] at short
        exact absurd short.symm nobody
    | cons first rest =>
        have posted : before.shared.asleep.post = ⟨1, rest⟩ := by
          simp [Semaphore.post, lined, resting.spent]
        rw [posted]
        exact resting.first_comes lined _ more

theorem post_wraps (resting : Resting tally before)
    (full : before.shared.count.toInt = 2 ^ 63 - 1) :
    World.Comes machine (fun last => last.shared.count.toInt = -2 ^ 63) 1 (before.spawn .raise) := by
  have largest : before.shared.count = Int64.maxValue := Int64.toInt_inj.mp full
  have acted : machine.act before.threads.length .raise before.shared =
      some (.done .posted, ⟨Int64.minValue, before.shared.asleep⟩) := by
    have positive : ¬Int64.maxValue < 0 := by decide
    have wraps : Int64.maxValue + 1 = Int64.minValue := by decide
    simp [machine, act, largest, positive, wraps]
  apply (resting.seated.alone _ rfl _).newcomer acted
  apply World.Comes.of_quiet
  · exact (resting.seated.answered .posted).quiet ⟨Int64.minValue, before.shared.asleep⟩ rfl
  · show Int64.minValue.toInt = -2 ^ 63
    decide

theorem call_comes (resting : Resting tally before) (fits : call.Fits before.shared.count) :
    World.Comes machine (Arrives before (tally.handle false (.call call.request))) 3
      (before.spawn (start call)) := by
  cases call with
  | post => exact resting.post_comes fits
  | wait => exact resting.wait_comes fits
  | tryWait => exact resting.tryWait_comes

end Resting

end Turnstile.Counting
