import Turnstile.Proofs.Permits.Standing
import Turnstile.Proofs.Permits.Tally

/-!
# The scramble for permits

Where everybody rests and one thing happens, somebody wakes up, or several do. They look
at the count in an order that nobody chooses, take a permit each as long as there are any,
and go back into the line as soon as there is none. `Scramble` follows this: what has been
taken is missing from the count, and somebody is behind those that have slept on only where
the count is zero. So when everybody rests again, both numbers are known.

A caller whose wait has ended looks once and is gone, which `GivingUp` follows, and a release
begins a scramble once it has woken somebody, which `Releasing` follows.
-/

namespace Turnstile.Permits

set_option autoImplicit false

open World (total)

variable {me : ThreadId} {old new : Standing} {counter changed : Semaphore}
  {first standings : List Standing} {stay : List ThreadId} {permits : UInt64} {wake : Wake}
  {checked : Bool} {count : Nat}

def Standing.unanswered (standing : Standing) : Nat := if standing.answer? = none then 1 else 0

/-- The line holds callers that sleep, each once. -/
structure Lined (standings : List Standing) (counter : Semaphore) : Prop where
  parked : Parked counter.line standings
  distinct : counter.line.Nodup

namespace Lined

theorem keep (lined : Lined standings counter) (outside : me ∉ counter.line)
    (same : changed.line = counter.line) : Lined (standings.set me new) changed := by
  refine ⟨?_, same ▸ lined.distinct⟩
  rw [same]
  intro other member
  obtain ⟨timed, asleep⟩ := lined.parked other member
  have different : me ≠ other := fun found => outside (found ▸ member)
  exact ⟨timed, by rwa [List.getElem?_set_ne different]⟩

theorem shrink (lined : Lined standings counter) (outside : me ∉ changed.line)
    (fewer : changed.line.Sublist counter.line) : Lined (standings.set me new) changed := by
  refine ⟨?_, lined.distinct.sublist fewer⟩
  intro other member
  obtain ⟨timed, asleep⟩ := lined.parked other (fewer.subset member)
  have different : me ≠ other := fun found => outside (found ▸ member)
  exact ⟨timed, by rwa [List.getElem?_set_ne different]⟩

theorem outside (lined : Lined standings counter) (found : standings[me]? = some old)
    (awake : ∀ timed, old ≠ .asleep timed) : me ∉ counter.line := lined.parked.outside found awake

theorem change (lined : Lined standings counter) (found : standings[me]? = some old)
    (change : Change me old counter new changed) : Lined (standings.set me new) changed := by
  cases change with
  | add | overflow | findNobody => exact lined.keep (lined.outside found (by simp)) rfl
  | rest awake => exact lined.keep (lined.outside found awake) rfl
  | rise timed outside | giveUp outside => exact lined.keep outside rfl
  | rouse =>
      have outside := lined.outside found (by simp)
      exact lined.shrink (fun member => outside (List.mem_of_mem_tail member)) (List.tail_sublist _)
  | rouseAll => exact lined.shrink List.not_mem_nil (List.nil_sublist _)
  | take wants taken =>
      obtain ⟨outside, _, rfl⟩ := Semaphore.wait_taken taken
      exact lined.keep outside rfl
  | join wants joined =>
      obtain ⟨outside, _, rfl⟩ := Semaphore.wait_joined joined
      refine ⟨?_, ?_⟩
      · intro other member
        rcases List.mem_append.mp member with member | member
        · exact (lined.keep outside rfl).parked other member
        · obtain rfl := List.mem_singleton.mp member
          exact ⟨_, World.found_set found⟩
      · rw [List.nodup_append]
        refine ⟨lined.distinct, List.nodup_singleton _, ?_⟩
        rintro other member last isLast rfl
        exact outside (List.mem_singleton.mp isLast ▸ member)
  | withdraw withdrawn =>
      obtain ⟨_, rfl⟩ := Semaphore.withdraw_eq_some withdrawn
      refine lined.shrink ?_ List.erase_sublist
      intro member
      exact (lined.distinct.mem_erase_iff.mp member).1 rfl

theorem append (lined : Lined standings counter) (standing : Standing) :
    Lined (standings ++ [standing]) counter := by
  refine ⟨fun me member => ?_, lined.distinct⟩
  obtain ⟨timed, found⟩ := lined.parked me member
  exact ⟨timed, World.found_append found⟩

theorem of_sublist (lined : Lined standings counter) (permits : UInt64)
    (fewer : stay.Sublist counter.line) : Lined standings ⟨permits, stay⟩ :=
  ⟨fun me member => lined.parked me (fewer.subset member), lined.distinct.sublist fewer⟩

end Lined

structure Rested (standings : List Standing) (counter : Semaphore) : Prop where
  lined : Lined standings counter
  rests : ∀ (me : ThreadId) (standing : Standing), standings[me]? = some standing →
    (∃ answer, standing = .done answer) ∨ ∃ timed, standing = .asleep timed ∧ me ∈ counter.line

/-- A caller does something. It is awake, and whether it can break off over a sum depends on
whether the sums are checked. -/
structure Awake (checked : Bool) (me : ThreadId) (old : Standing) (counter : Semaphore)
    (new : Standing) (changed : Semaphore) : Prop where
  change : Change me old counter new changed
  unfinished : old.answer? = none
  outside : me ∉ counter.line
  sums : ∀ permits wake, old = .adding permits wake →
    (new = .done (.fault .sumOverflow) ∧ changed = counter ∧ checked = true ∧
        UInt64.size ≤ counter.permits.toNat + permits.toNat) ∨
      (new = .waking wake ∧ changed = { counter with permits := counter.permits + permits } ∧
        ¬(checked = true ∧ UInt64.size ≤ counter.permits.toNat + permits.toNat))

theorem Rested.asleep (rested : Rested standings counter) (found : standings[me]? = some old) :
    ¬Awake checked me old counter new changed := by
  intro awake
  rcases rested.rests me old found with ⟨answer, rfl⟩ | ⟨timed, rfl, member⟩
  · cases awake.unfinished
  · exact awake.outside member

theorem Rested.newcomer (rested : Rested first counter)
    (found : (first ++ [new])[me]? = some old) {later : Standing} {elsewhere : Semaphore}
    (awake : Awake checked me old elsewhere later changed) (same : elsewhere.line = counter.line) :
    me = first.length ∧ old = new := by
  rcases World.found_or_last_of_append found with found | last
  · rcases rested.rests me old found with ⟨answer, rfl⟩ | ⟨timed, rfl, member⟩
    · cases awake.unfinished
    · exact absurd (same ▸ member) awake.outside
  · exact last

/-! ## Those that were woken -/

inductive Goes : Standing → Standing → Prop where
  | done (answer : Answer) : Goes (.done answer) (.done answer)
  | still {old new : Standing} {timed : Bool} (wanted : old.wants? = some (.wait timed))
      (wants : new.wants? = some (.wait timed)) : Goes old new
  | takes {old : Standing} {timed : Bool} (wanted : old.wants? = some (.wait timed)) :
      Goes old (.done .taken)

structure Scramble (first : List Standing) (stay : List ThreadId) (count : Nat)
    (standings : List Standing) (counter : Semaphore) : Prop where
  lined : Lined standings counter
  length : standings.length = first.length
  goes : ∀ (me : ThreadId) (old new : Standing), first[me]? = some old → standings[me]? = some new →
    Goes old new
  /-- Those that sleep on are before those that go back to sleep. -/
  stays : stay <+: counter.line
  empty : stay.length < counter.line.length → counter.permits = 0
  balance : counter.permits.toNat + total Standing.unanswered first =
    count + total Standing.unanswered standings

theorem Standing.unanswered_of_wants {standing : Standing} {fallback : Parking.Fallback}
    (wants : standing.wants? = some fallback) : standing.unanswered = 1 := by
  cases standing with
  | seeking | asleep => rfl
  | adding | waking | done => cases wants

namespace Scramble

theorem found_first (scramble : Scramble first stay count standings counter)
    (found : standings[me]? = some old) : ∃ begun, first[me]? = some begun ∧ Goes begun old := by
  obtain ⟨bound, _⟩ := List.getElem?_eq_some_iff.mp found
  have begun := List.getElem?_eq_getElem (scramble.length ▸ bound)
  exact ⟨_, begun, scramble.goes me _ old begun found⟩

theorem wants (scramble : Scramble first stay count standings counter)
    (found : standings[me]? = some old) (awake : Awake checked me old counter new changed) :
    ∃ begun timed, first[me]? = some begun ∧ begun.wants? = some (.wait timed) ∧
      old.wants? = some (.wait timed) := by
  obtain ⟨begun, foundFirst, goes⟩ := scramble.found_first found
  cases goes with
  | done | takes => cases awake.unfinished
  | still wanted wants => exact ⟨begun, _, foundFirst, wanted, wants⟩

theorem goes_set (scramble : Scramble first stay count standings counter)
    (found : standings[me]? = some old) {begun : Standing} (foundFirst : first[me]? = some begun)
    (goes : Goes begun new) (other : ThreadId) (before after : Standing)
    (foundBefore : first[other]? = some before)
    (foundAfter : (standings.set me new)[other]? = some after) : Goes before after := by
  by_cases same : me = other
  · subst same
    rw [World.found_set found] at foundAfter
    rw [foundFirst] at foundBefore
    cases foundBefore
    cases foundAfter
    exact goes
  · rw [List.getElem?_set_ne same] at foundAfter
    exact scramble.goes other before after foundBefore foundAfter

theorem change (scramble : Scramble first stay count standings counter)
    (found : standings[me]? = some old) (awake : Awake checked me old counter new changed) :
    Scramble first stay count (standings.set me new) changed := by
  obtain ⟨begun, timed, foundFirst, wanted, wants⟩ := scramble.wants found awake
  have outside := awake.outside
  have lined := scramble.lined.change found awake.change
  have length : (standings.set me new).length = first.length := by
    rw [List.length_set, scramble.length]
  have set := World.total_set Standing.unanswered found new
  have counted := Standing.unanswered_of_wants wants
  have balance := scramble.balance
  have goes (fits : Goes begun new) := scramble.goes_set found foundFirst fits
  -- nothing happens to the count and to the line
  have idle (still : new.wants? = some (.wait timed)) (same : changed = counter) :
      Scramble first stay count (standings.set me new) changed := by
    subst same
    have stays := Standing.unanswered_of_wants still
    refine ⟨lined, length, goes (.still wanted still), scramble.stays, scramble.empty, ?_⟩
    omega
  cases awake.change with
  | add | overflow | findNobody | rouse | rouseAll => cases wants
  | giveUp => cases wants
  | rest => exact idle wants rfl
  | rise => exact idle wants rfl
  | take _ taken =>
      have fewer := Semaphore.toNat_permits_taken taken
      obtain ⟨_, _, rfl⟩ := Semaphore.wait_taken taken
      have gone : Standing.unanswered (.done .taken) = 0 := rfl
      refine ⟨lined, length, goes (.takes wanted), scramble.stays, ?_, ?_⟩
      · intro longer
        have none := scramble.empty longer
        have positive : counter.permits.toNat = 0 := by rw [none]; rfl
        omega
      · omega
  | join wanting joined =>
      rw [wants] at wanting
      cases wanting
      obtain ⟨_, none, rfl⟩ := Semaphore.wait_joined joined
      have stays : Standing.unanswered (.asleep timed) = 1 := rfl
      refine ⟨lined, length, goes (.still wanted rfl), ?_, fun _ => none, ?_⟩
      · exact scramble.stays.trans (List.prefix_append _ _)
      · show counter.permits.toNat + _ = _
        omega
  | withdraw withdrawn =>
      obtain ⟨member, _⟩ := Semaphore.withdraw_eq_some withdrawn
      exact absurd member outside

theorem start (lined : Lined first ⟨permits, stay⟩)
    (wants : ∀ (me : ThreadId) (standing : Standing), first[me]? = some standing →
      (∃ answer, standing = .done answer) ∨ ∃ timed, standing.wants? = some (.wait timed)) :
    Scramble first stay permits.toNat first ⟨permits, stay⟩ := by
  refine ⟨lined, rfl, ?_, List.prefix_rfl, fun longer => absurd longer (Nat.lt_irrefl _), rfl⟩
  intro me old new foundOld foundNew
  rw [foundOld] at foundNew
  cases foundNew
  rcases wants me old foundOld with ⟨answer, rfl⟩ | ⟨timed, wanted⟩
  · exact .done answer
  · exact .still wanted wanted

/-- Where everybody rests again, as many have taken a permit as could, and the others are
in the line. -/
theorem settled (scramble : Scramble first stay count standings counter) {woken : Nat}
    (awake : total Standing.unanswered first = stay.length + woken)
    (waiting : total Standing.unanswered standings = counter.line.length) :
    counter.permits.toNat = count - min woken count ∧
      counter.line.length = stay.length + woken - min woken count := by
  have balance := scramble.balance
  have longer := scramble.stays.length_le
  rw [awake, waiting] at balance
  by_cases more : stay.length < counter.line.length
  · have none : counter.permits.toNat = 0 := by
      rw [scramble.empty more]
      rfl
    omega
  · omega

end Scramble

theorem Rested.wants (rested : Rested first counter) (found : first[me]? = some old) :
    (∃ answer, old = .done answer) ∨ ∃ timed, old.wants? = some (.wait timed) := by
  rcases rested.rests me old found with returned | ⟨timed, rfl, _⟩
  · exact .inl returned
  · exact .inr ⟨timed, rfl⟩

theorem Rested.rouse (rested : Rested first counter) (permits : UInt64) (answer : Answer)
    (fewer : stay.Sublist counter.line) :
    Scramble (first ++ [.done answer]) stay permits.toNat (first ++ [.done answer]) ⟨permits, stay⟩ := by
  refine Scramble.start ((rested.lined.append _).of_sublist permits fewer) ?_
  intro me standing found
  rcases World.found_or_eq_of_append found with found | rfl
  · exact rested.wants found
  · exact .inl ⟨answer, rfl⟩

theorem Rested.seek (rested : Rested first counter) (timed : Bool) :
    Scramble (first ++ [.seeking (.wait timed)]) counter.line counter.permits.toNat
      (first ++ [.seeking (.wait timed)]) counter := by
  refine Scramble.start (rested.lined.append _) ?_
  intro me standing found
  rcases World.found_or_eq_of_append found with found | rfl
  · exact rested.wants found
  · exact .inr ⟨timed, rfl⟩

/-! ## A release -/

/-- Those that sleep on when a release has woken whom it wakes. -/
def Wake.spares : Wake → List ThreadId → List ThreadId
  | one, line => line.tail
  | all, _ => []

theorem Wake.spares_sublist (wake : Wake) (line : List ThreadId) : (wake.spares line).Sublist line := by
  cases wake with
  | one => exact List.tail_sublist line
  | all => exact List.nil_sublist line

theorem Wake.length_spares (wake : Wake) (line : List ThreadId) :
    line.length = (wake.spares line).length + wake.woken line.length := by
  cases wake with
  | one => simp only [spares, woken, List.length_tail]; omega
  | all => simp [spares, woken]

/-- How far a release has come that was made where everybody rested. -/
inductive Releasing (checked : Bool) (first : List Standing) (counter : Semaphore) (permits : UInt64)
    (wake : Wake) : List Standing → Semaphore → Prop where
  | adding : Releasing checked first counter permits wake (first ++ [.adding permits wake]) counter
  | broken (checks : checked = true)
      (exceeds : UInt64.size ≤ counter.permits.toNat + permits.toNat) :
      Releasing checked first counter permits wake (first ++ [.done (.fault .sumOverflow)]) counter
  | waking (fits : ¬(checked = true ∧ UInt64.size ≤ counter.permits.toNat + permits.toNat)) :
      Releasing checked first counter permits wake (first ++ [.waking wake])
        { counter with permits := counter.permits + permits }
  | scrambling (fits : ¬(checked = true ∧ UInt64.size ≤ counter.permits.toNat + permits.toNat))
      {standings : List Standing} {later : Semaphore}
      (scramble : Scramble (first ++ [.done .released]) (wake.spares counter.line)
        (counter.permits + permits).toNat standings later) :
      Releasing checked first counter permits wake standings later

theorem set_newest (new : Standing) : (first ++ [old]).set first.length new = first ++ [new] := by
  rw [List.set_append_right _ _ (Nat.le_refl _), Nat.sub_self, List.set_cons_zero]

namespace Releasing

theorem lined (rested : Rested first counter) {later : Semaphore}
    (releasing : Releasing checked first counter permits wake standings later) :
    Lined standings later := by
  cases releasing with
  | adding | broken => exact rested.lined.append _
  | waking => exact (rested.lined.append _).of_sublist _ (List.Sublist.refl _)
  | scrambling _ scramble => exact scramble.lined

theorem change (rested : Rested first counter) {later : Semaphore}
    (releasing : Releasing checked first counter permits wake standings later)
    (found : standings[me]? = some old) (awake : Awake checked me old later new changed) :
    Releasing checked first counter permits wake (standings.set me new) changed := by
  cases releasing with
  | adding =>
      obtain ⟨rfl, rfl⟩ := rested.newcomer found awake rfl
      rw [set_newest]
      rcases awake.sums permits wake rfl with ⟨rfl, rfl, checks, exceeds⟩ | ⟨rfl, rfl, fits⟩
      · exact .broken checks exceeds
      · exact .waking fits
  | broken =>
      obtain ⟨rfl, rfl⟩ := rested.newcomer found awake rfl
      cases awake.unfinished
  | waking fits =>
      obtain ⟨rfl, rfl⟩ := rested.newcomer found awake rfl
      rw [set_newest]
      cases awake.change with
      | rest => exact .waking fits
      | findNobody _ nobody =>
          have nobody : counter.line = [] := nobody
          refine .scrambling fits ?_
          have woken := rested.rouse (counter.permits + permits) .released (wake.spares_sublist counter.line)
          rw [nobody] at woken ⊢
          cases wake <;> exact woken
      | rouse => exact .scrambling fits (rested.rouse _ _ (Wake.spares_sublist .one counter.line))
      | rouseAll => exact .scrambling fits (rested.rouse _ _ (Wake.spares_sublist .all counter.line))
      | take wants | join wants => cases wants
  | scrambling fits scramble => exact .scrambling fits (scramble.change found awake)

theorem settled {later : Semaphore}
    (releasing : Releasing checked first counter permits wake standings later)
    (rested : Rested standings later) :
    (checked = true ∧ UInt64.size ≤ counter.permits.toNat + permits.toNat ∧
        standings = first ++ [.done (.fault .sumOverflow)] ∧ later = counter) ∨
      (¬(checked = true ∧ UInt64.size ≤ counter.permits.toNat + permits.toNat) ∧
        Scramble (first ++ [.done .released]) (wake.spares counter.line)
          (counter.permits + permits).toNat standings later) := by
  have resting {standing : Standing} (newest : standings = first ++ [standing]) :
      (∃ answer, standing = .done answer) ∨ ∃ timed, standing = .asleep timed ∧ first.length ∈ later.line :=
    rested.rests first.length standing (newest ▸ List.getElem?_concat_length)
  cases releasing with
  | adding => rcases resting rfl with ⟨_, same⟩ | ⟨_, same, _⟩ <;> cases same
  | waking => rcases resting rfl with ⟨_, same⟩ | ⟨_, same, _⟩ <;> cases same
  | broken checks exceeds => exact .inl ⟨checks, exceeds, rfl, rfl⟩
  | scrambling fits scramble => exact .inr ⟨fits, scramble⟩

end Releasing

/-! ## The last look -/

/-- How far a caller has come that looks at the count once more, while everybody else rests. -/
inductive GivingUp (me : ThreadId) (first : List Standing) (counter : Semaphore) :
    List Standing → Semaphore → Prop where
  | seeking : GivingUp me first counter (first.set me (.seeking .giveUp)) counter
  | took (some : counter.permits ≠ 0) : GivingUp me first counter (first.set me (.done .taken))
      { counter with permits := counter.permits - 1 }
  | refused (none : counter.permits = 0) :
      GivingUp me first counter (first.set me (.done .refused)) counter

namespace GivingUp

variable {later : Semaphore}

theorem lined (rests : Lined first counter) (outside : me ∉ counter.line)
    (givingUp : GivingUp me first counter standings later) : Lined standings later := by
  cases givingUp with
  | seeking | refused => exact rests.keep outside rfl
  | took => exact rests.keep outside rfl

theorem change (others : ∀ (other : ThreadId) (standing : Standing), other ≠ me →
      first[other]? = some standing →
        (∃ answer, standing = .done answer) ∨ ∃ timed, standing = .asleep timed ∧ other ∈ counter.line)
    (givingUp : GivingUp me first counter standings later) {other : ThreadId}
    (found : standings[other]? = some old) (awake : Awake checked other old later new changed) :
    GivingUp me first counter (standings.set other new) changed := by
  have alone {standing : Standing} {elsewhere : Semaphore}
      (found : (first.set me standing)[other]? = some old)
      (awake : Awake checked other old elsewhere new changed)
      (same : elsewhere.line = counter.line) : me = other ∧ old = standing := by
    by_cases here : me = other
    · subst here
      rw [List.getElem?_set_self'] at found
      obtain ⟨_, _, rfl⟩ := Option.map_eq_some_iff.mp found
      exact ⟨rfl, rfl⟩
    · rw [List.getElem?_set_ne here] at found
      rcases others other old (Ne.symm here) found with ⟨answer, rfl⟩ | ⟨timed, rfl, member⟩
      · cases awake.unfinished
      · exact absurd (same ▸ member) awake.outside
  cases givingUp with
  | seeking =>
      obtain ⟨rfl, rfl⟩ := alone found awake rfl
      rw [List.set_set]
      cases awake.change with
      | rest => exact .seeking
      | take _ taken =>
          obtain ⟨_, some, rfl⟩ := Semaphore.wait_taken taken
          exact .took some
      | join wants => cases wants
      | giveUp _ none => exact .refused none
  | took =>
      obtain ⟨rfl, rfl⟩ := alone found awake rfl
      cases awake.unfinished
  | refused =>
      obtain ⟨rfl, rfl⟩ := alone found awake rfl
      cases awake.unfinished

theorem settled (bound : me < first.length) (givingUp : GivingUp me first counter standings later)
    (rested : Rested standings later) :
    (counter.permits ≠ 0 ∧ standings = first.set me (.done .taken) ∧
        later = { counter with permits := counter.permits - 1 }) ∨
      (counter.permits = 0 ∧ standings = first.set me (.done .refused) ∧ later = counter) := by
  cases givingUp with
  | seeking =>
      rcases rested.rests me (.seeking .giveUp) (List.getElem?_set_self bound) with
        ⟨_, same⟩ | ⟨_, same, _⟩ <;> cases same
  | took some => exact .inl ⟨some, rfl, rfl⟩
  | refused none => exact .inr ⟨none, rfl, rfl⟩

end GivingUp

end Turnstile.Permits
