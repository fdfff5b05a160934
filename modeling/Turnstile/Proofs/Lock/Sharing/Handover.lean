import Turnstile.Proofs.Lock.Sharing.Arrivals
import Turnstile.Proofs.Lock.Sharing.Rising

/-!
# A writer leaves

A writer that leaves lets in the readers that wait and then opens the gate, where the
first of the other writers wakes up. The readers rise meanwhile, in an order that does not
matter, so the rest is told as if they were in: the next writer finds just these readers
inside and drains them, or comes in at once if there are none.
-/

namespace Turnstile.Lock.Sharing

set_option autoImplicit false

open World (total)

variable {fair : PhaseFair} {outcome : Outcome} {before : World Sharing Point}
  {goal : World Sharing Point → Prop} {me writer : ThreadId} {point : Point} {moves : Nat}
  {more : List ThreadId}

/-- The lock while the gate is opened: all readers are in, and so many writers wait. -/
def opening (fair : PhaseFair) (writers : List ThreadId) : PhaseFair :=
  { fair with inside := fair.readers.length, readers := [], writer := .absent, writers }

namespace Settled

theorem total_asleep (settled : Settled fair before) :
    total asleep before.threads = fair.readers.length := by
  have distinct := (List.nodup_append.mp settled.sane.distinct).1
  refine Nat.le_antisymm (World.total_le_length fun me point found sleeps => ?_)
    (World.length_le_total distinct fun me member =>
      ⟨_, settled.reader_at member, Nat.one_pos⟩)
  cases settled.seated me point found with
  | reader member => exact ⟨rfl, member⟩
  | _ => cases sleeps

theorem aside (settled : Settled fair before) (member : point ∈ before.threads) :
    Aside point := by
  obtain ⟨me, found⟩ := List.mem_iff_getElem?.mp member
  cases settled.seated me point found <;> trivial

theorem rise_cases (settled : Settled fair before) (found : before.threads[me]? = some point) :
    (me ∈ fair.readers ∧ rise point = .done .entered) ∨
      (me ∉ fair.readers ∧ rise point = point) := by
  by_cases member : me ∈ fair.readers
  · rw [settled.reader_at member] at found
    cases found
    exact .inl ⟨member, rfl⟩
  · refine .inr ⟨member, ?_⟩
    cases settled.seated me point found with
    | reader reads => exact absurd reads member
    | _ => rfl

theorem raise_comes (settled : Settled fair before) (holds : fair.writer = .holding)
    (comes : ∀ readers : Int64, readers.toInt = roof.toInt - fair.readers.length →
      World.Comes machine goal moves
        ⟨{ before.shared with readers, readerWait := .empty },
          before.threads.map rise ++ [.gate .leave .leave]⟩) :
    World.Comes machine goal (moves + fair.readers.length + 2) (before.spawn .raise) := by
  have few := settled.inside_lt
  have lined := settled.mirrors.lined
  have bound := toInt_roof
  have nobody := settled.sane.holding holds
  have word := settled.word_shut (by simp [holds])
  have opened : ∀ (readers : Int64) (readerWait : Semaphore),
      readers = before.shared.readers + roof → readerWait.line = [] →
      readerWait.permits.toNat = fair.readers.length →
      World.Comes machine goal (moves + fair.readers.length)
        ⟨{ before.shared with readers, readerWait }, before.threads ++ [.gate .leave .leave]⟩ := by
    intro readers readerWait same line permits
    have raised := toInt_add_roof before.shared.readers (by omega)
    rw [← same] at raised
    have total : total asleep (before.threads ++ [.gate .leave .leave]) = fair.readers.length := by
      rw [World.total_append, settled.total_asleep]
      rfl
    refine Rising.comes_of_risen ⟨?_, line, permits.trans total.symm⟩ ?_
      (Nat.le_of_eq (congrArg (moves + ·) total))
    · intro point member
      rcases List.mem_append.mp member with member | member
      · exact settled.aside member
      · rw [List.mem_singleton.mp member]
        trivial
    · rw [risen, List.map_append]
      exact comes readers (by omega)
  rcases Nat.eq_zero_or_pos fair.readers.length with none | some
  · refine (settled.step lined (act_raise_nobody (by omega)) ?_).mono (Nat.le_succ _)
    refine opened _ _ rfl ?_ ?_
    · rw [settled.mirrors.readers]
      exact List.length_eq_zero_iff.mp none
    · rw [settled.mirrors.readers, none]
      rfl
  · have deficit := toNat_deficit before.shared.readers (by omega) (by omega)
    have several : (-before.shared.readers).toUInt64 ≠ 0 := by
      intro zero
      rw [zero, UInt64.toNat_zero] at deficit
      omega
    refine settled.step lined (act_raise_some (by omega)) ?_
    refine settled.step ⟨lined.readers, lined.drainer, lined.writers⟩ rfl ?_
    refine opened _ _ rfl ?_ ?_
    · rw [Semaphore.postMany, if_neg several]
    · have idle : before.shared.readerWait.permits.toNat = 0 := by
        rw [settled.mirrors.readers]
        rfl
      have size : UInt64.size = 2 ^ 64 := rfl
      have posted := Semaphore.toNat_permits_postMany (-before.shared.readers).toUInt64
        (show before.shared.readerWait.permits.toNat + _ < UInt64.size by rw [idle]; omega)
      refine posted.trans ?_
      omega

theorem no_drainer_of_holding (holds : fair.writer = .holding) : fair.drainer = [] := by
  rw [PhaseFair.drainer, holds]

theorem opening_lined (settled : Settled fair before) (holds : fair.writer = .holding)
    {readers departing : Int64} {gate : Exclusive} {writers : List ThreadId}
    (line : gate.parked.line = writers) :
    Lined (opening fair writers)
      { before.shared with readers, departing, gate, readerWait := .empty } := by
  refine ⟨rfl, ?_, line⟩
  rw [settled.mirrors.drainer, no_drainer_of_holding holds]
  rfl

theorem stays_at_opening (holds : fair.writer = .holding) (seated : Seated fair me point)
    (outside : me ∉ fair.readers) (listed : me ∈ fair.writers → me ∈ more) :
    Seated (opening fair more) me point :=
  seated.mono (fun reads => absurd reads outside) (by simp [no_drainer_of_holding holds]) listed

theorem opening_seated (settled : Settled fair before) (holds : fair.writer = .holding)
    (found : (before.threads.map rise)[me]? = some point)
    (listed : me ∈ fair.writers → me ∈ more) : Seated (opening fair more) me point := by
  rw [List.getElem?_map, Option.map_eq_some_iff] at found
  obtain ⟨old, found, rfl⟩ := found
  rcases settled.rise_cases found with ⟨_, risen⟩ | ⟨outside, stays⟩
  · rw [risen]
    exact .done _
  · rw [stays]
    exact stays_at_opening holds (settled.seated me old found) outside listed

theorem goes_of_rise (settled : Settled fair before) (found : before.threads[me]? = some point)
    (returns : me ∈ fair.readers → (me, Answer.entered) ∈ outcome.released)
    (other : me ∉ fair.readers → me ∉ outcome.released.map Prod.fst)
    (kept : me ∉ fair.readers → Seated fair me point → Seated outcome.fair me point) :
    Goes outcome me point (rise point) := by
  rcases settled.rise_cases found with ⟨member, risen⟩ | ⟨outside, stays⟩
  · rw [risen]
    exact .returns (returns member)
  · rw [stays]
    exact .stays (other outside) rfl (kept outside (settled.seated me point found))

theorem mem_entered {readers : List ThreadId} :
    me ∈ (readers.map fun reader => (reader, Answer.entered)).map Prod.fst ↔ me ∈ readers := by
  simp [Function.comp_def]

theorem opened_comes (settled : Settled fair before) (holds : fair.writer = .holding)
    (nobody : fair.writers = []) {readers : Int64}
    (word : readers.toInt = roof.toInt - fair.readers.length) {gate : Exclusive}
    (free : gate.word = .free) (line : gate.parked.line = [])
    (permits : gate.parked.permits = 0 ∨ gate.parked.permits = 1) :
    World.Comes machine
      (Arrives before
        ⟨some .left, fair.readers.map fun reader => (reader, .entered), opening fair []⟩) moves
      ⟨{ before.shared with readers, gate, readerWait := .empty },
        before.threads.map rise ++ [.done .left]⟩ := by
  have departing := settled.mirrors.departing
  simp only [PhaseFair.departing, holds] at departing
  refine Arrives.comes (.of_threads (List.length_map _) ⟨?_, departing, rfl, ?_, ⟨?_, line, ?_, ?_, permits⟩⟩
    rfl (.done _) ?_)
  · simp only [PhaseFair.word, opening, Writer.weight, List.length_nil]
    omega
  · rw [settled.mirrors.drainer, no_drainer_of_holding holds]
    rfl
  · simp [free, opening]
  · simp [opening]
  · simp [free]
  · intro me point found
    refine ⟨_, by rw [List.getElem?_map, found]; rfl, settled.goes_of_rise found ?_ ?_ ?_⟩
    · exact fun member => List.mem_map_of_mem member
    · exact fun outside member => outside (mem_entered.mp member)
    · intro outside seated
      exact stays_at_opening holds seated outside fun writes => absurd (nobody ▸ writes) List.not_mem_nil

theorem goes_handed {new : Point} (first : before.threads[writer]? = some (.gate .enter .sleep))
    (goes : Goes outcome writer (.gate .enter .sleep) new)
    (others : ∀ me point, me ≠ writer → before.threads[me]? = some point →
      Goes outcome me point (rise point)) :
    ∀ me point, before.threads[me]? = some point →
      ∃ later, ((before.threads.map rise).set writer new)[me]? = some later ∧
        Goes outcome me point later := by
  intro me point found
  by_cases same : me = writer
  · subst same
    rw [first] at found
    cases found
    have here : (before.threads.map rise)[me]? = some (.gate .enter .sleep) := by
      simp [first, rise]
    exact ⟨new, World.found_set here, goes⟩
  · refine ⟨rise point, ?_, others me point same found⟩
    rw [List.getElem?_set_ne (Ne.symm same), List.getElem?_map, found]
    rfl

theorem handed_seated (settled : Settled fair before) (holds : fair.writer = .holding)
    (writers : fair.writers = writer :: more) :
    ∀ other point, other ≠ writer → (before.threads.map rise)[other]? = some point →
      Seated (opening fair more) other point := by
  intro other point different found
  refine settled.opening_seated holds found fun listed => ?_
  rw [writers] at listed
  exact List.mem_of_ne_of_mem different listed

theorem handed_at (settled : Settled fair before) (writers : fair.writers = writer :: more) :
    before.threads[writer]? = some (.gate .enter .sleep) ∧
      writer < (before.threads.map rise).length := by
  have found := settled.writer_at (writers ▸ List.mem_cons_self : writer ∈ fair.writers)
  obtain ⟨there, _⟩ := List.getElem?_eq_some_iff.mp found
  exact ⟨found, by rwa [List.length_map]⟩

/-- The lock when the first writer has passed the gate. -/
def passed (lock : Sharing) (readers : Int64) (more : List ThreadId) : Sharing :=
  { lock with readers, gate := ⟨.contended, ⟨0, more⟩⟩, readerWait := .empty }

theorem succeeds_comes (settled : Settled fair before) (holds : fair.writer = .holding)
    (writers : fair.writers = writer :: more) (none : fair.readers = []) {readers : Int64}
    (word : readers.toInt = roof.toInt) :
    World.Comes machine
      (Arrives before ⟨some .left, [(writer, .entered)], { fair with writers := more }⟩) 1
      ⟨passed before.shared readers more,
        (before.threads.map rise).set writer .lower ++ [.done .left]⟩ := by
  have nobody := settled.sane.holding holds
  have bound := toInt_roof
  have lowered := toInt_sub_roof readers (by omega)
  obtain ⟨first, there⟩ := settled.handed_at writers
  have seated := settled.handed_seated holds writers
  obtain ⟨_, departing, _, drainer, _⟩ := settled.mirrors
  refine step_beside _ (settled.opening_lined holds rfl) there seated (act_lower_empty word) ?_
  refine Arrives.comes (.of_threads (by simp) ⟨?_, departing, ?_, drainer,
    ⟨by simp [passed, holds], rfl, fun _ => rfl, fun _ => rfl, .inl rfl⟩⟩ rfl (.done _) ?_)
  · simp only [passed, PhaseFair.word, holds, Writer.weight, nobody, none, List.length_nil]
    omega
  · rw [none]
    rfl
  · refine goes_handed first (.returns (List.mem_singleton_self _)) fun me point other found => ?_
    refine settled.goes_of_rise found ?_ ?_ ?_
    · simp [none]
    · exact fun _ => by simpa using other
    · intro _ seated
      refine seated.mono id id fun listed => ?_
      rw [writers] at listed
      exact List.mem_of_ne_of_mem other listed

theorem drains_comes (settled : Settled fair before) (holds : fair.writer = .holding)
    (writers : fair.writers = writer :: more) (several : fair.readers ≠ []) {readers : Int64}
    (word : readers.toInt = roof.toInt - fair.readers.length) :
    World.Comes machine
      (Arrives before
        ⟨some .left, fair.readers.map fun reader => (reader, .entered),
          { opening fair more with writer := .draining writer }⟩) 3
      ⟨passed before.shared readers more,
        (before.threads.map rise).set writer .lower ++ [.done .left]⟩ := by
  have few := settled.inside_lt
  have nobody := settled.sane.holding holds
  have bound := toInt_roof
  have positive := List.length_pos_iff.mpr several
  have found := toInt_roof_sub readers (by omega)
  have lowered := toInt_sub_roof readers (by omega)
  obtain ⟨first, there⟩ := settled.handed_at writers
  have seated := settled.handed_seated holds writers
  have joined : Semaphore.wait writer before.shared.writerWait = .joined ⟨0, [writer]⟩ := by
    rw [settled.mirrors.drainer, no_drainer_of_holding holds]
    exact Semaphore.wait_of_none List.not_mem_nil rfl
  have departing := settled.mirrors.departing
  simp only [PhaseFair.departing, holds] at departing
  refine step_beside _ (settled.opening_lined holds rfl) there seated
    (act_lower_found (show 0 ≤ readers.toInt by omega) (show readers.toInt < roof.toInt by omega)) ?_
  refine step_beside _ (settled.opening_lined holds rfl) there seated
    (act_publish departing (show 0 < (roof - readers).toInt by omega)) ?_
  refine step_beside _ (settled.opening_lined holds rfl) there seated (act_drain_joined joined) ?_
  refine Arrives.comes (.of_threads (by simp) ⟨?_, ?_, rfl, rfl,
    ⟨by simp [passed], rfl, fun _ => rfl, fun _ => rfl, .inl rfl⟩⟩ rfl (.done _) ?_)
  · simp only [passed, opening, PhaseFair.word, Writer.weight, List.length_nil]
    omega
  · have published := toInt_add_of_fits before.shared.departing (roof - readers)
      (by omega) (by omega)
    simp only [passed, opening, PhaseFair.departing]
    omega
  · have outside : writer ∉ fair.readers := fun reads =>
      (List.nodup_append.mp settled.sane.distinct).2.2 writer reads writer
        (List.mem_append_right _ (writers ▸ List.mem_cons_self)) rfl
    refine goes_handed first (.stays (fun member => outside (mem_entered.mp member)) rfl
      (.drainer (List.mem_singleton_self writer))) fun me point other found => ?_
    refine settled.goes_of_rise found ?_ ?_ ?_
    · exact fun member => List.mem_map_of_mem member
    · exact fun outside member => outside (mem_entered.mp member)
    · intro outside seated
      refine seated.mono (fun reads => absurd reads outside) ?_ fun listed => ?_
      · simp [no_drainer_of_holding holds]
      · rw [writers] at listed
        exact List.mem_of_ne_of_mem other listed

theorem handed_comes (settled : Settled fair before) (holds : fair.writer = .holding)
    (writers : fair.writers = writer :: more) {readers : Int64}
    (word : readers.toInt = roof.toInt - fair.readers.length) {gate : Exclusive}
    (opened : gate = ⟨.free, ⟨1, more⟩⟩) :
    World.Comes machine (Arrives before fair.leaveExclusive) 5
      ⟨{ before.shared with readers, gate, readerWait := .empty },
        before.threads.map rise ++ [.done .left]⟩ := by
  subst opened
  have distinct : (writer :: more).Nodup := by
    rw [← writers]
    exact (List.nodup_append.mp (List.nodup_append.mp settled.sane.distinct).2.1).2.1
  obtain ⟨outside, _⟩ := List.nodup_cons.mp distinct
  obtain ⟨first, there⟩ := settled.handed_at writers
  have seated := settled.handed_seated holds writers
  have here : (before.threads.map rise)[writer]? = some (.gate .enter .sleep) := by
    simp [first, rise]
  have lined : ∀ (word : Word) (permits : UInt64),
      Lined (opening fair more)
        { before.shared with readers, gate := ⟨word, ⟨permits, more⟩⟩, readerWait := .empty } :=
    fun word permits => settled.opening_lined holds rfl
  have wakes : Exclusive.act writer .sleep ⟨.free, ⟨1, more⟩⟩ =
      some (.contend, ⟨.free, ⟨0, more⟩⟩) := by
    have taken : Semaphore.wait writer ⟨1, more⟩ = .taken ⟨1 - 1, more⟩ :=
      Semaphore.wait_of_some outside (show (1 : UInt64) ≠ 0 by decide)
    simp only [Exclusive.act, taken]
    rfl
  rw [← World.set_self here]
  refine step_beside _ (lined _ _) there seated (act_of_gate .enter wakes) ?_
  refine step_beside _ (lined _ _) there seated (act_of_gate .enter rfl) ?_
  simp only [PhaseFair.leaveExclusive, writers]
  split
  · next none =>
    refine (settled.succeeds_comes holds writers none ?_).mono (by decide)
    rw [word, none]
    simp
  · next several => exact settled.drains_comes holds writers several word

theorem opening_step (settled : Settled fair before) (holds : fair.writer = .holding)
    {readers : Int64} {gate : Exclusive} {old new : Point} {changed : Sharing}
    (line : gate.parked.line = fair.writers)
    (acted : act (before.threads.map rise).length old
      { before.shared with readers, gate, readerWait := .empty } = some (new, changed))
    (comes : World.Comes machine goal moves ⟨changed, before.threads.map rise ++ [new]⟩) :
    World.Comes machine goal (moves + 1)
      ⟨{ before.shared with readers, gate, readerWait := .empty },
        before.threads.map rise ++ [old]⟩ := by
  have seated : ∀ other point, (before.threads.map rise)[other]? = some point →
      Seated (opening fair fair.writers) other point :=
    fun other point found => settled.opening_seated holds found id
  exact (alone_newest (settled.opening_lined holds line) seated old).newcomer acted comes

theorem leaveExclusive_comes (settled : Settled fair before) (holds : fair.writer = .holding) :
    World.Comes machine (Arrives before fair.leaveExclusive) (7 + fair.readers.length + 2)
      (before.spawn .raise) := by
  refine settled.raise_comes holds fun readers word => ?_
  have unfolds : fair.writers = [] → fair.leaveExclusive =
      ⟨some .left, fair.readers.map fun reader => (reader, .entered), opening fair []⟩ := by
    intro nobody
    simp only [PhaseFair.leaveExclusive, nobody, opening]
  obtain ⟨shut, line, contended, used, permits⟩ := settled.mirrors.gate
  by_cases others : before.shared.gate.word = .contended
  · have idle := used others
    have acts : Exclusive.act (before.threads.map rise).length .leave before.shared.gate =
        some (.wake, { before.shared.gate with word := .free }) := by
      simp only [Exclusive.act, others]
    refine settled.opening_step holds line (act_of_gate .leave acts) ?_
    refine settled.opening_step holds line (act_of_gate .leave rfl) ?_
    have posted : before.shared.gate.parked.post = ⟨1, fair.writers.tail⟩ := by
      rw [Semaphore.post, idle, line]
      rfl
    cases writers : fair.writers with
    | nil =>
      rw [unfolds writers]
      refine settled.opened_comes holds writers word rfl ?_ (.inr ?_)
      · rw [posted, writers]
        rfl
      · rw [posted]
    | cons writer more =>
      refine settled.handed_comes holds writers word ?_
      rw [posted, writers]
      rfl
  · have nobody : fair.writers = [] := by
      by_contra some
      exact others (contended some)
    have held : before.shared.gate.word = .held := by
      cases word : before.shared.gate.word with
      | free => simp [shut.mp word] at holds
      | held => rfl
      | contended => exact absurd word others
    have acts : Exclusive.act (before.threads.map rise).length .leave before.shared.gate =
        some (.done .left, { before.shared.gate with word := .free }) := by
      simp only [Exclusive.act, held]
    refine settled.opening_step holds line (act_of_gate .leave acts) ?_
    rw [unfolds nobody]
    exact settled.opened_comes holds nobody word rfl (line.trans nobody) permits

end Settled

end Turnstile.Lock.Sharing
