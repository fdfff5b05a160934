import Turnstile.Proofs.Lock.Sharing.Settled
import Turnstile.Proofs.Lock.Sharing.Stages

/-!
# What a request of a shared lock sets off

A newcomer acts while the others rest, until it has an answer or is parked. The lock is
then where the `PhaseFair` lock has it. A reader that leaves may let the draining writer
in, which then acts alone.
-/

namespace Turnstile.Lock.Sharing

set_option autoImplicit false

variable {fair : PhaseFair} {outcome : Outcome} {lock : Sharing} {threads rest : List Point}
  {before : World Sharing Point} {goal : World Sharing Point → Prop} {me : ThreadId}
  {point : Point} {moves : Nat}

/-! ## Actions by the numbers that the words stand for -/

theorem act_enterShared_open (clear : 0 < lock.readers.toInt) : act me .enterShared lock =
    some (.done .entered, { lock with readers := lock.readers - 1 }) := by
  have above : ¬ lock.readers < 1 := by
    rw [Int64.lt_iff_toInt_lt, Int64.toInt_one]
    omega
  rw [act, if_neg above]

theorem act_enterShared_shut (shut : lock.readers.toInt ≤ 0) : act me .enterShared lock =
    some (.sleepShared, { lock with readers := lock.readers - 1 }) := by
  have below : lock.readers < 1 := by
    rw [Int64.lt_iff_toInt_lt, Int64.toInt_one]
    omega
  rw [act, if_pos below]

theorem act_readShared_open (clear : 0 < lock.readers.toInt) :
    act me .readShared lock = some (.exchangeShared lock.readers, lock) := by
  have above : 1 ≤ lock.readers := by
    rw [Int64.le_iff_toInt_le, Int64.toInt_one]
    omega
  rw [act, afterLook, if_pos above]

theorem act_readShared_shut (shut : lock.readers.toInt ≤ 0) :
    act me .readShared lock = some (.done .refused, lock) := by
  have below : ¬ 1 ≤ lock.readers := by
    rw [Int64.le_iff_toInt_le, Int64.toInt_one]
    omega
  rw [act, afterLook, if_neg below]

theorem act_exchangeShared : act me (.exchangeShared lock.readers) lock =
    some (.done .entered, { lock with readers := lock.readers - 1 }) :=
  if_pos rfl

theorem ne_roof (below : lock.readers.toInt < roof.toInt) : lock.readers ≠ roof := by
  intro same
  rw [same] at below
  exact absurd below (Int.lt_irrefl _)

theorem act_leaveShared_open (clear : 0 ≤ lock.readers.toInt)
    (below : lock.readers.toInt < roof.toInt) : act me .leaveShared lock =
      some (.done .left, { lock with readers := lock.readers + 1 }) := by
  have above : ¬ lock.readers < 0 := by
    rw [Int64.lt_iff_toInt_lt, Int64.toInt_zero]
    omega
  rw [act, if_neg (ne_roof below), if_neg above]

theorem act_leaveShared_shut (shut : lock.readers.toInt < 0) : act me .leaveShared lock =
    some (.depart, { lock with readers := lock.readers + 1 }) := by
  have below : lock.readers < 0 := by
    rw [Int64.lt_iff_toInt_lt, Int64.toInt_zero]
    omega
  have beneath : lock.readers.toInt < roof.toInt := by
    rw [toInt_roof]
    omega
  rw [act, if_neg (ne_roof beneath), if_pos below]

theorem act_depart_last (last : lock.departing.toInt = 1) : act me .depart lock =
    some (.wakeWriter, { lock with departing := lock.departing - 1 }) := by
  have one : lock.departing = 1 := Int64.toInt_inj.mp (last.trans Int64.toInt_one.symm)
  rw [act, if_pos one]

theorem act_depart_more (more : lock.departing.toInt ≠ 1) : act me .depart lock =
    some (.done .left, { lock with departing := lock.departing - 1 }) := by
  have several : lock.departing ≠ 1 := by
    intro one
    rw [one, Int64.toInt_one] at more
    exact more rfl
  rw [act, if_neg several]

theorem act_lower_empty (empty : lock.readers.toInt = roof.toInt) : act me .lower lock =
    some (.done .entered, { lock with readers := lock.readers - roof }) := by
  have above : ¬ lock.readers < roof := by
    rw [Int64.lt_iff_toInt_lt, empty]
    exact Int.lt_irrefl _
  rw [act, afterLower, if_neg above]

theorem act_lower_found (clear : 0 ≤ lock.readers.toInt) (below : lock.readers.toInt < roof.toInt) :
    act me .lower lock =
      some (.publish (roof - lock.readers), { lock with readers := lock.readers - roof }) := by
  have beneath : lock.readers < roof := Int64.lt_iff_toInt_lt.mpr below
  have fits : ¬ Int64.maxValue.toInt < roof.toInt - lock.readers.toInt := by
    have same : Int64.maxValue.toInt = roof.toInt := rfl
    omega
  rw [act, afterLower, if_pos beneath, if_neg fits]

theorem act_publish {inside : Int64} (none : lock.departing.toInt = 0) (some : 0 < inside.toInt) :
    act me (.publish inside) lock =
      Option.some (.drain, { lock with departing := lock.departing + inside }) := by
  have upper := inside.toInt_lt
  have fits : ¬ (Int64.maxValue.toInt < inside.toInt ∨ inside.toInt < Int64.minValue.toInt) := by
    have most : Int64.maxValue.toInt = 2 ^ 63 - 1 := rfl
    have least : Int64.minValue.toInt = -2 ^ 63 := rfl
    omega
  have positive : inside.toInt ≠ 0 := by omega
  simp only [act, afterPublish, none, Int.zero_add, if_neg fits, if_neg positive]

theorem act_claim_empty (empty : lock.readers.toInt = roof.toInt) :
    act me .claim lock = some (.done .entered, { lock with readers := 0 }) :=
  if_pos (Int64.toInt_inj.mp empty)

theorem act_claim_found (below : lock.readers.toInt < roof.toInt) :
    act me .claim lock = some (.gate .giveBack .leave, lock) :=
  if_neg (ne_roof below)

theorem act_raise_nobody (nobody : lock.readers.toInt = 0) : act me .raise lock =
    some (.gate .leave .leave, { lock with readers := lock.readers + roof }) := by
  have same : lock.readers = 0 := Int64.toInt_inj.mp (nobody.trans Int64.toInt_zero.symm)
  rw [act, if_neg (by rw [same]; decide), if_neg (by rw [same]; decide)]

theorem act_raise_some (some : lock.readers.toInt < 0) : act me .raise lock =
    Option.some (.letIn (-lock.readers).toUInt64, { lock with readers := lock.readers + roof }) := by
  have below : lock.readers < 0 := by
    rw [Int64.lt_iff_toInt_lt, Int64.toInt_zero]
    omega
  have shut : ¬ 0 < lock.readers := by
    rw [Int64.lt_iff_toInt_lt, Int64.toInt_zero]
    omega
  rw [act, if_neg shut, if_pos below]

/-! ## What the words of a settled lock are -/

theorem PhaseFair.writer_cases (fair : PhaseFair) : fair.writer = .absent ∨
    fair.writer = .holding ∨ ∃ caller, fair.writer = .draining caller := by
  cases fair.writer <;> simp

theorem Writer.weight_of_ne {writer : Writer} (present : writer ≠ .absent) :
    writer.weight = roof.toInt := by
  cases writer with
  | absent => exact absurd rfl present
  | _ => rfl

namespace Settled

theorem inside_lt (settled : Settled fair before) :
    (fair.inside : Int) + fair.readers.length < roof.toInt := settled.fits

theorem word_open (settled : Settled fair before) (absent : fair.writer = .absent) :
    before.shared.readers.toInt = roof.toInt - fair.inside := by
  rw [settled.mirrors.word, PhaseFair.word, absent, (settled.sane.absent absent).1]
  simp [Writer.weight]

theorem word_shut (settled : Settled fair before) (present : fair.writer ≠ .absent) :
    before.shared.readers.toInt = -(fair.inside : Int) - fair.readers.length := by
  rw [settled.mirrors.word, PhaseFair.word, Writer.weight_of_ne present]
  omega

theorem departing_eq (settled : Settled fair before) {caller : ThreadId}
    (drains : fair.writer = .draining caller) : before.shared.departing.toInt = fair.inside := by
  rw [settled.mirrors.departing, PhaseFair.departing, drains]

end Settled

/-! ## Where the others stay -/

theorem Seated.mono {other : PhaseFair} (seated : Seated fair me point)
    (readers : me ∈ fair.readers → me ∈ other.readers)
    (drainer : me ∈ fair.drainer → me ∈ other.drainer)
    (writers : me ∈ fair.writers → me ∈ other.writers) : Seated other me point := by
  cases seated with
  | done answer => exact .done answer
  | reader member => exact .reader (readers member)
  | drainer member => exact .drainer (drainer member)
  | writer member => exact .writer (writers member)

theorem Arrives.of_threads (length : rest.length = before.threads.length)
    (mirrors : Mirrors outcome.fair lock) (answered : answer? point = outcome.answer)
    (seat : Seated outcome.fair before.threads.length point)
    (old : ∀ me point, before.threads[me]? = some point →
      ∃ later, rest[me]? = some later ∧ Goes outcome me point later) :
    Arrives before outcome ⟨lock, rest ++ [point]⟩ := by
  refine ⟨mirrors, by simp [length], ⟨point, by simp [← length], answered, seat⟩, ?_⟩
  intro me there found
  obtain ⟨later, kept, goes⟩ := old me there found
  exact ⟨later, World.found_append kept, goes⟩

theorem step_beside (fair : PhaseFair) {old new : Point} {changed : Sharing} {answer : Answer}
    (lined : Lined fair lock) (there : me < rest.length)
    (seated : ∀ other point, other ≠ me → rest[other]? = some point → Seated fair other point)
    (acted : act me old lock = some (new, changed))
    (comes : World.Comes machine goal moves ⟨changed, rest.set me new ++ [.done answer]⟩) :
    World.Comes machine goal (moves + 1) ⟨lock, rest.set me old ++ [.done answer]⟩ := by
  have alone : World.Alone machine me ⟨lock, rest.set me old ++ [.done answer]⟩ := by
    refine alone_of_seated lined fun other point different found => ?_
    rcases World.found_or_eq_of_append found with found | rfl
    · rw [List.getElem?_set_ne (Ne.symm different)] at found
      exact seated other point different found
    · exact .done answer
  have here : (rest.set me old ++ [.done answer])[me]? = some old :=
    World.found_append (World.found_set (List.getElem?_eq_getElem there))
  refine alone.comes here acted ?_
  rwa [List.set_append_left _ _ (by rwa [List.length_set]), List.set_set]

namespace Settled

theorem step (settled : Settled fair before) {old new : Point} {changed : Sharing}
    (lined : Lined fair lock) (acted : act before.threads.length old lock = some (new, changed))
    (comes : World.Comes machine goal moves ⟨changed, before.threads ++ [new]⟩) :
    World.Comes machine goal (moves + 1) ⟨lock, before.threads ++ [old]⟩ :=
  (settled.alone lined old).newcomer acted comes

theorem newcomer_comes (settled : Settled fair before) (mirrors : Mirrors outcome.fair lock)
    (answered : answer? point = outcome.answer)
    (seat : Seated outcome.fair before.threads.length point) (released : outcome.released = [])
    (kept : ∀ me point, Seated fair me point → Seated outcome.fair me point) :
    World.Comes machine (Arrives before outcome) moves ⟨lock, before.threads ++ [point]⟩ := by
  refine (Arrives.of_threads rfl mirrors answered seat ?_).comes
  intro me there found
  refine ⟨there, found, .stays ?_ rfl (kept me there (settled.seated me there found))⟩
  simp [released]

theorem newcomer_joins (settled : Settled fair before) {semaphore : Semaphore}
    {line : List ThreadId} (same : semaphore = ⟨0, line⟩)
    (outside : before.threads.length ∉ line) : semaphore.wait before.threads.length =
      .joined ⟨0, line ++ [fair.calls]⟩ := by
  subst same
  rw [← settled.calls]
  exact Semaphore.wait_of_none outside rfl

/-! ## Readers -/

theorem mirrors_reader (settled : Settled fair before) (absent : fair.writer = .absent) :
    Mirrors { fair with inside := fair.inside + 1 }
      { before.shared with readers := before.shared.readers - 1 } := by
  have word := settled.word_open absent
  have few := settled.inside_lt
  have bound := toInt_roof
  obtain ⟨same, departing, readers, drainer, ⟨shut, line, contended, used, few⟩⟩ := settled.mirrors
  refine ⟨?_, ?_, readers, drainer, ⟨shut, line, contended, used, few⟩⟩
  · have lower := toInt_sub_one before.shared.readers (by omega)
    simp only [PhaseFair.word] at same ⊢
    omega
  · rw [departing, PhaseFair.departing, PhaseFair.departing, absent]

theorem enterShared_comes (settled : Settled fair before) :
    World.Comes machine (Arrives before fair.enterShared) 2 (before.spawn .enterShared) := by
  have few := settled.inside_lt
  have lined := settled.mirrors.lined
  unfold PhaseFair.enterShared
  split
  · next absent =>
    have word := settled.word_open absent
    refine settled.step lined (act_enterShared_open (by omega)) ?_
    refine settled.newcomer_comes (settled.mirrors_reader absent) rfl (.done _) rfl ?_
    exact fun me point seated => seated.mono id id id
  · next present =>
    have word := settled.word_shut present
    have joined := settled.newcomer_joins settled.mirrors.readers fun member =>
      settled.newcomer_outside (List.mem_append_left _ member)
    refine settled.step lined (act_enterShared_shut (by omega)) ?_
    refine settled.step ⟨lined.readers, lined.drainer, lined.writers⟩
      (act_sleepShared_joined joined) ?_
    refine settled.newcomer_comes ?_ rfl (.reader (by simp [settled.calls])) rfl ?_
    · obtain ⟨same, departing, _, drainer, ⟨shut, line, contended, used, permits⟩⟩ :=
        settled.mirrors
      refine ⟨?_, departing, rfl, drainer, ⟨shut, line, contended, used, permits⟩⟩
      have bound := toInt_roof
      have lower := toInt_sub_one before.shared.readers (by omega)
      simp only [PhaseFair.word, List.length_append, List.length_singleton] at same ⊢
      omega
    · exact fun me point seated => seated.mono (List.mem_append_left _) id id

theorem tryEnterShared_comes (settled : Settled fair before) :
    World.Comes machine (Arrives before fair.tryEnterShared) 2 (before.spawn .readShared) := by
  have few := settled.inside_lt
  have lined := settled.mirrors.lined
  unfold PhaseFair.tryEnterShared
  split
  · next absent =>
    have word := settled.word_open absent
    refine settled.step lined (act_readShared_open (by omega)) ?_
    refine settled.step lined act_exchangeShared ?_
    refine settled.newcomer_comes (settled.mirrors_reader absent) rfl (.done _) rfl ?_
    exact fun me point seated => seated.mono id id id
  · next present =>
    have word := settled.word_shut present
    refine settled.step lined (act_readShared_shut (by omega)) ?_
    exact settled.newcomer_comes settled.mirrors rfl (.done _) rfl fun me point => id

theorem leaveShared_alone (settled : Settled fair before) (holds : 0 < fair.inside)
    (more : ∀ caller, fair.writer = .draining caller → fair.inside ≠ 1) :
    World.Comes machine
      (Arrives before ⟨some .left, [], { fair with inside := fair.inside - 1 }⟩) 2
      (before.spawn .leaveShared) := by
  have few := settled.inside_lt
  have lined := settled.mirrors.lined
  have bound := toInt_roof
  have stays : ∀ me point, Seated fair me point →
      Seated { fair with inside := fair.inside - 1 } me point :=
    fun me point seated => seated.mono id id id
  obtain ⟨same, departing, readers, drainer, ⟨shut, line, contended, used, permits⟩⟩ :=
    settled.mirrors
  have raised (below : before.shared.readers.toInt < roof.toInt) :
      (before.shared.readers + 1).toInt =
        ({ fair with inside := fair.inside - 1 } : PhaseFair).word := by
    have raise := toInt_add_one before.shared.readers (by omega)
    simp only [PhaseFair.word] at same ⊢
    omega
  rcases fair.writer_cases with absent | holding | ⟨caller, drains⟩
  · have word := settled.word_open absent
    refine settled.step lined (act_leaveShared_open (by omega) (by omega)) ?_
    refine settled.newcomer_comes ⟨raised (by omega), ?_, readers, drainer,
      ⟨shut, line, contended, used, permits⟩⟩ rfl (.done _) rfl stays
    rw [departing, PhaseFair.departing, PhaseFair.departing, absent]
  · have nobody := settled.sane.holding holding
    omega
  · have present : fair.writer ≠ .absent := by simp [drains]
    have word := settled.word_shut present
    have several := more caller drains
    have waited := settled.departing_eq drains
    have lower := toInt_sub_one before.shared.departing (by omega)
    refine settled.step lined (act_leaveShared_shut (by omega)) ?_
    refine settled.step ⟨lined.readers, lined.drainer, lined.writers⟩
      (act_depart_more (show before.shared.departing.toInt ≠ 1 by omega)) ?_
    refine settled.newcomer_comes ⟨raised (by omega), ?_, readers, drainer,
      ⟨shut, line, contended, used, permits⟩⟩ rfl (.done _) rfl stays
    simp only [PhaseFair.departing, drains]
    omega

theorem goes_of_set (settled : Settled fair before) {answer : Answer}
    (released : outcome.released = [(me, answer)])
    (kept : ∀ other point, other ≠ me → Seated fair other point → Seated outcome.fair other point) :
    ∀ other point, before.threads[other]? = some point →
      ∃ later, (before.threads.set me (.done answer))[other]? = some later ∧
        Goes outcome other point later := by
  intro other point found
  by_cases same : other = me
  · subst same
    exact ⟨_, World.found_set found, .returns (by simp [released])⟩
  · refine ⟨point, by rwa [List.getElem?_set_ne (Ne.symm same)], .stays ?_ rfl ?_⟩
    · simpa [released] using same
    · exact kept other point same (settled.seated other point found)

theorem leaveShared_lets_in (settled : Settled fair before) {caller : ThreadId}
    (drains : fair.writer = .draining caller) (last : fair.inside = 1) :
    World.Comes machine
      (Arrives before
        ⟨some .left, [(caller, .entered)], { fair with inside := 0, writer := .holding }⟩) 4
      (before.spawn .leaveShared) := by
  have few := settled.inside_lt
  have lined := settled.mirrors.lined
  have bound := toInt_roof
  have present : fair.writer ≠ .absent := by simp [drains]
  have word := settled.word_shut present
  have waited := settled.departing_eq drains
  have lower := toInt_sub_one before.shared.departing (by omega)
  have raise := toInt_add_one before.shared.readers (by omega)
  have line : fair.drainer = [caller] := by rw [PhaseFair.drainer, drains]
  have found := settled.drainer_at (line ▸ List.mem_singleton_self caller)
  obtain ⟨there, _⟩ := List.getElem?_eq_some_iff.mp found
  have kept : ∀ other point, other ≠ caller → Seated fair other point →
      Seated { fair with inside := 0, writer := .holding } other point := by
    intro other point different seated
    refine seated.mono id (fun member => ?_) id
    exact absurd (List.mem_singleton.mp (line ▸ member)) different
  obtain ⟨_, _, readers, drainer, ⟨shut, writers, contended, used, permits⟩⟩ := settled.mirrors
  have posted : before.shared.writerWait.post = ⟨1, []⟩ := by
    rw [drainer, line]
    rfl
  have taken : Semaphore.wait caller before.shared.writerWait.post = .taken ⟨0, []⟩ := by
    rw [posted]
    exact Semaphore.wait_of_some List.not_mem_nil (by decide)
  refine settled.step lined (act_leaveShared_shut (by omega)) ?_
  refine settled.step ⟨lined.readers, lined.drainer, lined.writers⟩
    (act_depart_last (show before.shared.departing.toInt = 1 by omega)) ?_
  refine settled.step ⟨lined.readers, lined.drainer, lined.writers⟩ rfl ?_
  rw [← World.set_self found]
  refine step_beside { fair with inside := 0, writer := .holding }
    ⟨lined.readers, ?_, lined.writers⟩ there ?_ (act_drain_taken taken) ?_
  · rw [posted]
    rfl
  · intro other point different there
    exact kept other point different (settled.seated other point there)
  · refine Arrives.comes (.of_threads List.length_set ⟨?_, ?_, readers, rfl,
      ⟨?_, writers, contended, used, permits⟩⟩ rfl (.done _) ?_)
    · simp only [PhaseFair.word, Writer.weight]
      omega
    · simp only [PhaseFair.departing]
      omega
    · simpa [drains] using shut
    · exact settled.goes_of_set rfl kept

theorem leaveShared_comes (settled : Settled fair before) (holds : 0 < fair.inside) :
    World.Comes machine (Arrives before fair.leaveShared) 4 (before.spawn .leaveShared) := by
  unfold PhaseFair.leaveShared
  split
  · next caller drains last => exact settled.leaveShared_lets_in drains last
  · next more =>
    exact (settled.leaveShared_alone holds more).mono (by decide)

/-! ## Writers -/

theorem mirrors_writer (settled : Settled fair before) (absent : fair.writer = .absent)
    (nobody : fair.inside = 0) {readers : Int64} (word : readers.toInt = 0) :
    Mirrors { fair with writer := .holding }
      { before.shared with readers, gate.word := .held } := by
  obtain ⟨noReaders, noWriters⟩ := settled.sane.absent absent
  obtain ⟨_, departing, waiting, drainer, ⟨_, line, _, _, permits⟩⟩ := settled.mirrors
  refine ⟨?_, ?_, waiting, ?_, ⟨by simp, line, ?_, by simp, permits⟩⟩
  · simp only [PhaseFair.word, Writer.weight, word, nobody, noReaders, List.length_nil]
    omega
  · rw [departing, PhaseFair.departing, PhaseFair.departing, absent]
  · rw [drainer, PhaseFair.drainer, PhaseFair.drainer, absent]
  · exact fun some => absurd noWriters some

theorem no_drainer (absent : fair.writer = .absent) : fair.drainer = [] := by
  rw [PhaseFair.drainer, absent]

theorem lower_comes (settled : Settled fair before) (absent : fair.writer = .absent)
    (some : fair.inside ≠ 0) :
    World.Comes machine
      (Arrives before ⟨none, [], { fair with writer := .draining fair.calls }⟩) 3
      ⟨{ before.shared with gate.word := .held }, before.threads ++ [.lower]⟩ := by
  have few := settled.inside_lt
  have lined := settled.mirrors.lined
  have bound := toInt_roof
  have word := settled.word_open absent
  have found := toInt_roof_sub before.shared.readers (by omega)
  have lowered := toInt_sub_roof before.shared.readers (by omega)
  obtain ⟨noReaders, noWriters⟩ := settled.sane.absent absent
  have joined := settled.newcomer_joins settled.mirrors.drainer (by simp [no_drainer absent])
  obtain ⟨_, departing, waiting, _, ⟨_, line, _, _, permits⟩⟩ := settled.mirrors
  simp only [PhaseFair.departing, absent] at departing
  refine settled.step ⟨lined.readers, lined.drainer, lined.writers⟩
    (act_lower_found (show 0 ≤ before.shared.readers.toInt by omega)
      (show before.shared.readers.toInt < _ by omega)) ?_
  refine settled.step ⟨lined.readers, lined.drainer, lined.writers⟩
    (act_publish departing (show 0 < (roof - before.shared.readers).toInt by omega)) ?_
  refine settled.step ⟨lined.readers, lined.drainer, lined.writers⟩ (act_drain_joined joined) ?_
  refine settled.newcomer_comes ⟨?_, ?_, waiting, ?_, ⟨by simp, line, ?_, by simp, permits⟩⟩ rfl
    (.drainer (by simp [PhaseFair.drainer, settled.calls])) rfl ?_
  · simp only [PhaseFair.word, Writer.weight, noReaders, List.length_nil]
    omega
  · have published := toInt_add_of_fits before.shared.departing (roof - before.shared.readers)
      (by omega) (by omega)
    simp only [PhaseFair.departing]
    omega
  · rw [no_drainer absent]
    rfl
  · exact fun some => absurd noWriters some
  · exact fun me point seated => seated.mono id (by simp [no_drainer absent]) id

theorem sleep_comes (settled : Settled fair before) (present : fair.writer ≠ .absent)
    {parked : Semaphore} (line : parked.line = fair.writers) (idle : parked.permits = 0) :
    World.Comes machine
      (Arrives before ⟨none, [], { fair with writers := fair.writers ++ [fair.calls] }⟩) 1
      ⟨{ before.shared with gate := ⟨.contended, parked⟩ },
        before.threads ++ [.gate .enter .sleep]⟩ := by
  have lined := settled.mirrors.lined
  have same : parked = ⟨0, fair.writers⟩ := by
    rw [← line, ← idle]
  have joined := settled.newcomer_joins same fun member =>
    settled.newcomer_outside (List.mem_append_right _ (List.mem_append_right _ member))
  have acts : Exclusive.act before.threads.length .sleep ⟨.contended, parked⟩ =
      some (.sleep, ⟨.contended, ⟨0, fair.writers ++ [fair.calls]⟩⟩) := by
    simp only [Exclusive.act, joined]
  obtain ⟨word, departing, waiting, drainer, _⟩ := settled.mirrors
  refine settled.step ⟨lined.readers, lined.drainer, line⟩ (act_of_gate .enter acts) ?_
  refine settled.newcomer_comes ⟨word, departing, waiting, drainer,
    ⟨by simp [present], rfl, fun _ => rfl, fun _ => rfl, .inl rfl⟩⟩ rfl ?_ rfl ?_
  · exact .writer (by simp [settled.calls])
  · exact fun me point seated => seated.mono id id (List.mem_append_left _)

theorem enterExclusive_comes (settled : Settled fair before) :
    World.Comes machine (Arrives before fair.enterExclusive) 5
      (before.spawn (.gate .enter .enter)) := by
  have lined := settled.mirrors.lined
  have shut := settled.mirrors.gate.shut
  unfold PhaseFair.enterExclusive
  split
  · next absent =>
    have word := settled.word_open absent
    have acts : Exclusive.act before.threads.length .enter before.shared.gate =
        some (.done .entered, { before.shared.gate with word := .held }) := by
      rw [Exclusive.act, if_pos (shut.mpr absent)]
    refine settled.step lined (act_of_gate .enter acts) ?_
    split
    · next nobody =>
      have empty : before.shared.readers.toInt = roof.toInt := by omega
      have bound := toInt_roof
      have lowered := toInt_sub_roof before.shared.readers (by omega)
      have none : (before.shared.readers - roof).toInt = 0 := by omega
      refine settled.step ⟨lined.readers, lined.drainer, lined.writers⟩
        (act_lower_empty empty) ?_
      refine settled.newcomer_comes (settled.mirrors_writer absent nobody none) rfl (.done _) rfl
        ?_
      exact fun me point seated => seated.mono id (by simp [no_drainer absent]) id
    · next some => exact (settled.lower_comes absent some).mono (by decide)
  · next present =>
    have busy : before.shared.gate.word ≠ .free := fun free => present (shut.mp free)
    have line := settled.mirrors.gate.line
    have hides : Exclusive.act before.threads.length .enter before.shared.gate =
        some (.contend, { before.shared.gate with word := .held }) := by
      rw [Exclusive.act, if_neg busy]
    refine settled.step lined (act_of_gate .enter hides) ?_
    refine settled.step ⟨lined.readers, lined.drainer, line⟩ (act_of_gate .enter rfl) ?_
    rcases settled.mirrors.gate.few with idle | left
    · exact (settled.sleep_comes present line idle).mono (by decide)
    · have outside : before.threads.length ∉ before.shared.gate.parked.line := by
        rw [line]
        exact fun member =>
          settled.newcomer_outside (List.mem_append_right _ (List.mem_append_right _ member))
      have taken := Semaphore.wait_of_some outside (by rw [left]; decide)
      have acts : Exclusive.act before.threads.length .sleep
          ⟨.contended, before.shared.gate.parked⟩ =
            some (.contend, ⟨.contended, ⟨before.shared.gate.parked.permits - 1,
              before.shared.gate.parked.line⟩⟩) := by
        simp only [Exclusive.act, taken]
      refine settled.step ⟨lined.readers, lined.drainer, line⟩ (act_of_gate .enter acts) ?_
      refine settled.step ⟨lined.readers, lined.drainer, line⟩ (act_of_gate .enter rfl) ?_
      exact settled.sleep_comes present line (by rw [left]; rfl)

theorem tryEnterExclusive_comes (settled : Settled fair before) :
    World.Comes machine (Arrives before fair.tryEnterExclusive) 3
      (before.spawn (.gate .tryEnter .tryEnter)) := by
  have lined := settled.mirrors.lined
  have shut := settled.mirrors.gate.shut
  unfold PhaseFair.tryEnterExclusive
  split
  · next absent =>
    have few := settled.inside_lt
    have bound := toInt_roof
    have word := settled.word_open absent
    have acts : Exclusive.act before.threads.length .tryEnter before.shared.gate =
        some (.done .entered, { before.shared.gate with word := .held }) := by
      rw [Exclusive.act, if_pos (shut.mpr absent)]
    refine settled.step lined (act_of_gate .tryEnter acts) ?_
    split
    · next nobody =>
      refine settled.step ⟨lined.readers, lined.drainer, lined.writers⟩
        (act_claim_empty (show before.shared.readers.toInt = roof.toInt by omega)) ?_
      refine settled.newcomer_comes (settled.mirrors_writer absent nobody Int64.toInt_zero) rfl
        (.done _) rfl ?_
      exact fun me point seated => seated.mono id (by simp [no_drainer absent]) id
    · next some =>
      refine settled.step ⟨lined.readers, lined.drainer, lined.writers⟩
        (act_claim_found (show before.shared.readers.toInt < roof.toInt by omega)) ?_
      refine settled.step ⟨lined.readers, lined.drainer, lined.writers⟩
        (act_of_gate .giveBack rfl) ?_
      obtain ⟨word, departing, waiting, drainer, ⟨_, line, contended, _, permits⟩⟩ :=
        settled.mirrors
      refine settled.newcomer_comes ⟨word, departing, waiting, drainer,
        ⟨by simp [absent], line, ?_, by simp, permits⟩⟩ rfl (.done _) rfl fun me point => id
      exact fun some => absurd (settled.sane.absent absent).2 some
  · next present =>
    have busy : before.shared.gate.word ≠ .free := fun free => present (shut.mp free)
    have acts : Exclusive.act before.threads.length .tryEnter before.shared.gate =
        some (.done .refused, before.shared.gate) := by
      rw [Exclusive.act, if_neg busy]
    refine settled.step lined (act_of_gate .tryEnter acts) ?_
    exact settled.newcomer_comes settled.mirrors rfl (.done _) rfl fun me point => id

end Settled

end Turnstile.Lock.Sharing
