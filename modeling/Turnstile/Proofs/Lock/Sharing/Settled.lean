import Turnstile.Proofs.Lock.Sharing.Ledger
import Turnstile.Proofs.Lock.Sharing.PhaseFair
import Turnstile.Proofs.Report
import Turnstile.Proofs.Schedule

/-!
# A shared lock between two calls

Between two calls everybody has returned or is parked, and `Settled` says that the three
lines of the lock are then those of a `PhaseFair` lock and that its words are the numbers
that this one gives. A thread that is parked stays so as long as it is in its line,
whatever becomes of the words; so while a newcomer acts, the others rest.

`Arrives` says what a request has to come to, thread by thread. A writer that another one
lets through the gate moves on without an answer, from the line at the gate to the line of
those that drain.
-/

namespace Turnstile.Lock.Sharing

set_option autoImplicit false

variable {fair : PhaseFair} {outcome : Outcome} {request : Request} {lock : Sharing}
  {threads rest : List Point} {before last : World Sharing Point} {me : ThreadId}
  {point : Point} {answer : Answer} {moves : Nat}

/-- The gate is shut by the writer that is inside or drains, and the others are in its
line. A permit may be left from a time when nobody was in the line. -/
structure Gated (fair : PhaseFair) (gate : Exclusive) : Prop where
  shut : gate.word = .free ↔ fair.writer = .absent
  line : gate.parked.line = fair.writers
  contended : fair.writers ≠ [] → gate.word = .contended
  used : gate.word = .contended → gate.parked.permits = 0
  few : gate.parked.permits = 0 ∨ gate.parked.permits = 1

structure Mirrors (fair : PhaseFair) (lock : Sharing) : Prop where
  word : lock.readers.toInt = fair.word
  departing : lock.departing.toInt = fair.departing
  readers : lock.readerWait = ⟨0, fair.readers⟩
  drainer : lock.writerWait = ⟨0, fair.drainer⟩
  gate : Gated fair lock.gate

/-- The lines of the lock, whatever its words are. -/
structure Lined (fair : PhaseFair) (lock : Sharing) : Prop where
  readers : lock.readerWait.line = fair.readers
  drainer : lock.writerWait.line = fair.drainer
  writers : lock.gate.parked.line = fair.writers

theorem Mirrors.lined (mirrors : Mirrors fair lock) : Lined fair lock :=
  ⟨by rw [mirrors.readers], by rw [mirrors.drainer], mirrors.gate.line⟩

/-- A thread has returned, or is parked in its line. -/
inductive Seated (fair : PhaseFair) (me : ThreadId) : Point → Prop where
  | done (answer : Answer) : Seated fair me (.done answer)
  | reader (member : me ∈ fair.readers) : Seated fair me .sleepShared
  | drainer (member : me ∈ fair.drainer) : Seated fair me .drain
  | writer (member : me ∈ fair.writers) : Seated fair me (.gate .enter .sleep)

theorem Seated.still (seated : Seated fair me point) (lined : Lined fair lock) :
    act me point lock = none := by
  cases seated with
  | done answer => rfl
  | reader member =>
      have asleep := Semaphore.wait_asleep_iff.mpr (lined.readers ▸ member)
      simp [act, asleep]
  | drainer member =>
      have asleep := Semaphore.wait_asleep_iff.mpr (lined.drainer ▸ member)
      simp [act, asleep]
  | writer member =>
      have asleep := Semaphore.wait_asleep_iff.mpr (lined.writers ▸ member)
      simp [act, Exclusive.act, asleep]

theorem Seated.waits (seated : Seated fair me point) (waits : answer? point = none) :
    me ∈ fair.waiting := by
  cases seated with
  | done answer => cases waits
  | reader member => exact List.mem_append_left _ member
  | drainer member => exact List.mem_append_right _ (List.mem_append_left _ member)
  | writer member => exact List.mem_append_right _ (List.mem_append_right _ member)

theorem alone_of_seated (lined : Lined fair lock)
    (seated : ∀ other point, other ≠ me → threads[other]? = some point →
      Seated fair other point) : World.Alone machine me ⟨lock, threads⟩ :=
  .of_still fun other point different found => (seated other point different found).still lined

theorem alone_newest (lined : Lined fair lock)
    (seated : ∀ other point, rest[other]? = some point → Seated fair other point) (point : Point) :
    World.Alone machine rest.length ⟨lock, rest ++ [point]⟩ :=
  .newest (fun other there found => (seated other there found).still lined) point

/-- Everybody has returned or is parked. -/
structure Settled (fair : PhaseFair) (world : World Sharing Point) : Prop where
  mirrors : Mirrors fair world.shared
  sane : fair.Sane
  fits : fair.Fits
  calls : world.threads.length = fair.calls
  seated : ∀ me point, world.threads[me]? = some point → Seated fair me point
  waits : ∀ me ∈ fair.waiting, ∃ point, world.threads[me]? = some point ∧ answer? point = none

inductive Goes (outcome : Outcome) (me : ThreadId) (old : Point) : Point → Prop where
  | returns {answer : Answer} (member : (me, answer) ∈ outcome.released) :
      Goes outcome me old (.done answer)
  | stays {new : Point} (other : me ∉ outcome.released.map Prod.fst)
      (same : answer? new = answer? old) (seated : Seated outcome.fair me new) :
      Goes outcome me old new

theorem Goes.seated {old : Point} (goes : Goes outcome me old point) :
    Seated outcome.fair me point := by
  cases goes with
  | returns member => exact .done _
  | stays other same seated => exact seated

structure Arrives (before : World Sharing Point) (outcome : Outcome) (last : World Sharing Point) :
    Prop where
  mirrors : Mirrors outcome.fair last.shared
  length : last.threads.length = before.threads.length + 1
  new : ∃ point, last.threads[before.threads.length]? = some point ∧
    answer? point = outcome.answer ∧ Seated outcome.fair before.threads.length point
  old : ∀ me point, before.threads[me]? = some point →
    ∃ later, last.threads[me]? = some later ∧ Goes outcome me point later

theorem Arrives.seated (arrives : Arrives before outcome last)
    (found : last.threads[me]? = some point) : Seated outcome.fair me point := by
  obtain ⟨bound, _⟩ := List.getElem?_eq_some_iff.mp found
  rw [arrives.length] at bound
  rcases Nat.lt_succ_iff_lt_or_eq.mp bound with earlier | rfl
  · obtain ⟨later, there, goes⟩ := arrives.old me _ (List.getElem?_eq_getElem earlier)
    rw [found] at there
    cases there
    exact goes.seated
  · obtain ⟨later, there, _, seated⟩ := arrives.new
    rw [found] at there
    cases there
    exact seated

theorem Arrives.comes (arrives : Arrives before outcome last) :
    World.Comes machine (Arrives before outcome) moves last := by
  refine .of_quiet ?_ arrives
  exact World.quiet_of_still fun me point found =>
    (arrives.seated found).still arrives.mirrors.lined

namespace Settled

theorem newcomer_outside (settled : Settled fair before) :
    before.threads.length ∉ fair.waiting := by
  intro member
  exact Nat.lt_irrefl _ (settled.calls ▸ settled.sane.earlier _ member)

theorem alone (settled : Settled fair before) (lined : Lined fair lock) (point : Point) :
    World.Alone machine before.threads.length ⟨lock, before.threads ++ [point]⟩ :=
  alone_newest lined settled.seated point

theorem point_at (settled : Settled fair before) (member : me ∈ fair.waiting) :
    ∃ point, before.threads[me]? = some point ∧ answer? point = none ∧ Seated fair me point := by
  obtain ⟨point, found, waits⟩ := settled.waits me member
  exact ⟨point, found, waits, settled.seated me point found⟩

theorem reader_at (settled : Settled fair before) (member : me ∈ fair.readers) :
    before.threads[me]? = some .sleepShared := by
  obtain ⟨point, found, waits, seated⟩ := settled.point_at (List.mem_append_left _ member)
  have apart := (List.nodup_append.mp settled.sane.distinct).2.2 me member
  cases seated with
  | done => cases waits
  | reader => exact found
  | drainer listed => exact absurd rfl (apart me (List.mem_append_left _ listed))
  | writer listed => exact absurd rfl (apart me (List.mem_append_right _ listed))

theorem drainer_at (settled : Settled fair before) (member : me ∈ fair.drainer) :
    before.threads[me]? = some .drain := by
  have listed := List.mem_append_left fair.writers member
  obtain ⟨point, found, waits, seated⟩ := settled.point_at (List.mem_append_right _ listed)
  obtain ⟨_, distinct, apart⟩ := List.nodup_append.mp settled.sane.distinct
  cases seated with
  | done => cases waits
  | reader reads => exact absurd rfl (apart me reads me listed)
  | drainer => exact found
  | writer writes => exact absurd rfl ((List.nodup_append.mp distinct).2.2 me member me writes)

theorem writer_at (settled : Settled fair before) (member : me ∈ fair.writers) :
    before.threads[me]? = some (.gate .enter .sleep) := by
  have listed := List.mem_append_right fair.drainer member
  obtain ⟨point, found, waits, seated⟩ := settled.point_at (List.mem_append_right _ listed)
  obtain ⟨_, distinct, apart⟩ := List.nodup_append.mp settled.sane.distinct
  cases seated with
  | done => cases waits
  | reader reads => exact absurd rfl (apart me reads me listed)
  | drainer drains => exact absurd rfl ((List.nodup_append.mp distinct).2.2 me drains me member)
  | writer => exact found

theorem mem_waiting_iff (settled : Settled fair before) : me ∈ fair.waiting ↔
    ∃ point, before.threads[me]? = some point ∧ machine.answer? point = none := by
  constructor
  · exact settled.waits me
  · rintro ⟨point, found, waits⟩
    exact (settled.seated me point found).waits waits

theorem waited (settled : Settled fair before) (places : outcome.Places fair)
    (arrives : Arrives before outcome last) (member : (me, answer) ∈ outcome.released) :
    me ∈ fair.waiting := by
  have released := List.mem_map_of_mem (f := Prod.fst) member
  rcases List.mem_append.mp (places.subset (List.mem_append_left _ released)) with waited | new
  · exact waited
  · split at new
    · next none =>
      obtain ⟨point, _, answered, seated⟩ := arrives.new
      have waits := seated.waits (answered.trans none)
      obtain rfl := List.mem_singleton.mp new
      rw [settled.calls] at waits
      have placed := List.nodup_append.mp (settled.sane.nodup_placed places)
      exact absurd rfl (placed.2.2 _ released _ waits)
    · cases new

theorem ends (settled : Settled fair before) (places : outcome.Places fair)
    (arrives : Arrives before outcome last) :
    World.Ends machine outcome.released outcome.answer before last := by
  have once := (List.nodup_append.mp (settled.sane.nodup_placed places)).1
  refine ⟨arrives.length, ?_, ?_, ?_, once⟩
  · obtain ⟨point, found, answered, _⟩ := arrives.new
    rw [World.answer?, found]
    exact answered
  · intro me answer member
    obtain ⟨point, found, waits⟩ := settled.waits me (settled.waited places arrives member)
    obtain ⟨bound, _⟩ := List.getElem?_eq_some_iff.mp found
    refine ⟨bound, by rw [World.answer?, found]; exact waits, ?_⟩
    obtain ⟨later, there, goes⟩ := arrives.old me point found
    rw [World.answer?, there]
    cases goes with
    | returns listed =>
        cases List.inj_on_of_nodup_map once member listed rfl
        rfl
    | stays other => exact absurd (List.mem_map_of_mem (f := Prod.fst) member) other
  · intro me bound other
    have found := List.getElem?_eq_getElem bound
    obtain ⟨later, there, goes⟩ := arrives.old me _ found
    rw [World.answer?, World.answer?, there, found]
    cases goes with
    | returns listed => exact absurd (List.mem_map_of_mem (f := Prod.fst) listed) other
    | stays _ same _ => exact same

theorem waits_of_arrives (settled : Settled fair before) (places : outcome.Places fair)
    (arrives : Arrives before outcome last) (member : me ∈ outcome.fair.waiting) :
    ∃ point, last.threads[me]? = some point ∧ answer? point = none := by
  have placed := List.nodup_append.mp (settled.sane.nodup_placed places)
  rcases List.mem_append.mp (places.subset (List.mem_append_right _ member)) with waited | new
  · obtain ⟨point, found, waits⟩ := settled.waits me waited
    obtain ⟨later, there, goes⟩ := arrives.old me point found
    refine ⟨later, there, ?_⟩
    cases goes with
    | returns listed =>
        exact absurd rfl (placed.2.2 _ (List.mem_map_of_mem (f := Prod.fst) listed) _ member)
    | stays _ same _ => exact same.trans waits
  · split at new
    · next none =>
      obtain ⟨point, found, answered, _⟩ := arrives.new
      obtain rfl := List.mem_singleton.mp new
      rw [settled.calls] at found
      exact ⟨point, found, answered.trans none⟩
    · cases new

theorem serve (settled : Settled fair before) (holds : fair.Holds request)
    (fits : (fair.serve request).fair.Fits) (arrives : Arrives before (fair.handle request) last) :
    Settled (fair.serve request).fair last := by
  have places := PhaseFair.handle_places settled.sane.toStaged holds
  obtain ⟨word, departing, readers, drainer, ⟨shut, line, contended, used, few⟩⟩ := arrives.mirrors
  refine ⟨⟨word, departing, readers, drainer, ⟨shut, line, contended, used, few⟩⟩,
    settled.sane.serve holds, fits, ?_, ?_, ?_⟩
  · rw [arrives.length, settled.calls]
    rfl
  · intro me point found
    cases arrives.seated found with
    | done answer => exact .done answer
    | reader member => exact .reader member
    | drainer member => exact .drainer member
    | writer member => exact .writer member
  · intro me member
    have member : me ∈ (fair.handle request).fair.waiting := member
    exact settled.waits_of_arrives places arrives member

end Settled

end Turnstile.Lock.Sharing
