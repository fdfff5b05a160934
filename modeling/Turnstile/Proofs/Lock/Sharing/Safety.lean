import Turnstile.Proofs.Lock.Sharing.Stages

/-!
# A shared lock keeps writers apart from everybody else

Seen from the gate, a run of the shared lock is a run of a lock of one word, so
that at most one thread is between the two passages of the gate. From that and
from what the words count follows the rest: nobody is inside beside a writer, no
check fails, and whoever is left parked when nothing moves is parked behind
somebody that is inside.
-/

namespace Turnstile.Lock.Sharing

set_option autoImplicit false

open World (total)
open Usage (Crowd Run crowd)

/-- What a thread adds to the number of readers at once: those that are inside, and
those that wait to be let in. -/
def reader (stage : Stage Point) : Nat := Role.reads (role stage) + Role.waits (role stage)

/-- There are fewer readers at once than the word can count. -/
def ReadersFit (world : Crowd kind) : Prop := total reader world.threads < roof.toInt

instance : DecidablePred ReadersFit := fun world =>
  inferInstanceAs (Decidable ((total reader world.threads : Int) < roof.toInt))

/-- The gate and its users. -/
def gateCrowd (world : Crowd kind) : Crowd Exclusive.kind :=
  ⟨world.shared.gate, world.threads.map atTheGate⟩

structure Kept (world : Crowd kind) : Prop where
  proper : ∀ stage ∈ world.threads, IsProper stage
  counted : Counted world.shared (world.threads.map role)
  readers : world.shared.readerWait.Attended Role.waits (world.threads.map role)
  writers : world.shared.writerWait.Attended Role.drains (world.threads.map role)

variable {within : Crowd kind → Prop} {count : Nat} {world : Crowd kind} {me : ThreadId}
  {old new : Stage Point} {changed : Sharing}

theorem admitted_le_one (gate : Exclusive.Held world.shared.gate (world.threads.map atTheGate)) :
    total Role.admitted (world.threads.map role) ≤ 1 := by
  have holders := gate.holders
  rw [World.total_map] at holders ⊢
  have fewer : total (Role.admitted ∘ role) world.threads ≤
      total (Exclusive.holding ∘ atTheGate) world.threads :=
    World.total_le_total admitted_le_holding
  have single : Exclusive.occupied world.shared.gate ≤ 1 := by
    unfold Exclusive.occupied
    split <;> omega
  omega

theorem Kept.start (count : Nat) : Kept (crowd kind free count) := by
  refine ⟨?_, ?_, ?_, ?_⟩
  · intro stage member
    rw [List.eq_of_mem_replicate member]
    exact .outside
  · rw [crowd, List.map_replicate]
    exact .start count
  · exact .ofPermits 0
  · exact .ofPermits 0

theorem held_of_holding (gate : Exclusive.Held world.shared.gate (world.threads.map atTheGate))
    (found : world.threads[me]? = some old) (holds : 0 < Exclusive.holding (atTheGate old)) :
    world.shared.gate.word ≠ .free := by
  intro free
  have here : (world.threads.map atTheGate)[me]? = some (atTheGate old) := by simp [found]
  have some := World.weight_le_total Exclusive.holding here
  have holders := gate.holders
  rw [Exclusive.occupied, if_pos free] at holders
  omega

theorem Kept.progress (kept : Kept world)
    (gate : Exclusive.Held world.shared.gate (world.threads.map atTheGate))
    (found : world.threads[me]? = some old)
    (move : Usage.Move kind me old world.shared new changed) :
    Progress me old world.shared new changed := by
  have proper := kept.proper old (List.mem_of_getElem? found)
  have here : (world.threads.map role)[me]? = some (role old) := by simp [found]
  match move with
  | .decide decision => exact progress_of_decision decision
  | .act acted =>
      by_cases reader : atTheGate old = .outside
      · exact progress_of_reader kept.counted here proper reader acted
      · exact progress_of_writer kept.counted (admitted_le_one gate) here proper
          (held_of_holding gate found) reader acted

theorem Kept.move (kept : Kept world)
    (gate : Exclusive.Held world.shared.gate (world.threads.map atTheGate))
    (found : world.threads[me]? = some old) (progress : Progress me old world.shared new changed)
    (few : ReadersFit (world.put me (new, changed))) : Kept (world.put me (new, changed)) := by
  have here : (world.threads.map role)[me]? = some (role old) := by simp [found]
  have roles : (world.threads.set me new).map role = (world.threads.map role).set me (role new) :=
    List.map_set
  refine ⟨?_, ?_, ?_, ?_⟩
  · intro stage member
    rcases List.mem_or_eq_of_mem_set member with member | rfl
    · exact kept.proper stage member
    · exact progress.proper
  · have fewer : (total Role.reads ((world.threads.map role).set me (role new)) : Int) +
        total Role.waits ((world.threads.map role).set me (role new)) < roof.toInt := by
      have few : (total reader (world.threads.set me new) : Int) < roof.toInt := few
      rw [← roles, World.total_map, World.total_map]
      unfold reader at few
      rw [World.total_add] at few
      exact_mod_cast few
    have counted := kept.counted.change (admitted_le_one gate) here progress.change fewer
    rw [← roles] at counted
    exact counted
  · have attended := progress.change.attended_readers here kept.readers
    rw [← roles] at attended
    exact attended
  · have attended := progress.change.attended_writers here kept.writers
    rw [← roles] at attended
    exact attended

theorem gate_step (found : world.threads[me]? = some old)
    (progress : Progress me old world.shared new changed) :
    Usage.Step Exclusive.kind (gateCrowd world) (gateCrowd (world.put me (new, changed))) ∨
      gateCrowd (world.put me (new, changed)) = gateCrowd world := by
  have here : (world.threads.map atTheGate)[me]? = some (atTheGate old) := by simp [found]
  have threads : (world.threads.set me new).map atTheGate =
      (world.threads.map atTheGate).set me (atTheGate new) := List.map_set
  unfold gateCrowd World.put
  rw [threads]
  rcases progress.gate with move | ⟨stays, same⟩
  · left
    exact move.step here
  · right
    rw [stays, same, World.set_self here]

theorem kept_of_run (gateWithin : Crowd Exclusive.kind → Prop)
    (run : Run kind within (crowd kind free count) world)
    (few : ∀ world, within world → ReadersFit world)
    (fits : ∀ world, within world → gateWithin (gateCrowd world)) :
    Kept world ∧ Run Exclusive.kind gateWithin (crowd Exclusive.kind .free count)
      (gateCrowd world) := by
  refine run.induction (fun world => Kept world ∧ Run Exclusive.kind gateWithin
    (crowd Exclusive.kind .free count) (gateCrowd world)) ?_ ?_
  · refine ⟨.start count, ?_⟩
    have same : gateCrowd (crowd kind free count) = crowd Exclusive.kind .free count := by
      simp [gateCrowd, crowd, free, atTheGate]
    rw [same]
    exact .refl
  · rintro world me old new lock ⟨kept, gate⟩ found move limit
    have held := Exclusive.held_of_run gate
    have progress := kept.progress held found move
    refine ⟨kept.move held found progress (few _ limit), ?_⟩
    rcases gate_step found progress with step | same
    · exact gate.step step (fits _ limit)
    · rw [same]
      exact gate

theorem sound_of_run (run : Run kind ReadersFit (crowd kind free count) world) :
    Kept world ∧ Exclusive.Held world.shared.gate (world.threads.map atTheGate) := by
  obtain ⟨kept, gate⟩ := kept_of_run (fun _ => True) run (fun _ few => few) (fun _ _ => trivial)
  exact ⟨kept, Exclusive.held_of_run gate⟩

theorem reader_le_one (stage : Stage Point) : reader stage ≤ 1 := by
  unfold reader
  cases role stage <;> simp

theorem readers_fit_of_length (few : (world.threads.length : Int) < roof.toInt) :
    ReadersFit world := by
  have fewer : total reader world.threads ≤ total (fun _ => 1) world.threads :=
    World.total_le_total reader_le_one
  have all : total (fun _ => 1) world.threads = world.threads.length := by simp [total]
  unfold ReadersFit
  omega

theorem gate_steps {moves : Nat} (few : (count : Int) < roof.toInt)
    (steps : Usage.Steps kind (crowd kind free count) moves world) :
    world.threads.length = count ∧ Kept world ∧ ∃ fewer ≤ moves,
      Usage.Steps Exclusive.kind (crowd Exclusive.kind .free count) fewer (gateCrowd world) := by
  induction steps with
  | zero =>
      refine ⟨List.length_replicate, .start count, 0, Nat.le_refl 0, ?_⟩
      have same : gateCrowd (crowd kind free count) = crowd Exclusive.kind .free count := by
        simp [gateCrowd, crowd, free, atTheGate]
      rw [same]
      exact .zero
  | succ before step ih =>
      obtain ⟨length, kept, fewer, bound, gate⟩ := ih
      obtain ⟨me, old, new, lock, found, move, rfl⟩ := step.is_move
      have passed : Run Exclusive.kind (fun _ => True) _ _ :=
        gate.run (Nat.le_refl _) fun _ _ _ _ => trivial
      have progress := kept.progress (Exclusive.held_of_run passed) found move
      refine ⟨(List.length_set ..).trans length, ?_, ?_⟩
      · refine kept.move (Exclusive.held_of_run passed) found progress (readers_fit_of_length ?_)
        rwa [World.put, List.length_set, length]
      · rcases gate_step found progress with step | same
        · exact ⟨fewer + 1, by omega, gate.succ step⟩
        · rw [same]
          exact ⟨fewer, by omega, gate⟩

/-- The words suffice for every run of fewer steps than the permit count of the gate can count,
with fewer threads than there can be readers. -/
theorem limits_of_steps {moves : Nat} (few : (count : Int) < roof.toInt)
    (short : moves + 1 < UInt64.size)
    (steps : Usage.Steps kind (crowd kind free count) moves world) :
    Run kind (fun world => ReadersFit world ∧ Exclusive.PostsFit (gateCrowd world))
      (crowd kind free count) world := by
  apply steps.run (Nat.le_refl _)
  intro earlier world before steps
  obtain ⟨length, _, fewer, bound, gate⟩ := gate_steps few steps
  refine ⟨readers_fit_of_length (by rwa [length]), ?_⟩
  intro me mode found
  have permits := Exclusive.permits_le_of_steps gate
  have none : (0 : UInt64).toNat = 0 := rfl
  omega

inductive Rests (me : ThreadId) (lock : Sharing) : Stage Point → Prop where
  | outside : Rests me lock .outside
  | reading : Rests me lock (.inside .shared)
  | writing : Rests me lock (.inside .exclusive)
  | reader (parked : me ∈ lock.readerWait.line) : Rests me lock (.entering .shared .sleepShared)
  | drainer (parked : me ∈ lock.writerWait.line) : Rests me lock (.entering .exclusive .drain)
  | writer (parked : me ∈ lock.gate.parked.line) :
      Rests me lock (.entering .exclusive (.gate .enter .sleep))

variable {lock : Sharing}

theorem rests_of_still (proper : IsProper old) (still : Usage.act kind me old lock = none) :
    Rests me lock old := by
  cases proper with
  | outside => exact .outside
  | inside mode =>
      cases mode with
      | exclusive => exact .writing
      | shared => exact .reading
  | sleepShared =>
      cases waited : lock.readerWait.wait me with
      | taken | joined => simp [Usage.act, machine, act, waited] at still
      | asleep => exact .reader (Semaphore.wait_asleep_iff.mp waited)
  | drain =>
      cases waited : lock.writerWait.wait me with
      | taken | joined => simp [Usage.act, machine, act, waited] at still
      | asleep => exact .drainer (Semaphore.wait_asleep_iff.mp waited)
  | @enterGate point comes =>
      have inner : Usage.act Exclusive.kind me (.entering .exclusive point) lock.gate = none := by
        simpa [Usage.act, machine, Exclusive.machine, act] using still
      have proper : Exclusive.IsProper (.entering .exclusive point) := by
        rcases comes with rfl | rfl | rfl <;> simp [Exclusive.IsProper]
      rcases Exclusive.rests_of_still proper inner with here | ⟨_, here⟩ | ⟨_, here, parked⟩
      · cases here
      · cases here
      · cases here
        exact .writer parked
  | tryGate =>
      by_cases free : lock.gate.word = .free <;>
        simp [Usage.act, machine, act, Exclusive.act, free] at still
  | giveBack goes | leaveGate goes =>
      rcases goes with rfl | rfl
      · cases word : lock.gate.word <;>
          simp [Usage.act, machine, act, Exclusive.act, word] at still
      · simp [Usage.act, machine, act, Exclusive.act] at still
  | @exchangeShared seen =>
      by_cases same : lock.readers = seen <;> simp [Usage.act, machine, act, same] at still
  | claim => by_cases empty : lock.readers = roof <;> simp [Usage.act, machine, act, empty] at still
  | _ => simp [Usage.act, machine, act] at still

theorem Rests.still_at_gate (rests : Rests me lock old) :
    Usage.act Exclusive.kind me (atTheGate old) lock.gate = none := by
  cases rests with
  | writer parked =>
      have asleep := Semaphore.wait_asleep_iff.mpr parked
      simp [atTheGate, Usage.act, Exclusive.machine, Exclusive.act, asleep]
  | _ => rfl

/-- Where everybody rests, nobody is at a stage that passes by itself. -/
structure Resting (world : Crowd kind) : Prop where
  rests : ∀ (me : ThreadId) (stage : Stage Point), world.threads[me]? = some stage →
    Rests me world.shared stage

namespace Resting

theorem of_quiet (kept : Kept world) (quiet : world.Quiet (Usage.machine kind)) : Resting world :=
  ⟨fun _ stage found => rests_of_still (kept.proper stage (List.mem_of_getElem? found))
    (Usage.act_eq_none_of_quiet quiet found)⟩

variable (resting : Resting world)

include resting in
theorem total_eq_zero (weight : Role → Nat) (idle : weight .idle = 0) (reading : weight .reading = 0)
    (writing : weight .writing = 0) (waiting : weight .waiting = 0)
    (draining : weight .draining = 0) : total weight (world.threads.map role) = 0 := by
  rw [World.total_map]
  apply World.total_eq_zero
  intro me stage found
  cases resting.rests me stage found with
  | reading => exact reading
  | writing => exact writing
  | outside | writer => exact idle
  | reader => exact waiting
  | drainer => exact draining

include resting in
theorem of_role (weight : Role → Nat) (present : 0 < total weight (world.threads.map role)) :
    ∃ (me : ThreadId) (stage : Stage Point), world.threads[me]? = some stage ∧
      0 < weight (role stage) ∧ Rests me world.shared stage := by
  rw [World.total_map] at present
  obtain ⟨me, stage, found, heavy⟩ := World.exists_of_total_pos present
  exact ⟨me, stage, found, heavy, resting.rests me stage found⟩

include resting in
theorem no_permit {weight : Role → Nat} {semaphore : Semaphore}
    (attended : semaphore.Attended weight (world.threads.map role))
    (light : ∀ role, weight role ≤ 1)
    (parked : ∀ (me : ThreadId) (stage : Stage Point), Rests me world.shared stage →
      0 < weight (role stage) → me ∈ semaphore.line)
    (present : 0 < total weight (world.threads.map role)) : semaphore.permits.toNat = 0 := by
  have listed : ∀ (me : ThreadId) (point : Role), (world.threads.map role)[me]? = some point →
      0 < weight point → me ∈ semaphore.line := by
    intro me point found heavy
    rw [List.getElem?_map, Option.map_eq_some_iff] at found
    obtain ⟨stage, found, rfl⟩ := found
    exact parked me stage (resting.rests me stage found) heavy
  obtain ⟨me, stage, _, heavy, rests⟩ := resting.of_role weight present
  rw [attended.permits_eq_zero light listed (List.ne_nil_of_mem (parked me stage rests heavy))]
  rfl

include resting in
theorem no_permit_for_readers (kept : Kept world)
    (waits : 0 < total Role.waits (world.threads.map role)) :
    world.shared.readerWait.permits.toNat = 0 := by
  refine resting.no_permit kept.readers ?_ ?_ waits
  · intro role
    cases role <;> simp
  · intro me stage rests heavy
    cases rests with
    | reader parked => exact parked
    | _ => simp [role, Point.arrival] at heavy

include resting in
theorem no_permit_for_writer (kept : Kept world)
    (drains : 0 < total Role.drains (world.threads.map role)) :
    world.shared.writerWait.permits.toNat = 0 := by
  refine resting.no_permit kept.writers ?_ ?_ drains
  · intro role
    cases role <;> simp
  · intro me stage rests heavy
    cases rests with
    | drainer parked => exact parked
    | _ => simp [role, Point.arrival] at heavy

include resting in
theorem writer_before_reader (kept : Kept world)
    (gate : Exclusive.Held world.shared.gate (world.threads.map atTheGate))
    (found : world.threads[me]? = some (.entering .shared .sleepShared)) :
    ∃ writer : ThreadId, world.threads[writer]? = some (.inside .exclusive) ∨
      world.threads[writer]? = some (.entering .exclusive .drain) := by
  have waits : 0 < total Role.waits (world.threads.map role) := by
    have here : (world.threads.map role)[me]? = some .waiting := by
      simp [found, role, Point.arrival]
    exact World.weight_le_total Role.waits here
  have permits := resting.no_permit_for_readers kept waits
  have hosts := resting.total_eq_zero Role.hosts rfl rfl rfl rfl rfl
  have counts := resting.total_eq_zero Role.counts rfl rfl rfl rfl rfl
  rcases kept.counted.stages (admitted_le_one gate) with opened | counting | draining | writing
  · omega
  · omega
  · obtain ⟨writer, stage, found, heavy, rests⟩ := resting.of_role Role.drains (by omega)
    cases rests with
    | drainer => exact ⟨writer, .inr found⟩
    | _ => simp [role, Point.arrival] at heavy
  · obtain ⟨writer, stage, found, heavy, rests⟩ := resting.of_role Role.writes (by omega)
    cases rests with
    | writing => exact ⟨writer, .inl found⟩
    | _ => simp [role, Point.arrival] at heavy

include resting in
theorem reader_before_drainer (kept : Kept world)
    (found : world.threads[me]? = some (.entering .exclusive .drain)) :
    ∃ reader : ThreadId, world.threads[reader]? = some (.inside .shared) := by
  have drains : 0 < total Role.drains (world.threads.map role) := by
    have here : (world.threads.map role)[me]? = some .draining := by
      simp [found, role, Point.arrival]
    exact World.weight_le_total Role.drains here
  have permit := resting.no_permit_for_writer kept drains
  have wakes := resting.total_eq_zero Role.wakes rfl rfl rfl rfl rfl
  have parts := resting.total_eq_zero Role.parts rfl rfl rfl rfl rfl
  have facts := kept.counted.draining drains
  have reads : 0 < total Role.reads (world.threads.map role) := by
    by_cases waits : 0 < total Role.waits (world.threads.map role)
    · have permits := resting.no_permit_for_readers kept waits
      omega
    · omega
  obtain ⟨reader, stage, found, heavy, rests⟩ := resting.of_role Role.reads reads
  cases rests with
  | reading => exact ⟨reader, found⟩
  | _ => simp [role, Point.arrival] at heavy

include resting in
theorem somebody_before_writer (kept : Kept world)
    (gate : Exclusive.Held world.shared.gate (world.threads.map atTheGate))
    (watched : Exclusive.Watched world.shared.gate (world.threads.map atTheGate))
    (found : world.threads[me]? = some (.entering .exclusive (.gate .enter .sleep))) :
    ∃ (other : ThreadId) (mode : Mode), world.threads[other]? = some (.inside mode) := by
  have still (me : ThreadId) (stage : Stage Exclusive.Point)
      (found : (world.threads.map atTheGate)[me]? = some stage) :
      Usage.act Exclusive.kind me stage world.shared.gate = none := by
    rw [List.getElem?_map, Option.map_eq_some_iff] at found
    obtain ⟨stage, found, rfl⟩ := found
    exact (resting.rests me stage found).still_at_gate
  have here : (world.threads.map atTheGate)[me]? = some (.entering .exclusive .sleep) := by
    simp [found, atTheGate]
  obtain ⟨_, _, holders⟩ := watched.parked_beside_busy gate still here
  rw [World.total_map] at holders
  obtain ⟨holder, stage, found, holds⟩ := World.exists_of_total_pos holders
  cases resting.rests holder stage found with
  | writing => exact ⟨holder, .exclusive, found⟩
  | drainer =>
      obtain ⟨reader, found⟩ := resting.reader_before_drainer kept found
      exact ⟨reader, .shared, found⟩
  | _ => simp [atTheGate, Exclusive.holding] at holds

end Resting

/-- The mode in which a thread is inside until the first action of its release. -/
def holds : Stage Point → Option Mode
  | .inside mode => some mode
  | .leaving .exclusive .raise => some .exclusive
  | .leaving .shared .leaveShared => some .shared
  | _ => none

theorem role_of_holds_exclusive {stage : Stage Point} (exclusive : holds stage = some .exclusive) :
    role stage = .writing := by
  unfold holds at exclusive
  split at exclusive <;> simp_all [role, Point.departure]

theorem role_of_holds_shared {stage : Stage Point} (shared : holds stage = some .shared) :
    role stage = .reading := by
  unfold holds at shared
  split at shared <;> simp_all [role, Point.departure]

theorem Kept.alone (kept : Kept world)
    (gate : Exclusive.Held world.shared.gate (world.threads.map atTheGate))
    {first second : ThreadId} {here there : Stage Point} {mode : Mode}
    (foundFirst : world.threads[first]? = some here)
    (foundSecond : world.threads[second]? = some there)
    (writes : holds here = some .exclusive) (enters : holds there = some mode) :
    first = second := by
  have one := admitted_le_one gate
  have foundFirst : (world.threads.map role)[first]? = some .writing := by
    simp [foundFirst, role_of_holds_exclusive writes]
  cases mode with
  | exclusive =>
      have foundSecond : (world.threads.map role)[second]? = some .writing := by
        simp [foundSecond, role_of_holds_exclusive enters]
      exact World.eq_of_total_le_one one foundFirst Nat.one_pos foundSecond Nat.one_pos
  | shared =>
      have foundSecond : (world.threads.map role)[second]? = some .reading := by
        simp [foundSecond, role_of_holds_shared enters]
      have writer := World.weight_le_total Role.writes foundFirst
      have reader := World.weight_le_total Role.reads foundSecond
      obtain ⟨readers, _⟩ := kept.counted.writing writer
      simp only [Role.reads] at reader
      omega

/-- In every interleaving of any number of threads, with fewer readers at once than the
word can count: nobody is inside beside a writer, and no call breaks off at a check or
a sum that overflows. Where nobody can go on, a reader on the way in is parked behind
a writer that is inside or drains, and a writer on the way in is parked while somebody
is inside; this last part is about runs in which the 64 bits of the permit count of
the gate suffice (`Exclusive.PostsFit`). Both words suffice for every run of fewer than
`2 ^ 64 - 1` steps of fewer than `2 ^ 63 - 1` threads, by `limits_of_steps`. -/
theorem writers_alone_and_nobody_stranded (count : Nat) (world : Crowd kind)
    (run : Run kind ReadersFit (crowd kind free count) world) :
    (∀ (first second : ThreadId) (here there : Stage Point) (mode : Mode),
      world.threads[first]? = some here → world.threads[second]? = some there →
      holds here = some .exclusive → holds there = some mode → first = second) ∧
    (∀ (me : ThreadId) (fault : Fault), world.threads[me]? ≠ some (.broken fault)) ∧
    (Run kind (fun world => ReadersFit world ∧ Exclusive.PostsFit (gateCrowd world))
        (crowd kind free count) world →
      world.Quiet (Usage.machine kind) →
      (∀ (me : ThreadId) (point : Point),
        world.threads[me]? = some (.entering .shared point) →
        point = .sleepShared ∧ me ∈ world.shared.readerWait.line ∧
          ∃ writer : ThreadId, world.threads[writer]? = some (.inside .exclusive) ∨
            world.threads[writer]? = some (.entering .exclusive .drain)) ∧
      (∀ (me : ThreadId) (point : Point),
        world.threads[me]? = some (.entering .exclusive point) →
        (point = .gate .enter .sleep ∧ me ∈ world.shared.gate.parked.line ∨
          point = .drain ∧ me ∈ world.shared.writerWait.line) ∧
          ∃ (other : ThreadId) (mode : Mode), world.threads[other]? = some (.inside mode))) := by
  obtain ⟨kept, gate⟩ :=
    kept_of_run (fun _ => True) run (fun _ few => few) (fun _ _ => trivial)
  have held : Exclusive.Held world.shared.gate (world.threads.map atTheGate) :=
    Exclusive.held_of_run gate
  refine ⟨?_, ?_, ?_⟩
  · intro first second here there mode foundFirst foundSecond writes enters
    exact kept.alone held foundFirst foundSecond writes enters
  · intro me fault found
    cases kept.proper _ (List.mem_of_getElem? found)
  · intro fitting quiet
    obtain ⟨_, gate⟩ := kept_of_run Exclusive.PostsFit fitting (fun _ limit => limit.1) (fun _ limit => limit.2)
    have watched : Exclusive.Watched world.shared.gate (world.threads.map atTheGate) :=
      Exclusive.watched_of_run gate
    have resting := Resting.of_quiet kept quiet
    refine ⟨?_, ?_⟩
    · intro me point found
      cases resting.rests me _ found with
      | reader parked => exact ⟨rfl, parked, resting.writer_before_reader kept held found⟩
    · intro me point found
      cases resting.rests me _ found with
      | drainer parked =>
          obtain ⟨reader, inside⟩ := resting.reader_before_drainer kept found
          exact ⟨.inr ⟨rfl, parked⟩, reader, .shared, inside⟩
      | writer parked =>
          exact ⟨.inl ⟨rfl, parked⟩, resting.somebody_before_writer kept held watched found⟩

/-- Thread 0 reads, thread 1 waits for it as a writer, and behind these two a reader and
another writer are parked. -/
def besieged : Crowd kind :=
  ⟨⟨-2, 1, ⟨.contended, ⟨0, [3]⟩⟩, ⟨0, [2]⟩, ⟨0, [1]⟩⟩,
    [.inside .shared, .entering .exclusive .drain, .entering .shared .sleepShared,
      .entering .exclusive (.gate .enter .sleep)]⟩

private theorem besieged_run :
    Run kind (fun world => ReadersFit world ∧ Exclusive.PostsFit (gateCrowd world))
      (crowd kind free 4) besieged :=
  have fits (world : Crowd kind) (few : ReadersFit world)
      (none : total Exclusive.waking (gateCrowd world).threads = 0) :
      ReadersFit world ∧ Exclusive.PostsFit (gateCrowd world) :=
    ⟨few, Exclusive.posts_fit_of_no_post none⟩
  .step (.step (.step (.step (.step (.step (.step (.step (.step (.step (.step (.step (.step (.step
    .refl
    (.decide 0 rfl (.enter .shared)) (fits _ (by decide) rfl))
    (.act 0 rfl) (fits _ (by decide) rfl))
    (.decide 1 rfl (.enter .exclusive)) (fits _ (by decide) rfl))
    (.act 1 rfl) (fits _ (by decide) rfl))
    (.act 1 rfl) (fits _ (by decide) rfl))
    (.act 1 rfl) (fits _ (by decide) rfl))
    (.act 1 rfl) (fits _ (by decide) rfl))
    (.decide 2 rfl (.enter .shared)) (fits _ (by decide) rfl))
    (.act 2 rfl) (fits _ (by decide) rfl))
    (.act 2 rfl) (fits _ (by decide) rfl))
    (.decide 3 rfl (.enter .exclusive)) (fits _ (by decide) rfl))
    (.act 3 rfl) (fits _ (by decide) rfl))
    (.act 3 rfl) (fits _ (by decide) rfl))
    (.act 3 rfl) (fits _ (by decide) rfl)

private theorem besieged_quiet : besieged.Quiet (Usage.machine kind) := by
  intro me
  match me with
  | 0 | 1 | 2 | 3 | _ + 4 => rfl

theorem besieged_behind_a_reader :
    besieged.Quiet (Usage.machine kind) ∧
      (∃ writer : ThreadId, besieged.threads[writer]? = some (.inside .exclusive) ∨
        besieged.threads[writer]? = some (.entering .exclusive .drain)) ∧
      ∃ (other : ThreadId) (mode : Mode), besieged.threads[other]? = some (.inside mode) := by
  obtain ⟨_, _, nobodyStranded⟩ := writers_alone_and_nobody_stranded 4 besieged
    (besieged_run.widen fun _ limit => limit.1)
  obtain ⟨readers, writers⟩ := nobodyStranded besieged_run besieged_quiet
  obtain ⟨_, _, writer⟩ := readers 2 .sleepShared rfl
  obtain ⟨_, inside⟩ := writers 3 (.gate .enter .sleep) rfl
  exact ⟨besieged_quiet, writer, inside⟩

end Turnstile.Lock.Sharing
