import Turnstile.Proofs.Lock.Sharing.Misuse

/-!
# The end of a drain is seen once

A writer that lowers the word finds some readers inside or let in, and each of them takes one
away from `departing` when it leaves: before the writer has published how many it found, or
after it. `Drain` keeps the account of that from the moment the word is lowered, and `Stands`
says what the account is worth at each stage of the writer: while it counts, `departing` is
short by those that were early; while it drains, `departing` is what is still to come, and
what has been posted to the writer lies on its semaphore. When the writer is inside, all that
it found have left, and it was woken once if it went to wait, and otherwise not at all.
-/

namespace Turnstile.Lock.Sharing

set_option autoImplicit false

open World (total)
open Usage (Crowd Run crowd)

/-- What has happened since a writer lowered the word. -/
structure Drain where
  /-- The readers that took one away from `departing` before the writer had published. -/
  early : Nat
  /-- Those that did so after it. -/
  late : Nat
  /-- The posts on the writer's semaphore. -/
  posts : Nat
  /-- The writer went to its semaphore to wait. -/
  waited : Bool
  deriving DecidableEq, Repr

def departs (stage : Stage Point) : Nat := if stage = .leaving .shared .depart then 1 else 0

def wakesWriter (stage : Stage Point) : Nat := if stage = .leaving .shared .wakeWriter then 1 else 0

/-- The writer has published how many readers it found, and has not come in. -/
def Published (writer : ThreadId) (world : Crowd kind) : Prop :=
  world.threads[writer]? = some (.entering .exclusive .drain)

instance (writer : ThreadId) : DecidablePred (Published writer) := fun world =>
  inferInstanceAs (Decidable (world.threads[writer]? = some (.entering .exclusive .drain)))

def Drain.note (writer : ThreadId) (world : Crowd kind) (me : ThreadId) (old new : Stage Point)
    (drain : Drain) : Drain where
  early := drain.early + if Published writer world then 0 else departs old
  late := drain.late + if Published writer world then departs old else 0
  posts := drain.posts + wakesWriter old
  waited := drain.waited || (me = writer && new = .entering .exclusive .drain)

/-- The account of a writer from its step that lowers the word of `world` to the one with
which it comes in. -/
inductive Drains (writer : ThreadId) (world : Crowd kind) : Drain → Crowd kind → Prop where
  | lower {new : Stage Point} {changed : Sharing}
      (found : world.threads[writer]? = some (.entering .exclusive .lower))
      (move : Usage.Move kind writer (.entering .exclusive .lower) world.shared new changed)
      (few : ReadersFit (world.put writer (new, changed))) :
      Drains writer world ⟨0, 0, 0, false⟩ (world.put writer (new, changed))
  | step {drain : Drain} {mid : Crowd kind} {stage old new : Stage Point} {changed : Sharing}
      (me : ThreadId) (still : Drains writer world drain mid)
      (there : mid.threads[writer]? = some stage) (approaches : Approaches stage)
      (found : mid.threads[me]? = some old)
      (move : Usage.Move kind me old mid.shared new changed)
      (few : ReadersFit (mid.put me (new, changed))) :
      Drains writer world (drain.note writer mid me old new) (mid.put me (new, changed))

variable {me writer : ThreadId} {old new stage : Stage Point} {world later : Crowd kind}
  {lock changed : Sharing} {inside : Int64} {drain : Drain} {readers : Int} {count : Nat}

theorem Drains.run {start : Crowd kind} (run : Run kind ReadersFit start world)
    (drains : Drains writer world drain later) : Run kind ReadersFit start later := by
  induction drains with
  | lower found move few => exact run.step (move.step found) few
  | step _ _ _ _ found move few ih => exact .step ih (move.step found) few

/-- The account of a writer that found so many readers, when it comes in. -/
structure Drain.Exact (readers : Int) (drain : Drain) : Prop where
  /-- As many readers have left as it found. -/
  departed : (drain.early + drain.late : Int) = readers
  /-- It has waited if not all of them were early. -/
  waited : drain.waited = true ↔ (drain.early : Int) ≠ readers
  /-- It was woken once if it waited. -/
  posts : drain.posts = if drain.waited then 1 else 0

/-- What the account of a writer that found so many readers is worth at each of its stages. -/
inductive Stands (readers : Int) (lock : Sharing) (drain : Drain) : Stage Point → Prop where
  | counting {inside : Int64} (same : inside.toInt = readers) (positive : 0 ≤ readers)
      (departing : lock.departing.toInt = -drain.early) (late : drain.late = 0)
      (posts : drain.posts = 0) (waited : drain.waited = false) :
      Stands readers lock drain (.entering .exclusive (.publish inside))
  | draining (more : (drain.early : Int) ≠ readers)
      (departing : lock.departing.toInt = readers - drain.early - drain.late)
      (posts : drain.posts = lock.writerWait.permits.toNat) (waited : drain.waited = true) :
      Stands readers lock drain (.entering .exclusive .drain)
  | inside (exact : drain.Exact readers) : Stands readers lock drain (.inside .exclusive)

/-! ## One step -/

theorem parts_role (proper : IsProper stage) : Role.parts (role stage) = departs stage := by
  cases proper with
  | inside mode => cases mode <;> rfl
  | _ => rfl

theorem wakes_role (proper : IsProper stage) : Role.wakes (role stage) = wakesWriter stage := by
  cases proper with
  | inside mode => cases mode <;> rfl
  | _ => rfl

theorem role_ne_of_leaves (leaves : 0 < departs old + wakesWriter old)
    (move : Usage.Move kind me old lock new changed) : role new ≠ role old := by
  have stages : old = .leaving .shared .depart ∨ old = .leaving .shared .wakeWriter := by
    unfold departs wakesWriter at leaves
    split at leaves
    · exact .inl ‹_›
    · split at leaves
      · exact .inr ‹_›
      · omega
  rcases stages with rfl | rfl
  · obtain ⟨rfl, _⟩ := Usage.eq_of_leaving rfl move.leaving
    by_cases last : lock.departing = 1
    · rw [if_pos last]
      exact Role.noConfusion
    · rw [if_neg last]
      exact Role.noConfusion
  · obtain ⟨rfl, _⟩ := Usage.eq_of_leaving rfl move.leaving
    exact Role.noConfusion

/-- What a thread that is not between the two passages of the gate does to `departing` and to
the permits of the writer's semaphore. -/
theorem Change.aside {before after : Role} (change : Change me before lock after changed)
    (outside : Role.admitted before = 0)
    (goes : 0 < Role.parts before + Role.wakes before → after ≠ before)
    (low : -2 ^ 63 < lock.departing.toInt)
    (fits : lock.writerWait.permits.toNat + 1 < UInt64.size) :
    changed.departing.toInt = lock.departing.toInt - Role.parts before ∧
      changed.writerWait.permits.toNat =
        lock.writerWait.permits.toNat + Role.wakes before := by
  cases change with
  | conclude | part => simp [toInt_sub_one lock.departing low]
  | wake => simp [Semaphore.toNat_permits_post fits]
  | rest =>
      have light : Role.parts before + Role.wakes before = 0 := by
        by_contra some
        exact goes (Nat.pos_of_ne_zero some) rfl
      constructor <;> dsimp only <;> omega
  | pass | accept | defer | rise | park | leave | depart => simp
  | _ => cases outside

theorem Change.passed_of_approaches {before after : Role}
    (change : Change me before lock after changed)
    (apart : Role.counts before = 0 ∧ Role.drains before = 0)
    (within : Role.counts after + Role.drains after ≠ 0) : before = .passed := by
  cases change <;> simp_all

theorem publish_cases (fits : 0 ≤ lock.departing.toInt + inside.toInt ∧
      lock.departing.toInt + inside.toInt ≤ Int64.maxValue.toInt)
    (move : Usage.Move kind me (.entering .exclusive (.publish inside)) lock new changed) :
    changed = { lock with departing := lock.departing + inside } ∧
      (lock.departing.toInt + inside.toInt = 0 ∧ new = .inside .exclusive ∨
        lock.departing.toInt + inside.toInt ≠ 0 ∧ new = .entering .exclusive .drain) := by
  obtain ⟨rfl, rfl⟩ := Usage.eq_of_entering rfl move.entering
  have within : ¬ (Int64.maxValue.toInt < lock.departing.toInt + inside.toInt ∨
      lock.departing.toInt + inside.toInt < Int64.minValue.toInt) := by
    rw [Int64.toInt_minValue]
    omega
  refine ⟨rfl, ?_⟩
  simp only [afterPublish, if_neg within]
  by_cases none : lock.departing.toInt + inside.toInt = 0
  · rw [if_pos none]
    exact .inl ⟨none, rfl⟩
  · rw [if_neg none]
    exact .inr ⟨none, rfl⟩

theorem drain_cases (move : Usage.Move kind me (.entering .exclusive .drain) lock new changed) :
    changed.departing = lock.departing ∧
      (new = .inside .exclusive ∧ 0 < lock.writerWait.permits.toNat ∨
        new = .entering .exclusive .drain ∧
          changed.writerWait.permits = lock.writerWait.permits) := by
  have acted := move.entering
  cases waited : lock.writerWait.wait me with
  | taken writerWait =>
      obtain ⟨rfl, rfl⟩ := Usage.eq_of_entering (act_drain_taken waited) acted
      have fewer := Semaphore.toNat_permits_taken waited
      exact ⟨rfl, .inl ⟨rfl, by omega⟩⟩
  | joined writerWait =>
      obtain ⟨rfl, rfl⟩ := Usage.eq_of_entering (act_drain_joined waited) acted
      exact ⟨rfl, .inr ⟨rfl, Semaphore.permits_joined waited⟩⟩
  | asleep => simp [Usage.act, machine, act, waited] at acted

/-! ## The account is right at every step -/

section

variable (kept : Kept world)
  (gate : Exclusive.Held world.shared.gate (world.threads.map atTheGate))

include kept gate in
/-- Neither `departing` nor the permits of the writer's semaphore are near an end of their
word. -/
theorem Kept.fits : -2 ^ 63 < world.shared.departing.toInt ∧
    world.shared.writerWait.permits.toNat + 1 < UInt64.size := by
  have one := admitted_le_one gate
  have bound := Counted.finds_le one
  rw [UInt64.size]
  rcases kept.counted.stages one with opened | counting | draining | writing <;> omega

variable (there : world.threads[writer]? = some stage) (approaches : Approaches stage)
  (found : world.threads[me]? = some old)
  (move : Usage.Move kind me old world.shared new changed)

theorem admitted_of_approaches (approaches : Approaches stage) :
    Role.admitted (role stage) = 1 := by
  cases approaches <;> rfl

include kept gate there approaches found move in
theorem Stands.aside (stands : Stands readers world.shared drain stage) (apart : me ≠ writer) :
    Stands readers changed (drain.note writer world me old new) stage := by
  have one := admitted_le_one gate
  have here : (world.threads.map role)[writer]? = some (role stage) := by simp [there]
  have other : (world.threads.map role)[me]? = some (role old) := by simp [found]
  have within := admitted_of_approaches approaches
  have outside : Role.admitted (role old) = 0 := by
    by_contra inside
    exact apart (World.eq_of_total_le_one one other (Nat.pos_of_ne_zero inside) here (by omega))
  have proper := kept.proper old (List.mem_of_getElem? found)
  obtain ⟨low, fits⟩ := kept.fits gate
  have goes (leaves : 0 < Role.parts (role old) + Role.wakes (role old)) :
      role new ≠ role old := by
    rw [parts_role proper, wakes_role proper] at leaves
    exact role_ne_of_leaves leaves move
  obtain ⟨departing, permits⟩ :=
    (kept.progress gate found move).change.aside outside goes low fits
  rw [parts_role proper] at departing
  rw [wakes_role proper] at permits
  cases stands with
  | counting same positive earlier late posts waited =>
      have unpublished : ¬ Published writer world := by simp [Published, there]
      have counting := kept.counted.counting (World.weight_le_total Role.counts here)
      have wakes := World.weight_le_total Role.wakes other
      rw [wakes_role proper] at wakes
      refine .counting same positive ?_ ?_ ?_ ?_
      · simp only [Drain.note, if_neg unpublished]
        omega
      · simp only [Drain.note, if_neg unpublished]
        omega
      · simp only [Drain.note]
        omega
      · simp [Drain.note, waited, apart]
  | draining more later posts waited =>
      have published : Published writer world := there
      refine .draining ?_ ?_ ?_ ?_
      · simpa [Drain.note, published] using more
      · simp only [Drain.note, if_pos published]
        omega
      · simp only [Drain.note]
        omega
      · simp [Drain.note, waited]
  | inside => cases approaches

include kept gate there approaches in
theorem Stands.own (stands : Stands readers world.shared drain stage)
    (move : Usage.Move kind writer stage world.shared new changed) :
    Stands readers changed (drain.note writer world writer stage new) new := by
  have one := admitted_le_one gate
  have here : (world.threads.map role)[writer]? = some (role stage) := by simp [there]
  cases stands with
  | @counting inside same positive earlier late posts waited =>
      have unpublished : ¬ Published writer world := by simp [Published, there]
      have fits := kept.counted.sum_fits one here (same ▸ positive)
      have counting := kept.counted.counting (World.weight_le_total Role.counts here)
      have upper := inside.toInt_lt
      have sum := toInt_add_of_fits world.shared.departing inside (by omega) (by omega)
      obtain ⟨rfl, ⟨none, rfl⟩ | ⟨some, rfl⟩⟩ := publish_cases fits move
      · refine .inside ⟨?_, ?_, ?_⟩ <;>
          simp [Drain.note, unpublished, departs, wakesWriter, late, posts, waited] <;> omega
      · refine .draining ?_ ?_ ?_ ?_ <;>
          simp [Drain.note, unpublished, departs, wakesWriter, late, posts, waited, sum] <;> omega
  | draining more later posts waited =>
      have published : Published writer world := there
      have draining := kept.counted.draining (World.weight_le_total Role.drains here)
      obtain ⟨same, ⟨rfl, some⟩ | ⟨rfl, permits⟩⟩ := drain_cases move
      · refine .inside ⟨?_, ?_, ?_⟩ <;>
          simp [Drain.note, published, departs, wakesWriter, waited] <;> omega
      · refine .draining ?_ ?_ ?_ ?_ <;>
          simp [Drain.note, published, departs, wakesWriter, waited, same, permits] <;> omega
  | inside => cases approaches

include kept gate in
theorem Stands.lower (found : world.threads[writer]? = some (.entering .exclusive .lower))
    (move : Usage.Move kind writer (.entering .exclusive .lower) world.shared new changed) :
    Stands (roof.toInt - world.shared.readers.toInt) changed ⟨0, 0, 0, false⟩ new := by
  have one := admitted_le_one gate
  have here : (world.threads.map role)[writer]? = some .passed := by
    simp [found, role, Point.arrival]
  have above := kept.counted.readers_passed one here
  obtain ⟨counts, _, drains, writes, _⟩ := Counted.alone one here Nat.one_pos
  obtain ⟨_, _, _, _, departing⟩ := kept.counted.opened (by rw [counts, drains, writes]; rfl)
  have upper := world.shared.readers.toInt_le
  obtain ⟨rfl, rfl⟩ := Usage.eq_of_entering rfl move.entering
  unfold afterLower
  by_cases below : world.shared.readers < roof
  · have fits : ¬ Int64.maxValue.toInt < roof.toInt - world.shared.readers.toInt := by
      rw [roof]
      omega
    have room : 0 ≤ roof.toInt - world.shared.readers.toInt := by
      rw [roof]
      omega
    have difference : (roof - world.shared.readers).toInt =
        roof.toInt - world.shared.readers.toInt := by
      rw [toInt_roof]
      exact toInt_roof_sub world.shared.readers above
    rw [if_pos below, if_neg fits]
    exact .counting difference room (by simpa using departing) rfl rfl rfl
  · have full : roof.toInt - world.shared.readers.toInt = 0 := by
      rw [Int64.lt_iff_toInt_lt] at below
      rw [roof] at below ⊢
      omega
    rw [if_neg below, full]
    exact .inside ⟨rfl, by simp, rfl⟩

/-- In whatever order the readers leave, the account of an exact handshake is not exceeded. -/
structure Drain.Bounded (readers : Int) (drain : Drain) : Prop where
  departed : (drain.early + drain.late : Int) ≤ readers
  waited : drain.waited = true → (drain.early : Int) ≠ readers
  posts : drain.posts ≤ if drain.waited then 1 else 0

theorem Drain.Exact.bounded (exact : drain.Exact readers) : drain.Bounded readers :=
  ⟨Int.le_of_eq exact.departed, exact.waited.mp, Nat.le_of_eq exact.posts⟩

include kept gate there in
theorem Stands.bounded (stands : Stands readers world.shared drain stage) :
    drain.Bounded readers := by
  have here : (world.threads.map role)[writer]? = some (role stage) := by simp [there]
  cases stands with
  | counting same positive departing late posts waited =>
      have counting := kept.counted.counting (World.weight_le_total Role.counts here)
      obtain ⟨_, finds, _⟩ := Counted.alone (admitted_le_one gate) here Nat.one_pos
      simp only [role, Point.arrival, Role.finds] at finds
      refine ⟨by omega, by simp [waited], by simp [posts]⟩
  | draining more departing posts waited =>
      have draining := kept.counted.draining (World.weight_le_total Role.drains here)
      refine ⟨by omega, fun _ => more, ?_⟩
      rw [if_pos waited]
      omega
  | inside exact => exact exact.bounded

include kept gate found move in
theorem lower_of_approaches (before : ¬ Approaches old) (after : Approaches new) :
    old = .entering .exclusive .lower := by
  have proper := kept.proper old (List.mem_of_getElem? found)
  have progress := kept.progress gate found move
  have within : Role.counts (role new) + Role.drains (role new) ≠ 0 := by
    cases after <;> exact Nat.one_ne_zero
  have passed := progress.change.passed_of_approaches ((approaches_iff proper).mpr before) within
  cases proper with
  | lower => rfl
  | claim =>
      by_cases empty : world.shared.readers = roof
      · obtain ⟨rfl, _⟩ := Usage.eq_of_entering (if_pos empty) move.entering
        cases after
      · obtain ⟨rfl, _⟩ := Usage.eq_of_entering (if_neg empty) move.entering
        cases after
  | inside mode => cases mode <;> cases passed
  | _ => cases passed

end

theorem Drains.stands (run : Run kind ReadersFit (crowd kind free count) world)
    (drains : Drains writer world drain later) :
    ∃ stage, later.threads[writer]? = some stage ∧
      Stands (roof.toInt - world.shared.readers.toInt) later.shared drain stage := by
  induction drains with
  | lower found move few =>
      obtain ⟨kept, gate⟩ := sound_of_run run
      exact ⟨_, World.found_set found, .lower kept gate found move⟩
  | @step drain mid stage old new changed me before there approaches found move few ih =>
      obtain ⟨kept, gate⟩ := sound_of_run (before.run run)
      obtain ⟨_, same, stands⟩ := ih
      obtain rfl := Option.some.inj (there.symm.trans same)
      by_cases own : me = writer
      · subst own
        obtain rfl := Option.some.inj (there.symm.trans found)
        exact ⟨new, World.found_set found, stands.own kept gate there approaches move⟩
      · refine ⟨stage, ?_, stands.aside kept gate there approaches found move own⟩
        simpa [World.put, List.getElem?_set_ne own] using there

theorem exists_drains (run : Run kind ReadersFit (crowd kind free count) world)
    (there : world.threads[writer]? = some stage) (approaches : Approaches stage) :
    ∃ before drain, Run kind ReadersFit (crowd kind free count) before ∧
      Drains writer before drain world := by
  induction run generalizing stage with
  | refl =>
      obtain rfl := List.eq_of_mem_replicate (List.mem_of_getElem? there)
      cases approaches
  | @step mid world before step few ih =>
      obtain ⟨me, old, new, changed, found, move, rfl⟩ := step.is_move
      obtain ⟨kept, gate⟩ := sound_of_run before
      by_cases own : me = writer
      · subst own
        obtain rfl := Option.some.inj ((World.found_set found).symm.trans there)
        by_cases already : Approaches old
        · obtain ⟨first, drain, run, drains⟩ := ih found already
          exact ⟨first, _, run, drains.step me found already found move few⟩
        · obtain rfl := lower_of_approaches kept gate found move already approaches
          exact ⟨mid, _, before, .lower found move few⟩
      · have stays : mid.threads[writer]? = some stage := by
          simpa [World.put, List.getElem?_set_ne own] using there
        obtain ⟨first, drain, run, drains⟩ := ih stays approaches
        exact ⟨first, _, run, drains.step me stays approaches found move few⟩

/-- In every interleaving, with fewer readers at once than the word can count: between the
step of a writer that lowers the word and the one with which it is inside, no more readers take
one away from `departing` than it found, and it is posted to once at the most, and only if it
waits. When it is inside, all of them have; it has waited if and only if not all of them were
there before it had published, and if it has waited it was posted to once. Every writer on its
way in has such an account; and where there is none, `departing` is zero and nobody and nothing
is left at the writer's semaphore. -/
theorem drain_handshake_exact (count : Nat) (world : Crowd kind)
    (run : Run kind ReadersFit (crowd kind free count) world) :
    (∀ (writer : ThreadId) (drain : Drain) (later : Crowd kind),
      Drains writer world drain later →
      drain.Bounded (roof.toInt - world.shared.readers.toInt) ∧
        ((∃ stage, later.threads[writer]? = some stage ∧ Approaches stage) ∨
          later.threads[writer]? = some (.inside .exclusive) ∧
            drain.Exact (roof.toInt - world.shared.readers.toInt))) ∧
    (∀ (writer : ThreadId) (stage : Stage Point), world.threads[writer]? = some stage →
      Approaches stage →
      ∃ before drain, Run kind ReadersFit (crowd kind free count) before ∧
        Drains writer before drain world) ∧
    ((∀ stage ∈ world.threads, ¬ Approaches stage) →
      world.shared.departing = 0 ∧ world.shared.writerWait = .empty) := by
  obtain ⟨kept, gate⟩ := sound_of_run run
  have one := admitted_le_one gate
  refine ⟨?_, ?_, ?_⟩
  · intro writer drain later drains
    obtain ⟨stage, there, stands⟩ := drains.stands run
    obtain ⟨kept, gate⟩ := sound_of_run (drains.run run)
    refine ⟨stands.bounded kept gate there, ?_⟩
    cases stands with
    | counting => exact .inl ⟨_, there, .publish _⟩
    | draining => exact .inl ⟨_, there, .drain⟩
    | inside exact => exact .inr ⟨there, exact⟩
  · intro writer stage there approaches
    exact exists_drains run there approaches
  · intro nobody
    have none := kept.nobody_approaches_iff.mpr nobody
    have words : world.shared.writerWait.permits.toNat = 0 ∧
        world.shared.departing.toInt = 0 := by
      rcases kept.counted.stages one with opened | counting | draining | writing <;> omega
    refine ⟨Int64.toInt_inj.mp words.2, ?_⟩
    have line := kept.writers.length_le
    rw [Nat.eq_zero_of_add_eq_zero_left none, Nat.le_zero, List.length_eq_zero_iff] at line
    have permits : world.shared.writerWait.permits = 0 := UInt64.toNat_inj.mp words.1
    rw [Semaphore.empty, Semaphore.ofPermits, ← permits, ← line]

/-- Threads 0 and 1 read, and thread 2 is about to lower the word as a writer. -/
def beset : Crowd kind :=
  ⟨⟨roof - 2, 0, ⟨.held, .empty⟩, .empty, .empty⟩,
    [.inside .shared, .inside .shared, .entering .exclusive .lower]⟩

/-- The readers have left, one of them before the writer had published, and it is inside. -/
def relieved : Crowd kind :=
  ⟨⟨0, 0, ⟨.held, .empty⟩, .empty, .empty⟩, [.outside, .outside, .inside .exclusive]⟩

private theorem beset_run : Run kind ReadersFit (crowd kind free 3) beset :=
  .step (.step (.step (.step (.step (.step .refl
    (.decide 0 rfl (.enter .shared)) (by decide))
    (.act 0 rfl) (by decide))
    (.decide 1 rfl (.enter .shared)) (by decide))
    (.act 1 rfl) (by decide))
    (.decide 2 rfl (.enter .exclusive)) (by decide))
    (.act 2 rfl) (by decide)

private theorem beset_drains : Drains 2 beset ⟨1, 1, 1, true⟩ relieved := by
  have lowered : Drains 2 beset ⟨0, 0, 0, false⟩ ⟨{ beset.shared with readers := -2 },
      [.inside .shared, .inside .shared, .entering .exclusive (.publish 2)]⟩ :=
    .lower rfl (.act rfl) (by decide)
  have early : Drains 2 beset ⟨1, 0, 0, false⟩
      ⟨{ beset.shared with readers := -1, departing := -1 },
        [.outside, .inside .shared, .entering .exclusive (.publish 2)]⟩ :=
    ((lowered.step 0 rfl (.publish 2) rfl (.decide (.leave .shared)) (by decide)).step
      0 rfl (.publish 2) rfl (.act rfl) (by decide)).step
      0 rfl (.publish 2) rfl (.act rfl) (by decide)
  have waits : Drains 2 beset ⟨1, 0, 0, true⟩
      ⟨⟨-1, 1, ⟨.held, .empty⟩, .empty, ⟨0, [2]⟩⟩,
        [.outside, .inside .shared, .entering .exclusive .drain]⟩ :=
    (early.step 2 rfl (.publish 2) rfl (.act rfl) (by decide)).step
      2 rfl .drain rfl (.act rfl) (by decide)
  have posted : Drains 2 beset ⟨1, 1, 1, true⟩
      ⟨⟨0, 0, ⟨.held, .empty⟩, .empty, ⟨1, []⟩⟩,
        [.outside, .outside, .entering .exclusive .drain]⟩ :=
    (((waits.step 1 rfl .drain rfl (.decide (.leave .shared)) (by decide)).step
      1 rfl .drain rfl (.act rfl) (by decide)).step
      1 rfl .drain rfl (.act rfl) (by decide)).step
      1 rfl .drain rfl (.act rfl) (by decide)
  exact posted.step 2 rfl .drain rfl (.act rfl) (by decide)

/-- One reader was early and one was late, and the late one woke the writer. -/
theorem woken_by_the_late_reader :
    Run kind ReadersFit (crowd kind free 3) beset ∧
      Drains 2 beset ⟨1, 1, 1, true⟩ relieved ∧
      Drain.Exact (roof.toInt - beset.shared.readers.toInt) ⟨1, 1, 1, true⟩ := by
  obtain ⟨accounts, _⟩ := drain_handshake_exact 3 beset beset_run
  obtain ⟨_, ⟨_, there, approaches⟩ | ⟨_, exact⟩⟩ := accounts 2 _ _ beset_drains
  · cases there
    cases approaches
  · exact ⟨beset_run, beset_drains, exact⟩

end Turnstile.Lock.Sharing
