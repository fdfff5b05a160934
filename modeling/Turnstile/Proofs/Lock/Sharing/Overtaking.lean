import Turnstile.Proofs.Lock.Sharing.Misuse

/-!
# Readers that come in behind a writer

From the moment a writer lowers the word until it raises it again every reader finds the
word shut and goes to sleep, so that a reader comes in only with a permit. No permit is
posted in that time; but those of the release before may still lie there, and the readers
they were posted for and the readers that came behind the writer sleep on the one
semaphore. `entries_behind_writer` keeps the account: as many readers come in behind a
writer as waited when it lowered the word, whoever they are. None does where nobody waited,
and `late_reader_overtakes` is a run in which one does that came after the writer.
-/

namespace Turnstile.Lock.Sharing

set_option autoImplicit false

open World (total)
open Usage (Crowd Run crowd)

variable {me writer : ThreadId} {old new : Stage Point} {world later : Crowd kind}
  {changed : Sharing} {entered : Nat}

/-- The thread is a writer that has lowered the word and not raised it. -/
def Lowered (writer : ThreadId) (world : Crowd kind) : Prop :=
  ∃ stage, world.threads[writer]? = some stage ∧
    (Approaches stage ∨ holds stage = some .exclusive)

/-- How many readers come in with a step of one thread. -/
def comesIn (old new : Stage Point) : Nat :=
  if holds old ≠ some .shared ∧ holds new = some .shared then 1 else 0

/-- How many readers come in after `writer` has lowered the word in its step from `world`,
and until it raises it again. -/
inductive Shut (writer : ThreadId) (world : Crowd kind) : Nat → Crowd kind → Prop where
  | lower {old new : Stage Point} {changed : Sharing} (found : world.threads[writer]? = some old)
      (move : Usage.Move kind writer old world.shared new changed)
      (before : ¬ Lowered writer world) (after : Lowered writer (world.put writer (new, changed)))
      (few : ReadersFit (world.put writer (new, changed))) :
      Shut writer world 0 (world.put writer (new, changed))
  | step {entered : Nat} {mid : Crowd kind} {me : ThreadId} {old new : Stage Point}
      {changed : Sharing} (still : Shut writer world entered mid) (lowered : Lowered writer mid)
      (found : mid.threads[me]? = some old) (move : Usage.Move kind me old mid.shared new changed)
      (few : ReadersFit (mid.put me (new, changed))) :
      Shut writer world (entered + comesIn old new) (mid.put me (new, changed))

theorem Shut.run {start : Crowd kind} (run : Run kind ReadersFit start world)
    (still : Shut writer world entered later) : Run kind ReadersFit start later := by
  induction still with
  | lower found move _ _ few => exact run.step (move.step found) few
  | step _ _ found move few ih => exact .step ih (move.step found) few

/-- The readers that are counted and wait to be let in. -/
def waiting (world : Crowd kind) : Nat := total Role.waits (world.threads.map role)

theorem comesIn_eq (before : IsProper old) (after : IsProper new) :
    comesIn old new = Role.reads (role new) - Role.reads (role old) := by
  have outside := reads_eq_zero_iff before
  have inside := reads_eq_zero_iff after
  have single (role : Role) : Role.reads role ≤ 1 := by cases role <;> simp
  have atMost := single (role new)
  unfold comesIn
  split <;> grind

namespace Counted

variable {lock : Sharing} {roles : List Role} {past next : Role} (counted : Counted lock roles)
  (one : total Role.admitted roles ≤ 1) (found : roles[me]? = some past)
  (change : Change me past lock next changed)

include counted in
theorem below_one (lowered : 0 < total Role.counts roles + total Role.drains roles +
    total Role.writes roles) : ¬ 1 ≤ lock.readers := by
  have word := counted.word
  have few := counted.few
  rw [Int64.le_iff_toInt_le, Int64.toInt_one]
  rw [toInt_roof] at word few
  omega

include counted one found change in
theorem spends (lowered : 0 < total Role.counts roles + total Role.drains roles +
      total Role.writes roles) :
    (Role.reads next - Role.reads past) + changed.readerWait.permits.toNat =
      lock.readerWait.permits.toNat := by
  cases change with
  | accept clear => exact absurd clear (counted.below_one lowered)
  | rise taken =>
      have fewer := Semaphore.toNat_permits_taken taken
      simp only [Role.reads]
      omega
  | park joined => simp [Semaphore.permits_joined joined]
  | letIn =>
      obtain ⟨counts, _, drains, writes, _⟩ := alone one found Nat.one_pos
      simp only [Role.counts, Role.drains, Role.writes] at counts drains writes
      omega
  | _ => simp

include counted change in
theorem waiting_of_reads (lowered : 0 < total Role.counts roles + total Role.drains roles +
      total Role.writes roles) (comes : 0 < Role.reads next - Role.reads past) :
    past = .waiting := by
  cases change with
  | accept clear => exact absurd clear (counted.below_one lowered)
  | rise => rfl
  | _ => simp at comes

include counted one found change in
theorem waits_eq_of_lowers (before : Role.counts past + Role.drains past + Role.writes past = 0)
    (after : 0 < Role.counts next + Role.drains next + Role.writes next) :
    total Role.waits roles = changed.readerWait.permits.toNat := by
  have within : 0 < Role.admitted past := by
    cases change <;> simp_all
  obtain ⟨counts, _, drains, writes, hosts⟩ := alone one found within
  obtain ⟨waits, _⟩ := counted.opened (by omega)
  rw [waits, hosts]
  cases change <;> simp_all

end Counted

theorem lowered_iff (found : world.threads[writer]? = some old) (proper : IsProper old) :
    Lowered writer world ↔
      0 < Role.counts (role old) + Role.drains (role old) + Role.writes (role old) := by
  have none : Role.counts (role old) + Role.drains (role old) + Role.writes (role old) = 0 ↔
      ¬ Approaches old ∧ holds old ≠ some .exclusive := by
    rw [← approaches_iff proper, ← writes_eq_zero_iff proper, Nat.add_eq_zero_iff,
      Nat.add_eq_zero_iff]
  have stands : Lowered writer world ↔ Approaches old ∨ holds old = some .exclusive := by
    simp [Lowered, found]
  rw [stands, Nat.pos_iff_ne_zero, Ne, none]
  tauto

namespace Kept

variable (kept : Kept world)
  (gate : Exclusive.Held world.shared.gate (world.threads.map atTheGate))
  (found : world.threads[me]? = some old)
  (move : Usage.Move kind me old world.shared new changed)

include kept in
theorem pos_of_lowered (lowered : Lowered writer world) :
    0 < total Role.counts (world.threads.map role) + total Role.drains (world.threads.map role) +
      total Role.writes (world.threads.map role) := by
  obtain ⟨stage, found, _⟩ := id lowered
  have here : (world.threads.map role)[writer]? = some (role stage) := by simp [found]
  have stands := (lowered_iff found (kept.proper stage (List.mem_of_getElem? found))).mp lowered
  have counts := World.weight_le_total Role.counts here
  have drains := World.weight_le_total Role.drains here
  have writes := World.weight_le_total Role.writes here
  omega

include kept gate found move in
theorem spends (lowered : Lowered writer world) :
    comesIn old new + changed.readerWait.permits.toNat =
      world.shared.readerWait.permits.toNat := by
  have progress := kept.progress gate found move
  have here : (world.threads.map role)[me]? = some (role old) := by simp [found]
  rw [comesIn_eq (kept.proper old (List.mem_of_getElem? found)) progress.proper]
  exact kept.counted.spends (admitted_le_one gate) here progress.change
    (kept.pos_of_lowered lowered)

include kept gate found move in
theorem asleep_of_comesIn (lowered : Lowered writer world) (comes : comesIn old new = 1) :
    old = .entering .shared .sleepShared := by
  have progress := kept.progress gate found move
  have proper := kept.proper old (List.mem_of_getElem? found)
  rw [comesIn_eq proper progress.proper] at comes
  have waits := kept.counted.waiting_of_reads progress.change (kept.pos_of_lowered lowered)
    (by omega)
  by_contra awake
  rw [← Ne, ← waits_eq_zero_iff proper, waits] at awake
  cases awake

include kept gate found move in
theorem waiting_eq_of_lowers (before : ¬ Lowered me world)
    (after : Lowered me (world.put me (new, changed))) :
    waiting world = changed.readerWait.permits.toNat := by
  have progress := kept.progress gate found move
  have here : (world.threads.map role)[me]? = some (role old) := by simp [found]
  have later : (world.put me (new, changed)).threads[me]? = some new := World.found_set found
  rw [lowered_iff found (kept.proper old (List.mem_of_getElem? found))] at before
  rw [lowered_iff later progress.proper] at after
  exact kept.counted.waits_eq_of_lowers (admitted_le_one gate) here progress.change
    (Nat.eq_zero_of_not_pos before) after

end Kept

theorem Shut.account {count : Nat} (run : Run kind ReadersFit (crowd kind free count) world)
    (still : Shut writer world entered later) :
    entered + later.shared.readerWait.permits.toNat = waiting world := by
  induction still with
  | lower found move before after few =>
      obtain ⟨kept, gate⟩ := sound_of_run run
      rw [Nat.zero_add]
      exact (kept.waiting_eq_of_lowers gate found move before after).symm
  | step still lowered found move few ih =>
      obtain ⟨kept, gate⟩ := sound_of_run (still.run run)
      rw [← ih, Nat.add_assoc]
      exact congrArg _ (kept.spends gate found move lowered)

/-- In every interleaving, with fewer readers at once than the word can count: as many
readers come in behind a writer as waited when it lowered the word, less those for whom the
permit is still there. Each of them comes in from its sleep, and so never by an attempt that
does not wait. When the writer is inside, none of those permits is left. -/
theorem entries_behind_writer (count : Nat) (world later : Crowd kind) (writer : ThreadId)
    (entered : Nat) (run : Run kind ReadersFit (crowd kind free count) world)
    (still : Shut writer world entered later) :
    entered + later.shared.readerWait.permits.toNat = waiting world ∧
    (∀ (me : ThreadId) (old new : Stage Point) (changed : Sharing), Lowered writer later →
      later.threads[me]? = some old → Usage.Move kind me old later.shared new changed →
      comesIn old new = 1 → old = .entering .shared .sleepShared) ∧
    ((∃ stage, later.threads[writer]? = some stage ∧ holds stage = some .exclusive) →
      entered = waiting world) := by
  obtain ⟨kept, gate⟩ := kept_of_run (fun _ => True) (still.run run) (fun _ few => few)
    (fun _ _ => trivial)
  have held : Exclusive.Held later.shared.gate (later.threads.map atTheGate) :=
    Exclusive.held_of_run gate
  have account := still.account run
  refine ⟨account, ?_, ?_⟩
  · intro me old new changed lowered found move comes
    exact kept.asleep_of_comesIn held found move lowered comes
  · rintro ⟨stage, found, inside⟩
    have here : (later.threads.map role)[writer]? = some .writing := by
      simp [found, role_of_holds_exclusive inside]
    obtain ⟨_, spent, _⟩ := kept.counted.writing (World.weight_le_total Role.writes here)
    omega

/-- A release let thread 1 in, which has not taken its permit yet, and thread 2 is about to
lower the word as a writer. Thread 3 is nowhere near. -/
def handed : Crowd kind :=
  ⟨⟨roof - 1, 0, ⟨.held, .empty⟩, ⟨1, []⟩, .empty⟩,
    [.outside, .entering .shared .sleepShared, .entering .exclusive .lower, .outside]⟩

/-- Thread 3 is inside with the permit of thread 1, and the writer waits for it to leave. -/
def overtaken : Crowd kind :=
  ⟨⟨-2, 1, ⟨.held, .empty⟩, .empty, .empty⟩,
    [.outside, .entering .shared .sleepShared, .entering .exclusive .drain, .inside .shared]⟩

private theorem handed_run : Run kind ReadersFit (crowd kind free 4) handed :=
  .step (.step (.step (.step (.step (.step (.step (.step (.step (.step (.step .refl
    (.decide 0 rfl (.enter .exclusive)) (by decide))
    (.act 0 rfl) (by decide))
    (.act 0 rfl) (by decide))
    (.decide 1 rfl (.enter .shared)) (by decide))
    (.act 1 rfl) (by decide))
    (.decide 0 rfl (.leave .exclusive)) (by decide))
    (.act 0 rfl) (by decide))
    (.act 0 rfl) (by decide))
    (.act 0 rfl) (by decide))
    (.decide 2 rfl (.enter .exclusive)) (by decide))
    (.act 2 rfl) (by decide)

private theorem handed_shut : Shut 2 handed 1 overtaken := by
  have before : ¬ Lowered 2 handed := by
    rw [lowered_iff rfl .lower]
    decide
  have lowered : Shut 2 handed 0 ⟨{ handed.shared with readers := -1 },
      [.outside, .entering .shared .sleepShared, .entering .exclusive (.publish 1), .outside]⟩ :=
    .lower rfl (.act rfl) before ⟨_, rfl, .inl (.publish 1)⟩ (by decide)
  have drains : Shut 2 handed 0 ⟨{ handed.shared with readers := -1, departing := 1 },
      [.outside, .entering .shared .sleepShared, .entering .exclusive .drain, .outside]⟩ :=
    lowered.step ⟨_, rfl, .inl (.publish 1)⟩ rfl
      (.act rfl : Usage.Move kind 2 (.entering .exclusive (.publish 1)) _
        (.entering .exclusive .drain) _) (by decide)
  have comes : Shut 2 handed 0 ⟨{ handed.shared with readers := -1, departing := 1 },
      [.outside, .entering .shared .sleepShared, .entering .exclusive .drain,
        .entering .shared .enterShared]⟩ :=
    drains.step ⟨_, rfl, .inl .drain⟩ rfl
      (.decide (.enter .shared) : Usage.Move kind 3 _ _ _ _) (by decide)
  have asleep : Shut 2 handed 0 ⟨{ handed.shared with readers := -2, departing := 1 },
      [.outside, .entering .shared .sleepShared, .entering .exclusive .drain,
        .entering .shared .sleepShared]⟩ :=
    comes.step ⟨_, rfl, .inl .drain⟩ rfl
      (.act rfl : Usage.Move kind 3 (.entering .shared .enterShared) _
        (.entering .shared .sleepShared) _) (by decide)
  exact asleep.step ⟨_, rfl, .inl .drain⟩ rfl (.act rfl : Usage.Move kind 3 _ _ _ _) (by decide)

/-- A reader that came after the writer had lowered the word is inside before the writer,
and the one that the release before let in still waits. -/
theorem late_reader_overtakes :
    Run kind ReadersFit (crowd kind free 4) handed ∧ handed.threads[3]? = some .outside ∧
      Shut 2 handed 1 overtaken ∧ Lowered 2 overtaken ∧
      overtaken.threads[3]? = some (.inside .shared) :=
  ⟨handed_run, rfl, handed_shut, ⟨_, rfl, .inl .drain⟩, rfl⟩

end Turnstile.Lock.Sharing
