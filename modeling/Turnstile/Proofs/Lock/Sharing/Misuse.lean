import Turnstile.Proofs.Lock.Sharing.Safety

/-!
# Releases of what nobody holds

A release looks at the word of the readers once, and that one look has to tell whether
there is anything to release. A writer's release takes every word that is not positive for
the word of a writer inside, and so it misses the writer that is still waiting for readers
to leave. A reader's release takes every word but the roof for the word of a reader inside,
and so it misses that a writer has lowered the word, or that the readers that are missing
still wait. `wrong_release_caught_iff` says in which of the states that users by the
contract can reach a wrong release breaks off, and what it does to the lock elsewhere.
-/

namespace Turnstile.Lock.Sharing

set_option autoImplicit false

open World (total)
open Usage (Crowd Run crowd)

variable {world : Crowd kind} {me : ThreadId} {stage : Stage Point} {lock : Sharing}

/-- A release in a mode breaks off at its first action. -/
def Caught (me : ThreadId) (mode : Mode) (lock : Sharing) : Prop :=
  ∃ fault changed, machine.act me (leave mode) lock = some (.done (.fault fault), changed)

/-- A writer that has lowered the word and is not inside yet. -/
inductive Approaches : Stage Point → Prop where
  | publish (inside : Int64) : Approaches (.entering .exclusive (.publish inside))
  | drain : Approaches (.entering .exclusive .drain)

theorem caught_exclusive_iff : Caught me .exclusive lock ↔ 0 < lock.readers := by
  constructor
  · rintro ⟨fault, changed, acted⟩
    simp only [machine, leave, act, Option.some.injEq, Prod.mk.injEq] at acted
    by_contra shut
    rw [if_neg shut] at acted
    obtain ⟨breaks, _⟩ := acted
    split at breaks <;> cases breaks
  · intro clear
    exact ⟨.noWriter, { lock with readers := lock.readers + roof }, by
      simp only [machine, leave, act, if_pos clear]⟩

theorem caught_shared_iff : Caught me .shared lock ↔ lock.readers = roof := by
  constructor
  · rintro ⟨fault, changed, acted⟩
    simp only [machine, leave, act, Option.some.injEq, Prod.mk.injEq] at acted
    by_contra below
    rw [if_neg below] at acted
    obtain ⟨breaks, _⟩ := acted
    split at breaks <;> cases breaks
  · intro full
    exact ⟨.noReader, { lock with readers := lock.readers + 1 }, by
      simp only [machine, leave, act, if_pos full]⟩

theorem total_role_eq_zero_iff (weight : Role → Nat) :
    total weight (world.threads.map role) = 0 ↔
      ∀ stage ∈ world.threads, weight (role stage) = 0 := by
  rw [World.total_map]
  constructor
  · intro none stage member
    obtain ⟨me, found⟩ := List.mem_iff_getElem?.mp member
    have light := World.weight_le_total (weight ∘ role) found
    exact Nat.le_zero.mp (none ▸ light)
  · intro light
    exact World.total_eq_zero fun _ stage found => light stage (List.mem_of_getElem? found)

theorem writes_eq_zero_iff (proper : IsProper stage) :
    Role.writes (role stage) = 0 ↔ holds stage ≠ some .exclusive := by
  cases proper with
  | inside mode => cases mode <;> simp [role, holds]
  | _ => simp [role, holds, Point.arrival, Point.departure]

theorem reads_eq_zero_iff (proper : IsProper stage) :
    Role.reads (role stage) = 0 ↔ holds stage ≠ some .shared := by
  cases proper with
  | inside mode => cases mode <;> simp [role, holds]
  | _ => simp [role, holds, Point.arrival, Point.departure]

theorem waits_eq_zero_iff (proper : IsProper stage) :
    Role.waits (role stage) = 0 ↔ stage ≠ .entering .shared .sleepShared := by
  cases proper with
  | inside mode => cases mode <;> simp [role]
  | _ => simp [role, Point.arrival, Point.departure]

theorem approaches_iff (proper : IsProper stage) :
    Role.counts (role stage) = 0 ∧ Role.drains (role stage) = 0 ↔ ¬ Approaches stage := by
  constructor
  · rintro ⟨counts, drains⟩ approaches
    cases approaches with
    | publish => simp [role, Point.arrival] at counts
    | drain => simp [role, Point.arrival] at drains
  · intro apart
    cases proper with
    | publish => exact absurd (.publish _) apart
    | drain => exact absurd .drain apart
    | inside mode => cases mode <;> simp [role]
    | _ => simp [role, Point.arrival, Point.departure]

namespace Kept

variable (kept : Kept world)

include kept in
theorem no_writer_iff : total Role.writes (world.threads.map role) = 0 ↔
    ∀ stage ∈ world.threads, holds stage ≠ some .exclusive := by
  rw [total_role_eq_zero_iff]
  exact forall₂_congr fun stage member => writes_eq_zero_iff (kept.proper stage member)

include kept in
theorem no_reader_iff : total Role.reads (world.threads.map role) = 0 ↔
    ∀ stage ∈ world.threads, holds stage ≠ some .shared := by
  rw [total_role_eq_zero_iff]
  exact forall₂_congr fun stage member => reads_eq_zero_iff (kept.proper stage member)

include kept in
theorem nobody_waits_iff : total Role.waits (world.threads.map role) = 0 ↔
    ∀ stage ∈ world.threads, stage ≠ .entering .shared .sleepShared := by
  rw [total_role_eq_zero_iff]
  exact forall₂_congr fun stage member => waits_eq_zero_iff (kept.proper stage member)

include kept in
theorem nobody_approaches_iff :
    total Role.counts (world.threads.map role) + total Role.drains (world.threads.map role) = 0 ↔
      ∀ stage ∈ world.threads, ¬ Approaches stage := by
  rw [Nat.add_eq_zero_iff, total_role_eq_zero_iff, total_role_eq_zero_iff, ← forall₂_and]
  exact forall₂_congr fun stage member => approaches_iff (kept.proper stage member)

end Kept

namespace Counted

variable {roles : List Role} (counted : Counted lock roles) (one : total Role.admitted roles ≤ 1)

include counted one in
theorem caught_exclusive_iff (nobody : total Role.writes roles = 0) :
    Caught me .exclusive lock ↔ total Role.counts roles + total Role.drains roles = 0 := by
  have word := counted.word
  have few := counted.few
  have single := writers_le_one one
  rw [Sharing.caught_exclusive_iff, Int64.lt_iff_toInt_lt, Int64.toInt_zero]
  rw [toInt_roof] at word few
  omega

include counted one in
theorem caught_shared_iff (nobody : total Role.reads roles = 0) :
    Caught me .shared lock ↔ total Role.waits roles = 0 ∧
      total Role.counts roles + total Role.drains roles = 0 ∧ total Role.writes roles = 0 := by
  have word := counted.word
  have few := counted.few
  have single := writers_le_one one
  rw [Sharing.caught_shared_iff, ← Int64.toInt_inj]
  rw [toInt_roof] at word few ⊢
  omega

include counted one in
theorem readers_eq_zero (writes : 0 < total Role.writes roles) (waits : total Role.waits roles = 0) :
    lock.readers = 0 := by
  have word := counted.word
  have single := writers_le_one one
  obtain ⟨reads, _⟩ := counted.writing writes
  rw [toInt_roof] at word
  rw [← Int64.toInt_inj, Int64.toInt_zero]
  omega

end Counted

/-- A release in a mode, left to itself, returns and leaves `changed` behind. -/
def Returns (mode : Mode) (lock changed : Sharing) : Prop :=
  World.Reaches machine ⟨lock, [leave mode]⟩ ⟨changed, [.done .left]⟩

theorem returns_of_gate (passed : Sharing) (held : passed.gate.word ≠ .free)
    (passes : World.Reaches machine ⟨lock, [leave .exclusive]⟩ ⟨passed, [.gate .leave .leave]⟩) :
    ∃ changed, Returns .exclusive lock changed := by
  cases word : passed.gate.word with
  | free => exact absurd word held
  | held =>
      refine ⟨{ passed with gate := { passed.gate with word := .free } }, passes.step (.act 0) ?_⟩
      simp [World.move?, World.act?, machine, act, Exclusive.act, word, World.put, atGate,
        Exclusive.answer?, afterGate]
  | contended =>
      let opened : Exclusive := { passed.gate with word := .free }
      refine ⟨{ passed with gate := { opened with parked := opened.parked.post } },
        (passes.step (.act 0) (?_ : _ = some ⟨{ passed with gate := opened },
          [.gate .leave .wake]⟩)).step (.act 0) ?_⟩
      · simp [World.move?, World.act?, machine, act, Exclusive.act, word, World.put, atGate,
          Exclusive.answer?, opened]
      · simp [World.move?, World.act?, machine, act, Exclusive.act, World.put, atGate,
          Exclusive.answer?, afterGate, opened]

theorem exclusive_returns (missed : ¬ Caught me .exclusive lock) (held : lock.gate.word ≠ .free) :
    ∃ changed, Returns .exclusive lock changed := by
  rw [caught_exclusive_iff] at missed
  let raised : Sharing := { lock with readers := lock.readers + roof }
  by_cases behind : lock.readers < 0
  · let count := (-lock.readers).toUInt64
    refine returns_of_gate
      { raised with readerWait := raised.readerWait.postMany count } held
      ((World.Reaches.refl.step (.act 0) (?_ : _ = some ⟨raised, [.letIn count]⟩)).step (.act 0) ?_)
    · simp [World.move?, World.act?, machine, leave, act, missed, behind, World.put, raised, count]
    · simp [World.move?, World.act?, machine, act, World.put]
  · refine returns_of_gate raised held (World.Reaches.refl.step (.act 0) ?_)
    simp [World.move?, World.act?, machine, leave, act, missed, behind, World.put, raised]

/-- A reader's release that finds the word below the roof returns, and has raised the word
by one. -/
theorem shared_returns (missed : ¬ Caught me .shared lock) :
    ∃ changed, Returns .shared lock changed ∧ changed.readers = lock.readers + 1 := by
  rw [caught_shared_iff] at missed
  let raised : Sharing := { lock with readers := lock.readers + 1 }
  let parted : Sharing := { raised with departing := raised.departing - 1 }
  by_cases behind : lock.readers < 0
  · have departs : World.Reaches machine ⟨lock, [leave .shared]⟩ ⟨raised, [.depart]⟩ := by
      refine World.Reaches.refl.step (.act 0) ?_
      simp [World.move?, World.act?, machine, leave, act, missed, behind, World.put, raised]
    by_cases last : lock.departing = 1
    · refine ⟨{ parted with writerWait := parted.writerWait.post },
        (departs.step (.act 0) (?_ : _ = some ⟨parted, [.wakeWriter]⟩)).step (.act 0) ?_, rfl⟩
      · simp [World.move?, World.act?, machine, act, last, World.put, parted, raised]
      · simp [World.move?, World.act?, machine, act, World.put]
    · refine ⟨parted, departs.step (.act 0) ?_, rfl⟩
      simp [World.move?, World.act?, machine, act, last, World.put, parted, raised]
  · refine ⟨raised, World.Reaches.refl.step (.act 0) ?_, rfl⟩
    simp [World.move?, World.act?, machine, leave, act, missed, behind, World.put, raised]

/-- In every world that users by the contract can reach: while no writer is inside, a
writer's release breaks off exactly if no writer has lowered the word on its way in; and
while no reader is inside, a reader's release breaks off exactly if nobody waits to be let
in and no writer has lowered the word, on its way in or inside. A release of either mode that
does not break off at once returns, left to itself, as a right one does; and a reader's release
beside a writer that nobody waits for opens the lock to readers beside that writer. -/
theorem wrong_release_caught_iff (count : Nat) (world : Crowd kind) (me : ThreadId)
    (run : Run kind ReadersFit (crowd kind free count) world) :
    ((∀ stage ∈ world.threads, holds stage ≠ some .exclusive) →
      (Caught me .exclusive world.shared ↔ ∀ stage ∈ world.threads, ¬ Approaches stage) ∧
      ((∃ stage ∈ world.threads, Approaches stage) →
        ∃ changed, Returns .exclusive world.shared changed)) ∧
    ((∀ stage ∈ world.threads, holds stage ≠ some .shared) →
      (Caught me .shared world.shared ↔ ∀ stage ∈ world.threads,
        stage ≠ .entering .shared .sleepShared ∧ ¬ Approaches stage ∧
          holds stage ≠ some .exclusive) ∧
      (¬ Caught me .shared world.shared → ∃ changed, Returns .shared world.shared changed)) ∧
    ((∃ stage ∈ world.threads, holds stage = some .exclusive) →
      (∀ stage ∈ world.threads, stage ≠ .entering .shared .sleepShared) →
      ∃ changed, Returns .shared world.shared changed ∧ admits .shared changed = true) := by
  obtain ⟨kept, gate⟩ :=
    kept_of_run (fun _ => True) run (fun _ few => few) (fun _ _ => trivial)
  have held : Exclusive.Held world.shared.gate (world.threads.map atTheGate) :=
    Exclusive.held_of_run gate
  have one := admitted_le_one held
  have counted := kept.counted
  refine ⟨?_, ?_, ?_⟩
  · intro nobody
    have told : Caught me .exclusive world.shared ↔ _ :=
      counted.caught_exclusive_iff one (kept.no_writer_iff.mpr nobody)
    rw [kept.nobody_approaches_iff] at told
    refine ⟨told, ?_⟩
    rintro ⟨stage, member, approaches⟩
    obtain ⟨writer, found⟩ := List.mem_iff_getElem?.mp member
    refine exclusive_returns (fun caught => told.mp caught stage member approaches) ?_
    apply held_of_holding held found
    cases approaches <;> exact Nat.one_pos
  · intro nobody
    have told : Caught me .shared world.shared ↔ _ :=
      counted.caught_shared_iff one (kept.no_reader_iff.mpr nobody)
    rw [kept.nobody_approaches_iff, kept.nobody_waits_iff, kept.no_writer_iff, ← forall₂_and,
      ← forall₂_and] at told
    refine ⟨told, fun missed => ?_⟩
    obtain ⟨changed, returns, _⟩ := shared_returns missed
    exact ⟨changed, returns⟩
  · rintro ⟨stage, member, writes⟩ nobodyWaits
    have writers : 0 < total Role.writes (world.threads.map role) := by
      refine Nat.pos_of_ne_zero fun none => ?_
      exact kept.no_writer_iff.mp none stage member writes
    have zero := counted.readers_eq_zero one writers (kept.nobody_waits_iff.mpr nobodyWaits)
    have missed : ¬ Caught me .shared world.shared := by
      rw [caught_shared_iff, zero]
      decide
    obtain ⟨changed, returns, raised⟩ := shared_returns missed
    refine ⟨changed, returns, ?_⟩
    rw [admits, raised, zero]
    rfl

/-- Thread 0 reads, and thread 1 waits for it as a writer. -/
def pressed : Crowd kind :=
  ⟨⟨-1, 1, ⟨.held, .empty⟩, .empty, .empty⟩, [.inside .shared, .entering .exclusive .drain]⟩

/-- Thread 0 writes, and nobody else is near. -/
def seized : Crowd kind :=
  ⟨⟨0, 0, ⟨.held, .empty⟩, .empty, .empty⟩, [.inside .exclusive, .outside]⟩

private theorem pressed_run : Run kind ReadersFit (crowd kind free 2) pressed :=
  .step (.step (.step (.step (.step (.step .refl
    (.decide 0 rfl (.enter .shared)) (by decide))
    (.act 0 rfl) (by decide))
    (.decide 1 rfl (.enter .exclusive)) (by decide))
    (.act 1 rfl) (by decide))
    (.act 1 rfl) (by decide))
    (.act 1 rfl) (by decide)

private theorem seized_run : Run kind ReadersFit (crowd kind free 2) seized :=
  .step (.step (.step .refl
    (.decide 0 rfl (.enter .exclusive)) (by decide))
    (.act 0 rfl) (by decide))
    (.act 0 rfl) (by decide)

/-- A wrong writer's release passes for a right one below a writer that drains, and a wrong
reader's release beside a writer that is inside. -/
theorem wrong_release_returns :
    (∃ changed, Returns .exclusive pressed.shared changed) ∧
      ∃ changed, Returns .shared seized.shared changed ∧ admits .shared changed = true := by
  obtain ⟨exclusive, _⟩ := wrong_release_caught_iff 2 pressed 2 pressed_run
  obtain ⟨_, _, beside⟩ := wrong_release_caught_iff 2 seized 2 seized_run
  have nobodyWrites : ∀ stage ∈ pressed.threads, holds stage ≠ some .exclusive := by decide
  refine ⟨(exclusive nobodyWrites).2 ⟨_, .tail _ (.head _), .drain⟩, ?_⟩
  exact beside ⟨_, .head _, rfl⟩ (by decide)

/-- Not every wrong release is caught: beside a writer that drains a writer's release is not,
and beside a writer that is inside a reader's release is not, after which a reader comes in
beside that writer. -/
theorem wrong_releases_missed :
    (Run kind ReadersFit (crowd kind free 2) pressed ∧
      (∀ stage ∈ pressed.threads, holds stage ≠ some .exclusive) ∧
      ¬ Caught 2 .exclusive pressed.shared) ∧
    Run kind ReadersFit (crowd kind free 2) seized ∧
      (∀ stage ∈ seized.threads, holds stage ≠ some .shared) ∧
      ¬ Caught 2 .shared seized.shared ∧
      ∃ changed, World.Reaches machine ⟨seized.shared, [leave .shared, tryEnter .shared]⟩
        ⟨changed, [.done .left, .done .entered]⟩ := by
  refine ⟨⟨pressed_run, by decide, ?_⟩, seized_run, by decide, ?_, ?_⟩
  · rw [caught_exclusive_iff]
    decide
  · rw [caught_shared_iff]
    decide
  · exact ⟨seized.shared, ((World.Reaches.refl.step (.act 0) rfl).step (.act 1) rfl).step
      (.act 1) rfl⟩

end Turnstile.Lock.Sharing
