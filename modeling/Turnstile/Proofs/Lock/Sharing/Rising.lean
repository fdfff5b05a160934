import Turnstile.Proofs.Lock.Sharing.Stages
import Turnstile.Proofs.Schedule

/-!
# Readers that have been let in

The readers that a writer lets in take their permits beside whatever else goes on: nothing
that the others do depends on it, and nothing that they do stops it. So what a world comes
to may be told as if these readers were in at once, and the order in which they rise and
the others act does not matter.
-/

namespace Turnstile.Lock.Sharing

set_option autoImplicit false

open World (total)

variable {world later : World Sharing Point} {goal : World Sharing Point → Prop} {lock changed : Sharing}
  {me : ThreadId} {point new : Point} {moves more : Nat}

/-- Where a thread is once the readers that were woken are in. -/
def rise : Point → Point
  | .sleepShared => .done .entered
  | point => point

def asleep : Point → Nat
  | .sleepShared => 1
  | _ => 0

/-- The thread does not come to wait for a reader's permit, and posts none. -/
def Aside : Point → Prop
  | .enterShared | .raise | .letIn _ => False
  | _ => True

/-- Every reader that sleeps has a permit. -/
structure Rising (world : World Sharing Point) : Prop where
  aside : ∀ point ∈ world.threads, Aside point
  line : world.shared.readerWait.line = []
  permits : world.shared.readerWait.permits.toNat = total asleep world.threads

def risen (world : World Sharing Point) : World Sharing Point :=
  ⟨{ world.shared with readerWait := .empty }, world.threads.map rise⟩

theorem rise_of_awake (awake : asleep point = 0) : rise point = point := by
  cases point with
  | sleepShared => cases awake
  | _ => rfl

theorem aside_after_look (seen : Int64) : Aside (afterLook seen) ∧ asleep (afterLook seen) = 0 := by
  unfold afterLook
  split <;> exact ⟨trivial, rfl⟩

theorem aside_after_lower (seen : Int64) : Aside (afterLower seen) ∧ asleep (afterLower seen) = 0 := by
  unfold afterLower
  repeat' split
  all_goals exact ⟨trivial, rfl⟩

theorem aside_after_publish (departed inside : Int64) :
    Aside (afterPublish departed inside) ∧ asleep (afterPublish departed inside) = 0 := by
  simp only [afterPublish]
  repeat' split
  all_goals exact ⟨trivial, rfl⟩

theorem aside_at_gate (passage : Passage) (point : Exclusive.Point) :
    Aside (atGate passage point) ∧ asleep (atGate passage point) = 0 := by
  cases point with
  | done answer => cases passage <;> cases answer <;> exact ⟨trivial, rfl⟩
  | _ => exact ⟨trivial, rfl⟩

theorem act_beside_risers (aside : Aside point) (awake : asleep point = 0)
    (acted : act me point lock = some (new, changed)) :
    (Aside new ∧ asleep new = 0) ∧ changed.readerWait = lock.readerWait ∧
      act me point { lock with readerWait := .empty } =
        some (new, { changed with readerWait := .empty }) := by
  cases point with
  | enterShared | raise | letIn => exact absurd aside id
  | sleepShared => cases awake
  | done => cases acted
  | readShared =>
      cases acted
      exact ⟨aside_after_look _, rfl, rfl⟩
  | exchangeShared seen =>
      by_cases same : lock.readers = seen
      · simp only [act, if_pos same, Option.some.injEq, Prod.mk.injEq] at acted ⊢
        obtain ⟨rfl, rfl⟩ := acted
        exact ⟨⟨trivial, rfl⟩, rfl, rfl, rfl⟩
      · simp only [act, if_neg same, Option.some.injEq, Prod.mk.injEq] at acted ⊢
        obtain ⟨rfl, rfl⟩ := acted
        exact ⟨aside_after_look _, rfl, rfl, rfl⟩
  | leaveShared =>
      cases acted
      refine ⟨?_, rfl, rfl⟩
      repeat' split
      all_goals exact ⟨trivial, rfl⟩
  | depart =>
      cases acted
      refine ⟨?_, rfl, rfl⟩
      split <;> exact ⟨trivial, rfl⟩
  | wakeWriter =>
      cases acted
      exact ⟨⟨trivial, rfl⟩, rfl, rfl⟩
  | gate passage point =>
      obtain ⟨next, gate, acts, rfl, rfl⟩ := act_gate acted
      exact ⟨aside_at_gate passage next, rfl, act_of_gate passage acts⟩
  | lower =>
      cases acted
      exact ⟨aside_after_lower _, rfl, rfl⟩
  | publish inside =>
      cases acted
      exact ⟨aside_after_publish _ _, rfl, rfl⟩
  | drain =>
      cases waited : lock.writerWait.wait me with
      | taken writerWait =>
          rw [act_drain_taken waited] at acted
          cases acted
          exact ⟨⟨trivial, rfl⟩, rfl, act_drain_taken waited⟩
      | joined writerWait =>
          rw [act_drain_joined waited] at acted
          cases acted
          exact ⟨⟨trivial, rfl⟩, rfl, act_drain_joined waited⟩
      | asleep => simp [act, waited] at acted
  | claim =>
      by_cases empty : lock.readers = roof
      · simp only [act, if_pos empty, Option.some.injEq, Prod.mk.injEq] at acted ⊢
        obtain ⟨rfl, rfl⟩ := acted
        exact ⟨⟨trivial, rfl⟩, rfl, rfl, rfl⟩
      · simp only [act, if_neg empty, Option.some.injEq, Prod.mk.injEq] at acted ⊢
        obtain ⟨rfl, rfl⟩ := acted
        exact ⟨⟨trivial, rfl⟩, rfl, rfl, rfl⟩

namespace Rising

theorem put (rising : Rising world) (found : world.threads[me]? = some point) (aside : Aside new)
    (line : changed.readerWait.line = [])
    (permits : changed.readerWait.permits.toNat + asleep point =
      world.shared.readerWait.permits.toNat + asleep new) :
    Rising (world.put me (new, changed)) := by
  refine ⟨?_, line, ?_⟩
  · intro there member
    rcases List.mem_or_eq_of_mem_set member with member | rfl
    · exact rising.aside there member
    · exact aside
  · have change := World.total_set asleep found new
    have before := rising.permits
    simp only [World.put]
    omega

theorem riser_acts (rising : Rising world) (found : world.threads[me]? = some .sleepShared) :
    ∃ readerWait : Semaphore, world.shared.readerWait.wait me = .taken readerWait ∧
      readerWait.line = [] ∧
        readerWait.permits.toNat + 1 = world.shared.readerWait.permits.toNat := by
  have sleeps : asleep .sleepShared ≤ total asleep world.threads :=
    World.weight_le_total asleep found
  have some : world.shared.readerWait.permits ≠ 0 := by
    intro none
    have permits := rising.permits
    rw [none] at permits
    simp only [asleep, UInt64.toNat_zero] at sleeps permits
    omega
  have outside : me ∉ world.shared.readerWait.line := by
    rw [rising.line]
    exact List.not_mem_nil
  have taken := Semaphore.wait_of_some outside some
  exact ⟨_, taken, rising.line, Semaphore.toNat_permits_taken taken⟩

theorem risen_eq (rising : Rising world) (none : total asleep world.threads = 0) :
    risen world = world := by
  have permits := rising.permits
  rw [none] at permits
  have empty : world.shared.readerWait = .empty := by
    have same : world.shared.readerWait.permits = 0 := UInt64.toNat_inj.mp permits
    calc world.shared.readerWait
        = ⟨world.shared.readerWait.permits, world.shared.readerWait.line⟩ := rfl
      _ = .empty := by rw [same, rising.line]; rfl
  have threads : world.threads.map rise = world.threads := by
    refine (List.map_congr_left fun point member => ?_).trans (List.map_id _)
    obtain ⟨me, found⟩ := List.mem_iff_getElem?.mp member
    have light := World.weight_le_total asleep found
    exact rise_of_awake (by omega)
  rw [risen, threads, ← empty]

theorem nobody_sleeps_of_quiet (rising : Rising world) (quiet : world.Quiet machine) :
    total asleep world.threads = 0 := by
  refine World.total_eq_zero fun me point found => ?_
  cases point with
  | sleepShared =>
      obtain ⟨_, taken, _⟩ := rising.riser_acts found
      have still := World.still_of_quiet quiet found
      rw [show machine.act me .sleepShared world.shared = _ from act_sleepShared_taken taken] at still
      cases still
  | _ => rfl

theorem step (rising : Rising world) (acts : world.Acts machine later) :
    Rising later ∧
      (risen later = risen world ∧ total asleep later.threads < total asleep world.threads ∨
        (risen world).Acts machine (risen later) ∧
          total asleep later.threads = total asleep world.threads) := by
  obtain ⟨me, moved⟩ := acts
  obtain ⟨point, new, changed, found, acted, rfl⟩ := World.act_eq_some_iff.mp moved
  have booked := World.total_set asleep found new
  have map : (world.threads.set me new).map rise = (world.threads.map rise).set me (rise new) :=
    List.map_set
  have here : (world.threads.map rise)[me]? = some (rise point) := by simp [found]
  by_cases sleeps : point = .sleepShared
  · subst sleeps
    obtain ⟨readerWait, taken, line, permits⟩ := rising.riser_acts found
    rw [show machine.act me .sleepShared world.shared = _ from act_sleepShared_taken taken] at acted
    cases acted
    refine ⟨rising.put found trivial line permits, .inl ⟨?_, ?_⟩⟩
    · have same : (world.threads.map rise).set me (.done .entered) = world.threads.map rise :=
        World.set_self here
      simp only [risen, World.put, map, rise, same]
    · simp only [asleep] at booked
      exact Nat.lt_of_succ_le (Nat.le_of_eq booked)
  · have awake : asleep point = 0 := by
      cases point with
      | sleepShared => exact absurd rfl sleeps
      | _ => rfl
    have aside := rising.aside point (List.mem_of_getElem? found)
    obtain ⟨⟨asideNew, awakeNew⟩, kept, acts⟩ := act_beside_risers aside awake acted
    refine ⟨rising.put found asideNew (by rw [kept, rising.line]) (by rw [kept, awake, awakeNew]),
      .inr ⟨⟨me, ?_⟩, ?_⟩⟩
    · rw [rise_of_awake awake] at here
      refine World.act_eq_some_iff.mpr ⟨point, new, _, here, acts, ?_⟩
      simp only [risen, World.put, map, rise_of_awake awakeNew]
    · simp only [World.put]
      omega

theorem comes_of_risen (rising : Rising world) (comes : World.Comes machine goal moves (risen world))
    (enough : moves + total asleep world.threads ≤ more) : World.Comes machine goal more world := by
  have same : ∀ last, Rising last → last.Quiet machine → risen last = last :=
    fun last rising quiet => rising.risen_eq (rising.nobody_sleeps_of_quiet quiet)
  refine .of_view (fun world later rising acts => rising.step acts) ?_ ?_ rising comes enough
  · intro last rising quiet
    rwa [same last rising quiet]
  · intro last rising quiet there
    rwa [same last rising quiet] at there

end Rising

end Turnstile.Lock.Sharing
