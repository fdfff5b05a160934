import Turnstile.Proofs.Permits.Serving

/-!
# Both counters are prompt

Every action brings its caller nearer to its answer, or, with the count as it is, nearer to a
sleep in the line. A permit that is taken may send the other callers back to another look, and
a release may wake all of them; but each such action uses up one that its caller cannot do
again, and so the actions come to an end, whoever acts when.
-/

namespace Turnstile.Permits

set_option autoImplicit false

open World (total)

/-- What a caller has still to do: some actions that may throw others back, and, with a given
count, some that do not. -/
structure Paced {backend : Backend} (reading : Reading backend) (pending : backend.Point → Nat)
    (rank : UInt64 → backend.Point → Nat) : Prop where
  few : ∀ point, pending point ≤ 3
  light : ∀ count point, rank count point ≤ 6
  act : ∀ (me : ThreadId) (old new : backend.Point) (shared changed : backend.Shared),
    backend.machine.act me old shared = some (new, changed) →
    pending new < pending old ∨
      pending new = pending old ∧ backend.count changed = backend.count shared ∧
        (reading.line changed = reading.line shared ∧
            rank (backend.count shared) new < rank (backend.count shared) old ∨
          reading.line changed = reading.line shared ++ [me] ∧
            rank (backend.count shared) new < rank (backend.count shared) old + 5)

namespace Paced

variable {backend : Backend} {reading : Reading backend} {pending : backend.Point → Nat}
  {rank : UInt64 → backend.Point → Nat}

/-- What the actions are worth that throw nobody back. -/
def effort (reading : Reading backend) (rank : UInt64 → backend.Point → Nat)
    (world : World backend.Shared backend.Point) : Nat :=
  total (rank (backend.count world.shared)) world.threads +
    5 * (world.threads.length - (reading.line world.shared).length)

def measure (reading : Reading backend) (pending : backend.Point → Nat)
    (rank : UInt64 → backend.Point → Nat) (world : World backend.Shared backend.Point) : Nat :=
  (11 * world.threads.length + 1) * total pending world.threads + effort reading rank world

theorem effort_le (paced : Paced reading pending rank) (world : World backend.Shared backend.Point) :
    effort reading rank world ≤ 11 * world.threads.length := by
  have ranked : total (rank (backend.count world.shared)) world.threads ≤ world.threads.length * 6 :=
    World.total_le_mul (paced.light _)
  unfold effort
  omega

theorem length_line_le (world : World backend.Shared backend.Point)
    (lined : Lined (reading.standings world) (reading.counter world.shared)) :
    (reading.line world.shared).length ≤ world.threads.length := by
  have asleep : ∀ me ∈ reading.line world.shared, ∃ standing,
      (reading.standings world)[me]? = some standing ∧ 0 < (fun _ : Standing => 1) standing := by
    intro me member
    obtain ⟨timed, found⟩ := lined.parked me member
    exact ⟨_, found, Nat.one_pos⟩
  have distinct : (reading.line world.shared).Nodup := lined.distinct
  have fits := World.length_le_total distinct asleep
  have callers : total (fun _ : Standing => 1) (reading.standings world) ≤
      (reading.standings world).length * 1 := World.total_le_mul fun _ => Nat.le_refl 1
  rw [reading.length_standings] at callers
  omega

theorem falls (paced : Paced reading pending rank) {world : World backend.Shared backend.Point}
    {me : ThreadId} {old new : backend.Point} {changed : backend.Shared}
    (found : world.threads[me]? = some old)
    (acted : backend.machine.act me old world.shared = some (new, changed))
    (lined : Lined (reading.standings (world.put me (new, changed))) (reading.counter changed)) :
    measure reading pending rank (world.put me (new, changed)) < measure reading pending rank world := by
  have length : (world.put me (new, changed)).threads.length = world.threads.length := List.length_set
  have left := paced.effort_le (world.put me (new, changed))
  have fits := length_line_le (world.put me (new, changed)) lined
  have pends := World.total_set pending found new
  rw [length] at left fits
  unfold measure
  rw [length]
  rcases paced.act me old new world.shared changed acted with fewer | ⟨same, count, rests⟩
  · have fewer : total pending (world.put me (new, changed)).threads + 1 ≤ total pending world.threads := by
      show total pending (world.threads.set me new) + 1 ≤ _
      omega
    have product := Nat.mul_le_mul_left (11 * world.threads.length + 1) fewer
    rw [Nat.mul_add, Nat.mul_one] at product
    omega
  · have pending : total pending (world.put me (new, changed)).threads = total pending world.threads := by
      show total pending (world.threads.set me new) = _
      omega
    rw [pending]
    refine Nat.add_lt_add_left ?_ _
    have ranks := World.total_set (rank (backend.count world.shared)) found new
    have count : backend.count (world.put me (new, changed)).shared = backend.count world.shared := count
    have line : (world.put me (new, changed)).shared = changed := rfl
    unfold effort
    rw [count, length, line]
    show total _ (world.threads.set me new) + _ < _
    rcases rests with ⟨line, less⟩ | ⟨line, less⟩
    · rw [line]
      omega
    · have longer : (reading.line changed).length = (reading.line world.shared).length + 1 := by
        rw [line, List.length_append]
        rfl
      have fits : (reading.line changed).length ≤ world.threads.length := fits
      omega

theorem comes (paced : Paced reading pending rank) (shared : backend.Shared)
    (points : List backend.Point) (upholds : reading.Upholds shared points)
    (lined : Lined (points.map reading.standing) (reading.counter shared)) :
    ∃ moves, moves ≤ World.horizon points.length ∧
      World.Comes backend.machine (fun _ => True) moves ⟨shared, points⟩ := by
  refine ⟨measure reading pending rank ⟨shared, points⟩, ?_, ?_⟩
  · have efforts := paced.effort_le ⟨shared, points⟩
    have pends : total pending points ≤ points.length * 3 := World.total_le_mul paced.few
    have square := Nat.le_mul_self (points.length + 1)
    have most : (11 * points.length + 1) * total pending points ≤
        33 * ((points.length + 1) * (points.length + 1)) := by
      calc (11 * points.length + 1) * total pending points
          ≤ (11 * (points.length + 1)) * (3 * (points.length + 1)) :=
            Nat.mul_le_mul (by omega) (by omega)
        _ = 33 * ((points.length + 1) * (points.length + 1)) := Nat.mul_mul_mul_comm 11 _ 3 _
    have efforts : effort reading rank ⟨shared, points⟩ ≤ 11 * points.length := efforts
    show (11 * points.length + 1) * total pending points + effort reading rank ⟨shared, points⟩ ≤
      4294967296 * ((points.length + 1) * (points.length + 1))
    omega
  · have kept : ∀ world later : World backend.Shared backend.Point,
        (reading.Upholds world.shared world.threads ∧
          Lined (reading.standings world) (reading.counter world.shared)) →
        world.Acts backend.machine later →
        (reading.Upholds later.shared later.threads ∧
          Lined (reading.standings later) (reading.counter later.shared)) ∧
        measure reading pending rank later < measure reading pending rank world := by
      rintro world later ⟨upholds, lined⟩ ⟨me, moved⟩
      obtain ⟨old, new, changed, found, acted, rfl⟩ := World.act_eq_some_iff.mp moved
      obtain ⟨change, upheld⟩ :=
        reading.acts me _ old new _ changed upholds lined.parked found acted
      have stands : (reading.standings world)[me]? = some (reading.standing old) := by
        rw [Reading.standings, List.getElem?_map, found]
        rfl
      have linedLater : Lined (reading.standings (world.put me (new, changed)))
          (reading.counter changed) := by
        simp only [Reading.standings, World.put, List.map_set]
        exact lined.change stands change
      exact ⟨⟨upheld, linedLater⟩, paced.falls found acted linedLater⟩
    exact .of_measure kept (fun _ _ _ => trivial) ⟨upholds, lined⟩ (Nat.le_refl _)

end Paced

namespace Parking

/-- The actions of a caller that may throw others back. -/
def pending : Point → Nat
  | .add _ _ => 3
  | .look _ => 2
  | .done _ => 0
  | _ => 1

/-- How far a caller is from the line, or from taking a permit, if the count stays as it is. -/
def rank (count : UInt64) : Point → Nat
  | .register _ => if count = 0 then 2 else 6
  | .park _ => if count = 0 then 1 else 5
  | .parked _ => 5
  | .deregister _ => 4
  | .read _ => 3
  | .exchange seen _ => if seen = count then 0 else 3
  | _ => 0

theorem after_look (count : UInt64) (fallback : Fallback) :
    pending (afterLook count fallback) < 1 ∨
      pending (afterLook count fallback) = 1 ∧ rank count (afterLook count fallback) < 3 := by
  unfold afterLook
  split
  · next none =>
    cases fallback with
    | wait timed => exact .inr ⟨rfl, by simp [rank, none]⟩
    | giveUp => exact .inl Nat.one_pos
  · exact .inr ⟨rfl, by simp [rank]⟩

theorem paced : Paced reading pending rank where
  few point := by cases point <;> simp [pending]
  light count point := by
    cases point <;> simp only [rank] <;> first | omega | (split <;> omega)
  act me old new state changed acted := by
    have acted : act me old state = some (new, changed) := acted
    have waits {old : Point} (seeks : pending old = 1) (less : rank state.count new < rank state.count old)
        (still : pending new = 1) (same : changed = state) :
        pending new < pending old ∨ pending new = pending old ∧ changed.count = state.count ∧
          (changed.line = state.line ∧ rank state.count new < rank state.count old ∨
            changed.line = state.line ++ [me] ∧ rank state.count new < rank state.count old + 5) :=
      .inr ⟨still.trans seeks.symm, congrArg count same, .inl ⟨congrArg line same, less⟩⟩
    cases old with
    | add permits wake =>
        cases acted
        exact .inl (Nat.lt_succ_self 2)
    | look wake =>
        cases acted
        refine .inl ?_
        show pending (if state.waiters = 0 then _ else _) < 2
        split <;> simp [pending]
    | rouse wake =>
        cases wake <;> cases acted <;> exact .inl Nat.one_pos
    | read fallback =>
        cases acted
        rcases after_look state.count fallback with fewer | ⟨same, less⟩
        · exact .inl fewer
        · exact waits rfl less same rfl
    | exchange seen fallback =>
        simp only [act] at acted
        split at acted
        · cases acted
          exact .inl Nat.one_pos
        · next other =>
          cases acted
          rcases after_look state.count fallback with fewer | ⟨same, less⟩
          · exact .inl fewer
          · refine waits rfl ?_ same rfl
            rw [rank, if_neg (Ne.symm other)]
            exact less
    | register timed =>
        cases acted
        refine .inr ⟨rfl, rfl, .inl ⟨rfl, ?_⟩⟩
        simp only [rank]
        split <;> omega
    | park timed =>
        simp only [act] at acted
        split at acted
        · next none =>
          cases acted
          refine .inr ⟨rfl, rfl, .inr ⟨rfl, ?_⟩⟩
          show 5 < (if state.count = 0 then 1 else 5) + 5
          rw [if_pos none]
          exact Nat.lt_succ_self 5
        · next some =>
          cases acted
          refine waits rfl ?_ rfl rfl
          simp [rank, some]
    | parked timed =>
        simp only [act] at acted
        split at acted
        · cases acted
        · cases acted
          exact waits rfl (Nat.lt_succ_self 4) rfl rfl
    | deregister fallback =>
        cases acted
        exact .inr ⟨rfl, rfl, .inl ⟨rfl, Nat.lt_succ_self 3⟩⟩
    | done answer => cases acted

theorem prompt : Prompt reading false where
  asked state points request upheld := by
    cases request <;> exact upheld.append rfl fun _ _ same => by cases same
  returned me point state answer returned := by
    cases point <;> cases returned
    rfl
  sleeps me point state timed asleep member := by
    cases point <;> cases asleep
    exact if_pos member
  sums me point new state changed permits wake adding acted := by
    cases point <;> cases adding
    cases acted
    exact .inr ⟨rfl, rfl, nofun⟩
  lapses me point state asleep member := by
    cases point <;> cases asleep
    exact ⟨_, if_pos member⟩
  comes := paced.comes

end Parking

namespace Monitor

/-- The actions of a caller that may throw others back. -/
def pending : Point → Nat
  | .add _ _ => 2
  | .done _ => 0
  | _ => 1

theorem paced : Paced reading pending (fun _ _ => 0) where
  few point := by cases point <;> simp [pending]
  light count point := Nat.zero_le 6
  act me old new state changed acted := by
    have acted : act me old state = some (new, changed) := acted
    have looks {timed : Bool} (acted : takeOrJoin me timed state = (new, changed)) :
        pending new < 1 ∨ pending new = 1 ∧ changed.count = state.count ∧
          (changed.line = state.line ∧ 0 < 0 ∨ changed.line = state.line ++ [me] ∧ 0 < 0 + 5) := by
      unfold takeOrJoin at acted
      split at acted
      · cases acted
        exact .inr ⟨rfl, rfl, .inr ⟨rfl, Nat.succ_pos 4⟩⟩
      · cases acted
        exact .inl Nat.one_pos
    cases old with
    | add permits wake =>
        simp only [act] at acted
        split at acted <;> cases acted
        · exact .inl (Nat.lt_succ_self 1)
        · exact .inl (Nat.succ_pos 1)
    | notify wake => cases wake <;> cases acted <;> exact .inl Nat.one_pos
    | enter timed => exact looks (Option.some.inj acted)
    | waiting timed =>
        simp only [act] at acted
        split at acted
        · cases acted
        · exact looks (Option.some.inj acted)
    | last =>
        simp only [act] at acted
        split at acted <;> cases acted <;> exact .inl Nat.one_pos
    | done answer => cases acted

theorem prompt : Prompt reading true where
  asked state points request upheld := trivial
  returned me point state answer returned := by
    cases point <;> cases returned
    rfl
  sleeps me point state timed asleep member := by
    cases point <;> cases asleep
    exact if_pos member
  sums me point new state changed permits wake adding acted := by
    cases point <;> cases adding
    have acted : act me (.add permits wake) state = some (new, changed) := acted
    simp only [act] at acted
    split at acted
    · next fits =>
      cases acted
      exact .inr ⟨rfl, rfl, fun breaks => Nat.not_lt.mpr breaks.2 fits⟩
    · next exceeds =>
      cases acted
      exact .inl ⟨rfl, rfl, rfl, Nat.not_lt.mp exceeds⟩
  lapses me point state asleep member := by
    cases point <;> cases asleep
    exact ⟨_, if_pos member⟩
  comes := paced.comes

end Monitor

theorem exists_prompt {name : String} {backend : Backend}
    (named : Backend.ofName? name = some backend) :
    ∃ (reading : Reading backend) (checked : Bool), Prompt reading checked := by
  unfold Backend.ofName? at named
  split at named
  · cases named
    exact ⟨_, _, Parking.prompt⟩
  · cases named
    exact ⟨_, _, Monitor.prompt⟩
  · cases named
    exact ⟨_, _, Parking.prompt⟩
  · cases named

end Turnstile.Permits
