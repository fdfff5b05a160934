import Mathlib.Logic.Relation
import Turnstile.Machine

/-!
# Every schedule of what a call sets off

A call is followed by moves of threads, in an order that nobody chooses, until none of
them can act. `Settles` leaves the order open, and `Surely` says of a property that it
holds however the order was. There are three ways to show it: nobody can act; only one
thread can; or each action keeps what in the end implies the property.

That the moves come to an end is shown by a measure. The schedule that `settle`
follows is then one of those that `Surely` speaks of.
-/

namespace Turnstile.World

set_option autoImplicit false

variable {σ π ρ : Type} {machine : Machine σ π ρ} {goal : World σ π → Prop}
  {world start later last : World σ π} {me : ThreadId} {point : π}

def Acts (machine : Machine σ π ρ) (world later : World σ π) : Prop :=
  ∃ me, world.act? machine me = some later

/-- The threads act, in some order, until none of them can. -/
structure Settles (machine : Machine σ π ρ) (start last : World σ π) : Prop where
  acts : Relation.ReflTransGen (Acts machine) start last
  quiet : last.Quiet machine

/-- In whatever order the threads act, they come to rest where `goal` holds. -/
def Surely (machine : Machine σ π ρ) (goal : World σ π → Prop) (start : World σ π) : Prop :=
  ∀ last, start.Settles machine last → goal last

theorem act_eq_some_iff {moved : World σ π} : world.act? machine me = some moved ↔
    ∃ point new changed, world.threads[me]? = some point ∧
      machine.act me point world.shared = some (new, changed) ∧
        moved = world.put me (new, changed) := by
  simp only [act?, Option.bind_eq_some_iff, Option.map_eq_some_iff, Prod.exists]
  constructor
  · rintro ⟨point, found, new, changed, acted, rfl⟩
    exact ⟨point, new, changed, found, acted, rfl⟩
  · rintro ⟨point, new, changed, found, acted, rfl⟩
    exact ⟨point, found, new, changed, acted, rfl⟩

theorem expire_eq_some_iff {moved : World σ π} : world.expire? machine me = some moved ↔
    ∃ point new changed, world.threads[me]? = some point ∧
      machine.expire me point world.shared = some (new, changed) ∧
        moved = world.put me (new, changed) := by
  simp only [expire?, Option.bind_eq_some_iff, Option.map_eq_some_iff, Prod.exists]
  constructor
  · rintro ⟨point, found, new, changed, expired, rfl⟩
    exact ⟨point, new, changed, found, expired, rfl⟩
  · rintro ⟨point, new, changed, found, expired, rfl⟩
    exact ⟨point, found, new, changed, expired, rfl⟩

theorem act_eq_none_of_found (found : world.threads[me]? = some point)
    (still : machine.act me point world.shared = none) : world.act? machine me = none := by
  rw [act?, found]
  simpa using still

theorem still_of_quiet (quiet : world.Quiet machine) (found : world.threads[me]? = some point) :
    machine.act me point world.shared = none := by
  have still := quiet me
  rw [act?, found] at still
  simpa using still

theorem quiet_of_still (still : ∀ me point, world.threads[me]? = some point →
    machine.act me point world.shared = none) : world.Quiet machine := by
  intro me
  cases found : world.threads[me]? with
  | none => simp [act?, found]
  | some point => exact act_eq_none_of_found found (still me point found)

namespace Surely

theorem of_quiet (quiet : start.Quiet machine) (there : goal start) : start.Surely machine goal := by
  intro last settles
  cases settles.acts.cases_head with
  | inl same => exact same ▸ there
  | inr moves =>
      obtain ⟨_, ⟨me, acted⟩, _⟩ := moves
      rw [quiet me] at acted
      cases acted

theorem of_alone {new : π} {changed : σ} (found : start.threads[me]? = some point)
    (alone : ∀ other, other ≠ me → start.act? machine other = none)
    (acted : machine.act me point start.shared = some (new, changed))
    (surely : (start.put me (new, changed)).Surely machine goal) : start.Surely machine goal := by
  have acts : start.act? machine me = some (start.put me (new, changed)) :=
    act_eq_some_iff.mpr ⟨point, new, changed, found, acted, rfl⟩
  intro last settles
  cases settles.acts.cases_head with
  | inl same =>
      rw [same, settles.quiet me] at acts
      cases acts
  | inr moves =>
      obtain ⟨later, ⟨other, moved⟩, acts'⟩ := moves
      by_cases same : other = me
      · subst same
        rw [acts] at moved
        cases moved
        exact surely last ⟨acts', settles.quiet⟩
      · rw [alone other same] at moved
        cases moved

theorem of_kept {Holds : World σ π → Prop}
    (kept : ∀ world later, Holds world → world.Acts machine later → Holds later)
    (holds : Holds start) (ends : ∀ last, Holds last → last.Quiet machine → goal last) :
    start.Surely machine goal := by
  have along : ∀ mid, Relation.ReflTransGen (Acts machine) start mid → Holds mid := by
    intro mid acts
    induction acts with
    | refl => exact holds
    | tail _ act ih => exact kept _ _ ih act
  exact fun last settles => ends last (along last settles.acts) settles.quiet

theorem mono {other : World σ π → Prop} (surely : start.Surely machine goal)
    (implies : ∀ last, last.Quiet machine → goal last → other last) : start.Surely machine other :=
  fun last settles => implies last settles.quiet (surely last settles)

end Surely

/-- In whatever order the threads act, they come to rest after at most so many actions,
where `goal` holds. -/
def Comes (machine : Machine σ π ρ) (goal : World σ π → Prop) : Nat → World σ π → Prop
  | 0, world => world.Quiet machine ∧ goal world
  | moves + 1, world => (world.Quiet machine → goal world) ∧
      ∀ later, world.Acts machine later → Comes machine goal moves later

namespace Comes

variable {moves more : Nat}

theorem of_quiet (quiet : start.Quiet machine) (there : goal start) :
    Comes machine goal moves start := by
  cases moves with
  | zero => exact ⟨quiet, there⟩
  | succ moves =>
      refine ⟨fun _ => there, ?_⟩
      rintro later ⟨me, acted⟩
      rw [quiet me] at acted
      cases acted

theorem of_alone {new : π} {changed : σ} (found : start.threads[me]? = some point)
    (alone : ∀ other, other ≠ me → start.act? machine other = none)
    (acted : machine.act me point start.shared = some (new, changed))
    (comes : Comes machine goal moves (start.put me (new, changed))) :
    Comes machine goal (moves + 1) start := by
  have acts : start.act? machine me = some (start.put me (new, changed)) :=
    act_eq_some_iff.mpr ⟨point, new, changed, found, acted, rfl⟩
  constructor
  · intro quiet
    rw [quiet me] at acts
    cases acts
  · rintro later ⟨other, moved⟩
    by_cases same : other = me
    · subst same
      rw [acts] at moved
      cases moved
      exact comes
    · rw [alone other same] at moved
      cases moved

theorem of_measure {Holds : World σ π → Prop} {measure : World σ π → Nat}
    (falls : ∀ world later, Holds world → world.Acts machine later →
      Holds later ∧ measure later < measure world)
    (ends : ∀ last, Holds last → last.Quiet machine → goal last) (holds : Holds start)
    (bound : measure start ≤ moves) : Comes machine goal moves start := by
  induction moves generalizing start with
  | zero =>
      have quiet : start.Quiet machine := by
        intro me
        cases acted : start.act? machine me with
        | none => rfl
        | some later =>
            have less := (falls start later holds ⟨me, acted⟩).2
            omega
      exact ⟨quiet, ends start holds quiet⟩
  | succ moves ih =>
      refine ⟨ends start holds, fun later acts => ?_⟩
      obtain ⟨holdsLater, less⟩ := falls start later holds acts
      exact ih holdsLater (by omega)

theorem here (comes : Comes machine goal moves start) (quiet : start.Quiet machine) : goal start := by
  cases moves with
  | zero => exact comes.2
  | succ moves => exact comes.1 quiet

theorem after (comes : Comes machine goal moves start) {last : World σ π}
    (acts : start.Acts machine last) : ∃ fewer, moves = fewer + 1 ∧ Comes machine goal fewer last := by
  cases moves with
  | zero =>
      obtain ⟨me, acted⟩ := acts
      rw [comes.1 me] at acted
      cases acted
  | succ moves => exact ⟨moves, rfl, comes.2 last acts⟩

theorem mono (comes : Comes machine goal moves start) (bound : moves ≤ more) :
    Comes machine goal more start := by
  induction moves generalizing start more with
  | zero => exact .of_quiet comes.1 comes.2
  | succ moves ih =>
      cases more with
      | zero => omega
      | succ more => exact ⟨comes.1, fun later acts => ih (comes.2 later acts) (by omega)⟩

theorem surely (comes : Comes machine goal moves start) : start.Surely machine goal := by
  intro last settles
  have along : ∀ (world : World σ π), Relation.ReflTransGen (Acts machine) world last →
      ∀ moves, Comes machine goal moves world → goal last := by
    intro world acts
    induction acts using Relation.ReflTransGen.head_induction_on with
    | refl => exact fun moves comes => comes.here settles.quiet
    | head act _ ih =>
        intro moves comes
        obtain ⟨fewer, _, comes⟩ := comes.after act
        exact ih fewer comes
  exact along start settles.acts moves comes

theorem run (comes : Comes machine goal moves start) (enough : moves ≤ more) :
    start.Settles machine (start.run machine more) := by
  induction more generalizing moves start with
  | zero =>
      obtain rfl : moves = 0 := by omega
      exact ⟨.refl, comes.1⟩
  | succ more ih =>
      unfold World.run
      cases moved : start.next? machine with
      | none => exact ⟨.refl, (next_eq_none_iff_quiet machine start).mp moved⟩
      | some next =>
          obtain ⟨me, acted⟩ := next_is_a_move moved
          obtain ⟨fewer, same, comes⟩ := comes.after ⟨me, acted⟩
          have settles := ih comes (by omega)
          exact ⟨.head ⟨me, acted⟩ settles.acts, settles.quiet⟩

/-- The world is seen through a view. Each action is one of the view, or it changes
nothing there and is one of those that end by themselves. -/
theorem of_view {σ' π' ρ' : Type} {other : Machine σ' π' ρ'} {view : World σ π → World σ' π'}
    {Holds : World σ π → Prop} {hidden : World σ π → Nat} {seen : World σ' π' → Prop}
    (step : ∀ world later, Holds world → world.Acts machine later → Holds later ∧
      (view later = view world ∧ hidden later < hidden world ∨
        (view world).Acts other (view later) ∧ hidden later = hidden world))
    (quiet : ∀ last, Holds last → last.Quiet machine → (view last).Quiet other)
    (ends : ∀ last, Holds last → last.Quiet machine → seen (view last) → goal last)
    (holds : Holds start) (comes : Comes other seen moves (view start))
    (enough : moves + hidden start ≤ more) : Comes machine goal more start := by
  have there : ∀ {start moves}, Holds start → Comes other seen moves (view start) →
      start.Quiet machine → goal start :=
    fun holds comes still => ends _ holds still (comes.here (quiet _ holds still))
  -- what is left to do falls with every action, of the view or a hidden one
  induction more generalizing start moves with
  | zero =>
      have still : start.Quiet machine := by
        intro me
        cases acted : start.act? machine me with
        | none => rfl
        | some next =>
            obtain ⟨_, ⟨_, fewer⟩ | ⟨acts, _⟩⟩ := step start next holds ⟨me, acted⟩
            · omega
            · obtain ⟨_, same, _⟩ := comes.after acts
              omega
      exact ⟨still, there holds comes still⟩
  | succ more ih =>
      refine ⟨there holds comes, fun next acts => ?_⟩
      obtain ⟨holdsNext, ⟨same, fewer⟩ | ⟨acts, same⟩⟩ := step start next holds acts
      · rw [← same] at comes
        exact ih holdsNext comes (by omega)
      · obtain ⟨left, rfl, goesOn⟩ := comes.after acts
        exact ih holdsNext goesOn (by omega)

theorem settle (comes : Comes machine goal moves start)
    (enough : moves ≤ 4294967296 * (start.threads.length + 1)) :
    start.Settles machine (start.settle machine) := by
  refine comes.run (Nat.le_trans enough ?_)
  exact Nat.mul_le_mul_left _ (Nat.le_mul_self _)

end Comes

/-- Apart from one thread nobody can act. -/
def Alone (machine : Machine σ π ρ) (me : ThreadId) (world : World σ π) : Prop :=
  ∀ other, other ≠ me → world.act? machine other = none

namespace Alone

variable {shared changed : σ} {threads : List π} {old new : π}

theorem of_still (still : ∀ other point, other ≠ me → threads[other]? = some point →
    machine.act other point shared = none) : Alone machine me ⟨shared, threads⟩ := by
  intro other different
  cases found : threads[other]? with
  | none => simp [act?, found]
  | some point => exact act_eq_none_of_found found (still other point different found)

theorem newest (still : ∀ other point, threads[other]? = some point →
    machine.act other point shared = none) (point : π) :
    Alone machine threads.length ⟨shared, threads ++ [point]⟩ := by
  refine of_still fun other there different found => still other there ?_
  obtain ⟨bound, _⟩ := List.getElem?_eq_some_iff.mp found
  rw [List.length_append, List.length_singleton] at bound
  have earlier : other < threads.length := Nat.lt_of_le_of_ne (Nat.le_of_lt_succ bound) different
  rwa [List.getElem?_append_left earlier] at found

theorem surely (alone : Alone machine me ⟨shared, threads⟩) (found : threads[me]? = some old)
    (acted : machine.act me old shared = some (new, changed))
    (surely : Surely machine goal ⟨changed, threads.set me new⟩) :
    Surely machine goal ⟨shared, threads⟩ :=
  .of_alone found alone acted surely

theorem comes {moves : Nat} (alone : Alone machine me ⟨shared, threads⟩)
    (found : threads[me]? = some old) (acted : machine.act me old shared = some (new, changed))
    (comes : Comes machine goal moves ⟨changed, threads.set me new⟩) :
    Comes machine goal (moves + 1) ⟨shared, threads⟩ :=
  .of_alone found alone acted comes

theorem newcomer {moves : Nat} (alone : Alone machine threads.length ⟨shared, threads ++ [old]⟩)
    (acted : machine.act threads.length old shared = some (new, changed))
    (comes : Comes machine goal moves ⟨changed, threads ++ [new]⟩) :
    Comes machine goal (moves + 1) ⟨shared, threads ++ [old]⟩ := by
  refine alone.comes (by simp) acted ?_
  rwa [List.set_append_right _ _ (Nat.le_refl _), Nat.sub_self, List.set_cons_zero]

end Alone

theorem issue_fst (machine : Machine σ π ρ) (point : π) (world : World σ π) :
    (world.issue machine point).1 = (world.spawn point).settle machine := rfl

theorem issueBriefly_fst (machine : Machine σ π ρ) (point : π) (world : World σ π) :
    (world.issueBriefly machine point).1 =
      ((((world.spawn point).settle machine).expire? machine world.threads.length).map
        (settle machine)).getD ((world.spawn point).settle machine) := rfl

end Turnstile.World
