import Turnstile.Proofs.Permits.Standing

/-!
# Both counters are read as one

A `Reading` of a counter says how each of its points stands to the count and to the
line, and that no action does anything else than a caller at that point can do.
The counter with a parking line has a reading as long as its number of waiters is the
number of callers that are registered: a release that finds it zero has nobody to wake.
The counter under a monitor needs nothing of the kind.
-/

namespace Turnstile.Permits

set_option autoImplicit false

open World (total)

def Standing.ofRequest : Request → Standing
  | .release permits wake => .adding permits wake
  | .acquire timed => .seeking (.wait timed)
  | .tryAcquire => .seeking .giveUp

/-- The end of a timed wait: the caller leaves the line for a last look at the count. -/
structure Expired (me : ThreadId) (old : Standing) (counter : Semaphore) (new : Standing)
    (changed : Semaphore) : Prop where
  asleep : old = .asleep true
  seeking : new = .seeking .giveUp
  withdrawn : counter.withdraw? me = some changed

theorem Expired.change {me : ThreadId} {old new : Standing} {counter changed : Semaphore}
    (expired : Expired me old counter new changed) : Change me old counter new changed := by
  obtain ⟨rfl, rfl, withdrawn⟩ := expired
  exact .withdraw withdrawn

structure Reading (backend : Backend) where
  standing : backend.Point → Standing
  line : backend.Shared → List ThreadId
  /-- What the counter keeps up besides. -/
  Upholds : backend.Shared → List backend.Point → Prop
  opened : ∀ permits, backend.count (backend.ofPermits permits) = permits ∧
    line (backend.ofPermits permits) = [] ∧ Upholds (backend.ofPermits permits) []
  starts : ∀ request, standing (backend.start request) = .ofRequest request
  returned : ∀ answer, standing (backend.returned answer) = .done answer
  answers : ∀ point, backend.machine.answer? point = (standing point).answer?
  called : ∀ (shared : backend.Shared) (points : List backend.Point) (call : SemaphoreCall),
    Upholds shared points → Upholds shared (points ++ [call.start backend])
  acts : ∀ (me : ThreadId) (points : List backend.Point) (old new : backend.Point)
    (shared changed : backend.Shared), Upholds shared points →
    Parked (line shared) (points.map standing) → points[me]? = some old →
    backend.machine.act me old shared = some (new, changed) →
    Change me (standing old) ⟨backend.count shared, line shared⟩ (standing new)
        ⟨backend.count changed, line changed⟩ ∧ Upholds changed (points.set me new)
  expires : ∀ (me : ThreadId) (points : List backend.Point) (old new : backend.Point)
    (shared changed : backend.Shared), Upholds shared points → points[me]? = some old →
    backend.machine.expire me old shared = some (new, changed) →
    Expired me (standing old) ⟨backend.count shared, line shared⟩ (standing new)
        ⟨backend.count changed, line changed⟩ ∧ Upholds changed (points.set me new)
  still : ∀ (me : ThreadId) (point : backend.Point) (shared : backend.Shared),
    backend.machine.act me point shared = none →
    (∃ answer, standing point = .done answer) ∨
      ∃ timed, standing point = .asleep timed ∧ me ∈ line shared

namespace Parking

variable {me : ThreadId} {points : List Point} {old new : Point} {state changed : Parking}

def standing : Point → Standing
  | .add permits wake => .adding permits wake
  | .look wake | .rouse wake => .waking wake
  | .read fallback | .exchange _ fallback | .deregister fallback => .seeking fallback
  | .register timed | .park timed => .seeking (.wait timed)
  | .parked timed => .asleep timed
  | .done answer => .done answer

def registered : Point → Nat
  | .park _ | .parked _ | .deregister _ => 1
  | _ => 0

structure Registered (state : Parking) (points : List Point) : Prop where
  waiters : state.waiters = total registered points
  /-- Only a count that is not zero is ever exchanged. -/
  seen : ∀ (seen : UInt64) (fallback : Fallback), .exchange seen fallback ∈ points → seen ≠ 0

namespace Registered

theorem set (upheld : Registered state points) (found : points[me]? = some old)
    (waiters : changed.waiters + registered old = state.waiters + registered new)
    (seen : ∀ (seen : UInt64) (fallback : Fallback), new = .exchange seen fallback → seen ≠ 0) :
    Registered changed (points.set me new) := by
  refine ⟨?_, ?_⟩
  · have before := upheld.waiters
    have change := World.total_set registered found new
    omega
  · intro number fallback member
    rcases List.mem_or_eq_of_mem_set member with member | same
    · exact upheld.seen number fallback member
    · exact seen number fallback same.symm

theorem append (upheld : Registered state points) (light : registered new = 0)
    (seen : ∀ (seen : UInt64) (fallback : Fallback), new ≠ .exchange seen fallback) :
    Registered state (points ++ [new]) := by
  refine ⟨?_, ?_⟩
  · rw [World.total_append, light]
    exact upheld.waiters
  · intro number fallback member
    rcases List.mem_append.mp member with member | member
    · exact upheld.seen number fallback member
    · exact absurd (List.mem_singleton.mp member).symm (seen number fallback)

theorem nobody (upheld : Registered state points)
    (parked : Parked state.line (points.map standing)) (none : state.waiters = 0) :
    state.line = [] := by
  by_contra standing
  obtain ⟨me, member⟩ := List.exists_mem_of_ne_nil _ standing
  obtain ⟨timed, asleep⟩ := parked me member
  rw [List.getElem?_map, Option.map_eq_some_iff] at asleep
  obtain ⟨point, found, asleep⟩ := asleep
  have counted := World.weight_le_total registered found
  cases point with
  | parked timed =>
      simp only [registered] at counted
      have waiters := upheld.waiters
      omega
  | _ => cases asleep

end Registered

theorem change_of_afterLook (fallback : Fallback) (outside : me ∉ state.line) :
    Change me (.seeking fallback) ⟨state.count, state.line⟩ (standing (afterLook state.count fallback))
      ⟨state.count, state.line⟩ := by
  unfold afterLook
  split
  · next none =>
    cases fallback with
    | wait timed => exact .rest (by simp) _
    | giveUp => exact .giveUp outside none
  · exact .rest (by simp) _

theorem afterLook_light (seen : UInt64) (fallback : Fallback) :
    registered (afterLook seen fallback) = 0 := by
  unfold afterLook
  split
  · cases fallback <;> rfl
  · rfl

theorem afterLook_seen {seen number : UInt64} {fallback other : Fallback}
    (same : afterLook seen fallback = .exchange number other) : number ≠ 0 := by
  unfold afterLook at same
  split at same
  · cases fallback <;> cases same
  · next some =>
    cases same
    exact some

theorem change_of_act (upheld : Registered state points)
    (parked : Parked state.line (points.map standing)) (found : points[me]? = some old)
    (acted : act me old state = some (new, changed)) :
    Change me (standing old) ⟨state.count, state.line⟩ (standing new)
      ⟨changed.count, changed.line⟩ ∧ Registered changed (points.set me new) := by
  have stands : (points.map standing)[me]? = some (standing old) := by
    rw [List.getElem?_map, found]
    rfl
  have outside := parked.outside stands
  cases old with
  | add permits wake =>
      cases acted
      exact ⟨.add permits wake _, upheld.set found rfl (by simp)⟩
  | look wake =>
      simp only [act] at acted
      split at acted
      · next none =>
        cases acted
        exact ⟨.findNobody wake (upheld.nobody parked none), upheld.set found rfl (by simp)⟩
      · cases acted
        exact ⟨.rest (by simp [standing]) _, upheld.set found rfl (by simp)⟩
  | rouse wake =>
      cases wake with
      | one =>
          cases acted
          exact ⟨.rouse _, upheld.set found rfl (by simp)⟩
      | all =>
          cases acted
          exact ⟨.rouseAll _, upheld.set found rfl (by simp)⟩
  | read fallback =>
      cases acted
      refine ⟨change_of_afterLook fallback (outside (by simp [standing])), ?_⟩
      exact upheld.set found (by rw [afterLook_light]; rfl) fun _ _ same => afterLook_seen same
  | exchange seen fallback =>
      simp only [act] at acted
      split at acted
      · next same =>
        cases acted
        have some : seen ≠ 0 := upheld.seen seen fallback (List.mem_of_getElem? found)
        refine ⟨?_, upheld.set found rfl (by simp)⟩
        rw [same]
        exact .take rfl (Semaphore.wait_of_some (outside (by simp [standing])) some)
      · cases acted
        refine ⟨change_of_afterLook fallback (outside (by simp [standing])), ?_⟩
        exact upheld.set found (by rw [afterLook_light]; rfl) fun _ _ same => afterLook_seen same
  | register timed =>
      cases acted
      exact ⟨.rest (by simp [standing]) _, upheld.set found (Nat.add_zero _) (by simp)⟩
  | park timed =>
      simp only [act] at acted
      split at acted
      · next none =>
        cases acted
        exact ⟨.join rfl (Semaphore.wait_of_none (outside (by simp [standing])) none),
          upheld.set found rfl (by simp)⟩
      · cases acted
        exact ⟨.rest (by simp [standing]) _, upheld.set found rfl (by simp)⟩
  | parked timed =>
      simp only [act] at acted
      split at acted
      · cases acted
      · next awake =>
        cases acted
        exact ⟨.rise timed awake, upheld.set found rfl (by simp)⟩
  | deregister fallback =>
      cases acted
      have present := World.weight_le_total registered found
      rw [← upheld.waiters] at present
      refine ⟨.rest (by simp [standing]) _, upheld.set found ?_ (by simp)⟩
      simp only [registered] at present ⊢
      omega
  | done answer => cases acted

theorem expired_of_expire (upheld : Registered state points) (found : points[me]? = some old)
    (expired : expire me old state = some (new, changed)) :
    Expired me (standing old) ⟨state.count, state.line⟩ (standing new)
      ⟨changed.count, changed.line⟩ ∧ Registered changed (points.set me new) := by
  unfold expire at expired
  split at expired
  · split at expired
    · next member =>
      cases expired
      have withdrawn : Semaphore.withdraw? me ⟨state.count, state.line⟩ =
          some ⟨state.count, state.line.erase me⟩ := by simp [Semaphore.withdraw?, member]
      exact ⟨⟨rfl, rfl, withdrawn⟩, upheld.set found rfl (by simp)⟩
    · cases expired
  · cases expired

theorem rests_of_still {point : Point} (still : act me point state = none) :
    (∃ answer, standing point = .done answer) ∨
      ∃ timed, standing point = .asleep timed ∧ me ∈ state.line := by
  cases point with
  | done answer => exact .inl ⟨answer, rfl⟩
  | parked timed =>
      by_cases member : me ∈ state.line
      · exact .inr ⟨timed, rfl, member⟩
      · simp [act, member] at still
  | rouse wake => cases wake <;> cases still
  | exchange seen fallback => by_cases same : state.count = seen <;> simp [act, same] at still
  | park timed => by_cases none : state.count = 0 <;> simp [act, none] at still
  | _ => cases still

def reading : Reading .parking where
  standing := standing
  line := Parking.line
  Upholds := Registered
  opened _ := ⟨rfl, rfl, rfl, fun _ _ member => by cases member⟩
  starts request := by cases request <;> rfl
  returned _ := rfl
  answers point := by cases point <;> rfl
  called shared points call upheld := by
    cases call with
    | postMany permits =>
        simp only [SemaphoreCall.start]
        split
        · exact upheld.append rfl fun _ _ same => by cases same
        · exact upheld.append rfl fun _ _ same => by cases same
    | _ => exact upheld.append rfl fun _ _ same => by cases same
  acts _ _ _ _ _ _ upheld parked found acted := change_of_act upheld parked found acted
  expires _ _ _ _ _ _ upheld found expired := expired_of_expire upheld found expired
  still _ _ _ still := rests_of_still still

end Parking

namespace Monitor

variable {me : ThreadId} {points : List Point} {old new : Point} {state changed : Monitor}

def standing : Point → Standing
  | .add permits wake => .adding permits wake
  | .notify wake => .waking wake
  | .enter timed => .seeking (.wait timed)
  | .waiting timed => .asleep timed
  | .last => .seeking .giveUp
  | .done answer => .done answer

theorem change_of_takeOrJoin {timed : Bool} {before : Standing}
    (wants : before.wants? = some (.wait timed)) (outside : me ∉ state.line)
    (acted : takeOrJoin me timed state = (new, changed)) :
    Change me before ⟨state.count, state.line⟩ (standing new) ⟨changed.count, changed.line⟩ := by
  unfold takeOrJoin at acted
  split at acted
  · next none =>
    cases acted
    exact .join wants (Semaphore.wait_of_none outside none)
  · next some =>
    cases acted
    exact .take wants (Semaphore.wait_of_some outside some)

theorem change_of_act (parked : Parked state.line (points.map standing))
    (found : points[me]? = some old) (acted : act me old state = some (new, changed)) :
    Change me (standing old) ⟨state.count, state.line⟩ (standing new)
      ⟨changed.count, changed.line⟩ := by
  have stands : (points.map standing)[me]? = some (standing old) := by
    rw [List.getElem?_map, found]
    rfl
  have outside := parked.outside stands
  cases old with
  | add permits wake =>
      simp only [act] at acted
      split at acted
      · cases acted
        exact .add permits wake _
      · next exceeds =>
        cases acted
        exact .overflow permits wake (Nat.not_lt.mp exceeds)
  | notify wake =>
      cases wake with
      | one =>
          cases acted
          exact .rouse _
      | all =>
          cases acted
          exact .rouseAll _
  | enter timed =>
      exact change_of_takeOrJoin rfl (outside (by simp [standing])) (Option.some.inj acted)
  | waiting timed =>
      simp only [act] at acted
      split at acted
      · cases acted
      · next awake => exact change_of_takeOrJoin rfl awake (Option.some.inj acted)
  | last =>
      have awake := outside (by simp [standing])
      simp only [act] at acted
      split at acted
      · next none =>
        cases acted
        exact .giveUp awake none
      · next some =>
        cases acted
        exact .take rfl (Semaphore.wait_of_some awake some)
  | done answer => cases acted

theorem expired_of_expire (expired : expire me old state = some (new, changed)) :
    Expired me (standing old) ⟨state.count, state.line⟩ (standing new)
      ⟨changed.count, changed.line⟩ := by
  unfold expire at expired
  split at expired
  · split at expired
    · next member =>
      cases expired
      have withdrawn : Semaphore.withdraw? me ⟨state.count, state.line⟩ =
          some ⟨state.count, state.line.erase me⟩ := by simp [Semaphore.withdraw?, member]
      exact ⟨rfl, rfl, withdrawn⟩
    · cases expired
  · cases expired

theorem rests_of_still {point : Point} (still : act me point state = none) :
    (∃ answer, standing point = .done answer) ∨
      ∃ timed, standing point = .asleep timed ∧ me ∈ state.line := by
  cases point with
  | done answer => exact .inl ⟨answer, rfl⟩
  | waiting timed =>
      by_cases member : me ∈ state.line
      · exact .inr ⟨timed, rfl, member⟩
      · simp [act, member] at still
  | add permits wake => simp only [act] at still; split at still <;> cases still
  | notify wake => cases wake <;> cases still
  | last => by_cases none : state.count = 0 <;> simp [act, none] at still
  | enter timed => cases still

def reading : Reading .monitor where
  standing := standing
  line := Monitor.line
  Upholds _ _ := True
  opened _ := ⟨rfl, rfl, trivial⟩
  starts request := by cases request <;> rfl
  returned _ := rfl
  answers point := by cases point <;> rfl
  called _ _ _ _ := trivial
  acts _ _ _ _ _ _ _ parked found acted := ⟨change_of_act parked found acted, trivial⟩
  expires _ _ _ _ _ _ _ _ expired := ⟨expired_of_expire expired, trivial⟩
  still _ _ _ still := rests_of_still still

end Monitor

theorem exists_reading {name : String} {backend : Backend}
    (known : Backend.ofName? name = some backend) : Nonempty (Reading backend) := by
  unfold Backend.ofName? at known
  split at known
  · cases known
    exact ⟨Parking.reading⟩
  · cases known
    exact ⟨Monitor.reading⟩
  · cases known
    exact ⟨Parking.reading⟩
  · cases known

end Turnstile.Permits
