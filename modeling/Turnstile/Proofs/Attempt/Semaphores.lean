import Turnstile.Counting
import Turnstile.Permits.Backend
import Turnstile.Proofs.Attempt.Lines

/-!
# Attempts to get a permit

An attempt that does not wait looks at the count and changes nothing if there is no permit.
A timed wait leaves more behind while it lasts: it is registered as a waiter and stands at
the end of the line. When it runs out it takes back the one and the other, and the permit
that it looks for once more is still not there.
-/

namespace Turnstile

set_option autoImplicit false

open World (Inert Still Traceless)

namespace Permits

def Answer.IsRefused (answer : Answer) : Prop := answer = .refused

namespace Parking

variable {me : ThreadId} {point : Point} {state changed : Parking}
  {before : World Parking Point}

def rename (f : ThreadId → ThreadId) (state : Parking) : Parking :=
  { state with line := state.line.map f }

theorem impartial : machine.Impartial rename where
  act {f} injective me point state := by
    have members : f me ∈ state.line.map f ↔ me ∈ state.line :=
      List.mem_map_of_injective injective
    cases point with
    | rouse wake => cases wake <;> simp [machine, act, rename]
    | exchange seen fallback =>
        by_cases same : state.count = seen <;> simp [machine, act, rename, same]
    | park timed => by_cases none : state.count = 0 <;> simp [machine, act, rename, none]
    | parked timed =>
        by_cases member : me ∈ state.line <;> simp [machine, act, rename, members, member]
    | _ => rfl
  expire {f} injective me point state := by
    have members : f me ∈ state.line.map f ↔ me ∈ state.line :=
      List.mem_map_of_injective injective
    cases point with
    | parked timed =>
        cases timed with
        | true =>
            by_cases member : me ∈ state.line <;>
              simp [machine, expire, rename, members, member, List.map_erase injective]
        | false => rfl
    | _ => rfl

theorem inert (point : Point) (answer : Answer) (answered : machine.answer? point = some answer) :
    Inert machine point := by
  cases point with
  | done => exact fun _ _ => ⟨rfl, rfl⟩
  | _ => cases answered

theorem still_of_subset (still : act me point state = none) (more : state.line ⊆ changed.line) :
    act me point changed = none := by
  cases point with
  | done => rfl
  | parked timed =>
      by_cases member : me ∈ state.line
      · exact if_pos (more member)
      · simp [act, member] at still
  | rouse wake => cases wake <;> cases still
  | exchange seen fallback => by_cases same : state.count = seen <;> simp [act, same] at still
  | park timed => by_cases none : state.count = 0 <;> simp [act, none] at still
  | _ => cases still

theorem traceless_tryAcquire (still : Still machine before.threads before.shared) :
    Traceless machine Answer.IsRefused before (start .tryAcquire) before.shared := by
  refine .step still rfl ?_
  by_cases none : before.shared.count = 0
  · simp only [afterLook, if_pos none]
    exact .answers rfl fun _ => rfl
  · simp only [afterLook, if_neg none]
    exact .step still (if_pos rfl) (.answers rfl Answer.noConfusion)

theorem traceless_acquire (still : Still machine before.threads before.shared)
    (outside : before.threads.length ∉ before.shared.line) :
    Traceless machine Answer.IsRefused before (start (.acquire true)) before.shared := by
  refine .step still rfl ?_
  by_cases none : before.shared.count = 0
  · simp only [afterLook, if_pos none]
    have registered : Still machine before.threads
        { before.shared with waiters := before.shared.waiters + 1 } :=
      fun other there found => still_of_subset (still other there found) (List.Subset.refl _)
    have lined : Still machine before.threads
        { before.shared with
          waiters := before.shared.waiters + 1
          line := before.shared.line ++ [before.threads.length] } :=
      fun other there found =>
        still_of_subset (still other there found) (List.subset_append_left _ _)
    have last : before.threads.length ∈ before.shared.line ++ [before.threads.length] :=
      List.mem_concat_self
    refine .step still rfl (.step registered (if_pos none) (.parks lined (if_pos last) rfl ?_))
    intro new changed expired
    simp only [machine, expire, if_pos last, erase_append_self outside] at expired
    cases expired
    exact .step registered rfl (traceless_tryAcquire still)
  · simp only [afterLook, if_neg none]
    exact .step still (if_pos rfl) (.answers rfl Answer.noConfusion)

end Parking

namespace Monitor

variable {me : ThreadId} {point : Point} {state changed : Monitor}
  {before : World Monitor Point}

def rename (f : ThreadId → ThreadId) (state : Monitor) : Monitor :=
  { state with line := state.line.map f }

theorem takeOrJoin_rename (f : ThreadId → ThreadId) (me : ThreadId) (timed : Bool)
    (state : Monitor) : takeOrJoin (f me) timed (rename f state) =
      Prod.map id (rename f) (takeOrJoin me timed state) := by
  by_cases none : state.count = 0 <;> simp [takeOrJoin, rename, none]

theorem impartial : machine.Impartial rename where
  act {f} injective me point state := by
    have members : f me ∈ state.line.map f ↔ me ∈ state.line :=
      List.mem_map_of_injective injective
    cases point with
    | add permits wake =>
        by_cases fits : state.count.toNat + permits.toNat < UInt64.size <;>
          simp [machine, act, rename, fits]
    | notify wake => cases wake <;> simp [machine, act, rename]
    | enter timed => exact congrArg some (takeOrJoin_rename f me timed state)
    | waiting timed =>
        by_cases member : me ∈ state.line
        · simp [machine, act, rename, members, member]
        · simp only [machine, act, if_neg member, Option.map_some, ← takeOrJoin_rename]
          exact if_neg (member ∘ members.mp)
    | last => by_cases none : state.count = 0 <;> simp [machine, act, rename, none]
    | done => rfl
  expire {f} injective me point state := by
    have members : f me ∈ state.line.map f ↔ me ∈ state.line :=
      List.mem_map_of_injective injective
    cases point with
    | waiting timed =>
        cases timed with
        | true =>
            by_cases member : me ∈ state.line <;>
              simp [machine, expire, rename, members, member, List.map_erase injective]
        | false => rfl
    | _ => rfl

theorem inert (point : Point) (answer : Answer) (answered : machine.answer? point = some answer) :
    Inert machine point := by
  cases point with
  | done => exact fun _ _ => ⟨rfl, rfl⟩
  | _ => cases answered

theorem still_of_subset (still : act me point state = none) (more : state.line ⊆ changed.line) :
    act me point changed = none := by
  cases point with
  | done => rfl
  | waiting timed =>
      by_cases member : me ∈ state.line
      · exact if_pos (more member)
      · simp [act, member] at still
  | add permits wake => simp only [act] at still; split at still <;> cases still
  | notify wake => cases wake <;> cases still
  | last => by_cases none : state.count = 0 <;> simp [act, none] at still
  | enter timed => cases still

theorem traceless_tryAcquire (still : Still machine before.threads before.shared) :
    Traceless machine Answer.IsRefused before (start .tryAcquire) before.shared := by
  by_cases none : before.shared.count = 0
  · exact .step still (if_pos none) (.answers rfl fun _ => rfl)
  · exact .step still (if_neg none) (.answers rfl Answer.noConfusion)

theorem traceless_acquire (still : Still machine before.threads before.shared)
    (outside : before.threads.length ∉ before.shared.line) :
    Traceless machine Answer.IsRefused before (start (.acquire true)) before.shared := by
  by_cases none : before.shared.count = 0
  · have lined : Still machine before.threads
        { before.shared with line := before.shared.line ++ [before.threads.length] } :=
      fun other there found =>
        still_of_subset (still other there found) (List.subset_append_left _ _)
    have last : before.threads.length ∈ before.shared.line ++ [before.threads.length] :=
      List.mem_concat_self
    refine .step still (congrArg some (if_pos none)) (.parks lined (if_pos last) rfl ?_)
    intro new changed expired
    simp only [machine, expire, if_pos last, erase_append_self outside] at expired
    cases expired
    exact traceless_tryAcquire still
  · exact .step still (congrArg some (if_neg none)) (.answers rfl Answer.noConfusion)

end Monitor

end Permits

namespace Counting

variable {before : World Counting Point}

def rename (f : ThreadId → ThreadId) (state : Counting) : Counting :=
  { state with asleep := state.asleep.rename f }

theorem impartial : machine.Impartial rename where
  act {f} injective me point state := by
    cases point with
    | wake => simp [machine, act, rename]
    | sleep =>
        simp only [machine, act, rename, Semaphore.wait_rename injective]
        cases state.asleep.wait me <;> rfl
    | exchange seen => by_cases same : state.count = seen <;> simp [machine, act, rename, same]
    | _ => rfl
  expire _ _ _ _ := rfl

theorem inert (point : Point) (answer : Answer) (answered : machine.answer? point = some answer) :
    Inert machine point := by
  cases point with
  | done => exact fun _ _ => ⟨rfl, rfl⟩
  | _ => cases answered

def Answer.IsRefused (answer : Answer) : Prop := answer = .refused

theorem traceless_tryWait (still : Still machine before.threads before.shared) :
    Traceless machine Answer.IsRefused before (start .tryWait) before.shared := by
  refine .step still rfl ?_
  by_cases some : 0 < before.shared.count
  · simp only [afterLook, if_pos some]
    exact .step still (if_pos rfl) (.answers rfl Answer.noConfusion)
  · simp only [afterLook, if_neg some]
    exact .answers rfl fun _ => rfl

end Counting

end Turnstile
