import Turnstile.Event
import Turnstile.Proofs.Attempt.Lines

/-!
# Waits for an event that run out

A timed wait that finds the flag clear stands at the end of the line until it runs out. Then
it leaves the line again and looks at the flag once more, which nobody has set meanwhile.
-/

namespace Turnstile.Event

set_option autoImplicit false

open World (Inert Still Traceless)

variable {me : ThreadId} {point : Point} {event changed : Event} {before : World Event Point}

def rename (f : ThreadId → ThreadId) (event : Event) : Event :=
  { event with line := event.line.map f }

theorem afterPass_rename (f : ThreadId → ThreadId) (event : Event) :
    (rename f event).afterPass = rename f event.afterPass := by
  cases mode : event.mode <;> simp [afterPass, rename, mode]

theorem afterRouse_rename (f : ThreadId → ThreadId) (event : Event) :
    (rename f event).afterRouse = rename f event.afterRouse := by
  cases mode : event.mode <;> simp [afterRouse, rename, mode]

theorem impartial : machine.Impartial rename where
  act {f} injective me point event := by
    have members : f me ∈ event.line.map f ↔ me ∈ event.line :=
      List.mem_map_of_injective injective
    cases point with
    | rouse => simp [machine, act, afterRouse_rename]
    | pass fallback =>
        have same : (rename f event).signaled = event.signaled := rfl
        cases signaled : event.signaled with
        | true => simp [machine, act, same, signaled, afterPass_rename]
        | false => cases fallback <;> simp [machine, act, rename, signaled]
    | park timed =>
        cases signaled : event.signaled <;> simp [machine, act, rename, signaled]
    | parked timed =>
        by_cases member : me ∈ event.line <;> simp [machine, act, rename, members, member]
    | _ => rfl
  expire {f} injective me point event := by
    have members : f me ∈ event.line.map f ↔ me ∈ event.line :=
      List.mem_map_of_injective injective
    cases point with
    | parked timed =>
        cases timed with
        | true =>
            by_cases member : me ∈ event.line <;>
              simp [machine, expire, rename, members, member, List.map_erase injective]
        | false => rfl
    | _ => rfl

theorem inert (point : Point) (answer : Answer) (answered : machine.answer? point = some answer) :
    Inert machine point := by
  cases point with
  | done => exact fun _ _ => ⟨rfl, rfl⟩
  | _ => cases answered

def Answer.IsRefused (answer : Answer) : Prop := answer = .refused

theorem still_of_subset (still : act me point event = none) (more : event.line ⊆ changed.line) :
    act me point changed = none := by
  cases point with
  | done => rfl
  | parked timed =>
      by_cases member : me ∈ event.line
      · exact if_pos (more member)
      · simp [act, member] at still
  | pass fallback =>
      cases signaled : event.signaled with
      | true => simp [act, signaled] at still
      | false => cases fallback <;> simp [act, signaled] at still
  | park timed => cases signaled : event.signaled <;> simp [act, signaled] at still
  | _ => cases still

theorem traceless_giveUp (still : Still machine before.threads before.shared)
    (clear : before.shared.signaled = false) :
    Traceless machine Answer.IsRefused before (.pass .giveUp) before.shared :=
  .step still (if_neg (Bool.eq_false_iff.mp clear)) (.answers rfl fun _ => rfl)

theorem traceless_waitUntil (still : Still machine before.threads before.shared)
    (outside : before.threads.length ∉ before.shared.line) :
    Traceless machine Answer.IsRefused before (start .waitUntil) before.shared := by
  cases signaled : before.shared.signaled with
  | true => exact .step still (if_pos signaled) (.answers rfl Answer.noConfusion)
  | false =>
      have clear : ¬ before.shared.signaled = true := Bool.eq_false_iff.mp signaled
      have lined : Still machine before.threads
          { before.shared with line := before.shared.line ++ [before.threads.length] } :=
        fun other there found =>
          still_of_subset (still other there found) (List.subset_append_left _ _)
      have last : before.threads.length ∈ before.shared.line ++ [before.threads.length] :=
        List.mem_concat_self
      refine .step still (if_neg clear) (.step still (if_neg clear)
        (.parks lined (if_pos last) rfl ?_))
      intro new changed expired
      simp only [machine, expire, if_pos last, erase_append_self outside] at expired
      cases expired
      exact traceless_giveUp still signaled

end Turnstile.Event
