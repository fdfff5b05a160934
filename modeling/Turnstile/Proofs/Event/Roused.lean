import Turnstile.Proofs.Event.Signals

/-!
# Whom a manual signal lets through

A signal of a manual event rouses everybody who is parked. To be roused is not to have
passed: a caller looks at the flag once more. As long as the flag stays set, all that were
roused pass; a reset that comes before one of them has looked sends it back to sleep.
-/

namespace Turnstile.Event

set_option autoImplicit false

variable {me signaller waiter : ThreadId} {old new point : Point} {event changed : Event}
  {signaled : Bool} {record later last : Record}

/-- The caller was taken out of the line and has not seen a flag that is clear. -/
inductive LetGo (me : ThreadId) (event : Event) : Point → Prop where
  | woken (timed : Bool) (outside : me ∉ event.line) : LetGo me event (.parked timed)
  | looking (timed : Bool) : LetGo me event (.pass (.wait timed))
  | passed : LetGo me event (.done .passed)

namespace LetGo

theorem mono (letGo : LetGo me event point) (line : me ∈ changed.line → me ∈ event.line) :
    LetGo me changed point := by
  cases letGo with
  | woken timed outside => exact .woken timed fun member => outside (line member)
  | looking timed => exact .looking timed
  | passed => exact .passed

theorem act (letGo : LetGo me event old) (set : event.signaled = true)
    (action : Action me event old new changed) : LetGo me changed new := by
  cases letGo with
  | woken timed outside =>
      cases action with
      | wake => exact .looking timed
      | lapse inside => exact absurd inside outside
  | looking timed =>
      cases action with
      | pass => exact .passed
      | goPark timed clear =>
          rw [set] at clear
          cases clear
  | passed => cases action

theorem passed_of_still (letGo : LetGo me event point) (still : Event.act me point event = none) :
    point = .done .passed := by
  rcases done_or_parked still with ⟨answer, rfl⟩ | ⟨timed, rfl, inside⟩
  · cases letGo
    rfl
  · cases letGo with
    | woken timed outside => exact absurd inside outside

end LetGo

theorem Action.mem_line (action : Action me event old new changed) {other : ThreadId}
    (different : other ≠ me) (member : other ∈ changed.line) : other ∈ event.line := by
  cases action with
  | raise | lower | goPark | giveUp | turnBack | wake => exact member
  | rouse =>
      unfold afterRouse at member
      split at member
      · cases member
      · exact List.mem_of_mem_tail member
  | pass =>
      unfold afterPass at member
      split at member <;> exact member
  | join =>
      rcases List.mem_append.mp member with member | last
      · exact member
      · exact absurd (List.mem_singleton.mp last) different
  | lapse => exact List.mem_of_mem_erase member

namespace Record

/-- Any calls and moves that leave the flag set. -/
def LeadsLit : Record → Record → Prop :=
  Relation.ReflTransGen fun record later => record.Step later ∧ later.world.shared.signaled = true

end Record

def IsLetGo (me : ThreadId) (record : Record) : Prop :=
  ∃ point, record.world.threads[me]? = some point ∧ LetGo me record.world.shared point

namespace IsLetGo

theorem moved (letGo : IsLetGo waiter record) (set : record.world.shared.signaled = true)
    (found : record.world.threads[me]? = some old)
    (action : Action me record.world.shared old new changed) :
    IsLetGo waiter (record.moved me (record.world.put me (new, changed))) := by
  obtain ⟨point, foundWaiter, goes⟩ := letGo
  by_cases same : waiter = me
  · subst same
    rw [found] at foundWaiter
    cases foundWaiter
    exact ⟨new, World.found_set found, goes.act set action⟩
  · refine ⟨point, ?_, goes.mono fun member => action.mem_line same member⟩
    exact (List.getElem?_set_ne (Ne.symm same)).trans foundWaiter

theorem step (letGo : IsLetGo waiter record) (set : record.world.shared.signaled = true)
    (step : record.Step later) : IsLetGo waiter later := by
  cases step with
  | call call =>
      obtain ⟨point, found, goes⟩ := letGo
      exact ⟨point, World.found_append found, goes⟩
  | act me acted =>
      obtain ⟨old, new, changed, found, acts, rfl⟩ := World.act_eq_some_iff.mp acted
      exact letGo.moved set found (action_of_act acts)
  | expire me expired =>
      obtain ⟨old, new, changed, found, expires, rfl⟩ := World.expire_eq_some_iff.mp expired
      exact letGo.moved set found (action_of_expire expires)

theorem lit (letGo : IsLetGo waiter record) (set : record.world.shared.signaled = true)
    (leads : record.LeadsLit last) : IsLetGo waiter last := by
  have both : IsLetGo waiter last ∧ last.world.shared.signaled = true := by
    induction leads with
    | refl => exact ⟨letGo, set⟩
    | tail _ step ih => exact ⟨ih.1.step ih.2 step.1, step.2⟩
  exact both.1

end IsLetGo

theorem Kept.lets_go (kept : Kept .manual signaled record)
    (rousing : record.world.threads[signaller]? = some .rouse)
    (parked : waiter ∈ record.world.shared.line) :
    IsLetGo waiter (record.moved signaller
      (record.world.put signaller (.done .changed, record.world.shared.afterRouse))) := by
  obtain ⟨timed, found⟩ := kept.lined.parked waiter parked
  have different : signaller ≠ waiter := by
    rintro rfl
    rw [rousing] at found
    cases found
  refine ⟨.parked timed, (List.getElem?_set_ne different).trans found, .woken timed ?_⟩
  simp [Record.moved, World.put, afterRouse_of_manual kept.kind]

/-- Whoever is parked when a signal of a manual event rouses the line answers that it has
passed, and is not left parked, if the flag is set then and stays set until it has looked. -/
theorem roused_pass_while_set (signaled : Bool) (record last : Record) (signaller waiter : ThreadId)
    (leads : (Record.opened .manual signaled).Leads record)
    (rousing : record.world.threads[signaller]? = some .rouse)
    (parked : waiter ∈ record.world.shared.line) (set : record.world.shared.signaled = true)
    (lit : (record.moved signaller (record.world.put signaller
      (.done .changed, record.world.shared.afterRouse))).LeadsLit last) :
    (∀ answer, last.world.answer? machine waiter = some answer → answer = .passed) ∧
      (last.world.Quiet machine → last.world.answer? machine waiter = some .passed) := by
  have kept := Kept.of_leads leads
  have stillSet : record.world.shared.afterRouse.signaled = true := by
    rw [afterRouse_of_manual kept.kind]
    exact set
  obtain ⟨point, found, letGo⟩ := (kept.lets_go rousing parked).lit stillSet lit
  have answers : last.world.answer? machine waiter = answer? point := by
    rw [World.answer?, found]
    rfl
  constructor
  · intro answer given
    rw [answers] at given
    cases letGo with
    | woken | looking => cases given
    | passed =>
        cases given
        rfl
  · intro quiet
    rw [answers, letGo.passed_of_still (World.still_of_quiet quiet found)]
    rfl

/-- Thread 0 is parked, and thread 1 has set the flag and is about to rouse the line. -/
def summoned : Record :=
  ⟨⟨⟨.manual, true, [0]⟩, [.parked false, .rouse]⟩, [⟨.wait, [], 0, 0⟩, ⟨.signal, [false], 1, 0⟩]⟩

/-- Thread 2 has reset the event before thread 0 could look, and thread 0 is parked again. -/
def shutOut : Record :=
  ⟨⟨⟨.manual, false, [0]⟩, [.parked false, .done .changed, .done .changed]⟩,
    [⟨.wait, [], 0, 0⟩, ⟨.signal, [false], 1, 0⟩, ⟨.reset, [], 0, 1⟩]⟩

private theorem leads_to_summoned : (Record.opened .manual false).Leads summoned :=
  .tail (.tail (.tail (.tail (.tail .refl (.call .wait)) (.act 0 rfl)) (.act 0 rfl))
    (.call .signal)) (.act 1 rfl)

private theorem shutOut_quiet : shutOut.world.Quiet machine := by
  intro me
  match me with
  | 0 | 1 | 2 | _ + 3 => rfl

/-- A caller that was parked when a signal of a manual event roused the line is parked once
more, has no answer, and nobody can act. -/
theorem reset_outruns_the_roused :
    (Record.opened .manual false).Leads summoned ∧ 0 ∈ summoned.world.shared.line ∧
      summoned.world.threads[1]? = some .rouse ∧
      (summoned.moved 1 (summoned.world.put 1
        (.done .changed, summoned.world.shared.afterRouse))).Leads shutOut ∧
      shutOut.world.Quiet machine ∧ shutOut.world.answer? machine 0 = none := by
  refine ⟨leads_to_summoned, List.mem_singleton_self 0, rfl, ?_, shutOut_quiet, rfl⟩
  exact .tail (.tail (.tail (.tail (.tail .refl (.call .reset)) (.act 2 rfl)) (.act 0 rfl))
    (.act 0 rfl)) (.act 0 rfl)

def welcomed : Record :=
  ⟨⟨⟨.manual, true, []⟩, [.done .passed, .done .changed]⟩, [⟨.wait, [], 0, 0⟩, ⟨.signal, [false], 1, 0⟩]⟩

theorem welcomed_passes : welcomed.world.answer? machine 0 = some .passed := by
  refine (roused_pass_while_set false summoned welcomed 1 0 leads_to_summoned rfl
    (List.mem_singleton_self 0) rfl ?_).2 ?_
  · exact .tail (.tail .refl ⟨.act 0 rfl, rfl⟩) ⟨.act 0 rfl, rfl⟩
  · intro me
    match me with
    | 0 | 1 | _ + 2 => rfl

end Turnstile.Event
