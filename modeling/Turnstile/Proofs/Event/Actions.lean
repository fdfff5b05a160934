import Turnstile.Event
import Turnstile.Proofs.Total

/-!
# What callers of an event do to it

`Action` lists what a caller can do next, or what the end of its wait does, with the flag
as it finds it. Everybody in the line is parked, and a set flag never stands beside a line
that nobody heeds: somebody is about to rouse it, or, where passing clears the flag, is
awake and about to look at it.
-/

namespace Turnstile.Event

set_option autoImplicit false

variable {me : ThreadId} {old new point : Point} {event changed : Event} {threads : List Point}

inductive Action (me : ThreadId) (event : Event) : Point → Point → Event → Prop where
  | raise : Action me event .raise .rouse { event with signaled := true }
  | rouse : Action me event .rouse (.done .changed) event.afterRouse
  | lower : Action me event .lower (.done .changed) { event with signaled := false }
  | pass (fallback : Fallback) (set : event.signaled = true) :
      Action me event (.pass fallback) (.done .passed) event.afterPass
  | goPark (timed : Bool) (clear : event.signaled = false) :
      Action me event (.pass (.wait timed)) (.park timed) event
  | giveUp (clear : event.signaled = false) : Action me event (.pass .giveUp) (.done .refused) event
  | turnBack (timed : Bool) (set : event.signaled = true) :
      Action me event (.park timed) (.pass (.wait timed)) event
  | join (timed : Bool) (clear : event.signaled = false) :
      Action me event (.park timed) (.parked timed) { event with line := event.line ++ [me] }
  | wake (timed : Bool) (outside : me ∉ event.line) :
      Action me event (.parked timed) (.pass (.wait timed)) event
  | lapse (inside : me ∈ event.line) :
      Action me event (.parked true) (.pass .giveUp) { event with line := event.line.erase me }

theorem action_of_act (acted : act me old event = some (new, changed)) :
    Action me event old new changed := by
  cases old with
  | raise =>
      cases acted
      exact .raise
  | rouse =>
      cases acted
      exact .rouse
  | lower =>
      cases acted
      exact .lower
  | pass fallback =>
      simp only [act] at acted
      split at acted
      · next set =>
        cases acted
        exact .pass fallback set
      · next clear =>
        have clear : event.signaled = false := by simpa using clear
        cases fallback with
        | wait timed =>
            cases acted
            exact .goPark timed clear
        | giveUp =>
            cases acted
            exact .giveUp clear
  | park timed =>
      simp only [act] at acted
      split at acted
      · next set =>
        cases acted
        exact .turnBack timed set
      · next clear =>
        cases acted
        exact .join timed (by simpa using clear)
  | parked timed =>
      simp only [act] at acted
      split at acted
      · cases acted
      · next outside =>
        cases acted
        exact .wake timed outside
  | done answer => cases acted

theorem action_of_expire (expired : expire me old event = some (new, changed)) :
    Action me event old new changed := by
  unfold expire at expired
  split at expired
  · split at expired
    · next inside =>
      cases expired
      exact .lapse inside
    · cases expired
  · cases expired

theorem afterRouse_of_manual (manual : event.mode = .manual) :
    event.afterRouse = { event with line := [] } := by
  simp [afterRouse, manual]

theorem afterRouse_of_auto (auto : event.mode = .auto) :
    event.afterRouse = { event with line := event.line.tail } := by
  simp [afterRouse, auto]

theorem afterPass_of_manual (manual : event.mode = .manual) : event.afterPass = event := by
  simp [afterPass, manual]

theorem afterPass_of_auto (auto : event.mode = .auto) :
    event.afterPass = { event with signaled := false } := by
  simp [afterPass, auto]

theorem Action.mode (action : Action me event old new changed) : changed.mode = event.mode := by
  cases action with
  | rouse =>
      unfold afterRouse
      split <;> rfl
  | pass =>
      unfold afterPass
      split <;> rfl
  | _ => rfl

theorem done_or_parked (still : act me point event = none) :
    (∃ answer, point = .done answer) ∨ ∃ timed, point = .parked timed ∧ me ∈ event.line := by
  cases point with
  | raise | rouse | lower => cases still
  | pass fallback =>
      simp only [act] at still
      split at still
      · cases still
      · cases fallback <;> cases still
  | park timed =>
      simp only [act] at still
      split at still <;> cases still
  | parked timed =>
      simp only [act] at still
      split at still
      · next inside => exact .inr ⟨timed, rfl, inside⟩
      · cases still
  | done answer => exact .inl ⟨answer, rfl⟩

/-! ## The line -/

/-- Everybody in the line is parked, and is there once. -/
structure Lined (threads : List Point) (event : Event) : Prop where
  distinct : event.line.Nodup
  parked : ∀ me ∈ event.line, ∃ timed, threads[me]? = some (.parked timed)

namespace Lined

theorem outside (lined : Lined threads event) (found : threads[me]? = some old)
    (awake : ∀ timed, old ≠ .parked timed) : me ∉ event.line := by
  intro member
  obtain ⟨timed, parked⟩ := lined.parked me member
  rw [found] at parked
  cases parked
  exact awake timed rfl

theorem append (lined : Lined threads event) (point : Point) : Lined (threads ++ [point]) event := by
  constructor
  · exact lined.distinct
  · intro me member
    obtain ⟨timed, parked⟩ := lined.parked me member
    exact ⟨timed, World.found_append parked⟩

theorem leave (lined : Lined threads event) (shorter : changed.line.Sublist event.line)
    (outside : me ∉ changed.line) : Lined (threads.set me new) changed := by
  constructor
  · exact lined.distinct.sublist shorter
  · intro other member
    have different : me ≠ other := fun same => outside (same ▸ member)
    obtain ⟨timed, parked⟩ := lined.parked other (shorter.mem member)
    exact ⟨timed, by rwa [List.getElem?_set_ne different]⟩

theorem join (lined : Lined threads event) (outside : me ∉ event.line)
    (found : threads[me]? = some old) (timed : Bool) :
    Lined (threads.set me (.parked timed)) { event with line := event.line ++ [me] } := by
  have others : Lined (threads.set me (.parked timed)) event := lined.leave (.refl _) outside
  constructor
  · apply List.nodup_append.mpr
    refine ⟨lined.distinct, List.nodup_singleton me, ?_⟩
    intro other member last isLast same
    rw [List.mem_singleton.mp isLast] at same
    exact outside (same ▸ member)
  · intro other member
    rcases List.mem_append.mp member with member | isLast
    · exact others.parked other member
    · rw [List.mem_singleton.mp isLast]
      exact ⟨timed, World.found_set found⟩

theorem act (lined : Lined threads event) (found : threads[me]? = some old)
    (action : Action me event old new changed) : Lined (threads.set me new) changed := by
  have stays (awake : ∀ timed, old ≠ .parked timed) (same : changed.line = event.line) :
      Lined (threads.set me new) changed := by
    have outside := lined.outside found awake
    rw [← same] at outside
    exact lined.leave (same ▸ .refl _) outside
  cases action with
  | raise | lower | goPark | giveUp | turnBack => exact stays nofun rfl
  | rouse =>
      have outside := lined.outside found nofun
      have shorter : event.afterRouse.line.Sublist event.line := by
        simp only [afterRouse]
        split
        · exact List.nil_sublist _
        · exact List.tail_sublist _
      exact lined.leave shorter fun member => outside (shorter.mem member)
  | pass fallback set =>
      apply stays nofun
      simp only [afterPass]
      split <;> rfl
  | join timed clear => exact lined.join (lined.outside found nofun) found timed
  | wake timed outside => exact lined.leave (.refl _) outside
  | lapse inside =>
      apply lined.leave (List.erase_sublist)
      exact fun member => (lined.distinct.mem_erase_iff.mp member).1 rfl

end Lined

/-! ## Who heeds the flag -/

/-- The caller rouses the line, or, in an automatic event, looks at the flag before it sleeps. -/
inductive Heeds (me : ThreadId) (event : Event) : Point → Prop where
  | rousing : Heeds me event .rouse
  | looking (auto : event.mode = .auto) (fallback : Fallback) : Heeds me event (.pass fallback)
  | parking (auto : event.mode = .auto) (timed : Bool) : Heeds me event (.park timed)
  | woken (auto : event.mode = .auto) (timed : Bool) (outside : me ∉ event.line) :
      Heeds me event (.parked timed)

theorem Heeds.mono (heeds : Heeds me event point) (mode : changed.mode = event.mode)
    (line : me ∈ changed.line → me ∈ event.line) : Heeds me changed point := by
  cases heeds with
  | rousing => exact .rousing
  | looking auto fallback => exact .looking (mode.trans auto) fallback
  | parking auto timed => exact .parking (mode.trans auto) timed
  | woken auto timed outside => exact .woken (mode.trans auto) timed fun member => outside (line member)

/-- Somebody heeds a flag that is set beside a line. -/
def Heeded (threads : List Point) (event : Event) : Prop :=
  event.signaled = true → event.line ≠ [] →
    ∃ me point, threads[me]? = some point ∧ Heeds me event point

namespace Heeded

theorem append (heeded : Heeded threads event) (point : Point) :
    Heeded (threads ++ [point]) event := by
  intro set line
  obtain ⟨me, heeder, found, heeds⟩ := heeded set line
  exact ⟨me, heeder, World.found_append found, heeds⟩

theorem keep (heeded : Heeded threads event) (found : threads[me]? = some old)
    (mode : changed.mode = event.mode) (flag : changed.signaled = event.signaled)
    (line : changed.line.Sublist event.line)
    (goesOn : Heeds me event old → Heeds me changed new) : Heeded (threads.set me new) changed := by
  intro set standing
  have longer : event.line ≠ [] := by
    intro empty
    rw [empty] at line
    exact standing (List.sublist_nil.mp line)
  obtain ⟨other, heeder, foundOther, heeds⟩ := heeded (flag ▸ set) longer
  by_cases same : me = other
  · subst same
    rw [found] at foundOther
    cases foundOther
    exact ⟨me, new, World.found_set found, goesOn heeds⟩
  · refine ⟨other, heeder, ?_, heeds.mono mode fun member => line.mem member⟩
    rwa [List.getElem?_set_ne same]

theorem rouse (lined : Lined threads event) (found : threads[me]? = some .rouse) :
    Heeded (threads.set me (.done .changed)) event.afterRouse := by
  intro _ standing
  cases mode : event.mode with
  | manual =>
      rw [afterRouse_of_manual mode] at standing
      exact absurd rfl standing
  | auto =>
      rw [afterRouse_of_auto mode] at standing ⊢
      have distinct := lined.distinct
      cases line : event.line with
      | nil => simp [line] at standing
      | cons first rest =>
          rw [line, List.nodup_cons] at distinct
          obtain ⟨timed, asleep⟩ := lined.parked first (line ▸ List.mem_cons_self)
          have different : me ≠ first := by
            rintro rfl
            rw [found] at asleep
            cases asleep
          refine ⟨first, .parked timed, ?_, ?_⟩
          · rwa [List.getElem?_set_ne different]
          · apply Heeds.woken
            · exact mode
            · exact distinct.1

theorem act (heeded : Heeded threads event) (lined : Lined threads event)
    (found : threads[me]? = some old) (action : Action me event old new changed) :
    Heeded (threads.set me new) changed := by
  cases action with
  | raise => exact fun _ _ => ⟨me, .rouse, World.found_set found, .rousing⟩
  | rouse => exact rouse lined found
  | lower => exact fun set => by cases set
  | pass fallback set =>
      cases mode : event.mode with
      | manual =>
          rw [afterPass_of_manual mode]
          refine heeded.keep found rfl rfl (.refl _) fun heeds => ?_
          cases heeds with
          | looking auto => simp [mode] at auto
      | auto =>
          intro set
          rw [afterPass_of_auto mode] at set
          cases set
  | goPark timed clear | giveUp clear | join timed clear =>
      intro set
      simp [clear] at set
  | turnBack timed set =>
      refine heeded.keep found rfl rfl (.refl _) fun heeds => ?_
      cases heeds with
      | parking auto => exact .looking auto _
  | wake timed outside =>
      refine heeded.keep found rfl rfl (.refl _) fun heeds => ?_
      cases heeds with
      | woken auto => exact .looking auto _
  | lapse inside =>
      refine heeded.keep found rfl rfl List.erase_sublist fun heeds => ?_
      cases heeds with
      | woken auto timed outside => exact absurd inside outside

theorem nobody_parked (heeded : Heeded threads event) (set : event.signaled = true)
    (still : ∀ me point, threads[me]? = some point → Event.act me point event = none) :
    event.line = [] := by
  by_contra standing
  obtain ⟨me, point, found, heeds⟩ := heeded set standing
  rcases done_or_parked (still me point found) with ⟨answer, rfl⟩ | ⟨timed, rfl, inside⟩
  · cases heeds
  · cases heeds with
    | woken auto timed outside => exact outside inside

end Heeded

end Turnstile.Event
