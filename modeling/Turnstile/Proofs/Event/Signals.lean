import Mathlib.Logic.Relation
import Turnstile.Proofs.Event.Actions
import Turnstile.Proofs.Schedule

/-!
# Signals are conserved

A `Record` is an event with its callers and an entry for each call, in which every action
of the call notes what it did to the flag, and an action that is to raise the flag what it
found there. A step is a new call, an action or the end of a timed wait, in any order. A
signal counts by what it found, whether or not it changed anything; that it leaves the flag
set is part of what is shown. Every signal that found the flag of an automatic event clear
is then still there, or was used up by one wait or one reset, and a flag that is set leaves
nobody parked.
-/

namespace Turnstile.Event

set_option autoImplicit false

open World (total)

/-- What the flag shows to a caller that is about to raise it, for a signal takes no other
look at it. -/
def Point.finding (point : Option Point) (flag : Bool) : List Bool :=
  if point = some .raise then [flag] else []

/-- A call: what it has found each time it was about to raise the flag, and how often its
actions have set a flag that was clear, and cleared one that was set. -/
structure Entry where
  call : Call
  found : List Bool
  raised : Nat
  lowered : Nat
  deriving DecidableEq, Repr

namespace Entry

/-- An action of the call from such a point, which has found the flag so and has left it so. -/
def note (point : Option Point) (before after : Bool) (entry : Entry) : Entry :=
  { entry with
    found := entry.found ++ Point.finding point before
    raised := entry.raised + (!before && after).toNat
    lowered := entry.lowered + (before && !after).toNat }

theorem note_same (point : Point) (other : point ≠ .raise) (flag : Bool) (entry : Entry) :
    entry.note (some point) flag flag = entry := by
  cases flag <;> simp [note, Point.finding, other]

theorem noted (before after : Bool) :
    (before && !after).toNat + after.toNat = before.toNat + (!before && after).toNat := by
  cases before <;> cases after <;> rfl

/-- How often the call, if it is a signal, has found the flag clear. -/
def signalled (entry : Entry) : Nat :=
  match entry.call with
  | .signal => entry.found.count false
  | .reset | .wait | .waitUntil => 0

def reset (entry : Entry) : Nat :=
  match entry.call with
  | .reset => entry.lowered
  | .signal | .wait | .waitUntil => 0

/-- How often the call, if it is no reset, has cleared a flag that was set. -/
def used (entry : Entry) : Nat :=
  match entry.call with
  | .reset => 0
  | .signal | .wait | .waitUntil => entry.lowered

theorem lowered_eq (entry : Entry) : entry.lowered = entry.reset + entry.used := by
  unfold reset used
  split <;> simp

/-- What a call has done to the flag, and what it has answered, if it has. A signal has
raised the flag whenever it found it clear, and has found it one way or the other before it
answers. -/
def Tells (mode : EventMode) (answer : Option Answer) (entry : Entry) : Prop :=
  match entry.call with
  | .signal =>
    entry.raised = entry.found.count false ∧ entry.lowered = 0 ∧
      (answer = none ∧ entry.found.length ≤ 1 ∨ answer = some .changed ∧ entry.found.length = 1)
  | .reset => entry.raised = 0 ∧ entry.lowered ≤ 1 ∧ (answer = none ∨ answer = some .changed)
  | .wait =>
    entry.raised = 0 ∧ entry.lowered = (if mode = .auto ∧ answer = some .passed then 1 else 0) ∧
      (answer = none ∨ answer = some .passed)
  | .waitUntil =>
    entry.raised = 0 ∧ entry.lowered = (if mode = .auto ∧ answer = some .passed then 1 else 0) ∧
      (answer = none ∨ answer = some .passed ∨ answer = some .refused)

theorem Tells.lowered_of_manual {entry : Entry} {answer : Option Answer}
    (tells : entry.Tells .manual answer) (other : entry.call ≠ .reset) : entry.lowered = 0 := by
  unfold Tells at tells
  split at tells
  · exact tells.2.1
  · next reset => exact absurd reset other
  · simpa using tells.2.1
  · simpa using tells.2.1

end Entry

/-- Counts a caller that has answered that it passed. -/
def passes : Point → Nat
  | .done .passed => 1
  | _ => 0

structure Record where
  world : World Event Point
  entries : List Entry

namespace Record

def opened (mode : EventMode) (signaled : Bool) : Record := ⟨⟨ofMode mode signaled, []⟩, []⟩

def passed (record : Record) : Nat := total passes record.world.threads

def call (call : Call) (record : Record) : Record :=
  ⟨record.world.spawn (start call), record.entries ++ [⟨call, [], 0, 0⟩]⟩

def moved (me : ThreadId) (later : World Event Point) (record : Record) : Record :=
  ⟨later, record.entries.modify me
    (Entry.note record.world.threads[me]? record.world.shared.signaled later.shared.signaled)⟩

inductive Step (record : Record) : Record → Prop where
  | call (call : Call) : Step record (record.call call)
  | act (me : ThreadId) {later : World Event Point}
      (acted : record.world.act? machine me = some later) : Step record (record.moved me later)
  | expire (me : ThreadId) {later : World Event Point}
      (expired : record.world.expire? machine me = some later) : Step record (record.moved me later)

def Leads : Record → Record → Prop := Relation.ReflTransGen Step

end Record

variable {me : ThreadId} {old new point : Point} {event changed : Event} {mode : EventMode}
  {signaled : Bool} {record later : Record} {entry : Entry}

/-! ## What a call has done so far -/

/-- Whether a call is a wait, and then whether it has a deadline. -/
def Call.timed? : Call → Option Bool
  | signal | reset => none
  | wait => some false
  | waitUntil => some true

/-- The entry of a call that stands at such a point. -/
inductive Booked (mode : EventMode) : Entry → Point → Prop where
  | raise : Booked mode ⟨.signal, [], 0, 0⟩ .raise
  | rouse (flag : Bool) : Booked mode ⟨.signal, [flag], (!flag).toNat, 0⟩ .rouse
  | signalled (flag : Bool) : Booked mode ⟨.signal, [flag], (!flag).toNat, 0⟩ (.done .changed)
  | lower : Booked mode ⟨.reset, [], 0, 0⟩ .lower
  | reset {lowered : Nat} (once : lowered ≤ 1) :
      Booked mode ⟨.reset, [], 0, lowered⟩ (.done .changed)
  | look {call : Call} {timed : Bool} (waits : call.timed? = some timed) :
      Booked mode ⟨call, [], 0, 0⟩ (.pass (.wait timed))
  | park {call : Call} {timed : Bool} (waits : call.timed? = some timed) :
      Booked mode ⟨call, [], 0, 0⟩ (.park timed)
  | parked {call : Call} {timed : Bool} (waits : call.timed? = some timed) :
      Booked mode ⟨call, [], 0, 0⟩ (.parked timed)
  | lastLook : Booked mode ⟨.waitUntil, [], 0, 0⟩ (.pass .giveUp)
  | passed {call : Call} {timed : Bool} (waits : call.timed? = some timed) :
      Booked mode ⟨call, [], 0, if mode = .auto then 1 else 0⟩ (.done .passed)
  | refused : Booked mode ⟨.waitUntil, [], 0, 0⟩ (.done .refused)

namespace Booked

theorem start (mode : EventMode) (call : Call) : Booked mode ⟨call, [], 0, 0⟩ (start call) := by
  cases call with
  | signal => exact .raise
  | reset => exact .lower
  | wait => exact .look rfl
  | waitUntil => exact .look rfl

theorem pass {call : Call} {timed : Bool} {fallback : Fallback} (waits : call.timed? = some timed)
    (set : event.signaled = true) :
    Booked event.mode (Entry.note (some (.pass fallback)) event.signaled event.afterPass.signaled
      ⟨call, [], 0, 0⟩) (.done .passed) := by
  have passed : Booked event.mode ⟨call, [], 0, if event.mode = .auto then 1 else 0⟩
      (.done .passed) := .passed waits
  cases mode : event.mode with
  | manual =>
      rw [afterPass_of_manual mode, Entry.note_same (.pass fallback) nofun]
      rwa [mode] at passed
  | auto =>
      rw [afterPass_of_auto mode, set]
      rwa [mode] at passed

theorem act (booked : Booked event.mode entry old) (action : Action me event old new changed) :
    Booked event.mode (entry.note (some old) event.signaled changed.signaled) new := by
  cases action with
  | raise =>
      cases booked
      have raised : (!event.signaled && true).toNat = (!event.signaled).toNat := by
        rw [Bool.and_true]
      have kept : (event.signaled && !true).toNat = 0 := by
        rw [Bool.not_true, Bool.and_false]
        rfl
      simp only [Entry.note, raised, kept, Nat.zero_add]
      exact .rouse event.signaled
  | rouse =>
      cases booked with
      | rouse flag =>
          have same : event.afterRouse.signaled = event.signaled := by
            unfold afterRouse
            split <;> rfl
          rw [same, Entry.note_same .rouse nofun]
          exact .signalled flag
  | lower =>
      cases booked
      cases event.signaled
      · exact .reset (Nat.zero_le 1)
      · exact .reset (Nat.le_refl 1)
  | pass fallback set =>
      cases booked with
      | look waits => exact pass waits set
      | lastLook => exact pass (show Call.waitUntil.timed? = some true from rfl) set
  | goPark timed clear =>
      rw [Entry.note_same (.pass (.wait timed)) nofun]
      cases booked with
      | look waits => exact .park waits
  | giveUp clear =>
      rw [Entry.note_same (.pass .giveUp) nofun]
      cases booked
      exact .refused
  | turnBack timed set =>
      rw [Entry.note_same (.park timed) nofun]
      cases booked with
      | park waits => exact .look waits
  | join timed clear =>
      rw [Entry.note_same (.park timed) nofun]
      cases booked with
      | park waits => exact .parked waits
  | wake timed outside =>
      rw [Entry.note_same (.parked timed) nofun]
      cases booked with
      | parked waits => exact .look waits
  | lapse inside =>
      rw [Entry.note_same (.parked true) nofun]
      cases booked with
      | @parked call _ waits =>
          cases call <;> cases waits
          exact .lastLook

theorem tells (booked : Booked mode entry point) : entry.Tells mode (answer? point) := by
  cases booked with
  | raise => exact ⟨rfl, rfl, .inl ⟨rfl, Nat.zero_le 1⟩⟩
  | rouse flag =>
      refine ⟨?_, rfl, .inl ⟨rfl, Nat.le_refl 1⟩⟩
      cases flag <;> rfl
  | signalled flag =>
      refine ⟨?_, rfl, .inr ⟨rfl, rfl⟩⟩
      cases flag <;> rfl
  | lower => exact ⟨rfl, Nat.zero_le 1, .inl rfl⟩
  | reset once => exact ⟨rfl, once, .inr rfl⟩
  | lastLook | refused => simp [Entry.Tells, answer?]
  | @look call _ waits | @park call _ waits | @parked call _ waits | @passed call _ waits =>
      cases call <;> cases waits <;> simp [Entry.Tells, answer?]

/-- Only a signal raises the flag, and it does whenever it finds it clear; apart from a reset,
only a wait that passes clears the flag of an automatic event. -/
theorem accounts (booked : Booked mode entry point) :
    entry.raised = entry.signalled ∧ (mode = .auto → entry.used = passes point) := by
  cases booked with
  | rouse flag | signalled flag => cases flag <;> exact ⟨rfl, fun _ => rfl⟩
  | raise | lower | reset | lastLook | refused => exact ⟨rfl, fun _ => rfl⟩
  | @look call _ waits | @park call _ waits | @parked call _ waits | @passed call _ waits =>
      cases call <;> cases waits <;> exact ⟨rfl, by rintro rfl; rfl⟩

end Booked

/-! ## Any run -/

/-- The entries account for the flag, and the line is heeded. -/
structure Kept (mode : EventMode) (signaled : Bool) (record : Record) : Prop where
  kind : record.world.shared.mode = mode
  lengths : record.entries.length = record.world.threads.length
  booked : ∀ (me : ThreadId) (entry : Entry) (point : Point), record.entries[me]? = some entry →
    record.world.threads[me]? = some point → Booked mode entry point
  balance : total Entry.lowered record.entries + record.world.shared.signaled.toNat =
    signaled.toNat + total Entry.raised record.entries
  lined : Lined record.world.threads record.world.shared
  heeded : Heeded record.world.threads record.world.shared

namespace Kept

theorem opened (mode : EventMode) (signaled : Bool) : Kept mode signaled (.opened mode signaled) := by
  constructor
  · rfl
  · rfl
  · exact fun _ _ _ => nofun
  · exact Nat.add_comm _ _
  · exact ⟨List.nodup_nil, nofun⟩
  · exact fun _ standing => absurd rfl standing

theorem call (kept : Kept mode signaled record) (call : Call) :
    Kept mode signaled (record.call call) := by
  constructor
  · exact kept.kind
  · simp [Record.call, World.spawn, kept.lengths]
  · intro me entry point listed found
    rcases World.found_or_last_of_append listed with listed | ⟨rfl, rfl⟩
    · rcases World.found_or_last_of_append found with found | ⟨rfl, rfl⟩
      · exact kept.booked me entry point listed found
      · have bound := (List.getElem?_eq_some_iff.mp listed).1
        rw [kept.lengths] at bound
        exact absurd bound (Nat.lt_irrefl _)
    · rw [kept.lengths] at found
      have newest : (record.call call).world.threads[record.world.threads.length]? = some (start call) :=
        List.getElem?_concat_length
      rw [newest] at found
      cases found
      exact .start mode call
  · have balance := kept.balance
    simp only [Record.call, World.total_append, Nat.add_zero]
    exact balance
  · exact kept.lined.append _
  · exact kept.heeded.append _

theorem moved (kept : Kept mode signaled record) (found : record.world.threads[me]? = some old)
    (action : Action me record.world.shared old new changed) :
    Kept mode signaled (record.moved me (record.world.put me (new, changed))) := by
  obtain ⟨entry, listed⟩ : ∃ entry, record.entries[me]? = some entry := by
    have bound := (List.getElem?_eq_some_iff.mp found).1
    rw [← kept.lengths] at bound
    exact ⟨_, List.getElem?_eq_getElem bound⟩
  have booked := kept.booked me entry old listed found
  have noted : (record.moved me (record.world.put me (new, changed))).entries =
      record.entries.set me
        (entry.note (some old) record.world.shared.signaled changed.signaled) := by
    simp only [Record.moved, World.put]
    rw [found, List.modify_eq_set_getElem?, listed]
    rfl
  constructor
  · exact action.mode.trans kept.kind
  · rw [noted]
    simp [Record.moved, World.put, kept.lengths]
  · intro other there point listedThere foundThere
    rw [noted] at listedThere
    have foundThere : (record.world.threads.set me new)[other]? = some point := foundThere
    by_cases same : me = other
    · subst same
      rw [World.found_set found] at foundThere
      rw [World.found_set listed] at listedThere
      cases foundThere
      cases listedThere
      rw [← kept.kind] at booked ⊢
      exact booked.act action
    · rw [List.getElem?_set_ne same] at foundThere listedThere
      exact kept.booked other there point listedThere foundThere
  · rw [noted]
    have lowered := World.total_set Entry.lowered listed
      (entry.note (some old) record.world.shared.signaled changed.signaled)
    have raised := World.total_set Entry.raised listed
      (entry.note (some old) record.world.shared.signaled changed.signaled)
    have balance := kept.balance
    have change := Entry.noted record.world.shared.signaled changed.signaled
    simp only [Entry.note] at lowered raised ⊢
    simp only [Record.moved, World.put]
    omega
  · exact kept.lined.act found action
  · exact kept.heeded.act kept.lined found action

theorem step (kept : Kept mode signaled record) (step : record.Step later) :
    Kept mode signaled later := by
  cases step with
  | call call => exact kept.call call
  | act me acted =>
      obtain ⟨old, new, changed, found, acts, rfl⟩ := World.act_eq_some_iff.mp acted
      exact kept.moved found (action_of_act acts)
  | expire me expired =>
      obtain ⟨old, new, changed, found, expires, rfl⟩ := World.expire_eq_some_iff.mp expired
      exact kept.moved found (action_of_expire expires)

theorem leads (kept : Kept mode signaled record) (leads : record.Leads later) :
    Kept mode signaled later := by
  induction leads with
  | refl => exact kept
  | tail _ step ih => exact ih.step step

theorem of_leads (leads : (Record.opened mode signaled).Leads record) : Kept mode signaled record :=
  (opened mode signaled).leads leads

theorem conserved (kept : Kept .auto signaled record) :
    record.passed + total Entry.reset record.entries + record.world.shared.signaled.toNat =
      signaled.toNat + total Entry.signalled record.entries := by
  have found_of {me : ThreadId} {entry : Entry} (listed : record.entries[me]? = some entry) :
      ∃ point, record.world.threads[me]? = some point := by
    have bound := (List.getElem?_eq_some_iff.mp listed).1
    rw [kept.lengths] at bound
    exact ⟨_, List.getElem?_eq_getElem bound⟩
  have raised : total Entry.raised record.entries = total Entry.signalled record.entries := by
    apply World.total_eq_total_of_paired rfl
    intro me entry other listed same
    rw [listed] at same
    cases same
    obtain ⟨point, found⟩ := found_of listed
    exact (kept.booked me entry point listed found).accounts.1
  have used : total Entry.used record.entries = record.passed :=
    World.total_eq_total_of_paired kept.lengths fun me entry point listed found =>
      (kept.booked me entry point listed found).accounts.2 rfl
  have lowered : total Entry.lowered record.entries =
      total Entry.reset record.entries + record.passed := by
    rw [← used, ← World.total_add]
    exact congrArg (total · record.entries) (funext Entry.lowered_eq)
  have balance := kept.balance
  omega

theorem tells (kept : Kept mode signaled record) (listed : record.entries[me]? = some entry) :
    entry.Tells mode (record.world.answer? machine me) := by
  have bound := (List.getElem?_eq_some_iff.mp listed).1
  rw [kept.lengths] at bound
  have found := List.getElem?_eq_getElem bound
  rw [World.answer?, found]
  exact (kept.booked me entry _ listed found).tells

theorem answered (kept : Kept mode signaled record) (quiet : record.world.Quiet machine)
    (set : record.world.shared.signaled = true) (found : record.world.threads[me]? = some point) :
    ∃ answer, point = .done answer := by
  have still : ∀ me point, record.world.threads[me]? = some point →
      Event.act me point record.world.shared = none :=
    fun me point found => World.still_of_quiet quiet found
  have empty := kept.heeded.nobody_parked set still
  rcases done_or_parked (still me point found) with done | ⟨timed, _, inside⟩
  · exact done
  · rw [empty] at inside
    cases inside

end Kept

/-- However many threads call an event, and however their actions interleave, timed waits
ending at any moment: in an automatic event each signal that found the flag clear has let
one wait pass, or was cleared by a reset, or is still to be seen, and so was a flag that was
set at first; in a manual event nothing but a reset clears the flag; each call has done to
the flag what belongs to its kind and its answer; a signal that has looked at the flag leaves
it set; and where nobody can act any more, a flag that is set leaves nobody parked. -/
theorem signals_conserved_and_heeded (mode : EventMode) (signaled : Bool) (record : Record)
    (leads : (Record.opened mode signaled).Leads record) :
    record.entries.length = record.world.threads.length ∧
    (mode = .auto →
      record.passed + total Entry.reset record.entries + record.world.shared.signaled.toNat =
        signaled.toNat + total Entry.signalled record.entries) ∧
    (mode = .manual → ∀ (me : ThreadId) (entry : Entry), record.entries[me]? = some entry →
      entry.call ≠ .reset → entry.lowered = 0) ∧
    (∀ (me : ThreadId) (entry : Entry), record.entries[me]? = some entry →
      entry.Tells mode (record.world.answer? machine me)) ∧
    (∀ (me : ThreadId) (later : World Event Point), record.world.threads[me]? = some .raise →
      record.world.act? machine me = some later → later.shared.signaled = true) ∧
    (record.world.Quiet machine → record.world.shared.signaled = true →
      record.world.shared.line = [] ∧ ∀ (me : ThreadId) (point : Point),
        record.world.threads[me]? = some point → ∃ answer, point = .done answer) := by
  have kept := Kept.of_leads leads
  refine ⟨kept.lengths, ?_, ?_, fun me entry listed => kept.tells listed, ?_, ?_⟩
  · rintro rfl
    exact kept.conserved
  · rintro rfl me entry listed other
    exact (kept.tells listed).lowered_of_manual other
  · intro me later found acted
    obtain ⟨old, new, changed, here, acts, rfl⟩ := World.act_eq_some_iff.mp acted
    rw [found] at here
    cases here
    cases acts
    rfl
  · intro quiet set
    constructor
    · exact kept.heeded.nobody_parked set fun me point found => World.still_of_quiet quiet found
    · exact fun me point found => kept.answered quiet set found

/-- Thread 2 used up the signal that roused thread 0, and a reset used up the next one. The
third let thread 0 pass, the fourth is still there, and the fifth found the flag set by it. -/
def contested : Record :=
  ⟨⟨⟨.auto, true, []⟩,
      [.done .passed, .done .changed, .done .passed, .done .changed, .done .changed,
        .done .changed, .done .changed, .done .changed]⟩,
    [⟨.wait, [], 0, 1⟩, ⟨.signal, [false], 1, 0⟩, ⟨.waitUntil, [], 0, 1⟩,
      ⟨.signal, [false], 1, 0⟩, ⟨.reset, [], 0, 1⟩, ⟨.signal, [false], 1, 0⟩,
      ⟨.signal, [false], 1, 0⟩, ⟨.signal, [true], 0, 0⟩]⟩

private theorem leads_to_contested : (Record.opened .auto false).Leads contested := by
  have asleep : (Record.opened .auto false).Leads
      ⟨⟨⟨.auto, false, [0]⟩, [.parked false]⟩, [⟨.wait, [], 0, 0⟩]⟩ :=
    .tail (.tail (.tail .refl (.call .wait)) (.act 0 rfl)) (.act 0 rfl)
  have overtaken : (Record.opened .auto false).Leads
      ⟨⟨⟨.auto, false, [0]⟩, [.parked false, .done .changed, .done .passed]⟩,
        [⟨.wait, [], 0, 0⟩, ⟨.signal, [false], 1, 0⟩, ⟨.waitUntil, [], 0, 1⟩]⟩ :=
    .tail (.tail (.tail (.tail (.tail (.tail (.tail (.tail asleep
      (.call .signal)) (.act 1 rfl)) (.call .waitUntil)) (.act 2 rfl)) (.act 1 rfl))
      (.act 0 rfl)) (.act 0 rfl)) (.act 0 rfl)
  have cleared : (Record.opened .auto false).Leads
      ⟨⟨⟨.auto, false, []⟩, [.pass (.wait false), .done .changed, .done .passed, .done .changed,
          .done .changed]⟩,
        [⟨.wait, [], 0, 0⟩, ⟨.signal, [false], 1, 0⟩, ⟨.waitUntil, [], 0, 1⟩,
          ⟨.signal, [false], 1, 0⟩, ⟨.reset, [], 0, 1⟩]⟩ :=
    .tail (.tail (.tail (.tail (.tail (.tail overtaken
      (.call .signal)) (.act 3 rfl)) (.call .reset)) (.act 4 rfl)) (.act 3 rfl)) (.act 0 rfl)
  exact .tail (.tail (.tail (.tail (.tail (.tail (.tail (.tail (.tail (.tail cleared
    (.call .signal)) (.act 5 rfl)) (.act 0 rfl)) (.act 5 rfl)) (.call .signal)) (.act 6 rfl))
    (.act 6 rfl)) (.call .signal)) (.act 7 rfl)) (.act 7 rfl)

private theorem contested_quiet : contested.world.Quiet machine := by
  intro me
  match me with
  | 0 | 1 | 2 | 3 | 4 | 5 | 6 | 7 | _ + 8 => rfl

/-- Two waits passed, one reset cleared the flag, and the flag is set: as many as there were
signals that found it clear, which one of the five did not. -/
theorem contested_accounts :
    contested.passed + total Entry.reset contested.entries + 1 =
        total Entry.signalled contested.entries ∧
      contested.world.shared.line = [] := by
  obtain ⟨_, conserved, _, _, _, heeded⟩ :=
    signals_conserved_and_heeded .auto false contested leads_to_contested
  constructor
  · have account := conserved rfl
    rwa [show contested.world.shared.signaled.toNat = 1 from rfl, show false.toNat = 0 from rfl,
      Nat.zero_add] at account
  · exact (heeded contested_quiet rfl).1

end Turnstile.Event
