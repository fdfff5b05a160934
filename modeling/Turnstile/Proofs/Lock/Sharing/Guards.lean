import Turnstile.Guarded
import Turnstile.Proofs.Lock.Sharing.Requests

/-!
# Guards of a shared lock

A value behind a shared lock is entered for a guard and left by dropping one. As long as
no guard takes the place of another, each such call makes one call of the lock, and
`view` forgets the value and the guards. What a call does between two actions of the lock,
it does to the guards; so the view of what happens to the value is what happens to a lock.
-/

namespace Turnstile.Lock.Sharing

set_option autoImplicit false

open World (total)

variable {α : Type} {guard : String} {mode : Mode} {me : ThreadId} {point new : Point}
  {lock changed : Sharing}

/-- A value behind a shared lock, and its callers. -/
abbrev Behind (α : Type) := World (Guarded kind α) (Guarded.Point kind α)

inductive GuardRequest where
  | enter (guard : String) (mode : Mode)
  | tryEnter (guard : String) (mode : Mode)
  | drop (guard : String) (mode : Mode)

namespace GuardRequest

def start : GuardRequest → Guarded.Point kind α
  | enter guard mode => Guarded.enter guard mode
  | tryEnter guard mode => Guarded.tryEnter guard mode
  | drop guard mode => Guarded.drop guard mode

def plain : GuardRequest → Request
  | enter _ mode => .enter mode
  | tryEnter _ mode => .tryEnter mode
  | drop _ mode => .leave mode

def names : GuardRequest → List String
  | enter guard _ | tryEnter guard _ => [guard]
  | drop _ _ => []

end GuardRequest

def plainAnswer : Guarded.Answer α → Answer
  | .entered _ => .entered
  | .refused => .refused
  | .left => .left
  | .fault fault => .fault fault

def plain : Guarded.Point kind α → Point
  | .entering _ _ point | .displacing _ point | .leaving point => point
  | .dropping _ mode => leave mode
  | .done answer => .done (plainAnswer answer)

def view (world : Behind α) : World Sharing Point := ⟨world.shared.lock, world.threads.map plain⟩

/-! ## Calls that enter and calls that leave -/

def Enters : Point → Prop
  | .enterShared | .sleepShared | .readShared | .exchangeShared _ | .lower | .publish _ | .drain
  | .claim | .gate .enter _ | .gate .tryEnter _ | .gate .giveBack _ => True
  | _ => False

def Leaves : Point → Prop
  | .leaveShared | .depart | .wakeWriter | .raise | .letIn _ | .gate .leave _ => True
  | _ => False

inductive Entering : Point → Prop where
  | on {point : Point} (enters : Enters point) : Entering point
  | entered : Entering (.done .entered)
  | refused : Entering (.done .refused)
  | fault (fault : Fault) : Entering (.done (.fault fault))

inductive Leaving : Point → Prop where
  | on {point : Point} (leaves : Leaves point) : Leaving point
  | left : Leaving (.done .left)
  | fault (fault : Fault) : Leaving (.done (.fault fault))

theorem enters_start (mode : Mode) : Enters (enter mode) ∧ Enters (tryEnter mode) := by
  cases mode <;> exact ⟨trivial, trivial⟩

theorem leaves_start (mode : Mode) : Leaves (leave mode) := by
  cases mode <;> trivial

theorem Enters.unanswered (enters : Enters point) : answer? point = none := by
  cases point with
  | done => exact absurd enters id
  | _ => rfl

theorem Leaves.unanswered (leaves : Leaves point) : answer? point = none := by
  cases point with
  | done => exact absurd leaves id
  | _ => rfl

theorem entering_after_look (seen : Int64) : Entering (afterLook seen) := by
  unfold afterLook
  split
  · exact .on trivial
  · exact .refused

theorem entering_after_gate {passage : Passage} (comes : passage ≠ .leave) (answer : Answer) :
    Entering (afterGate passage answer) := by
  match passage, answer with
  | .enter, .fault fault | .tryEnter, .fault fault | .giveBack, .fault fault => exact .fault fault
  | .enter, .entered | .enter, .refused | .enter, .left | .tryEnter, .entered => exact .on trivial
  | .tryEnter, .refused | .tryEnter, .left => exact .refused
  | .giveBack, .entered | .giveBack, .refused | .giveBack, .left => exact .refused

theorem entering_at_gate {passage : Passage} (comes : passage ≠ .leave) (point : Exclusive.Point) :
    Entering (atGate passage point) := by
  unfold atGate
  split
  · exact entering_after_gate comes _
  · refine .on ?_
    cases passage with
    | leave => exact absurd rfl comes
    | _ => trivial

theorem leaving_at_gate (point : Exclusive.Point) : Leaving (atGate .leave point) := by
  unfold atGate
  split
  · next answer _ =>
    match answer with
    | .fault fault => exact .fault fault
    | .entered | .refused | .left => exact .left
  · exact .on trivial

theorem Enters.act (enters : Enters point) (acted : act me point lock = some (new, changed)) :
    Entering new := by
  cases point with
  | leaveShared | depart | wakeWriter | raise | letIn | done => exact absurd enters id
  | enterShared =>
      cases acted
      split
      · exact .on trivial
      · exact .entered
  | sleepShared =>
      simp only [Sharing.act] at acted
      split at acted
      · cases acted
        exact .entered
      · cases acted
        exact .on trivial
      · cases acted
  | readShared =>
      cases acted
      exact entering_after_look _
  | exchangeShared seen =>
      simp only [Sharing.act] at acted
      split at acted
      · cases acted
        exact .entered
      · cases acted
        exact entering_after_look _
  | gate passage point =>
      obtain ⟨next, _, _, rfl, _⟩ := act_gate acted
      refine entering_at_gate ?_ next
      rintro rfl
      exact enters
  | lower =>
      cases acted
      unfold afterLower
      repeat' split
      · exact .fault _
      · exact .on trivial
      · exact .entered
  | publish inside =>
      cases acted
      simp only [afterPublish]
      repeat' split
      · exact .fault _
      · exact .entered
      · exact .on trivial
  | drain =>
      simp only [Sharing.act] at acted
      split at acted
      · cases acted
        exact .entered
      · cases acted
        exact .on trivial
      · cases acted
  | claim =>
      simp only [Sharing.act] at acted
      split at acted
      · cases acted
        exact .entered
      · cases acted
        exact .on trivial

theorem Leaves.act (leaves : Leaves point) (acted : act me point lock = some (new, changed)) :
    Leaving new := by
  cases point with
  | leaveShared =>
      cases acted
      repeat' split
      · exact .fault _
      · exact .on trivial
      · exact .left
  | depart =>
      cases acted
      split
      · exact .on trivial
      · exact .left
  | wakeWriter =>
      cases acted
      exact .left
  | raise =>
      cases acted
      repeat' split
      · exact .fault _
      · exact .on trivial
      · exact .on trivial
  | letIn readers =>
      cases acted
      exact .on trivial
  | gate passage point =>
      obtain ⟨next, _, _, rfl, _⟩ := act_gate acted
      cases passage with
      | leave => exact leaving_at_gate next
      | _ => exact absurd leaves id
  | _ => exact absurd leaves id

/-! ## Names of guards -/

def Proper : Guarded.Point kind α → Prop
  | .entering _ _ point => Enters point
  | .displacing _ _ => False
  | .leaving point => Leaves point
  | .dropping _ _ | .done _ => True

def asks : Guarded.Point kind α → Option String
  | .entering guard _ _ => some guard
  | _ => none

def taken (state : Guarded kind α) : List String := state.guards.map Prod.fst

/-- Every guard has its own name, also those that are still asked for. -/
structure Named (used : List String) (world : Behind α) : Prop where
  proper : ∀ point ∈ world.threads, Proper point
  kept : ∀ name ∈ taken world.shared, name ∈ used
  asked : ∀ (me : ThreadId) (point : Guarded.Point kind α) (name : String),
    world.threads[me]? = some point → asks point = some name →
      name ∈ used ∧ name ∉ taken world.shared
  apart : ∀ (me other : ThreadId) (here there : Guarded.Point kind α) (name : String),
    world.threads[me]? = some here → world.threads[other]? = some there →
      asks here = some name → asks there = some name → me = other

/-- The thread is about to give its guard up, and has not called the lock yet. -/
def dropping : Guarded.Point kind α → Nat
  | .dropping _ _ => 1
  | _ => 0

variable {used : List String} {world later last : Behind α} {old next : Guarded.Point kind α}
  {state : Guarded kind α}

theorem answer_plain (proper : Proper old) :
    answer? (plain old) = (Guarded.answer? old).map plainAnswer := by
  cases old with
  | entering guard mode point => exact proper.unanswered
  | displacing => exact absurd proper id
  | dropping guard mode => exact (leaves_start mode).unanswered
  | leaving point => exact proper.unanswered
  | done answer => rfl

theorem view_put : view (world.put me (next, state)) = (view world).put me (plain next, state.lock) := by
  simp only [view, World.put, List.map_set]

theorem found_view (found : world.threads[me]? = some old) :
    (view world).threads[me]? = some (plain old) := by
  simp [view, found]

theorem Named.put (named : Named used world) (found : world.threads[me]? = some old)
    (proper : Proper next)
    (kept : ∀ name ∈ taken state, name ∈ taken world.shared ∨ asks old = some name)
    (asked : ∀ name, asks next = some name → name ∉ taken state ∧ asks old = some name) :
    Named used (world.put me (next, state)) := by
  have before : ∀ (other : ThreadId) (point : Guarded.Point kind α) (name : String),
      (world.threads.set me next)[other]? = some point →
      asks point = some name → ∃ earlier, world.threads[other]? = some earlier ∧
        asks earlier = some name := by
    intro other point name there asking
    by_cases same : me = other
    · subst same
      rw [World.found_set found] at there
      cases there
      exact ⟨old, found, (asked name asking).2⟩
    · rw [List.getElem?_set_ne same] at there
      exact ⟨point, there, asking⟩
  refine ⟨?_, ?_, ?_, ?_⟩
  · intro point member
    rcases List.mem_or_eq_of_mem_set member with member | rfl
    · exact named.proper point member
    · exact proper
  · intro name member
    rcases kept name member with earlier | asking
    · exact named.kept name earlier
    · exact (named.asked me old name found asking).1
  · intro other point name there asking
    obtain ⟨earlier, foundEarlier, askedEarlier⟩ := before other point name there asking
    obtain ⟨listed, outside⟩ := named.asked other earlier name foundEarlier askedEarlier
    refine ⟨listed, fun member => ?_⟩
    rcases kept name member with still | asking'
    · exact outside still
    · obtain rfl := named.apart me other old earlier name found foundEarlier asking' askedEarlier
      have here : (world.threads.set me next)[me]? = some point := there
      rw [World.found_set found] at here
      cases here
      exact (asked name asking).1 member
  · intro one other here there name foundOne foundOther askedOne askedOther
    obtain ⟨_, foundOne, askedOne⟩ := before one here name foundOne askedOne
    obtain ⟨_, foundOther, askedOther⟩ := before other there name foundOther askedOther
    exact named.apart one other _ _ name foundOne foundOther askedOne askedOther

theorem taken_forget : ∀ name ∈ taken (state.forget guard), name ∈ taken state ∧ name ≠ guard := by
  intro name member
  obtain ⟨⟨name, mode⟩, listed, rfl⟩ := List.mem_map.mp member
  obtain ⟨listed, different⟩ := List.mem_filter.mp listed
  exact ⟨List.mem_map_of_mem listed, by simpa using different⟩

theorem taken_keep : ∀ name ∈ taken (state.keep guard mode), name ∈ taken state ∨ name = guard := by
  intro name member
  rw [taken, Guarded.keep, List.map_append, List.mem_append] at member
  rcases member with earlier | new
  · exact .inl (taken_forget name earlier).1
  · exact .inr (by simpa using new)

theorem mode_of_not_taken (outside : guard ∉ taken state) : state.mode? guard = none := by
  rw [Guarded.mode?, List.lookup_eq_none_iff]
  intro entry member
  simp only [bne_iff_ne, ne_eq]
  exact fun same => outside (same ▸ List.mem_map_of_mem member)

/-- A thread does the next action of its call of the lock, or gives its guard up. -/
structure Passes (me : ThreadId) (old : Guarded.Point kind α) (state : Guarded kind α)
    (next : Guarded.Point kind α) (later : Guarded kind α) : Prop where
  proper : Proper next
  kept : ∀ name ∈ taken later, name ∈ taken state ∨ asks old = some name
  asked : ∀ name, asks next = some name → taken later = taken state ∧ asks old = some name
  lock : plain next = plain old ∧ later.lock = state.lock ∧ dropping old = 1 ∧ dropping next = 0 ∨
    act me (plain old) state.lock = some (plain next, later.lock) ∧ dropping old = dropping next

theorem passes_entering {afterwards : Guarded kind α} (enters : Enters point)
    (free : guard ∉ taken state)
    (acted : Guarded.act me (.entering guard mode point) state = some (next, afterwards)) :
    Passes me (.entering guard mode point) state next afterwards := by
  rw [Guarded.act, Option.map_eq_some_iff] at acted
  obtain ⟨⟨later, lock⟩, acts, same⟩ := acted
  cases enters.act acts with
  | on enters =>
      have unanswered : machine.answer? later = none := enters.unanswered
      simp only [Guarded.afterEntering, unanswered] at same
      cases same
      exact ⟨enters, fun name => .inl, fun name asking => ⟨rfl, asking⟩, .inr ⟨acts, rfl⟩⟩
  | entered =>
      have none : Guarded.mode? ({ state with lock } : Guarded kind α) guard = none :=
        mode_of_not_taken free
      have entered : machine.answer? (.done .entered) = some .entered := rfl
      simp only [Guarded.afterEntering, entered, none] at same
      cases same
      refine ⟨trivial, fun name member => ?_, fun name asking => ?_, .inr ⟨acts, rfl⟩⟩
      · exact (taken_keep name member).imp id fun same => congrArg some same.symm
      · cases asking
  | refused =>
      cases same
      exact ⟨trivial, fun name => .inl, fun name asking => (by cases asking), .inr ⟨acts, rfl⟩⟩
  | fault fault =>
      cases same
      exact ⟨trivial, fun name => .inl, fun name asking => (by cases asking), .inr ⟨acts, rfl⟩⟩

theorem passes_leaving {afterwards : Guarded kind α} (leaves : Leaves point)
    (acted : Guarded.act me (.leaving point) state = some (next, afterwards)) :
    Passes me (.leaving point) state next afterwards := by
  rw [Guarded.act, Option.map_eq_some_iff] at acted
  obtain ⟨⟨later, lock⟩, acts, same⟩ := acted
  cases leaves.act acts with
  | on leaves =>
      have unanswered : machine.answer? later = none := leaves.unanswered
      simp only [Guarded.afterLeaving, unanswered] at same
      cases same
      exact ⟨leaves, fun name => .inl, fun name asking => (by cases asking), .inr ⟨acts, rfl⟩⟩
  | left =>
      cases same
      exact ⟨trivial, fun name => .inl, fun name asking => (by cases asking), .inr ⟨acts, rfl⟩⟩
  | fault fault =>
      cases same
      exact ⟨trivial, fun name => .inl, fun name asking => (by cases asking), .inr ⟨acts, rfl⟩⟩

theorem Named.passes (named : Named used world) (found : world.threads[me]? = some old)
    {afterwards : Guarded kind α}
    (acted : Guarded.act me old world.shared = some (next, afterwards)) :
    Passes me old world.shared next afterwards := by
  have proper := named.proper old (List.mem_of_getElem? found)
  cases old with
  | entering guard mode point =>
      exact passes_entering proper (named.asked me _ guard found rfl).2 acted
  | displacing => exact absurd proper id
  | dropping guard mode =>
      cases acted
      exact ⟨leaves_start mode, fun name member => .inl (taken_forget name member).1,
        fun name asking => (by cases asking), .inl ⟨rfl, rfl, rfl, rfl⟩⟩
  | leaving point => exact passes_leaving proper acted
  | done => cases acted

theorem Named.step (named : Named used world) (acts : world.Acts (Guarded.machine kind α) later) :
    Named used later ∧
      (view later = view world ∧ total dropping later.threads < total dropping world.threads ∨
        (view world).Acts machine (view later) ∧
          total dropping later.threads = total dropping world.threads) := by
  obtain ⟨me, moved⟩ := acts
  obtain ⟨old, next, state, found, acted, rfl⟩ := World.act_eq_some_iff.mp moved
  obtain ⟨proper, kept, asked, lock⟩ := named.passes found acted
  have here := found_view found
  have booked := World.total_set dropping found next
  refine ⟨named.put found proper kept fun name asking => ?_, ?_⟩
  · obtain ⟨same, asking⟩ := asked name asking
    exact ⟨same ▸ (named.asked me old name found asking).2, asking⟩
  · rw [view_put]
    rcases lock with ⟨stays, same, drops, dropped⟩ | ⟨acts, same⟩
    · left
      refine ⟨?_, by simp only [World.put]; omega⟩
      rw [World.put, stays, same, World.set_self here]
      rfl
    · right
      refine ⟨⟨me, World.act_eq_some_iff.mpr ⟨plain old, plain next, state.lock, here, acts, rfl⟩⟩, ?_⟩
      simp only [World.put]
      omega

theorem Named.quiet (named : Named used world) (quiet : world.Quiet (Guarded.machine kind α)) :
    (view world).Quiet machine := by
  refine World.quiet_of_still fun me point found => ?_
  rw [view, List.getElem?_map, Option.map_eq_some_iff] at found
  obtain ⟨old, found, rfl⟩ := found
  have still := World.still_of_quiet quiet found
  cases old with
  | displacing => exact absurd (named.proper _ (List.mem_of_getElem? found)) id
  | dropping => cases still
  | entering _ _ point =>
      have still : machine.act me point world.shared.lock = none := by
        simpa [Guarded.machine, Guarded.act] using still
      exact still
  | leaving point =>
      have still : machine.act me point world.shared.lock = none := by
        simpa [Guarded.machine, Guarded.act] using still
      exact still
  | done => rfl

theorem Named.settles (named : Named used world)
    (settles : world.Settles (Guarded.machine kind α) last) :
    Named used last ∧ (view world).Settles machine (view last) := by
  have along : ∀ mid, Relation.ReflTransGen (World.Acts (Guarded.machine kind α)) world mid →
      Named used mid ∧ Relation.ReflTransGen (World.Acts machine) (view world) (view mid) := by
    intro mid acts
    induction acts with
    | refl => exact ⟨named, .refl⟩
    | tail _ act ih =>
        obtain ⟨named, acts⟩ := ih
        obtain ⟨namedLater, ⟨same, _⟩ | ⟨act, _⟩⟩ := named.step act
        · exact ⟨namedLater, same ▸ acts⟩
        · exact ⟨namedLater, acts.tail act⟩
  obtain ⟨namedLast, acts⟩ := along last settles.acts
  exact ⟨namedLast, acts, namedLast.quiet settles.quiet⟩

variable {request : GuardRequest}

theorem view_spawn (world : Behind α) (request : GuardRequest) :
    view (world.spawn request.start) = (view world).spawn request.plain.start := by
  have same : plain (request.start : Guarded.Point kind α) = request.plain.start := by
    cases request <;> rfl
  simp only [view, World.spawn, List.map_append, List.map_cons, List.map_nil, same]

theorem Named.spawn (named : Named used world) (fresh : ∀ name ∈ request.names, name ∉ used) :
    Named (used ++ request.names) (world.spawn request.start) := by
  have proper : Proper (request.start : Guarded.Point kind α) := by
    cases request with
    | enter _ mode => exact (enters_start mode).1
    | tryEnter _ mode => exact (enters_start mode).2
    | drop => trivial
  have named_new : ∀ name, asks (request.start : Guarded.Point kind α) = some name →
      name ∈ request.names := by
    intro name asking
    cases request with
    | enter | tryEnter =>
        cases asking
        exact List.mem_singleton_self _
    | drop => cases asking
  refine ⟨?_, ?_, ?_, ?_⟩
  · intro point member
    rcases List.mem_append.mp member with member | member
    · exact named.proper point member
    · rw [List.mem_singleton.mp member]
      exact proper
  · exact fun name member => List.mem_append_left _ (named.kept name member)
  · intro me point name found asking
    rcases World.found_or_last_of_append found with found | ⟨_, rfl⟩
    · obtain ⟨listed, outside⟩ := named.asked me point name found asking
      exact ⟨List.mem_append_left _ listed, outside⟩
    · have new := named_new name asking
      exact ⟨List.mem_append_right _ new, fun member => fresh name new (named.kept name member)⟩
  · intro me other here there name foundMe foundOther askedMe askedOther
    rcases World.found_or_last_of_append foundMe with foundMe | ⟨rfl, rfl⟩
    · rcases World.found_or_last_of_append foundOther with foundOther | ⟨rfl, rfl⟩
      · exact named.apart me other here there name foundMe foundOther askedMe askedOther
      · exact absurd (named.asked me here name foundMe askedMe).1
          (fresh name (named_new name askedOther))
    · rcases World.found_or_last_of_append foundOther with foundOther | ⟨rfl, rfl⟩
      · exact absurd (named.asked other there name foundOther askedOther).1
          (fresh name (named_new name askedMe))
      · rfl

end Turnstile.Lock.Sharing
