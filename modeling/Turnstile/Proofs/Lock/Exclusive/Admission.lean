import Turnstile.Proofs.Lock.Exclusive
import Turnstile.Proofs.Lock.Exclusive.FirstCome
import Turnstile.Proofs.Report
import Turnstile.Proofs.Schedule

/-!
# Who comes in next

Between two requests everybody has returned or sleeps in the line, and `Resting` says that
the lock then looks like a `FirstCome` lock. A permit may have been left behind by an
earlier release, but only one, and none beside a contended word: whoever marks the word as
contended goes on to the semaphore, and sleeps there only when it has used up the permit.
So the permit that a release posts is the only one, and it finds the caller that waits
longest, whose word is free.

At most one thread is awake at any time after a request, so there is only one order in
which the threads can act.
-/

namespace Turnstile.Lock.Exclusive

set_option autoImplicit false

variable {α : Type} {desk : FirstCome α} {outcome : Outcome α} {before last : Behind α}
  {state : Guarded kind α} {threads : List (Guarded.Point kind α)} {lock : Exclusive}
  {line : List (ThreadId × String)} {me : ThreadId} {guard : String} {mode : Mode}
  {point next : Point} {call : Guarded.Point kind α} {moves : Nat}

/-! ## The requests of the line -/

namespace FirstCome

/-- Whom a request releases has waited, everybody else goes on to wait, and only the caller
itself begins to. -/
structure Follows (desk : FirstCome α) (outcome : Outcome α) : Prop where
  waited : ∀ me answer, (me, answer) ∈ outcome.released → me ∈ desk.line.map Prod.fst
  once : (outcome.released.map Prod.fst).Nodup
  stays : ∀ me guard, (me, guard) ∈ desk.line → me ∉ outcome.released.map Prod.fst →
    (me, guard) ∈ outcome.desk.line
  comes : ∀ me guard, (me, guard) ∈ outcome.desk.line →
    (me, guard) ∈ desk.line ∧ me ∉ outcome.released.map Prod.fst ∨ me = desk.calls
  calls : outcome.desk.calls = desk.calls

theorem Follows.of_line (none : outcome.released = []) (same : outcome.desk.line = desk.line)
    (calls : outcome.desk.calls = desk.calls) : Follows desk outcome := by
  refine ⟨?_, ?_, ?_, ?_, calls⟩
  · rw [none]
    exact nofun
  · rw [none]
    exact List.nodup_nil
  · intro me guard member _
    rwa [same]
  · intro me guard member
    rw [same] at member
    exact .inl ⟨member, by simp [none]⟩

theorem Orderly.distinct (orderly : desk.Orderly) : (desk.line.map Prod.fst).Nodup :=
  orderly.inOrder.imp Nat.ne_of_lt

theorem release_follows (orderly : desk.Orderly) : Follows desk desk.release := by
  cases lined : desk.line with
  | nil =>
      rw [release_of_nil lined]
      exact .of_line rfl rfl rfl
  | cons first rest =>
      have distinct := orderly.distinct
      rw [lined, List.map_cons, List.nodup_cons] at distinct
      rw [release_of_cons lined]
      refine ⟨?_, List.nodup_singleton _, ?_, ?_, rfl⟩
      · intro me answer member
        cases List.mem_singleton.mp member
        rw [lined]
        exact List.mem_cons_self
      · intro me guard member stays
        rw [lined] at member
        rcases List.mem_cons.mp member with rfl | member
        · exact absurd (List.mem_singleton_self _) stays
        · exact member
      · intro me guard member
        have member : (me, guard) ∈ rest := member
        refine .inl ⟨lined ▸ List.mem_cons_of_mem _ member, fun released => ?_⟩
        obtain rfl : me = first.1 := List.mem_singleton.mp released
        exact distinct.1 (List.mem_map.mpr ⟨_, member, rfl⟩)

theorem handle_follows (orderly : desk.Orderly) (request : Request α) :
    Follows desk (desk.handle request) := by
  cases request with
  | lock guard =>
      simp only [handle]
      split
      · exact .of_line rfl rfl rfl
      · refine ⟨fun _ _ => nofun, List.nodup_nil, ?_, ?_, rfl⟩
        · exact fun me guard member _ => List.mem_append_left _ member
        · intro me guard member
          rcases List.mem_append.mp member with member | member
          · exact .inl ⟨member, List.not_mem_nil⟩
          · cases List.mem_singleton.mp member
            exact .inr rfl
  | drop guard =>
      simp only [handle]
      split
      · exact release_follows orderly
      · exact .of_line rfl rfl rfl
  | forceUnlock => exact release_follows orderly
  | get guard => exact .of_line rfl rfl rfl
  | tryLock guard | set guard value | forget guard =>
      simp only [handle]
      split <;> exact .of_line rfl rfl rfl

theorem Orderly.of_line (orderly : desk.Orderly) {other : FirstCome α} (same : other.line = desk.line)
    (calls : desk.calls ≤ other.calls) (held : desk.line ≠ [] → other.holder ≠ .nobody) :
    other.Orderly := by
  refine ⟨?_, ?_, ?_⟩
  · rw [same]
    exact orderly.inOrder
  · rw [same]
    exact fun me member => Nat.lt_of_lt_of_le (orderly.earlier me member) calls
  · rw [same]
    exact held

theorem Orderly.release (orderly : desk.Orderly) : desk.release.desk.Orderly := by
  cases lined : desk.line with
  | nil =>
      rw [release_of_nil lined]
      exact orderly.of_line rfl (Nat.le_refl _) fun some => absurd lined some
  | cons first rest =>
      have inOrder := orderly.inOrder
      have earlier := orderly.earlier
      rw [lined, List.map_cons] at inOrder earlier
      rw [release_of_cons lined]
      exact ⟨inOrder.of_cons, fun me member => earlier me (List.mem_cons_of_mem _ member), nofun⟩

theorem Orderly.serve (orderly : desk.Orderly) (request : Request α) :
    (desk.serve request).desk.Orderly := by
  have more (count : Nat) : desk.calls ≤ desk.calls + count := Nat.le_add_right _ _
  have kept (calls : Nat) (later : desk.calls ≤ calls) (value : α) :
      Orderly ⟨value, desk.holder, desk.line, calls⟩ := orderly.of_line rfl later orderly.held
  have held (holder : Holder) (taken : holder ≠ .nobody) (calls : Nat) (later : desk.calls ≤ calls) :
      Orderly ⟨desk.value, holder, desk.line, calls⟩ := orderly.of_line rfl later fun _ => taken
  have released (calls : Nat) (later : desk.calls ≤ calls) :
      Orderly { desk.release.desk with calls } :=
    orderly.release.of_line rfl ((release_follows orderly).calls ▸ later) orderly.release.held
  cases request with
  | lock guard =>
      simp only [FirstCome.serve, handle]
      split
      · exact held (.guard guard) nofun _ (more _)
      · next taken =>
        refine ⟨?_, ?_, fun _ => taken⟩
        · rw [List.map_append, List.pairwise_append]
          refine ⟨orderly.inOrder, List.pairwise_singleton _ _, ?_⟩
          intro me member last isLast
          rw [List.mem_singleton.mp isLast]
          exact orderly.earlier me member
        · intro me member
          rw [List.map_append, List.mem_append] at member
          rcases member with member | member
          · exact Nat.lt_succ_of_lt (orderly.earlier me member)
          · rw [List.mem_singleton.mp member]
            exact Nat.lt_succ_self _
  | tryLock guard =>
      simp only [FirstCome.serve, handle]
      split
      · exact held (.guard guard) nofun _ (more _)
      · exact kept _ (more _) _
  | get guard => exact kept _ (more _) _
  | set guard value =>
      simp only [FirstCome.serve, handle]
      split <;> exact kept _ (more _) _
  | drop guard =>
      simp only [FirstCome.serve, handle]
      split
      · exact released _ (more _)
      · exact kept _ (more _) _
  | forget guard =>
      simp only [FirstCome.serve, handle]
      split
      · exact held .forgotten nofun _ (more _)
      · exact kept _ (more _) _
  | forceUnlock => exact released _ (more _)

end FirstCome

/-! ## Everybody rests -/

/-- A caller has returned, or sleeps until it is let in for its guard. -/
inductive Seated (line : List (ThreadId × String)) (me : ThreadId) : Guarded.Point kind α → Prop where
  | done (answer : Guarded.Answer α) : Seated line me (.done answer)
  | waiter {guard : String} (member : (me, guard) ∈ line) :
      Seated line me (.entering guard .exclusive .sleep)

/-- What the word and the permits show of the holder and of the line. -/
structure Marks (desk : FirstCome α) (lock : Exclusive) : Prop where
  line : lock.parked.line = desk.line.map Prod.fst
  free : lock.word = .free ↔ desk.holder = .nobody
  /-- What an earlier release has left behind. -/
  stale : lock.parked.permits = 0 ∨ lock.parked.permits = 1
  contended : lock.word = .contended → lock.parked.permits = 0
  waiting : desk.line ≠ [] → lock.word = .contended

structure Mirrors (desk : FirstCome α) (state : Guarded kind α) : Prop where
  value : state.value = desk.value
  guards : state.guards = desk.holder.guards
  marks : Marks desk state.lock

/-- Everybody has returned or waits in line. -/
structure Resting (desk : FirstCome α) (world : Behind α) : Prop where
  mirrors : Mirrors desk world.shared
  orderly : desk.Orderly
  calls : world.threads.length = desk.calls
  seated : ∀ me call, world.threads[me]? = some call → Seated desk.line me call
  placed : ∀ me guard, (me, guard) ∈ desk.line →
    world.threads[me]? = some (.entering guard .exclusive .sleep)

theorem Seated.still (seated : Seated line me call)
    (lined : ∀ guard, (me, guard) ∈ line → me ∈ state.lock.parked.line) :
    Guarded.act me call state = none := by
  cases seated with
  | done answer => rfl
  | waiter member =>
      have asleep := Semaphore.wait_asleep_iff.mpr (lined _ member)
      simp [Guarded.act, machine, act, asleep]

theorem alone_of_seated (line : List (ThreadId × String))
    (seated : ∀ other there, other ≠ me → threads[other]? = some there → Seated line other there)
    (same : state.lock.parked.line = line.map Prod.fst) :
    World.Alone (Guarded.machine kind α) me ⟨state, threads⟩ :=
  World.Alone.of_still fun other there different found =>
    (seated other there different found).still fun _ member =>
      same ▸ List.mem_map_of_mem (f := Prod.fst) member

theorem quiet_of_seated (line : List (ThreadId × String))
    (seated : ∀ me call, threads[me]? = some call → Seated line me call)
    (same : state.lock.parked.line = line.map Prod.fst) :
    World.Quiet (Guarded.machine kind α) ⟨state, threads⟩ :=
  World.quiet_of_still fun me call found => (seated me call found).still fun _ member =>
    same ▸ List.mem_map_of_mem (f := Prod.fst) member

/-- The lock and the callers are where the outcome has them. -/
structure Arrives (before : Behind α) (outcome : Outcome α) (last : Behind α) : Prop where
  mirrors : Mirrors outcome.desk last.shared
  threads : ∃ call, last.threads = World.settled .done outcome.released before.threads ++ [call] ∧
    Reply.ofAnswer (Guarded.answer? call) = outcome.reply ∧
    Seated outcome.desk.line before.threads.length call ∧
    ∀ guard, (before.threads.length, guard) ∈ outcome.desk.line →
      call = .entering guard .exclusive .sleep

structure Shows (desk : FirstCome α) (state : Guarded kind α) : Prop where
  value : state.value = desk.value
  guards : state.guards = desk.holder.guards
  isHeld : state.lock.isHeld = true ↔ desk.holder ≠ .nobody

theorem Mirrors.shows (mirrors : Mirrors desk state) : Shows desk state := by
  refine ⟨mirrors.value, mirrors.guards, ?_⟩
  rw [isHeld, decide_eq_true_iff, ne_eq, mirrors.marks.free]

theorem Mirrors.mode_eq (mirrors : Mirrors desk state) (guard : String) :
    state.mode? guard = if desk.holder = .guard guard then some .exclusive else none := by
  rw [Guarded.mode?, mirrors.guards]
  cases desk.holder with
  | nobody | forgotten => rfl
  | guard name =>
      simp only [Holder.guards, List.lookup_cons, List.lookup_nil, Holder.guard.injEq]
      by_cases same : name = guard
      · simp [same]
      · simp [same, beq_eq_false_iff_ne.mpr (Ne.symm same)]

/-! ## Actions of a call -/

section
variable {later : Exclusive} {value : α} {guards : List (String × Mode)}

theorem act_entering (acted : act me point lock = some (next, later))
    (unanswered : answer? next = none) :
    (Guarded.machine kind α).act me (.entering guard mode point) ⟨lock, value, guards⟩ =
      some (.entering guard mode next, ⟨later, value, guards⟩) := by
  have unanswered : machine.answer? next = none := unanswered
  have acted : machine.act me point lock = some (next, later) := acted
  simp only [Guarded.machine, Guarded.act, acted, Option.map_some, Guarded.afterEntering, unanswered]

theorem act_entering_in (acted : act me point lock = some (.done .entered, later))
    (nobody : guards = []) :
    (Guarded.machine kind α).act me (.entering guard mode point) ⟨lock, value, guards⟩ =
      some (.done (.entered value), ⟨later, value, [(guard, mode)]⟩) := by
  have acted : machine.act me point lock = some (.done .entered, later) := acted
  have entered : machine.answer? (.done .entered) = some .entered := rfl
  simp only [Guarded.machine, Guarded.act, acted, Option.map_some, Guarded.afterEntering, entered,
    Guarded.mode?, nobody, List.lookup_nil, Guarded.keep, Guarded.forget, List.filter_nil,
    List.nil_append]

theorem act_entering_refused (acted : act me point lock = some (.done .refused, lock)) :
    (Guarded.machine kind α).act me (.entering guard mode point) ⟨lock, value, guards⟩ =
      some (.done .refused, ⟨lock, value, guards⟩) := by
  have acted : machine.act me point lock = some (.done .refused, lock) := acted
  have refused : machine.answer? (.done .refused) = some .refused := rfl
  simp only [Guarded.machine, Guarded.act, acted, Option.map_some, Guarded.afterEntering, refused]

theorem act_leaving (acted : act me point lock = some (next, later))
    (unanswered : answer? next = none) :
    (Guarded.machine kind α).act me (.leaving point) ⟨lock, value, guards⟩ =
      some (.leaving next, ⟨later, value, guards⟩) := by
  have unanswered : machine.answer? next = none := unanswered
  have acted : machine.act me point lock = some (next, later) := acted
  simp only [Guarded.machine, Guarded.act, acted, Option.map_some, Guarded.afterLeaving, unanswered]

theorem act_leaving_left (acted : act me point lock = some (.done .left, later)) :
    (Guarded.machine kind α).act me (.leaving point) ⟨lock, value, guards⟩ =
      some (.done .left, ⟨later, value, guards⟩) := by
  have acted : machine.act me point lock = some (.done .left, later) := acted
  have left : machine.answer? (.done .left) = some .left := rfl
  simp only [Guarded.machine, Guarded.act, acted, Option.map_some, Guarded.afterLeaving, left]

end

theorem Resting.alone (resting : Resting desk before) (state : Guarded kind α)
    (same : state.lock.parked.line = desk.line.map Prod.fst) (call : Guarded.Point kind α) :
    World.Alone (Guarded.machine kind α) before.threads.length ⟨state, before.threads ++ [call]⟩ := by
  refine World.Alone.newest ?_ call
  exact fun other there found => (resting.seated other there found).still fun _ member =>
    same ▸ List.mem_map_of_mem (f := Prod.fst) member

theorem Resting.newcomer_outside (resting : Resting desk before) (guard : String) :
    (before.threads.length, guard) ∉ desk.line := by
  intro member
  have earlier := resting.orderly.earlier _ (List.mem_map_of_mem (f := Prod.fst) member)
  rw [resting.calls] at earlier
  exact Nat.lt_irrefl _ earlier

theorem Resting.outside (resting : Resting desk before)
    (same : lock.parked.line = desk.line.map Prod.fst) :
    before.threads.length ∉ lock.parked.line := by
  rw [same]
  intro member
  have earlier := resting.orderly.earlier _ member
  rw [resting.calls] at earlier
  exact Nat.lt_irrefl _ earlier

theorem Resting.arrives_answered (resting : Resting desk before) (mirrors : Mirrors outcome.desk state)
    (same : outcome.desk.line = desk.line) (nobody : outcome.released = [])
    (answer : Guarded.Answer α) (replied : outcome.reply = .answers answer) :
    World.Comes (Guarded.machine kind α) (Arrives before outcome) moves
      ⟨state, before.threads ++ [.done answer]⟩ := by
  refine .of_quiet ?_ ⟨mirrors, .done answer, ?_, ?_, .done answer, ?_⟩
  · refine quiet_of_seated desk.line ?_ (by rw [mirrors.marks.line, same])
    intro me call found
    rcases World.found_or_eq_of_append found with found | rfl
    · exact resting.seated me call found
    · exact .done answer
  · rw [nobody, World.settled_nil]
  · rw [replied]
    rfl
  · rw [same]
    exact fun guard member => absurd member (resting.newcomer_outside guard)

theorem Resting.grant_comes (resting : Resting desk before) (free : desk.holder = .nobody)
    (guard : String) (acted : act before.threads.length point before.shared.lock =
      some (.done .entered, { before.shared.lock with word := .held })) :
    World.Comes (Guarded.machine kind α) (Arrives before (desk.grant guard)) (moves + 1)
      ⟨before.shared, before.threads ++ [.entering guard .exclusive point]⟩ := by
  have mirrors := resting.mirrors
  have marks := mirrors.marks
  have nobody : before.shared.guards = [] := by
    rw [mirrors.guards, free]
    rfl
  have empty : desk.line = [] := by
    by_contra some
    exact resting.orderly.held some free
  refine (resting.alone _ marks.line _).newcomer (act_entering_in acted nobody) ?_
  refine resting.arrives_answered ⟨mirrors.value, rfl, ?_⟩ rfl rfl _ ?_
  · exact ⟨marks.line, ⟨nofun, nofun⟩, marks.stale, nofun, fun some => absurd empty some⟩
  · rw [FirstCome.grant, mirrors.value]

/-- The desk once a caller has joined the line. -/
def FirstCome.joined (guard : String) (desk : FirstCome α) : Outcome α :=
  ⟨.waits, [], { desk with line := desk.line ++ [(desk.calls, guard)] }⟩

theorem Resting.sleep_comes (resting : Resting desk before) (taken : desk.holder ≠ .nobody)
    (guard : String) (word : lock.word = .contended) (none : lock.parked.permits = 0)
    (same : lock.parked.line = desk.line.map Prod.fst) :
    World.Comes (Guarded.machine kind α) (Arrives before (desk.joined guard)) (moves + 1)
      ⟨{ before.shared with lock }, before.threads ++ [.entering guard .exclusive .sleep]⟩ := by
  have mirrors := resting.mirrors
  have joined := Semaphore.wait_of_none (resting.outside same) none
  refine (resting.alone _ same _).newcomer
    (act_entering (act_sleep_joined joined) rfl) ?_
  have lined : lock.parked.line ++ [before.threads.length] =
      (desk.joined guard).desk.line.map Prod.fst := by
    rw [FirstCome.joined, List.map_append, same, resting.calls]
    rfl
  have member : (before.threads.length, guard) ∈ (desk.joined guard).desk.line := by
    rw [FirstCome.joined, resting.calls]
    exact List.mem_append_right _ (List.mem_singleton_self _)
  refine .of_quiet (quiet_of_seated (desk.joined guard).desk.line ?_ lined)
    ⟨⟨mirrors.value, mirrors.guards, ?_⟩, _, ?_, rfl, .waiter member, ?_⟩
  · intro me call found
    rcases World.found_or_last_of_append found with found | ⟨rfl, rfl⟩
    · cases resting.seated me call found with
      | done answer => exact .done answer
      | waiter member => exact .waiter (List.mem_append_left _ member)
    · exact .waiter member
  · refine ⟨lined, ?_, .inl none, fun _ => none, fun _ => word⟩
    rw [word]
    exact ⟨nofun, fun free => absurd free taken⟩
  · exact congrArg (· ++ [_]) World.settled_nil.symm
  · intro name listed
    rcases List.mem_append.mp listed with listed | listed
    · exact absurd listed (resting.newcomer_outside name)
    · obtain ⟨_, rfl⟩ := Prod.mk.inj (List.mem_singleton.mp listed)
      rfl

theorem act_contend_held (me : ThreadId) (held : lock.word ≠ .free) :
    act me .contend lock = some (.sleep, { lock with word := .contended }) := by
  simp only [act, if_neg held]

theorem Resting.contend_comes (resting : Resting desk before) (taken : desk.holder ≠ .nobody)
    (guard : String) (held : lock.word ≠ .free) (none : lock.parked.permits = 0)
    (same : lock.parked.line = desk.line.map Prod.fst) :
    World.Comes (Guarded.machine kind α) (Arrives before (desk.joined guard)) (moves + 2)
      ⟨{ before.shared with lock }, before.threads ++ [.entering guard .exclusive .contend]⟩ := by
  refine (resting.alone _ same _).newcomer (act_entering (act_contend_held before.threads.length held) rfl) ?_
  exact resting.sleep_comes taken guard rfl none same

/-- A caller that finds the lock held marks the word, uses up the permit that an earlier
release may have left, and joins the line. -/
theorem Resting.wait_comes (resting : Resting desk before) (taken : desk.holder ≠ .nobody)
    (guard : String) :
    World.Comes (Guarded.machine kind α) (Arrives before (desk.joined guard)) 5
      ⟨before.shared, before.threads ++ [.entering guard .exclusive .enter]⟩ := by
  have marks := resting.mirrors.marks
  have held : before.shared.lock.word ≠ .free := fun free => taken (marks.free.mp free)
  have enters : act before.threads.length .enter before.shared.lock =
      some (.contend, { before.shared.lock with word := .held }) := by
    simp only [act, if_neg held]
  refine (resting.alone _ marks.line _).newcomer (act_entering enters rfl) ?_
  have marked : ({ before.shared.lock with word := .held } : Exclusive).word ≠ .free := by simp
  rcases marks.stale with none | one
  · exact resting.contend_comes taken guard marked none marks.line
  · -- the permit sends the caller back to the word, which it finds taken
    have left : before.shared.lock.parked.permits ≠ 0 := by
      rw [one]
      decide
    have rises := Semaphore.wait_of_some (resting.outside marks.line) left
    refine (resting.alone _ (by exact marks.line) _).newcomer (act_entering (act_contend_held before.threads.length marked) rfl) ?_
    refine (resting.alone _ (by exact marks.line) _).newcomer (act_entering (act_sleep_taken rises) rfl) ?_
    refine resting.contend_comes taken guard (by simp) ?_ marks.line
    simp only [one]
    rfl

/-! ## The holder leaves -/

theorem Resting.left_comes (resting : Resting desk before) (empty : desk.line = [])
    (value : state.value = desk.value) (nobody : state.guards = []) (word : state.lock.word = .free)
    (line : state.lock.parked.line = [])
    (stale : state.lock.parked.permits = 0 ∨ state.lock.parked.permits = 1) :
    World.Comes (Guarded.machine kind α) (Arrives before desk.release) moves
      ⟨state, before.threads ++ [.done .left]⟩ := by
  rw [FirstCome.release_of_nil empty]
  refine resting.arrives_answered ⟨value, nobody, ?_⟩ rfl rfl .left rfl
  refine ⟨by rw [line, empty]; rfl, ⟨fun _ => rfl, fun _ => word⟩, stale, ?_, absurd empty⟩
  rw [word]
  exact nofun

/-- The caller that waits longest takes the permit that was posted for it, finds the word
free, and comes in. -/
theorem Resting.first_comes (resting : Resting desk before) {first : ThreadId}
    {rest : List (ThreadId × String)} (lined : desk.line = (first, guard) :: rest)
    (value : state.value = desk.value) (nobody : state.guards = []) (word : state.lock.word = .free)
    (line : state.lock.parked.line = rest.map Prod.fst) (one : state.lock.parked.permits = 1) :
    World.Comes (Guarded.machine kind α) (Arrives before desk.release) (moves + 2)
      ⟨state, before.threads ++ [.done .left]⟩ := by
  have distinct := resting.orderly.distinct
  rw [lined, List.map_cons, List.nodup_cons] at distinct
  have old : before.threads[first]? = some (.entering guard .exclusive .sleep) :=
    resting.placed first guard (lined ▸ List.mem_cons_self)
  have found : (before.threads ++ [.done .left])[first]? = some (.entering guard .exclusive .sleep) :=
    World.found_append old
  have within : first < before.threads.length := (List.getElem?_eq_some_iff.mp old).1
  have others : ∀ other there, other ≠ first →
      (before.threads ++ [.done .left])[other]? = some there → Seated rest other there := by
    intro other there different foundOther
    rcases World.found_or_eq_of_append foundOther with foundOther | rfl
    · cases resting.seated other there foundOther with
      | done answer => exact .done answer
      | @waiter name member =>
          rw [lined] at member
          rcases List.mem_cons.mp member with same | member
          · exact absurd (Prod.mk.inj same).1 different
          · exact .waiter member
    · exact .done .left
  have stay (next : Guarded.Point kind α) : ∀ other there, other ≠ first →
      ((before.threads ++ [Guarded.Point.done .left]).set first next)[other]? = some there →
        Seated rest other there := by
    intro other there different foundOther
    rw [List.getElem?_set_ne (Ne.symm different)] at foundOther
    exact others other there different foundOther
  have outside : first ∉ state.lock.parked.line := line ▸ distinct.1
  have some : state.lock.parked.permits ≠ 0 := by
    rw [one]
    decide
  have taken := Semaphore.wait_of_some outside some
  refine (alone_of_seated rest others line).comes found
    (act_entering (act_sleep_taken taken) rfl) ?_
  have enters (parked : Semaphore) : act first .contend { state.lock with parked } =
      .some (.done .entered, ⟨.contended, parked⟩) := by
    simp only [act, word, if_true]
  refine (alone_of_seated rest (stay _) (by exact line)).comes (World.found_set found)
    (act_entering_in (enters _) nobody) ?_
  rw [List.set_set, FirstCome.release_of_cons lined, List.set_append_left _ _ within]
  refine .of_quiet (quiet_of_seated rest ?_ line) ⟨⟨value, rfl, ?_⟩, .done .left, ?_, rfl, .done .left, ?_⟩
  · intro other there foundOther
    by_cases same : other = first
    · subst same
      rw [← List.set_append_left _ _ within, World.found_set found] at foundOther
      cases foundOther
      exact .done _
    · rw [← List.set_append_left _ _ within] at foundOther
      exact stay _ other there same foundOther
  · have none : state.lock.parked.permits - 1 = 0 := by
      rw [one]
      rfl
    exact ⟨line, by simp, .inl none, fun _ => none, fun _ => rfl⟩
  · rw [World.settled_singleton, value]
  · intro name member
    have listed : (before.threads.length, name) ∈ desk.line :=
      lined ▸ List.mem_cons_of_mem _ member
    exact absurd listed (resting.newcomer_outside name)

theorem Resting.leave_comes (resting : Resting desk before) (held : desk.holder ≠ .nobody)
    (same : state.lock = before.shared.lock) (value : state.value = desk.value)
    (nobody : state.guards = []) :
    World.Comes (Guarded.machine kind α) (Arrives before desk.release) 4
      ⟨state, before.threads ++ [.leaving .leave]⟩ := by
  have marks := resting.mirrors.marks
  rw [← same] at marks
  cases word : state.lock.word with
  | free => exact absurd (marks.free.mp word) held
  | held =>
      have empty : desk.line = [] := by
        by_contra some
        rw [marks.waiting some] at word
        cases word
      refine (resting.alone _ marks.line _).newcomer
        (act_leaving_left (act_leave_held before.threads.length word)) ?_
      exact resting.left_comes empty value nobody rfl (by rw [marks.line, empty]; rfl) marks.stale
  | contended =>
      have one : state.lock.parked.post.permits = 1 := by
        rw [Semaphore.post, marks.contended word]
        rfl
      refine (resting.alone _ marks.line _).newcomer
        (act_leaving (act_leave_contended before.threads.length word) rfl) ?_
      have wakes : act before.threads.length .wake { state.lock with word := .free } =
          some (.done .left, ⟨.free, state.lock.parked.post⟩) := rfl
      refine (resting.alone _ (by exact marks.line) _).newcomer (act_leaving_left wakes) ?_
      cases lined : desk.line with
      | nil =>
          refine resting.left_comes lined value nobody rfl ?_ (.inr one)
          rw [Semaphore.post, marks.line, lined]
          rfl
      | cons first rest =>
          refine resting.first_comes lined value nobody rfl ?_ one
          rw [Semaphore.post, marks.line, lined]
          rfl

/-! ## Any request -/

theorem act_dropping (state : Guarded kind α) : (Guarded.machine kind α).act me (.dropping guard mode) state =
    some (.leaving .leave, state.forget guard) := rfl

theorem Resting.drop_comes (resting : Resting desk before) (holder : desk.holder = .guard guard) :
    World.Comes (Guarded.machine kind α) (Arrives before desk.release) 5
      ⟨before.shared, before.threads ++ [.dropping guard .exclusive]⟩ := by
  have mirrors := resting.mirrors
  have nobody : (before.shared.forget guard).guards = [] := by
    simp [Guarded.forget, mirrors.guards, holder, Holder.guards]
  have held : desk.holder ≠ .nobody := by
    rw [holder]
    exact nofun
  refine (resting.alone _ mirrors.marks.line _).newcomer (act_dropping _) ?_
  exact resting.leave_comes held rfl mirrors.value nobody

theorem Resting.try_comes (resting : Resting desk before) (guard : String) :
    World.Comes (Guarded.machine kind α) (Arrives before (desk.handle (.tryLock guard))) 5
      ⟨before.shared, before.threads ++ [.entering guard .exclusive .tryEnter]⟩ := by
  have marks := resting.mirrors.marks
  by_cases free : desk.holder = .nobody
  · rw [FirstCome.handle, if_pos free]
    exact resting.grant_comes free guard (if_pos (marks.free.mpr free))
  · rw [FirstCome.handle, if_neg free]
    have busy : before.shared.lock.word ≠ .free := fun word => free (marks.free.mp word)
    refine (resting.alone _ marks.line _).newcomer (act_entering_refused (if_neg busy)) ?_
    exact resting.arrives_answered resting.mirrors rfl rfl .refused rfl

theorem Resting.lock_comes (resting : Resting desk before) (guard : String) :
    World.Comes (Guarded.machine kind α) (Arrives before (desk.handle (.lock guard))) 5
      ⟨before.shared, before.threads ++ [.entering guard .exclusive .enter]⟩ := by
  by_cases free : desk.holder = .nobody
  · have word := resting.mirrors.marks.free.mpr free
    have enters : act before.threads.length .enter before.shared.lock =
        some (.done .entered, { before.shared.lock with word := .held }) := by
      simp only [act, if_pos word]
    rw [FirstCome.handle, if_pos free]
    exact resting.grant_comes free guard enters
  · rw [FirstCome.handle, if_neg free]
    exact resting.wait_comes free guard

theorem Resting.deed_comes (resting : Resting desk before) {request : Request α}
    (allowed : desk.Allows request) (called : request.deed before.shared = .call call) :
    desk.isCalled request = true ∧
      World.Comes (Guarded.machine kind α) (Arrives before (desk.handle request)) 5
        (before.spawn call) := by
  have mirrors := resting.mirrors
  cases request with
  | lock guard =>
      cases called
      exact ⟨rfl, resting.lock_comes guard⟩
  | tryLock guard =>
      cases called
      exact ⟨rfl, resting.try_comes guard⟩
  | get guard | set guard value | forget guard =>
      simp only [Request.deed, Request.onGuard, mirrors.mode_eq] at called
      split at called <;> cases called
  | drop guard =>
      simp only [Request.deed, Request.onGuard, mirrors.mode_eq] at called
      by_cases holder : desk.holder = .guard guard
      · rw [if_pos holder] at called
        cases called
        refine ⟨decide_eq_true holder, ?_⟩
        rw [FirstCome.handle, if_pos holder]
        exact resting.drop_comes holder
      · rw [if_neg holder] at called
        cases called
  | forceUnlock =>
      cases called
      have forgotten : desk.holder = .forgotten := allowed
      have held : desk.holder ≠ .nobody := by
        rw [forgotten]
        exact nofun
      have nobody : before.shared.guards = [] := by
        rw [mirrors.guards, forgotten]
        rfl
      exact ⟨rfl, (resting.leave_comes held rfl mirrors.value nobody).mono (Nat.le_succ 4)⟩

theorem Resting.deed_replies (resting : Resting desk before) {request : Request α} {reply : Reply α}
    (direct : request.deed before.shared = .reply reply state) :
    desk.isCalled request = false ∧ (desk.handle request).reply = reply ∧
      (desk.handle request).released = [] ∧ (desk.handle request).desk.line = desk.line ∧
        Mirrors (desk.handle request).desk state := by
  have mirrors := resting.mirrors
  have marks := mirrors.marks
  cases request with
  | lock guard | tryLock guard | forceUnlock => cases direct
  | get guard =>
      simp only [Request.deed, Request.onGuard, mirrors.mode_eq] at direct
      by_cases holder : desk.holder = .guard guard
      · rw [if_pos holder] at direct
        cases direct
        rw [FirstCome.handle, if_pos holder, mirrors.value]
        exact ⟨rfl, rfl, rfl, rfl, mirrors⟩
      · rw [if_neg holder] at direct
        cases direct
        rw [FirstCome.handle, if_neg holder]
        exact ⟨rfl, rfl, rfl, rfl, mirrors⟩
  | set guard value =>
      simp only [Request.deed, Request.onGuard, mirrors.mode_eq] at direct
      by_cases holder : desk.holder = .guard guard
      · rw [if_pos holder] at direct
        cases direct
        rw [FirstCome.handle, if_pos holder]
        refine ⟨rfl, rfl, rfl, rfl, rfl, mirrors.guards, ?_⟩
        exact ⟨marks.line, marks.free, marks.stale, marks.contended, marks.waiting⟩
      · rw [if_neg holder] at direct
        cases direct
        rw [FirstCome.handle, if_neg holder]
        exact ⟨rfl, rfl, rfl, rfl, mirrors⟩
  | drop guard =>
      simp only [Request.deed, Request.onGuard, mirrors.mode_eq] at direct
      by_cases holder : desk.holder = .guard guard
      · rw [if_pos holder] at direct
        cases direct
      · rw [if_neg holder] at direct
        cases direct
        rw [FirstCome.handle, if_neg holder]
        exact ⟨decide_eq_false holder, rfl, rfl, rfl, mirrors⟩
  | forget guard =>
      simp only [Request.deed, Request.onGuard, mirrors.mode_eq] at direct
      by_cases holder : desk.holder = .guard guard
      · rw [if_pos holder] at direct
        cases direct
        rw [FirstCome.handle, if_pos holder]
        have taken : before.shared.lock.word ≠ .free := by
          rw [ne_eq, marks.free, holder]
          exact nofun
        refine ⟨rfl, rfl, rfl, rfl, mirrors.value, ?_, ?_⟩
        · simp [Guarded.forget, mirrors.guards, holder, Holder.guards, FirstCome.keep]
        · exact ⟨marks.line, ⟨fun free => absurd free taken, nofun⟩, marks.stale, marks.contended,
            marks.waiting⟩
      · rw [if_neg holder] at direct
        cases direct
        rw [FirstCome.handle, if_neg holder]
        exact ⟨rfl, rfl, rfl, rfl, mirrors⟩

/-! ## What is left of a request -/

theorem Mirrors.of_calls {calls : Nat} (mirrors : Mirrors desk state) :
    Mirrors { desk with calls } state := by
  obtain ⟨value, guards, line, free, stale, contended, waiting⟩ := mirrors
  exact ⟨value, guards, line, free, stale, contended, waiting⟩

theorem Resting.serve_of_call (resting : Resting desk before) {request : Request α}
    (called : desk.isCalled request = true) (arrives : Arrives before (desk.handle request) last) :
    Resting (desk.serve request).desk last := by
  obtain ⟨mirrors, call, threads, -, seat, place⟩ := arrives
  have follows := FirstCome.handle_follows resting.orderly request
  have length : (World.settled .done (desk.handle request).released before.threads).length =
      before.threads.length := World.length_settled
  refine ⟨mirrors.of_calls, resting.orderly.serve request, ?_, ?_, ?_⟩
  · rw [threads, List.length_append, length, List.length_singleton, resting.calls, FirstCome.serve,
      called]
    rfl
  · intro me point found
    rw [threads] at found
    rcases World.found_or_last_of_append found with found | ⟨rfl, rfl⟩
    · by_cases released : me ∈ (desk.handle request).released.map Prod.fst
      · obtain ⟨⟨who, answer⟩, listed, rfl⟩ := List.mem_map.mp released
        obtain ⟨bound, _⟩ := List.getElem?_eq_some_iff.mp found
        rw [World.found_settled_of_released follows.once listed
          (List.getElem?_eq_getElem (length ▸ bound))] at found
        cases found
        exact .done answer
      · rw [World.found_settled_of_not_released released] at found
        cases resting.seated me point found with
        | done answer => exact .done answer
        | waiter member => exact .waiter (follows.stays me _ member released)
    · rw [length]
      exact seat
  · intro me guard member
    rw [threads]
    rcases follows.comes me guard member with ⟨waited, stays⟩ | rfl
    · refine World.found_append ?_
      rw [World.found_settled_of_not_released stays]
      exact resting.placed me guard waited
    · rw [← resting.calls] at member ⊢
      rw [place guard member, ← length]
      exact List.getElem?_concat_length

theorem Resting.serve_of_reply (resting : Resting desk before) {request : Request α} {reply : Reply α}
    (direct : request.deed before.shared = .reply reply state) :
    Resting (desk.serve request).desk { before with shared := state } := by
  obtain ⟨uncalled, -, -, same, mirrors⟩ := resting.deed_replies direct
  have line : (desk.serve request).desk.line = desk.line := same
  refine ⟨mirrors.of_calls, resting.orderly.serve request, ?_, ?_, ?_⟩
  · rw [FirstCome.serve, uncalled]
    exact resting.calls
  · rw [line]
    exact resting.seated
  · rw [line]
    exact resting.placed

end Turnstile.Lock.Exclusive
