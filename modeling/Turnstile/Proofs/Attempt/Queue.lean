import Turnstile.Proofs.Attempt.Lines
import Turnstile.Proofs.Queue.Traffic

/-!
# Pushes and pops that fail

A push that finds no slot, and a pop that finds no item, looks at the semaphore and changes
nothing; a timed pop that has to wait leaves the line again when its time is up. Only a
closed queue has a permit for a call that then fails: the call takes the permit of the
closing and posts it again. That wakes nobody, because between two calls nobody is in a line
of a closed queue, and so the semaphore is left as it was.
-/

namespace Turnstile.Queue

set_option autoImplicit false

open World (Inert Session Still Traceless)

variable {α : Type} {me : ThreadId} {point : Point α} {queue changed : Queue α} {item : α}
  {before : World (Queue α) (Point α)}

def rename (f : ThreadId → ThreadId) (queue : Queue α) : Queue α :=
  { queue with
    openSlots := queue.openSlots.rename f
    fullSlots := queue.fullSlots.rename f }

theorem afterStore_rename (f : ThreadId → ThreadId) (item : α) (queue : Queue α) :
    afterStore item (rename f queue) ((rename f queue).store item) =
      Prod.map id (rename f) (afterStore item queue (queue.store item)) := by
  cases closed : queue.closed with
  | true => simp [store, rename, closed, afterStore]
  | false => cases put : queue.ring.put item <;> simp [store, rename, closed, put, afterStore]

theorem afterLoad_rename (f : ThreadId → ThreadId) (queue : Queue α) :
    afterLoad (rename f queue) (rename f queue).load =
      Prod.map id (rename f) (afterLoad queue queue.load) := by
  match took : queue.ring.take with
  | .ok none | .ok (some _) | .error _ => simp [load, rename, took, afterLoad]

theorem impartial : (machine α).Impartial rename where
  act {f} injective me point queue := by
    cases point with
    | pushWait item =>
        simp only [machine, act, rename, Semaphore.wait_rename injective]
        cases queue.openSlots.wait me <;> rfl
    | tryPush item =>
        simp only [machine, act, rename, Semaphore.take_rename]
        cases queue.openSlots.take? <;> rfl
    | store item => exact congrArg some (afterStore_rename f item queue)
    | popWait timed =>
        simp only [machine, act, rename, Semaphore.wait_rename injective]
        cases queue.fullSlots.wait me <;> rfl
    | tryPop =>
        simp only [machine, act, rename, Semaphore.take_rename]
        cases queue.fullSlots.take? <;> rfl
    | load => exact congrArg some (afterLoad_rename f queue)
    | close => cases closed : queue.closed <;> simp [machine, act, rename, closed]
    | postStored | postClosed | postLoaded | postNothing | closeFull | closeOpen =>
        simp [machine, act, rename, postOpen, postFull]
    | _ => rfl
  expire {f} injective me point queue := by
    cases point with
    | popWait timed =>
        cases timed with
        | true =>
            simp only [machine, expire, rename, Semaphore.withdraw_rename injective]
            cases queue.fullSlots.withdraw? me <;> rfl
        | false => rfl
    | _ => rfl

theorem inert (point : Point α) (answer : Answer α)
    (answered : (machine α).answer? point = some answer) : Inert (machine α) point := by
  cases point with
  | done => exact fun _ _ => ⟨rfl, rfl⟩
  | _ => cases answered

/-- A push was refused, or a pop found nothing. -/
def Answer.IsFailure : Answer α → Prop
  | .push (.refused _) | .pop .nothing => True
  | _ => False

theorem still_of_subset (still : act me point queue = none)
    (slots : queue.openSlots.line ⊆ changed.openSlots.line)
    (items : queue.fullSlots.line ⊆ changed.fullSlots.line) : act me point changed = none := by
  rcases rests_of_still still with ⟨answer, rfl⟩ | ⟨item, rfl, member⟩ | ⟨timed, rfl, member⟩
  · rfl
  · simp only [act, Semaphore.wait_asleep_iff.mpr (slots member)]
  · simp only [act, Semaphore.wait_asleep_iff.mpr (items member)]

theorem post_taken {semaphore : Semaphore} (nobody : semaphore.line = []) :
    Semaphore.post { semaphore with permits := semaphore.permits - 1 } = semaphore := by
  cases semaphore with
  | mk permits line =>
      obtain rfl : line = [] := nobody
      exact congrArg (Semaphore.mk · []) (UInt64.sub_add_cancel permits 1)

/-- Nobody is in a line of the queue once it is closed. -/
structure Calm (queue : Queue α) : Prop where
  slots : queue.closed = true → queue.openSlots.line = []
  items : queue.closed = true → queue.fullSlots.line = []

section

variable (still : Still (machine α) before.threads before.shared) (calm : Calm before.shared)

include still in
theorem still_of_lines (slots : before.shared.openSlots.line ⊆ changed.openSlots.line)
    (items : before.shared.fullSlots.line ⊆ changed.fullSlots.line) :
    Still (machine α) before.threads changed :=
  fun other there found => still_of_subset (still other there found) slots items

include still calm in
theorem traceless_store (item : α) {openSlots : Semaphore}
    (taken : openSlots =
      { before.shared.openSlots with permits := before.shared.openSlots.permits - 1 }) :
    Traceless (machine α) Answer.IsFailure before (.store item)
      { before.shared with openSlots } := by
  have lined (ring : Ring α) :
      Still (machine α) before.threads { before.shared with ring, openSlots } :=
    still_of_lines still (taken ▸ List.Subset.refl _) (List.Subset.refl _)
  by_cases closed : before.shared.closed = true
  · have turned : act before.threads.length (.store item) { before.shared with openSlots } =
        some (.postClosed item, { before.shared with openSlots }) := by
      simp [act, store, closed, afterStore]
    refine .step (lined _) turned (.step (lined _) rfl (.answers rfl fun _ => ?_))
    simp only [postOpen, taken, post_taken (calm.slots closed)]
  · cases put : before.shared.ring.put item with
    | ok ring =>
        have stores : act before.threads.length (.store item) { before.shared with openSlots } =
            some (.postStored, { before.shared with ring, openSlots }) := by
          simp [act, store, closed, put, afterStore]
        exact .step (lined _) stores (.step (lined ring) rfl (.answers rfl False.elim))
    | error fault =>
        have breaks : act before.threads.length (.store item) { before.shared with openSlots } =
            some (.done (.push (.fault fault)), { before.shared with openSlots }) := by
          simp [act, store, closed, put, afterStore]
        exact .step (lined _) breaks (.answers rfl False.elim)

include still calm in
theorem traceless_load {fullSlots : Semaphore}
    (taken : fullSlots =
      { before.shared.fullSlots with permits := before.shared.fullSlots.permits - 1 }) :
    Traceless (machine α) Answer.IsFailure before .load { before.shared with fullSlots } := by
  have lined (ring : Ring α) :
      Still (machine α) before.threads { before.shared with ring, fullSlots } :=
    still_of_lines still (List.Subset.refl _) (taken ▸ List.Subset.refl _)
  match took : before.shared.ring.take with
  | .ok none =>
      have passes : act before.threads.length .load { before.shared with fullSlots } =
          some (.passOn, { before.shared with fullSlots }) := by
        simp [act, load, took, afterLoad]
      by_cases closed : before.shared.closed = true
      · have goesOn : act before.threads.length .passOn { before.shared with fullSlots } =
            some (.postNothing, { before.shared with fullSlots }) := by
          simp [act, closed]
        refine .step (lined _) passes (.step (lined _) goesOn
          (.step (lined _) rfl (.answers rfl fun _ => ?_)))
        simp only [postFull, taken, post_taken (calm.items closed)]
      · have breaks : act before.threads.length .passOn { before.shared with fullSlots } =
            some (.done (.pop (.fault .permitWithoutItem)), { before.shared with fullSlots }) := by
          simp [act, closed]
        exact .step (lined _) passes (.step (lined _) breaks (.answers rfl False.elim))
  | .ok (some (item, ring)) =>
      have loads : act before.threads.length .load { before.shared with fullSlots } =
          some (.postLoaded item, { before.shared with ring, fullSlots }) := by
        simp [act, load, took, afterLoad]
      exact .step (lined _) loads (.step (lined ring) rfl (.answers rfl False.elim))
  | .error fault =>
      have breaks : act before.threads.length .load { before.shared with fullSlots } =
          some (.done (.pop (.fault fault)), { before.shared with fullSlots }) := by
        simp [act, load, took, afterLoad]
      exact .step (lined _) breaks (.answers rfl False.elim)

include still calm in
theorem traceless_tryPush (item : α) :
    Traceless (machine α) Answer.IsFailure before (start (.tryPush item)) before.shared := by
  cases taken : before.shared.openSlots.take? with
  | some openSlots =>
      have takes : act before.threads.length (.tryPush item) before.shared =
          some (.store item, { before.shared with openSlots }) := by
        simp only [act, taken]
      exact .step still takes
        (traceless_store still calm item (Semaphore.take_eq_some taken).2)
  | none =>
      have misses : act before.threads.length (.tryPush item) before.shared =
          some (.refuse item, before.shared) := by
        simp only [act, taken]
      exact .step still misses (.step still rfl (.answers rfl fun _ => rfl))

include still calm in
theorem traceless_push (item : α) :
    Traceless (machine α) Answer.IsFailure before (start (.push item)) before.shared := by
  cases waited : before.shared.openSlots.wait before.threads.length with
  | taken openSlots =>
      have takes : act before.threads.length (.pushWait item) before.shared =
          some (.store item, { before.shared with openSlots }) := by
        simp only [act, waited]
      exact .step still takes
        (traceless_store still calm item (Semaphore.wait_taken waited).2.2)
  | joined openSlots =>
      have joins : act before.threads.length (.pushWait item) before.shared =
          some (.pushWait item, { before.shared with openSlots }) := by
        simp only [act, waited]
      obtain ⟨_, _, rfl⟩ := Semaphore.wait_joined waited
      have asleep : Semaphore.wait before.threads.length { before.shared.openSlots with
          line := before.shared.openSlots.line ++ [before.threads.length] } = .asleep :=
        Semaphore.wait_asleep_iff.mpr List.mem_concat_self
      refine .step still joins (.parks ?_ ?_ rfl fun _ _ expired => by cases expired)
      · exact still_of_lines still (List.subset_append_left _ _) (List.Subset.refl _)
      · simp only [machine, act, asleep]
  | asleep =>
      have asleep : act before.threads.length (.pushWait item) before.shared = none := by
        simp only [act, waited]
      exact .parks still asleep rfl fun _ _ expired => by cases expired

include still calm in
theorem traceless_tryPop :
    Traceless (machine α) Answer.IsFailure before (start .tryPop) before.shared := by
  cases taken : before.shared.fullSlots.take? with
  | some fullSlots =>
      have takes : act before.threads.length .tryPop before.shared =
          some (.load, { before.shared with fullSlots }) := by
        simp only [act, taken]
      exact .step still takes (traceless_load still calm (Semaphore.take_eq_some taken).2)
  | none =>
      have misses : act before.threads.length .tryPop before.shared =
          some (.done (.pop .nothing), before.shared) := by
        simp only [act, taken]
      exact .step still misses (.answers rfl fun _ => rfl)

include still calm in
theorem traceless_popWait (timed : Bool)
    (outside : before.threads.length ∉ before.shared.fullSlots.line) :
    Traceless (machine α) Answer.IsFailure before (.popWait timed) before.shared := by
  cases waited : before.shared.fullSlots.wait before.threads.length with
  | taken fullSlots =>
      have takes : act before.threads.length (.popWait timed) before.shared =
          some (.load, { before.shared with fullSlots }) := by
        simp only [act, waited]
      exact .step still takes (traceless_load still calm (Semaphore.wait_taken waited).2.2)
  | joined fullSlots =>
      have joins : act before.threads.length (.popWait timed) before.shared =
          some (.popWait timed, { before.shared with fullSlots }) := by
        simp only [act, waited]
      obtain ⟨_, _, rfl⟩ := Semaphore.wait_joined waited
      have last : before.threads.length ∈
          before.shared.fullSlots.line ++ [before.threads.length] :=
        List.mem_concat_self
      have asleep : Semaphore.wait before.threads.length { before.shared.fullSlots with
          line := before.shared.fullSlots.line ++ [before.threads.length] } = .asleep :=
        Semaphore.wait_asleep_iff.mpr last
      refine .step still joins (.parks ?_ ?_ rfl fun new changed expired => ?_)
      · exact still_of_lines still (List.Subset.refl _) (List.subset_append_left _ _)
      · simp only [machine, act, asleep]
      · cases timed with
        | true =>
            simp only [machine, expire, Semaphore.withdraw?, if_pos last,
              erase_append_self outside] at expired
            cases expired
            exact traceless_tryPop still calm
        | false => cases expired
  | asleep => exact absurd (Semaphore.wait_asleep_iff.mp waited) outside

end

/-! ## Between two calls -/

def IsNew (queue : Queue α) : Prop := ∃ capacity, ofCapacity capacity = .ok queue

def Begins (point : Point α) : Prop := ∃ call, point = start call

theorem counted_of_session (session : Session (machine α) IsNew Begins before) :
    Counted before.shared before.threads := by
  induction session with
  | fresh unused =>
      obtain ⟨_, made⟩ := unused
      exact Counted.start made
  | call _ begun settles ih =>
      obtain ⟨call, rfl⟩ := begun
      exact (ih.spawn call).settles settles
  | lapse _ lapsed settles ih =>
      obtain ⟨old, new, changed, found, expired, rfl⟩ := World.expire_eq_some_iff.mp lapsed
      exact (ih.change found (change_of_expire expired)).settles settles

theorem calm_of_session (session : Session (machine α) IsNew Begins before) :
    Calm before.shared := by
  have counted := counted_of_session session
  have quiet := session.quiet
  refine ⟨fun closed => List.eq_nil_iff_forall_not_mem.mpr fun other member => ?_,
    fun closed => List.eq_nil_iff_forall_not_mem.mpr fun other member => ?_⟩
  · obtain ⟨point, found, awaits⟩ := counted.pushers.asleep other member
    cases point with
    | pushWait item =>
        obtain ⟨_, isOpen, _⟩ := counted.full_of_parked quiet found
        rw [closed] at isOpen
        cases isOpen
    | _ => simp at awaits
  · obtain ⟨point, found, awaits⟩ := counted.poppers.asleep other member
    cases point with
    | popWait timed =>
        obtain ⟨_, isOpen, _⟩ := counted.empty_of_parked quiet found
        rw [closed] at isOpen
        cases isOpen
    | _ => simp at awaits

end Turnstile.Queue
