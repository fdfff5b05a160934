import Turnstile.Proofs.Lock.Sharing.Guards
import Turnstile.Proofs.Lock.Sharing.Requests

/-!
# A shared lock is a phase-fair lock

Requests are made one after the other, each followed in any order until nobody can act,
and nothing is given up that is not held. Then what is seen of each request, who waits
after it and what can be read off the lock are what the `PhaseFair` lock says. A value
behind the lock behaves as the lock does, if each guard has its own name.
-/

namespace Turnstile.Lock.Sharing

set_option autoImplicit false

open World (total)

variable {α : Type} {value : α}

/-- The calls for guards were made one after the other, each with a new name for its guard
and each once the one before had come to rest. -/
inductive GuardedAll (value : α) : List GuardRequest → Behind α → Prop where
  | none : GuardedAll value [] ⟨Guarded.ofValue kind value, []⟩
  | next {requests : List GuardRequest} {request : GuardRequest} {before last : Behind α}
      (earlier : GuardedAll value requests before)
      (fresh : ∀ name ∈ request.names, name ∉ requests.flatMap GuardRequest.names)
      (allowed : (PhaseFair.free.serveAll (requests.map GuardRequest.plain)).Allows request.plain)
      (settles : (before.spawn request.start).Settles (Guarded.machine kind α) last) :
      GuardedAll value (requests ++ [request]) last

variable {requests : List GuardRequest} {request : GuardRequest} {world last : Behind α}

theorem GuardedAll.served (served : GuardedAll value requests world) :
    Named (requests.flatMap GuardRequest.names) world ∧
      ServedAll (requests.map GuardRequest.plain) (view world) := by
  induction served with
  | none =>
      refine ⟨⟨?_, ?_, ?_, ?_⟩, .none⟩
      · intro point member
        cases member
      · intro name member
        cases member
      · intro me point name found
        cases found
      · intro me other here there name found
        cases found
  | next earlier fresh allowed settles ih =>
      obtain ⟨named, served⟩ := ih
      obtain ⟨namedLast, settles⟩ := (named.spawn fresh).settles settles
      rw [view_spawn] at settles
      rw [List.flatMap_append, List.flatMap_singleton, List.map_append]
      exact ⟨namedLast, served.next allowed settles⟩

theorem Named.issue_settles {used : List String} {fair : PhaseFair} (named : Named used world)
    (fresh : ∀ name ∈ request.names, name ∉ used) (settled : Settled fair (view world))
    (holds : fair.Holds request.plain) :
    (world.spawn request.start).Settles (Guarded.machine kind α)
      (world.issue (Guarded.machine kind α) request.start).1 := by
  have comes := settled.handle_comes holds
  rw [← view_spawn] at comes
  have length : (world.spawn request.start).threads.length = world.threads.length + 1 := by
    simp [World.spawn]
  have hidden : total dropping (world.spawn request.start).threads ≤
      (world.spawn request.start).threads.length * 1 :=
    World.total_le_mul fun point => by cases point <;> simp [dropping]
  have seen : (view world).threads.length = world.threads.length := List.length_map _
  have comes : World.Comes (Guarded.machine kind α) (fun _ => True) (2 * world.threads.length + 10)
      (world.spawn request.start) :=
    .of_view (fun world later named acts => named.step acts) (fun last named => named.quiet)
      (fun _ _ _ _ => trivial) (named.spawn fresh) comes (by omega)
  rw [World.issue_fst]
  exact comes.settle (by omega)

theorem Named.report_view {used more : List String} {before : Behind α}
    (named : Named used before) (namedLast : Named more last) (me : ThreadId) :
    (view before).report machine (view last) me =
      (before.report (Guarded.machine kind α) last me).map plainAnswer := by
  refine World.report_map rfl rfl ?_
  rintro point (member | member)
  · exact answer_plain (named.proper point member)
  · exact answer_plain (namedLast.proper point member)

/-- After any requests, in which nothing was given up that was not held and there were fewer
readers at once, those that wait included, than the word can count (`PhaseFair.Fits`, which
fewer than `2 ^ 63 - 1` requests cannot break, by `PhaseFair.allows_of_few`), and in whatever
order the threads acted on them: what can be read off the lock and its two words are what the
phase-fair lock says, and of any such request that follows, in whatever order the threads act
on it, its answer, the callers that it releases with their answers and those that wait after it
are those of the phase-fair lock, and so is what can then be read off. The schedule that is run
is such an order, and it comes to its end. The same holds of a value behind the lock, its guards
and its answers without the value. -/
theorem refines_phase_fair (value : α) :
    (∀ (requests : List Request) (world : World Sharing Point), ServedAll requests world →
      Shows (PhaseFair.free.serveAll requests) world.shared ∧
      ∀ request : Request, (PhaseFair.free.serveAll requests).Allows request →
        (∀ last, (world.spawn request.start).Settles machine last →
          Agrees ((PhaseFair.free.serveAll requests).serve request)
            (world.report machine last world.threads.length) last.shared) ∧
        (world.spawn request.start).Settles machine (world.issue machine request.start).1 ∧
        Agrees ((PhaseFair.free.serveAll requests).serve request)
          (world.issue machine request.start).2 (world.issue machine request.start).1.shared) ∧
    (∀ (requests : List GuardRequest) (world : Behind α), GuardedAll value requests world →
      Shows (PhaseFair.free.serveAll (requests.map GuardRequest.plain)) world.shared.lock ∧
      ∀ request : GuardRequest,
        (∀ name ∈ request.names, name ∉ requests.flatMap GuardRequest.names) →
        (PhaseFair.free.serveAll (requests.map GuardRequest.plain)).Allows request.plain →
        (∀ last, (world.spawn request.start).Settles (Guarded.machine kind α) last →
          Agrees ((PhaseFair.free.serveAll (requests.map GuardRequest.plain)).serve request.plain)
            ((world.report (Guarded.machine kind α) last world.threads.length).map plainAnswer)
            last.shared.lock) ∧
        (world.spawn request.start).Settles (Guarded.machine kind α)
          (world.issue (Guarded.machine kind α) request.start).1 ∧
        Agrees ((PhaseFair.free.serveAll (requests.map GuardRequest.plain)).serve request.plain)
          ((world.issue (Guarded.machine kind α) request.start).2.map plainAnswer)
          (world.issue (Guarded.machine kind α) request.start).1.shared.lock) := by
  constructor
  · intro requests world served
    have settled := served.settled
    refine ⟨settled.shows, fun request allowed => ?_⟩
    have agrees : ∀ last, (world.spawn request.start).Settles machine last →
        Agrees ((PhaseFair.free.serveAll requests).serve request)
          (world.report machine last world.threads.length) last.shared :=
      fun last settles => (settled.agrees allowed settles).2
    have issued := settled.issue_settles allowed.holds
    exact ⟨agrees, issued, agrees _ issued⟩
  · intro requests world guarded
    obtain ⟨named, served⟩ := guarded.served
    have settled := served.settled
    refine ⟨settled.shows, fun request fresh allowed => ?_⟩
    have agrees : ∀ last, (world.spawn request.start).Settles (Guarded.machine kind α) last →
        Agrees ((PhaseFair.free.serveAll (requests.map GuardRequest.plain)).serve request.plain)
          ((world.report (Guarded.machine kind α) last world.threads.length).map plainAnswer)
          last.shared.lock := by
      intro last settles
      obtain ⟨namedLast, settles⟩ := (named.spawn fresh).settles settles
      rw [view_spawn] at settles
      have agrees := (settled.agrees allowed settles).2
      have seen : (view world).threads.length = world.threads.length := List.length_map _
      rw [Named.report_view named namedLast, seen] at agrees
      exact agrees
    have issued := named.issue_settles fresh settled allowed.holds
    exact ⟨agrees, issued, agrees _ issued⟩

theorem ServedAll.issue {requests : List Request} {world : World Sharing Point}
    (served : ServedAll requests world) (request : Request)
    (allowed : (PhaseFair.free.serveAll requests).Allows request) :
    ServedAll (requests ++ [request]) (world.issue machine request.start).1 :=
  served.next allowed (served.settled.issue_settles allowed.holds)

theorem GuardedAll.issue (served : GuardedAll value requests world) (request : GuardRequest)
    (fresh : ∀ name ∈ request.names, name ∉ requests.flatMap GuardRequest.names)
    (allowed : (PhaseFair.free.serveAll (requests.map GuardRequest.plain)).Allows request.plain) :
    GuardedAll value (requests ++ [request])
      (world.issue (Guarded.machine kind α) request.start).1 :=
  served.next fresh allowed
    (served.served.1.issue_settles fresh served.served.2.settled allowed.holds)

/-- A writer is inside, and behind it wait two readers and another writer. -/
def queued : World Sharing Point :=
  [Request.enter .exclusive, .enter .shared, .enter .shared, .enter .exclusive].foldl
    (fun world request => (world.issue machine request.start).1) ⟨free, []⟩

private theorem served_to_queued :
    ServedAll [.enter .exclusive, .enter .shared, .enter .shared, .enter .exclusive] queued :=
  (((ServedAll.none.issue (.enter .exclusive) ⟨trivial, by decide⟩).issue
    (.enter .shared) ⟨trivial, by decide⟩).issue
    (.enter .shared) ⟨trivial, by decide⟩).issue
    (.enter .exclusive) ⟨trivial, by decide⟩

/-- A reader has a guard of the number behind the lock, and a writer waits for one. -/
def awaited : Behind Nat :=
  [GuardRequest.enter "reader" .shared, .enter "writer" .exclusive].foldl
    (fun world request => (world.issue (Guarded.machine kind Nat) request.start).1)
    ⟨Guarded.ofValue kind 5, []⟩

private theorem guarded_to_awaited :
    GuardedAll 5 [.enter "reader" .shared, .enter "writer" .exclusive] awaited :=
  (GuardedAll.none.issue (.enter "reader" .shared) (by decide) ⟨trivial, by decide⟩).issue
    (.enter "writer" .exclusive) (by decide) ⟨trivial, by decide⟩

/-- The writer that leaves lets both readers in, and the other writer drains them. The reader
that drops its guard lets the writer in. -/
theorem queued_and_awaited_come_in :
    ((queued.issue machine (leave .exclusive)).2.answer = some .left ∧
      (queued.issue machine (leave .exclusive)).2.released.Perm [(1, .entered), (2, .entered)] ∧
      (queued.issue machine (leave .exclusive)).2.waiting.Perm [3] ∧
      (queued.issue machine (leave .exclusive)).1.shared.isHeldExclusively = true) ∧
    (((awaited.issue (Guarded.machine kind Nat) (Guarded.drop "reader" .shared)).2.map
        plainAnswer).released.Perm [(1, .entered)] ∧
      (awaited.issue (Guarded.machine kind Nat) (Guarded.drop "reader" .shared)).2.waiting.Perm
        []) := by
  obtain ⟨refines, guarded⟩ := refines_phase_fair (5 : Nat)
  obtain ⟨_, next⟩ := refines _ queued served_to_queued
  obtain ⟨_, _, answer, released, waiting, shows⟩ := next (.leave .exclusive) ⟨rfl, by decide⟩
  obtain ⟨_, next⟩ := guarded _ awaited guarded_to_awaited
  obtain ⟨_, _, _, let_in, nobody, _⟩ :=
    next (.drop "reader" .shared) (by decide) ⟨Nat.one_pos, by decide⟩
  exact ⟨⟨answer, released, waiting, shows.isHeldExclusively⟩, let_in, nobody⟩

end Turnstile.Lock.Sharing
