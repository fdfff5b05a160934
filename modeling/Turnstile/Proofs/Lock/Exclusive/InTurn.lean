import Turnstile.Proofs.Lock.Exclusive.Admission

/-!
# Callers come in in the order of their calls

Requests are made of a value behind the lock, one after the other, each followed in any order
until nobody can act, and the lock is forced open only in the place of a forgotten guard. Then
what is seen of each request is what a `FirstCome` lock says. The permits that releases leave
behind are not to be seen.
-/

namespace Turnstile.Lock.Exclusive

set_option autoImplicit false

variable {α : Type} {value : α} {desk : FirstCome α} {before last world : Behind α}
  {request : Request α} {requests : List (Request α)} {reply : Reply α} {me : ThreadId}

/-- A request was made, its reply is given, and everybody has come to rest. -/
inductive Served (before : Behind α) (request : Request α) : Reply α → Behind α → Prop where
  | call {point : Guarded.Point kind α} {last : Behind α}
      (called : request.deed before.shared = .call point)
      (settles : (before.spawn point).Settles (Guarded.machine kind α) last) :
      Served before request
        (Reply.ofAnswer (last.answer? (Guarded.machine kind α) before.threads.length)) last
  | direct {reply : Reply α} {state : Guarded kind α}
      (direct : request.deed before.shared = .reply reply state) :
      Served before request reply { before with shared := state }

/-- The requests were made one after the other, each once the one before had come to rest. -/
inductive ServedAll (value : α) : List (Request α) → Behind α → Prop where
  | none : ServedAll value [] ⟨Guarded.ofValue kind value, []⟩
  | next {requests : List (Request α)} {request : Request α} {before last : Behind α} {reply : Reply α}
      (earlier : ServedAll value requests before)
      (allowed : ((FirstCome.opened value).serveAll requests).Allows request)
      (served : Served before request reply last) : ServedAll value (requests ++ [request]) last

structure Agrees (outcome : Outcome α) (before : Behind α) (reply : Reply α) (last : Behind α) :
    Prop where
  reply : reply = outcome.reply
  released : (before.report (Guarded.machine kind α) last before.threads.length).released.Perm
    outcome.released
  waiting : (before.report (Guarded.machine kind α) last before.threads.length).waiting.Perm
    (outcome.desk.line.map Prod.fst)
  shows : Shows outcome.desk last.shared

def Request.perform (request : Request α) (before : Behind α) : Reply α × Behind α :=
  match request.deed before.shared with
  | .call point =>
    let (after, report) := before.issue (Guarded.machine kind α) point
    (.ofAnswer report.answer, after)
  | .reply reply state => (reply, { before with shared := state })

namespace Resting

theorem opened (value : α) : Resting (.opened value) ⟨Guarded.ofValue kind value, []⟩ := by
  have marks : Marks (.opened value) (Guarded.ofValue kind value).lock :=
    ⟨rfl, ⟨fun _ => rfl, fun _ => rfl⟩, .inl rfl, nofun, fun some => absurd rfl some⟩
  exact ⟨⟨rfl, rfl, marks⟩, ⟨.nil, nofun, fun some => absurd rfl some⟩, rfl, nofun, nofun⟩

theorem mem_line_iff (resting : Resting desk world) : me ∈ desk.line.map Prod.fst ↔
    ∃ point, world.threads[me]? = some point ∧ Guarded.answer? point = none := by
  constructor
  · intro member
    obtain ⟨⟨me, guard⟩, listed, rfl⟩ := List.mem_map.mp member
    exact ⟨_, resting.placed me guard listed, rfl⟩
  · rintro ⟨point, found, unanswered⟩
    cases resting.seated me point found with
    | done answer => cases unanswered
    | waiter member => exact List.mem_map_of_mem (f := Prod.fst) member

theorem report_waiting (resting : Resting desk world) :
    (before.report (Guarded.machine kind α) world before.threads.length).waiting.Perm
      (desk.line.map Prod.fst) :=
  World.report_waiting_perm resting.orderly.distinct fun _ => resting.mem_line_iff

theorem ends (resting : Resting desk before) (arrives : Arrives before (desk.handle request) last) :
    World.Ends (Guarded.machine kind α) (desk.handle request).released
        (last.answer? (Guarded.machine kind α) before.threads.length) before last ∧
      Reply.ofAnswer (last.answer? (Guarded.machine kind α) before.threads.length) =
        (desk.handle request).reply := by
  obtain ⟨-, call, threads, replied, -, -⟩ := arrives
  have follows := FirstCome.handle_follows resting.orderly request
  have ends : World.Ends (Guarded.machine kind α) (desk.handle request).released
      (Guarded.answer? call) before last := by
    refine .of_threads (fun _ => rfl) threads ?_ follows.once
    intro me answer member
    exact resting.mem_line_iff.mp (follows.waited me answer member)
  rw [ends.new]
  exact ⟨ends, replied⟩

theorem serve (resting : Resting desk before) (allowed : desk.Allows request)
    (served : Served before request reply last) :
    Resting (desk.serve request).desk last ∧ Agrees (desk.serve request) before reply last := by
  cases served with
  | call called settles =>
      obtain ⟨counted, comes⟩ := resting.deed_comes allowed called
      have arrives := comes.surely last settles
      have after := resting.serve_of_call counted arrives
      obtain ⟨ends, replied⟩ := resting.ends arrives
      exact ⟨after, replied, ends.report_released, after.report_waiting, after.mirrors.shows⟩
  | @direct _ state direct =>
      have after := resting.serve_of_reply direct
      obtain ⟨-, replied, nobody, -, -⟩ := resting.deed_replies direct
      refine ⟨after, replied.symm, ?_, after.report_waiting, after.mirrors.shows⟩
      -- no thread has moved, so nobody has been released
      have none : (before.report (Guarded.machine kind α) { before with shared := state }
          before.threads.length).released = [] := by
        refine List.eq_nil_iff_forall_not_mem.mpr ?_
        rintro ⟨me, answer⟩ member
        obtain ⟨old, new, foundOld, foundNew, unanswered, answered⟩ :=
          World.mem_report_released.mp member
        have foundNew : before.threads[me]? = some new := foundNew
        rw [foundOld] at foundNew
        cases foundNew
        rw [unanswered] at answered
        cases answered
      have nobody : (desk.serve request).released = [] := nobody
      rw [none, nobody]

theorem perform_served (resting : Resting desk before) (allowed : desk.Allows request) :
    Served before request (request.perform before).1 (request.perform before).2 := by
  cases deed : request.deed before.shared with
  | call point =>
      obtain ⟨-, comes⟩ := resting.deed_comes allowed deed
      simp only [Request.perform, deed]
      refine .call deed (comes.settle ?_)
      have length : (before.spawn point).threads.length = before.threads.length + 1 := by
        simp [World.spawn]
      omega
  | reply reply state =>
      simp only [Request.perform, deed]
      exact .direct deed

end Resting

theorem ServedAll.resting (served : ServedAll value requests world) :
    Resting ((FirstCome.opened value).serveAll requests) world := by
  induction served with
  | none => exact .opened value
  | next earlier allowed served ih =>
      rw [FirstCome.serveAll, List.foldl_append]
      exact (ih.serve allowed served).1

/-- After any requests, in which the lock was forced open only in the place of a forgotten guard,
and in whatever order the threads acted on them: the value, the guards and the lock are what the
first-come lock says, its callers wait in the order of their calls, and none waits for a lock that
nobody holds. Of any such request that follows, in whatever order the threads act on it, the reply,
the callers that it lets in and those that wait after it are those of the first-come lock, and so
is what can then be seen. The schedule that is run is such an order. -/
theorem first_come_first_served (value : α) (requests : List (Request α)) (world : Behind α)
    (served : ServedAll value requests world) :
    let desk := (FirstCome.opened value).serveAll requests
    Shows desk world.shared ∧ (desk.line.map Prod.fst).Pairwise (· < ·) ∧
      (desk.line ≠ [] → world.shared.lock.isHeld = true) ∧
      ∀ request : Request α, desk.Allows request →
        (∀ reply last, Served world request reply last →
          Agrees (desk.serve request) world reply last) ∧
        Served world request (request.perform world).1 (request.perform world).2 := by
  have resting := served.resting
  have shows := resting.mirrors.shows
  refine ⟨shows, resting.orderly.inOrder, ?_, ?_⟩
  · exact fun waiting => shows.isHeld.mpr (resting.orderly.held waiting)
  · intro request allowed
    refine ⟨?_, resting.perform_served allowed⟩
    exact fun reply last answered => (resting.serve allowed answered).2

theorem ServedAll.perform (served : ServedAll value requests world) (request : Request α)
    (allowed : ((FirstCome.opened value).serveAll requests).Allows request) :
    ServedAll value (requests ++ [request]) (request.perform world).2 :=
  served.next allowed (served.resting.perform_served allowed)

/-- Two callers wait behind a guard that is forgotten. The release before has left a permit
behind, which the first of the two has used up in vain. -/
def crowded : List (Request Nat) :=
  [.lock "first", .lock "second", .drop "first", .drop "second", .lock "third", .set "third" 8,
    .lock "fourth", .lock "fifth", .forget "third"]

/-- The lock after these requests. Its value was 3 at first. -/
def crowdedLock : Behind Nat :=
  crowded.foldl (fun world request => (request.perform world).2) ⟨Guarded.ofValue kind 3, []⟩

private theorem served_to_crowdedLock : ServedAll 3 crowded crowdedLock :=
  ((((((((ServedAll.none.perform (.lock "first") trivial).perform
    (.lock "second") trivial).perform
    (.drop "first") trivial).perform
    (.drop "second") trivial).perform
    (.lock "third") trivial).perform
    (.set "third" 8) trivial).perform
    (.lock "fourth") trivial).perform
    (.lock "fifth") trivial).perform
    (.forget "third") trivial

/-- Once the lock is forced open, the fourth caller comes in, sees what the third has set, and
the fifth waits on. -/
theorem forced_open_in_turn :
    (Request.forceUnlock.perform crowdedLock).1 = .answers .left ∧
      (crowdedLock.report (Guarded.machine kind Nat) (Request.forceUnlock.perform crowdedLock).2
        crowdedLock.threads.length).released.Perm [(5, .entered 8)] ∧
      (crowdedLock.report (Guarded.machine kind Nat) (Request.forceUnlock.perform crowdedLock).2
        crowdedLock.threads.length).waiting.Perm [6] := by
  obtain ⟨_, _, _, next⟩ := first_come_first_served 3 crowded crowdedLock served_to_crowdedLock
  obtain ⟨agrees, performed⟩ := next .forceUnlock rfl
  obtain ⟨reply, released, waiting, _⟩ := agrees _ _ performed
  exact ⟨reply, released, waiting⟩

end Turnstile.Lock.Exclusive
