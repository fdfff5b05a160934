import Turnstile.Proofs.Pool.Deliveries

/-!
# The courses that threads take

A `Course` is one action of a submission, of a worker or of whoever asks for an outcome,
whatever the bodies throw: where it leads to, and what it does to the pool, down to the
last counter and note. A submission sees a queue that is open and full, and only then goes
on to the next one; a worker that takes a job from a queue of its own runs it at once, and
counts the theft first if the queue is another worker's.
-/

namespace Turnstile

set_option autoImplicit false

open Turnstile.Task (Ticket Job Body Delivery Outcome)

namespace Queue

variable {α : Type} {queue later : Queue α} {item : α} {answer : PushAnswer α} {me : ThreadId}

/-- What whoever brings an item to a queue is told. -/
inductive Met (item : α) (queue later : Queue α) : PushAnswer α → Prop where
  | stored : Met item queue later .stored
  | closed : Met item queue later (.refused (.closed item))
  | full (same : later = queue) (isOpen : queue.closed = false)
      (full : queue.toList.length = queue.capacity) : Met item queue later (.refused (.full item))

theorem answer_of_storeAll (result : queue.storeAll item = (answer, later)) :
    answer = .stored ∨ answer = .refused (.closed item) ∨ ∃ fault, answer = .fault fault := by
  unfold storeAll at result
  split at result
  · cases result
    exact .inr (.inl rfl)
  · cases result
    exact .inl rfl
  · cases result
    exact .inr (.inr ⟨_, rfl⟩)

namespace Sound

theorem met_of_storeAll (sound : Sound queue) {openSlots : Semaphore}
    (fewer : openSlots.permits.toNat + 1 = queue.openSlots.permits.toNat)
    (result : storeAll item { queue with openSlots } = (answer, later)) (before : Queue α) :
    Met item before later answer := by
  have unbroken (fault : Fault) : answer ≠ .fault fault := by
    rintro rfl
    rcases sound with idle | spent
    · cases (idle.takeSlot fewer).storeAll result
    · simp only [storeAll, store, spent.closed, if_true] at result
      cases result
  rcases answer_of_storeAll result with rfl | rfl | ⟨fault, rfl⟩
  · exact .stored
  · exact .closed
  · exact absurd rfl (unbroken fault)

theorem met_of_tryPush (sound : Sound queue) (result : queue.tryPush item = (answer, later)) :
    Met item queue later answer := by
  unfold tryPush at result
  split at result
  · next none =>
    cases result
    obtain ⟨isOpen, full⟩ := sound.full_of_none ((Semaphore.take_none_iff _).mp none)
    rw [isOpen]
    exact .full rfl isOpen full
  · next openSlots taken =>
    exact sound.met_of_storeAll (Semaphore.toNat_permits_take taken) result queue

theorem met_of_push (sound : Sound queue) (result : queue.push me item = .finished answer later) :
    Met item queue later answer := by
  unfold push at result
  split at result
  · next openSlots taken =>
    cases result
    exact sound.met_of_storeAll (Semaphore.toNat_permits_taken taken) rfl queue
  · cases result
  · cases result

end Sound

end Queue

namespace Pool

variable {α : Type} {me : ThreadId} {pool later : Pool α} {config : Config} {world : Running α}

/-! ## What submissions do -/

def Submission.Knocks (attempts : Nat) : Submission α → Prop
  | .look _ _ attempt => attempt < attempts
  | .wait _ _ => True
  | _ => False

inductive Submission.Course (pool : Pool α) : Submission α → Submission α → Pool α → Prop where
  | ticket (body : Body α) : Course pool (.begin body)
      (.look ⟨pool.deliveries.length, body⟩ pool.nextQueue 0)
      { pool.issueTicket.2 with nextQueue := pool.nextQueue + 1 }
  | aim {worker : Nat} (body : Body α) (within : worker < pool.queues.length) :
      Course pool (.aim worker body) (.wait ⟨pool.deliveries.length, body⟩ worker)
        pool.issueTicket.2
  | misaim {worker : Nat} (body : Body α) (beyond : pool.queues.length ≤ worker) :
      Course pool (.aim worker body) (.done (.fault .noSuchWorker)) pool
  | meetFull {job : Job α} {home : UInt64} {attempt : Nat} {queue : Queue (Job α)}
      (within : attempt < pool.config.submitAttempts)
      (found : pool.queues[pool.candidate home attempt]? = some queue)
      (isOpen : queue.closed = false) (full : queue.toList.length = queue.capacity) :
      Course pool (.look job home attempt) (.look job home (attempt + 1)) pool
  | exhaust {job : Job α} {home : UInt64} {attempt : Nat}
      (beyond : pool.config.submitAttempts ≤ attempt) :
      Course pool (.look job home attempt) (.fallBack job home) pool
  | fallBack (job : Job α) (home : UInt64) : Course pool (.fallBack job home)
      (.wait job (pool.queueAt home))
      ((pool.count .countFallback).note (.fellBack job.ticket (pool.queueAt home)))
  | accept {old : Submission α} {job : Job α} (seeks : old.seeks? = some job)
      (knocks : old.Knocks pool.config.submitAttempts) (index : Nat) (after : Queue (Job α)) :
      Course pool old (.count job.ticket)
        ((pool.setQueue index after).note (.accepted job.ticket index))
  | refuse {old : Submission α} {job : Job α} (seeks : old.seeks? = some job)
      (knocks : old.Knocks pool.config.submitAttempts) (index : Nat) (after : Queue (Job α)) :
      Course pool old (.done (.refused .shutDown))
        ((pool.setQueue index after).note (.refused job.ticket))
  | park (job : Job α) (index : Nat) (after : Queue (Job α)) :
      Course pool (.wait job index) (.wait job index) (pool.setQueue index after)
  | answer (ticket : Ticket) : Course pool (.count ticket) (.done (.accepted ticket))
      (pool.count .countSubmitted)

namespace Submission

variable {submission new : Submission α} {job : Job α}

theorem course_of_afterPush {index : Nat} {queue visited : Queue (Job α)}
    {answer : Queue.PushAnswer (Job α)} (seeks : submission.seeks? = some job)
    (knocks : submission.Knocks pool.config.submitAttempts) (met : Queue.Met job queue visited answer)
    (acted : afterPush job index (pool.setQueue index visited) answer = (new, later)) :
    Course pool submission new later := by
  cases met with
  | stored =>
      cases acted
      exact .accept seeks knocks index visited
  | closed | full =>
      cases acted
      exact .refuse seeks knocks index visited

theorem course_of_act (sound : ∀ queue ∈ pool.queues, queue.Sound)
    (acted : submission.act me pool = some (new, later)) : Course pool submission new later := by
  cases submission with
  | begin body =>
      cases acted
      exact .ticket body
  | aim worker body =>
      by_cases within : worker < pool.queues.length
      · simp only [act, within, if_true] at acted
        cases acted
        exact .aim body within
      · simp only [act, within, if_false] at acted
        cases acted
        exact .misaim body (Nat.not_lt.mp within)
  | look job home attempt =>
      by_cases within : attempt < pool.config.submitAttempts
      · simp only [act, within, if_true, Option.map_eq_some_iff] at acted
        obtain ⟨queue, found, acted⟩ := acted
        cases result : queue.tryPush job with
        | mk answer visited =>
            have met := (sound queue (List.mem_of_getElem? found)).met_of_tryPush result
            rw [result] at acted
            cases met with
            | stored =>
                have storing : Queue.Met job queue visited .stored := .stored
                exact course_of_afterPush rfl within storing acted
            | closed =>
                have closing : Queue.Met job queue visited (.refused (.closed job)) := .closed
                exact course_of_afterPush rfl within closing acted
            | full same isOpen full =>
                subst same
                cases acted
                rw [setQueue, World.set_self found]
                exact .meetFull within found isOpen full
      · simp only [act, within, if_false] at acted
        cases acted
        exact .exhaust (Nat.not_lt.mp within)
  | fallBack job home =>
      cases acted
      exact .fallBack job home
  | wait job index =>
      simp only [act, Option.bind_eq_some_iff] at acted
      obtain ⟨queue, found, acted⟩ := acted
      split at acted
      · next answer visited result =>
        have met := (sound queue (List.mem_of_getElem? found)).met_of_push result
        exact course_of_afterPush rfl trivial met (Option.some.inj acted)
      · next visited result =>
        cases acted
        exact .park job index visited
      · cases acted
  | count ticket =>
      cases acted
      exact .answer ticket
  | done receipt => cases acted

end Submission

/-! ## What workers do -/

def Worker.bears : Worker α → Bool
  | .countTheft _ _ | .run _ | .post _ _ | .deliver _ _ => true
  | _ => false

theorem Worker.not_bears_afterDelivery (ticket : Ticket) (forgone : Bool) (ending : Ending α) :
    (afterDelivery ticket forgone ending).bears = false := by
  rcases afterDelivery_cases ticket forgone ending with after | after | ⟨message, after⟩ <;>
    rw [after] <;> rfl

/-- A note that does not tell how a job comes to a queue or to a worker. -/
def Note.isDull : Note → Bool
  | .accepted _ _ | .fellBack _ _ | .took _ _ _ | .stole _ _ => false
  | _ => true

/-- Of what is counted and noted at most the ends of jobs and of workers change. -/
structure Dull (pool later : Pool α) : Prop where
  config : later.config = pool.config
  submitted : later.counters.submitted = pool.counters.submitted
  stolen : later.counters.stolen = pool.counters.stolen
  fallbacks : later.counters.fallbacks = pool.counters.fallbacks
  journal : later.journal = pool.journal ∨
    ∃ note : Note, note.isDull = true ∧ later.journal = note :: pool.journal

inductive Worker.Course (me : Nat) (pool : Pool α) : Worker α → Worker α → Pool α → Prop where
  | take {old new : Worker α} {job : Job α} {index : Nat} {queue visited : Queue (Job α)}
      (roams : old.Roams) (found : pool.queues[index]? = some queue)
      (loads : Queue.Loads job queue visited)
      (goes : index = me ∧ new = begin job ∨ index ≠ me ∧ new = .countTheft job index) :
      Course me pool old new ((pool.setQueue index visited).note (.took me job.ticket index))
  | countTheft (job : Job α) (victim : Nat) : Course me pool (.countTheft job victim) (begin job)
      ((pool.count .countStolen).note (.stole me victim))
  | body {frame : Frame α} {new : Worker α} {later : Pool α}
      (acted : runBody me frame pool = some (new, later)) : Course me pool (.run frame) new later
  | submit (frame : Frame α) {old new : Submission α} {later : Pool α}
      (course : Submission.Course pool old new later) :
      Course me pool (.post frame old) (.post frame new) later
  | resume (frame : Frame α) (receipt : Receipt) :
      Course me pool (.post frame (.done receipt)) (afterPost frame receipt) pool
  | deliver (ticket : Ticket) (ending : Ending α) :
      Course me pool (.deliver ticket ending)
        (afterDelivery ticket (pool.isForgone ticket) ending)
        (pool.setDelivery ticket (.ready (outcome ending)))
  | aside {old new : Worker α} {later : Pool α} (before : old.bears = false)
      (after : new.bears = false) (dull : Dull pool later)
      (deliveries : later.deliveries = pool.deliveries) : Course me pool old new later

theorem Dull.refl (pool : Pool α) : Dull pool pool := ⟨rfl, rfl, rfl, rfl, .inl rfl⟩

theorem Dull.setQueue (pool : Pool α) (index : Nat) (queue : Queue (Job α)) :
    Dull pool (pool.setQueue index queue) := ⟨rfl, rfl, rfl, rfl, .inl rfl⟩

namespace Worker

variable {worker new : Worker α}

theorem look_own_iff {me offset workers : Nat} (hired : me < workers) (within : offset < workers) :
    (me + offset) % workers = me ↔ offset = 0 := by
  constructor
  · intro same
    by_cases round : me + offset < workers
    · rw [Nat.mod_eq_of_lt round] at same
      omega
    · rw [Nat.mod_eq_sub_mod (Nat.not_lt.mp round), Nat.mod_eq_of_lt (by omega)] at same
      omega
  · rintro rfl
    exact Nat.mod_eq_of_lt hired

theorem course_of_afterSleep {queue visited : Queue (Job α)} {answer : Queue.PopAnswer (Job α)}
    (found : pool.queues[me]? = some queue) (popped : Queue.Popped queue answer visited)
    (acted : afterSleep me (pool.setQueue me visited) answer = (new, later)) :
    Course me pool .sleep new later := by
  cases popped with
  | item loads =>
      cases acted
      exact .take .sleep found loads (.inl ⟨rfl, rfl⟩)
  | nothing retains =>
      cases acted
      exact .aside rfl rfl (.setQueue pool me visited) rfl

theorem course_of_act (hired : me < pool.queues.length) (idle : pool.Idle)
    (acted : worker.act me pool = some (new, later)) : Course me pool worker new later := by
  have sound : ∀ queue ∈ pool.queues, queue.Sound := fun queue member => .inl (idle queue member)
  cases worker with
  | look offset =>
      by_cases within : offset < pool.queues.length
      · simp only [act, within, if_true, Option.map_eq_some_iff] at acted
        obtain ⟨queue, found, acted⟩ := acted
        cases result : queue.tryPop with
        | mk answer visited =>
            rw [result] at acted
            cases (idle.of_found found).tryPop result with
            | @item job _ loads =>
                cases acted
                refine .take (.look offset) found loads ?_
                by_cases own : offset = 0
                · rw [if_pos own]
                  exact .inl ⟨(look_own_iff hired within).mpr own, rfl⟩
                · rw [if_neg own]
                  exact .inr ⟨mt (look_own_iff hired within).mp own, rfl⟩
            | nothing retains =>
                cases acted
                exact .aside rfl rfl (.setQueue pool _ visited) rfl
      · simp only [act, within, if_false] at acted
        cases acted
        exact .aside rfl rfl (.refl pool) rfl
  | countTheft job victim =>
      cases acted
      exact .countTheft job victim
  | sleep =>
      simp only [act, Option.bind_eq_some_iff] at acted
      obtain ⟨queue, found, acted⟩ := acted
      split at acted
      · next answer visited result =>
        exact course_of_afterSleep found ((idle.of_found found).pop result) (Option.some.inj acted)
      · next visited result =>
        cases acted
        exact .aside rfl rfl (.setQueue pool me visited) rfl
      · cases acted
  | checkClosed | checkEmpty =>
      simp only [act, Option.map_eq_some_iff] at acted
      obtain ⟨queue, found, acted⟩ := acted
      split at acted <;> cases acted <;> exact .aside rfl rfl (.refl pool) rfl
  | run frame => exact .body acted
  | post frame submission =>
      cases submission with
      | done receipt =>
          cases acted
          exact .resume frame receipt
      | _ =>
          simp only [act, Option.map_eq_some_iff] at acted
          obtain ⟨⟨next, changed⟩, acted, same⟩ := acted
          cases same
          exact .submit frame (Submission.course_of_act sound acted)
  | deliver ticket ending =>
      cases acted
      exact .deliver ticket ending
  | gone => cases acted
  | start | countPanic | countRun | perish | leave =>
      cases acted
      exact .aside rfl rfl ⟨rfl, rfl, rfl, rfl, .inr ⟨_, rfl, rfl⟩⟩ rfl

theorem course_of_expire (idle : pool.Idle) (expired : worker.expire me pool = some (new, later)) :
    Course me pool worker new later := by
  unfold expire at expired
  split at expired
  · simp only [Option.bind_eq_some_iff, Option.map_eq_some_iff] at expired
    obtain ⟨queue, found, ⟨answer, visited⟩, result, expired⟩ := expired
    exact course_of_afterSleep found ((idle.of_found found).popExpired result) expired
  · cases expired

end Worker

/-! ## What those do who ask -/

inductive Inquiry.Course (pool : Pool α) : Inquiry α → Inquiry α → Pool α → Prop where
  | ask {ticket : Ticket} {delivery : Delivery α}
      (found : pool.deliveries[ticket]? = some delivery) :
      Course pool (.ask ticket) (.done (collect delivery).1)
        (pool.setDelivery ticket (collect delivery).2)
  | wait {ticket : Ticket} {delivery : Delivery α} (timed : Bool) {outcome : Outcome α}
      (found : pool.deliveries[ticket]? = some delivery)
      (collected : (collect delivery).1 = some outcome) :
      Course pool (.wait ticket timed) (.done (some outcome))
        (pool.setDelivery ticket (collect delivery).2)
  | expire (ticket : Ticket) :
      Course pool (.wait ticket true) (.done (some (.error .timeout))) pool

theorem Inquiry.course_of_act {inquiry new : Inquiry α}
    (acted : inquiry.act pool = some (new, later)) : Course pool inquiry new later := by
  cases inquiry with
  | ask ticket =>
      rw [act, Option.map_eq_some_iff] at acted
      obtain ⟨delivery, found, acted⟩ := acted
      cases acted
      exact .ask found
  | wait ticket timed =>
      rw [act, Option.bind_eq_some_iff] at acted
      obtain ⟨delivery, found, acted⟩ := acted
      cases collected : collect delivery with
      | mk outcome left =>
          rw [collected] at acted
          cases outcome with
          | none => cases acted
          | some outcome =>
              cases acted
              have same : left = (collect delivery).2 := by rw [collected]
              rw [same]
              exact .wait timed found (by rw [collected])
  | done outcome => cases acted

theorem Inquiry.course_of_expire {inquiry new : Inquiry α}
    (expired : inquiry.expire pool = some (new, later)) : Course pool inquiry new later := by
  unfold expire at expired
  split at expired
  · cases expired
    exact .expire _
  · cases expired

/-! ## What threads do -/

inductive Point.Course (me : ThreadId) (pool : Pool α) : Point α → Point α → Pool α → Prop where
  | worker {old new : Worker α} {later : Pool α} (course : Worker.Course me pool old new later) :
      Course me pool (.worker old) (.worker new) later
  | submission {old new : Submission α} {later : Pool α}
      (course : Submission.Course pool old new later) :
      Course me pool (.submission old) (.submission new) later
  | inquiry {old new : Inquiry α} {later : Pool α} (course : Inquiry.Course pool old new later) :
      Course me pool (.inquiry old) (.inquiry new) later
  | closing {old new : Closing} {later : Pool α} (acted : old.act pool = some (new, later)) :
      Course me pool (.closing old) (.closing new) later

theorem Recorded.course_of_move (recorded : Recorded config world) {old new : Point α}
    (found : world.threads[me]? = some old)
    (moved : act me old world.shared = some (new, later) ∨
      expire me old world.shared = some (new, later)) :
    Point.Course me world.shared old new later := by
  have sound : ∀ queue ∈ world.shared.queues, queue.Sound := by
    intro queue member
    obtain ⟨index, found⟩ := List.mem_iff_getElem?.mp member
    exact recorded.upheld.tidy.sound found
  cases old with
  | worker hand =>
      have here : hand ≠ .gone := by
        rintro rfl
        rcases moved with acted | expired
        · cases acted
        · cases expired
      obtain ⟨idle, _⟩ := recorded.serving found here
      obtain ⟨queue, _, foundQueue, _⟩ := recorded.upheld.serves me hand found
      obtain ⟨hired, _⟩ := List.getElem?_eq_some_iff.mp foundQueue
      rcases moved with acted | expired
      · obtain ⟨⟨next, changed⟩, acted, same⟩ := Option.map_eq_some_iff.mp acted
        cases same
        exact .worker (Worker.course_of_act hired idle acted)
      · obtain ⟨⟨next, changed⟩, expired, same⟩ := Option.map_eq_some_iff.mp expired
        cases same
        exact .worker (Worker.course_of_expire idle expired)
  | submission posting =>
      rcases moved with acted | expired
      · obtain ⟨⟨next, changed⟩, acted, same⟩ := Option.map_eq_some_iff.mp acted
        cases same
        exact .submission (Submission.course_of_act sound acted)
      · cases expired
  | inquiry asked =>
      rcases moved with acted | expired
      · obtain ⟨⟨next, changed⟩, acted, same⟩ := Option.map_eq_some_iff.mp acted
        cases same
        exact .inquiry (Inquiry.course_of_act acted)
      · obtain ⟨⟨next, changed⟩, expired, same⟩ := Option.map_eq_some_iff.mp expired
        cases same
        exact .inquiry (Inquiry.course_of_expire expired)
  | closing closer =>
      rcases moved with acted | expired
      · obtain ⟨⟨next, changed⟩, acted, same⟩ := Option.map_eq_some_iff.mp acted
        cases same
        exact .closing acted
      · cases expired

end Pool

end Turnstile
