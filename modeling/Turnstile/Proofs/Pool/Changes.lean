import Turnstile.Proofs.Pool.Milestones

/-!
# What a thread of a pool can do

One action of a thread, sorted by what it means for the job that the thread looks
for room for and for the job that it runs. In a pool whose queues are idle between
actions these are all the actions there are: no queue breaks off, and a worker
dies only of something that panics when the worker discards it.
-/

namespace Turnstile.Pool

set_option autoImplicit false

open Turnstile.Task (Ticket Job Body Payload)

variable {α : Type} {me : ThreadId} {pool later : Pool α}

/-- The job that a submission still looks for room for. -/
def Submission.seeks? : Submission α → Option (Job α)
  | .look job _ _ | .fallBack job _ | .wait job _ => some job
  | .begin _ | .aim _ _ | .count _ | .done _ => none

inductive Submission.Fresh : Submission α → Prop where
  | begin (body : Body α) : Fresh (.begin body)
  | aim (worker : Nat) (body : Body α) : Fresh (.aim worker body)

def Worker.runs? : Worker α → Option Ticket
  | .countTheft job _ => some job.ticket
  | .run frame | .post frame _ => some frame.ticket
  | .deliver ticket _ | .countPanic ticket _ | .countRun ticket => some ticket
  | .start | .look _ | .sleep | .checkClosed | .checkEmpty | .perish _ | .leave | .gone => none

def Worker.submission? : Worker α → Option (Submission α)
  | .post _ submission => some submission
  | _ => none

inductive Worker.Roams : Worker α → Prop where
  | look (offset : Nat) : Roams (.look offset)
  | sleep : Roams .sleep
  | checkClosed : Roams .checkClosed

/-- The worker is about to discard something that panics then. -/
def Worker.explodes (pool : Pool α) : Worker α → Bool
  | .deliver ticket ending => bursts (pool.isForgone ticket) ending
  | _ => false

inductive Submission.Change (pool : Pool α) : Submission α → Submission α → Pool α → Prop where
  | issue {old new : Submission α} {body : Body α} {later : Pool α} (fresh : old.Fresh)
      (seeks : new.seeks? = some ⟨pool.deliveries.length, body⟩)
      (queues : later.queues = pool.queues) (fates : later.fates = pool.fates)
      (issued : later.deliveries.length = pool.deliveries.length + 1)
      (journal : later.journal = pool.journal) : Change pool old new later
  | misaim (worker : Nat) (body : Body α) :
      Change pool (.aim worker body) (.done (.fault .noSuchWorker)) pool
  | seek {old new : Submission α} {job : Job α} {later : Pool α} (seeks : old.seeks? = some job)
      (still : new.seeks? = some job) (quiet : Quiet pool later) : Change pool old new later
  | retry {old new : Submission α} {job : Job α} {index : Nat} {queue after : Queue (Job α)}
      (seeks : old.seeks? = some job) (still : new.seeks? = some job)
      (found : pool.queues[index]? = some queue) (retains : queue.Retains after) :
      Change pool old new (pool.setQueue index after)
  | store {old : Submission α} {job : Job α} {index : Nat} {queue after : Queue (Job α)}
      (seeks : old.seeks? = some job) (found : pool.queues[index]? = some queue)
      (stores : Queue.Stores job queue after) :
      Change pool old (.count job.ticket)
        ((pool.setQueue index after).note (.accepted job.ticket index))
  | turnAway {old : Submission α} {job : Job α} {index : Nat} {queue after : Queue (Job α)}
      (seeks : old.seeks? = some job) (found : pool.queues[index]? = some queue)
      (retains : queue.Retains after) :
      Change pool old (.done (.refused .shutDown))
        ((pool.setQueue index after).note (.refused job.ticket))
  | count (ticket : Ticket) :
      Change pool (.count ticket) (.done (.accepted ticket)) (pool.count .countSubmitted)

inductive Worker.Change (me : Nat) (pool : Pool α) : Worker α → Worker α → Pool α → Prop where
  | start : Change me pool .start (.look 0) (pool.note (.started me))
  | take {old new : Worker α} {job : Job α} {index : Nat} {queue after : Queue (Job α)}
      (roams : old.Roams) (runs : new.runs? = some job.ticket) (quiet : new.submission? = none)
      (found : pool.queues[index]? = some queue) (loads : Queue.Loads job queue after) :
      Change me pool old new ((pool.setQueue index after).note (.took me job.ticket index))
  | miss {old new : Worker α} {index : Nat} {queue after : Queue (Job α)}
      (roams : old.Roams) (still : new.Roams) (found : pool.queues[index]? = some queue)
      (retains : queue.Retains after) : Change me pool old new (pool.setQueue index after)
  | resume {old new : Worker α} (before : old.Roams ∨ old = .checkEmpty) (roams : new.Roams) :
      Change me pool old new pool
  | findClosed {queue : Queue (Job α)} (found : pool.queues[me]? = some queue)
      (closed : queue.closed = true) : Change me pool .checkClosed .checkEmpty pool
  | findEmpty {queue : Queue (Job α)} (found : pool.queues[me]? = some queue)
      (empty : queue.toList = []) : Change me pool .checkEmpty .leave pool
  | work {old new : Worker α} {ticket : Ticket} {later : Pool α} (runs : old.runs? = some ticket)
      (still : new.runs? = some ticket)
      (before : old.submission?.bind Submission.seeks? = none)
      (after : new.submission? = none) (quiet : Quiet pool later) : Change me pool old new later
  | post (frame : Frame α) (rest : Body α) {submission : Submission α} (fresh : submission.Fresh) :
      Change me pool (.run frame) (.post { frame with rest } submission) pool
  | submit (frame : Frame α) {old new : Submission α} {later : Pool α}
      (change : Submission.Change pool old new later) :
      Change me pool (.post frame old) (.post frame new) later
  | finish (ticket : Ticket) : Change me pool (.countRun ticket) (.look 0)
      ((pool.count .countExecuted).note (.finished me ticket))
  | leave : Change me pool .leave .gone ((pool.setFate me .left).note (.left me))

inductive Closing.Change (pool : Pool α) : Closing → Closing → Pool α → Prop where
  | begin : Change pool .begin (.close 0) (pool.note (.closing pool.fates.length))
  | shut {index : Nat} {queue : Queue (Job α)} (found : pool.queues[index]? = some queue) :
      Change pool (.close index) (.close (index + 1)) (pool.setQueue index queue.close)
  | await (index : Nat) : Change pool (.close index) (.await 0) pool
  | bury {worker : Nat} (left : pool.fates[worker]? = some .left) :
      Change pool (.await worker) (.await (worker + 1)) pool
  | mourn {worker : Nat} (died : pool.fates[worker]? = some .died) :
      Change pool (.await worker) (.await (worker + 1)) (pool.note (.foundDead worker))
  | report {worker : Nat} (beyond : pool.fates[worker]? = none) :
      Change pool (.await worker) .report pool
  | stop : Change pool .report .dismantle (pool.note (.stopped pool.counters))
  | dismantle : Change pool .dismantle .done pool.dismantle

theorem Submission.Fresh.seeks_nothing {submission : Submission α} (fresh : submission.Fresh) :
    submission.seeks? = none := by
  cases fresh <;> rfl

theorem Submission.change_of_afterPush {submission new : Submission α} {job : Job α} {index : Nat}
    {queue after : Queue (Job α)} {answer : Queue.PushAnswer (Job α)}
    (seeks : submission.seeks? = some job) (found : pool.queues[index]? = some queue)
    (pushed : Queue.Pushed job queue answer after)
    (acted : afterPush job index (pool.setQueue index after) answer = (new, later)) :
    Change pool submission new later := by
  cases pushed with
  | stored stores =>
      cases acted
      exact .store seeks found stores
  | refused refusal retains =>
      cases acted
      exact .turnAway seeks found retains

theorem Submission.change_of_act (idle : pool.Idle) {submission new : Submission α}
    (acted : submission.act me pool = some (new, later)) : Change pool submission new later := by
  cases submission with
  | begin body =>
      cases acted
      exact .issue (.begin body) rfl rfl rfl (by simp) rfl
  | aim worker body =>
      by_cases within : worker < pool.queues.length
      · simp only [act, within, if_true] at acted
        cases acted
        exact .issue (.aim worker body) rfl rfl rfl (by simp [issueTicket]) rfl
      · simp only [act, within, if_false] at acted
        cases acted
        exact .misaim worker body
  | look job home attempt =>
      by_cases within : attempt < pool.config.submitAttempts
      · simp only [act, within, if_true, Option.map_eq_some_iff] at acted
        obtain ⟨queue, found, acted⟩ := acted
        cases result : queue.tryPush job with
        | mk answer after =>
            have pushed := (idle.of_found found).tryPush result
            rw [result] at acted
            simp only [afterLook] at acted
            split at acted
            · cases acted
              cases pushed with
              | refused refusal retains => exact .retry rfl rfl found retains
            · exact change_of_afterPush rfl found pushed acted
      · simp only [act, within, if_false] at acted
        cases acted
        exact .seek rfl rfl (.refl pool)
  | fallBack job home =>
      cases acted
      exact .seek rfl rfl (((Quiet.refl pool).count _).note rfl)
  | wait job index =>
      simp only [act, Option.bind_eq_some_iff] at acted
      obtain ⟨queue, found, acted⟩ := acted
      split at acted
      · next answer after result =>
        have pushed := (idle.of_found found).push result
        exact change_of_afterPush rfl found pushed (Option.some.inj acted)
      · next after result =>
        cases acted
        exact .retry rfl rfl found ((idle.of_found found).push_joined result)
      · cases acted
  | count ticket =>
      cases acted
      exact .count ticket
  | done receipt => cases acted

namespace Worker

variable {worker new : Worker α}

theorem change_of_runBody {frame : Frame α} (acted : runBody me frame pool = some (new, later)) :
    Change me pool (.run frame) new later := by
  unfold runBody at acted
  split at acted
  · cases acted
    exact .work rfl rfl rfl rfl (.refl pool)
  · cases acted
    exact .work rfl rfl rfl rfl ((Quiet.refl pool).note rfl)
  · split at acted
    · cases acted
      exact .work rfl rfl rfl rfl (.refl pool)
    · cases acted
  · cases acted
    exact .work rfl rfl rfl rfl (.refl pool)
  · cases acted
    exact .work rfl rfl rfl rfl (.refl pool)
  · cases acted
    exact .work rfl rfl rfl rfl (.refl pool)
  · next body rest _ =>
    cases acted
    exact .post frame rest (.begin body)
  · next worker body rest _ =>
    cases acted
    exact .post frame rest (.aim worker body)
  · cases acted
    exact .work rfl rfl rfl rfl (.refl pool)

theorem change_of_afterSleep {queue after : Queue (Job α)} {answer : Queue.PopAnswer (Job α)}
    (found : pool.queues[me]? = some queue) (popped : Queue.Popped queue answer after)
    (acted : afterSleep me (pool.setQueue me after) answer = (new, later)) :
    Change me pool .sleep new later := by
  cases popped with
  | item loads =>
      cases acted
      exact .take .sleep rfl rfl found loads
  | nothing retains =>
      cases acted
      exact .miss .sleep .checkClosed found retains

theorem change_of_afterLook {offset index : Nat} {queue after : Queue (Job α)}
    {answer : Queue.PopAnswer (Job α)} (found : pool.queues[index]? = some queue)
    (popped : Queue.Popped queue answer after)
    (acted : afterLook me offset index (pool.setQueue index after) answer = (new, later)) :
    Change me pool (.look offset) new later := by
  cases popped with
  | item loads =>
      by_cases own : offset = 0
      · simp only [afterLook, own, if_true] at acted
        cases acted
        exact .take (.look offset) rfl rfl found loads
      · simp only [afterLook, own, if_false] at acted
        cases acted
        exact .take (.look offset) rfl rfl found loads
  | nothing retains =>
      cases acted
      exact .miss (.look offset) (.look _) found retains

theorem afterDelivery_of_bursts {ticket : Ticket} {forgone : Bool} {ending : Ending α}
    (bursting : bursts forgone ending = true) :
    afterDelivery ticket forgone ending = .perish (some ticket) := if_pos bursting

theorem afterDelivery_of_calm (ticket : Ticket) {forgone : Bool} {ending : Ending α}
    (calm : bursts forgone ending = false) :
    (∃ result, ending = .ok result ∧ afterDelivery ticket forgone ending = .countRun ticket) ∨
    ∃ payload, ending = .error payload ∧
      afterDelivery ticket forgone ending = .countPanic ticket payload.message := by
  unfold afterDelivery
  rw [calm]
  cases ending with
  | ok result => exact .inl ⟨result, rfl, rfl⟩
  | error payload => exact .inr ⟨payload, rfl, rfl⟩

theorem afterDelivery_cases (ticket : Ticket) (forgone : Bool) (ending : Ending α) :
    afterDelivery ticket forgone ending = .perish (some ticket) ∨
      afterDelivery ticket forgone ending = .countRun ticket ∨
      ∃ message, afterDelivery ticket forgone ending = .countPanic ticket message := by
  cases bursting : bursts forgone ending with
  | true => exact .inl (afterDelivery_of_bursts bursting)
  | false =>
      rcases afterDelivery_of_calm ticket bursting with
        ⟨_, _, counts⟩ | ⟨_, _, counts⟩
      · exact .inr (.inl counts)
      · exact .inr (.inr ⟨_, counts⟩)

theorem change_of_deliver {ticket : Ticket} {ending : Ending α}
    (calm : (Worker.deliver ticket ending).explodes pool = false)
    (quiet : Quiet pool later) :
    Change me pool (.deliver ticket ending)
      (afterDelivery ticket (pool.isForgone ticket) ending) later := by
  rcases afterDelivery_of_calm ticket calm with ⟨_, _, counts⟩ | ⟨_, _, counts⟩
  · rw [counts]
    exact .work rfl rfl rfl rfl quiet
  · rw [counts]
    exact .work rfl rfl rfl rfl quiet

theorem change_of_act (idle : pool.Idle) (calm : worker.explodes pool = false)
    (alive : ∀ ticket, worker ≠ .perish ticket)
    (acted : worker.act me pool = some (new, later)) : Change me pool worker new later := by
  cases worker with
  | start =>
      cases acted
      exact .start
  | look offset =>
      by_cases within : offset < pool.queues.length
      · simp only [act, within, if_true, Option.map_eq_some_iff] at acted
        obtain ⟨queue, found, acted⟩ := acted
        cases result : queue.tryPop with
        | mk answer after =>
            rw [result] at acted
            exact change_of_afterLook found ((idle.of_found found).tryPop result) acted
      · simp only [act, within, if_false] at acted
        cases acted
        exact .resume (.inl (.look offset)) .sleep
  | countTheft job victim =>
      cases acted
      exact .work rfl rfl rfl rfl
        (((Quiet.refl pool).count _).note rfl)
  | sleep =>
      simp only [act, Option.bind_eq_some_iff] at acted
      obtain ⟨queue, found, acted⟩ := acted
      split at acted
      · next answer after result =>
        exact change_of_afterSleep found ((idle.of_found found).pop result)
          (Option.some.inj acted)
      · next after result =>
        cases acted
        exact .miss .sleep .sleep found ((idle.of_found found).pop_joined result)
      · cases acted
  | checkClosed =>
      simp only [act, Option.map_eq_some_iff] at acted
      obtain ⟨queue, found, acted⟩ := acted
      cases closed : queue.closed with
      | true =>
          simp only [closed, if_true] at acted
          cases acted
          exact .findClosed found closed
      | false =>
          simp only [closed, Bool.false_eq_true, if_false] at acted
          cases acted
          exact .resume (.inl .checkClosed) (.look 0)
  | checkEmpty =>
      simp only [act, Option.map_eq_some_iff] at acted
      obtain ⟨queue, found, acted⟩ := acted
      by_cases empty : queue.isEmpty = true
      · simp only [empty, if_true] at acted
        cases acted
        exact .findEmpty found ((idle.of_found found).isEmpty_iff.mp empty)
      · simp only [empty, Bool.false_eq_true, if_false] at acted
        cases acted
        exact .resume (.inr rfl) (.look 0)
  | run frame => exact change_of_runBody acted
  | post frame submission =>
      cases submission with
      | done receipt =>
          cases acted
          cases receipt with
          | _ => exact .work rfl rfl rfl rfl (.refl pool)
      | _ =>
          simp only [act, Option.map_eq_some_iff] at acted
          obtain ⟨⟨next, changed⟩, acted, same⟩ := acted
          cases same
          exact .submit frame (Submission.change_of_act idle acted)
  | deliver ticket ending =>
      cases acted
      exact change_of_deliver calm ((Quiet.refl pool).setDelivery _ _)
  | countPanic ticket message =>
      cases acted
      exact .work rfl rfl rfl rfl
        (((Quiet.refl pool).count _).note rfl)
  | countRun ticket =>
      cases acted
      exact .finish ticket
  | perish ticket => exact absurd rfl (alive ticket)
  | leave =>
      cases acted
      exact .leave
  | gone => cases acted

theorem change_of_expire (idle : pool.Idle)
    (expired : worker.expire me pool = some (new, later)) : Change me pool worker new later := by
  unfold expire at expired
  split at expired
  · rw [Option.bind_eq_some_iff] at expired
    obtain ⟨queue, found, expired⟩ := expired
    rw [Option.map_eq_some_iff] at expired
    obtain ⟨⟨answer, after⟩, result, expired⟩ := expired
    exact change_of_afterSleep found ((idle.of_found found).popExpired result) expired
  · cases expired

end Worker

theorem Closing.change_of_act {closing new : Closing}
    (acted : closing.act pool = some (new, later)) : Change pool closing new later := by
  cases closing with
  | begin =>
      cases acted
      exact .begin
  | close index =>
      simp only [act] at acted
      split at acted
      · next queue found =>
        cases acted
        exact .shut found
      · cases acted
        exact .await index
  | await worker =>
      simp only [act] at acted
      split at acted
      · cases acted
      · next left =>
        cases acted
        exact .bury left
      · next died =>
        cases acted
        exact .mourn died
      · next beyond =>
        cases acted
        exact .report beyond
  | report =>
      cases acted
      exact .stop
  | dismantle =>
      cases acted
      exact .dismantle
  | done => cases acted

end Turnstile.Pool
