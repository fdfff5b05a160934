import Turnstile.Pool.Batch
import Turnstile.Proofs.Pool.Collections

/-!
# Asking where nothing moves

There are three ways to ask for an outcome: at once, with a wait, and with a wait that is
limited. Where nothing moves, all of them see the same delivery, and an ask sets off nothing
but its own action. So what asks are told, in any order, follows from what the delivery holds.
-/

namespace Turnstile.Pool

set_option autoImplicit false

open Turnstile.Task (Ticket Delivery Outcome)

variable {α : Type} {me : ThreadId} {pool : Pool α} {ticket : Ticket} {world : Running α}
  {delivery : Delivery α} {told : Option (Outcome α)}

/-! ## Who can act does not depend on the deliveries -/

section Still

variable (me : ThreadId) (pool : Pool α) (ticket : Ticket) (delivery : Delivery α)

theorem Submission.act_isSome_setDelivery (submission : Submission α) :
    (submission.act me (pool.setDelivery ticket delivery)).isSome =
      (submission.act me pool).isSome := by
  cases submission with
  | begin | fallBack | count | done => rfl
  | aim worker body =>
      by_cases within : worker < pool.queues.length
      · simp [act, setDelivery, within]
      · simp [act, setDelivery, within]
  | look job home attempt =>
      by_cases within : attempt < pool.config.submitAttempts
      · simp [act, setDelivery, within, candidate, queueAt]
      · simp [act, setDelivery, within]
  | wait job index =>
      simp only [act, setDelivery]
      cases pool.queues[index]? with
      | none => rfl
      | some queue => cases pushed : queue.push me job <;> simp [pushed]

theorem Worker.act_isSome_setDelivery (hand : Worker α) :
    (hand.act me (pool.setDelivery ticket delivery)).isSome = (hand.act me pool).isSome := by
  cases hand with
  | look offset =>
      by_cases within : offset < pool.queues.length
      · simp [act, setDelivery, within]
      · simp [act, setDelivery, within]
  | sleep =>
      simp only [act, setDelivery]
      cases pool.queues[me]? with
      | none => rfl
      | some queue => cases popped : queue.pop me <;> simp [popped]
  | checkClosed | checkEmpty => simp [act, setDelivery]
  | run frame =>
      simp only [act, runBody]
      split
      case h_3 gate rest _ =>
        by_cases isOpen : pool.isOpen gate = true
        · simp [setDelivery, isOpen]
        · simp [setDelivery, isOpen]
      all_goals rfl
  | post frame submission =>
      cases submission with
      | done receipt => rfl
      | _ =>
          simp only [act, Option.isSome_map]
          exact Submission.act_isSome_setDelivery me pool ticket delivery _
  | _ => rfl

theorem Closing.act_isSome_setDelivery (closing : Closing) :
    (closing.act (pool.setDelivery ticket delivery)).isSome = (closing.act pool).isSome := by
  cases closing with
  | close index =>
      simp only [act, setDelivery]
      cases pool.queues[index]? <;> rfl
  | await worker =>
      simp only [act, setDelivery]
      cases pool.fates[worker]? with
      | none => rfl
      | some fate => cases fate <;> rfl
  | begin | report | dismantle | done => rfl

end Still

theorem Point.still_of_setDelivery {point : Point α} (still : act me point pool = none)
    (found : pool.deliveries[ticket]? = some delivery) (settled : delivery ≠ .pending)
    (left : Delivery α) : act me point (pool.setDelivery ticket left) = none := by
  cases point with
  | worker hand =>
      simp only [act, Option.map_eq_none_iff] at still ⊢
      simpa [still] using Worker.act_isSome_setDelivery me pool ticket left hand
  | submission posting =>
      simp only [act, Option.map_eq_none_iff] at still ⊢
      simpa [still] using Submission.act_isSome_setDelivery me pool ticket left posting
  | closing closer =>
      simp only [act, Option.map_eq_none_iff] at still ⊢
      simpa [still] using Closing.act_isSome_setDelivery pool ticket left closer
  | inquiry asked =>
      simp only [act, Option.map_eq_none_iff] at still ⊢
      cases asked with
      | ask other =>
          simp only [Inquiry.act, Option.map_eq_none_iff, List.getElem?_eq_none_iff, setDelivery,
            List.length_set] at still ⊢
          exact still
      | wait other timed =>
          by_cases same : ticket = other
          · subst same
            cases delivery with
            | pending => exact absurd rfl settled
            | ready | closed => simp [Inquiry.act, found, Inquiry.collect] at still
          · simp only [Inquiry.act, setDelivery, List.getElem?_set_ne same] at still ⊢
            cases foundOther : pool.deliveries[other]? with
            | none => rfl
            | some delivery =>
                rw [foundOther] at still
                cases delivery with
                | pending => rfl
                | ready | closed => simp [Inquiry.collect] at still
      | done outcome => rfl

/-! ## What an ask comes to -/

inductive Ask where
  | atOnce
  | wait
  /-- The wait ends before anything else happens. -/
  | briefly
  deriving DecidableEq, Repr

namespace Ask

/-- The world after an ask, and the answer, if there is one by then. -/
def pose (ask : Ask) (ticket : Ticket) (world : Running α) : Running α × Option (Answer α) :=
  match ask with
  | atOnce => Running.call world (.ask ticket)
  | wait => Running.call world (.wait ticket)
  | briefly =>
    let (after, report) := world.issueBriefly (machine α) (Pool.begin (.waitBriefly ticket))
    (after, report.answer)

/-- How an ask is answered where the delivery tells this. -/
def answer (ask : Ask) (told : Option (Outcome α)) : Option (Answer α) :=
  match ask with
  | atOnce => some (.outcome told)
  | wait => told.map fun outcome => .outcome (some outcome)
  | briefly => some (.outcome (some (told.getD (.error .timeout))))

/-- How far an ask comes where the delivery tells this. -/
def comesTo (ask : Ask) (ticket : Ticket) (told : Option (Outcome α)) : Inquiry α :=
  match ask, told with
  | atOnce, told => .done told
  | wait, none => .wait ticket false
  | wait, some outcome | briefly, some outcome => .done (some outcome)
  | briefly, none => .done (some (.error .timeout))

end Ask

/-- What is left of a pool after an ask that is told this. -/
def collected (ticket : Ticket) (told : Option (Outcome α)) (pool : Pool α) : Pool α :=
  if told.isSome then pool.setDelivery ticket .closed else pool

/-- The world after an ask that is told this, where nothing moves. -/
def asked (ask : Ask) (ticket : Ticket) (told : Option (Outcome α)) (world : Running α) :
    Running α :=
  ⟨world.shared.collected ticket told, world.threads ++ [.inquiry (ask.comesTo ticket told)]⟩

theorem collected_of_collect (found : pool.deliveries[ticket]? = some delivery) :
    pool.setDelivery ticket (Inquiry.collect delivery).2 =
      pool.collected ticket (Inquiry.collect delivery).1 := by
  cases delivery with
  | pending =>
      show { pool with deliveries := pool.deliveries.set ticket .pending } = pool
      rw [World.set_self found]
  | ready | closed => rfl

theorem act_ask (me : ThreadId) (found : pool.deliveries[ticket]? = some delivery) :
    act me (.inquiry (.ask ticket)) pool = some (.inquiry (.done (Inquiry.collect delivery).1),
      pool.collected ticket (Inquiry.collect delivery).1) := by
  simp [act, Inquiry.act, found, collected_of_collect found]

theorem act_wait (me : ThreadId) (timed : Bool) (found : pool.deliveries[ticket]? = some delivery)
    {outcome : Outcome α} (collects : (Inquiry.collect delivery).1 = some outcome) :
    act me (.inquiry (.wait ticket timed)) pool =
      some (.inquiry (.done (some outcome)), pool.collected ticket (some outcome)) := by
  have left := collected_of_collect found
  rw [collects] at left
  cases delivery with
  | pending => cases collects
  | ready | closed =>
      cases collects
      simp [act, Inquiry.act, Inquiry.collect, found, ← left]

section Quiet

variable (quiet : world.Quiet (machine α))
include quiet

theorem asked_quiet (found : world.shared.deliveries[ticket]? = some delivery) (ask : Ask) :
    (asked ask ticket (Inquiry.collect delivery).1 world).Quiet (machine α) := by
  refine World.quiet_of_still fun me point foundPoint => ?_
  rcases World.found_or_eq_of_append foundPoint with earlier | rfl
  · have still : act me point world.shared = none := World.still_of_quiet quiet earlier
    cases delivery with
    | pending => exact still
    | ready | closed => exact Point.still_of_setDelivery still found nofun .closed
  · cases ask <;> cases delivery <;> simp [machine, act, Ask.comesTo, Inquiry.collect, Inquiry.act,
      asked, collected, found]

theorem settle_of_act {point new : Point α} {later : Pool α}
    (acted : act world.threads.length point world.shared = some (new, later))
    (rests : (⟨later, world.threads ++ [new]⟩ : Running α).Quiet (machine α)) :
    (world.spawn point).settle (machine α) = ⟨later, world.threads ++ [new]⟩ := by
  have still (other : ThreadId) (point : Point α) (found : world.threads[other]? = some point) :
      (machine α).act other point world.shared = none := World.still_of_quiet quiet found
  have comes : World.Comes (machine α) (· = ⟨later, world.threads ++ [new]⟩) 1
      (world.spawn point) := (World.Alone.newest still point).newcomer acted (.of_quiet rests rfl)
  exact comes.surely _ (comes.settle (by omega))

theorem settle_of_quiet : world.settle (machine α) = world := by
  have comes : World.Comes (machine α) (· = world) 0 world := .of_quiet quiet rfl
  exact comes.surely _ (comes.settle (Nat.zero_le _))

theorem ask_settles (found : world.shared.deliveries[ticket]? = some delivery) :
    (world.spawn (.inquiry (.ask ticket))).settle (machine α) =
      asked .atOnce ticket (Inquiry.collect delivery).1 world :=
  settle_of_act quiet (act_ask _ found) (asked_quiet quiet found .atOnce)

theorem wait_settles (timed : Bool) (found : world.shared.deliveries[ticket]? = some delivery)
    {outcome : Outcome α} (collects : (Inquiry.collect delivery).1 = some outcome) :
    (world.spawn (.inquiry (.wait ticket timed))).settle (machine α) =
      asked .wait ticket (some outcome) world :=
  settle_of_act quiet (act_wait _ timed found collects) (collects ▸ asked_quiet quiet found .wait)

theorem wait_lasts (timed : Bool) (found : world.shared.deliveries[ticket]? = some .pending) :
    (world.spawn (.inquiry (.wait ticket timed))).settle (machine α) =
      world.spawn (.inquiry (.wait ticket timed)) := by
  refine settle_of_quiet (World.quiet_of_still fun me point foundPoint => ?_)
  rcases World.found_or_eq_of_append foundPoint with earlier | rfl
  · have still : act me point world.shared = none := World.still_of_quiet quiet earlier
    exact still
  · simp [machine, act, Inquiry.act, Inquiry.collect, World.spawn, found]

theorem brief_wait_settles (found : world.shared.deliveries[ticket]? = some delivery) :
    (world.issueBriefly (machine α) (.inquiry (.wait ticket true))).1 =
      asked .briefly ticket (Inquiry.collect delivery).1 world := by
  rw [World.issueBriefly_fst]
  cases delivery with
  | pending =>
      have expires : (world.spawn (.inquiry (.wait ticket true))).expire? (machine α)
          world.threads.length = some (asked .briefly ticket none world) := by
        rw [World.expire?, World.spawn, List.getElem?_concat_length, Option.bind_some]
        simp [machine, expire, Inquiry.expire, World.put, asked, collected, Ask.comesTo]
      have rests : (asked .briefly ticket none world).Quiet (machine α) :=
        asked_quiet quiet found .briefly
      rw [wait_lasts quiet true found, expires, Option.map_some, Option.getD_some]
      exact settle_of_quiet rests
  | ready | closed =>
      have ended (outcome : Outcome α) : (asked .wait ticket (some outcome) world).expire? (machine α)
          world.threads.length = none := by
        rw [World.expire?, asked, List.getElem?_concat_length, Option.bind_some]
        rfl
      rw [wait_settles quiet true found rfl, ended, Option.map_none, Option.getD_none]
      rfl

end Quiet

theorem answer_asked (ask : Ask) (ticket : Ticket) (told : Option (Outcome α)) (world : Running α) :
    (asked ask ticket told world).answer? (machine α) world.threads.length = ask.answer told := by
  rw [World.answer?, asked, List.getElem?_concat_length, Option.bind_some]
  cases ask <;> cases told <;> rfl

theorem call_eq {made : Call α} {ask : Ask}
    (settles : (world.spawn (begin made)).settle (machine α) = asked ask ticket told world) :
    Running.call world made = (asked ask ticket told world, ask.answer told) := by
  have after : (world.issue (machine α) (begin made)).1 = asked ask ticket told world :=
    (World.issue_fst ..).trans settles
  show ((world.issue (machine α) (begin made)).1,
    World.answer? (machine α) (world.issue (machine α) (begin made)).1 world.threads.length) = _
  rw [after, answer_asked]

theorem Ask.pose_eq (ask : Ask) (quiet : world.Quiet (machine α))
    (found : world.shared.deliveries[ticket]? = some delivery)
    (tells : (Inquiry.collect delivery).1 = told) :
    ask.pose ticket world = (asked ask ticket told world, ask.answer told) := by
  subst tells
  cases ask with
  | atOnce => exact call_eq (ask_settles quiet found)
  | wait =>
      refine call_eq ?_
      cases delivery with
      | pending => exact wait_lasts quiet false found
      | ready | closed => exact wait_settles quiet false found rfl
  | briefly =>
      have after : (world.issueBriefly (machine α) (Pool.begin (.waitBriefly ticket))).1 =
          asked .briefly ticket (Inquiry.collect delivery).1 world := brief_wait_settles quiet found
      show ((world.issueBriefly (machine α) (Pool.begin (.waitBriefly ticket))).1,
        World.answer? (machine α)
          (world.issueBriefly (machine α) (Pool.begin (.waitBriefly ticket))).1
          world.threads.length) = _
      rw [after, answer_asked]

theorem Chronicle.asked {first : Running α} {history : List (Occurrence α)}
    (chronicle : Chronicle first world history)
    (found : world.shared.deliveries[ticket]? = some delivery) (ask : Ask) :
    ∃ more, Chronicle first (asked ask ticket (Inquiry.collect delivery).1 world)
      (more ++ history) := by
  -- the thread that asks acts, or its wait ends
  have moves (made : Call α) {new : Point α} {later : Pool α}
      (moved : act world.threads.length (begin made) world.shared = some (new, later) ∨
        expire world.threads.length (begin made) world.shared = some (new, later)) :
      ∃ more, Chronicle first ⟨later, world.threads ++ [new]⟩ (more ++ history) := by
    have goes := (chronicle.call made).move List.getElem?_concat_length moved
    have there : (world.spawn (begin made)).put world.threads.length (new, later) =
        ⟨later, world.threads ++ [new]⟩ := by
      rw [World.put, World.spawn, List.set_append_right _ _ (Nat.le_refl _), Nat.sub_self,
        List.set_cons_zero]
    refine ⟨((begin made).occurs world.threads.length new).toList ++
      [.called world.threads.length made], ?_⟩
    rw [List.append_assoc, List.singleton_append, ← there]
    exact goes
  cases ask with
  | atOnce => exact moves (.ask ticket) (.inl (act_ask _ found))
  | wait =>
      cases delivery with
      | pending => exact ⟨[_], chronicle.call (.wait ticket)⟩
      | ready | closed => exact moves (.wait ticket) (.inl (act_wait _ false found rfl))
  | briefly =>
      cases delivery with
      | pending => exact moves (.waitBriefly ticket) (.inr rfl)
      | ready | closed => exact moves (.waitBriefly ticket) (.inl (act_wait _ true found rfl))

/-! ## Asks one after the other -/

namespace Ask

/-- Asks one after the other, each where nothing moves any more, with their answers. -/
def poseAll (ticket : Ticket) : List Ask → Running α → Running α × List (Option (Answer α))
  | [], world => (world, [])
  | ask :: rest, world =>
    let (after, answer) := ask.pose ticket world
    let (last, answers) := poseAll ticket rest after
    (last, answer :: answers)

/-- How asks are answered one after the other, where the delivery tells this to the first one.
An outcome is told once, and the others are told that none will come. -/
def answers : Option (Outcome α) → List Ask → List (Option (Answer α))
  | _, [] => []
  | told, ask :: rest => ask.answer told :: answers (told.map fun _ => .error .abandoned) rest

end Ask

/-- How asks for the outcome of a ticket go that are made one after the other. -/
structure Polled (ticket : Ticket) (told : Option (Outcome α)) (asks : List Ask)
    (world : Running α) : Prop where
  answers : (Ask.poseAll ticket asks world).2 = Ask.answers told asks
  /-- Asks do nothing but to collect what is told. -/
  leaves : (Ask.poseAll ticket asks world).1.shared =
    if asks = [] then world.shared else world.shared.collected ticket told
  threads : ∃ inquiries : List (Inquiry α),
    (Ask.poseAll ticket asks world).1.threads = world.threads ++ inquiries.map .inquiry
  /-- The handle shows that there is something to collect if an ask at once is told something. -/
  shown : ∃ delivery, (Ask.poseAll ticket asks world).1.shared.deliveries[ticket]? = some delivery ∧
    delivery.isFinished = told.isSome
  quiet : (Ask.poseAll ticket asks world).1.Quiet (machine α)

/-- What is told of a ticket where nothing moves, whoever asks, how often, and in which way. -/
def Tells (ticket : Ticket) (told : Option (Outcome α)) (world : Running α) : Prop :=
  ∀ asks, Polled ticket told asks world

theorem found_asked (found : world.shared.deliveries[ticket]? = some delivery) (ask : Ask) :
    (asked ask ticket (Inquiry.collect delivery).1 world).shared.deliveries[ticket]? =
      some (Inquiry.collect delivery).2 := by
  rw [asked, ← collected_of_collect found]
  exact World.found_set found

theorem collect_again (delivery : Delivery α) :
    (Inquiry.collect (Inquiry.collect delivery).2).1 =
      (Inquiry.collect delivery).1.map fun _ => .error .abandoned := by
  cases delivery <;> rfl

theorem isFinished_eq (delivery : Delivery α) :
    delivery.isFinished = (Inquiry.collect delivery).1.isSome := by
  cases delivery <;> rfl

theorem collected_again (again : Outcome α → Outcome α) (told : Option (Outcome α)) (pool : Pool α) :
    (pool.collected ticket told).collected ticket (told.map again) = pool.collected ticket told := by
  cases told with
  | none => rfl
  | some outcome => simp [collected, setDelivery]

theorem poseAll_cons (ask : Ask) (rest : List Ask) (quiet : world.Quiet (machine α))
    (found : world.shared.deliveries[ticket]? = some delivery) :
    Ask.poseAll ticket (ask :: rest) world =
      ((Ask.poseAll ticket rest (asked ask ticket (Inquiry.collect delivery).1 world)).1,
        ask.answer (Inquiry.collect delivery).1 ::
          (Ask.poseAll ticket rest (asked ask ticket (Inquiry.collect delivery).1 world)).2) := by
  rw [Ask.poseAll, ask.pose_eq quiet found rfl]

theorem Tells.of_found (quiet : world.Quiet (machine α))
    (found : world.shared.deliveries[ticket]? = some delivery) :
    Tells ticket (Inquiry.collect delivery).1 world := by
  intro asks
  induction asks generalizing world delivery with
  | nil => exact ⟨rfl, rfl, ⟨[], (List.append_nil _).symm⟩, ⟨delivery, found, isFinished_eq _⟩, quiet⟩
  | cons ask rest ih =>
      obtain ⟨answers, leaves, ⟨inquiries, threads⟩, ⟨left, foundLeft, shown⟩, quietLast⟩ :=
        ih (asked_quiet quiet found ask) (found_asked found ask)
      rw [collect_again] at answers leaves shown
      have steps := poseAll_cons ask rest quiet found
      refine ⟨?_, ?_, ⟨ask.comesTo ticket (Inquiry.collect delivery).1 :: inquiries, ?_⟩,
        ⟨left, ?_, ?_⟩, ?_⟩
      · rw [steps, answers, Ask.answers]
      · rw [steps, leaves, if_neg (List.cons_ne_nil _ _), asked]
        split
        · rfl
        · exact collected_again _ _ _
      · rw [steps, threads, asked, List.map_cons, List.append_assoc, List.singleton_append]
      · rw [steps]
        exact foundLeft
      · rw [shown, Option.isSome_map]
      · rw [steps]
        exact quietLast

theorem Chronicle.poseAll {first : Running α} {history : List (Occurrence α)}
    (chronicle : Chronicle first world history) (quiet : world.Quiet (machine α))
    (found : world.shared.deliveries[ticket]? = some delivery) (asks : List Ask) :
    ∃ more, Chronicle first (Ask.poseAll ticket asks world).1 (more ++ history) := by
  induction asks generalizing world delivery history with
  | nil => exact ⟨[], chronicle⟩
  | cons ask rest ih =>
      obtain ⟨more, goes⟩ := chronicle.asked found ask
      obtain ⟨further, goesOn⟩ := ih goes (asked_quiet quiet found ask) (found_asked found ask)
      refine ⟨further ++ more, ?_⟩
      rw [poseAll_cons ask rest quiet found, List.append_assoc]
      exact goesOn

end Turnstile.Pool
