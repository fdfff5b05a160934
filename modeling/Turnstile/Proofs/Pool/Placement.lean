import Mathlib.Logic.Relation
import Turnstile.Proofs.Pool.Changes

/-!
# Where a submission goes

A submission that is left alone tries its candidates one after the other: it leaves its job
with the first that has room, and falls back on waiting if none has. The candidates are
consecutive 64-bit numbers modulo the number of queues. As long as those numbers do not
wrap, or if there are as many queues as divide the range, they go round the queues in order,
and as there are at least as many attempts as queues, no queue with room is passed over.

Where the numbers wrap and the queues do not divide the range, the order has a seam: the
candidate after the greatest number is the first queue. A submission then goes round from
there, and with twice as many attempts as queues it still comes by every queue; with fewer
it can fall back beside a queue that has room.
-/

namespace Turnstile

set_option autoImplicit false

open Turnstile.Task (Ticket Job Body)

namespace Queue

variable {α : Type} {queue : Queue α} {item : α} {slots items : Nat}

theorem Balanced.isFull_iff (balanced : Balanced slots items queue) :
    queue.isFull = true ↔ queue.toList.length = queue.capacity := by
  rw [isFull, len, balanced.holds.count, decide_eq_true_iff]

theorem Idle.tryPush_full (idle : queue.Idle) (isOpen : queue.closed = false)
    (full : queue.isFull = true) : queue.tryPush item = (.refused (.full item), queue) := by
  have total := idle.slots
  have length := idle.isFull_iff.mp full
  have none : queue.openSlots.permits = 0 := by
    apply UInt64.toNat_inj.mp
    rw [closing, isOpen, if_neg Bool.false_ne_true] at total
    rw [UInt64.toNat_zero]
    omega
  have nothing := (Semaphore.take_none_iff queue.openSlots).mpr none
  simp only [Queue.tryPush, nothing, isOpen, Bool.false_eq_true, if_false]

theorem Idle.tryPush_room (idle : queue.Idle) (isOpen : queue.closed = false)
    (room : queue.isFull = false) (item : α) :
    ∃ later, queue.tryPush item = (.stored, later) ∧ Stores item queue later := by
  have positive : queue.openSlots.permits ≠ 0 := by
    intro none
    rw [idle.isFull_iff.mpr (idle.full_of_none none).2] at room
    cases room
  obtain ⟨openSlots, taken⟩ :=
    Option.ne_none_iff_exists'.mp (mt (Semaphore.take_none_iff _).mp positive)
  have paid := idle.takeSlot (Semaphore.toNat_permits_take taken)
  obtain ⟨ring, put, _⟩ := paid.holds.put (paid.room isOpen) item
  cases result : queue.tryPush item with
  | mk answer later =>
      cases idle.tryPush result with
      | stored stores => exact ⟨later, rfl, stores⟩
      | refused refusal =>
          simp only [Queue.tryPush, taken, storeAll, store, isOpen, put, Bool.false_eq_true,
            if_false] at result
          cases result

end Queue

namespace Pool

variable {α : Type} {me : ThreadId} {pool : Pool α} {job : Job α} {home : UInt64}
  {attempt tries index : Nat}

/-! ## The order of the candidates -/

theorem toNat_number (home : UInt64) (attempt : Nat) :
    (home + UInt64.ofNat attempt).toNat = (home.toNat + attempt) % 2 ^ 64 := by
  rw [UInt64.toNat_add, UInt64.toNat_ofNat', Nat.add_mod_mod]

theorem candidate_of_unwrapped (fits : home.toNat + attempt < 2 ^ 64) :
    pool.candidate home attempt = (pool.queueAt home + attempt) % pool.queues.length := by
  rw [candidate, queueAt, queueAt, toNat_number, Nat.mod_eq_of_lt fits, Nat.mod_add_mod]

theorem candidate_of_wrapped (wraps : home.toNat + attempt = 2 ^ 64 + tries)
    (fits : tries < 2 ^ 64) : pool.candidate home attempt = tries % pool.queues.length := by
  rw [candidate, queueAt, toNat_number, wraps, Nat.add_mod_left, Nat.mod_eq_of_lt fits]

theorem candidate_of_dvd (divides : pool.queues.length ∣ 2 ^ 64) (home : UInt64) (attempt : Nat) :
    pool.candidate home attempt = (pool.queueAt home + attempt) % pool.queues.length := by
  rw [candidate, queueAt, queueAt, toNat_number, Nat.mod_mod_of_dvd _ divides, Nat.mod_add_mod]

/-- The numbers of a whole round do not wrap, or it makes no difference that they do. -/
def Seamless (pool : Pool α) (home : UInt64) : Prop :=
  home.toNat + pool.queues.length ≤ 2 ^ 64 ∨ pool.queues.length ∣ 2 ^ 64

theorem Seamless.candidate (seamless : pool.Seamless home) (within : attempt < pool.queues.length) :
    pool.candidate home attempt = (pool.queueAt home + attempt) % pool.queues.length := by
  rcases seamless with fits | divides
  · exact candidate_of_unwrapped (by omega)
  · exact candidate_of_dvd divides home attempt

theorem Seamless.reaches (seamless : pool.Seamless home) (within : index < pool.queues.length) :
    ∃ attempt < pool.queues.length, pool.candidate home attempt = index := by
  have begins : pool.queueAt home < pool.queues.length := Nat.mod_lt _ (by omega)
  obtain ⟨attempt, bound, same⟩ := Queue.Ring.exists_offset begins within
  exact ⟨attempt, bound, (seamless.candidate bound).trans same⟩

theorem reaches_in_two_rounds (home : UInt64) (few : pool.queues.length ≤ 2 ^ 64)
    (within : index < pool.queues.length) :
    ∃ attempt < 2 * pool.queues.length, pool.candidate home attempt = index := by
  by_cases fits : home.toNat + pool.queues.length ≤ 2 ^ 64
  · have seamless : pool.Seamless home := .inl fits
    obtain ⟨attempt, bound, same⟩ := seamless.reaches within
    exact ⟨attempt, by omega, same⟩
  · have below := home.toNat_lt
    have wraps : home.toNat + (2 ^ 64 - home.toNat + index) = 2 ^ 64 + index := by omega
    refine ⟨2 ^ 64 - home.toNat + index, by omega, ?_⟩
    rw [candidate_of_wrapped wraps (by omega), Nat.mod_eq_of_lt within]

/-! ## A submission that is left alone -/

/-- Every worker has a queue that is open, and no operation of one is under way. -/
structure Receptive (pool : Pool α) : Prop where
  idle : pool.Idle
  isOpen : ∀ queue ∈ pool.queues, queue.closed = false
  hired : pool.queues.length = pool.config.workers
  some : 0 < pool.config.workers

def FullAt (pool : Pool α) (index : Nat) : Prop :=
  ∃ queue, pool.queues[index]? = some queue ∧ queue.isFull = true

def RoomAt (pool : Pool α) (index : Nat) : Prop :=
  ∃ queue, pool.queues[index]? = some queue ∧ queue.isFull = false

theorem fullAt_or_roomAt (within : index < pool.queues.length) :
    pool.FullAt index ∨ pool.RoomAt index := by
  have found := List.getElem?_eq_getElem within
  cases full : pool.queues[index].isFull with
  | true => exact .inl ⟨_, found, full⟩
  | false => exact .inr ⟨_, found, full⟩

/-- The pool once a submission has got its ticket and its number. -/
def numbered (pool : Pool α) : Pool α :=
  { pool.issueTicket.2 with nextQueue := pool.nextQueue + 1 }

theorem Receptive.numbered (receptive : pool.Receptive) : pool.numbered.Receptive :=
  ⟨receptive.idle, receptive.isOpen, receptive.hired, receptive.some⟩

namespace Submission

/-- The submission acts, and nobody else. -/
def Acts (me : ThreadId) (before after : Submission α × Pool α) : Prop :=
  before.1.act me before.2 = some after

/-- Left alone, the submission gets there. -/
abbrev Gets (me : ThreadId) : Submission α × Pool α → Submission α × Pool α → Prop :=
  Relation.ReflTransGen (Acts me)

theorem acts_full (receptive : pool.Receptive) (within : attempt < pool.config.submitAttempts)
    (full : pool.FullAt (pool.candidate home attempt)) :
    Acts me (.look job home attempt, pool) (.look job home (attempt + 1), pool) := by
  obtain ⟨queue, found, full⟩ := full
  have member := List.mem_of_getElem? found
  have refuses : queue.tryPush job = (.refused (.full job), queue) :=
    (receptive.idle queue member).tryPush_full (receptive.isOpen queue member) full
  have same : pool.setQueue (pool.candidate home attempt) queue = pool := by
    rw [setQueue, World.set_self found]
  simp [Acts, act, within, found, refuses, afterLook, same]

theorem acts_room (receptive : pool.Receptive) (within : attempt < pool.config.submitAttempts)
    (room : pool.RoomAt (pool.candidate home attempt)) :
    ∃ queue later, pool.queues[pool.candidate home attempt]? = some queue ∧
      Queue.Stores job queue later ∧
      Acts me (.look job home attempt, pool) (.count job.ticket,
        (pool.setQueue (pool.candidate home attempt) later).note
          (.accepted job.ticket (pool.candidate home attempt))) := by
  obtain ⟨queue, found, room⟩ := room
  have member := List.mem_of_getElem? found
  obtain ⟨later, pushed, stores⟩ :=
    (receptive.idle queue member).tryPush_room (receptive.isOpen queue member) room job
  refine ⟨queue, later, found, stores, ?_⟩
  simp [Acts, act, within, found, pushed, afterLook, afterPush]

theorem gets_past_full (receptive : pool.Receptive) (within : tries ≤ pool.config.submitAttempts)
    (full : ∀ earlier < tries, pool.FullAt (pool.candidate home earlier)) :
    Gets me (.look job home 0, pool) (.look job home tries, pool) := by
  induction tries with
  | zero => exact .refl
  | succ tries ih =>
      have past := ih (by omega) fun earlier bound => full earlier (by omega)
      exact past.tail (acts_full receptive (by omega) (full tries (by omega)))

end Submission

open Submission (Gets)

/-- A submission that is left alone leaves its job in that queue and waits for nothing. -/
def Lands (me : ThreadId) (pool : Pool α) (body : Body α) (index : Nat) : Prop :=
  ∃ queue later, pool.queues[index]? = some queue ∧
    Queue.Stores ⟨pool.deliveries.length, body⟩ queue later ∧
    Gets me (.begin body, pool) (.done (.accepted pool.deliveries.length),
      ((pool.numbered.setQueue index later).note (.accepted pool.deliveries.length index)).count
        .countSubmitted)

/-- A submission that is left alone falls back on the queue that its number stands for. -/
def FallsBack (me : ThreadId) (pool : Pool α) (body : Body α) : Prop :=
  Gets me (.begin body, pool) (.wait ⟨pool.deliveries.length, body⟩ (pool.queueAt pool.nextQueue),
    (pool.numbered.count .countFallback).note
      (.fellBack pool.deliveries.length (pool.queueAt pool.nextQueue)))

theorem Receptive.lands (receptive : pool.Receptive) (me : ThreadId) (body : Body α)
    (within : attempt < pool.config.submitAttempts)
    (full : ∀ earlier < attempt, pool.FullAt (pool.candidate pool.nextQueue earlier))
    (room : pool.RoomAt (pool.candidate pool.nextQueue attempt)) :
    pool.Lands me body (pool.candidate pool.nextQueue attempt) := by
  have numbered := receptive.numbered
  have begins : Submission.Acts me (.begin body, pool)
      (.look ⟨pool.deliveries.length, body⟩ pool.nextQueue 0, pool.numbered) := rfl
  have past : Gets me (.look ⟨pool.deliveries.length, body⟩ pool.nextQueue 0, pool.numbered)
      (.look ⟨pool.deliveries.length, body⟩ pool.nextQueue attempt, pool.numbered) :=
    Submission.gets_past_full numbered (Nat.le_of_lt within) full
  obtain ⟨queue, later, found, stores, taken⟩ := Submission.acts_room numbered within room
  exact ⟨queue, later, found, stores, ((past.head begins).tail taken).tail rfl⟩

theorem Receptive.fallsBack (receptive : pool.Receptive) (me : ThreadId) (body : Body α)
    (full : ∀ attempt < pool.config.submitAttempts,
      pool.FullAt (pool.candidate pool.nextQueue attempt)) : pool.FallsBack me body := by
  have begins : Submission.Acts me (.begin body, pool)
      (.look ⟨pool.deliveries.length, body⟩ pool.nextQueue 0, pool.numbered) := rfl
  have past : Gets me (.look ⟨pool.deliveries.length, body⟩ pool.nextQueue 0, pool.numbered)
      (.look ⟨pool.deliveries.length, body⟩ pool.nextQueue pool.config.submitAttempts,
        pool.numbered) :=
    Submission.gets_past_full receptive.numbered (Nat.le_refl _) full
  have exhausted : Submission.Acts me
      (.look ⟨pool.deliveries.length, body⟩ pool.nextQueue pool.config.submitAttempts, pool.numbered)
      (.fallBack ⟨pool.deliveries.length, body⟩ pool.nextQueue, pool.numbered) :=
    if_neg (Nat.lt_irrefl _)
  exact ((past.head begins).tail exhausted).tail rfl

theorem Receptive.candidate_lt (receptive : pool.Receptive) (home : UInt64) (attempt : Nat) :
    pool.candidate home attempt < pool.queues.length :=
  Nat.mod_lt _ (receptive.hired ▸ receptive.some)

theorem Receptive.lands_of_reached (receptive : pool.Receptive) (me : ThreadId) (body : Body α)
    (within : attempt < pool.config.submitAttempts)
    (room : pool.RoomAt (pool.candidate pool.nextQueue attempt)) :
    ∃ index, pool.RoomAt index ∧ pool.Lands me body index := by
  classical
  have some : ∃ attempt, pool.RoomAt (pool.candidate pool.nextQueue attempt) := ⟨attempt, room⟩
  have bound : Nat.find some ≤ attempt := Nat.find_min' some room
  have first := Nat.find_spec some
  refine ⟨_, first, receptive.lands me body (Nat.lt_of_le_of_lt bound within) ?_ first⟩
  intro earlier less
  exact (fullAt_or_roomAt (receptive.candidate_lt _ _)).resolve_right (Nat.find_min some less)

/-! ## Whether room is used -/

theorem Receptive.rounds_le (receptive : pool.Receptive) {rounds : Nat}
    (factor : rounds ≤ pool.config.stealFactor) (few : rounds * pool.queues.length < UInt64.size) :
    rounds * pool.queues.length ≤ pool.config.submitAttempts := by
  have most : rounds * pool.queues.length ≤ pool.config.stealFactor * pool.config.workers := by
    rw [receptive.hired]
    exact Nat.mul_le_mul_right _ factor
  exact Nat.le_min.mpr ⟨most, Nat.le_sub_one_of_lt few⟩

/-- Where the order of the candidates has no seam, a submission that is left alone leaves its job
in the first queue with room, going round from the one that its number stands for, and falls back
on that one if all are full. The number of the next submission is one more, modulo the range. -/
theorem room_is_used (pool : Pool α) (receptive : pool.Receptive)
    (factor : 0 < pool.config.stealFactor) (few : pool.queues.length < UInt64.size)
    (seamless : pool.Seamless pool.nextQueue) (me : ThreadId) (body : Body α) :
    (∀ offset < pool.queues.length,
      (∀ earlier < offset,
        pool.FullAt ((pool.queueAt pool.nextQueue + earlier) % pool.queues.length)) →
      pool.RoomAt ((pool.queueAt pool.nextQueue + offset) % pool.queues.length) →
        pool.Lands me body ((pool.queueAt pool.nextQueue + offset) % pool.queues.length)) ∧
    ((∀ index < pool.queues.length, pool.FullAt index) → pool.FallsBack me body) ∧
    pool.numbered.nextQueue.toNat = (pool.nextQueue.toNat + 1) % 2 ^ 64 := by
  have round := receptive.rounds_le factor (by omega)
  refine ⟨?_, ?_, UInt64.toNat_add _ _⟩
  · intro offset within full room
    rw [← seamless.candidate within] at room ⊢
    apply receptive.lands me body (by omega) _ room
    intro earlier less
    rw [seamless.candidate (by omega)]
    exact full earlier less
  · intro full
    apply receptive.fallsBack me body
    exact fun attempt _ => full _ (receptive.candidate_lt _ _)

/-- With a steal factor of two or more a submission that is left alone falls back only if all
queues are full, whatever its number. -/
theorem room_is_used_in_two_rounds (pool : Pool α) (receptive : pool.Receptive)
    (factor : 2 ≤ pool.config.stealFactor) (few : 2 * pool.queues.length < UInt64.size)
    (me : ThreadId) (body : Body α) :
    ((∃ index, pool.RoomAt index) → ∃ index, pool.RoomAt index ∧ pool.Lands me body index) ∧
    ((∀ index < pool.queues.length, pool.FullAt index) → pool.FallsBack me body) := by
  have rounds := receptive.rounds_le factor few
  have size : UInt64.size = 2 ^ 64 := rfl
  constructor
  · rintro ⟨index, queue, found, room⟩
    obtain ⟨within, _⟩ := List.getElem?_eq_some_iff.mp found
    obtain ⟨attempt, bound, same⟩ := reaches_in_two_rounds pool.nextQueue (by omega) within
    apply receptive.lands_of_reached me body (Nat.lt_of_lt_of_le bound rounds)
    rw [same]
    exact ⟨queue, found, room⟩
  · intro full
    apply receptive.fallsBack me body
    exact fun attempt _ => full _ (receptive.candidate_lt _ _)

def single : Queue (Job Unit) := ⟨.ofCapacity 1, false, .ofPermits 1, .empty⟩

/-- Three queues of one slot, the first two of them full, before the submission of the greatest
number. -/
def seamed : Pool Unit where
  config := ⟨3, 1, 1, Config.standardThreadName, Config.standardIdlePark⟩
  queues := [(single.tryPush ⟨0, []⟩).2, (single.tryPush ⟨1, []⟩).2, single]
  nextQueue := 18446744073709551615
  counters := {}
  fates := List.replicate 3 .alive
  deliveries := [.pending, .pending]
  isOpen _ := false
  isForgone _ := false
  journal := []

private theorem seamed_receptive : seamed.Receptive := by
  have made : Queue.ofCapacity 1 = .ok single := rfl
  have idle : single.Idle := (Queue.Balanced.ofCapacity made).1
  have stored (job : Job Unit) : (single.tryPush job).2.Idle ∧ (single.tryPush job).2.closed = false := by
    obtain ⟨later, pushed, stores⟩ := idle.tryPush_room rfl rfl job
    rw [pushed]
    exact ⟨stores.idle, stores.closed⟩
  have all : ∀ queue ∈ seamed.queues, queue.Idle ∧ queue.closed = false := by
    simp only [seamed, List.forall_mem_cons]
    exact ⟨stored _, stored _, ⟨idle, rfl⟩, nofun⟩
  exact ⟨fun queue member => (all queue member).1, fun queue member => (all queue member).2, rfl,
    by decide⟩

/-- The candidates are the first queue twice and the second one, and the submission waits beside a
queue that has room. -/
theorem seamed_passes_over_room : seamed.RoomAt 2 ∧ seamed.FallsBack 0 [] := by
  refine ⟨⟨single, rfl, rfl⟩, seamed_receptive.fallsBack 0 [] ?_⟩
  intro attempt within
  have within : attempt < 3 := within
  match attempt with
  | 0 | 1 | 2 => exact ⟨_, rfl, rfl⟩

end Pool

end Turnstile
