import Turnstile.Lock.Exclusive
import Turnstile.Proofs.Lock.Usage
import Turnstile.Proofs.Semaphore

/-!
# A lock of one word excludes, and strands nobody

`Change` lists what a thread that uses the lock by its contract can do next.
From it follow two invariants. `Held` says that the word is free exactly when
nobody holds the lock, and that otherwise one thread does. `Watched` says that
as long as somebody sleeps, the word is contended, or a thread is on its way to
mark it so, or a permit is there or about to be posted: the first write of a
newcomer may hide the mark, but then the newcomer itself comes back to it.
-/

namespace Turnstile.Lock.Exclusive

set_option autoImplicit false

open World (total)

/-- The thread is inside, or has not begun to take back its mark. -/
def holding : Stage Point → Nat
  | .inside _ | .leaving _ .leave => 1
  | _ => 0

/-- The thread is about to mark the word as contended. -/
def contending : Stage Point → Nat
  | .entering _ .contend => 1
  | _ => 0

def sleeping : Stage Point → Nat
  | .entering _ .sleep => 1
  | _ => 0

/-- The thread has left and is about to post a permit. -/
def waking : Stage Point → Nat
  | .leaving _ .wake => 1
  | _ => 0

/-- The stages at which a thread can be without a fault. -/
def IsProper : Stage Point → Prop
  | .outside | .inside _ => True
  | .entering _ point => point = .enter ∨ point = .contend ∨ point = .sleep ∨ point = .tryEnter
  | .leaving _ point => point = .leave ∨ point = .wake
  | .broken _ => False

/-- What a thread can do next, and to what stage it brings the thread. -/
inductive Change (me : ThreadId) :
    Stage Point → Exclusive → Stage Point → Exclusive → Prop where
  | approach (mode : Mode) (lock : Exclusive) : Change me .outside lock (.entering mode .enter) lock
  | try (mode : Mode) (lock : Exclusive) : Change me .outside lock (.entering mode .tryEnter) lock
  | enter (mode : Mode) {lock : Exclusive} (free : lock.word = .free) :
      Change me (.entering mode .enter) lock (.inside mode) { lock with word := .held }
  | meet (mode : Mode) {lock : Exclusive} (busy : lock.word ≠ .free) :
      Change me (.entering mode .enter) lock (.entering mode .contend) { lock with word := .held }
  | acquire (mode : Mode) {lock : Exclusive} (free : lock.word = .free) :
      Change me (.entering mode .contend) lock (.inside mode) { lock with word := .contended }
  | mark (mode : Mode) {lock : Exclusive} (busy : lock.word ≠ .free) :
      Change me (.entering mode .contend) lock (.entering mode .sleep)
        { lock with word := .contended }
  | rise (mode : Mode) {lock : Exclusive} {parked : Semaphore}
      (taken : lock.parked.wait me = .taken parked) :
      Change me (.entering mode .sleep) lock (.entering mode .contend) { lock with parked }
  | park (mode : Mode) {lock : Exclusive} {parked : Semaphore}
      (joined : lock.parked.wait me = .joined parked) :
      Change me (.entering mode .sleep) lock (.entering mode .sleep) { lock with parked }
  | seize (mode : Mode) {lock : Exclusive} (free : lock.word = .free) :
      Change me (.entering mode .tryEnter) lock (.inside mode) { lock with word := .held }
  | refuse (mode : Mode) {lock : Exclusive} (busy : lock.word ≠ .free) :
      Change me (.entering mode .tryEnter) lock .outside lock
  | turn (mode : Mode) (lock : Exclusive) : Change me (.inside mode) lock (.leaving mode .leave) lock
  | misuse (mode : Mode) {lock : Exclusive} (free : lock.word = .free) :
      Change me (.leaving mode .leave) lock (.broken .lockNotHeld) lock
  | release (mode : Mode) {lock : Exclusive} (held : lock.word = .held) :
      Change me (.leaving mode .leave) lock .outside { lock with word := .free }
  | handOver (mode : Mode) {lock : Exclusive} (contended : lock.word = .contended) :
      Change me (.leaving mode .leave) lock (.leaving mode .wake) { lock with word := .free }
  | post (mode : Mode) (lock : Exclusive) :
      Change me (.leaving mode .wake) lock .outside { lock with parked := lock.parked.post }

variable {me : ThreadId} {old new : Stage Point} {lock changed : Exclusive}
  {threads : List (Stage Point)}

theorem act_sleep_taken {parked : Semaphore} (taken : lock.parked.wait me = .taken parked) :
    act me .sleep lock = some (.contend, { lock with parked }) := by
  simp only [act, taken]

theorem act_sleep_joined {parked : Semaphore} (joined : lock.parked.wait me = .joined parked) :
    act me .sleep lock = some (.sleep, { lock with parked }) := by
  simp only [act, joined]

theorem act_leave_free (me : ThreadId) (free : lock.word = .free) :
    act me .leave lock = some (.done (.fault .lockNotHeld), lock) := by
  simp only [act, free]

theorem act_leave_held (me : ThreadId) (held : lock.word = .held) :
    act me .leave lock = some (.done .left, { lock with word := .free }) := by
  simp only [act, held]

theorem act_leave_contended (me : ThreadId) (contended : lock.word = .contended) :
    act me .leave lock = some (.wake, { lock with word := .free }) := by
  simp only [act, contended]

theorem change_of_move (proper : IsProper old) (move : Usage.Move kind me old lock new changed) :
    Change me old lock new changed := by
  match move with
  | .decide decision =>
      match decision with
      | .enter mode => exact .approach mode lock
      | .tryEnter mode => exact .try mode lock
      | .leave mode => exact .turn mode lock
  | .act acted =>
      match old, proper with
      | .entering mode .enter, _ =>
          obtain ⟨rfl, rfl⟩ := Usage.eq_of_entering rfl acted
          by_cases free : lock.word = .free
          · rw [if_pos free]
            exact .enter mode free
          · rw [if_neg free]
            exact .meet mode free
      | .entering mode .contend, _ =>
          obtain ⟨rfl, rfl⟩ := Usage.eq_of_entering rfl acted
          by_cases free : lock.word = .free
          · rw [if_pos free]
            exact .acquire mode free
          · rw [if_neg free]
            exact .mark mode free
      | .entering mode .sleep, _ =>
          cases waited : lock.parked.wait me with
          | taken parked =>
              obtain ⟨rfl, rfl⟩ := Usage.eq_of_entering (act_sleep_taken waited) acted
              exact .rise mode waited
          | joined parked =>
              obtain ⟨rfl, rfl⟩ := Usage.eq_of_entering (act_sleep_joined waited) acted
              exact .park mode waited
          | asleep => simp [Usage.act, machine, act, waited] at acted
      | .entering mode .tryEnter, _ =>
          by_cases free : lock.word = .free
          · obtain ⟨rfl, rfl⟩ := Usage.eq_of_entering (if_pos free) acted
            exact .seize mode free
          · obtain ⟨rfl, rfl⟩ := Usage.eq_of_entering (if_neg free) acted
            exact .refuse mode free
      | .leaving mode .leave, _ =>
          cases word : lock.word with
          | free =>
              obtain ⟨rfl, rfl⟩ := Usage.eq_of_leaving (act_leave_free me word) acted
              exact .misuse mode word
          | held =>
              obtain ⟨rfl, rfl⟩ := Usage.eq_of_leaving (act_leave_held me word) acted
              exact .release mode word
          | contended =>
              obtain ⟨rfl, rfl⟩ := Usage.eq_of_leaving (act_leave_contended me word) acted
              exact .handOver mode word
      | .leaving mode .wake, _ =>
          obtain ⟨rfl, rfl⟩ := Usage.eq_of_leaving rfl acted
          exact .post mode lock

/-- How many threads the word says hold the lock. -/
def occupied (lock : Exclusive) : Nat := if lock.word = .free then 0 else 1

/-- The word changes with the thread: unless the thread leaves a lock that is free,
whatever it gains or loses of a hold the word gains or loses with it. -/
theorem Change.occupied_add (change : Change me old lock new changed)
    (covered : holding old ≤ occupied lock) :
    occupied changed + holding old = occupied lock + holding new ∧ IsProper new := by
  cases change <;> simp_all [occupied, holding, IsProper]

/-- The word is free exactly when nobody holds the lock; otherwise one thread does. -/
structure Held (lock : Exclusive) (threads : List (Stage Point)) : Prop where
  proper : ∀ stage ∈ threads, IsProper stage
  holders : total holding threads = occupied lock

namespace Held

theorem start (stale : UInt64) (threads : Nat) :
    Held ⟨.free, .ofPermits stale⟩ (List.replicate threads .outside) := by
  refine ⟨?_, ?_⟩
  · intro stage member
    rw [List.eq_of_mem_replicate member]
    trivial
  · simp [World.total_replicate, holding, occupied]

theorem change (held : Held lock threads) (found : threads[me]? = some old)
    (change : Change me old lock new changed) : Held changed (threads.set me new) := by
  have holders := held.holders
  have covered : holding old ≤ occupied lock := holders ▸ World.weight_le_total holding found
  obtain ⟨balance, proper⟩ := change.occupied_add covered
  refine ⟨?_, ?_⟩
  · intro stage member
    rcases List.mem_or_eq_of_mem_set member with member | rfl
    · exact held.proper stage member
    · exact proper
  · have moved := World.total_set holding found new
    omega

theorem unbroken (held : Held lock threads) (fault : Fault) :
    threads[me]? ≠ some (.broken fault) := by
  intro found
  exact held.proper _ (List.mem_of_getElem? found)

end Held

/-- One if the word says that somebody may be parked. -/
def marked (lock : Exclusive) : Nat := if lock.word = .contended then 1 else 0

/-- How many reasons there are to expect that the first sleeper gets up in time:
the mark that the holder will see when it leaves, a thread that is about to set
it, a permit, and a thread that is about to post one. -/
def prospects (lock : Exclusive) (threads : List (Stage Point)) : Nat :=
  marked lock + total contending threads + total waking threads + lock.parked.permits.toNat

theorem Change.prospects_kept (change : Change me old lock new changed)
    (fits : 0 < waking old → lock.parked.permits.toNat + 1 < UInt64.size) :
    0 < marked changed + contending new + waking new + changed.parked.permits.toNat ∨
      marked changed = marked lock ∧ contending new = contending old ∧ waking new = waking old ∧
        sleeping new = sleeping old ∧ changed.parked.permits = lock.parked.permits := by
  cases change with
  | park mode joined =>
      obtain ⟨_, _, rfl⟩ := Semaphore.wait_joined joined
      exact .inr ⟨rfl, rfl, rfl, rfl, rfl⟩
  | post mode =>
      have sum := Semaphore.toNat_permits_add lock.parked.permits 1 (fits Nat.one_pos)
      rw [UInt64.toNat_one] at sum
      simp [Semaphore.post, sum]
  | _ => simp_all [marked, contending, waking, sleeping]

/-- The line at the semaphore, and what those who sleep there may expect. -/
structure Watched (lock : Exclusive) (threads : List (Stage Point)) : Prop where
  attended : lock.parked.Attended sleeping threads
  watched : 0 < total sleeping threads → 0 < prospects lock threads

namespace Watched

theorem start (stale : UInt64) (threads : Nat) :
    Watched ⟨.free, .ofPermits stale⟩ (List.replicate threads .outside) :=
  ⟨.ofPermits stale, by simp [World.total_replicate, sleeping]⟩

private theorem attended_change (watched : Watched lock threads) (found : threads[me]? = some old)
    (change : Change me old lock new changed) :
    changed.parked.Attended sleeping (threads.set me new) := by
  have attended := watched.attended
  cases change with
  | rise mode taken => exact attended.taken found rfl taken
  | park mode joined => exact (attended.joined found Nat.one_pos joined).set found (Nat.le_refl _)
  | post mode => exact (attended.set found (Nat.zero_le _)).post
  | _ => exact attended.set found (Nat.zero_le _)

theorem change (watched : Watched lock threads) (found : threads[me]? = some old)
    (change : Change me old lock new changed)
    (fits : 0 < waking old → lock.parked.permits.toNat + 1 < UInt64.size) :
    Watched changed (threads.set me new) := by
  refine ⟨watched.attended_change found change, ?_⟩
  intro slept
  rcases change.prospects_kept fits with fresh | ⟨mark, contend, wake, sleep, permits⟩
  · have here : (threads.set me new)[me]? = some new := World.found_set found
    have contenders := World.weight_le_total contending here
    have wakers := World.weight_le_total waking here
    unfold prospects
    omega
  · rw [World.total_set_of_eq found sleep] at slept
    have before := watched.watched slept
    unfold prospects at before ⊢
    rw [World.total_set_of_eq found contend, World.total_set_of_eq found wake, mark, permits]
    exact before

end Watched

theorem rests_of_still {stage : Stage Point} (proper : IsProper stage)
    (still : Usage.act kind me stage lock = none) :
    stage = .outside ∨ (∃ mode, stage = .inside mode) ∨
      ∃ mode, stage = .entering mode .sleep ∧ me ∈ lock.parked.line := by
  match stage, proper with
  | .outside, _ => exact .inl rfl
  | .inside mode, _ => exact .inr (.inl ⟨mode, rfl⟩)
  | .entering mode .enter, _ | .entering mode .contend, _ | .leaving mode .wake, _ =>
      simp [Usage.act, machine, act] at still
  | .entering mode .tryEnter, _ =>
      by_cases free : lock.word = .free <;> simp [Usage.act, machine, act, free] at still
  | .leaving mode .leave, _ =>
      cases word : lock.word <;> simp [Usage.act, machine, act, word] at still
  | .entering mode .sleep, _ =>
      cases waited : lock.parked.wait me with
      | taken parked => simp [Usage.act, machine, act, waited] at still
      | joined parked => simp [Usage.act, machine, act, waited] at still
      | asleep => exact .inr (.inr ⟨mode, rfl, Semaphore.wait_asleep_iff.mp waited⟩)

/-- Where nobody can go on, a thread that is still in a call to enter is parked, and
the lock is held. -/
theorem Watched.parked_beside_busy (watched : Watched lock threads) (held : Held lock threads)
    (still : ∀ (me : ThreadId) stage, threads[me]? = some stage →
      Usage.act kind me stage lock = none)
    {mode : Mode} {point : Point} (found : threads[me]? = some (.entering mode point)) :
    point = .sleep ∧ me ∈ lock.parked.line ∧ 0 < total holding threads := by
  have rests (me : ThreadId) (stage : Stage Point) (found : threads[me]? = some stage) :=
    rests_of_still (held.proper stage (List.mem_of_getElem? found)) (still me stage found)
  have idle (weight : Stage Point → Nat) (outside : weight .outside = 0)
      (inside : ∀ mode, weight (.inside mode) = 0)
      (asleep : ∀ mode, weight (.entering mode .sleep) = 0) : total weight threads = 0 := by
    apply World.total_eq_zero
    intro me stage found
    rcases rests me stage found with rfl | ⟨mode, rfl⟩ | ⟨mode, rfl, _⟩
    · exact outside
    · exact inside mode
    · exact asleep mode
  have listed (me : ThreadId) (stage : Stage Point) (found : threads[me]? = some stage)
      (slept : 0 < sleeping stage) : me ∈ lock.parked.line := by
    rcases rests me stage found with rfl | ⟨mode, rfl⟩ | ⟨mode, rfl, member⟩
    · simp [sleeping] at slept
    · simp [sleeping] at slept
    · exact member
  have light : ∀ stage, sleeping stage ≤ 1 := by
    intro stage
    unfold sleeping
    split <;> omega
  rcases rests me _ found with here | ⟨_, here⟩ | ⟨_, here, member⟩
  · cases here
  · cases here
  · cases here
    have none := watched.attended.permits_eq_zero light listed (List.ne_nil_of_mem member)
    have some := watched.watched (Nat.lt_of_lt_of_le Nat.one_pos (World.weight_le_total sleeping found))
    unfold prospects at some
    rw [none, idle contending rfl (fun _ => rfl) (fun _ => rfl),
      idle waking rfl (fun _ => rfl) (fun _ => rfl)] at some
    have holders := held.holders
    refine ⟨rfl, member, ?_⟩
    simp only [marked, UInt64.toNat_zero, Nat.add_zero] at some
    split at some
    · next word =>
      simp only [occupied, word, reduceCtorEq, if_false] at holders
      omega
    · omega

open Usage (Crowd Run crowd)

/-- No thread is about to post a permit that the semaphore has no room to count. -/
def PostsFit (world : Crowd kind) : Prop :=
  ∀ (me : ThreadId) (mode : Mode), world.threads[me]? = some (.leaving mode .wake) →
    world.shared.parked.permits.toNat + 1 < UInt64.size

theorem held_of_run {within : Crowd kind → Prop} {stale : UInt64} {count : Nat}
    {world : Crowd kind} (run : Run kind within (crowd kind ⟨.free, .ofPermits stale⟩ count) world) :
    Held world.shared world.threads := by
  refine run.induction (fun world => Held world.shared world.threads) (.start stale count) ?_
  intro world me old new lock held found move _
  exact held.change found (change_of_move (held.proper old (List.mem_of_getElem? found)) move)

theorem watched_of_run {stale : UInt64} {count : Nat} {world : Crowd kind}
    (run : Run kind PostsFit (crowd kind ⟨.free, .ofPermits stale⟩ count) world) :
    Watched world.shared world.threads := by
  let holds (world : Crowd kind) : Prop :=
    Held world.shared world.threads ∧ Watched world.shared world.threads ∧ PostsFit world
  have invariant : holds world := by
    refine run.induction holds ⟨.start stale count, .start stale count, ?_⟩ ?_
    · intro me mode found
      have outside := List.eq_of_mem_replicate (List.mem_of_getElem? found)
      cases outside
    · intro world me old new lock ⟨held, watched, fits⟩ found move limit
      have change := change_of_move (held.proper old (List.mem_of_getElem? found)) move
      refine ⟨held.change found change, watched.change found change ?_, limit⟩
      intro wakes
      match old, wakes with
      | .leaving mode .wake, _ => exact fits me mode found
  exact invariant.2.1

theorem Change.permits_le (change : Change me old lock new changed) :
    changed.parked.permits.toNat ≤ lock.parked.permits.toNat + 1 := by
  cases change with
  | rise mode taken =>
      have fewer := Semaphore.toNat_permits_taken taken
      simp only
      omega
  | park mode joined =>
      simp only [Semaphore.permits_joined joined]
      omega
  | post mode => exact Semaphore.toNat_permits_add_le lock.parked.permits 1
  | _ => exact Nat.le_succ _

theorem permits_le_of_steps {stale : UInt64} {count moves : Nat} {world : Crowd kind}
    (steps : Usage.Steps kind (crowd kind ⟨.free, .ofPermits stale⟩ count) moves world) :
    world.shared.parked.permits.toNat ≤ stale.toNat + moves := by
  induction steps with
  | zero => exact Nat.le_refl _
  | succ before step ih =>
      obtain ⟨me, old, new, lock, found, move, rfl⟩ := step.is_move
      have run : Run kind (fun _ => True) _ _ := before.run (Nat.le_refl _) fun _ _ _ _ => trivial
      have proper := (held_of_run run).proper old (List.mem_of_getElem? found)
      have more := (change_of_move proper move).permits_le
      simp only [World.put]
      omega

/-- The 64 bits of the permit count suffice for every run of fewer moves than they can
count beyond the permits that were left on the semaphore. -/
theorem posts_fit_of_steps {stale : UInt64} {count moves : Nat} {world : Crowd kind}
    (steps : Usage.Steps kind (crowd kind ⟨.free, .ofPermits stale⟩ count) moves world)
    (few : stale.toNat + moves + 1 < UInt64.size) :
    Run kind PostsFit (crowd kind ⟨.free, .ofPermits stale⟩ count) world := by
  apply steps.run (Nat.le_refl _)
  intro earlier world fewer steps me mode found
  have bound := permits_le_of_steps steps
  omega

/-- In every interleaving of any number of threads, whatever permits were left on the
semaphore before, at most one thread holds the lock and no release breaks off. Where
nobody can go on, whoever is still on the way in is parked, and some thread is inside.
The last part is about runs in which the 64 bits of the permit count suffice. -/
theorem one_holder_and_nobody_stranded (stale : UInt64) (count : Nat) (world : Crowd kind)
    (run : Run kind (fun _ => True) (crowd kind ⟨.free, .ofPermits stale⟩ count) world) :
    (∀ (first second : ThreadId) (here there : Stage Point),
      world.threads[first]? = some here → world.threads[second]? = some there →
      0 < holding here → 0 < holding there → first = second) ∧
    (∀ (me : ThreadId) (fault : Fault), world.threads[me]? ≠ some (.broken fault)) ∧
    (Run kind PostsFit (crowd kind ⟨.free, .ofPermits stale⟩ count) world →
      world.Quiet (Usage.machine kind) →
      ∀ (me : ThreadId) (mode : Mode) (point : Point),
        world.threads[me]? = some (.entering mode point) →
        point = .sleep ∧ me ∈ world.shared.parked.line ∧ world.shared.isHeld = true ∧
          ∃ (holder : ThreadId) (mode : Mode), world.threads[holder]? = some (.inside mode)) := by
  have held := held_of_run run
  refine ⟨?_, ?_, ?_⟩
  · intro first second here there foundFirst foundSecond holdsFirst holdsSecond
    have atMostOne : total holding world.threads ≤ 1 := by
      rw [held.holders, occupied]
      split <;> omega
    exact World.eq_of_total_le_one atMostOne foundFirst holdsFirst foundSecond holdsSecond
  · intro me fault
    exact held.unbroken fault
  · intro fitting quiet me mode point found
    have still (me : ThreadId) (stage : Stage Point) (found : world.threads[me]? = some stage) :=
      Usage.act_eq_none_of_quiet quiet found
    obtain ⟨asleep, member, some⟩ := (watched_of_run fitting).parked_beside_busy held still found
    obtain ⟨holder, stage, foundHolder, holds⟩ := World.exists_of_total_pos some
    have busy : world.shared.word ≠ .free := by
      intro free
      rw [held.holders, occupied, if_pos free] at some
      omega
    refine ⟨asleep, member, by simpa [isHeld] using busy, holder, ?_⟩
    rcases rests_of_still (held.proper stage (List.mem_of_getElem? foundHolder))
      (still holder stage foundHolder) with rfl | ⟨inside, rfl⟩ | ⟨_, rfl, _⟩
    · simp [holding] at holds
    · exact ⟨inside, foundHolder⟩
    · simp [holding] at holds

theorem posts_fit_of_no_post {world : Crowd kind} (none : total waking world.threads = 0) :
    PostsFit world := by
  intro me mode found
  have some := World.weight_le_total waking found
  simp only [waking] at some
  omega

/-- Thread 1 is parked, after a stale permit had woken it in vain. Thread 2 then wrote
over the mark, so that the first holder left without a post, and got inside itself. -/
def contested : Crowd kind :=
  ⟨⟨.contended, ⟨0, [1]⟩⟩, [.outside, .entering .exclusive .sleep, .inside .exclusive]⟩

private theorem contested_run :
    Run kind PostsFit (crowd kind ⟨.free, .ofPermits 1⟩ 3) contested :=
  have fits (world : Crowd kind) (none : total waking world.threads = 0) := posts_fit_of_no_post none
  .step (.step (.step (.step (.step (.step (.step (.step (.step (.step (.step (.step (.step .refl
    (.decide 0 rfl (.enter .exclusive)) (fits _ rfl))
    (.act 0 rfl) (fits _ rfl))
    (.decide 1 rfl (.enter .exclusive)) (fits _ rfl))
    (.act 1 rfl) (fits _ rfl))
    (.act 1 rfl) (fits _ rfl))
    (.act 1 rfl) (fits _ rfl))
    (.act 1 rfl) (fits _ rfl))
    (.act 1 rfl) (fits _ rfl))
    (.decide 2 rfl (.enter .exclusive)) (fits _ rfl))
    (.act 2 rfl) (fits _ rfl))
    (.decide 0 rfl (.leave .exclusive)) (fits _ rfl))
    (.act 0 rfl) (fits _ rfl))
    (.act 2 rfl) (fits _ rfl)

private theorem contested_quiet : contested.Quiet (Usage.machine kind) := by
  intro me
  match me with
  | 0 | 1 | 2 | _ + 3 => rfl

theorem contested_has_a_holder :
    contested.Quiet (Usage.machine kind) ∧
      contested.threads[1]? = some (.entering .exclusive .sleep) ∧
      ∃ (holder : ThreadId) (mode : Mode), contested.threads[holder]? = some (.inside mode) := by
  obtain ⟨_, _, nobodyStranded⟩ := one_holder_and_nobody_stranded 1 3 contested
    (contested_run.widen fun _ _ => trivial)
  obtain ⟨_, _, _, holder⟩ := nobodyStranded contested_run contested_quiet 1 .exclusive .sleep rfl
  exact ⟨contested_quiet, rfl, holder⟩

/-- With as many permits left over as the count can hold, the post of the thread that leaves
takes the count to zero: thread 1, which it was for, parks beside a free lock, and nobody is
left to wake it. -/
theorem full_count_strands :
    ∃ world : Crowd kind,
      Run kind (fun _ => True) (crowd kind ⟨.free, .ofPermits (.ofNat (UInt64.size - 1))⟩ 2) world ∧
        world.Quiet (Usage.machine kind) ∧
        world.threads[1]? = some (.entering .exclusive .sleep) ∧ world.shared.isHeld = false := by
  refine ⟨⟨⟨.free, ⟨0, [1]⟩⟩, [.outside, .entering .exclusive .sleep]⟩, ?_, ?_, rfl, rfl⟩
  · exact .step (.step (.step (.step (.step (.step (.step (.step (.step .refl
      (.decide 0 rfl (.enter .exclusive)) trivial)
      (.act 0 rfl) trivial)
      (.decide 1 rfl (.enter .exclusive)) trivial)
      (.act 1 rfl) trivial)
      (.act 1 rfl) trivial)
      (.decide 0 rfl (.leave .exclusive)) trivial)
      (.act 0 rfl) trivial)
      (.act 0 rfl) trivial)
      (.act 1 rfl) trivial
  · intro me
    match me with
    | 0 | 1 | _ + 2 => rfl

end Turnstile.Lock.Exclusive
