/-!
# Threads over a shared state

A concurrent primitive is described by a *machine*. For a thread at a program
point the machine says which single atomic action comes next and what that
action does to the shared state; a thread that is parked, or has returned, has
no next action. A *world* is the shared state together with the program point
of every thread started so far.

Everything that is observed of a primitive comes out of this one definition:
`Reaches` is the relation over all schedules, `Quiet` says that nothing moves
any more, and `settle` follows one schedule, in which the youngest thread that
can move always moves first. `issue` starts one more call and lets everything
it sets off come to rest.
-/

namespace Turnstile

set_option autoImplicit false

/-- Threads are numbered in the order in which they were started. -/
abbrev ThreadId := Nat

/-- The atomic actions of the threads of a primitive with shared state `σ`,
program points `π` and answers `ρ`. -/
structure Machine (σ π ρ : Type) where
  /-- The next action of a thread, `none` when it is parked or has returned. -/
  act : ThreadId → π → σ → Option (π × σ)
  /-- The end of a timed wait, `none` when the thread is not in one. -/
  expire : ThreadId → π → σ → Option (π × σ)
  /-- The answer of a thread that has returned. -/
  answer? : π → Option ρ

structure World (σ π : Type) where
  shared : σ
  threads : List π

/-- A thread acts, or a timed wait of it ends. -/
inductive Move where
  | act (thread : ThreadId)
  | expire (thread : ThreadId)
  deriving DecidableEq, Repr

namespace World

variable {σ π ρ : Type}

/-- The world in which thread `me` has moved to `point` and left `shared`. -/
def put (world : World σ π) (me : ThreadId) (moved : π × σ) : World σ π :=
  ⟨moved.2, world.threads.set me moved.1⟩

def act? (machine : Machine σ π ρ) (world : World σ π) (me : ThreadId) :
    Option (World σ π) :=
  world.threads[me]?.bind fun point =>
    (machine.act me point world.shared).map (world.put me)

def expire? (machine : Machine σ π ρ) (world : World σ π) (me : ThreadId) :
    Option (World σ π) :=
  world.threads[me]?.bind fun point =>
    (machine.expire me point world.shared).map (world.put me)

def move? (machine : Machine σ π ρ) (world : World σ π) : Move → Option (World σ π)
  | .act me => world.act? machine me
  | .expire me => world.expire? machine me

/-- Some schedule leads from the first world to the second. -/
inductive Reaches (machine : Machine σ π ρ) (start : World σ π) : World σ π → Prop where
  | refl : Reaches machine start start
  | step {mid last : World σ π} (move : Move) :
      Reaches machine start mid → mid.move? machine move = some last →
      Reaches machine start last

/-- No thread can act: each has returned or is parked. -/
def Quiet (machine : Machine σ π ρ) (world : World σ π) : Prop :=
  ∀ me, world.act? machine me = none

/-- The move of the youngest thread that can act. -/
def next? (machine : Machine σ π ρ) (world : World σ π) : Option (World σ π) :=
  world.threads.zipIdx.reverse.findSome? fun (point, me) =>
    (machine.act me point world.shared).map (world.put me)

theorem next_eq_none_iff_quiet (machine : Machine σ π ρ) (world : World σ π) :
    world.next? machine = none ↔ world.Quiet machine := by
  simp only [next?, List.findSome?_eq_none_iff, List.mem_reverse, Prod.forall,
    List.mem_zipIdx_iff_getElem?, Quiet, act?]
  constructor
  · intro still me
    cases found : world.threads[me]? with
    | none => rfl
    | some point => exact still point me found
  · intro still point me found
    have here := still me
    rw [found] at here
    exact here

theorem next_is_a_move {machine : Machine σ π ρ} {world later : World σ π}
    (moved : world.next? machine = some later) :
    ∃ me, world.act? machine me = some later := by
  obtain ⟨⟨point, me⟩, member, acted⟩ := List.exists_of_findSome?_eq_some moved
  have found : world.threads[me]? = some point := by
    simpa [List.mem_zipIdx_iff_getElem?] using member
  refine ⟨me, ?_⟩
  rw [act?, found]
  exact acted

/-- At most `moves` moves of the schedule. -/
def run (machine : Machine σ π ρ) : Nat → World σ π → World σ π
  | 0, world => world
  | moves + 1, world =>
    match world.next? machine with
    | some later => run machine moves later
    | none => world

/-- How many moves are waited for among so many threads. A call sets off a number
of moves that is small for each thread, or for each two of them. -/
def horizon (threads : Nat) : Nat := 4294967296 * ((threads + 1) * (threads + 1))

/-- The world once nothing moves any more. -/
def settle (machine : Machine σ π ρ) (world : World σ π) : World σ π :=
  world.run machine (horizon world.threads.length)

theorem run_reaches (machine : Machine σ π ρ) (moves : Nat) (world : World σ π) :
    Reaches machine world (world.run machine moves) := by
  have extend : ∀ (moves : Nat) (mid : World σ π), Reaches machine world mid →
      Reaches machine world (mid.run machine moves) := by
    intro moves
    induction moves with
    | zero => intro mid reached; exact reached
    | succ moves ih =>
        intro mid reached
        unfold run
        split
        · next later moved =>
          obtain ⟨me, acted⟩ := next_is_a_move moved
          exact ih later (reached.step (.act me) acted)
        · exact reached
  exact extend moves world .refl

def spawn (world : World σ π) (point : π) : World σ π :=
  ⟨world.shared, world.threads ++ [point]⟩

/-- The answer of thread `me`, if it has returned. -/
def answer? (machine : Machine σ π ρ) (world : World σ π) (me : ThreadId) : Option ρ :=
  world.threads[me]?.bind machine.answer?

end World

/-- What is seen of one call once everything is quiet again: its own answer,
`none` while it is parked; the earlier callers that it released; and the
callers that are parked now. -/
structure Report (ρ : Type) where
  answer : Option ρ
  released : List (ThreadId × ρ)
  waiting : List ThreadId

namespace World

variable {σ π ρ : Type}

/-- Compares the threads before and after a call of thread `me`. -/
def report (machine : Machine σ π ρ) (before after : World σ π) (me : ThreadId) : Report ρ where
  answer := after.answer? machine me
  released := (before.threads.zip after.threads).zipIdx.filterMap fun ((old, new), other) =>
    match machine.answer? old, machine.answer? new with
    | none, some answer => some (other, answer)
    | _, _ => none
  waiting := after.threads.zipIdx.filterMap fun (point, other) =>
    if (machine.answer? point).isNone then some other else none

/-- A call that waits as long as it has to. -/
def issue (machine : Machine σ π ρ) (point : π) (world : World σ π) : World σ π × Report ρ :=
  let after := (world.spawn point).settle machine
  (after, world.report machine after world.threads.length)

/-- A call whose wait, if it comes to that, ends before anybody else calls. -/
def issueBriefly (machine : Machine σ π ρ) (point : π) (world : World σ π) :
    World σ π × Report ρ :=
  let me := world.threads.length
  let parked := (world.spawn point).settle machine
  let after := ((parked.expire? machine me).map (settle machine)).getD parked
  (after, world.report machine after me)

/-- Nobody calls: the threads that can still move do so. -/
def observe (machine : Machine σ π ρ) (world : World σ π) : World σ π × Report ρ :=
  let after := world.settle machine
  (after, world.report machine after world.threads.length)

end World

end Turnstile
