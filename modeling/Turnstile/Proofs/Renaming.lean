import Turnstile.Proofs.Schedule

/-!
# Threads under other numbers

A thread is told from another only by its number, and numbers are only compared. A machine
is `Impartial` if it does the same whatever the numbers are: where all threads are renamed,
in the shared state and wherever they act, every action goes as before. From that follows
what a thread that has returned means to everybody else. `beside` puts one more thread into
a world, so that whoever comes after it has the next higher number, and `follow_beside_iff`
says that beside a thread that does nothing any more the others go through the same calls,
actions and lapses as without it.
-/

namespace Turnstile

set_option autoImplicit false

variable {σ π ρ : Type}

/-- The machine tells no thread from another; `rename` gives the threads that a shared state
names other numbers. -/
structure Machine.Impartial (machine : Machine σ π ρ)
    (rename : (ThreadId → ThreadId) → σ → σ) : Prop where
  act : ∀ {f : ThreadId → ThreadId}, Function.Injective f →
    ∀ (me : ThreadId) (point : π) (shared : σ), machine.act (f me) point (rename f shared) =
      (machine.act me point shared).map (Prod.map id (rename f))
  expire : ∀ {f : ThreadId → ThreadId}, Function.Injective f →
    ∀ (me : ThreadId) (point : π) (shared : σ), machine.expire (f me) point (rename f shared) =
      (machine.expire me point shared).map (Prod.map id (rename f))

/-- The numbers with one of them left out. -/
def skip (place me : Nat) : Nat := if me < place then me else me + 1

section

variable {place me other : Nat}

theorem skip_injective (place : Nat) : Function.Injective (skip place) := by
  intro first second same
  unfold skip at same
  split at same <;> split at same <;> omega

theorem skip_ne (place me : Nat) : skip place me ≠ place := by
  unfold skip
  split <;> omega

theorem skip_of_lt (earlier : me < place) : skip place me = me := if_pos earlier

theorem skip_succ (place me : Nat) : skip (place + 1) (me + 1) = skip place me + 1 := by
  unfold skip
  split <;> split <;> omega

theorem exists_skip_of_ne (apart : other ≠ place) : ∃ me, skip place me = other := by
  by_cases earlier : other < place
  · exact ⟨other, skip_of_lt earlier⟩
  · refine ⟨other - 1, ?_⟩
    rw [skip, if_neg (by omega)]
    omega

end

/-- Something that happens to a world: a call is begun, or a thread moves. -/
inductive Deed (π : Type) where
  | call (point : π)
  | move (move : Move)
  deriving DecidableEq, Repr

def Move.rename (f : ThreadId → ThreadId) : Move → Move
  | .act me => .act (f me)
  | .expire me => .expire (f me)

def Deed.rename (f : ThreadId → ThreadId) : Deed π → Deed π
  | .call point => .call point
  | .move step => .move (step.rename f)

namespace World

variable {machine : Machine σ π ρ} {rename : (ThreadId → ThreadId) → σ → σ}
  {world later : World σ π} {point new : π} {shared changed : σ} {deed : Deed π}
  {place me : ThreadId}

/-- The world after a deed, `none` if it cannot be done. -/
def deed? (machine : Machine σ π ρ) (world : World σ π) : Deed π → Option (World σ π)
  | .call point => some (world.spawn point)
  | .move step => world.move? machine step

def follow? (machine : Machine σ π ρ) : List (Deed π) → World σ π → Option (World σ π)
  | [], world => some world
  | deed :: deeds, world => (world.deed? machine deed).bind (follow? machine deeds)

/-- The world with one more thread, at `point`, among its threads. -/
def beside (rename : (ThreadId → ThreadId) → σ → σ) (place : ThreadId) (point : π)
    (world : World σ π) : World σ π :=
  ⟨rename (skip place) world.shared, world.threads.insertIdx place point⟩

/-! ## One thread more -/

theorem insertIdx_set (threads : List π) (place me : Nat) (point new : π) :
    (threads.insertIdx place point).set (skip place me) new =
      (threads.set me new).insertIdx place point := by
  induction place generalizing threads me with
  | zero => rfl
  | succ place ih =>
      cases threads with
      | nil => rfl
      | cons first rest =>
          cases me with
          | zero => rfl
          | succ me =>
              rw [skip_succ, List.insertIdx_succ_cons, List.set_cons_succ, List.set_cons_succ,
                List.insertIdx_succ_cons, ih]

theorem insertIdx_append_singleton (threads : List π) (bound : place ≤ threads.length)
    (point new : π) : threads.insertIdx place point ++ [new] =
      (threads ++ [new]).insertIdx place point := by
  induction threads generalizing place with
  | nil =>
      obtain rfl := Nat.le_zero.mp bound
      rfl
  | cons first rest ih =>
      cases place with
      | zero => rfl
      | succ place =>
          rw [List.insertIdx_succ_cons, List.cons_append, ih (Nat.le_of_succ_le_succ bound)]
          rfl

theorem found_beside (me : ThreadId) :
    (world.beside rename place point).threads[skip place me]? = world.threads[me]? := by
  unfold beside skip
  split
  · next earlier => exact List.getElem?_insertIdx_of_lt earlier
  · next later =>
    exact List.getElem?_insertIdx_of_gt (Nat.lt_succ_of_le (Nat.not_lt.mp later))

theorem found_beside_self (bound : place ≤ world.threads.length) :
    (world.beside rename place point).threads[place]? = some point := by
  rw [beside, List.getElem?_insertIdx_self, if_pos bound]

theorem step_beside {step : ThreadId → π → σ → Option (π × σ)} (me : ThreadId)
    (alike : ∀ old, step (skip place me) old (rename (skip place) world.shared) =
      (step me old world.shared).map (Prod.map id (rename (skip place)))) :
    ((world.beside rename place point).threads[skip place me]?.bind fun old =>
        (step (skip place me) old (rename (skip place) world.shared)).map
          ((world.beside rename place point).put (skip place me))) =
      (world.threads[me]?.bind fun old => (step me old world.shared).map (world.put me)).map
        (beside rename place point) := by
  rw [found_beside me, Option.map_bind]
  refine congrArg _ (funext fun old => ?_)
  rw [alike old, Option.map_map, Function.comp_apply, Option.map_map]
  refine congrFun (congrArg _ (funext fun moved => ?_)) _
  simp only [Function.comp_apply, put, beside, Prod.map_fst, Prod.map_snd, id_eq,
    insertIdx_set]

variable (impartial : machine.Impartial rename) (bound : place ≤ world.threads.length)

include impartial bound in
theorem deed_beside (deed : Deed π) :
    (world.beside rename place point).deed? machine (deed.rename (skip place)) =
      (world.deed? machine deed).map (beside rename place point) := by
  cases deed with
  | call new => exact congrArg some (congrArg _ (insertIdx_append_singleton _ bound point new))
  | move step =>
      cases step with
      | act me => exact step_beside me (impartial.act (skip_injective place) me · _)
      | expire me => exact step_beside me (impartial.expire (skip_injective place) me · _)

theorem length_deed (done : world.deed? machine deed = some later) :
    world.threads.length ≤ later.threads.length := by
  cases deed with
  | call point =>
      cases done
      simp [spawn]
  | move step =>
      cases step with
      | act me =>
          obtain ⟨_, _, _, _, _, rfl⟩ := act_eq_some_iff.mp done
          simp [put]
      | expire me =>
          obtain ⟨_, _, _, _, _, rfl⟩ := expire_eq_some_iff.mp done
          simp [put]

/-- The thread takes no part in anything: it neither acts, nor does a wait of it end. -/
def Inert (machine : Machine σ π ρ) (point : π) : Prop :=
  ∀ me shared, machine.act me point shared = none ∧ machine.expire me point shared = none

include bound in
theorem exists_rename_of_deed (inert : Inert machine point)
    (done : (world.beside rename place point).deed? machine deed = some later) :
    ∃ original : Deed π, original.rename (skip place) = deed := by
  have others (me : ThreadId) (step : ThreadId → π → σ → Option (π × σ))
      (none : ∀ shared, step place point shared = none)
      (some : ((world.beside rename place point).threads[me]?.bind fun old =>
        (step me old (world.beside rename place point).shared).map
          ((world.beside rename place point).put me)) = some later) :
      ∃ original, skip place original = me := by
    apply exists_skip_of_ne
    rintro rfl
    rw [found_beside_self bound, Option.bind_some, none] at some
    cases some
  cases deed with
  | call new => exact ⟨.call new, rfl⟩
  | move step =>
      cases step with
      | act me =>
          obtain ⟨original, rfl⟩ := others me machine.act (fun _ => (inert _ _).1) done
          exact ⟨.move (.act original), rfl⟩
      | expire me =>
          obtain ⟨original, rfl⟩ := others me machine.expire (fun _ => (inert _ _).2) done
          exact ⟨.move (.expire original), rfl⟩

include impartial bound in
theorem follow_beside_iff (inert : Inert machine point) {deeds : List (Deed π)} :
    (world.beside rename place point).follow? machine deeds = some later ↔
      ∃ originals last, originals.map (Deed.rename (skip place)) = deeds ∧
        world.follow? machine originals = some last ∧ last.beside rename place point = later := by
  induction deeds generalizing world with
  | nil =>
      constructor
      · intro done
        cases done
        exact ⟨[], world, rfl, rfl, rfl⟩
      · rintro ⟨originals, last, renamed, done, rfl⟩
        obtain rfl := List.map_eq_nil_iff.mp renamed
        cases done
        rfl
  | cons deed deeds ih =>
      constructor
      · intro done
        obtain ⟨next, first, rest⟩ := Option.bind_eq_some_iff.mp done
        obtain ⟨original, rfl⟩ := exists_rename_of_deed bound inert first
        rw [deed_beside impartial bound, Option.map_eq_some_iff] at first
        obtain ⟨mid, begun, rfl⟩ := first
        obtain ⟨originals, last, rfl, goesOn, rfl⟩ :=
          (ih (Nat.le_trans bound (length_deed begun))).mp rest
        refine ⟨original :: originals, last, rfl, ?_, rfl⟩
        rw [follow?, begun]
        exact goesOn
      · rintro ⟨originals, last, renamed, done, rfl⟩
        obtain ⟨original, originals, rfl, rfl, rfl⟩ := List.map_eq_cons_iff.mp renamed
        obtain ⟨mid, begun, goesOn⟩ := Option.bind_eq_some_iff.mp done
        rw [follow?, deed_beside impartial bound, begun]
        exact (ih (Nat.le_trans bound (length_deed begun))).mpr
          ⟨originals, last, rfl, goesOn, rfl⟩

/-! ## The threads that a shared state names -/

/-- The shared state names only threads that have been started. -/
def Known (rename : (ThreadId → ThreadId) → σ → σ) (world : World σ π) : Prop :=
  ∀ f : ThreadId → ThreadId, Function.Injective f → (∀ me < world.threads.length, f me = me) →
    rename f world.shared = world.shared

namespace Known

variable (known : world.Known rename)

include known in
theorem spawn (point : π) : (world.spawn point).Known rename := by
  intro f injective fixed
  refine known f injective fun me bound => fixed me ?_
  rw [World.spawn, List.length_append]
  exact Nat.lt_add_right _ bound

include known in
theorem put {step : ThreadId → π → σ → Option (π × σ)} {old : π}
    (alike : ∀ f : ThreadId → ThreadId, Function.Injective f →
      step (f me) old (rename f world.shared) =
        (step me old world.shared).map (Prod.map id (rename f)))
    (found : world.threads[me]? = some old)
    (stepped : step me old world.shared = some (new, changed)) :
    (world.put me (new, changed)).Known rename := by
  intro f injective fixed
  rw [World.put, List.length_set] at fixed
  obtain ⟨bound, _⟩ := List.getElem?_eq_some_iff.mp found
  have same := alike f injective
  rw [known f injective fixed, fixed me bound, stepped, Option.map_some] at same
  exact (Prod.mk.inj (Option.some.inj same)).2.symm

include known in
theorem act (impartial : machine.Impartial rename) (moved : world.act? machine me = some later) :
    later.Known rename := by
  obtain ⟨point, new, changed, found, acted, rfl⟩ := act_eq_some_iff.mp moved
  exact known.put (fun f injective => impartial.act injective me point _) found acted

include known in
theorem expire (impartial : machine.Impartial rename)
    (moved : world.expire? machine me = some later) : later.Known rename := by
  obtain ⟨point, new, changed, found, expired, rfl⟩ := expire_eq_some_iff.mp moved
  exact known.put (fun f injective => impartial.expire injective me point _) found expired

include known in
theorem settles (impartial : machine.Impartial rename) (settles : world.Settles machine later) :
    later.Known rename := by
  suffices along : ∀ later, Relation.ReflTransGen (Acts machine) world later →
      later.Known rename from along later settles.acts
  intro later acts
  induction acts with
  | refl => exact known
  | tail _ acts ih =>
      obtain ⟨me, acted⟩ := acts
      exact ih.act impartial acted

include known in
theorem append_eq_beside (point : π) :
    World.mk world.shared (world.threads ++ [point]) =
      world.beside rename world.threads.length point := by
  rw [beside, List.insertIdx_length_self,
    known _ (skip_injective _) fun me bound => skip_of_lt bound]

end Known

end World

end Turnstile
