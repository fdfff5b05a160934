import Turnstile.Proofs.Renaming

/-!
# Calls that fail and leave no trace

A `Session` is a primitive in use, one call at a time: every call, and every timed wait that
runs out, has come to rest before the next. In such a world only the thread of a new call can
act, and so what an attempt does can be followed step by step: `Traceless` says that on every
way it takes nobody else is set going, and that wherever it ends in a failure the shared state
is the one it began with. `unnoticed_of_traceless` draws the conclusion for everybody else:
the attempt has left nothing behind but a thread that has returned, and whatever can be done
after it can be done without it.
-/

namespace Turnstile.World

set_option autoImplicit false

variable {σ π ρ : Type} {machine : Machine σ π ρ} {fresh : σ → Prop} {call : π → Prop}
  {failure : ρ → Prop} {rename : (ThreadId → ThreadId) → σ → σ}
  {before mid last : World σ π} {point new : π} {shared changed : σ} {answer : ρ}

/-- The worlds that calls lead to that are made one at a time. -/
inductive Session (machine : Machine σ π ρ) (fresh : σ → Prop) (call : π → Prop) :
    World σ π → Prop where
  | fresh {shared : σ} (unused : fresh shared) : Session machine fresh call ⟨shared, []⟩
  | call {before last : World σ π} {point : π} (session : Session machine fresh call before)
      (begun : call point) (settles : (before.spawn point).Settles machine last) :
      Session machine fresh call last
  | lapse {before mid last : World σ π} {me : ThreadId}
      (session : Session machine fresh call before)
      (lapsed : before.expire? machine me = some mid) (settles : mid.Settles machine last) :
      Session machine fresh call last

/-- A call to its end, which comes by itself, or when the wait of the call runs out before
anything else happens. -/
inductive Briefly (machine : Machine σ π ρ) (before : World σ π) (point : π) :
    World σ π → Prop where
  | rests {last : World σ π} (settles : (before.spawn point).Settles machine last) :
      Briefly machine before point last
  | lapses {mid parked last : World σ π} (parks : (before.spawn point).Settles machine parked)
      (lapsed : parked.expire? machine before.threads.length = some mid)
      (settles : mid.Settles machine last) : Briefly machine before point last

theorem Session.quiet (session : Session machine fresh call before) : before.Quiet machine := by
  cases session with
  | fresh => exact quiet_of_still fun me point found => by cases found
  | call _ _ settles => exact settles.quiet
  | lapse _ _ settles => exact settles.quiet

theorem Session.known (impartial : machine.Impartial rename)
    (nameless : ∀ shared, fresh shared → ∀ f, rename f shared = shared)
    (session : Session machine fresh call before) : before.Known rename := by
  induction session with
  | fresh unused => exact fun f _ _ => nameless _ unused f
  | call _ _ settles ih => exact (ih.spawn _).settles impartial settles
  | lapse _ lapsed settles ih => exact (ih.expire impartial lapsed).settles impartial settles

/-- None of the threads can act in the given state. -/
def Still (machine : Machine σ π ρ) (threads : List π) (shared : σ) : Prop :=
  ∀ (other : ThreadId) (there : π), threads[other]? = some there →
    machine.act other there shared = none

/-- On every way that the newest thread can take from here it alone can act, and where it
fails the shared state is as it was. -/
inductive Traceless (machine : Machine σ π ρ) (failure : ρ → Prop) (before : World σ π) :
    π → σ → Prop where
  | step {point new : π} {shared changed : σ} (still : Still machine before.threads shared)
      (acted : machine.act before.threads.length point shared = some (new, changed))
      (rest : Traceless machine failure before new changed) :
      Traceless machine failure before point shared
  | parks {point : π} {shared : σ} (still : Still machine before.threads shared)
      (asleep : machine.act before.threads.length point shared = none)
      (unanswered : machine.answer? point = none)
      (lapse : ∀ (new : π) (changed : σ),
        machine.expire before.threads.length point shared = some (new, changed) →
        Traceless machine failure before new changed) :
      Traceless machine failure before point shared
  | answers {point : π} {shared : σ} {answer : ρ}
      (answered : machine.answer? point = some answer)
      (restored : failure answer → shared = before.shared) :
      Traceless machine failure before point shared

/-- Where the newest thread of a traceless attempt is once nobody can act. -/
inductive Ended (machine : Machine σ π ρ) (failure : ρ → Prop) (before : World σ π) :
    World σ π → Prop where
  | failed {point : π} {answer : ρ} (answered : machine.answer? point = some answer) :
      Ended machine failure before ⟨before.shared, before.threads ++ [point]⟩
  | succeeded {last : World σ π} {answer : ρ}
      (answered : last.answer? machine before.threads.length = some answer)
      (success : ¬ failure answer) : Ended machine failure before last
  | parked {point : π} {shared : σ} (unanswered : machine.answer? point = none)
      (lapse : ∀ (new : π) (changed : σ),
        machine.expire before.threads.length point shared = some (new, changed) →
        Traceless machine failure before new changed) :
      Ended machine failure before ⟨shared, before.threads ++ [point]⟩

theorem found_newest (threads : List π) (point : π) :
    (threads ++ [point])[threads.length]? = some point := by
  rw [List.getElem?_append_right (Nat.le_refl _), Nat.sub_self]
  rfl

theorem set_newest (threads : List π) (point new : π) :
    (threads ++ [point]).set threads.length new = threads ++ [new] := by
  rw [List.set_append_right _ _ (Nat.le_refl _), Nat.sub_self, List.set_cons_zero]

theorem quiet_newest (still : Still machine before.threads shared)
    (asleep : machine.act before.threads.length point shared = none) :
    Quiet machine ⟨shared, before.threads ++ [point]⟩ := by
  intro other
  by_cases newest : other = before.threads.length
  · subst newest
    exact act_eq_none_of_found (found_newest _ _) asleep
  · exact Alone.newest still point other newest

/-- After a failed attempt the shared state and the other threads are as before it, and what
can be done next is what could be done without it. -/
structure Unnoticed (machine : Machine σ π ρ) (rename : (ThreadId → ThreadId) → σ → σ)
    (before : World σ π) (point : π) (last : World σ π) : Prop where
  shared : last.shared = before.shared
  threads : last.threads = before.threads ++ [point]
  continues : ∀ (deeds : List (Deed π)) (later : World σ π),
    last.follow? machine deeds = some later ↔
      ∃ originals final, originals.map (Deed.rename (skip before.threads.length)) = deeds ∧
        before.follow? machine originals = some final ∧
          final.beside rename before.threads.length point = later

section

variable (inert : ∀ (point : π) (answer : ρ), machine.answer? point = some answer →
  Inert machine point)

include inert in
theorem surely_answered {me : ThreadId} (found : mid.threads[me]? = some point)
    (answered : machine.answer? point = some answer) :
    mid.Surely machine fun last => last.answer? machine me = some answer := by
  have stays (world later : World σ π) (found : world.threads[me]? = some point)
      (acts : world.Acts machine later) : later.threads[me]? = some point := by
    obtain ⟨other, moved⟩ := acts
    obtain ⟨there, new, changed, foundThere, acted, rfl⟩ := act_eq_some_iff.mp moved
    by_cases same : other = me
    · subst same
      obtain rfl := Option.some.inj (foundThere.symm.trans found)
      rw [(inert _ _ answered _ _).1] at acted
      cases acted
    · rwa [put, List.getElem?_set_ne same]
  refine .of_kept stays found fun last found _ => ?_
  rw [answer?, found]
  exact answered

include inert in
theorem Traceless.ends (quiet : before.Quiet machine)
    (traceless : Traceless machine failure before point shared) :
    Surely machine (Ended machine failure before) ⟨shared, before.threads ++ [point]⟩ := by
  induction traceless with
  | step still acted _ ih =>
      refine (Alone.newest still _).surely (found_newest _ _) acted ?_
      rw [set_newest]
      exact ih
  | parks still asleep unanswered lapse =>
      exact .of_quiet (quiet_newest still asleep) (.parked unanswered lapse)
  | @answers point shared answer answered restored =>
      by_cases fails : failure answer
      · obtain rfl := restored fails
        have still : Still machine before.threads before.shared :=
          fun _ _ found => still_of_quiet quiet found
        exact .of_quiet (quiet_newest still (inert _ _ answered _ _).1) (.failed answered)
      · exact (surely_answered inert (found_newest before.threads point) answered).mono
          fun _ _ answered => .succeeded answered fails

theorem Ended.of_failure (ended : Ended machine failure before last)
    (answered : last.answer? machine before.threads.length = some answer)
    (fails : failure answer) : ∃ point, machine.answer? point = some answer ∧
      last = ⟨before.shared, before.threads ++ [point]⟩ := by
  cases ended with
  | failed =>
      rw [answer?, found_newest] at answered
      exact ⟨_, answered, rfl⟩
  | succeeded given success =>
      rw [given] at answered
      cases answered
      exact absurd fails success
  | parked unanswered =>
      rw [answer?, found_newest, Option.bind_some, unanswered] at answered
      cases answered

include inert in
theorem Ended.lapse (ended : Ended machine failure before mid)
    (lapsed : mid.expire? machine before.threads.length = some last) :
    ∃ new changed, last = ⟨changed, before.threads ++ [new]⟩ ∧
      Traceless machine failure before new changed := by
  obtain ⟨point, new, changed, found, expired, rfl⟩ := expire_eq_some_iff.mp lapsed
  cases ended with
  | failed answered =>
      obtain rfl := Option.some.inj ((found_newest _ _).symm.trans found)
      rw [(inert _ _ answered _ _).2] at expired
      cases expired
  | succeeded given =>
      rw [answer?, found] at given
      rw [(inert _ _ given _ _).2] at expired
      cases expired
  | parked _ lapse =>
      obtain rfl := Option.some.inj ((found_newest _ _).symm.trans found)
      exact ⟨new, changed, by rw [put, set_newest], lapse new changed expired⟩

include inert in
theorem Traceless.restores (quiet : before.Quiet machine)
    (traceless : Traceless machine failure before point before.shared)
    (briefly : Briefly machine before point last)
    (answered : last.answer? machine before.threads.length = some answer)
    (fails : failure answer) : ∃ point, machine.answer? point = some answer ∧
      last = ⟨before.shared, before.threads ++ [point]⟩ := by
  have ends := traceless.ends inert quiet
  cases briefly with
  | rests settles => exact (ends last settles).of_failure answered fails
  | lapses parks lapsed settles =>
      obtain ⟨new, changed, rfl, rest⟩ := (ends _ parks).lapse inert lapsed
      exact (rest.ends inert quiet last settles).of_failure answered fails

include inert in
theorem unnoticed_of_traceless (impartial : machine.Impartial rename) (known : before.Known rename)
    (quiet : before.Quiet machine)
    (traceless : Traceless machine failure before point before.shared)
    (briefly : Briefly machine before point last)
    (answered : last.answer? machine before.threads.length = some answer)
    (fails : failure answer) : ∃ point, machine.answer? point = some answer ∧
      Unnoticed machine rename before point last := by
  obtain ⟨point, given, rfl⟩ := traceless.restores inert quiet briefly answered fails
  refine ⟨point, given, rfl, rfl, fun deeds later => ?_⟩
  rw [known.append_eq_beside point]
  exact follow_beside_iff impartial (Nat.le_refl _) (inert point answer given)

end

end Turnstile.World
