import Turnstile.Pool.Owner
import Turnstile.Proofs.Pool.Drained

/-!
# Giving a pool up

What the owner of a pool does to it are calls of the pool and the dropping of handles:
seen without the handles and without the phase that the owner is in, a step of an owned
pool is a step of the pool, or none at all, and may have dropped a handle besides. So a
pool that was given up has come to its end when the call returns, whether it was dropped
or shut down.
-/

namespace Turnstile.Pool.Owned

set_option autoImplicit false

variable {α : Type} {me : ThreadId} {world later first last : World (Owned α) (Point α)}
  {config : Config}

/-- Where a thread of an owned pool is in the pool, or is about to begin there. -/
def Point.within : Point α → Pool.Point α
  | .join _ ticket => begin (.wait ticket)
  | .close _ => begin .close
  | .inPool _ point => point

/-- An owned pool without what belongs to the owner alone. -/
def view (world : World (Owned α) (Point α)) : Running α :=
  ⟨world.shared.pool, world.threads.map Point.within⟩

/-- The same pool, in which at most one more handle was dropped. -/
def Follows (mid last : Running α) : Prop :=
  last = mid ∨ ∃ ticket, last = ⟨mid.shared.heed (.forgo ticket), mid.threads⟩

theorem pool_dropHandle (name : String) (owned : Owned α) :
    (owned.dropHandle name).pool = owned.pool ∨
      ∃ ticket, (owned.dropHandle name).pool = owned.pool.heed (.forgo ticket) := by
  unfold dropHandle
  cases owned.handle? name with
  | none => exact .inl rfl
  | some ticket => exact .inr ⟨ticket, rfl⟩

theorem pool_afterCall (handle : Option String) (owned : Owned α) (answer : Option (Answer α)) :
    (afterCall handle owned answer).pool = owned.pool ∨
      ∃ ticket, (afterCall handle owned answer).pool = owned.pool.heed (.forgo ticket) := by
  unfold afterCall
  split
  · split
    · next name => exact pool_dropHandle name owned
    · exact .inl rfl
  · exact .inl rfl
  · exact .inl rfl

theorem view_put (world : World (Owned α) (Point α)) (me : ThreadId) (handle : Option String)
    (moved : Pool.Point α × Pool α) :
    Follows ((view world).put me moved) (view (world.put me (inside handle world.shared moved))) := by
  simp only [view, World.put, inside, List.map_set, Point.within]
  rcases pool_afterCall handle { world.shared with pool := moved.2 } (answer? moved.1) with
    same | ⟨ticket, same⟩
  · exact .inl (by rw [same])
  · exact .inr ⟨ticket, by rw [same]⟩

theorem view_put_of_same {old new : Point α} {owned : Owned α}
    (found : world.threads[me]? = some old) (same : new.within = old.within)
    (untouched : owned.pool = world.shared.pool) :
    view (world.put me (new, owned)) = view world := by
  have here : (world.threads.map Point.within)[me]? = some old.within := by
    rw [List.getElem?_map, found]
    rfl
  simp only [view, World.put, List.map_set, same, untouched, World.set_self here]

theorem found_within {handle : Option String} {point : Pool.Point α}
    (found : world.threads[me]? = some (.inPool handle point)) :
    (view world).threads[me]? = some point := by
  rw [view, List.getElem?_map, found]
  rfl

theorem view_act (acted : world.act? (machine α) me = some later) :
    view later = view world ∨
      ∃ mid, (view world).act? (Pool.machine α) me = some mid ∧ Follows mid (view later) := by
  rw [World.act?, Option.bind_eq_some_iff] at acted
  obtain ⟨old, found, acted⟩ := acted
  rw [Option.map_eq_some_iff] at acted
  obtain ⟨moved, acted, rfl⟩ := acted
  cases old with
  | join name ticket =>
      cases acted
      exact .inl (view_put_of_same found rfl rfl)
  | close phase =>
      cases acted
      exact .inl (view_put_of_same found rfl rfl)
  | inPool handle point =>
      obtain ⟨within, inner, rfl⟩ := Option.map_eq_some_iff.mp acted
      refine .inr ⟨(view world).put me within, ?_, view_put world me handle within⟩
      rw [World.act?, found_within found, Option.bind_some]
      exact Option.map_eq_some_iff.mpr ⟨within, inner, rfl⟩

theorem view_expire (expired : world.expire? (machine α) me = some later) :
    ∃ mid, (view world).expire? (Pool.machine α) me = some mid ∧ Follows mid (view later) := by
  rw [World.expire?, Option.bind_eq_some_iff] at expired
  obtain ⟨old, found, expired⟩ := expired
  rw [Option.map_eq_some_iff] at expired
  obtain ⟨moved, expired, rfl⟩ := expired
  cases old with
  | join name ticket => cases expired
  | close phase => cases expired
  | inPool handle point =>
      obtain ⟨within, inner, rfl⟩ := Option.map_eq_some_iff.mp expired
      refine ⟨(view world).put me within, ?_, view_put world me handle within⟩
      rw [World.expire?, found_within found, Option.bind_some]
      exact Option.map_eq_some_iff.mpr ⟨within, inner, rfl⟩

theorem eq_of_withPool {owned : Owned α} {point granted : Point α}
    (allowed : owned.withPool point = .ok granted) : granted = point := by
  unfold withPool at allowed
  split at allowed
  · cases allowed
  · cases allowed
    rfl

theorem exists_of_withHandle {owned : Owned α} {name : String} {point : Task.Ticket → Point α}
    {granted : Point α}
    (allowed : (owned.withHandle name).bind (fun ticket => .ok (point ticket)) = .ok granted) :
    ∃ ticket, granted = point ticket := by
  cases held : owned.withHandle name with
  | error refusal =>
      rw [held] at allowed
      cases allowed
  | ok ticket =>
      rw [held] at allowed
      cases allowed
      exact ⟨ticket, rfl⟩

theorem within_of_request {asked : Request α} {point : Point α}
    (granted : request world asked = .ok point) : ∃ made, point.within = begin made := by
  cases asked with
  | submit body =>
      obtain rfl := eq_of_withPool granted
      exact ⟨.submit body, rfl⟩
  | submitTo worker body =>
      obtain rfl := eq_of_withPool granted
      exact ⟨.submitTo worker body, rfl⟩
  | submitAs name body =>
      obtain rfl := eq_of_withPool granted
      exact ⟨.submit body, rfl⟩
  | tryJoin name =>
      obtain ⟨ticket, rfl⟩ := exists_of_withHandle granted
      exact ⟨.ask ticket, rfl⟩
  | join name =>
      obtain ⟨ticket, rfl⟩ := exists_of_withHandle granted
      exact ⟨.wait ticket, rfl⟩
  | joinBriefly name =>
      obtain ⟨ticket, rfl⟩ := exists_of_withHandle granted
      exact ⟨.waitBriefly ticket, rfl⟩
  | drop =>
      simp only [request] at granted
      split at granted
      · cases granted
      · cases granted
      · split at granted
        · cases granted
        · cases granted
          exact ⟨.close, rfl⟩
  | shutdown =>
      simp only [request] at granted
      split at granted
      · cases granted
      · cases granted
      · split at granted
        · cases granted
        · cases granted
          exact ⟨.close, rfl⟩

/-- What can happen in an owned pool. -/
inductive Step (world : World (Owned α) (Point α)) : World (Owned α) (Point α) → Prop where
  | act {later : World (Owned α) (Point α)} (me : ThreadId)
      (acted : world.act? (machine α) me = some later) : Step world later
  | expire {later : World (Owned α) (Point α)} (me : ThreadId)
      (expired : world.expire? (machine α) me = some later) : Step world later
  | ask {point : Point α} (asked : Request α) (granted : request world asked = .ok point) :
      Step world (world.spawn point)
  | openGate (gate : String) : Step world ⟨world.shared.openGate gate, world.threads⟩
  | dropHandle (name : String) : Step world ⟨world.shared.dropHandle name, world.threads⟩

inductive Run (first : World (Owned α) (Point α)) : World (Owned α) (Point α) → Prop where
  | refl : Run first first
  | step {mid last : World (Owned α) (Point α)} : Run first mid → Step mid last →
      Calm (view last) → Run first last

theorem view_step (step : Step world later) :
    ∃ mid, (mid = view world ∨ Pool.Step (view world) mid) ∧ Follows mid (view later) := by
  cases step with
  | act me acted =>
      rcases view_act acted with same | ⟨mid, acted, follows⟩
      · exact ⟨view world, .inl rfl, .inl same⟩
      · exact ⟨mid, .inr (.act me acted), follows⟩
  | expire me expired =>
      obtain ⟨mid, expired, follows⟩ := view_expire expired
      exact ⟨mid, .inr (.expire me expired), follows⟩
  | @ask point asked granted =>
      obtain ⟨made, same⟩ := within_of_request granted
      have spawned : view (world.spawn point) = (view world).spawn (begin made) := by
        simp only [view, World.spawn, List.map_append, List.map_cons, List.map_nil, same]
      rw [spawned]
      exact ⟨_, .inr (.call made), .inl rfl⟩
  | openGate gate => exact ⟨_, .inr (.heed (.openGate gate)), .inl rfl⟩
  | dropHandle name =>
      refine ⟨view world, .inl rfl, ?_⟩
      simp only [view]
      rcases pool_dropHandle name world.shared with same | ⟨ticket, same⟩
      · exact .inl (by rw [same])
      · exact .inr ⟨ticket, by rw [same]⟩

theorem Follows.calm {mid last : Running α} (follows : Follows mid last) (calm : Calm last) :
    Calm mid := by
  rcases follows with rfl | ⟨ticket, rfl⟩
  · exact calm
  · intro point member
    have still := calm point member
    match point with
    | .worker (.deliver other (.ok result)) =>
        simp only [Pool.Point.explodes, Worker.explodes, Worker.bursts, heed] at still ⊢
        cases before : mid.shared.isForgone other with
        | false => rfl
        | true => simpa [before] using still
    | .worker (.deliver _ (.error _)) => exact still
    | .worker .start | .worker (.look _) | .worker (.countTheft _ _) | .worker .sleep
    | .worker .checkClosed | .worker .checkEmpty | .worker (.run _) | .worker (.post _ _)
    | .worker (.countPanic _ _) | .worker (.countRun _) | .worker (.perish _) | .worker .leave
    | .worker .gone | .submission _ | .inquiry _ | .closing _ => rfl

theorem view_run (run : Run first last) : Pool.Run (view first) (view last) := by
  induction run with
  | refl => exact .refl
  | step _ step calm ih =>
      obtain ⟨mid, step, follows⟩ := view_step step
      have run : Pool.Run (view first) mid := by
        rcases step with rfl | step
        · exact ih
        · exact .step ih step (follows.calm calm)
      rcases follows with same | ⟨ticket, same⟩
      · rwa [same]
      · rw [same] at calm ⊢
        exact .step run (.heed (.forgo ticket)) calm

theorem view_ofRunning (world : Running α) : view (ofRunning world) = world := by
  have same : Point.within ∘ Point.inPool none = (id : Pool.Point α → Pool.Point α) := by
    funext point
    rfl
  simp only [view, ofRunning, List.map_map, same, List.map_id]

theorem drained_of_given_up {pool : Running α} (opened : start config = .ok pool)
    (run : Run (ofRunning pool) world) {closer : ThreadId} {handle : Option String}
    (found : world.threads[closer]? = some (.inPool handle (.closing .done))) :
    Drained config (view world) := by
  have within : Pool.Run pool (view world) := by
    have within := view_run run
    rwa [view_ofRunning] at within
  exact ((Lawful.start opened).run within).drained (found_within found)

end Turnstile.Pool.Owned
