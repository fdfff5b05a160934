import Turnstile.Proofs.Queue.Resting

/-!
# What each request of a queue sets off

For every request the callers come to rest where the `Fifo` has them, in whatever order
they act. A push or a pop goes through on its own and wakes at most one caller of the
other line, which goes through as well. Closing wakes one caller of each line, and each
of them wakes the next: `Dispersing` holds all along, and where nobody can act it leaves
nobody in a line.
-/

namespace Turnstile.Queue

set_option autoImplicit false

open World (total)

variable {α : Type} {fifo : Fifo α} {outcome : Outcome α} {queue : Queue α}
  {before : World (Queue α) (Point α)} {me : ThreadId} {item : α} {point : Point α}

/-! ## What the outcomes leave of the lines -/

theorem Follows.of_none (released : outcome.released = [])
    (pushers : ∀ me item, (me, item) ∈ fifo.pushers → (me, item) ∈ outcome.fifo.pushers)
    (poppers : ∀ me, me ∈ fifo.poppers → me ∈ outcome.fifo.poppers) : Follows fifo outcome := by
  refine ⟨?_, ?_, fun me item member _ => pushers me item member, fun me member _ => poppers me member⟩
  · intro me answer member
    rw [released] at member
    cases member
  · rw [released]
    exact .nil

namespace Fifo

theorem accept_follows (item : α) (fifo : Fifo α) : Follows fifo (fifo.accept item) := by
  unfold accept
  split
  · next popper rest poppers =>
    refine ⟨?_, by simp, fun _ _ member _ => member, ?_⟩
    · intro me answer member
      cases List.mem_singleton.mp member
      simp [waiting, poppers]
    · intro me member stays
      rw [poppers] at member
      exact List.mem_of_ne_of_mem (by simpa using stays) member
  · exact .of_none rfl (fun _ _ member => member) fun _ member => member

theorem emit_follows (item : α) (rest : List α) (fifo : Fifo α) : Follows fifo (fifo.emit item rest) := by
  unfold emit
  split
  · next pusher next more pushers =>
    refine ⟨?_, by simp, ?_, fun _ member _ => member⟩
    · intro me answer member
      cases List.mem_singleton.mp member
      simp [waiting, pushers]
    · intro me item member stays
      rw [pushers] at member
      refine List.mem_of_ne_of_mem ?_ member
      rintro same
      cases same
      simp at stays
  · exact .of_none rfl (fun _ _ member => member) fun _ member => member

theorem keys_dismissed (fifo : Fifo α) : fifo.dismissed.map Prod.fst = fifo.waiting := by
  simp [dismissed, waiting, Function.comp_def]

theorem close_follows (fifo : Fifo α) (distinct : fifo.waiting.Nodup) : Follows fifo fifo.close := by
  unfold close
  split
  · exact .of_none rfl (fun _ _ member => member) fun _ member => member
  · have keys := fifo.keys_dismissed
    refine ⟨?_, keys ▸ distinct, ?_, ?_⟩
    · intro me answer member
      rw [← keys]
      exact List.mem_map_of_mem (f := Prod.fst) member
    · intro me item member stays
      refine absurd (keys ▸ ?_) stays
      exact List.mem_append_left _ (List.mem_map_of_mem (f := Prod.fst) member)
    · intro me member stays
      exact absurd (keys ▸ List.mem_append_right _ member) stays

theorem handle_follows (request : Request α) (fifo : Fifo α) (distinct : fifo.waiting.Nodup) :
    Follows fifo (fifo.handle request) := by
  have stays : ∀ outcome : Outcome α, outcome.released = [] →
      outcome.fifo.pushers = fifo.pushers → outcome.fifo.poppers = fifo.poppers →
      Follows fifo outcome := by
    intro outcome released samePushers samePoppers
    exact .of_none released (fun _ _ member => samePushers ▸ member)
      fun _ member => samePoppers ▸ member
  have joins : Follows fifo fifo.pop := by
    unfold pop
    split
    · exact emit_follows _ _ _
    · split
      · exact stays _ rfl rfl rfl
      · exact .of_none rfl (fun _ _ member => member) fun _ member => List.mem_append_left _ member
  have leaves : Follows fifo fifo.tryPop := by
    unfold tryPop
    split
    · exact emit_follows _ _ _
    · exact stays _ rfl rfl rfl
  cases request with
  | popBriefly => exact leaves
  | call call =>
      cases call with
      | push item =>
          simp only [handle, push]
          split
          · exact stays _ rfl rfl rfl
          · split
            · exact accept_follows item fifo
            · exact .of_none rfl (fun _ _ member => List.mem_append_left _ member)
                fun _ member => member
      | tryPush item =>
          simp only [handle, tryPush]
          split
          · exact stays _ rfl rfl rfl
          · split
            · exact accept_follows item fifo
            · exact stays _ rfl rfl rfl
      | pop => exact joins
      | popFor => exact joins
      | tryPop => exact leaves
      | close => exact close_follows fifo distinct

end Fifo

/-! ## Pushes and pops -/

theorem set_new (threads : List (Point α)) (point new : Point α) :
    (threads ++ [point]).set threads.length new = threads ++ [new] := by
  simp

theorem found_new (threads : List (Point α)) (point : Point α) :
    (threads ++ [point])[threads.length]? = some point := by
  simp

namespace Resting

theorem accept_arrives (resting : Resting fifo before)
    (seeks : SeeksSlot before.threads.length before.shared item point)
    (isOpen : fifo.closed = false) (room : fifo.items.length < fifo.capacity) :
    World.Surely (machine α) (Arrives before (fifo.accept item))
      ⟨before.shared, before.threads ++ [point]⟩ := by
  have follows := fifo.accept_follows item
  have noPushers := resting.pushers_of_room room
  refine (resting.alone point).stored (found_new _ _) seeks resting.shows isOpen room
    fun last shows => ?_
  rw [set_new]
  unfold Fifo.accept at follows ⊢
  cases poppers : fifo.poppers with
  | nil =>
      simp only [poppers] at follows shows ⊢
      refine resting.arrived follows shows ?_ rfl (.done _)
      rw [World.settled_nil]
  | cons popper rest =>
      have member : popper ∈ fifo.poppers := poppers ▸ List.mem_cons_self
      have distinct := resting.poppers_nodup
      obtain ⟨timed, found⟩ := resting.popper_at member
      obtain ⟨bound, _⟩ := List.getElem?_eq_some_iff.mp found
      have empty := (resting.empty_of_popper member).2
      simp only [poppers, empty, List.nil_append, List.tail_cons] at follows shows distinct ⊢
      have outside : popper ∉ last.fullSlots.line := by
        rw [shows.poppers]
        exact (List.nodup_cons.mp distinct).1
      have alone : Alone popper ⟨last, before.threads ++ [.done (.push .stored)]⟩ := by
        refine alone_of_seated shows ?_
        intro other there different found
        rcases World.found_or_eq_of_append found with found | rfl
        · cases resting.seated other there found with
          | done answer => exact .done answer
          | pusher listed => exact .pusher listed
          | popper patient listed =>
              rw [poppers] at listed
              exact .popper patient (List.mem_of_ne_of_mem different listed)
        · exact .done _
      refine alone.loaded (World.found_append found) (.pop timed outside) shows rfl
        fun later shows => ?_
      rw [List.set_append_left _ _ bound]
      simp only [noPushers, List.tail_nil] at shows follows ⊢
      refine resting.arrived follows shows ?_ rfl (.done _)
      rw [World.settled_singleton]

theorem emit_arrives {rest : List α} (resting : Resting fifo before)
    (seeks : SeeksItem before.threads.length before.shared point)
    (items : fifo.items = item :: rest) :
    World.Surely (machine α) (Arrives before (fifo.emit item rest))
      ⟨before.shared, before.threads ++ [point]⟩ := by
  have follows := fifo.emit_follows item rest
  have noPoppers := resting.poppers_of_some (by rw [items]; exact List.cons_ne_nil _ _)
  refine (resting.alone point).loaded (found_new _ _) seeks resting.shows items fun last shows => ?_
  rw [set_new]
  unfold Fifo.emit at follows ⊢
  cases pushers : fifo.pushers with
  | nil =>
      simp only [pushers] at follows shows ⊢
      refine resting.arrived follows shows ?_ rfl (.done _)
      rw [World.settled_nil]
  | cons first more =>
      obtain ⟨pusher, next⟩ := first
      have member : (pusher, next) ∈ fifo.pushers := pushers ▸ List.mem_cons_self
      have distinct := resting.pushers_nodup
      have found := resting.pusher_at member
      obtain ⟨bound, _⟩ := List.getElem?_eq_some_iff.mp found
      obtain ⟨isOpen, full⟩ := resting.full_of_pusher member
      rw [items, List.length_cons] at full
      simp only [pushers, List.tail_cons, List.map_cons] at follows shows distinct ⊢
      have outside : pusher ∉ last.openSlots.line := by
        rw [shows.pushers]
        exact (List.nodup_cons.mp distinct).1
      have alone : Alone pusher ⟨last, before.threads ++ [.done (.pop (.item item))]⟩ := by
        refine alone_of_seated shows ?_
        intro other there different found
        rcases World.found_or_eq_of_append found with found | rfl
        · cases resting.seated other there found with
          | done answer => exact .done answer
          | popper patient listed => exact .popper patient listed
          | pusher listed =>
              rw [pushers] at listed
              refine .pusher (List.mem_of_ne_of_mem ?_ listed)
              exact fun same => different (congrArg Prod.fst same)
        · exact .done _
      refine alone.stored (World.found_append found) (.push outside) shows isOpen
        (show rest.length < fifo.capacity by omega) fun later shows => ?_
      rw [List.set_append_left _ _ bound]
      simp only [noPoppers, List.tail_nil] at shows follows ⊢
      refine resting.arrived follows shows ?_ rfl (.done _)
      rw [World.settled_singleton]

theorem refuse_arrives (resting : Resting fifo before)
    (seeks : SeeksSlot before.threads.length before.shared item point)
    (closed : fifo.closed = true) :
    World.Surely (machine α) (Arrives before (fifo.refuse (.closed item)))
      ⟨before.shared, before.threads ++ [point]⟩ := by
  have noPushers := resting.pushers_of_closed closed
  refine (resting.alone point).turnedAway (found_new _ _) seeks resting.shows closed
    fun last shows => ?_
  rw [set_new]
  simp only [noPushers, List.tail_nil] at shows
  refine resting.arrived (.of_none rfl (fun _ _ member => member) fun _ member => member) ?_ ?_ rfl
    (.done _)
  · exact ⟨shows.idle, shows.items, shows.closed, shows.capacity,
      shows.pushers.trans (by rw [Fifo.refuse, noPushers]), shows.poppers⟩
  · rw [Fifo.refuse, World.settled_nil]

theorem nothing_arrives (resting : Resting fifo before)
    (seeks : SeeksItem before.threads.length before.shared point) (closed : fifo.closed = true)
    (empty : fifo.items = []) :
    World.Surely (machine α) (Arrives before ⟨some (.pop .nothing), [], fifo⟩)
      ⟨before.shared, before.threads ++ [point]⟩ := by
  have noPoppers := resting.poppers_of_closed closed
  refine (resting.alone point).sentAway (found_new _ _) seeks resting.shows closed empty
    fun last shows => ?_
  rw [set_new]
  simp only [noPoppers, List.tail_nil] at shows
  refine resting.arrived (.of_none rfl (fun _ _ member => member) fun _ member => member) ?_ ?_ rfl
    (.done _)
  · exact ⟨shows.idle, shows.items, shows.closed, shows.capacity, shows.pushers,
      shows.poppers.trans noPoppers.symm⟩
  · rw [World.settled_nil]

theorem newcomer_pushes (resting : Resting fifo before) :
    before.threads.length ∉ before.shared.openSlots.line := by
  intro member
  obtain ⟨point, found, _⟩ := resting.counted.pushers.asleep _ member
  simp at found

theorem newcomer_pops (resting : Resting fifo before) :
    before.threads.length ∉ before.shared.fullSlots.line := by
  intro member
  obtain ⟨point, found, _⟩ := resting.counted.poppers.asleep _ member
  simp at found

theorem push_arrives (resting : Resting fifo before) (item : α) :
    World.Surely (machine α) (Arrives before (fifo.push item))
      ⟨before.shared, before.threads ++ [.pushWait item]⟩ := by
  have outside := resting.newcomer_pushes
  unfold Fifo.push
  cases closed : fifo.closed with
  | true => exact resting.refuse_arrives (.push outside) closed
  | false =>
      simp only [Bool.false_eq_true, if_false]
      split
      · next room => exact resting.accept_arrives (.push outside) closed room
      · next full =>
        have none := resting.shows.no_slot closed full
        refine (resting.alone _).act (found_new _ _)
          (by simp only [act, Semaphore.wait_of_none outside none]; rfl) ?_
        rw [set_new]
        have last : (before.threads.length, item) ∈ fifo.pushers ++ [(fifo.calls, item)] := by
          simp [resting.calls]
        refine resting.arrived (.of_none rfl (fun _ _ member => List.mem_append_left _ member)
          fun _ member => member) ?_ ?_ rfl (.pusher last)
        · refine ⟨resting.shows.idle.reline rfl rfl, resting.shows.items,
            resting.shows.closed.trans closed, resting.shows.capacity, ?_, resting.shows.poppers⟩
          simp [resting.shows.pushers, resting.calls]
        · rw [World.settled_nil]

theorem tryPush_arrives (resting : Resting fifo before) (item : α) :
    World.Surely (machine α) (Arrives before (fifo.tryPush item))
      ⟨before.shared, before.threads ++ [.tryPush item]⟩ := by
  unfold Fifo.tryPush
  cases closed : fifo.closed with
  | true => exact resting.refuse_arrives .tryPush closed
  | false =>
      simp only [Bool.false_eq_true, if_false]
      split
      · next room => exact resting.accept_arrives .tryPush closed room
      · next full =>
        have none := resting.shows.no_slot closed full
        have isOpen : before.shared.closed = false := resting.shows.closed.trans closed
        refine (resting.alone _).act (found_new _ _)
          (by simp only [act, (Semaphore.take_none_iff _).mpr none]; rfl) ?_
        rw [set_new]
        refine (resting.alone _).act (found_new _ _) rfl ?_
        rw [set_new, isOpen]
        refine resting.arrived (.of_none rfl (fun _ _ member => member) fun _ member => member)
          resting.shows ?_ rfl (.done _)
        simp [Fifo.refuse, World.settled_nil]

/-- The queue once a newcomer has joined the line for items. -/
def lined (before : World (Queue α) (Point α)) : Queue α :=
  { before.shared with
    fullSlots.line := before.shared.fullSlots.line ++ [before.threads.length] }

theorem lined_shows (resting : Resting fifo before) :
    Shows { fifo with poppers := fifo.poppers ++ [fifo.calls] } (lined before) := by
  refine ⟨resting.shows.idle.reline rfl rfl, resting.shows.items, resting.shows.closed,
    resting.shows.capacity, resting.shows.pushers, ?_⟩
  simp [lined, resting.shows.poppers, resting.calls]

theorem pop_joins (resting : Resting fifo before) (timed : Bool) (isOpen : fifo.closed = false)
    (empty : fifo.items = []) :
    World.Surely (machine α) (fun last => last = ⟨lined before, before.threads ++ [.popWait timed]⟩)
      ⟨before.shared, before.threads ++ [.popWait timed]⟩ := by
  have noItem := resting.shows.no_item isOpen empty
  have acted : act before.threads.length (.popWait timed) before.shared =
      some (.popWait timed, lined before) := by
    simp [act, Semaphore.wait_of_none resting.newcomer_pops noItem, lined]
  have last : before.threads.length ∈ fifo.poppers ++ [fifo.calls] := by simp [resting.calls]
  have follows : Follows fifo ⟨none, [], { fifo with poppers := fifo.poppers ++ [fifo.calls] }⟩ :=
    .of_none rfl (fun _ _ member => member) fun _ member => List.mem_append_left _ member
  refine (resting.alone _).act (found_new _ _) acted (.of_quiet ?_ (by rw [set_new]))
  rw [set_new]
  refine resting.arrived_quiet follows resting.lined_shows ?_ (.popper timed last)
  rw [World.settled_nil]

theorem pop_arrives (resting : Resting fifo before) (timed : Bool) :
    World.Surely (machine α) (Arrives before fifo.pop)
      ⟨before.shared, before.threads ++ [.popWait timed]⟩ := by
  have outside := resting.newcomer_pops
  unfold Fifo.pop
  cases items : fifo.items with
  | cons item rest => exact resting.emit_arrives (.pop timed outside) items
  | nil =>
      cases closed : fifo.closed with
      | true => exact resting.nothing_arrives (.pop timed outside) closed items
      | false =>
          have last : before.threads.length ∈ fifo.poppers ++ [fifo.calls] := by
            simp [resting.calls]
          refine (resting.pop_joins timed closed items).mono ?_
          rintro _ _ rfl
          simp only [Bool.false_eq_true, if_false]
          rw [← items, ← closed]
          exact ⟨resting.lined_shows, .popWait timed, rfl, by rw [World.settled_nil],
            .popper timed last⟩

theorem tryPop_arrives (resting : Resting fifo before) :
    World.Surely (machine α) (Arrives before fifo.tryPop)
      ⟨before.shared, before.threads ++ [.tryPop]⟩ := by
  unfold Fifo.tryPop
  cases items : fifo.items with
  | cons item rest => exact resting.emit_arrives .tryPop items
  | nil =>
      cases closed : fifo.closed with
      | true => exact resting.nothing_arrives .tryPop closed items
      | false =>
          have none := resting.shows.no_item closed items
          refine (resting.alone _).act (found_new _ _)
            (by simp only [act, (Semaphore.take_none_iff _).mpr none]; rfl) ?_
          rw [set_new]
          refine resting.arrived (.of_none rfl (fun _ _ member => member) fun _ member => member)
            resting.shows ?_ rfl (.done _)
          rw [World.settled_nil]

end Resting

/-! ## Closing -/

/-- Where a caller that was at rest can be while a closed queue sends everybody away. -/
inductive Dismissed : Point α → Point α → Prop where
  | done (answer : Answer α) : Dismissed (.done answer) (.done answer)
  | pushWait (item : α) : Dismissed (.pushWait item) (.pushWait item)
  | store (item : α) : Dismissed (.pushWait item) (.store item)
  | postClosed (item : α) : Dismissed (.pushWait item) (.postClosed item)
  | refused (item : α) : Dismissed (.pushWait item) (.done (.push (.refused (.closed item))))
  | popWait (timed : Bool) : Dismissed (.popWait timed) (.popWait timed)
  | tryPop (timed : Bool) : Dismissed (.popWait timed) .tryPop
  | load (timed : Bool) : Dismissed (.popWait timed) .load
  | passOn (timed : Bool) : Dismissed (.popWait timed) .passOn
  | postNothing (timed : Bool) : Dismissed (.popWait timed) .postNothing
  | nothing (timed : Bool) : Dismissed (.popWait timed) (.done (.pop .nothing))

inductive Closes : Point α → Prop where
  | wakePopper : Closes .closeFull
  | wakePusher : Closes .closeOpen
  | done : Closes (.done .closed)

variable {first old new : Point α} {changed : Queue α}

theorem Closes.change (closes : Closes old) (change : Change me old queue new changed) :
    Closes new ∧ changed.closed = queue.closed ∧ changed.toList = queue.toList := by
  cases closes with
  | wakePopper =>
      cases change
      exact ⟨.wakePusher, rfl, rfl⟩
  | wakePusher =>
      cases change
      exact ⟨.done, rfl, rfl⟩
  | done => cases change

theorem Dismissed.change (dismissed : Dismissed first old)
    (change : Change me old queue new changed) (holds : queue.ring.Holds queue.toList)
    (closed : queue.closed = true) (empty : ∀ timed, first = .popWait timed → queue.toList = []) :
    Dismissed first new ∧ changed.closed = queue.closed ∧ changed.toList = queue.toList := by
  cases dismissed with
  | done | refused | nothing => cases change
  | pushWait item =>
      cases change with
      | getSlot => exact ⟨.store item, rfl, rfl⟩
      | awaitSlot => exact ⟨.pushWait item, rfl, rfl⟩
  | store item =>
      cases change with
      | store _ isOpen =>
          rw [closed] at isOpen
          cases isOpen
      | turnAway => exact ⟨.postClosed item, rfl, rfl⟩
  | postClosed item =>
      cases change
      exact ⟨.refused item, rfl, rfl⟩
  | popWait timed =>
      cases change with
      | getItem => exact ⟨.load timed, rfl, rfl⟩
      | awaitItem => exact ⟨.popWait timed, rfl, rfl⟩
      | expire => exact ⟨.tryPop true, rfl, rfl⟩
  | tryPop timed =>
      cases change with
      | grabItem => exact ⟨.load timed, rfl, rfl⟩
      | missItem => exact ⟨.nothing timed, rfl, rfl⟩
  | load timed =>
      cases change with
      | load item took =>
          obtain ⟨rest, split, _⟩ := holds.of_take took
          rw [empty timed rfl] at split
          cases split
      | findNothing => exact ⟨.passOn timed, rfl, rfl⟩
  | passOn timed =>
      cases change
      exact ⟨.postNothing timed, rfl, rfl⟩
  | postNothing timed =>
      cases change
      exact ⟨.nothing timed, rfl, rfl⟩

/-- A closed queue sends away those that rested before. -/
structure Dispersing (fifo : Fifo α) (before world : World (Queue α) (Point α)) : Prop where
  counted : Counted world.shared world.threads
  closed : world.shared.closed = true
  items : world.shared.toList = fifo.items
  capacity : world.shared.capacity = fifo.capacity
  length : world.threads.length = before.threads.length + 1
  closer : ∃ point, world.threads[before.threads.length]? = some point ∧ Closes point
  others : ∀ (me : ThreadId) (old new : Point α), before.threads[me]? = some old →
    world.threads[me]? = some new → Dismissed old new

namespace Dispersing

variable {world later last : World (Queue α) (Point α)}

theorem act (dispersing : Dispersing fifo before world) (resting : Resting fifo before)
    (acts : world.Acts (machine α) later) : Dispersing fifo before later := by
  obtain ⟨me, moved⟩ := acts
  obtain ⟨old, new, changed, found, acted, rfl⟩ := World.act_eq_some_iff.mp moved
  have counted := dispersing.counted
  have change := change_of_act counted found acted
  obtain ⟨closer, foundCloser, closes⟩ := dispersing.closer
  have stays : changed.closed = world.shared.closed ∧ changed.toList = world.shared.toList ∧
      (me = before.threads.length → Closes new) ∧
      ∀ first, before.threads[me]? = some first → Dismissed first new := by
    by_cases mine : me = before.threads.length
    · subst mine
      rw [foundCloser] at found
      cases found
      obtain ⟨closes, closed, items⟩ := closes.change change
      exact ⟨closed, items, fun _ => closes, by simp⟩
    · obtain ⟨bound, _⟩ := List.getElem?_eq_some_iff.mp found
      rw [dispersing.length] at bound
      have within : me < before.threads.length := Nat.lt_of_le_of_ne (Nat.le_of_lt_succ bound) mine
      have there := List.getElem?_eq_getElem within
      have empty : ∀ timed, before.threads[me] = .popWait timed → world.shared.toList = [] := by
        intro timed same
        rw [dispersing.items]
        cases same ▸ resting.seated me _ there with
        | popper _ member => exact (resting.empty_of_popper member).2
      obtain ⟨dismissed, closed, items⟩ := (dispersing.others me _ old there found).change change
        counted.holds dispersing.closed empty
      refine ⟨closed, items, fun same => absurd same mine, ?_⟩
      intro first foundFirst
      rw [there] at foundFirst
      cases foundFirst
      exact dismissed
  obtain ⟨closed, items, mine, others⟩ := stays
  refine ⟨counted.change found change, closed.trans dispersing.closed,
    items.trans dispersing.items, (change.holds counted.holds).2.trans dispersing.capacity, ?_, ?_, ?_⟩
  · simp [World.put, dispersing.length]
  · by_cases same : me = before.threads.length
    · exact ⟨new, same ▸ World.found_set found, mine same⟩
    · exact ⟨closer, by rw [World.put, List.getElem?_set_ne same]; exact foundCloser, closes⟩
  · intro other first there foundFirst foundThere
    by_cases same : me = other
    · subst same
      rw [World.put, World.found_set found] at foundThere
      cases foundThere
      exact others first foundFirst
    · rw [World.put, List.getElem?_set_ne same] at foundThere
      exact dispersing.others other first there foundFirst foundThere

theorem done_of_quiet (dispersing : Dispersing fifo before last) (quiet : last.Quiet (machine α))
    (found : last.threads[me]? = some point) : ∃ answer, point = .done answer := by
  rcases rests_of_still (World.still_of_quiet quiet found) with
    answered | ⟨item, rfl, _⟩ | ⟨timed, rfl, _⟩
  · exact answered
  · have isOpen := (dispersing.counted.full_of_parked quiet found).2.1
    rw [dispersing.closed] at isOpen
    cases isOpen
  · have isOpen := (dispersing.counted.empty_of_parked quiet found).2.1
    rw [dispersing.closed] at isOpen
    cases isOpen

theorem threads_of_quiet (dispersing : Dispersing fifo before last) (resting : Resting fifo before)
    (quiet : last.Quiet (machine α)) : last.threads =
      World.settled .done fifo.dismissed before.threads ++ [.done .closed] := by
  have once : (fifo.dismissed.map Prod.fst).Nodup := fifo.keys_dismissed ▸ resting.waiting_nodup
  apply List.ext_getElem?
  intro me
  rcases Nat.lt_trichotomy me before.threads.length with within | rfl | beyond
  · rw [List.getElem?_append_left (by rwa [World.length_settled])]
    have there := List.getElem?_eq_getElem within
    have bound : me < last.threads.length := by
      rw [dispersing.length]
      exact Nat.lt_succ_of_lt within
    have found := List.getElem?_eq_getElem bound
    have dismissed := dispersing.others me _ _ there found
    obtain ⟨answer, answered⟩ := dispersing.done_of_quiet quiet found
    rw [answered] at dismissed found
    rw [found]
    generalize before.threads[me] = old at there dismissed
    cases resting.seated me old there with
    | done other =>
        have stays : me ∉ fifo.dismissed.map Prod.fst := by
          rw [fifo.keys_dismissed, resting.mem_waiting_iff]
          rintro ⟨point, foundPoint, waits⟩
          rw [there] at foundPoint
          cases foundPoint
          cases waits
        rw [World.found_settled_of_not_released stays, there]
        cases dismissed
        rfl
    | @pusher item member =>
        have listed : (me, .push (.refused (.closed item))) ∈ fifo.dismissed :=
          List.mem_append_left _ (List.mem_map.mpr ⟨_, member, rfl⟩)
        rw [World.found_settled_of_released once listed there]
        cases dismissed
        rfl
    | popper timed member =>
        have listed : (me, .pop .nothing) ∈ fifo.dismissed :=
          List.mem_append_right _ (List.mem_map.mpr ⟨_, member, rfl⟩)
        rw [World.found_settled_of_released once listed there]
        cases dismissed
        rfl
  · obtain ⟨point, found, closes⟩ := dispersing.closer
    obtain ⟨answer, rfl⟩ := dispersing.done_of_quiet quiet found
    rw [found, List.getElem?_append_right (by simp [World.length_settled]), World.length_settled,
      Nat.sub_self]
    cases closes
    rfl
  · rw [List.getElem?_eq_none (by rw [dispersing.length]; exact beyond),
      List.getElem?_eq_none (by simp [World.length_settled]; exact beyond)]

theorem arrives (dispersing : Dispersing fifo before last) (resting : Resting fifo before)
    (quiet : last.Quiet (machine α)) : Arrives before ⟨some .closed, fifo.dismissed,
      { fifo with closed := true, pushers := [], poppers := [] }⟩ last := by
  have counted := dispersing.counted
  have noPushers : last.shared.openSlots.line = [] := by
    by_contra standing
    obtain ⟨me, member⟩ := List.exists_mem_of_ne_nil _ standing
    obtain ⟨point, found, awaits⟩ := counted.pushers.asleep me member
    obtain ⟨answer, rfl⟩ := dispersing.done_of_quiet quiet found
    cases awaits
  have noPoppers : last.shared.fullSlots.line = [] := by
    by_contra standing
    obtain ⟨me, member⟩ := List.exists_mem_of_ne_nil _ standing
    obtain ⟨point, found, awaits⟩ := counted.poppers.asleep me member
    obtain ⟨answer, rfl⟩ := dispersing.done_of_quiet quiet found
    cases awaits
  exact ⟨⟨counted.idle_of_quiet quiet, dispersing.items, dispersing.closed, dispersing.capacity,
    noPushers, noPoppers⟩, .done .closed, rfl, dispersing.threads_of_quiet resting quiet, .done _⟩

end Dispersing

theorem Resting.close_arrives (resting : Resting fifo before) :
    World.Surely (machine α) (Arrives before fifo.close)
      ⟨before.shared, before.threads ++ [.close]⟩ := by
  unfold Fifo.close
  have alone := resting.alone .close
  cases closed : fifo.closed with
  | true =>
      have shut : before.shared.closed = true := resting.shows.closed.trans closed
      refine alone.act (found_new _ _) (by simp only [act, shut, if_true]; rfl) ?_
      rw [set_new]
      refine resting.arrived (.of_none rfl (fun _ _ member => member) fun _ member => member)
        resting.shows ?_ rfl (.done _)
      simp [World.settled_nil]
  | false =>
      have isOpen : before.shared.closed = false := resting.shows.closed.trans closed
      have change : Change before.threads.length .close before.shared .closeFull
          { before.shared with closed := true } := .close isOpen
      have counted := (resting.counted.spawn .close).change (found_new _ _) change
      simp only [start, set_new] at counted
      simp only [Bool.false_eq_true, if_false]
      refine alone.act (found_new _ _)
        (by simp only [act, isOpen, Bool.false_eq_true, if_false]; rfl) ?_
      rw [set_new]
      have dispersing : Dispersing fifo before
          ⟨{ before.shared with closed := true }, before.threads ++ [.closeFull]⟩ := by
        refine ⟨counted, rfl, resting.shows.items, resting.shows.capacity, by simp,
          ⟨.closeFull, found_new _ _, .wakePopper⟩, ?_⟩
        intro me old new there found
        rw [World.found_append there] at found
        cases found
        cases resting.seated me old there with
        | done answer => exact .done answer
        | pusher => exact .pushWait _
        | popper timed => exact .popWait timed
      exact .of_kept (fun _ _ holds acts => holds.act resting acts) dispersing
        fun last holds quiet => holds.arrives resting quiet

end Turnstile.Queue
