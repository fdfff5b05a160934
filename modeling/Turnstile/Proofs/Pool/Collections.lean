import Turnstile.Proofs.Pool.Endings
import Turnstile.Proofs.Pool.Sums

/-!
# What becomes of a delivery

The delivery of a ticket is pending, then holds the outcome of the body that has ended, then
somebody has collected that. Or it is closed because the job was discarded, and then no body
has ended. `Stage` says which of the four it is, and `Stage.put` that every move goes from a
stage to the same one or to a later one.
-/

namespace Turnstile.Pool

set_option autoImplicit false

open World (total)
open Turnstile.Task (Ticket Delivery Outcome)

variable {α : Type} {me : ThreadId} {pool later : Pool α} {ticket : Ticket} {config : Config}
  {world first last : Running α} {old new : Point α} {history : List (Occurrence α)}
  {delivery : Delivery α} {outcome : Outcome α}

def isOwn : Outcome α → Bool
  | .ok _ | .error (.panicked _) => true
  | .error .abandoned | .error .timeout => false

def Occurrence.isCollection (ticket : Ticket) : Occurrence α → Bool
  | .told other (some outcome) => other = ticket && isOwn outcome
  | _ => false

def collections (ticket : Ticket) (history : List (Occurrence α)) : Nat :=
  history.countP (Occurrence.isCollection ticket)

theorem isOwn_outcome (ending : Ending α) : isOwn (Worker.outcome ending) = true := by
  cases ending <;> rfl

theorem collections_append (ticket : Ticket) (more history : List (Occurrence α)) :
    collections ticket (more ++ history) = collections ticket more + collections ticket history :=
  List.countP_append

theorem ends_append (ticket : Ticket) (more history : List (Occurrence α)) :
    ends ticket (more ++ history) = ends ticket more + ends ticket history :=
  List.countP_append

/-! ## What a move is to a delivery -/

/-- What a move of thread `me` is to the delivery of a ticket. -/
inductive Touch (ticket : Ticket) (me : ThreadId) (pool later : Pool α) :
    Point α → Option (Occurrence α) → Prop where
  | aside {old : Point α} {happens : Option (Occurrence α)}
      (same : later.deliveries[ticket]? = pool.deliveries[ticket]? ∨
        pool.deliveries[ticket]? = none ∧ later.deliveries[ticket]? = some .pending)
      (discarded : later.mishaps .discarded ticket = pool.mishaps .discarded ticket)
      (unended : ends ticket happens.toList = 0)
      (untold : ∀ outcome, happens ≠ some (.told ticket outcome)) :
      Touch ticket me pool later old happens
  | deliver (ending : Ending α)
      (set : later = pool.setDelivery ticket (.ready (Worker.outcome ending))) :
      Touch ticket me pool later (.worker (.deliver ticket ending))
        (some (.ended me ticket ending))
  | collect {old : Point α} {delivery : Delivery α} {told : Option (Outcome α)}
      (found : pool.deliveries[ticket]? = some delivery)
      (tells : (Inquiry.collect delivery).1 = told)
      (set : later = pool.setDelivery ticket (Inquiry.collect delivery).2) :
      Touch ticket me pool later old (some (.told ticket told))
  | expire {old : Point α} (same : later = pool) :
      Touch ticket me pool later old (some (.told ticket (some (.error .timeout))))
  | dismantle (gone : later = pool.dismantle) : Touch ticket me pool later (.closing .dismantle) none

theorem Touch.of_plain (plain : Plain pool later) {happens : Option (Occurrence α)}
    (unended : ends ticket happens.toList = 0)
    (untold : ∀ outcome, happens ≠ some (.told ticket outcome)) :
    Touch ticket me pool later old happens := by
  refine .aside ?_ (plain.mishaps_eq _ _) unended untold
  rcases plain.deliveries with same | more
  · rw [same]
    exact .inl rfl
  · rw [more]
    cases found : pool.deliveries[ticket]? with
    | some delivery => exact .inl (World.found_append found)
    | none =>
        rw [List.getElem?_append_right (List.getElem?_eq_none_iff.mp found)]
        cases ticket - pool.deliveries.length with
        | zero => exact .inr ⟨rfl, rfl⟩
        | succ beyond => exact .inl rfl

theorem untold_of_not_inquiry (me : ThreadId) (new : Point α) (apart : ∀ asked, old ≠ .inquiry asked)
    (outcome : Option (Outcome α)) :
    old.occurs me new ≠ some (.told ticket outcome) := by
  intro happens
  rcases Point.occurs_cases happens with
    (⟨_, _, _, same⟩ | ⟨_, same⟩ | ⟨_, same⟩) | ⟨_, _, _, same⟩ | ⟨asked, _, _, inquires, _⟩
  · cases same
  · cases same
  · cases same
  · cases same
  · exact apart asked inquires

theorem Inquiry.Course.touch {old new : Inquiry α} (course : Course pool old new later) :
    Touch ticket me pool later (.inquiry old) (occurs old new) := by
  have elsewhere {other : Ticket} (apart : other ≠ ticket) (told : Option (Outcome α))
      (delivery : Delivery α) :
      Touch ticket me pool (pool.setDelivery other delivery) (.inquiry old)
        (some (.told other told)) := by
    refine .aside (.inl (List.getElem?_set_ne apart)) rfl rfl fun outcome same => ?_
    cases same
    exact apart rfl
  cases course with
  | @ask other delivery found =>
      by_cases same : other = ticket
      · subst same
        exact .collect found rfl rfl
      · exact elsewhere same _ _
  | @wait other delivery timed outcome found collected =>
      by_cases same : other = ticket
      · subst same
        exact .collect found collected rfl
      · exact elsewhere same _ _
  | expire other =>
      by_cases same : other = ticket
      · subst same
        exact .expire rfl
      · refine .aside (.inl rfl) rfl rfl fun outcome told => ?_
        cases told
        exact same rfl

theorem Point.Course.touch (course : Point.Course me pool old new later) (deed : Deed me pool old new later) :
    Touch ticket me pool later old (old.occurs me new) := by
  cases course with
  | @worker hand next _ course =>
      by_cases delivers : ∃ ending, hand = .deliver ticket ending
      · obtain ⟨ending, rfl⟩ := delivers
        cases course with
        | take roams => cases roams
        | deliver => exact .deliver ending rfl
        | aside before => cases before
      · have apart : ∀ ending, Point.worker hand ≠ .worker (.deliver ticket ending) :=
          fun ending same => delivers ⟨ending, Point.worker.inj same⟩
        have unended := ends_eq_zero me (.worker next) apart
        have works : ∀ asked, Point.worker hand ≠ .inquiry asked := nofun
        have untold (outcome : Option (Outcome α)) :
            (Point.worker hand).occurs me (.worker next) ≠ some (.told ticket outcome) :=
          untold_of_not_inquiry me _ works outcome
        have discarded := deed.discarded_eq nofun ticket
        cases deed with
        | plain before after plain => exact .of_plain plain unended untold
        | deliver other ending =>
            refine .aside (.inl (List.getElem?_set_ne fun same => ?_)) discarded unended untold
            exact delivers ⟨ending, same ▸ rfl⟩
        | countPanic | countRun | perish => exact .aside (.inl rfl) discarded unended untold
  | @submission posting next _ course =>
      cases deed with
      | plain before after plain =>
          have apart : ∀ ending, Point.submission posting ≠ .worker (.deliver ticket ending) := nofun
          exact .of_plain plain (ends_eq_zero me _ apart) (untold_of_not_inquiry me _ nofun)
  | inquiry course => exact course.touch
  | closing acted =>
      cases Closing.change_of_act acted with
      | dismantle => exact .dismantle rfl
      | begin | mourn | stop =>
          exact .aside (.inl rfl) (mishaps_note ..) rfl nofun
      | shut | await | bury | report => exact .aside (.inl rfl) rfl rfl nofun

/-! ## The stages -/

inductive Stage (ticket : Ticket) (world : Running α) (history : List (Occurrence α)) : Prop where
  | pending
      (waits : world.shared.deliveries[ticket]? = none ∨
        world.shared.deliveries[ticket]? = some .pending)
      (unended : ends ticket history = 0) (whole : world.shared.mishaps .discarded ticket = 0)
      (uncollected : collections ticket history = 0)
  | ready {worker : Nat} {ending : Ending α}
      (ready : world.shared.deliveries[ticket]? = some (.ready (Worker.outcome ending)))
      (ended : .ended worker ticket ending ∈ history) (once : ends ticket history = 1)
      (whole : world.shared.mishaps .discarded ticket = 0)
      (uncollected : collections ticket history = 0)
  | collected
      (closed : world.shared.deliveries[ticket]? = some .closed)
      (once : ends ticket history = 1) (whole : world.shared.mishaps .discarded ticket = 0)
      (collected : collections ticket history = 1)
  | discarded
      (closed : world.shared.deliveries[ticket]? = some .closed) (unended : ends ticket history = 0)
      (lost : 0 < world.shared.mishaps .discarded ticket)
      (uncollected : collections ticket history = 0)

theorem Stage.of_ready (stage : Stage ticket world history)
    (found : world.shared.deliveries[ticket]? = some (.ready outcome)) :
    ∃ worker ending, outcome = Worker.outcome ending ∧ .ended worker ticket ending ∈ history ∧
      ends ticket history = 1 ∧ world.shared.mishaps .discarded ticket = 0 ∧
        collections ticket history = 0 := by
  cases stage with
  | ready ready ended once whole uncollected =>
      rw [found] at ready
      cases ready
      exact ⟨_, _, rfl, ended, once, whole, uncollected⟩
  | pending waits => simp [found] at waits
  | collected closed | discarded closed => simp [found] at closed

theorem Stage.of_closed (stage : Stage ticket world history)
    (found : world.shared.deliveries[ticket]? = some .closed) :
    0 < collections ticket history ∨ 0 < world.shared.mishaps .discarded ticket := by
  cases stage with
  | collected _ _ _ one => exact .inl (one ▸ Nat.one_pos)
  | discarded _ _ lost => exact .inr lost
  | pending waits => simp [found] at waits
  | ready ready => simp [found] at ready

theorem Recorded.not_queued (recorded : Recorded config world)
    (done : 0 < sent ticket world ∨ world.shared.deliveries[ticket]? = none) :
    world.shared.queuedTimes ticket = 0 := by
  cases recorded.era with
  | finished finished taken =>
      exact queuedTimes_eq_zero ticket fun queue member => (finished.spent queue member).empty.toList_eq
  | serving idle whole booked =>
      rcases done with gone | unissued
      · have once := (booked ticket).decided_once
        have stored := (booked ticket).stored
        have ran := (booked ticket).ran
        have less : total (settling ticket) world.threads ≤ total (holding ticket) world.threads :=
          World.total_le_total settling_le_holding
        rw [sent] at gone
        omega
      · exact ((booked ticket).nothing_beyond (List.getElem?_eq_none_iff.mp unissued)).2.2.2.1

section Put

variable {happens : Option (Occurrence α)}

theorem collections_untold (untold : ∀ outcome, happens ≠ some (.told ticket outcome)) :
    collections ticket happens.toList = 0 := by
  refine List.countP_eq_zero.mpr fun what member told => ?_
  have happens := Option.mem_toList.mp member
  unfold Occurrence.isCollection at told
  split at told
  · next other outcome =>
    obtain ⟨same, _⟩ := Bool.and_eq_true_iff.mp told
    obtain rfl := of_decide_eq_true same
    exact untold _ happens
  · cases told

theorem Stage.aside (stage : Stage ticket world history) (more : List (Occurrence α))
    {moved : List (Point α)}
    (same : later.deliveries[ticket]? = world.shared.deliveries[ticket]? ∨
      world.shared.deliveries[ticket]? = none ∧ later.deliveries[ticket]? = some .pending)
    (discarded : later.mishaps .discarded ticket = world.shared.mishaps .discarded ticket)
    (unended : ends ticket more = 0)
    (uncollected : collections ticket more = 0) :
    Stage ticket ⟨later, moved⟩ (more ++ history) := by
  have endsNow : ends ticket (more ++ history) = ends ticket history := by
    rw [ends_append, unended, Nat.zero_add]
  have collectedNow : collections ticket (more ++ history) = collections ticket history := by
    rw [collections_append, uncollected, Nat.zero_add]
  have kept {delivery : Delivery α} (found : world.shared.deliveries[ticket]? = some delivery) :
      later.deliveries[ticket]? = some delivery := by
    rcases same with same | ⟨none, _⟩
    · exact same.trans found
    · rw [none] at found
      cases found
  cases stage with
  | pending waits never whole none =>
      refine .pending ?_ (endsNow.trans never) (discarded.trans whole) (collectedNow.trans none)
      rcases same with same | ⟨_, fresh⟩
      · rw [same]
        exact waits
      · exact .inr fresh
  | ready ready ended once whole none =>
      exact .ready (kept ready) (List.mem_append_right _ ended) (endsNow.trans once)
        (discarded.trans whole) (collectedNow.trans none)
  | collected closed once whole one =>
      exact .collected (kept closed) (endsNow.trans once) (discarded.trans whole)
        (collectedNow.trans one)
  | discarded closed never lost none =>
      exact .discarded (kept closed) (endsNow.trans never) (discarded ▸ lost)
        (collectedNow.trans none)

theorem Stage.collect (stage : Stage ticket world history) {moved : List (Point α)}
    (found : world.shared.deliveries[ticket]? = some delivery) :
    Stage ticket ⟨world.shared.setDelivery ticket (Inquiry.collect delivery).2, moved⟩
      (.told ticket (Inquiry.collect delivery).1 :: history) := by
  have idle (untouched : (Inquiry.collect delivery).2 = delivery)
      (uncollected : collections ticket [.told ticket (Inquiry.collect delivery).1] = 0) :
      Stage ticket ⟨world.shared.setDelivery ticket (Inquiry.collect delivery).2, moved⟩
        (.told ticket (Inquiry.collect delivery).1 :: history) := by
    have same : (world.shared.setDelivery ticket (Inquiry.collect delivery).2).deliveries[ticket]? =
        world.shared.deliveries[ticket]? := by
      rw [untouched, found]
      exact World.found_set found
    exact stage.aside [_] (.inl same) rfl rfl uncollected
  cases delivery with
  | pending => exact idle rfl rfl
  | closed => exact idle rfl (by simp [collections, Occurrence.isCollection, Inquiry.collect, isOwn])
  | ready outcome =>
      obtain ⟨worker, ending, rfl, _, once, whole, uncollected⟩ := stage.of_ready found
      refine .collected (World.found_set found) ?_ whole ?_
      · exact (ends_append ticket [_] history).trans ((Nat.zero_add _).trans once)
      · refine (collections_append ticket [_] history).trans ?_
        rw [uncollected]
        simp [collections, Occurrence.isCollection, Inquiry.collect, isOwn_outcome]

theorem Stage.deliver (stage : Stage ticket world history) {ending : Ending α}
    (recorded : Recorded config world) (closed : Closed ticket world history)
    (found : world.threads[me]? = some (.worker (.deliver ticket ending))) {moved : List (Point α)} :
    Stage ticket ⟨world.shared.setDelivery ticket (.ready (Worker.outcome ending)), moved⟩
      (.ended me ticket ending :: history) := by
  obtain ⟨_, booked⟩ := recorded.serving found nofun
  have unsent : sent ticket world = 0 := by
    by_contra gone
    exact (booked ticket).not_delivering (Nat.pos_of_ne_zero gone) found
  have issued := (booked ticket).issued_of_held found
    (by simp [holding, Point.holds?, Worker.holds?, Worker.runs?, isFor])
  have unended : ends ticket history = 0 := closed.ended.trans unsent
  have whole : world.shared.mishaps .discarded ticket = 0 := by
    cases recorded.era with
    | serving idle whole booked => exact whole ticket
    | finished finished taken =>
        exact absurd rfl (finished.ended _ (List.mem_of_getElem? (recorded.alive found nofun)))
  have uncollected : collections ticket history = 0 := by
    cases stage with
    | pending _ _ _ none | discarded _ _ _ none | ready _ _ _ _ none => exact none
    | collected _ once => omega
  refine .ready (World.found_set (List.getElem?_eq_getElem issued)) (List.mem_cons_self ..) ?_ whole
    ?_
  · refine (ends_append ticket [_] history).trans ?_
    rw [unended]
    simp [ends, Occurrence.isEnd]
  · exact (collections_append ticket [_] history).trans ((Nat.zero_add _).trans uncollected)

theorem Stage.dismantle (stage : Stage ticket world history) (recorded : Recorded config world)
    (closed : Closed ticket world history) {moved : List (Point α)} :
    Stage ticket ⟨world.shared.dismantle, moved⟩ history := by
  have discarded : world.shared.dismantle.mishaps .discarded ticket =
      world.shared.mishaps .discarded ticket + world.shared.queuedTimes ticket := by
    rw [mishaps_dismantle, if_pos rfl]
  by_cases left : world.shared.queuedTimes ticket = 0
  · refine stage.aside [] ?_ (by rw [discarded, left, Nat.add_zero]) rfl rfl
    cases found : world.shared.deliveries[ticket]? with
    | none => exact .inl (by rw [Pool.dismantle, List.getElem?_mapIdx, found, Option.map_none])
    | some delivery => exact .inl (by rw [delivery_dismantle found, left, if_neg (Nat.lt_irrefl 0)])
  · have unended : ends ticket history = 0 := by
      rw [closed.ended]
      by_contra gone
      exact left (recorded.not_queued (.inl (Nat.pos_of_ne_zero gone)))
    have lost : 0 < world.shared.dismantle.mishaps .discarded ticket := by omega
    have shut {delivery : Delivery α} (found : world.shared.deliveries[ticket]? = some delivery)
        (closes : delivery.close = .closed) :
        world.shared.dismantle.deliveries[ticket]? = some .closed := by
      rw [delivery_dismantle found, if_pos (Nat.pos_of_ne_zero left), closes]
    cases stage with
    | pending waits _ _ none =>
        rcases waits with unissued | found
        · exact absurd (recorded.not_queued (.inr unissued)) left
        · exact .discarded (shut found rfl) unended lost none
    | discarded found _ _ none => exact .discarded (shut found rfl) unended lost none
    | ready _ _ once | collected _ once => omega

theorem Stage.put (stage : Stage ticket world history) (recorded : Recorded config world)
    (closed : Closed ticket world history) (found : world.threads[me]? = some old)
    (touch : Touch ticket me world.shared later old happens) :
    Stage ticket (world.put me (new, later)) (happens.toList ++ history) := by
  cases touch with
  | aside same discarded unended untold =>
      exact stage.aside _ same discarded unended (collections_untold untold)
  | deliver ending set =>
      subst set
      exact stage.deliver recorded closed found
  | collect foundDelivery tells set =>
      subst tells set
      exact stage.collect foundDelivery
  | expire same =>
      subst same
      refine stage.aside [_] (.inl rfl) rfl rfl ?_
      simp [collections, Occurrence.isCollection, isOwn]
  | dismantle gone =>
      subst gone
      exact stage.dismantle recorded closed

end Put

theorem Stage.of_chronicle (opened : start config = .ok first)
    (chronicle : Chronicle first last history) (ticket : Ticket) : Stage ticket last history := by
  induction chronicle with
  | refl =>
      unfold start at opened
      split at opened
      · cases opened
      · split at opened <;> cases opened
        exact .pending (.inl rfl) rfl rfl rfl
  | move before found moved ih =>
      have recorded : Recorded config _ := (Recorded.start opened).run before.run
      exact ih.put recorded (Closed.of_chronicle opened before ticket) found
        ((recorded.course_of_move found moved).touch (Point.deed_of_move moved))
  | call before made ih => exact ih.aside [_] (.inl rfl) rfl rfl rfl
  | @heed world _ before signal ih =>
      have same : (world.shared.heed signal).deliveries[ticket]? =
          world.shared.deliveries[ticket]? := rfl
      exact ih.aside [] (.inl same) rfl rfl rfl

/-! ## What has been told -/

/-- What somebody has been told of the outcome was true then, and still is. -/
def Truly (ticket : Ticket) (world : Running α) (history : List (Occurrence α))
    (outcome : Outcome α) : Prop :=
  outcome = .error .timeout ∨
  (∃ worker ending, .ended worker ticket ending ∈ history ∧ outcome = Worker.outcome ending) ∨
  outcome = .error .abandoned ∧
    (0 < collections ticket history ∨ 0 < world.shared.mishaps .discarded ticket)

theorem Truly.mono (truly : Truly ticket world history outcome) (more : List (Occurrence α))
    {after : Running α}
    (kept : world.shared.mishaps .discarded ticket ≤ after.shared.mishaps .discarded ticket) :
    Truly ticket after (more ++ history) outcome := by
  rcases truly with timeout | ⟨worker, ending, ended, own⟩ | ⟨abandoned, collected | lost⟩
  · exact .inl timeout
  · exact .inr (.inl ⟨worker, ending, List.mem_append_right _ ended, own⟩)
  · refine .inr (.inr ⟨abandoned, .inl ?_⟩)
    rw [collections_append]
    omega
  · exact .inr (.inr ⟨abandoned, .inr (Nat.lt_of_lt_of_le lost kept)⟩)

theorem Stage.truly (stage : Stage ticket world history)
    (found : world.shared.deliveries[ticket]? = some delivery)
    (tells : (Inquiry.collect delivery).1 = some outcome) : Truly ticket world history outcome := by
  cases delivery with
  | pending => cases tells
  | ready held =>
      cases tells
      obtain ⟨worker, ending, own, ended, _⟩ := stage.of_ready found
      exact .inr (.inl ⟨worker, ending, ended, own⟩)
  | closed =>
      cases tells
      exact .inr (.inr ⟨rfl, stage.of_closed found⟩)

end Turnstile.Pool
