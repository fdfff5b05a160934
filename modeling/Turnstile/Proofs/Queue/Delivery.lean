import Turnstile.Proofs.Queue.History

/-!
# A bounded queue delivers every item once, in order

Whatever calls are made, and however their actions interleave: an item that was
handed to a push lies in exactly one `Place`, the items leave in the order in
which they were stored, and no check fails. A pop that returns without an item
returns from a queue that is empty for good, and where nothing moves any more a
popper waits only for an item and a pusher only for a slot.
-/

namespace Turnstile.Queue

set_option autoImplicit false

variable {α : Type}

/-- Where an item can be that was handed to a push. -/
inductive Place where
  /-- In the hands of the call that brought it. -/
  | held
  /-- In the ring, behind so many others. -/
  | inside (index : Nat)
  /-- With a call that took it. -/
  | given (popper : ThreadId)
  /-- Handed back with the reason. -/
  | returned

/-- The item that a call brings and still has in hand. -/
def Point.offers? : Point α → Option α
  | .pushWait item | .tryPush item | .refuse item | .store item | .postClosed item => some item
  | _ => none

/-- The item of a call lies at a place. -/
def Lies (record : Record α) (pusher : ThreadId) (item : α) : Place → Prop
  | .held => ∃ point, record.world.threads[pusher]? = some point ∧ point.offers? = some item
  | .inside index =>
    record.history.stored[record.history.taken.length + index]? = some (pusher, item) ∧
      record.world.shared.toList[index]? = some item
  | .given popper => ∃ index : Nat, record.history.stored[index]? = some (pusher, item) ∧
      record.history.taken[index]? = some (popper, item) ∧
      ∃ point, record.world.threads[popper]? = some point ∧ point.got? = some item
  | .returned => ∃ refusal : Refusal α,
      record.world.threads[pusher]? = some (.done (.push (.refused refusal))) ∧
        refusal.item = item

variable {me pusher popper : ThreadId} {item : α} {capacity : Nat} {queue : Queue α}
  {record later : Record α}

theorem brings_of_seeks {call : Call α} (seeks : call.seeks = true) : call.brings = none := by
  cases call with
  | push | tryPush | close => cases seeks
  | pop | tryPop | popFor => rfl

theorem Keeps.index_eq {log : List (ThreadId × α)} {shows : ThreadId → Option α}
    (keeps : Keeps log shows) {first second : Nat} {here there : α}
    (foundFirst : log[first]? = some (me, here)) (foundSecond : log[second]? = some (me, there)) :
    first = second := by
  obtain ⟨bound, _⟩ := List.getElem?_eq_some_iff.mp foundFirst
  have bound : first < (log.map Prod.fst).length := by rwa [List.length_map]
  apply (List.getElem?_inj bound keeps.distinct).mp
  rw [List.getElem?_map, List.getElem?_map, foundFirst, foundSecond]
  rfl

theorem got_of_point {point : Point α} (found : record.world.threads[me]? = some point)
    (gets : point.got? = some item) : got record.world.threads me = some item := by
  rw [got, found]
  exact gets

theorem point_of_got (gets : got record.world.threads me = some item) :
    ∃ point, record.world.threads[me]? = some point ∧ point.got? = some item := by
  rw [got, Option.bind_eq_some_iff] at gets
  exact gets

namespace Traced

theorem taken_or_inside (traced : Traced capacity record) {index : Nat}
    (stored : record.history.stored[index]? = some (pusher, item)) :
    (∃ popper, record.history.taken[index]? = some (popper, item)) ∨
      (record.history.taken.length ≤ index ∧
        record.world.shared.toList[index - record.history.taken.length]? = some item) := by
  have listed : (record.history.stored.map Prod.snd)[index]? = some item := by
    rw [List.getElem?_map, stored]
    rfl
  rw [traced.order] at listed
  by_cases early : index < record.history.taken.length
  · left
    rw [List.getElem?_append_left (by rwa [List.length_map]), List.getElem?_map,
      Option.map_eq_some_iff] at listed
    obtain ⟨⟨popper, taken⟩, entry, rfl⟩ := listed
    exact ⟨popper, entry⟩
  · right
    rw [List.getElem?_append_right (by rw [List.length_map]; omega), List.length_map] at listed
    exact ⟨by omega, listed⟩

theorem caller_of_call (traced : Traced capacity record) {call : Call α}
    (called : record.history.calls[me]? = some call) :
    ∃ point, record.world.threads[me]? = some point ∧ Serves call point := by
  obtain ⟨bound, _⟩ := List.getElem?_eq_some_iff.mp called
  have found := List.getElem?_eq_getElem (traced.lengths ▸ bound)
  exact ⟨_, found, traced.serves me _ _ called found⟩

theorem isStored_of_entry (traced : Traced capacity record) {index : Nat} {point : Point α}
    (found : record.world.threads[pusher]? = some point)
    (stored : record.history.stored[index]? = some (pusher, item)) : point.isStored = true := by
  have shown := (traced.stored.shown pusher item).mp (List.mem_of_getElem? stored)
  rw [brought, found] at shown
  by_contra other
  simp [other] at shown

theorem one_place_of_stored (traced : Traced capacity record) {point : Point α}
    (found : record.world.threads[pusher]? = some point) (isStored : point.isStored = true)
    (brings : record.history.calls[pusher]?.bind Call.brings = some item) :
    ∃! place, Lies record pusher item place := by
  have shown : brought record.history.calls record.world.threads pusher = some item := by
    rw [brought, found, Option.bind_some, isStored, if_pos rfl]
    exact brings
  obtain ⟨index, stored⟩ := List.mem_iff_getElem?.mp ((traced.stored.shown pusher item).mpr shown)
  have notHeld : ¬ Lies record pusher item .held := by
    rintro ⟨other, foundOther, offers⟩
    rw [found] at foundOther
    cases foundOther
    unfold Point.isStored at isStored
    split at isStored <;> simp_all [Point.offers?]
  have notReturned : ¬ Lies record pusher item .returned := by
    rintro ⟨refusal, foundOther, _⟩
    rw [found] at foundOther
    cases foundOther
    cases isStored
  rcases traced.taken_or_inside stored with ⟨popper, taken⟩ | ⟨late, inside⟩
  · have gets := (traced.taken.shown popper item).mp (List.mem_of_getElem? taken)
    refine ⟨.given popper, ⟨index, stored, taken, point_of_got gets⟩, ?_⟩
    intro place lies
    cases place with
    | held => exact absurd lies notHeld
    | returned => exact absurd lies notReturned
    | inside other =>
        have same := traced.stored.index_eq stored lies.1
        obtain ⟨bound, _⟩ := List.getElem?_eq_some_iff.mp taken
        omega
    | given other =>
        obtain ⟨second, storedSecond, takenSecond, _⟩ := lies
        have same := traced.stored.index_eq stored storedSecond
        subst same
        rw [taken] at takenSecond
        cases takenSecond
        rfl
  · refine ⟨.inside (index - record.history.taken.length), ⟨?_, inside⟩, ?_⟩
    · rw [Nat.add_sub_cancel' late]
      exact stored
    · intro place lies
      cases place with
      | held => exact absurd lies notHeld
      | returned => exact absurd lies notReturned
      | inside other =>
          have same := traced.stored.index_eq stored lies.1
          congr 1
          omega
      | given other =>
          obtain ⟨second, storedSecond, takenSecond, _⟩ := lies
          have same := traced.stored.index_eq stored storedSecond
          obtain ⟨bound, _⟩ := List.getElem?_eq_some_iff.mp takenSecond
          omega

theorem one_place_of_offered (traced : Traced capacity record) {point : Point α}
    (found : record.world.threads[pusher]? = some point) (offers : point.offers? = some item) :
    ∃! place, Lies record pusher item place := by
  have notStored : point.isStored = false := by
    unfold Point.offers? at offers
    split at offers <;> simp_all [Point.isStored]
  refine ⟨.held, ⟨point, found, offers⟩, ?_⟩
  intro place lies
  cases place with
  | held => rfl
  | inside other =>
      rw [traced.isStored_of_entry found lies.1] at notStored
      cases notStored
  | given other =>
      obtain ⟨_, stored, _⟩ := lies
      rw [traced.isStored_of_entry found stored] at notStored
      cases notStored
  | returned =>
      obtain ⟨refusal, foundOther, _⟩ := lies
      rw [found] at foundOther
      cases foundOther
      cases offers

theorem one_place_of_refused (traced : Traced capacity record) {refusal : Refusal α}
    (found : record.world.threads[pusher]? = some (.done (.push (.refused refusal)))) :
    ∃! place, Lies record pusher refusal.item place := by
  refine ⟨.returned, ⟨refusal, found, rfl⟩, ?_⟩
  intro place lies
  cases place with
  | returned => rfl
  | held =>
      obtain ⟨point, foundOther, offers⟩ := lies
      rw [found] at foundOther
      cases foundOther
      cases offers
  | inside other => cases traced.isStored_of_entry found lies.1
  | given other =>
      obtain ⟨_, stored, _⟩ := lies
      cases traced.isStored_of_entry found stored

theorem one_place (traced : Traced capacity record) {call : Call α}
    (called : record.history.calls[pusher]? = some call) (brings : call.brings = some item) :
    ∃! place, Lies record pusher item place := by
  obtain ⟨point, found, serves⟩ := traced.caller_of_call called
  have bound : record.history.calls[pusher]?.bind Call.brings = some item := by
    rw [called]
    exact brings
  cases serves with
  | pushWait other =>
      cases brings
      exact traced.one_place_of_offered found rfl
  | tryPush other =>
      cases brings
      exact traced.one_place_of_offered found rfl
  | refuse other =>
      cases brings
      exact traced.one_place_of_offered found rfl
  | store same | postClosed same =>
      rw [same] at brings
      cases brings
      exact traced.one_place_of_offered found rfl
  | postStored | stored => exact traced.one_place_of_stored found rfl bound
  | refused same =>
      rw [same] at brings
      cases brings
      exact traced.one_place_of_refused found
  | tryPop brief => rcases brief with rfl | rfl <;> cases brings
  | load seeks | postLoaded seeks | item seeks | passOn seeks | postNothing seeks
  | nothing seeks =>
      rw [brings_of_seeks seeks] at brings
      cases brings
  | pop | popFor | close | closeFull | closeOpen | closed => cases brings

theorem one_giver (traced : Traced capacity record) {point : Point α}
    (found : record.world.threads[popper]? = some point) (gets : point.got? = some item) :
    ∃! pusher, Lies record pusher item (.given popper) := by
  have shown := got_of_point found gets
  obtain ⟨index, taken⟩ := List.mem_iff_getElem?.mp ((traced.taken.shown popper item).mpr shown)
  obtain ⟨bound, _⟩ := List.getElem?_eq_some_iff.mp taken
  have listed : (record.history.stored.map Prod.snd)[index]? = some item := by
    rw [traced.order, List.getElem?_append_left (by rwa [List.length_map]), List.getElem?_map,
      taken]
    rfl
  rw [List.getElem?_map, Option.map_eq_some_iff] at listed
  obtain ⟨⟨pusher, _⟩, stored, rfl⟩ := listed
  refine ⟨pusher, ⟨index, stored, taken, point, found, gets⟩, ?_⟩
  rintro other ⟨second, storedSecond, takenSecond, _⟩
  have same := traced.taken.index_eq taken takenSecond
  subst same
  rw [stored] at storedSecond
  cases storedSecond
  rfl

theorem no_fault (traced : Traced capacity record) (fault : Fault) :
    record.world.threads[me]? ≠ some (.done (.push (.fault fault))) ∧
      record.world.threads[me]? ≠ some (.done (.pop (.fault fault))) := by
  refine ⟨?_, ?_⟩ <;>
  · intro found
    obtain ⟨call, _, serves⟩ := traced.call_of_caller found
    cases serves

theorem emptied_for_good (traced : Traced capacity record)
    (called : record.history.calls[me]? = some .pop)
    (answered : record.world.threads[me]? = some (.done (.pop .nothing)))
    (leads : record.Leads later) :
    later.world.shared.closed = true ∧ later.world.shared.toList = [] := by
  induction leads with
  | refl => exact traced.emptied me called answered
  | tail before step ih =>
      have mid := traced.leads before
      rcases mid.step_cases step with ⟨call, rfl⟩ | ⟨me, old, new, changed, found, change, rfl⟩
      · exact ih
      · exact change.stays_settled mid.counted.holds ih

theorem full_of_parked (traced : Traced capacity record)
    (quiet : record.world.Quiet (machine α))
    (found : record.world.threads[me]? = some (.pushWait item)) :
    me ∈ record.world.shared.openSlots.line ∧ record.world.shared.closed = false ∧
      record.world.shared.len = record.world.shared.capacity := by
  obtain ⟨member, isOpen, full⟩ := traced.counted.full_of_parked quiet found
  exact ⟨member, isOpen, traced.counted.len_eq.trans full⟩

theorem empty_of_parked (traced : Traced capacity record)
    (quiet : record.world.Quiet (machine α)) {timed : Bool}
    (found : record.world.threads[me]? = some (.popWait timed)) :
    me ∈ record.world.shared.fullSlots.line ∧ record.world.shared.closed = false ∧
      record.world.shared.len = 0 := by
  obtain ⟨member, isOpen, empty⟩ := traced.counted.empty_of_parked quiet found
  exact ⟨member, isOpen, traced.counted.len_eq.trans (by rw [empty]; rfl)⟩

end Traced

/-- Whatever calls are made of a queue, and however they interleave: it never holds more
than its capacity; items leave in the order in which they were stored, every item that
was handed to a push lies in exactly one place, and every item that a pop returns was
brought by exactly one push; no check fails; a pop returns nothing only from a queue
that is closed and empty from then on; and where nothing moves any more, a pusher is
left waiting only by a full and a popper only by an empty queue that is open. -/
theorem delivered_once_and_in_order (capacity : Nat) (queue : Queue α)
    (made : ofCapacity capacity = .ok queue) (record : Record α)
    (leads : (Record.opened queue).Leads record) :
    (record.world.shared.capacity = capacity ∧ record.world.shared.len ≤ capacity) ∧
    (record.history.stored.map Prod.snd =
        record.history.taken.map Prod.snd ++ record.world.shared.toList ∧
      (∀ (pusher : ThreadId) (item : α),
        record.history.calls[pusher]? = some (.push item) ∨
          record.history.calls[pusher]? = some (.tryPush item) →
        ∃! place, Lies record pusher item place) ∧
      (∀ (popper : ThreadId) (point : Point α) (item : α),
        record.world.threads[popper]? = some point → point.got? = some item →
        ∃! pusher, Lies record pusher item (.given popper))) ∧
    (∀ (me : ThreadId) (fault : Fault),
      record.world.threads[me]? ≠ some (.done (.push (.fault fault))) ∧
        record.world.threads[me]? ≠ some (.done (.pop (.fault fault)))) ∧
    (∀ (me : ThreadId) (later : Record α), record.history.calls[me]? = some .pop →
      record.world.threads[me]? = some (.done (.pop .nothing)) → record.Leads later →
      later.world.shared.closed = true ∧ later.world.shared.len = 0) ∧
    (record.world.Quiet (machine α) → ∀ (me : ThreadId) (point : Point α),
      record.world.threads[me]? = some point →
      (∃ answer, point = .done answer) ∨
      (∃ item, point = .pushWait item ∧ me ∈ record.world.shared.openSlots.line ∧
        record.world.shared.closed = false ∧ record.world.shared.len = capacity) ∨
      ∃ timed, point = .popWait timed ∧ me ∈ record.world.shared.fullSlots.line ∧
        record.world.shared.closed = false ∧ record.world.shared.len = 0) := by
  have traced : Traced capacity record := (Traced.start made).leads leads
  refine ⟨⟨traced.capacity, ?_⟩, ⟨traced.order, ?_, ?_⟩, ?_, ?_, ?_⟩
  · rw [traced.counted.len_eq, ← traced.capacity]
    exact traced.counted.length_le
  · intro pusher item called
    rcases called with called | called
    · exact traced.one_place called rfl
    · exact traced.one_place called rfl
  · intro popper point item found gets
    exact traced.one_giver found gets
  · intro me fault
    exact traced.no_fault fault
  · intro me later called answered onward
    obtain ⟨closed, empty⟩ := traced.emptied_for_good called answered onward
    refine ⟨closed, ?_⟩
    rw [(traced.leads onward).counted.len_eq, empty]
    rfl
  · intro quiet me point found
    rcases rests_of_still (World.still_of_quiet quiet found) with
      answered | ⟨item, rfl, _⟩ | ⟨timed, rfl, _⟩
    · exact .inl answered
    · obtain ⟨parked, isOpen, full⟩ := traced.full_of_parked quiet found
      exact .inr (.inl ⟨item, rfl, parked, isOpen, full.trans traced.capacity⟩)
    · exact .inr (.inr ⟨timed, rfl, traced.empty_of_parked quiet found⟩)

/-- A queue with one slot, which holds the item of thread 0, while thread 1 waits. -/
def crowded : Record Nat :=
  ⟨⟨⟨⟨#[some 7], 0, 0, 1⟩, false, ⟨0, [1]⟩, ⟨1, []⟩⟩, [.done (.push .stored), .pushWait 8]⟩,
    ⟨[.push 7, .push 8], [(0, 7)], []⟩⟩

private theorem leads_to_crowded :
    (Record.opened ⟨.ofCapacity 1, false, .ofPermits 1, .empty⟩).Leads crowded :=
  .tail (.tail (.tail (.tail (.tail (.tail .refl
    (.call (.push 7))) (.act 0 rfl)) (.act 0 rfl)) (.act 0 rfl)) (.call (.push 8))) (.act 1 rfl)

private theorem crowded_quiet : crowded.world.Quiet (machine Nat) := by
  intro me
  match me with
  | 0 | 1 | _ + 2 => rfl

theorem crowded_keeps_the_second_item :
    (∃! place, Lies crowded 1 8 place) ∧ crowded.world.shared.closed = false ∧
      crowded.world.shared.len = 1 := by
  obtain ⟨_, ⟨_, onePlace, _⟩, _, _, parked⟩ :=
    delivered_once_and_in_order 1 _ rfl crowded leads_to_crowded
  refine ⟨onePlace 1 8 (.inl rfl), ?_⟩
  rcases parked crowded_quiet 1 (.pushWait 8) rfl with ⟨_, here⟩ | ⟨_, _, _, full⟩ | ⟨_, here, _⟩
  · cases here
  · exact full
  · cases here

end Turnstile.Queue
