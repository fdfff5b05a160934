import Mathlib.Logic.Function.Basic
import Mathlib.Logic.Relation
import Turnstile.Proofs.Queue.Traffic

/-!
# What became of every item

A `Record` is a queue with its callers and the history of what happened at the
ring: which call stored which item, in order, and which call took which. A step
is a new call, an action of a caller, or the end of a timed wait. `Traced` ties
the history to the callers: those that stored are the ones past their store,
those that took are the ones with an item to return, and what was taken together
with what is in the ring is what was stored.
-/

namespace Turnstile.Queue

set_option autoImplicit false

variable {α : Type}

structure History (α : Type) where
  calls : List (Call α)
  stored : List (ThreadId × α)
  taken : List (ThreadId × α)

namespace History

/-- The history once thread `me` has gone from one point to another: a store that
succeeded and a load that found an item are noted. -/
def note (me : ThreadId) (before after : Option (Point α)) (history : History α) : History α :=
  match before, after with
  | some (.store item), some .postStored =>
    { history with stored := history.stored ++ [(me, item)] }
  | some .load, some (.postLoaded item) =>
    { history with taken := history.taken ++ [(me, item)] }
  | _, _ => history

end History

/-- A queue with its callers, and what happened to it. -/
structure Record (α : Type) where
  world : World (Queue α) (Point α)
  history : History α

namespace Record

def opened (queue : Queue α) : Record α := ⟨⟨queue, []⟩, ⟨[], [], []⟩⟩

def call (call : Call α) (record : Record α) : Record α :=
  ⟨record.world.spawn (start call),
    { record.history with calls := record.history.calls ++ [call] }⟩

def moved (me : ThreadId) (later : World (Queue α) (Point α)) (record : Record α) : Record α :=
  ⟨later, record.history.note me record.world.threads[me]? later.threads[me]?⟩

inductive Step (record : Record α) : Record α → Prop where
  | call (call : Call α) : Step record (record.call call)
  | act (me : ThreadId) {later : World (Queue α) (Point α)}
      (acted : record.world.act? (machine α) me = some later) : Step record (record.moved me later)
  | expire (me : ThreadId) {later : World (Queue α) (Point α)}
      (expired : record.world.expire? (machine α) me = some later) :
      Step record (record.moved me later)

def Leads : Record α → Record α → Prop := Relation.ReflTransGen Step

end Record

def Call.brings : Call α → Option α
  | .push item | .tryPush item => some item
  | _ => none

def Call.seeks : Call α → Bool
  | .pop | .tryPop | .popFor => true
  | _ => false

inductive Serves : Call α → Point α → Prop where
  | pushWait (item : α) : Serves (.push item) (.pushWait item)
  | tryPush (item : α) : Serves (.tryPush item) (.tryPush item)
  | refuse (item : α) : Serves (.tryPush item) (.refuse item)
  | store {call : Call α} {item : α} (brings : call.brings = some item) :
      Serves call (.store item)
  | postStored {call : Call α} {item : α} (brings : call.brings = some item) :
      Serves call .postStored
  | stored {call : Call α} {item : α} (brings : call.brings = some item) :
      Serves call (.done (.push .stored))
  | postClosed {call : Call α} {item : α} (brings : call.brings = some item) :
      Serves call (.postClosed item)
  | refused {call : Call α} {refusal : Refusal α} (brings : call.brings = some refusal.item) :
      Serves call (.done (.push (.refused refusal)))
  | pop : Serves .pop (.popWait false)
  | popFor : Serves .popFor (.popWait true)
  | tryPop {call : Call α} (brief : call = .tryPop ∨ call = .popFor) : Serves call .tryPop
  | load {call : Call α} (seeks : call.seeks = true) : Serves call .load
  | postLoaded {call : Call α} (seeks : call.seeks = true) (item : α) :
      Serves call (.postLoaded item)
  | item {call : Call α} (seeks : call.seeks = true) (item : α) :
      Serves call (.done (.pop (.item item)))
  | passOn {call : Call α} (seeks : call.seeks = true) : Serves call .passOn
  | postNothing {call : Call α} (seeks : call.seeks = true) : Serves call .postNothing
  | nothing {call : Call α} (seeks : call.seeks = true) : Serves call (.done (.pop .nothing))
  | close : Serves .close .close
  | closeFull : Serves .close .closeFull
  | closeOpen : Serves .close .closeOpen
  | closed : Serves .close (.done .closed)

theorem Serves.start (call : Call α) : Serves call (Queue.start call) := by
  cases call with
  | push item => exact .pushWait item
  | tryPush item => exact .tryPush item
  | pop => exact .pop
  | tryPop => exact .tryPop (.inl rfl)
  | popFor => exact .popFor
  | close => exact .close

variable {me : ThreadId} {old new : Point α} {queue changed : Queue α} {call : Call α}

theorem Serves.change (serves : Serves call old) (change : Change me old queue new changed) :
    Serves call new := by
  cases change with
  | getSlot => cases serves; exact .store rfl
  | awaitSlot => exact serves
  | grabSlot => cases serves; exact .store rfl
  | missSlot => cases serves; exact .refuse _
  | refuse =>
      cases serves
      apply Serves.refused
      split <;> rfl
  | store => cases serves with | store brings => exact .postStored brings
  | turnAway => cases serves with | store brings => exact .postClosed brings
  | announce => cases serves with | postStored brings => exact .stored brings
  | handBack => cases serves with | postClosed brings => exact .refused brings
  | getItem => cases serves <;> exact .load rfl
  | awaitItem => exact serves
  | expire => cases serves; exact .tryPop (.inr rfl)
  | grabItem =>
      cases serves with
      | tryPop brief => rcases brief with rfl | rfl <;> exact .load rfl
  | missItem =>
      cases serves with
      | tryPop brief => rcases brief with rfl | rfl <;> exact .nothing rfl
  | load item => cases serves with | load seeks => exact .postLoaded seeks item
  | findNothing => cases serves with | load seeks => exact .passOn seeks
  | vacate item => cases serves with | postLoaded seeks => exact .item seeks item
  | pass => cases serves with | passOn seeks => exact .postNothing seeks
  | leave => cases serves with | postNothing seeks => exact .nothing seeks
  | close => cases serves; exact .closeFull
  | closeAgain => cases serves; exact .closed
  | closeFull => cases serves; exact .closeOpen
  | closeOpen => cases serves; exact .closed

def Point.isStored : Point α → Bool
  | .postStored | .done (.push .stored) => true
  | _ => false

def Point.got? : Point α → Option α
  | .postLoaded item | .done (.pop (.item item)) => some item
  | _ => none

theorem Change.effect (change : Change me old queue new changed)
    (holds : queue.ring.Holds queue.toList) :
    (∃ item, old = .store item ∧ new = .postStored ∧ changed.toList = queue.toList ++ [item]) ∨
    (∃ item, old = .load ∧ new = .postLoaded item ∧ queue.toList = item :: changed.toList) ∨
    (changed.toList = queue.toList ∧ new.isStored = old.isStored ∧ new.got? = old.got? ∧
      ∀ history : History α, history.note me (some old) (some new) = history) := by
  cases change with
  | store item isOpen put =>
      obtain ⟨after, _⟩ := holds.of_put put
      exact .inl ⟨item, rfl, rfl, after.toList_eq⟩
  | load item took =>
      obtain ⟨rest, split, after, _⟩ := holds.of_take took
      refine .inr (.inl ⟨item, rfl, rfl, ?_⟩)
      rw [split, toList, after.toList_eq]
  | _ => exact .inr (.inr ⟨rfl, rfl, rfl, fun _ => rfl⟩)

/-- A log that has one entry for each thread that shows an item, and no other. -/
structure Keeps (log : List (ThreadId × α)) (shows : ThreadId → Option α) : Prop where
  distinct : (log.map Prod.fst).Nodup
  shown : ∀ me item, (me, item) ∈ log ↔ shows me = some item

theorem Keeps.append {log : List (ThreadId × α)} {shows : ThreadId → Option α}
    (keeps : Keeps log shows) (fresh : shows me = none) (item : α) :
    Keeps (log ++ [(me, item)]) (Function.update shows me (some item)) := by
  refine ⟨?_, ?_⟩
  · rw [List.map_append, List.nodup_append]
    refine ⟨keeps.distinct, by simp, ?_⟩
    intro listed member last lastMember same
    obtain ⟨⟨other, there⟩, entry, rfl⟩ := List.mem_map.mp member
    rw [List.map_singleton, List.mem_singleton] at lastMember
    have shown := (keeps.shown other there).mp entry
    simp only at same
    rw [same, lastMember, fresh] at shown
    cases shown
  · intro other there
    by_cases same : other = me
    · subst same
      have absent : (other, there) ∉ log := by
        intro entry
        have shown := (keeps.shown other there).mp entry
        rw [fresh] at shown
        cases shown
      simp [absent, eq_comm]
    · simp [same, keeps.shown]

def brought (calls : List (Call α)) (callers : List (Point α)) (me : ThreadId) : Option α :=
  callers[me]?.bind fun point => if point.isStored then calls[me]?.bind Call.brings else none

def got (callers : List (Point α)) (me : ThreadId) : Option α := callers[me]?.bind Point.got?

variable {calls : List (Call α)} {callers : List (Point α)}

theorem brought_set (found : callers[me]? = some old) (new : Point α) :
    brought calls (callers.set me new) = Function.update (brought calls callers) me
      (if new.isStored then calls[me]?.bind Call.brings else none) := by
  funext other
  by_cases same : other = me
  · subst same
    rw [brought, World.found_set found, Function.update_self]
    rfl
  · rw [Function.update_of_ne same, brought, brought, List.getElem?_set_ne (Ne.symm same)]

theorem got_set (found : callers[me]? = some old) (new : Point α) :
    got (callers.set me new) = Function.update (got callers) me new.got? := by
  funext other
  by_cases same : other = me
  · subst same
    rw [got, World.found_set found, Function.update_self]
    rfl
  · rw [Function.update_of_ne same, got, got, List.getElem?_set_ne (Ne.symm same)]

theorem brought_append (lengths : calls.length = callers.length) (call : Call α) :
    brought (calls ++ [call]) (callers ++ [start call]) = brought calls callers := by
  funext me
  unfold brought
  rcases Nat.lt_trichotomy me callers.length with before | here | beyond
  · rw [List.getElem?_append_left before, List.getElem?_append_left (lengths ▸ before)]
  · subst here
    cases call <;> simp [start, Point.isStored]
  · rw [List.getElem?_eq_none (Nat.le_of_lt beyond), List.getElem?_eq_none]
    · rfl
    · rw [List.length_append]
      exact beyond

theorem got_append (call : Call α) : got (callers ++ [start call]) = got callers := by
  funext me
  unfold got
  rcases Nat.lt_trichotomy me callers.length with before | here | beyond
  · rw [List.getElem?_append_left before]
  · subst here
    cases call <;> simp [start, Point.got?]
  · rw [List.getElem?_eq_none (Nat.le_of_lt beyond), List.getElem?_eq_none]
    rw [List.length_append]
    exact beyond

/-- The history fits the queue and its callers. -/
structure Traced (capacity : Nat) (record : Record α) : Prop where
  counted : Counted record.world.shared record.world.threads
  capacity : record.world.shared.capacity = capacity
  lengths : record.history.calls.length = record.world.threads.length
  serves : ∀ (me : ThreadId) (call : Call α) (point : Point α),
    record.history.calls[me]? = some call → record.world.threads[me]? = some point →
    Serves call point
  order : record.history.stored.map Prod.snd =
    record.history.taken.map Prod.snd ++ record.world.shared.toList
  stored : Keeps record.history.stored (brought record.history.calls record.world.threads)
  taken : Keeps record.history.taken (got record.world.threads)
  emptied : ∀ me : ThreadId, record.history.calls[me]? = some .pop →
    record.world.threads[me]? = some (.done (.pop .nothing)) →
    record.world.shared.closed = true ∧ record.world.shared.toList = []

namespace Traced

variable {capacity : Nat} {record later : Record α}

theorem start (made : ofCapacity capacity = .ok queue) :
    Traced capacity (Record.opened queue) := by
  have counted := Counted.start made
  have empty := (Balanced.ofCapacity made).2
  obtain ⟨_, _, rfl⟩ := eq_of_made made
  refine ⟨counted, Ring.capacity_ofCapacity capacity, rfl, ?_, ?_, ⟨by simp [Record.opened], ?_⟩,
    ⟨by simp [Record.opened], ?_⟩, ?_⟩
  · intro me call point calls
    simp [Record.opened] at calls
  · simp [Record.opened, empty]
  · simp [Record.opened, brought]
  · simp [Record.opened, got]
  · intro me calls
    simp [Record.opened] at calls

theorem caller_cases (lengths : calls.length = callers.length) {call other : Call α}
    {point : Point α} (called : (calls ++ [call])[me]? = some other)
    (found : (callers ++ [Queue.start call])[me]? = some point) :
    (calls[me]? = some other ∧ callers[me]? = some point) ∨
      (other = call ∧ point = Queue.start call) := by
  rcases Nat.lt_trichotomy me callers.length with before | here | beyond
  · rw [List.getElem?_append_left (lengths ▸ before)] at called
    rw [List.getElem?_append_left before] at found
    exact .inl ⟨called, found⟩
  · subst here
    rw [List.getElem?_concat_length] at found
    rw [← lengths, List.getElem?_concat_length] at called
    cases called
    cases found
    exact .inr ⟨rfl, rfl⟩
  · rw [List.getElem?_eq_none] at found
    · cases found
    · rw [List.length_append]
      exact beyond

theorem issue (traced : Traced capacity record) (call : Call α) :
    Traced capacity (record.call call) := by
  have lengths := traced.lengths
  refine ⟨traced.counted.spawn call, traced.capacity, ?_, ?_, traced.order, ?_, ?_, ?_⟩
  · simp [Record.call, World.spawn, lengths]
  · intro me other point called found
    rcases caller_cases lengths called found with ⟨called, found⟩ | ⟨rfl, rfl⟩
    · exact traced.serves me other point called found
    · exact .start other
  · have stored := traced.stored
    rw [← brought_append lengths call] at stored
    exact stored
  · have taken := traced.taken
    rw [← got_append call] at taken
    exact taken
  · intro me called found
    rcases caller_cases lengths called found with ⟨called, found⟩ | ⟨rfl, start⟩
    · exact traced.emptied me called found
    · cases start

theorem call_of_caller (traced : Traced capacity record) {point : Point α}
    (found : record.world.threads[me]? = some point) :
    ∃ call, record.history.calls[me]? = some call ∧ Serves call point := by
  obtain ⟨bound, _⟩ := List.getElem?_eq_some_iff.mp found
  have called := List.getElem?_eq_getElem (traced.lengths ▸ bound)
  exact ⟨_, called, traced.serves me _ _ called found⟩

theorem brings_of_store (traced : Traced capacity record) {item : α}
    (found : record.world.threads[me]? = some (.store item)) :
    record.history.calls[me]?.bind Call.brings = some item := by
  obtain ⟨call, called, serves⟩ := traced.call_of_caller found
  rw [called]
  cases serves with
  | store brings => exact brings

theorem brought_stays (calls : List (Call α)) (found : callers[me]? = some old) (stays : new.isStored = old.isStored) :
    brought calls (callers.set me new) = brought calls callers := by
  rw [brought_set found, Function.update_eq_self_iff, stays]
  simp [brought, found]

theorem got_stays (found : callers[me]? = some old) (stays : new.got? = old.got?) :
    got (callers.set me new) = got callers := by
  rw [got_set found, Function.update_eq_self_iff, stays]
  simp [got, found]

theorem change (traced : Traced capacity record) (found : record.world.threads[me]? = some old)
    (change : Change me old record.world.shared new changed) :
    Traced capacity (record.moved me (record.world.put me (new, changed))) := by
  have holds := traced.counted.holds
  have here : (record.world.threads.set me new)[me]? = some new := World.found_set found
  have same : record.moved me (record.world.put me (new, changed)) =
      ⟨⟨changed, record.world.threads.set me new⟩,
        record.history.note me (some old) (some new)⟩ := by
    simp only [Record.moved, World.put, found, here]
  have serves : ∀ (other : ThreadId) (call : Call α) (point : Point α),
      record.history.calls[other]? = some call →
      (record.world.threads.set me new)[other]? = some point → Serves call point := by
    intro other call point called there
    by_cases mine : other = me
    · subst mine
      rw [here] at there
      cases there
      exact (traced.serves other call old called found).change change
    · rw [List.getElem?_set_ne (Ne.symm mine)] at there
      exact traced.serves other call point called there
  have emptied : ∀ other : ThreadId, record.history.calls[other]? = some .pop →
      (record.world.threads.set me new)[other]? = some (.done (.pop .nothing)) →
      changed.closed = true ∧ changed.toList = [] := by
    intro other called there
    apply change.stays_settled holds
    by_cases mine : other = me
    · subst mine
      rw [here] at there
      cases there
      have before := traced.serves other .pop old called found
      cases change with
      | missItem => cases before with | tryPop brief => rcases brief with brief | brief <;> cases brief
      | leave => exact traced.counted.settled (World.weight_le_total passing found)
    · rw [List.getElem?_set_ne (Ne.symm mine)] at there
      exact traced.emptied other called there
  have lengths : record.history.calls.length = (record.world.threads.set me new).length := by
    rw [List.length_set]
    exact traced.lengths
  have counted := traced.counted.change found change
  have capacity := (change.holds holds).2.trans traced.capacity
  rw [same]
  rcases change.effect holds with ⟨item, rfl, rfl, items⟩ | ⟨item, rfl, rfl, items⟩ |
    ⟨items, stays, keeps, unnoted⟩
  · refine ⟨counted, capacity, lengths, serves, ?_, ?_, ?_, emptied⟩
    · simp [History.note, traced.order, items]
    · have fresh : brought record.history.calls record.world.threads me = none := by
        simp [brought, found, Point.isStored]
      have stored := traced.stored.append fresh item
      rw [← traced.brings_of_store found] at stored
      simp only [brought_set found]
      exact stored
    · have stays := got_stays found (show Point.postStored.got? = (Point.store item).got? from rfl)
      have taken := traced.taken
      rw [← stays] at taken
      exact taken
  · refine ⟨counted, capacity, lengths, serves, ?_, ?_, ?_, emptied⟩
    · simp [History.note, traced.order, items]
    · have stays := brought_stays record.history.calls found
        (show (Point.postLoaded item).isStored = Point.load.isStored from rfl)
      have stored := traced.stored
      rw [← stays] at stored
      exact stored
    · have fresh : got record.world.threads me = none := by simp [got, found, Point.got?]
      have taken := traced.taken.append fresh item
      simp only [got_set found]
      exact taken
  · rw [unnoted]
    refine ⟨counted, capacity, lengths, serves, ?_, ?_, ?_, emptied⟩
    · rw [items]
      exact traced.order
    · have stored := traced.stored
      rw [← brought_stays record.history.calls found stays] at stored
      exact stored
    · have taken := traced.taken
      rw [← got_stays found keeps] at taken
      exact taken

theorem step_cases (traced : Traced capacity record) (step : record.Step later) :
    (∃ call, later = record.call call) ∨
      ∃ (me : ThreadId) (old new : Point α) (changed : Queue α),
        record.world.threads[me]? = some old ∧ Change me old record.world.shared new changed ∧
          later = record.moved me (record.world.put me (new, changed)) := by
  cases step with
  | call call => exact .inl ⟨call, rfl⟩
  | act me acted =>
      rw [World.act?, Option.bind_eq_some_iff] at acted
      obtain ⟨old, found, acted⟩ := acted
      rw [Option.map_eq_some_iff] at acted
      obtain ⟨⟨new, changed⟩, acted, rfl⟩ := acted
      exact .inr ⟨me, old, new, changed, found, change_of_act traced.counted found acted, rfl⟩
  | expire me expired =>
      rw [World.expire?, Option.bind_eq_some_iff] at expired
      obtain ⟨old, found, expired⟩ := expired
      rw [Option.map_eq_some_iff] at expired
      obtain ⟨⟨new, changed⟩, expired, rfl⟩ := expired
      exact .inr ⟨me, old, new, changed, found, change_of_expire expired, rfl⟩

theorem step (traced : Traced capacity record) (step : record.Step later) :
    Traced capacity later := by
  rcases traced.step_cases step with ⟨call, rfl⟩ | ⟨me, old, new, changed, found, change, rfl⟩
  · exact traced.issue call
  · exact traced.change found change

theorem leads (traced : Traced capacity record) (leads : record.Leads later) :
    Traced capacity later := by
  induction leads with
  | refl => exact traced
  | tail _ step ih => exact ih.step step

end Traced

end Turnstile.Queue
