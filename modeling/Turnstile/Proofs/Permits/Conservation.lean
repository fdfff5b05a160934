import Mathlib.Logic.Relation
import Turnstile.Proofs.Permits.Reading

/-!
# No permit is lost or invented

A `Record` is a counter with its callers and an entry for each call, in which every
action of the call notes what it did to the count. A step is a new call, an action or
the end of a timed wait, in any order, as long as no addition leaves the range of the
count. What the entries add up to, and what a call answers, then holds for every
counter that has a reading.
-/

namespace Turnstile.Permits

set_option autoImplicit false

open World (total)

structure Record (backend : Backend) where
  world : World backend.Shared backend.Point
  entries : List Entry

namespace Record

variable {backend : Backend}

def opened (backend : Backend) (initial : UInt64) : Record backend :=
  ⟨⟨backend.ofPermits initial, []⟩, []⟩

def count (record : Record backend) : UInt64 := backend.count record.world.shared

def call (call : SemaphoreCall) (record : Record backend) : Record backend :=
  ⟨record.world.spawn (call.start backend), record.entries ++ [⟨call, 0, 0⟩]⟩

def moved (me : ThreadId) (later : World backend.Shared backend.Point)
    (record : Record backend) : Record backend :=
  ⟨later, record.entries.modify me (Entry.note record.count (backend.count later.shared))⟩

/-- The count has room for what thread `me` has still to add. -/
def Room (me : ThreadId) (record : Record backend) : Prop :=
  ∀ entry, record.entries[me]? = some entry → record.count.toNat + entry.due < UInt64.size

inductive Step (record : Record backend) : Record backend → Prop where
  | call (call : SemaphoreCall) : Step record (record.call call)
  | act (me : ThreadId) {later : World backend.Shared backend.Point}
      (acted : record.world.act? backend.machine me = some later) (room : record.Room me) :
      Step record (record.moved me later)
  | expire (me : ThreadId) {later : World backend.Shared backend.Point}
      (expired : record.world.expire? backend.machine me = some later) :
      Step record (record.moved me later)

def Leads : Record backend → Record backend → Prop := Relation.ReflTransGen Step

end Record

variable {backend : Backend} {reading : Reading backend} {initial : UInt64}
variable {record later : Record backend}

namespace Reading

def counter (reading : Reading backend) (shared : backend.Shared) : Semaphore :=
  ⟨backend.count shared, reading.line shared⟩

theorem stands (reading : Reading backend) {points : List backend.Point} {me : ThreadId}
    {point : backend.Point} (found : points[me]? = some point) :
    (points.map reading.standing)[me]? = some (reading.standing point) := by
  rw [List.getElem?_map, found]
  rfl

theorem booked_start (reading : Reading backend) (call : SemaphoreCall) :
    Booked ⟨call, 0, 0⟩ (reading.standing (call.start backend)) := by
  cases call with
  | post =>
      rw [SemaphoreCall.start, reading.starts]
      exact ⟨.post, rfl, rfl⟩
  | postMany permits =>
      rw [SemaphoreCall.start]
      split
      · next none =>
        rw [reading.returned]
        exact ⟨.done rfl, by rw [none]; rfl, rfl⟩
      · next some =>
        rw [reading.starts]
        exact ⟨.postMany permits some, rfl, rfl⟩
  | wait =>
      rw [SemaphoreCall.start, reading.starts]
      exact ⟨.wait, rfl, rfl⟩
  | tryWait =>
      rw [SemaphoreCall.start, reading.starts]
      exact ⟨.tryWait, rfl, rfl⟩
  | waitUntil =>
      rw [SemaphoreCall.start, reading.starts]
      exact ⟨.waitUntil _ (by simp), rfl, rfl⟩

end Reading

structure Kept (reading : Reading backend) (initial : UInt64) (record : Record backend) : Prop where
  upholds : reading.Upholds record.world.shared record.world.threads
  sound : Sound initial record.entries (record.world.threads.map reading.standing)
    (reading.counter record.world.shared)

namespace Kept

theorem opened (reading : Reading backend) (initial : UInt64) :
    Kept reading initial (.opened backend initial) := by
  obtain ⟨count, line, upholds⟩ := reading.opened initial
  refine ⟨upholds, ?_⟩
  have sound := Sound.start initial
  rw [Semaphore.ofPermits] at sound
  simp only [Record.opened, Reading.counter, count, line]
  exact sound

theorem call (kept : Kept reading initial record) (call : SemaphoreCall) :
    Kept reading initial (record.call call) := by
  refine ⟨reading.called _ _ call kept.upholds, ?_⟩
  have sound := kept.sound.call (reading.booked_start call) rfl rfl
  simp only [Record.call, World.spawn, List.map_append, List.map_cons, List.map_nil]
  exact sound

theorem moved (kept : Kept reading initial record) {me : ThreadId}
    {old new : backend.Point} {changed : backend.Shared}
    (found : record.world.threads[me]? = some old)
    (change : Change me (reading.standing old) (reading.counter record.world.shared)
      (reading.standing new) (reading.counter changed))
    (upholds : reading.Upholds changed (record.world.threads.set me new))
    (room : record.Room me) :
    Kept reading initial (record.moved me (record.world.put me (new, changed))) := by
  have stands := reading.stands found
  obtain ⟨entry, listed, _⟩ := kept.sound.entry_of_found stands
  refine ⟨upholds, ?_⟩
  have sound := kept.sound.change stands listed change (room entry listed)
  rw [← List.map_set] at sound
  have noted : record.entries.modify me (Entry.note record.count (backend.count changed)) =
      record.entries.set me (entry.note record.count (backend.count changed)) := by
    rw [List.modify_eq_set_getElem?, listed]
    rfl
  simp only [Record.moved, World.put]
  rw [noted]
  exact sound

theorem room_of_asleep (kept : Kept reading initial record) {me : ThreadId}
    {old : backend.Point} {timed : Bool} (found : record.world.threads[me]? = some old)
    (asleep : reading.standing old = .asleep timed) : record.Room me := by
  intro entry listed
  have stands := reading.stands found
  rw [asleep] at stands
  have added : entry.added = entry.call.permits :=
    (kept.sound.booked me entry _ listed stands).added
  rw [Entry.due, added, Nat.sub_self]
  exact UInt64.toNat_lt _

theorem step (kept : Kept reading initial record) (step : record.Step later) :
    Kept reading initial later := by
  cases step with
  | call call => exact kept.call call
  | act me acted room =>
      rw [World.act?, Option.bind_eq_some_iff] at acted
      obtain ⟨old, found, acted⟩ := acted
      rw [Option.map_eq_some_iff] at acted
      obtain ⟨⟨new, changed⟩, acted, rfl⟩ := acted
      obtain ⟨change, upholds⟩ :=
        reading.acts me _ old new _ changed kept.upholds kept.sound.parked found acted
      exact kept.moved found change upholds room
  | expire me expired =>
      rw [World.expire?, Option.bind_eq_some_iff] at expired
      obtain ⟨old, found, expired⟩ := expired
      rw [Option.map_eq_some_iff] at expired
      obtain ⟨⟨new, changed⟩, expired, rfl⟩ := expired
      obtain ⟨expired, upholds⟩ :=
        reading.expires me _ old new _ changed kept.upholds found expired
      exact kept.moved found expired.change upholds (kept.room_of_asleep found expired.asleep)

theorem leads (kept : Kept reading initial record) (leads : record.Leads later) :
    Kept reading initial later := by
  induction leads with
  | refl => exact kept
  | tail _ step ih => exact ih.step step

theorem lengths (kept : Kept reading initial record) :
    record.entries.length = record.world.threads.length := by
  rw [kept.sound.lengths, List.length_map]

theorem booked (kept : Kept reading initial record) {me : ThreadId} {entry : Entry}
    (listed : record.entries[me]? = some entry) :
    ∃ standing, Booked entry standing ∧
      record.world.answer? backend.machine me = standing.answer? := by
  obtain ⟨bound, _⟩ := List.getElem?_eq_some_iff.mp listed
  obtain ⟨point, found⟩ : ∃ point, record.world.threads[me]? = some point :=
    ⟨_, List.getElem?_eq_getElem (kept.lengths ▸ bound)⟩
  refine ⟨_, kept.sound.booked me entry _ listed (reading.stands found), ?_⟩
  rw [World.answer?, found]
  exact reading.answers _

theorem no_permit_of_parked (kept : Kept reading initial record)
    (quiet : record.world.Quiet backend.machine) {me : ThreadId} {point : backend.Point}
    (found : record.world.threads[me]? = some point)
    (waits : backend.machine.answer? point = none) : record.count = 0 := by
  rw [reading.answers] at waits
  refine (kept.sound.no_permit_of_parked ?_ (reading.stands found) waits).1
  intro other standing there
  rw [List.getElem?_map, Option.map_eq_some_iff] at there
  obtain ⟨point, there, rfl⟩ := there
  have still := quiet other
  rw [World.act?, there] at still
  exact reading.still other point _ (Option.map_eq_none_iff.mp still)

end Kept

namespace Booked

variable {entry : Entry} {standing : Standing}

theorem taken_of_answer (booked : Booked entry standing) :
    entry.taken = if standing.answer? = some .taken then 1 else 0 := by
  rw [booked.taken]
  cases standing <;> simp [Standing.answer?]

theorem added_or_pending (booked : Booked entry standing) :
    entry.added = entry.call.permits ∨ entry.added = 0 ∧ standing.answer? = none := by
  have added := booked.added
  cases standing with
  | adding permits wake => exact .inr ⟨added, rfl⟩
  | waking | seeking | asleep | done => exact .inl added

theorem may_answer {answer : Answer} (booked : Booked entry standing)
    (answered : standing.answer? = some answer) : entry.call.MayAnswer answer := by
  obtain ⟨call, _, _⟩ := entry
  cases standing with
  | done other =>
      cases answered
      cases booked.serves with
      | done may => exact may
  | adding | waking | seeking | asleep => cases answered

end Booked

/-- Whichever counter a semaphore is kept in, however many call it, and however their
actions interleave: the count is what it began with, with what was added and without
what was taken; a call has taken one permit if it answers that it has, and otherwise
none; it has added its permits once it has returned; its answer is one of its kind,
so that a post never fails and a wait without an end never gives up; and where nobody
can act any more, a caller is left waiting only if there is no permit. -/
theorem no_permit_lost_or_invented {name : String} (known : Backend.ofName? name = some backend)
    (initial : UInt64) (record : Record backend)
    (leads : (Record.opened backend initial).Leads record) :
    record.entries.length = record.world.threads.length ∧
    record.count.toNat + total Entry.taken record.entries =
      initial.toNat + total Entry.added record.entries ∧
    (∀ (me : ThreadId) (entry : Entry), record.entries[me]? = some entry →
      (entry.taken = if record.world.answer? backend.machine me = some .taken then 1 else 0) ∧
      (entry.added = entry.call.permits ∨
        entry.added = 0 ∧ record.world.answer? backend.machine me = none) ∧
      ∀ answer, record.world.answer? backend.machine me = some answer →
        entry.call.MayAnswer answer) ∧
    (record.world.Quiet backend.machine → ∀ (me : ThreadId) (point : backend.Point),
      record.world.threads[me]? = some point → backend.machine.answer? point = none →
      record.count = 0) := by
  obtain ⟨reading⟩ := exists_reading known
  have kept : Kept reading initial record := (Kept.opened reading initial).leads leads
  refine ⟨kept.lengths, kept.sound.balance, ?_, ?_⟩
  · intro me entry listed
    obtain ⟨standing, booked, answers⟩ := kept.booked listed
    rw [answers]
    exact ⟨booked.taken_of_answer, booked.added_or_pending, fun _ => booked.may_answer⟩
  · intro quiet me point found waits
    exact kept.no_permit_of_parked quiet found waits

/-- Thread 0 was woken by the post of thread 1, but thread 2 was faster, and thread 0
sleeps again. -/
def raided : Record .parking :=
  ⟨⟨⟨0, 1, [0]⟩, [.parked false, .done .released, .done .taken]⟩,
    [⟨.wait, 0, 0⟩, ⟨.post, 1, 0⟩, ⟨.tryWait, 0, 1⟩]⟩

private theorem act_within {backend : Backend} {record : Record backend}
    {later : World backend.Shared backend.Point} (me : ThreadId) {entry : Entry}
    (acted : record.world.act? backend.machine me = some later)
    (listed : record.entries[me]? = some entry)
    (room : record.count.toNat + entry.due < UInt64.size) :
    record.Step (record.moved me later) := by
  refine .act me acted fun other there => ?_
  rw [listed] at there
  cases there
  exact room

private theorem leads_to_raided : (Record.opened .parking 0).Leads raided := by
  have asleep : (Record.opened .parking 0).Leads
      ⟨⟨⟨0, 1, [0]⟩, [.parked false]⟩, [⟨.wait, 0, 0⟩]⟩ :=
    .tail (.tail (.tail (.tail .refl (.call .wait))
      (act_within 0 rfl rfl (by decide))) (act_within 0 rfl rfl (by decide)))
      (act_within 0 rfl rfl (by decide))
  have woken : (Record.opened .parking 0).Leads
      ⟨⟨⟨1, 1, []⟩, [.parked false, .done .released]⟩, [⟨.wait, 0, 0⟩, ⟨.post, 1, 0⟩]⟩ :=
    .tail (.tail (.tail (.tail asleep (.call .post))
      (act_within 1 rfl rfl (by decide))) (act_within 1 rfl rfl (by decide)))
      (act_within 1 rfl rfl (by decide))
  have taken : (Record.opened .parking 0).Leads
      ⟨⟨⟨0, 1, []⟩, [.parked false, .done .released, .done .taken]⟩,
        [⟨.wait, 0, 0⟩, ⟨.post, 1, 0⟩, ⟨.tryWait, 0, 1⟩]⟩ :=
    .tail (.tail (.tail woken (.call .tryWait))
      (act_within 2 rfl rfl (by decide))) (act_within 2 rfl rfl (by decide))
  exact .tail (.tail (.tail (.tail (.tail taken
    (act_within 0 rfl rfl (by decide))) (act_within 0 rfl rfl (by decide)))
    (act_within 0 rfl rfl (by decide))) (act_within 0 rfl rfl (by decide)))
    (act_within 0 rfl rfl (by decide))

private theorem raided_quiet : raided.world.Quiet Parking.machine := by
  intro me
  match me with
  | 0 | 1 | 2 | _ + 3 => rfl

theorem raided_has_no_permit : raided.count = 0 ∧ raided.world.answer? Parking.machine 0 = none := by
  obtain ⟨_, _, _, parked⟩ := no_permit_lost_or_invented (show Backend.ofName? "futex" = _ from rfl)
    0 raided leads_to_raided
  exact ⟨parked raided_quiet 0 (.parked false) rfl rfl, rfl⟩

end Turnstile.Permits
