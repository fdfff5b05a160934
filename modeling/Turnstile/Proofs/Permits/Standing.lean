import Turnstile.Permits.Backend
import Turnstile.Proofs.Semaphore

/-!
# What callers of a permit counter do to it

However a counter is kept, a caller stands in one of a few ways to the count and to
the line of those that wait, and `Change` lists what it can do to them next. A
release is not one action: the permits are there first, and somebody is woken for
them later.

Each call has an `Entry` of what it has added and taken. `Sound` says that the entries
account for the count, that each call has added and taken what belongs to its kind and
its answer, and that the line is attended: a caller counts as awake from the moment
at which it is about to look at the count, and so does one that has added a permit and
is about to wake somebody.
-/

namespace Turnstile.Permits

set_option autoImplicit false

open World (total)

/-- How a caller stands to the count and to the line. -/
inductive Standing where
  | adding (permits : UInt64) (wake : Wake)
  /-- Has added its permits and has still to wake somebody for them. -/
  | waking (wake : Wake)
  /-- Is about to look at the count. -/
  | seeking (fallback : Parking.Fallback)
  /-- Is in the line, or was just taken out of it. -/
  | asleep (timed : Bool)
  | done (answer : Answer)
  deriving DecidableEq, Repr

namespace Standing

/-- How a caller goes on that wants a permit and finds none. -/
def wants? : Standing → Option Parking.Fallback
  | seeking fallback => some fallback
  | asleep timed => some (.wait timed)
  | _ => none

def answer? : Standing → Option Answer
  | done answer => some answer
  | _ => none

def isAdding : Standing → Bool
  | adding _ _ => true
  | _ => false

/-- For how many permits a caller stays awake, or wakes others. -/
def hope : Standing → Nat
  | waking .one | seeking _ | asleep _ => 1
  | waking .all => UInt64.size
  | adding _ _ | done _ => 0

theorem hope_of_wants {standing : Standing} {fallback : Parking.Fallback}
    (wants : standing.wants? = some fallback) : standing.hope = 1 := by
  cases standing with
  | seeking | asleep => rfl
  | adding | waking | done => cases wants

end Standing

/-- Everybody in the line stands where callers sleep. -/
def Parked (line : List ThreadId) (standings : List Standing) : Prop :=
  ∀ me ∈ line, ∃ timed, standings[me]? = some (.asleep timed)

theorem Parked.outside {line : List ThreadId} {standings : List Standing} {me : ThreadId}
    {standing : Standing} (parked : Parked line standings)
    (found : standings[me]? = some standing) (awake : ∀ timed, standing ≠ .asleep timed) :
    me ∉ line := by
  intro member
  obtain ⟨timed, asleep⟩ := parked me member
  rw [found] at asleep
  cases asleep
  exact awake timed rfl

/-- What a caller can do next to the count and the line. -/
inductive Change (me : ThreadId) : Standing → Semaphore → Standing → Semaphore → Prop where
  | add (permits : UInt64) (wake : Wake) (counter : Semaphore) :
      Change me (.adding permits wake) counter (.waking wake)
        { counter with permits := counter.permits + permits }
  | overflow (permits : UInt64) (wake : Wake) {counter : Semaphore}
      (exceeds : UInt64.size ≤ counter.permits.toNat + permits.toNat) :
      Change me (.adding permits wake) counter (.done (.fault .sumOverflow)) counter
  | rest {standing : Standing} (awake : ∀ timed, standing ≠ .asleep timed) (counter : Semaphore) :
      Change me standing counter standing counter
  | rise (timed : Bool) {counter : Semaphore} (outside : me ∉ counter.line) :
      Change me (.asleep timed) counter (.seeking (.wait timed)) counter
  | findNobody (wake : Wake) {counter : Semaphore} (nobody : counter.line = []) :
      Change me (.waking wake) counter (.done .released) counter
  | rouse (counter : Semaphore) :
      Change me (.waking .one) counter (.done .released)
        { counter with line := counter.line.tail }
  | rouseAll (counter : Semaphore) :
      Change me (.waking .all) counter (.done .released) { counter with line := [] }
  | take {old : Standing} {fallback : Parking.Fallback} {counter later : Semaphore}
      (wants : old.wants? = some fallback) (taken : counter.wait me = .taken later) :
      Change me old counter (.done .taken) later
  | join {old : Standing} {timed : Bool} {counter later : Semaphore}
      (wants : old.wants? = some (.wait timed)) (joined : counter.wait me = .joined later) :
      Change me old counter (.asleep timed) later
  | giveUp {counter : Semaphore} (outside : me ∉ counter.line) (none : counter.permits = 0) :
      Change me (.seeking .giveUp) counter (.done .refused) counter
  | withdraw {counter later : Semaphore} (withdrawn : counter.withdraw? me = some later) :
      Change me (.asleep true) counter (.seeking .giveUp) later

def SemaphoreCall.permits : SemaphoreCall → Nat
  | post => 1
  | postMany permits => permits.toNat
  | wait | tryWait | waitUntil => 0

def SemaphoreCall.MayAnswer : SemaphoreCall → Answer → Prop
  | post, answer | postMany _, answer => answer = .released
  | wait, answer => answer = .taken
  | tryWait, answer | waitUntil, answer => answer = .taken ∨ answer = .refused

inductive Serves : SemaphoreCall → Standing → Prop where
  | post : Serves .post (.adding 1 .one)
  | rouse : Serves .post (.waking .one)
  | postMany (permits : UInt64) (some : permits ≠ 0) :
      Serves (.postMany permits) (.adding permits .all)
  | rouseAll (permits : UInt64) : Serves (.postMany permits) (.waking .all)
  | wait : Serves .wait (.seeking (.wait false))
  | sleep : Serves .wait (.asleep false)
  | tryWait : Serves .tryWait (.seeking .giveUp)
  | waitUntil (fallback : Parking.Fallback) (timed : fallback ≠ .wait false) :
      Serves .waitUntil (.seeking fallback)
  | sleepUntil : Serves .waitUntil (.asleep true)
  | done {call : SemaphoreCall} {answer : Answer} (may : call.MayAnswer answer) :
      Serves call (.done answer)

/-- A call, and what it has added to the count and taken from it. -/
structure Entry where
  call : SemaphoreCall
  added : Nat
  taken : Nat
  deriving DecidableEq, Repr

namespace Entry

/-- The count went from one number to another by an action of the call. -/
def note (before after : UInt64) (entry : Entry) : Entry :=
  { entry with
    added := entry.added + (after.toNat - before.toNat)
    taken := entry.taken + (before.toNat - after.toNat) }

/-- What the call has still to add. -/
def due (entry : Entry) : Nat := entry.call.permits - entry.added

theorem note_of_eq (entry : Entry) (permits : UInt64) : entry.note permits permits = entry := by
  simp [note]

end Entry

/-- An entry fits a caller: a call that is past its addition has added its permits, and
a call has taken one permit if that is its answer, and otherwise none. -/
structure Booked (entry : Entry) (standing : Standing) : Prop where
  serves : Serves entry.call standing
  added : entry.added = if standing.isAdding then 0 else entry.call.permits
  taken : entry.taken = if standing = .done .taken then 1 else 0

variable {me : ThreadId} {old new : Standing} {counter changed : Semaphore} {entry : Entry}

theorem Booked.due_of_adding {permits : UInt64} {wake : Wake}
    (booked : Booked entry (.adding permits wake)) : entry.due = permits.toNat := by
  have none : entry.added = 0 := booked.added
  have asked : entry.call.permits = permits.toNat := by
    obtain ⟨call, _, _⟩ := entry
    cases booked.serves with
    | post | postMany => rfl
  rw [Entry.due, none, asked, Nat.sub_zero]

theorem Booked.wake_of_adding {permits : UInt64} {wake : Wake}
    (booked : Booked entry (.adding permits wake)) :
    permits.toNat ≤ (Standing.waking wake).hope := by
  obtain ⟨call, _, _⟩ := entry
  cases booked.serves with
  | post => exact Nat.le_refl 1
  | postMany permits some => exact Nat.le_of_lt permits.toNat_lt

theorem Booked.permits_of_wants {fallback : Parking.Fallback} (booked : Booked entry old)
    (wants : old.wants? = some fallback) :
    entry.call.permits = 0 ∧ entry.taken = 0 ∧ entry.call.MayAnswer .taken := by
  obtain ⟨call, _, _⟩ := entry
  have taken := booked.taken
  cases booked.serves with
  | post | rouse | postMany | rouseAll | done => cases wants
  | wait | sleep => exact ⟨rfl, taken, rfl⟩
  | tryWait | waitUntil | sleepUntil => exact ⟨rfl, taken, .inl rfl⟩

theorem Booked.change (booked : Booked entry old) (change : Change me old counter new changed)
    (room : counter.permits.toNat + entry.due < UInt64.size) :
    Booked (entry.note counter.permits changed.permits) new := by
  obtain ⟨call, has, took⟩ := entry
  have serves := booked.serves
  have added := booked.added
  have taken := booked.taken
  simp only at serves added taken
  cases change with
  | add permits wake =>
      rw [booked.due_of_adding] at room
      have sum := Semaphore.toNat_permits_add counter.permits permits room
      have due : call.permits - has = permits.toNat := booked.due_of_adding
      simp only [Standing.isAdding, if_true] at added
      simp only [reduceCtorEq, if_false] at taken
      refine ⟨?_, ?_, ?_⟩
      · cases serves with
        | post => exact .rouse
        | postMany permits some => exact .rouseAll permits
      · simp only [Entry.note, Standing.isAdding, sum, Bool.false_eq_true, if_false]
        omega
      · simp only [Entry.note, sum, reduceCtorEq, if_false]
        omega
  | overflow permits wake exceeds =>
      rw [booked.due_of_adding] at room
      omega
  | rest =>
      rw [Entry.note_of_eq]
      exact booked
  | rise timed outside =>
      rw [Entry.note_of_eq]
      refine ⟨?_, added, taken⟩
      cases serves with
      | sleep => exact .wait
      | sleepUntil => exact .waitUntil _ (by simp)
  | findNobody wake nobody =>
      rw [Entry.note_of_eq]
      refine ⟨?_, added, taken⟩
      cases serves <;> exact .done rfl
  | rouse =>
      rw [Entry.note_of_eq]
      refine ⟨?_, added, taken⟩
      cases serves
      exact .done rfl
  | rouseAll =>
      rw [Entry.note_of_eq]
      refine ⟨?_, added, taken⟩
      cases serves
      exact .done rfl
  | take wants receives =>
      obtain ⟨none, untaken, may⟩ := booked.permits_of_wants wants
      have fewer := Semaphore.toNat_permits_taken receives
      simp only at none untaken may
      rw [none, ite_self] at added
      refine ⟨.done may, ?_, ?_⟩
      · simp only [Entry.note, Standing.isAdding, Bool.false_eq_true, if_false]
        omega
      · simp only [Entry.note, if_true]
        omega
  | join wants joined =>
      rw [Semaphore.permits_joined joined, Entry.note_of_eq]
      cases serves with
      | wait | sleep =>
          cases wants
          exact ⟨.sleep, added, taken⟩
      | waitUntil fallback patient =>
          cases wants
          rename_i timed
          cases timed with
          | false => exact absurd rfl patient
          | true => exact ⟨.sleepUntil, added, taken⟩
      | sleepUntil =>
          cases wants
          exact ⟨.sleepUntil, added, taken⟩
      | tryWait | post | rouse | postMany | rouseAll | done => cases wants
  | giveUp outside empty =>
      rw [Entry.note_of_eq]
      refine ⟨?_, added, taken⟩
      cases serves <;> exact .done (.inr rfl)
  | withdraw withdrawn =>
      rw [Semaphore.permits_withdraw withdrawn, Entry.note_of_eq]
      refine ⟨?_, added, taken⟩
      cases serves
      exact .waitUntil _ (by simp)

/-- The entries of all calls account for the count and for the line. -/
structure Sound (initial : UInt64) (entries : List Entry) (standings : List Standing)
    (counter : Semaphore) : Prop where
  lengths : entries.length = standings.length
  balance : counter.permits.toNat + total Entry.taken entries =
    initial.toNat + total Entry.added entries
  booked : ∀ (me : ThreadId) (entry : Entry) (standing : Standing),
    entries[me]? = some entry → standings[me]? = some standing → Booked entry standing
  parked : Parked counter.line standings
  attended : counter.Attended Standing.hope standings

namespace Sound

variable {initial : UInt64} {entries : List Entry} {standings : List Standing}

theorem start (initial : UInt64) : Sound initial [] [] (.ofPermits initial) := by
  refine ⟨rfl, rfl, ?_, ?_, .ofPermits initial⟩
  · intro me entry standing found
    cases found
  · intro me member
    cases member

theorem call (sound : Sound initial entries standings counter) {entry : Entry}
    {standing : Standing} (booked : Booked entry standing) (unadded : entry.added = 0)
    (untaken : entry.taken = 0) :
    Sound initial (entries ++ [entry]) (standings ++ [standing]) counter := by
  have lengths := sound.lengths
  refine ⟨by simp [lengths], ?_, ?_, ?_, sound.attended.append standing⟩
  · rw [World.total_append, World.total_append, unadded, untaken]
    exact sound.balance
  · intro me other there foundEntry foundStanding
    rw [List.getElem?_append] at foundEntry foundStanding
    rw [lengths] at foundEntry
    by_cases before : me < standings.length
    · rw [if_pos before] at foundEntry foundStanding
      exact sound.booked me other there foundEntry foundStanding
    · rw [if_neg before] at foundEntry foundStanding
      obtain rfl := List.mem_singleton.mp (List.mem_of_getElem? foundEntry)
      obtain rfl := List.mem_singleton.mp (List.mem_of_getElem? foundStanding)
      exact booked
  · intro me member
    obtain ⟨timed, found⟩ := sound.parked me member
    exact ⟨timed, World.found_append found⟩

theorem entry_of_found (sound : Sound initial entries standings counter)
    (found : standings[me]? = some old) : ∃ entry, entries[me]? = some entry ∧ Booked entry old := by
  obtain ⟨bound, _⟩ := List.getElem?_eq_some_iff.mp found
  have listed := List.getElem?_eq_getElem (sound.lengths ▸ bound)
  exact ⟨_, listed, sound.booked me _ old listed found⟩

private theorem attended_change (sound : Sound initial entries standings counter)
    (found : standings[me]? = some old) (booked : Booked entry old)
    (change : Change me old counter new changed) :
    changed.Attended Standing.hope (standings.set me new) := by
  have attended := sound.attended
  cases change with
  | add permits wake => exact attended.add found permits booked.wake_of_adding
  | overflow => exact attended.set found (Nat.zero_le _)
  | rest => exact attended.set found (Nat.le_refl _)
  | rise => exact attended.set found (Nat.le_refl 1)
  | findNobody wake nobody =>
      exact attended.leave (sound.parked.outside found (by simp)) (.inr nobody)
  | rouse => exact attended.rouse found (sound.parked.outside found (by simp)) (Nat.le_refl 1)
  | rouseAll => exact ⟨by simp, by simp, by simp⟩
  | take wants taken => exact attended.taken found (Standing.hope_of_wants wants) taken
  | join wants joined =>
      have slept := Standing.hope_of_wants wants
      have stays := attended.joined found (by omega) joined
      exact stays.set found (by rw [slept]; exact Nat.le_refl 1)
  | giveUp outside none => exact attended.leave outside (.inl none)
  | withdraw withdrawn => exact attended.withdraw found rfl withdrawn

private theorem parked_change (sound : Sound initial entries standings counter)
    (found : standings[me]? = some old) (change : Change me old counter new changed) :
    Parked changed.line (standings.set me new) := by
  have stays (awake : me ∉ counter.line) : ∀ other ∈ counter.line,
      ∃ timed, (standings.set me new)[other]? = some (.asleep timed) := by
    intro other member
    obtain ⟨timed, asleep⟩ := sound.parked other member
    have different : me ≠ other := fun same => awake (same ▸ member)
    exact ⟨timed, by rwa [List.getElem?_set_ne different]⟩
  cases change with
  | add | overflow => exact stays (sound.parked.outside found (by simp))
  | rest awake => exact stays (sound.parked.outside found awake)
  | rise timed outside | giveUp outside => exact stays outside
  | findNobody => exact stays (sound.parked.outside found (by simp))
  | rouse =>
      intro other member
      exact stays (sound.parked.outside found (by simp)) other (List.mem_of_mem_tail member)
  | rouseAll =>
      intro other member
      cases member
  | take wants taken =>
      obtain ⟨outside, _, rfl⟩ := Semaphore.wait_taken taken
      exact stays outside
  | join wants joined =>
      obtain ⟨outside, _, rfl⟩ := Semaphore.wait_joined joined
      intro other member
      rcases List.mem_append.mp member with member | member
      · exact stays outside other member
      · obtain rfl := List.mem_singleton.mp member
        exact ⟨_, World.found_set found⟩
  | withdraw withdrawn =>
      obtain ⟨_, rfl⟩ := Semaphore.withdraw_eq_some withdrawn
      intro other member
      obtain ⟨different, listed⟩ := sound.attended.distinct.mem_erase_iff.mp member
      obtain ⟨timed, asleep⟩ := sound.parked other listed
      exact ⟨timed, by rwa [List.getElem?_set_ne (Ne.symm different)]⟩

theorem change (sound : Sound initial entries standings counter)
    (found : standings[me]? = some old) (listed : entries[me]? = some entry)
    (change : Change me old counter new changed)
    (room : counter.permits.toNat + entry.due < UInt64.size) :
    Sound initial (entries.set me (entry.note counter.permits changed.permits))
      (standings.set me new) changed := by
  have booked := sound.booked me entry old listed found
  refine ⟨by simp [sound.lengths], ?_, ?_, sound.parked_change found change,
    sound.attended_change found booked change⟩
  · have before := sound.balance
    have taken := World.total_set Entry.taken listed (entry.note counter.permits changed.permits)
    have added := World.total_set Entry.added listed (entry.note counter.permits changed.permits)
    simp only [Entry.note] at taken added ⊢
    omega
  · intro other there standing foundEntry foundStanding
    by_cases same : me = other
    · subst same
      rw [World.found_set listed] at foundEntry
      rw [World.found_set found] at foundStanding
      cases foundEntry
      cases foundStanding
      exact booked.change change room
    · rw [List.getElem?_set_ne same] at foundEntry foundStanding
      exact sound.booked other there standing foundEntry foundStanding

theorem no_permit_of_parked (sound : Sound initial entries standings counter)
    (rests : ∀ (me : ThreadId) (standing : Standing), standings[me]? = some standing →
      (∃ answer, standing = .done answer) ∨
        ∃ timed, standing = .asleep timed ∧ me ∈ counter.line)
    (found : standings[me]? = some old) (waits : old.answer? = none) :
    counter.permits = 0 ∧ me ∈ counter.line := by
  have member : me ∈ counter.line := by
    rcases rests me old found with ⟨answer, rfl⟩ | ⟨timed, _, member⟩
    · cases waits
    · exact member
  refine ⟨sound.attended.permits_eq_zero_of_listed ?_ (List.ne_nil_of_mem member), member⟩
  intro other standing foundOther hopes
  rcases rests other standing foundOther with ⟨answer, rfl⟩ | ⟨timed, rfl, parked⟩
  · cases hopes
  · exact ⟨rfl, parked⟩

end Sound

end Turnstile.Permits
