import Turnstile.Lock.Sharing
import Turnstile.Proofs.Semaphore
import Turnstile.Proofs.SignedWord

/-!
# What the words of a shared lock count

Of a thread that uses a shared lock only its `Role` matters to the word of the
readers, to `departing` and to the two semaphores. `Change` lists what a thread
in a role can do to them, and `Counted` says what they count: the word counts
the readers inside and those that wait, below the roof or, from the moment a
writer has lowered it until it leaves, below zero.

The rest of `Counted` goes by the stage of that writer. Until it has published
how many readers it found, `departing` is short by just that number. While it
drains, the readers inside, those on the way out, and the permits of an earlier
release, which readers that came behind the writer may take, make up
`departing`, and the writer has a post to expect exactly when that is zero.
Once it is inside, all of them are gone.
-/

namespace Turnstile.Lock.Sharing

set_option autoImplicit false

open World (total)

theorem toInt_roof : roof.toInt = 9223372036854775807 := rfl

theorem toInt_add_roof (word : Int64) (below : word.toInt ≤ 0) :
    (word + roof).toInt = word.toInt + 9223372036854775807 := by
  have lower := word.le_toInt
  exact toInt_add_of_fits word roof (by rw [toInt_roof]; omega) (by rw [toInt_roof]; omega)

theorem toInt_sub_roof (word : Int64) (above : 0 ≤ word.toInt) :
    (word - roof).toInt = word.toInt - 9223372036854775807 := by
  have upper := word.toInt_lt
  exact toInt_sub_of_fits word roof (by rw [toInt_roof]; omega) (by rw [toInt_roof]; omega)

theorem toInt_roof_sub (word : Int64) (above : 0 ≤ word.toInt) :
    (roof - word).toInt = 9223372036854775807 - word.toInt := by
  have upper := word.toInt_lt
  exact toInt_sub_of_fits roof word (by rw [toInt_roof]; omega) (by rw [toInt_roof]; omega)

theorem toNat_deficit (word : Int64) (lower : -2 ^ 63 < word.toInt) (below : word.toInt ≤ 0) :
    ((-word).toUInt64.toNat : Int) = -word.toInt := by
  have negated : (-word).toInt = -word.toInt := by
    rw [Int64.toInt_neg]
    apply Int.bmod_eq_of_le <;> omega
  have positive : 0 ≤ -word := by
    rw [Int64.le_iff_toInt_le, negated, Int64.toInt_zero]
    omega
  rw [Int64.toNat_toUInt64_of_le positive, ← Int64.toNat_toInt, negated]
  omega

/-- What a thread is to the readers' side of the lock. -/
inductive Role where
  | idle
  | reading
  /-- Counted, but waits until a writer lets it in. -/
  | waiting
  /-- A reader that left below a writer and has still to say so. -/
  | parting
  /-- The last reader, on its way to wake the writer. -/
  | waking
  /-- A writer that has passed the gate. -/
  | passed
  /-- A writer that found so many readers inside. -/
  | counting (inside : Int64)
  | draining
  | writing
  /-- A writer that left and is to let so many readers in. -/
  | hosting (readers : UInt64)
  deriving DecidableEq, Repr

namespace Role

@[simp] def reads : Role → Nat
  | .reading => 1
  | _ => 0

@[simp] def waits : Role → Nat
  | .waiting => 1
  | _ => 0

@[simp] def parts : Role → Nat
  | .parting => 1
  | _ => 0

@[simp] def wakes : Role → Nat
  | .waking => 1
  | _ => 0

@[simp] def counts : Role → Nat
  | .counting _ => 1
  | _ => 0

/-- The readers that a writer found and has not published. -/
@[simp] def finds : Role → Nat
  | .counting inside => inside.toInt.toNat
  | _ => 0

@[simp] def drains : Role → Nat
  | .draining => 1
  | _ => 0

@[simp] def writes : Role → Nat
  | .writing => 1
  | _ => 0

/-- The permits that a writer is about to post. -/
@[simp] def hosts : Role → Nat
  | .hosting readers => readers.toNat
  | _ => 0

/-- The thread is a writer between its two passages of the gate. -/
@[simp] def admitted : Role → Nat
  | .idle | .reading | .waiting | .parting | .waking => 0
  | .passed | .counting _ | .draining | .writing | .hosting _ => 1

end Role

open Role

/-- What a thread can do next on the readers' side of the lock. -/
inductive Change (me : ThreadId) : Role → Sharing → Role → Sharing → Prop where
  | rest (role : Role) (lock : Sharing) (gate : Exclusive) :
      Change me role lock role { lock with gate }
  | pass (lock : Sharing) (gate : Exclusive) : Change me .idle lock .passed { lock with gate }
  | retreat (lock : Sharing) : Change me .passed lock .idle lock
  | accept {lock : Sharing} (clear : 1 ≤ lock.readers) :
      Change me .idle lock .reading { lock with readers := lock.readers - 1 }
  | defer {lock : Sharing} (shut : lock.readers < 1) :
      Change me .idle lock .waiting { lock with readers := lock.readers - 1 }
  | rise {lock : Sharing} {readerWait : Semaphore}
      (taken : lock.readerWait.wait me = .taken readerWait) :
      Change me .waiting lock .reading { lock with readerWait }
  | park {lock : Sharing} {readerWait : Semaphore}
      (joined : lock.readerWait.wait me = .joined readerWait) :
      Change me .waiting lock .waiting { lock with readerWait }
  | leave {lock : Sharing} (clear : 0 ≤ lock.readers) :
      Change me .reading lock .idle { lock with readers := lock.readers + 1 }
  | depart {lock : Sharing} (shut : lock.readers < 0) :
      Change me .reading lock .parting { lock with readers := lock.readers + 1 }
  | conclude {lock : Sharing} (last : lock.departing = 1) :
      Change me .parting lock .waking { lock with departing := lock.departing - 1 }
  | part {lock : Sharing} (more : lock.departing ≠ 1) :
      Change me .parting lock .idle { lock with departing := lock.departing - 1 }
  | wake (lock : Sharing) : Change me .waking lock .idle { lock with writerWait := lock.writerWait.post }
  | occupy {lock : Sharing} (empty : lock.readers = roof) :
      Change me .passed lock .writing { lock with readers := lock.readers - roof }
  | lower {lock : Sharing} (below : lock.readers < roof) :
      Change me .passed lock (.counting (roof - lock.readers))
        { lock with readers := lock.readers - roof }
  | succeed {lock : Sharing} {inside : Int64} (none : lock.departing.toInt + inside.toInt = 0) :
      Change me (.counting inside) lock .writing { lock with departing := lock.departing + inside }
  | publish {lock : Sharing} {inside : Int64} (positive : 0 ≤ inside.toInt)
      (some : lock.departing.toInt + inside.toInt ≠ 0) :
      Change me (.counting inside) lock .draining { lock with departing := lock.departing + inside }
  | drain {lock : Sharing} {writerWait : Semaphore}
      (taken : lock.writerWait.wait me = .taken writerWait) :
      Change me .draining lock .writing { lock with writerWait }
  | linger {lock : Sharing} {writerWait : Semaphore}
      (joined : lock.writerWait.wait me = .joined writerWait) :
      Change me .draining lock .draining { lock with writerWait }
  | quit {lock : Sharing} (nobody : lock.readers = 0) :
      Change me .writing lock .idle { lock with readers := lock.readers + roof }
  | raise {lock : Sharing} {readers : UInt64} (deficit : (readers.toNat : Int) = -lock.readers.toInt) :
      Change me .writing lock (.hosting readers) { lock with readers := lock.readers + roof }
  | letIn (lock : Sharing) (readers : UInt64) :
      Change me (.hosting readers) lock .idle
        { lock with readerWait := lock.readerWait.postMany readers }

/-- What the word, `departing` and the permits of the two semaphores count. -/
structure Counted (lock : Sharing) (roles : List Role) : Prop where
  word : lock.readers.toInt = roof.toInt - (total reads roles + total waits roles) -
    (total counts roles + total drains roles + total writes roles) * roof.toInt
  few : total reads roles + total waits roles < roof.toInt
  /-- No writer: the readers that still wait have a permit, or are about to be posted one. -/
  opened : total counts roles + total drains roles + total writes roles = 0 →
    total waits roles = lock.readerWait.permits.toNat + total hosts roles ∧
      total parts roles = 0 ∧ total wakes roles = 0 ∧
      lock.writerWait.permits.toNat = 0 ∧ lock.departing.toInt = 0
  counting : 0 < total counts roles →
    lock.departing.toInt + total finds roles =
        total reads roles + lock.readerWait.permits.toNat + total parts roles ∧
      lock.departing.toInt ≤ 0 ∧ lock.readerWait.permits.toNat ≤ total waits roles ∧
      total wakes roles = 0 ∧ lock.writerWait.permits.toNat = 0
  draining : 0 < total drains roles →
    lock.departing.toInt =
        total reads roles + lock.readerWait.permits.toNat + total parts roles ∧
      lock.readerWait.permits.toNat ≤ total waits roles ∧
      (lock.departing.toInt = 0 → total wakes roles + lock.writerWait.permits.toNat = 1) ∧
      (lock.departing.toInt ≠ 0 → total wakes roles + lock.writerWait.permits.toNat = 0)
  writing : 0 < total writes roles →
    total reads roles = 0 ∧ lock.readerWait.permits.toNat = 0 ∧ total parts roles = 0 ∧
      total wakes roles = 0 ∧ lock.writerWait.permits.toNat = 0 ∧ lock.departing.toInt = 0

variable {me : ThreadId} {old new : Role} {lock changed : Sharing} {roles : List Role}

/-- How the totals change when one thread gives up a role for another. -/
structure Rebooked (old new : Role) (before after : List Role) : Prop where
  reads : total reads after + reads old = total reads before + reads new
  waits : total waits after + waits old = total waits before + waits new
  parts : total parts after + parts old = total parts before + parts new
  wakes : total wakes after + wakes old = total wakes before + wakes new
  counts : total counts after + counts old = total counts before + counts new
  finds : total finds after + finds old = total finds before + finds new
  drains : total drains after + drains old = total drains before + drains new
  writes : total writes after + writes old = total writes before + writes new
  hosts : total hosts after + hosts old = total hosts before + hosts new

theorem rebooked (found : roles[me]? = some old) (new : Role) :
    Rebooked old new roles (roles.set me new) := by
  constructor <;> exact World.total_set _ found new

theorem Rebooked.passed {before after : List Role} (booked : Rebooked .idle .passed before after) :
    Rebooked .idle .idle before after :=
  ⟨booked.reads, booked.waits, booked.parts, booked.wakes, booked.counts, booked.finds,
    booked.drains, booked.writes, booked.hosts⟩

theorem Rebooked.retreated {before after : List Role}
    (booked : Rebooked .passed .idle before after) : Rebooked .idle .idle before after :=
  ⟨booked.reads, booked.waits, booked.parts, booked.wakes, booked.counts, booked.finds,
    booked.drains, booked.writes, booked.hosts⟩

namespace Counted

theorem start (threads : Nat) : Counted free (List.replicate threads .idle) := by
  constructor <;>
    simp [World.total_replicate, free, toInt_roof, Semaphore.empty, Semaphore.ofPermits]

theorem alone (one : total admitted roles ≤ 1) (found : roles[me]? = some old)
    (within : 0 < admitted old) :
    total counts roles = counts old ∧ total finds roles = finds old ∧
      total drains roles = drains old ∧ total writes roles = writes old ∧
      total hosts roles = hosts old := by
  refine ⟨?_, ?_, ?_, ?_, ?_⟩ <;>
  · apply World.total_eq_of_alone one found within
    intro role
    cases role <;> simp

theorem writers_le_one (one : total admitted roles ≤ 1) :
    total counts roles + total drains roles + total writes roles ≤ 1 := by
  rw [← World.total_add, ← World.total_add]
  refine Nat.le_trans (World.total_le_total ?_) one
  intro role
  cases role <;> simp

theorem finds_le (one : total admitted roles ≤ 1) : total finds roles ≤ 9223372036854775807 := by
  by_contra many
  have present : 0 < total finds roles := by omega
  obtain ⟨me, role, found, some⟩ := World.exists_of_total_pos present
  cases role with
  | counting inside =>
      have single := (alone one found Nat.one_pos).2.1
      have bound := inside.toInt_lt
      simp only [finds] at single
      omega
  | _ => simp at some

theorem stages (counted : Counted lock roles) (one : total admitted roles ≤ 1) :
    (total counts roles = 0 ∧ total drains roles = 0 ∧ total writes roles = 0 ∧
      total waits roles = lock.readerWait.permits.toNat + total hosts roles ∧
      total parts roles = 0 ∧ total wakes roles = 0 ∧
      lock.writerWait.permits.toNat = 0 ∧ lock.departing.toInt = 0) ∨
    (total counts roles = 1 ∧ total drains roles = 0 ∧ total writes roles = 0 ∧
      lock.departing.toInt + total finds roles =
        total reads roles + lock.readerWait.permits.toNat + total parts roles ∧
      lock.departing.toInt ≤ 0 ∧ lock.readerWait.permits.toNat ≤ total waits roles ∧
      total wakes roles = 0 ∧ lock.writerWait.permits.toNat = 0) ∨
    (total counts roles = 0 ∧ total drains roles = 1 ∧ total writes roles = 0 ∧
      lock.departing.toInt =
        total reads roles + lock.readerWait.permits.toNat + total parts roles ∧
      lock.readerWait.permits.toNat ≤ total waits roles ∧
      (lock.departing.toInt = 0 → total wakes roles + lock.writerWait.permits.toNat = 1) ∧
      (lock.departing.toInt ≠ 0 → total wakes roles + lock.writerWait.permits.toNat = 0)) ∨
    (total counts roles = 0 ∧ total drains roles = 0 ∧ total writes roles = 1 ∧
      total reads roles = 0 ∧ lock.readerWait.permits.toNat = 0 ∧ total parts roles = 0 ∧
      total wakes roles = 0 ∧ lock.writerWait.permits.toNat = 0 ∧ lock.departing.toInt = 0) := by
  have single := writers_le_one one
  by_cases counting : 0 < total counts roles
  · exact .inr (.inl ⟨by omega, by omega, by omega, counted.counting counting⟩)
  · by_cases draining : 0 < total drains roles
    · exact .inr (.inr (.inl ⟨by omega, by omega, by omega, counted.draining draining⟩))
    · by_cases writing : 0 < total writes roles
      · exact .inr (.inr (.inr ⟨by omega, by omega, by omega, counted.writing writing⟩))
      · exact .inl ⟨by omega, by omega, by omega, counted.opened (by omega)⟩

theorem kept (counted : Counted lock roles) {after : List Role} (same : Rebooked old old roles after)
    (readers : changed.readers = lock.readers) (departing : changed.departing = lock.departing)
    (hosted : changed.readerWait.permits = lock.readerWait.permits)
    (woken : changed.writerWait.permits = lock.writerWait.permits) : Counted changed after := by
  have reads := Nat.add_right_cancel same.reads
  have waits := Nat.add_right_cancel same.waits
  have parts := Nat.add_right_cancel same.parts
  have wakes := Nat.add_right_cancel same.wakes
  have counts := Nat.add_right_cancel same.counts
  have finds := Nat.add_right_cancel same.finds
  have drains := Nat.add_right_cancel same.drains
  have writes := Nat.add_right_cancel same.writes
  have hosts := Nat.add_right_cancel same.hosts
  constructor <;>
    simp only [reads, waits, parts, wakes, counts, finds, drains, writes, hosts, readers, departing,
      hosted, woken]
  exacts [counted.word, counted.few, counted.opened, counted.counting, counted.draining,
    counted.writing]

theorem reader_change (counted : Counted lock roles) (one : total admitted roles ≤ 1)
    (found : roles[me]? = some old) (change : Change me old lock new changed)
    (reader : admitted old = 0 ∧ admitted new = 0)
    (few : total reads (roles.set me new) + total waits (roles.set me new) < roof.toInt) :
    Counted changed (roles.set me new) := by
  have word := counted.word
  obtain ⟨r, w, p, k, c, f, d, x, h⟩ := rebooked found new
  rw [toInt_roof] at word
  cases change <;> simp only [reads, waits, parts, wakes, counts, finds, drains, writes, hosts,
    Nat.add_zero] at r w p k c f d x h
  case rest gate => exact counted.kept (rebooked found _) rfl rfl rfl rfl
  case accept clear =>
    rw [Int64.le_iff_toInt_le, Int64.toInt_one] at clear
    have less := toInt_sub_one lock.readers (by omega)
    have before := counted.opened (by omega)
    refine ⟨?_, few, ?_, ?_, ?_, ?_⟩ <;> simp only [less, toInt_roof] <;> omega
  case defer shut =>
    rw [Int64.lt_iff_toInt_lt, Int64.toInt_one] at shut
    rw [toInt_roof] at few
    have single := writers_le_one one
    have less := toInt_sub_one lock.readers (by omega)
    rcases counted.stages one with before | before | before | before <;>
      refine ⟨?_, few, ?_, ?_, ?_, ?_⟩ <;> simp only [less, toInt_roof] <;> omega
  case rise readerWait taken =>
    have fewer := Semaphore.toNat_permits_taken taken
    rcases counted.stages one with before | before | before | before <;>
      refine ⟨?_, few, ?_, ?_, ?_, ?_⟩ <;> simp only [toInt_roof] <;> omega
  case park readerWait joined =>
    exact counted.kept (rebooked found _) rfl rfl (Semaphore.permits_joined joined) rfl
  case leave clear =>
    rw [Int64.le_iff_toInt_le, Int64.toInt_zero] at clear
    have more := toInt_add_one lock.readers (by omega)
    have before := counted.opened (by omega)
    refine ⟨?_, few, ?_, ?_, ?_, ?_⟩ <;> simp only [more, toInt_roof] <;> omega
  case depart shut =>
    rw [Int64.lt_iff_toInt_lt, Int64.toInt_zero] at shut
    have still := counted.few
    rw [toInt_roof] at still
    have more := toInt_add_one lock.readers (by omega)
    rcases counted.stages one with before | before | before | before <;>
      refine ⟨?_, few, ?_, ?_, ?_, ?_⟩ <;> simp only [more, toInt_roof] <;> omega
  case conclude last =>
    have departing : lock.departing.toInt = 1 := by rw [last, Int64.toInt_one]
    have less := toInt_sub_one lock.departing (by omega)
    rcases counted.stages one with before | before | before | before <;>
      refine ⟨?_, few, ?_, ?_, ?_, ?_⟩ <;> simp only [less, toInt_roof] <;> omega
  case part more =>
    have departing : lock.departing.toInt ≠ 1 := by
      rw [← Int64.toInt_one]
      exact fun same => more (Int64.toInt_inj.mp same)
    have bound := finds_le one
    rcases counted.stages one with before | before | before | before
    · omega
    · have less := toInt_sub_one lock.departing (by omega)
      refine ⟨?_, few, ?_, ?_, ?_, ?_⟩ <;> simp only [less, toInt_roof] <;> omega
    · have less := toInt_sub_one lock.departing (by omega)
      refine ⟨?_, few, ?_, ?_, ?_, ?_⟩ <;> simp only [less, toInt_roof] <;> omega
    · omega
  case wake =>
    have bound : lock.writerWait.permits.toNat + 1 < UInt64.size := by
      rw [UInt64.size]
      rcases counted.stages one with before | before | before | before <;> omega
    have more := Semaphore.toNat_permits_post bound
    rcases counted.stages one with before | before | before | before <;>
      refine ⟨?_, few, ?_, ?_, ?_, ?_⟩ <;> simp only [more, toInt_roof] <;> omega
  all_goals simp at reader

theorem writer_change (counted : Counted lock roles) (one : total admitted roles ≤ 1)
    (found : roles[me]? = some old) (change : Change me old lock new changed)
    (writer : 0 < admitted old)
    (few : total reads (roles.set me new) + total waits (roles.set me new) < roof.toInt) :
    Counted changed (roles.set me new) := by
  have word := counted.word
  have only := alone one found writer
  obtain ⟨r, w, p, k, c, f, d, x, h⟩ := rebooked found new
  rw [toInt_roof] at word
  cases change <;> simp only [reads, waits, parts, wakes, counts, finds, drains, writes, hosts,
    Nat.add_zero] at r w p k c f d x h only
  case rest gate => exact counted.kept (rebooked found _) rfl rfl rfl rfl
  case retreat => exact counted.kept (rebooked found _).retreated rfl rfl rfl rfl
  case occupy empty =>
    have full : lock.readers.toInt = 9223372036854775807 := by rw [empty, toInt_roof]
    have lowered := toInt_sub_roof lock.readers (by omega)
    have before := counted.opened (by omega)
    refine ⟨?_, few, ?_, ?_, ?_, ?_⟩ <;> simp only [lowered, toInt_roof] <;> omega
  case lower below =>
    rw [Int64.lt_iff_toInt_lt, toInt_roof] at below
    have still := counted.few
    rw [toInt_roof] at still
    have lowered := toInt_sub_roof lock.readers (by omega)
    rw [toInt_roof_sub lock.readers (by omega)] at f
    have before := counted.opened (by omega)
    refine ⟨?_, few, ?_, ?_, ?_, ?_⟩ <;> simp only [lowered, toInt_roof] <;> omega
  case succeed inside none =>
    have before := counted.counting (by omega)
    have sum := toInt_add_of_fits lock.departing inside (by omega) (by omega)
    refine ⟨?_, few, ?_, ?_, ?_, ?_⟩ <;> simp only [sum, toInt_roof] <;> omega
  case publish inside positive some =>
    have upper := inside.toInt_lt
    have before := counted.counting (by omega)
    have sum := toInt_add_of_fits lock.departing inside (by omega) (by omega)
    refine ⟨?_, few, ?_, ?_, ?_, ?_⟩ <;> simp only [sum, toInt_roof] <;> omega
  case drain writerWait taken =>
    have fewer := Semaphore.toNat_permits_taken taken
    have before := counted.draining (by omega)
    refine ⟨?_, few, ?_, ?_, ?_, ?_⟩ <;> simp only [toInt_roof] <;> omega
  case linger writerWait joined =>
    exact counted.kept (rebooked found _) rfl rfl rfl (Semaphore.permits_joined joined)
  case quit nobody =>
    have zero : lock.readers.toInt = 0 := by rw [nobody, Int64.toInt_zero]
    have raised := toInt_add_roof lock.readers (by omega)
    have before := counted.writing (by omega)
    refine ⟨?_, few, ?_, ?_, ?_, ?_⟩ <;> simp only [raised, toInt_roof] <;> omega
  case raise readers deficit =>
    have raised := toInt_add_roof lock.readers (by omega)
    have before := counted.writing (by omega)
    have missed : total waits roles = readers.toNat := by
      clear raised
      omega
    clear deficit
    refine ⟨?_, few, ?_, ?_, ?_, ?_⟩ <;> simp only [raised, toInt_roof]
    · omega
    · clear word raised
      omega
    · omega
    · omega
    · omega
  case letIn count =>
    have still := counted.few
    rw [toInt_roof] at still
    have before := counted.opened (by omega)
    have bound : lock.readerWait.permits.toNat + count.toNat < UInt64.size := by
      rw [UInt64.size]
      omega
    have more := Semaphore.toNat_permits_postMany count bound
    refine ⟨?_, few, ?_, ?_, ?_, ?_⟩ <;> simp only [more, toInt_roof] <;> omega
  all_goals simp at writer

theorem change (counted : Counted lock roles) (one : total admitted roles ≤ 1)
    (found : roles[me]? = some old) (change : Change me old lock new changed)
    (few : total reads (roles.set me new) + total waits (roles.set me new) < roof.toInt) :
    Counted changed (roles.set me new) := by
  rcases Nat.eq_zero_or_pos (admitted old) with outside | writer
  · rcases Nat.eq_zero_or_pos (admitted new) with reader | enters
    · exact counted.reader_change one found change ⟨outside, reader⟩ few
    · cases change with
      | pass gate => exact counted.kept (rebooked found _).passed rfl rfl rfl rfl
      | rest => omega
      | _ => simp at outside enters
  · exact counted.writer_change one found change writer few

theorem readers_ne_roof (counted : Counted lock roles) (found : roles[me]? = some .reading) :
    lock.readers ≠ roof := by
  intro full
  have word := counted.word
  have here := World.weight_le_total reads found
  rw [full, toInt_roof] at word
  simp only [reads] at here
  omega

/-- Beside the admitted writer the word shows the readers, less the sentinel if this writer
has taken it off. -/
theorem word_of_admitted (counted : Counted lock roles) (one : total admitted roles ≤ 1)
    (found : roles[me]? = some old) (within : 0 < admitted old) :
    ∃ readers : Nat, (readers : Int) < 2 ^ 63 - 1 ∧
      lock.readers.toInt =
        2 ^ 63 - 1 - readers - (counts old + drains old + writes old) * (2 ^ 63 - 1) := by
  have word := counted.word
  have few := counted.few
  obtain ⟨counts, _, drains, writes, _⟩ := alone one found within
  rw [counts, drains, writes, toInt_roof] at word
  rw [toInt_roof] at few
  exact ⟨total reads roles + total waits roles, by omega, by omega⟩

theorem readers_passed (counted : Counted lock roles) (one : total admitted roles ≤ 1)
    (found : roles[me]? = some .passed) : 0 ≤ lock.readers.toInt := by
  obtain ⟨readers, few, word⟩ := counted.word_of_admitted one found Nat.one_pos
  simp only [Role.counts, Role.drains, Role.writes] at word
  omega

theorem readers_writing (counted : Counted lock roles) (one : total admitted roles ≤ 1)
    (found : roles[me]? = some .writing) :
    -2 ^ 63 < lock.readers.toInt ∧ lock.readers.toInt ≤ 0 := by
  obtain ⟨readers, few, word⟩ := counted.word_of_admitted one found Nat.one_pos
  simp only [Role.counts, Role.drains, Role.writes] at word
  omega

theorem sum_fits (counted : Counted lock roles) (one : total admitted roles ≤ 1) {inside : Int64}
    (found : roles[me]? = some (.counting inside)) (positive : 0 ≤ inside.toInt) :
    0 ≤ lock.departing.toInt + inside.toInt ∧
      lock.departing.toInt + inside.toInt ≤ Int64.maxValue.toInt := by
  have upper := inside.toInt_le
  obtain ⟨counts, finds, _⟩ := alone one found Nat.one_pos
  simp only [Role.counts, Role.finds] at counts finds
  have facts := counted.counting (by omega)
  omega

end Counted

theorem Change.attended_readers (change : Change me old lock new changed)
    (found : roles[me]? = some old) (attended : lock.readerWait.Attended waits roles) :
    changed.readerWait.Attended waits (roles.set me new) := by
  cases change with
  | rise taken => exact attended.taken found rfl taken
  | park joined => exact (attended.joined found Nat.one_pos joined).set found (Nat.le_refl _)
  | letIn => exact (attended.set found (Nat.zero_le _)).postMany _
  | rest => exact attended.set found (Nat.le_refl _)
  | _ => exact attended.set found (Nat.zero_le _)

theorem Change.attended_writers (change : Change me old lock new changed)
    (found : roles[me]? = some old) (attended : lock.writerWait.Attended drains roles) :
    changed.writerWait.Attended drains (roles.set me new) := by
  cases change with
  | drain taken => exact attended.taken found rfl taken
  | linger joined => exact (attended.joined found Nat.one_pos joined).set found (Nat.le_refl _)
  | wake => exact (attended.set found (Nat.zero_le _)).post
  | rest => exact attended.set found (Nat.le_refl _)
  | _ => exact attended.set found (Nat.zero_le _)

end Turnstile.Lock.Sharing
