import Turnstile.Proofs.Lock.Exclusive
import Turnstile.Proofs.Lock.Sharing.Ledger

/-!
# The two sides of a shared lock

A thread that uses a shared lock is seen from two sides. At the gate it is a
thread that uses a lock of one word: it enters there, is inside while it is a
writer, and leaves. On the readers' side it has a `Role`. Whatever the thread
does is a move of the first lock or does not touch it, and a change of the
second side.
-/

namespace Turnstile.Lock.Sharing

set_option autoImplicit false

open World (total)

/-- Where the thread stands as a user of the gate. -/
def atTheGate : Stage Point → Stage Exclusive.Point
  | .entering mode (.gate .giveBack point) => .leaving mode point
  | .entering mode (.gate _ point) => .entering mode point
  | .entering mode .lower | .entering mode (.publish _) | .entering mode .drain
  | .entering mode .claim => .inside mode
  | .inside .exclusive => .inside .exclusive
  | .leaving mode .raise | .leaving mode (.letIn _) => .inside mode
  | .leaving mode (.gate _ point) => .leaving mode point
  | .broken fault => .broken fault
  | _ => .outside

def Point.arrival : Point → Role
  | .sleepShared => .waiting
  | .lower | .claim => .passed
  | .publish inside => .counting inside
  | .drain => .draining
  | .enterShared | .readShared | .exchangeShared _ | .leaveShared | .depart | .wakeWriter
  | .gate _ _ | .raise | .letIn _ | .done _ => .idle

def Point.departure : Point → Role
  | .leaveShared => .reading
  | .depart => .parting
  | .wakeWriter => .waking
  | .raise => .writing
  | .letIn readers => .hosting readers
  | .enterShared | .sleepShared | .readShared | .exchangeShared _ | .gate _ _ | .lower
  | .publish _ | .drain | .claim | .done _ => .idle

def role : Stage Point → Role
  | .outside | .broken _ => .idle
  | .entering _ point => point.arrival
  | .inside .shared => .reading
  | .inside .exclusive => .writing
  | .leaving _ point => point.departure

/-- The stages at which a thread can be without a fault. -/
inductive IsProper : Stage Point → Prop where
  | outside : IsProper .outside
  | inside (mode : Mode) : IsProper (.inside mode)
  | enterShared : IsProper (.entering .shared .enterShared)
  | sleepShared : IsProper (.entering .shared .sleepShared)
  | readShared : IsProper (.entering .shared .readShared)
  | exchangeShared {seen : Int64} (some : 1 ≤ seen) :
      IsProper (.entering .shared (.exchangeShared seen))
  | leaveShared : IsProper (.leaving .shared .leaveShared)
  | depart : IsProper (.leaving .shared .depart)
  | wakeWriter : IsProper (.leaving .shared .wakeWriter)
  | enterGate {point : Exclusive.Point} (comes : point = .enter ∨ point = .contend ∨ point = .sleep) :
      IsProper (.entering .exclusive (.gate .enter point))
  | tryGate : IsProper (.entering .exclusive (.gate .tryEnter .tryEnter))
  | giveBack {point : Exclusive.Point} (goes : point = .leave ∨ point = .wake) :
      IsProper (.entering .exclusive (.gate .giveBack point))
  | lower : IsProper (.entering .exclusive .lower)
  | publish {inside : Int64} (positive : 0 ≤ inside.toInt) :
      IsProper (.entering .exclusive (.publish inside))
  | drain : IsProper (.entering .exclusive .drain)
  | claim : IsProper (.entering .exclusive .claim)
  | raise : IsProper (.leaving .exclusive .raise)
  | letIn (readers : UInt64) : IsProper (.leaving .exclusive (.letIn readers))
  | leaveGate {point : Exclusive.Point} (goes : point = .leave ∨ point = .wake) :
      IsProper (.leaving .exclusive (.gate .leave point))

variable {me : ThreadId} {old new : Stage Point} {lock changed : Sharing} {roles : List Role}

theorem act_sleepShared_taken {readerWait : Semaphore}
    (taken : lock.readerWait.wait me = .taken readerWait) :
    act me .sleepShared lock = some (.done .entered, { lock with readerWait }) := by
  simp only [act, taken]

theorem act_sleepShared_joined {readerWait : Semaphore}
    (joined : lock.readerWait.wait me = .joined readerWait) :
    act me .sleepShared lock = some (.sleepShared, { lock with readerWait }) := by
  simp only [act, joined]

theorem act_drain_taken {writerWait : Semaphore}
    (taken : lock.writerWait.wait me = .taken writerWait) :
    act me .drain lock = some (.done .entered, { lock with writerWait }) := by
  simp only [act, taken]

theorem act_drain_joined {writerWait : Semaphore}
    (joined : lock.writerWait.wait me = .joined writerWait) :
    act me .drain lock = some (.drain, { lock with writerWait }) := by
  simp only [act, joined]

theorem admitted_le_holding (stage : Stage Point) :
    Role.admitted (role stage) ≤ Exclusive.holding (atTheGate stage) := by
  match stage with
  | .outside | .broken _ => exact Nat.zero_le _
  | .inside .shared | .inside .exclusive => simp [role, atTheGate, Exclusive.holding]
  | .entering mode point =>
      cases point <;> simp [role, Point.arrival, atTheGate, Exclusive.holding]
  | .leaving mode point =>
      cases point <;> simp [role, Point.departure, atTheGate, Exclusive.holding]

theorem comes_of_act {point later : Exclusive.Point} {gate changed : Exclusive}
    (comes : point = .enter ∨ point = .contend ∨ point = .sleep)
    (acted : Exclusive.act me point gate = some (later, changed)) :
    later = .contend ∨ later = .sleep ∨ later = .done .entered := by
  rcases comes with rfl | rfl | rfl
  · by_cases free : gate.word = .free <;> simp [Exclusive.act, free] at acted <;> grind
  · by_cases free : gate.word = .free <;> simp [Exclusive.act, free] at acted <;> grind
  · cases waited : gate.parked.wait me <;> simp [Exclusive.act, waited] at acted <;> grind

theorem goes_of_act {point later : Exclusive.Point} {gate changed : Exclusive}
    (goes : point = .leave ∨ point = .wake) (held : point = .leave → gate.word ≠ .free)
    (acted : Exclusive.act me point gate = some (later, changed)) :
    later = .wake ∨ later = .done .left := by
  rcases goes with rfl | rfl
  · cases word : gate.word <;> simp [Exclusive.act, word] at acted <;> grind
  · simp [Exclusive.act] at acted
    grind

/-- What a move of a thread is, seen from the two sides. -/
structure Progress (me : ThreadId) (old : Stage Point) (lock : Sharing) (new : Stage Point)
    (changed : Sharing) : Prop where
  proper : IsProper new
  change : Change me (role old) lock (role new) changed
  gate : Usage.Move Exclusive.kind me (atTheGate old) lock.gate (atTheGate new) changed.gate ∨
    atTheGate new = atTheGate old ∧ changed.gate = lock.gate

theorem progress_of_decision (decision : Usage.Decision kind old new) :
    Progress me old lock new lock := by
  match decision with
  | .enter .exclusive =>
      exact ⟨.enterGate (.inl rfl), .rest .idle lock lock.gate, .inl (.decide (.enter .exclusive))⟩
  | .enter .shared => exact ⟨.enterShared, .rest .idle lock lock.gate, .inr ⟨rfl, rfl⟩⟩
  | .tryEnter .exclusive =>
      exact ⟨.tryGate, .rest .idle lock lock.gate, .inl (.decide (.tryEnter .exclusive))⟩
  | .tryEnter .shared => exact ⟨.readShared, .rest .idle lock lock.gate, .inr ⟨rfl, rfl⟩⟩
  | .leave .exclusive => exact ⟨.raise, .rest .writing lock lock.gate, .inr ⟨rfl, rfl⟩⟩
  | .leave .shared => exact ⟨.leaveShared, .rest .reading lock lock.gate, .inr ⟨rfl, rfl⟩⟩

theorem act_gate {passage : Passage} {point : Exclusive.Point} {later : Point}
    (acted : act me (.gate passage point) lock = some (later, changed)) :
    ∃ next gate, Exclusive.act me point lock.gate = some (next, gate) ∧
      later = atGate passage next ∧ changed = { lock with gate } := by
  rw [act, Option.map_eq_some_iff] at acted
  obtain ⟨⟨next, gate⟩, acted, same⟩ := acted
  cases same
  exact ⟨next, gate, acted, rfl, rfl⟩

theorem act_of_gate (passage : Passage) {point next : Exclusive.Point} {gate : Exclusive}
    (acted : Exclusive.act me point lock.gate = some (next, gate)) :
    act me (.gate passage point) lock = some (atGate passage next, { lock with gate }) := by
  rw [act, acted]
  rfl

theorem enters_of_act {point next : Exclusive.Point} {gate : Exclusive}
    (acted : Exclusive.act me point lock.gate = some (next, gate)) :
    Usage.act Exclusive.kind me (.entering .exclusive point) lock.gate =
      some (Usage.afterEntering Exclusive.kind .exclusive next, gate) := by
  simp [Usage.act, Exclusive.machine, acted]

theorem leaves_of_act {point next : Exclusive.Point} {gate : Exclusive}
    (acted : Exclusive.act me point lock.gate = some (next, gate)) :
    Usage.act Exclusive.kind me (.leaving .exclusive point) lock.gate =
      some (Usage.afterLeaving Exclusive.kind .exclusive next, gate) := by
  simp [Usage.act, Exclusive.machine, acted]

theorem after_look (seen : Int64) :
    IsProper (Usage.afterEntering kind .shared (afterLook seen)) ∧
      role (Usage.afterEntering kind .shared (afterLook seen)) = .idle ∧
      atTheGate (Usage.afterEntering kind .shared (afterLook seen)) = .outside := by
  unfold afterLook
  by_cases some : 1 ≤ seen
  · rw [if_pos some]
    exact ⟨.exchangeShared some, rfl, rfl⟩
  · rw [if_neg some]
    exact ⟨.outside, rfl, rfl⟩

theorem progress_of_reader (counted : Counted lock roles) (found : roles[me]? = some (role old))
    (proper : IsProper old) (reader : atTheGate old = .outside)
    (acted : Usage.act kind me old lock = some (new, changed)) :
    Progress me old lock new changed := by
  cases proper with
  | outside => cases acted
  | inside mode => cases acted
  | enterShared =>
      obtain ⟨rfl, rfl⟩ := Usage.eq_of_entering rfl acted
      by_cases shut : lock.readers < 1
      · rw [if_pos shut]
        exact ⟨.sleepShared, .defer shut, .inr ⟨rfl, rfl⟩⟩
      · rw [if_neg shut]
        exact ⟨.inside .shared, .accept (Int64.not_lt.mp shut), .inr ⟨rfl, rfl⟩⟩
  | sleepShared =>
      cases waited : lock.readerWait.wait me with
      | taken readerWait =>
          obtain ⟨rfl, rfl⟩ := Usage.eq_of_entering (act_sleepShared_taken waited) acted
          exact ⟨.inside .shared, .rise waited, .inr ⟨rfl, rfl⟩⟩
      | joined readerWait =>
          obtain ⟨rfl, rfl⟩ := Usage.eq_of_entering (act_sleepShared_joined waited) acted
          exact ⟨.sleepShared, .park waited, .inr ⟨rfl, rfl⟩⟩
      | asleep => simp [Usage.act, machine, act, waited] at acted
  | readShared =>
      obtain ⟨rfl, rfl⟩ := Usage.eq_of_entering rfl acted
      obtain ⟨proper, idle, outside⟩ := after_look changed.readers
      refine ⟨proper, ?_, .inr ⟨outside, rfl⟩⟩
      rw [idle]
      exact .rest .idle changed changed.gate
  | @exchangeShared seen some =>
      by_cases same : lock.readers = seen
      · obtain ⟨rfl, rfl⟩ := Usage.eq_of_entering (if_pos same) acted
        subst same
        exact ⟨.inside .shared, .accept some, .inr ⟨rfl, rfl⟩⟩
      · obtain ⟨rfl, rfl⟩ := Usage.eq_of_entering (if_neg same) acted
        obtain ⟨proper, idle, outside⟩ := after_look changed.readers
        refine ⟨proper, ?_, .inr ⟨outside, rfl⟩⟩
        rw [idle]
        exact .rest .idle changed changed.gate
  | leaveShared =>
      obtain ⟨rfl, rfl⟩ := Usage.eq_of_leaving rfl acted
      rw [if_neg (counted.readers_ne_roof found)]
      by_cases shut : lock.readers < 0
      · rw [if_pos shut]
        exact ⟨.depart, .depart shut, .inr ⟨rfl, rfl⟩⟩
      · rw [if_neg shut]
        exact ⟨.outside, .leave (Int64.not_lt.mp shut), .inr ⟨rfl, rfl⟩⟩
  | depart =>
      obtain ⟨rfl, rfl⟩ := Usage.eq_of_leaving rfl acted
      by_cases last : lock.departing = 1
      · rw [if_pos last]
        exact ⟨.wakeWriter, .conclude last, .inr ⟨rfl, rfl⟩⟩
      · rw [if_neg last]
        exact ⟨.outside, .part last, .inr ⟨rfl, rfl⟩⟩
  | wakeWriter =>
      obtain ⟨rfl, rfl⟩ := Usage.eq_of_leaving rfl acted
      exact ⟨.outside, .wake lock, .inr ⟨rfl, rfl⟩⟩
  | _ => cases reader

section Writer

variable {point : Exclusive.Point} {inside : Int64}

theorem progress_of_enterGate (comes : point = .enter ∨ point = .contend ∨ point = .sleep)
    (acted : Usage.act kind me (.entering .exclusive (.gate .enter point)) lock =
      some (new, changed)) :
    Progress me (.entering .exclusive (.gate .enter point)) lock new changed := by
  cases acts : act me (.gate .enter point) lock with
  | none => simp [Usage.act, machine, acts] at acted
  | some result =>
      obtain ⟨rfl, rfl⟩ := Usage.eq_of_entering acts acted
      obtain ⟨next, gate, acts, same, rest⟩ := act_gate acts
      have inner := enters_of_act acts
      rw [same, rest]
      rcases comes_of_act comes acts with rfl | rfl | rfl
      · exact ⟨.enterGate (.inr (.inl rfl)), .rest .idle lock gate, .inl (.act inner)⟩
      · exact ⟨.enterGate (.inr (.inr rfl)), .rest .idle lock gate, .inl (.act inner)⟩
      · exact ⟨.lower, .pass lock gate, .inl (.act inner)⟩

theorem progress_of_tryGate
    (acted : Usage.act kind me (.entering .exclusive (.gate .tryEnter .tryEnter)) lock =
      some (new, changed)) :
    Progress me (.entering .exclusive (.gate .tryEnter .tryEnter)) lock new changed := by
  by_cases free : lock.gate.word = .free
  · have acts : Exclusive.act me .tryEnter lock.gate =
        some (.done .entered, { lock.gate with word := .held }) := if_pos free
    obtain ⟨rfl, rfl⟩ := Usage.eq_of_entering (act_of_gate .tryEnter acts) acted
    exact ⟨.claim, .pass lock _, .inl (.act (enters_of_act acts))⟩
  · have acts : Exclusive.act me .tryEnter lock.gate = some (.done .refused, lock.gate) :=
      if_neg free
    obtain ⟨rfl, rfl⟩ := Usage.eq_of_entering (act_of_gate .tryEnter acts) acted
    exact ⟨.outside, .rest .idle lock lock.gate, .inl (.act (enters_of_act acts))⟩

theorem goes_of_act_gate {passage : Passage} {later : Point}
    (goes : point = .leave ∨ point = .wake) (held : point = .leave → lock.gate.word ≠ .free)
    (acted : act me (.gate passage point) lock = some (later, changed)) :
    ∃ next gate, later = atGate passage next ∧ changed = { lock with gate } ∧
      (next = .wake ∨ next = .done .left) ∧
      Usage.act Exclusive.kind me (.leaving .exclusive point) lock.gate =
        some (Usage.afterLeaving Exclusive.kind .exclusive next, gate) := by
  obtain ⟨next, gate, acts, same, rest⟩ := act_gate acted
  exact ⟨next, gate, same, rest, goes_of_act goes held acts, leaves_of_act acts⟩

theorem progress_of_giveBack (goes : point = .leave ∨ point = .wake)
    (held : point = .leave → lock.gate.word ≠ .free)
    (acted : Usage.act kind me (.entering .exclusive (.gate .giveBack point)) lock =
      some (new, changed)) :
    Progress me (.entering .exclusive (.gate .giveBack point)) lock new changed := by
  cases acts : act me (.gate .giveBack point) lock with
  | none => simp [Usage.act, machine, acts] at acted
  | some result =>
      obtain ⟨rfl, rfl⟩ := Usage.eq_of_entering acts acted
      obtain ⟨next, gate, same, rest, onward, inner⟩ := goes_of_act_gate goes held acts
      rw [same, rest]
      rcases onward with rfl | rfl
      · exact ⟨.giveBack (.inr rfl), .rest .idle lock gate, .inl (.act inner)⟩
      · exact ⟨.outside, .rest .idle lock gate, .inl (.act inner)⟩

theorem progress_of_lower (above : 0 ≤ lock.readers.toInt)
    (acted : Usage.act kind me (.entering .exclusive .lower) lock = some (new, changed)) :
    Progress me (.entering .exclusive .lower) lock new changed := by
  obtain ⟨rfl, rfl⟩ := Usage.eq_of_entering rfl acted
  unfold afterLower
  by_cases below : lock.readers < roof
  · have fits : ¬ Int64.maxValue.toInt < roof.toInt - lock.readers.toInt := by
      rw [roof]
      omega
    rw [if_pos below, if_neg fits]
    have inside := toInt_roof_sub lock.readers above
    have upper := lock.readers.toInt_lt
    exact ⟨.publish (by omega), .lower below, .inr ⟨rfl, rfl⟩⟩
  · rw [if_neg below]
    have full : lock.readers = roof := by
      have upper := lock.readers.toInt_le
      rw [Int64.lt_iff_toInt_lt] at below
      rw [roof] at below ⊢
      exact Int64.toInt_inj.mp (by omega)
    exact ⟨.inside .exclusive, .occupy full, .inr ⟨rfl, rfl⟩⟩

/-- The writer that adds the readers it found to those that have left since is inside if
there are none left. -/
theorem progress_of_publish (positive : 0 ≤ inside.toInt)
    (lower : 0 ≤ lock.departing.toInt + inside.toInt)
    (upper : lock.departing.toInt + inside.toInt ≤ Int64.maxValue.toInt)
    (acted : Usage.act kind me (.entering .exclusive (.publish inside)) lock =
      some (new, changed)) :
    Progress me (.entering .exclusive (.publish inside)) lock new changed := by
  obtain ⟨rfl, rfl⟩ := Usage.eq_of_entering rfl acted
  have fits : ¬ (Int64.maxValue.toInt < lock.departing.toInt + inside.toInt ∨
      lock.departing.toInt + inside.toInt < Int64.minValue.toInt) := by
    rw [Int64.toInt_minValue]
    omega
  simp only [afterPublish]
  rw [if_neg fits]
  by_cases none : lock.departing.toInt + inside.toInt = 0
  · rw [if_pos none]
    exact ⟨.inside .exclusive, .succeed none, .inr ⟨rfl, rfl⟩⟩
  · rw [if_neg none]
    exact ⟨.drain, .publish positive none, .inr ⟨rfl, rfl⟩⟩

theorem progress_of_drain
    (acted : Usage.act kind me (.entering .exclusive .drain) lock = some (new, changed)) :
    Progress me (.entering .exclusive .drain) lock new changed := by
  cases waited : lock.writerWait.wait me with
  | taken writerWait =>
      obtain ⟨rfl, rfl⟩ := Usage.eq_of_entering (act_drain_taken waited) acted
      exact ⟨.inside .exclusive, .drain waited, .inr ⟨rfl, rfl⟩⟩
  | joined writerWait =>
      obtain ⟨rfl, rfl⟩ := Usage.eq_of_entering (act_drain_joined waited) acted
      exact ⟨.drain, .linger waited, .inr ⟨rfl, rfl⟩⟩
  | asleep => simp [Usage.act, machine, act, waited] at acted

theorem progress_of_claim
    (acted : Usage.act kind me (.entering .exclusive .claim) lock = some (new, changed)) :
    Progress me (.entering .exclusive .claim) lock new changed := by
  by_cases empty : lock.readers = roof
  · obtain ⟨rfl, rfl⟩ := Usage.eq_of_entering (if_pos empty) acted
    have occupied := @Change.occupy me _ empty
    rw [show lock.readers - roof = 0 by rw [empty]; rfl] at occupied
    exact ⟨.inside .exclusive, occupied, .inr ⟨rfl, rfl⟩⟩
  · obtain ⟨rfl, rfl⟩ := Usage.eq_of_entering (if_neg empty) acted
    exact ⟨.giveBack (.inl rfl), .retreat changed, .inl (.decide (.leave .exclusive))⟩

theorem progress_of_raise (lower : -2 ^ 63 < lock.readers.toInt) (upper : lock.readers.toInt ≤ 0)
    (acted : Usage.act kind me (.leaving .exclusive .raise) lock = some (new, changed)) :
    Progress me (.leaving .exclusive .raise) lock new changed := by
  obtain ⟨rfl, rfl⟩ := Usage.eq_of_leaving rfl acted
  have writers : ¬ 0 < lock.readers := by
    rw [Int64.lt_iff_toInt_lt, Int64.toInt_zero]
    omega
  rw [if_neg writers]
  by_cases somebody : lock.readers < 0
  · rw [if_pos somebody]
    have deficit := toNat_deficit lock.readers lower upper
    exact ⟨.letIn _, .raise deficit, .inr ⟨rfl, rfl⟩⟩
  · rw [if_neg somebody]
    have nobody : lock.readers = 0 := by
      rw [Int64.lt_iff_toInt_lt, Int64.toInt_zero] at somebody
      exact Int64.toInt_inj.mp (by rw [Int64.toInt_zero]; omega)
    exact ⟨.leaveGate (.inl rfl), .quit nobody, .inl (.decide (.leave .exclusive))⟩

theorem progress_of_leaveGate (goes : point = .leave ∨ point = .wake)
    (held : point = .leave → lock.gate.word ≠ .free)
    (acted : Usage.act kind me (.leaving .exclusive (.gate .leave point)) lock =
      some (new, changed)) :
    Progress me (.leaving .exclusive (.gate .leave point)) lock new changed := by
  cases acts : act me (.gate .leave point) lock with
  | none => simp [Usage.act, machine, acts] at acted
  | some result =>
      obtain ⟨rfl, rfl⟩ := Usage.eq_of_leaving acts acted
      obtain ⟨next, gate, same, rest, onward, inner⟩ := goes_of_act_gate goes held acts
      rw [same, rest]
      rcases onward with rfl | rfl
      · exact ⟨.leaveGate (.inr rfl), .rest .idle lock gate, .inl (.act inner)⟩
      · exact ⟨.outside, .rest .idle lock gate, .inl (.act inner)⟩

end Writer

theorem progress_of_writer (counted : Counted lock roles) (one : total Role.admitted roles ≤ 1)
    (found : roles[me]? = some (role old)) (proper : IsProper old)
    (held : 0 < Exclusive.holding (atTheGate old) → lock.gate.word ≠ .free)
    (writer : atTheGate old ≠ .outside)
    (acted : Usage.act kind me old lock = some (new, changed)) :
    Progress me old lock new changed := by
  cases proper with
  | enterGate comes => exact progress_of_enterGate comes acted
  | tryGate => exact progress_of_tryGate acted
  | giveBack goes => exact progress_of_giveBack goes (fun leave => held (leave ▸ Nat.one_pos)) acted
  | lower => exact progress_of_lower (counted.readers_passed one found) acted
  | publish positive =>
      obtain ⟨lower, upper⟩ := counted.sum_fits one found positive
      exact progress_of_publish positive lower upper acted
  | drain => exact progress_of_drain acted
  | claim => exact progress_of_claim acted
  | raise =>
      obtain ⟨lower, upper⟩ := counted.readers_writing one found
      exact progress_of_raise lower upper acted
  | letIn readers =>
      obtain ⟨rfl, rfl⟩ := Usage.eq_of_leaving rfl acted
      exact ⟨.leaveGate (.inl rfl), .letIn lock readers, .inl (.decide (.leave .exclusive))⟩
  | leaveGate goes =>
      exact progress_of_leaveGate goes (fun leave => held (leave ▸ Nat.one_pos)) acted
  | inside mode => cases acted
  | _ => exact absurd rfl writer

end Turnstile.Lock.Sharing
