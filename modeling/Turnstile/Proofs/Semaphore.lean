import Turnstile.Proofs.Total
import Turnstile.Semaphore

/-!
# Nobody sleeps beside a free permit

The threads that sleep on a semaphore are given by a weight: one for a thread
that stands at a wait of it, in the line or not. `Attended` says that the line
holds such threads only, each once, and that a line never stands beside more
permits than there are threads awake to take them. It is kept by every operation
of the semaphore, whoever performs it, and so a line in which everybody sleeps
stands beside no permit at all.
-/

namespace Turnstile.Semaphore

set_option autoImplicit false

open World (total)

variable {π : Type} {sleeps : π → Nat} {threads : List π} {semaphore later : Semaphore}
  {me : ThreadId} {old new : π}

theorem wait_taken (taken : semaphore.wait me = .taken later) :
    me ∉ semaphore.line ∧ semaphore.permits ≠ 0 ∧
      later = { semaphore with permits := semaphore.permits - 1 } := by
  unfold wait take? at taken
  grind

theorem wait_joined (joined : semaphore.wait me = .joined later) :
    me ∉ semaphore.line ∧ semaphore.permits = 0 ∧
      later = { semaphore with line := semaphore.line ++ [me] } := by
  unfold wait take? at joined
  grind

theorem wait_asleep_iff : semaphore.wait me = .asleep ↔ me ∈ semaphore.line := by
  unfold wait take?
  grind

theorem wait_of_some (outside : me ∉ semaphore.line) (some : semaphore.permits ≠ 0) :
    semaphore.wait me = .taken { semaphore with permits := semaphore.permits - 1 } := by
  simp [wait, take?, outside, some]

theorem wait_of_none (outside : me ∉ semaphore.line) (none : semaphore.permits = 0) :
    semaphore.wait me = .joined { semaphore with line := semaphore.line ++ [me] } := by
  simp [wait, take?, outside, none]

theorem take_eq_some (taken : semaphore.take? = some later) :
    semaphore.permits ≠ 0 ∧ later = { semaphore with permits := semaphore.permits - 1 } := by
  unfold take? at taken
  grind

theorem withdraw_eq_some (withdrawn : semaphore.withdraw? me = some later) :
    me ∈ semaphore.line ∧ later = { semaphore with line := semaphore.line.erase me } := by
  unfold withdraw? at withdrawn
  grind

theorem toNat_permits_sub_one (some : semaphore.permits ≠ 0) :
    (semaphore.permits - 1).toNat + 1 = semaphore.permits.toNat := by
  have positive : 0 < semaphore.permits.toNat := by
    rw [Nat.pos_iff_ne_zero]
    exact fun zero => some (UInt64.toNat_inj.mp zero)
  have bound := semaphore.permits.toNat_lt
  have some : (1 : UInt64) ≤ semaphore.permits := by
    rw [UInt64.le_iff_toNat_le, UInt64.toNat_one]
    exact positive
  rw [UInt64.toNat_sub_of_le _ _ some, UInt64.toNat_one]
  omega

theorem toNat_permits_add_le (permits added : UInt64) :
    (permits + added).toNat ≤ permits.toNat + added.toNat := by
  rw [UInt64.toNat_add]
  exact Nat.mod_le _ _

theorem toNat_permits_add (permits added : UInt64)
    (fits : permits.toNat + added.toNat < UInt64.size) :
    (permits + added).toNat = permits.toNat + added.toNat := by
  rw [UInt64.toNat_add]
  exact Nat.mod_eq_of_lt fits

theorem toNat_permits_taken (taken : semaphore.wait me = .taken later) :
    later.permits.toNat + 1 = semaphore.permits.toNat := by
  obtain ⟨_, some, rfl⟩ := wait_taken taken
  exact toNat_permits_sub_one some

theorem toNat_permits_take (taken : semaphore.take? = some later) :
    later.permits.toNat + 1 = semaphore.permits.toNat := by
  obtain ⟨some, rfl⟩ := take_eq_some taken
  exact toNat_permits_sub_one some

theorem permits_withdraw (withdrawn : semaphore.withdraw? me = some later) :
    later.permits = semaphore.permits := by
  unfold withdraw? at withdrawn
  split at withdrawn
  · cases withdrawn
    rfl
  · cases withdrawn

theorem permits_joined (joined : semaphore.wait me = .joined later) :
    later.permits = semaphore.permits := by
  obtain ⟨_, _, rfl⟩ := wait_joined joined
  rfl

theorem toNat_permits_post (fits : semaphore.permits.toNat + 1 < UInt64.size) :
    semaphore.post.permits.toNat = semaphore.permits.toNat + 1 :=
  toNat_permits_add semaphore.permits 1 fits

theorem toNat_permits_postMany (permits : UInt64)
    (fits : semaphore.permits.toNat + permits.toNat < UInt64.size) :
    (semaphore.postMany permits).permits.toNat = semaphore.permits.toNat + permits.toNat := by
  unfold postMany
  split
  · next zero => simp [zero]
  · exact toNat_permits_add semaphore.permits permits fits

/-- The line of a semaphore that threads of weight `sleeps` stand at. -/
structure Attended (sleeps : π → Nat) (threads : List π) (semaphore : Semaphore) : Prop where
  /-- Nobody is in the line twice. -/
  distinct : semaphore.line.Nodup
  asleep : ∀ me ∈ semaphore.line, ∃ point, threads[me]? = some point ∧ 0 < sleeps point
  /-- Beside a line every permit has somebody awake who is about to take it. -/
  awake : semaphore.line ≠ [] →
    semaphore.permits.toNat + semaphore.line.length ≤ total sleeps threads

namespace Attended

theorem ofPermits (permits : UInt64) : Attended sleeps threads (.ofPermits permits) :=
  ⟨by simp [Semaphore.ofPermits], by simp [Semaphore.ofPermits], by simp [Semaphore.ofPermits]⟩

theorem set (attended : Attended sleeps threads semaphore) (found : threads[me]? = some old)
    (stays : sleeps old ≤ sleeps new) : Attended sleeps (threads.set me new) semaphore := by
  refine ⟨attended.distinct, ?_, ?_⟩
  · intro other member
    obtain ⟨point, foundOther, heavy⟩ := attended.asleep other member
    by_cases same : other = me
    · subst same
      obtain rfl : old = point := by simpa [found] using foundOther
      exact ⟨new, World.found_set found, by omega⟩
    · exact ⟨point, by rwa [List.getElem?_set_ne (Ne.symm same)], heavy⟩
  · intro standing
    have enough := attended.awake standing
    have change := World.total_set sleeps found new
    omega

theorem append (attended : Attended sleeps threads semaphore) (point : π) :
    Attended sleeps (threads ++ [point]) semaphore := by
  refine ⟨attended.distinct, ?_, ?_⟩
  · intro other member
    obtain ⟨found, foundOther, heavy⟩ := attended.asleep other member
    obtain ⟨bound, _⟩ := List.getElem?_eq_some_iff.mp foundOther
    exact ⟨found, by rwa [List.getElem?_append_left bound], heavy⟩
  · intro standing
    have enough := attended.awake standing
    rw [World.total_append]
    omega

private theorem asleep_of_leave (attended : Attended sleeps threads semaphore)
    (outside : me ∉ semaphore.line) :
    ∀ other ∈ semaphore.line,
      ∃ point, (threads.set me new)[other]? = some point ∧ 0 < sleeps point := by
  intro other member
  obtain ⟨point, foundOther, heavy⟩ := attended.asleep other member
  have different : me ≠ other := fun same => outside (same ▸ member)
  exact ⟨point, by rwa [List.getElem?_set_ne different], heavy⟩

theorem taken (attended : Attended sleeps threads semaphore) (found : threads[me]? = some old)
    (slept : sleeps old = 1) (taken : semaphore.wait me = .taken later) :
    Attended sleeps (threads.set me new) later := by
  obtain ⟨outside, some, rfl⟩ := wait_taken taken
  refine ⟨attended.distinct, attended.asleep_of_leave outside, ?_⟩
  intro standing
  have enough := attended.awake standing
  have fewer := toNat_permits_sub_one some
  have change := World.total_set sleeps found new
  simp only at standing ⊢
  omega

theorem take (attended : Attended sleeps threads semaphore)
    (taken : semaphore.take? = some later) : Attended sleeps threads later := by
  obtain ⟨some, rfl⟩ := take_eq_some taken
  refine ⟨attended.distinct, attended.asleep, ?_⟩
  intro standing
  have enough := attended.awake standing
  have fewer := toNat_permits_sub_one some
  simp only at standing ⊢
  omega

theorem joined (attended : Attended sleeps threads semaphore) (found : threads[me]? = some old)
    (slept : 0 < sleeps old) (joined : semaphore.wait me = .joined later) :
    Attended sleeps threads later := by
  obtain ⟨outside, none, rfl⟩ := wait_joined joined
  have distinct : (semaphore.line ++ [me]).Nodup := by
    rw [List.nodup_append]
    refine ⟨attended.distinct, by simp, ?_⟩
    intro other member last lastMember same
    rw [List.mem_singleton] at lastMember
    exact outside (lastMember ▸ same ▸ member)
  have asleep : ∀ other ∈ semaphore.line ++ [me],
      ∃ point, threads[other]? = some point ∧ 0 < sleeps point := by
    intro other member
    rcases List.mem_append.mp member with member | member
    · exact attended.asleep other member
    · rw [List.mem_singleton] at member
      exact ⟨old, member ▸ found, slept⟩
  refine ⟨distinct, asleep, ?_⟩
  intro _
  have short := World.length_le_total distinct asleep
  simp only [none, UInt64.toNat_zero, Nat.zero_add]
  exact short

theorem post (attended : Attended sleeps threads semaphore) :
    Attended sleeps threads semaphore.post := by
  refine ⟨attended.distinct.tail, fun other member =>
    attended.asleep other (List.mem_of_mem_tail member), ?_⟩
  intro standing
  have longer : semaphore.line ≠ [] := by
    intro empty
    exact standing (by simp [Semaphore.post, empty])
  have enough := attended.awake longer
  have bound := toNat_permits_add_le semaphore.permits 1
  have positive := List.length_pos_iff.mpr longer
  simp only [UInt64.reduceToNat] at bound
  simp only [Semaphore.post, List.length_tail]
  omega

theorem postMany (attended : Attended sleeps threads semaphore) (permits : UInt64) :
    Attended sleeps threads (semaphore.postMany permits) := by
  unfold Semaphore.postMany
  split
  · exact attended
  · exact ⟨by simp, by simp, by simp⟩

theorem withdraw (attended : Attended sleeps threads semaphore) (found : threads[me]? = some old)
    (slept : sleeps old = 1) (withdrawn : semaphore.withdraw? me = some later) :
    Attended sleeps (threads.set me new) later := by
  obtain ⟨member, rfl⟩ := withdraw_eq_some withdrawn
  refine ⟨attended.distinct.erase me, ?_, ?_⟩
  · intro other remains
    obtain ⟨different, listed⟩ := (attended.distinct.mem_erase_iff).mp remains
    obtain ⟨point, foundOther, heavy⟩ := attended.asleep other listed
    exact ⟨point, by rwa [List.getElem?_set_ne (Ne.symm different)], heavy⟩
  · intro _
    have enough := attended.awake (List.ne_nil_of_mem member)
    have change := World.total_set sleeps found new
    have shorter := List.length_erase_of_mem member
    have positive := List.length_pos_of_mem member
    simp only [shorter]
    omega

theorem add (attended : Attended sleeps threads semaphore) (found : threads[me]? = some old)
    (permits : UInt64) (enough : permits.toNat + sleeps old ≤ sleeps new) :
    Attended sleeps (threads.set me new) { semaphore with permits := semaphore.permits + permits } := by
  have stays := attended.set found (show sleeps old ≤ sleeps new by omega)
  refine ⟨stays.distinct, stays.asleep, ?_⟩
  intro standing
  have before := attended.awake standing
  have bound := toNat_permits_add_le semaphore.permits permits
  have change := World.total_set sleeps found new
  simp only at standing ⊢
  omega

theorem rouse (attended : Attended sleeps threads semaphore) (found : threads[me]? = some old)
    (outside : me ∉ semaphore.line) (one : sleeps old ≤ sleeps new + 1) :
    Attended sleeps (threads.set me new) { semaphore with line := semaphore.line.tail } := by
  refine ⟨attended.distinct.tail, fun other member =>
    attended.asleep_of_leave outside other (List.mem_of_mem_tail member), ?_⟩
  intro standing
  have longer : semaphore.line ≠ [] := by
    intro empty
    exact standing (by simp [empty])
  have before := attended.awake longer
  have change := World.total_set sleeps found new
  have positive := List.length_pos_iff.mpr longer
  simp only [List.length_tail]
  omega

theorem leave (attended : Attended sleeps threads semaphore) (outside : me ∉ semaphore.line)
    (idle : semaphore.permits = 0 ∨ semaphore.line = []) :
    Attended sleeps (threads.set me new) semaphore := by
  have asleep : ∀ other ∈ semaphore.line,
      ∃ point, (threads.set me new)[other]? = some point ∧ 0 < sleeps point :=
    attended.asleep_of_leave outside
  refine ⟨attended.distinct, asleep, ?_⟩
  intro standing
  have none : semaphore.permits = 0 := idle.resolve_right standing
  rw [none, UInt64.toNat_zero, Nat.zero_add]
  exact World.length_le_total attended.distinct asleep

theorem length_le (attended : Attended sleeps threads semaphore) :
    semaphore.line.length ≤ total sleeps threads :=
  World.length_le_total attended.distinct attended.asleep

theorem permits_eq_zero_of_listed (attended : Attended sleeps threads semaphore)
    (listed : ∀ me point, threads[me]? = some point → 0 < sleeps point →
      sleeps point = 1 ∧ me ∈ semaphore.line)
    (standing : semaphore.line ≠ []) : semaphore.permits = 0 := by
  have enough := attended.awake standing
  have short : total sleeps threads ≤ semaphore.line.length := World.total_le_length listed
  apply UInt64.toNat_inj.mp
  simp only [UInt64.toNat_zero]
  omega

theorem permits_eq_zero (attended : Attended sleeps threads semaphore)
    (light : ∀ point, sleeps point ≤ 1)
    (listed : ∀ me point, threads[me]? = some point → 0 < sleeps point → me ∈ semaphore.line)
    (standing : semaphore.line ≠ []) : semaphore.permits = 0 := by
  refine attended.permits_eq_zero_of_listed ?_ standing
  intro me point found heavy
  have bound := light point
  exact ⟨by omega, listed me point found heavy⟩

end Attended

end Turnstile.Semaphore
