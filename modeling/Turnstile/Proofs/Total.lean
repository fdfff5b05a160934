import Mathlib.Algebra.BigOperators.Group.List.Basic
import Mathlib.Algebra.GroupWithZero.Nat
import Mathlib.Algebra.BigOperators.Group.Finset.Piecewise
import Mathlib.Algebra.Order.BigOperators.Group.Finset
import Turnstile.Machine

/-!
# Sums over the threads of a world

An invariant of a primitive seldom speaks of one thread: it says how many
threads are inside, how many are on the way out, how many sleep. Each of these
is the `total` of a weight that depends on a thread's point only, and a move
changes a total by the difference of the two weights of the thread that moves.
-/

namespace Turnstile.World

set_option autoImplicit false

variable {π : Type} {threads : List π} {me : ThreadId} {old new : π}

/-- What all threads weigh together. -/
def total (weight : π → Nat) (threads : List π) : Nat := (threads.map weight).sum

theorem found_set (found : threads[me]? = some old) : (threads.set me new)[me]? = some new := by
  simp [List.getElem?_set_self', found]

theorem found_append (found : threads[me]? = some old) : (threads ++ [new])[me]? = some old := by
  obtain ⟨bound, _⟩ := List.getElem?_eq_some_iff.mp found
  rwa [List.getElem?_append_left bound]

theorem found_or_last_of_append (found : (threads ++ [new])[me]? = some old) :
    threads[me]? = some old ∨ me = threads.length ∧ old = new := by
  rw [List.getElem?_append] at found
  split at found
  · exact .inl found
  · next beyond =>
    obtain ⟨bound, _⟩ := List.getElem?_eq_some_iff.mp found
    have here : me - threads.length = 0 := Nat.lt_one_iff.mp bound
    refine .inr ⟨Nat.le_antisymm (Nat.sub_eq_zero_iff_le.mp here) (Nat.not_lt.mp beyond), ?_⟩
    exact List.mem_singleton.mp (List.mem_of_getElem? found)

theorem found_or_eq_of_append (found : (threads ++ [new])[me]? = some old) :
    threads[me]? = some old ∨ old = new :=
  (found_or_last_of_append found).imp id And.right

theorem set_self (found : threads[me]? = some old) : threads.set me old = threads := by
  obtain ⟨bound, rfl⟩ := List.getElem?_eq_some_iff.mp found
  exact List.set_getElem_self bound

theorem total_set (weight : π → Nat) (found : threads[me]? = some old) (new : π) :
    total weight (threads.set me new) + weight old = total weight threads + weight new := by
  unfold total
  induction threads generalizing me with
  | nil => simp at found
  | cons first rest ih =>
      cases me with
      | zero =>
          obtain rfl : first = old := by simpa using found
          simp only [List.set_cons_zero, List.map_cons, List.sum_cons]
          omega
      | succ me =>
          have later := ih (by simpa using found)
          simp only [List.set_cons_succ, List.map_cons, List.sum_cons]
          omega

theorem total_set_of_eq {weight : π → Nat} (found : threads[me]? = some old) (same : weight new = weight old) :
    total weight (threads.set me new) = total weight threads := by
  have change := total_set weight found new
  omega

theorem total_append (weight : π → Nat) (point : π) :
    total weight (threads ++ [point]) = total weight threads + weight point := by
  simp [total]

theorem total_replicate (weight : π → Nat) (count : Nat) (point : π) :
    total weight (List.replicate count point) = count * weight point := by
  simp [total]

theorem total_map {κ : Type} (weight : π → Nat) (view : κ → π) (seen : List κ) :
    total weight (seen.map view) = total (weight ∘ view) seen := by
  simp [total]

theorem total_add (weight other : π → Nat) (threads : List π) : total (fun point => weight point + other point) threads =
    total weight threads + total other threads := by
  simp [total, List.sum_map_add]

theorem total_eq_total_of_paired {κ : Type} {entries : List κ} {weight : κ → Nat} {other : π → Nat}
    (length : entries.length = threads.length)
    (same : ∀ (me : ThreadId) (entry : κ) (point : π), entries[me]? = some entry →
      threads[me]? = some point → weight entry = other point) :
    total weight entries = total other threads := by
  have maps : entries.map weight = threads.map other := by
    apply List.ext_getElem (by simpa using length)
    intro me left right
    rw [List.getElem_map, List.getElem_map]
    rw [List.length_map] at left right
    exact same me _ _ (List.getElem?_eq_getElem left) (List.getElem?_eq_getElem right)
  rw [total, maps, total]

theorem total_le_total {weight other : π → Nat} (lighter : ∀ point, weight point ≤ other point) :
    total weight threads ≤ total other threads := by
  unfold total
  induction threads with
  | nil => simp
  | cons first rest ih =>
      have here := lighter first
      simp only [List.map_cons, List.sum_cons]
      omega

theorem total_le_mul {weight : π → Nat} {most : Nat} (light : ∀ point, weight point ≤ most) :
    total weight threads ≤ threads.length * most := by
  unfold total
  have bound := List.sum_le_card_nsmul (threads.map weight) most (by simpa using fun point _ => light point)
  simpa using bound

theorem total_eq_sum_range (weight : π → Nat) (threads : List π) : total weight threads =
    ∑ me ∈ Finset.range threads.length, (threads[me]?.map weight).getD 0 := by
  unfold total
  induction threads with
  | nil => simp
  | cons first rest ih =>
      rw [List.length_cons, Finset.sum_range_succ']
      simp only [List.map_cons, List.sum_cons, List.getElem?_cons_succ, List.getElem?_cons_zero,
        Option.map_some, Option.getD_some]
      omega

theorem exists_of_total_pos {weight : π → Nat} (positive : 0 < total weight threads) :
    ∃ (me : ThreadId) (point : π), threads[me]? = some point ∧ 0 < weight point := by
  by_contra none
  have light : ∀ point ∈ threads, weight point = 0 := by
    intro point member
    obtain ⟨me, found⟩ := List.mem_iff_getElem?.mp member
    by_contra heavy
    exact none ⟨me, point, found, Nat.pos_of_ne_zero heavy⟩
  have zero : total weight threads = 0 := by
    simpa [total, List.sum_eq_zero_iff] using light
  omega

theorem total_eq_zero {weight : π → Nat}
    (light : ∀ (me : ThreadId) (point : π), threads[me]? = some point → weight point = 0) :
    total weight threads = 0 := by
  by_contra some
  obtain ⟨me, point, found, heavy⟩ := exists_of_total_pos (Nat.pos_of_ne_zero some)
  have none := light me point found
  omega

theorem length_le_total {weight : π → Nat} {line : List ThreadId} (distinct : line.Nodup)
    (heavy : ∀ me ∈ line, ∃ point, threads[me]? = some point ∧ 0 < weight point) :
    line.length ≤ total weight threads := by
  rw [total_eq_sum_range, ← List.toFinset_card_of_nodup distinct, Finset.card_eq_sum_ones]
  have inside : line.toFinset ⊆ Finset.range threads.length := by
    intro me member
    obtain ⟨point, found, _⟩ := heavy me (List.mem_toFinset.mp member)
    obtain ⟨bound, _⟩ := List.getElem?_eq_some_iff.mp found
    exact Finset.mem_range.mpr bound
  calc
    ∑ _me ∈ line.toFinset, 1 ≤
        ∑ me ∈ line.toFinset, (threads[me]?.map weight).getD 0 := by
      apply Finset.sum_le_sum
      intro me member
      obtain ⟨point, found, positive⟩ := heavy me (List.mem_toFinset.mp member)
      simpa [found, Nat.one_le_iff_ne_zero, Nat.pos_iff_ne_zero] using positive
    _ ≤ ∑ me ∈ Finset.range threads.length, (threads[me]?.map weight).getD 0 :=
      Finset.sum_le_sum_of_subset inside

theorem weight_le_total (weight : π → Nat) (found : threads[me]? = some old) :
    weight old ≤ total weight threads := by
  rw [total_eq_sum_range]
  obtain ⟨bound, _⟩ := List.getElem?_eq_some_iff.mp found
  have single := Finset.single_le_sum
    (f := fun me => (threads[me]?.map weight).getD 0) (fun _ _ => Nat.zero_le _)
    (Finset.mem_range.mpr bound)
  simpa [found] using single

theorem eq_of_total_le_one {weight : π → Nat} {first second : ThreadId} {here there : π}
    (atMostOne : total weight threads ≤ 1)
    (foundFirst : threads[first]? = some here) (heavyFirst : 0 < weight here)
    (foundSecond : threads[second]? = some there) (heavySecond : 0 < weight there) :
    first = second := by
  by_contra different
  have both : [first, second].length ≤ total weight threads := by
    apply length_le_total (by simpa using different)
    intro me member
    rcases List.mem_cons.mp member with rfl | member
    · exact ⟨here, foundFirst, heavyFirst⟩
    · rw [List.mem_singleton.mp member]
      exact ⟨there, foundSecond, heavySecond⟩
  simp only [List.length_cons, List.length_nil] at both
  omega

theorem weight_eq_zero_of_total {weight : π → Nat} (zero : total weight threads = 0) (me : ThreadId) :
    (threads[me]?.map weight).getD 0 = 0 := by
  cases found : threads[me]? with
  | none => rfl
  | some point =>
      have light := weight_le_total weight found
      rw [zero] at light
      exact Nat.le_zero.mp light

theorem exists_alone_of_total_eq_one {weight : π → Nat} (one : total weight threads = 1) :
    ∃ (me : ThreadId) (point : π), threads[me]? = some point ∧ weight point = 1 ∧
      ∀ other, other ≠ me → (threads[other]?.map weight).getD 0 = 0 := by
  obtain ⟨me, point, found, heavy⟩ := exists_of_total_pos (one ▸ Nat.one_pos)
  have light := weight_le_total weight found
  refine ⟨me, point, found, by omega, ?_⟩
  intro other different
  cases foundOther : threads[other]? with
  | none => rfl
  | some there =>
      by_contra heavyOther
      exact different
        (eq_of_total_le_one one.le foundOther (Nat.pos_of_ne_zero heavyOther) found heavy)

/-- Where only one thread can have weight, and does, whatever weighs nothing without
it is that thread's alone. -/
theorem total_eq_of_alone {weight other : π → Nat} (atMostOne : total weight threads ≤ 1)
    (found : threads[me]? = some old) (heavy : 0 < weight old)
    (follows : ∀ point, weight point = 0 → other point = 0) :
    total other threads = other old := by
  obtain ⟨bound, _⟩ := List.getElem?_eq_some_iff.mp found
  rw [total_eq_sum_range, Finset.sum_eq_single me]
  · simp [found]
  · intro second member different
    cases foundSecond : threads[second]? with
    | none => simp
    | some there =>
        have weightless : weight there = 0 := by
          by_contra heavySecond
          exact different (eq_of_total_le_one atMostOne foundSecond
            (Nat.pos_of_ne_zero heavySecond) found heavy)
        simp [follows there weightless]
  · intro outside
    exact absurd (Finset.mem_range.mpr bound) outside

/-- If every thread that has weight has only a weight of one and stands in the
line, then the line is as long as the total. -/
theorem total_le_length {weight : π → Nat} {line : List ThreadId}
    (listed : ∀ me point, threads[me]? = some point → 0 < weight point →
      weight point = 1 ∧ me ∈ line) :
    total weight threads ≤ line.length := by
  rw [total_eq_sum_range]
  calc
    ∑ me ∈ Finset.range threads.length, (threads[me]?.map weight).getD 0 ≤
        ∑ me ∈ Finset.range threads.length, if me ∈ line then 1 else 0 := by
      apply Finset.sum_le_sum
      intro me _
      cases found : threads[me]? with
      | none => simp
      | some point =>
          by_cases heavy : 0 < weight point
          · obtain ⟨one, member⟩ := listed me point found heavy
            simp [one, member]
          · simp at heavy
            simp [heavy]
    _ = ((Finset.range threads.length).filter (· ∈ line)).card := by
      rw [Finset.card_filter]
    _ ≤ line.toFinset.card := by
      apply Finset.card_le_card
      intro me member
      exact List.mem_toFinset.mpr (Finset.mem_filter.mp member).2
    _ ≤ line.length := List.toFinset_card_le line

end Turnstile.World
