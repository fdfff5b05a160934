import Turnstile.Proofs.Counting.Serving
import Turnstile.Proofs.Permits.Interchange

/-!
# A counting semaphore beside a plain one

The same calls are made on a counting semaphore and on a plain one that began with as many
permits, one at a time on each, and each followed in any order of the threads until nobody
can act. Both then follow one `Tally`, whichever counter the plain one is kept in: nobody
who looks at answers and numbers can tell the two apart. The count in its one word says
both how many permits there are and how many callers wait, since there is never one beside
the other.

The counting semaphore counts in a signed word and the plain one in an unsigned one, so
this ends when a call takes the signed word out of its range. It takes about 2 ^ 63 calls to
get there.
-/

namespace Turnstile.Counting

set_option autoImplicit false

open Permits (Alike Backend Prompt Reading SemaphoreCall Tally)

variable {backend : Backend} {reading : Reading backend} {checked : Bool} {initial : UInt32}
  {calls : List Call} {call : Call} {tally : Tally} {fast : World Counting Point}
  {plain : World backend.Shared backend.Point}

/-- The same call on a plain semaphore. -/
def Call.twin : Call → SemaphoreCall
  | post => .post
  | wait => .wait
  | tryWait => .tryWait

theorem Call.start_twin (call : Call) :
    call.twin.start backend = backend.start call.request := by
  cases call <;> rfl

/-- The same calls have been made on both semaphores, in any order of the threads of each, and
none has taken the signed count out of its word. -/
inductive Together (backend : Backend) (initial : UInt32) :
    List Call → World Counting Point → World backend.Shared backend.Point → Prop where
  | opened : Together backend initial [] ⟨ofCount initial, []⟩
      ⟨backend.ofPermits initial.toUInt64, []⟩
  | next {calls : List Call} {call : Call} {fast fastLast : World Counting Point}
      {plain plainLast : World backend.Shared backend.Point}
      (earlier : Together backend initial calls fast plain) (fits : call.Fits fast.shared.count)
      (one : (fast.spawn (start call)).Settles machine fastLast)
      (another : (plain.spawn (call.twin.start backend)).Settles backend.machine plainLast) :
      Together backend initial (calls ++ [call]) fastLast plainLast

/-! ## The tally of both -/

def tallyAll (initial : UInt32) (calls : List Call) : Tally :=
  .handleAll (calls.map fun call => .call call.request) ⟨initial.toUInt64, 0⟩

theorem tallyAll_append (initial : UInt32) (calls : List Call) (call : Call) :
    tallyAll initial (calls ++ [call]) =
      ((tallyAll initial calls).handle false (.call call.request)).tally := by
  rw [tallyAll, List.map_append, Tally.handleAll, List.foldl_append]
  rfl

theorem Resting.fits (resting : Resting tally fast) (fits : call.Fits fast.shared.count) :
    Permits.Event.Fits tally.permits (.call call.request) := by
  cases call with
  | wait | tryWait => trivial
  | post =>
      have total := resting.count
      have below : fast.shared.count.toInt < 2 ^ 63 - 1 := fits
      show tally.permits.toNat + 1 < 18446744073709551616
      rcases resting.apart with empty | nobody
      · rw [empty, UInt64.toNat_zero]
        omega
      · omega

theorem Resting.opened (initial : UInt32) : Resting ⟨initial.toUInt64, 0⟩ ⟨ofCount initial, []⟩ := by
  have bound := initial.toNat_lt
  have nobody : Seated [] [] := ⟨List.nodup_nil, nofun, nofun⟩
  refine ⟨nobody, rfl, rfl, ?_, .inr rfl⟩
  show (Int64.ofNat initial.toNat).toInt = (initial.toUInt64.toNat : Int) - 0
  rw [Int64.toInt_ofNat_of_lt (by omega), UInt32.toNat_toUInt64]
  omega

theorem Together.resting (prompt : Prompt reading checked)
    (together : Together backend initial calls fast plain) :
    Resting (tallyAll initial calls) fast ∧
      Permits.Resting reading (tallyAll initial calls) plain := by
  induction together with
  | opened => exact ⟨.opened initial, .opened reading initial.toUInt64⟩
  | @next calls call _ _ _ _ earlier fits one another ih =>
      obtain ⟨resting, others⟩ := ih
      have arrives := (resting.call_comes fits).surely _ one
      rw [call.start_twin] at another
      have served := (others.serve prompt (.call another)).1
      rw [Tally.handle_of_fits (resting.fits fits)] at served
      rw [tallyAll_append]
      exact ⟨arrives.resting, served⟩

/-! ## How far the count can get -/

theorem look_le (tally : Tally) :
    tally.look.2.permits.toNat + tally.look.2.waiting ≤ tally.permits.toNat + tally.waiting := by
  by_cases empty : tally.permits = 0
  · rw [Tally.look_of_none empty]
  · rw [Tally.look_of_some empty]
    have left := Tally.toNat_sub_one empty
    show (tally.permits - 1).toNat + tally.waiting ≤ _
    omega

theorem release_le (tally : Tally) :
    let later := (tally.release 1 .one).tally
    later.permits.toNat + later.waiting ≤ tally.permits.toNat + tally.waiting + 1 := by
  have sum := Semaphore.toNat_permits_add_le tally.permits 1
  rw [UInt64.toNat_one] at sum
  have within (left : Nat) : (UInt64.ofNat left).toNat ≤ left := by
    rw [UInt64.toNat_ofNat']
    exact Nat.mod_le _ _
  have left := within ((tally.permits + 1).toNat -
    min (Permits.Wake.one.woken tally.waiting) (tally.permits + 1).toNat)
  simp only [Tally.release]
  omega

theorem handle_le (tally : Tally) (call : Call) :
    let later := (tally.handle false (.call call.request)).tally
    later.permits.toNat + later.waiting ≤ tally.permits.toNat + tally.waiting + 1 := by
  have looked := look_le tally
  cases call with
  | post =>
      rw [Call.request, Tally.handle_release]
      exact release_le tally
  | wait =>
      simp only [Call.request, Tally.handle]
      split
      · exact Nat.le_refl _
      · exact Nat.le_succ_of_le looked
  | tryWait => exact Nat.le_succ_of_le looked

theorem tallyAll_le (initial : UInt32) (calls : List Call) :
    (tallyAll initial calls).permits.toNat + (tallyAll initial calls).waiting ≤
      initial.toNat + calls.length := by
  induction calls using List.reverseRecOn with
  | nil => exact Nat.le_of_eq (UInt32.toNat_toUInt64 initial)
  | append_singleton calls call ih =>
      have one := handle_le (tallyAll initial calls) call
      rw [tallyAll_append, List.length_append, List.length_singleton]
      omega

theorem Resting.fits_of_short (resting : Resting (tallyAll initial calls) fast)
    (short : initial.toNat + calls.length < 2 ^ 63 - 1) (call : Call) :
    call.Fits fast.shared.count := by
  have total := resting.count
  have most := tallyAll_le initial calls
  cases call with
  | post =>
      show fast.shared.count.toInt < 2 ^ 63 - 1
      omega
  | wait =>
      show -2 ^ 63 < fast.shared.count.toInt
      omega
  | tryWait => trivial

/-- After the same calls on both semaphores, which both began with so many permits, and in
whatever order the threads of each acted on them: the count is what the plain semaphore has
permits less the callers that wait for one, who are as many at both; permits and waiting callers
are never there together; and the inner semaphore has no permit. Of any call that follows, in
whatever order the threads act on it, the answer, the number and the answers of the callers that
return, and the number of those that wait are the same, and it comes to an end on both. All this
holds as long as no call takes the count out of its signed word (`Call.Fits`), which no sequence
of fewer than `2 ^ 63 - 1 - initial` calls does. A post on a full count wraps. -/
theorem agrees_with_plain (initial : UInt32) (name : String) (backend : Backend)
    (known : Backend.ofName? name = some backend) (calls : List Call)
    (fast : World Counting Point) (plain : World backend.Shared backend.Point)
    (together : Together backend initial calls fast plain) :
    (fast.shared.count.toInt = (backend.count plain.shared).toNat -
        World.unanswered backend.machine plain.threads ∧
      World.unanswered machine fast.threads = World.unanswered backend.machine plain.threads ∧
      (backend.count plain.shared = 0 ∨ World.unanswered backend.machine plain.threads = 0) ∧
      fast.shared.asleep.permits = 0) ∧
    (∀ call : Call, call.Fits fast.shared.count →
      (∀ fastLast plainLast, (fast.spawn (start call)).Settles machine fastLast →
        (plain.spawn (call.twin.start backend)).Settles backend.machine plainLast →
        Alike ((fast.report machine fastLast fast.threads.length).map Answer.plain)
          (plain.report backend.machine plainLast plain.threads.length)) ∧
      (fast.spawn (start call)).Settles machine (fast.issue machine (start call)).1 ∧
      (plain.spawn (call.twin.start backend)).Settles backend.machine
        (plain.issue backend.machine (call.twin.start backend)).1) ∧
    (initial.toNat + calls.length < 2 ^ 63 - 1 → ∀ call : Call, call.Fits fast.shared.count) ∧
    (fast.shared.count.toInt = 2 ^ 63 - 1 → ∀ last, (fast.spawn (start .post)).Settles machine last →
      last.shared.count.toInt = -2 ^ 63) := by
  obtain ⟨reading, checked, prompt⟩ := Permits.exists_prompt known
  obtain ⟨resting, others⟩ := together.resting prompt
  have waiting : World.unanswered machine fast.threads = (tallyAll initial calls).waiting :=
    resting.seated.unanswered.trans resting.waiting
  refine ⟨⟨?_, ?_, ?_, resting.spent⟩, ?_, resting.fits_of_short, ?_⟩
  · rw [others.permits, others.unanswered]
    exact resting.count
  · rw [waiting, others.unanswered]
  · rw [others.permits, others.unanswered]
    exact resting.apart
  · intro call fits
    have comes := resting.call_comes fits
    refine ⟨?_, ?_, ?_⟩
    · intro fastLast plainLast one another
      have agrees := (comes.surely _ one).agrees
      rw [call.start_twin] at another
      have agreesToo := (others.serve prompt (.call another)).2
      rw [Tally.handle_of_fits (resting.fits fits)] at agreesToo
      exact (agrees.alike agreesToo).1
    · rw [World.issue_fst]
      apply comes.settle
      omega
    · rw [call.start_twin]
      cases (others.runs prompt).call call.request with
      | call settles => exact settles
  · exact fun full last settles => (resting.post_wraps full).surely last settles

/-- Where the calls of a list lead to on a counting semaphore. -/
def callAll (initial : UInt32) (calls : List Call) : World Counting Point :=
  calls.foldl (fun world call => (world.issue machine (start call)).1) ⟨ofCount initial, []⟩

def callAllPlain (backend : Backend) (initial : UInt32) (calls : List Call) :
    World backend.Shared backend.Point :=
  calls.foldl (fun world call => (world.issue backend.machine (call.twin.start backend)).1)
    ⟨backend.ofPermits initial.toUInt64, []⟩

theorem callAll_append (initial : UInt32) (calls : List Call) (call : Call) :
    callAll initial (calls ++ [call]) = ((callAll initial calls).issue machine (start call)).1 :=
  List.foldl_concat _ _ _ _

theorem callAllPlain_append (backend : Backend) (initial : UInt32) (calls : List Call) (call : Call) :
    callAllPlain backend initial (calls ++ [call]) =
      ((callAllPlain backend initial calls).issue backend.machine (call.twin.start backend)).1 :=
  List.foldl_concat _ _ _ _

theorem Together.of_calls (prompt : Prompt reading checked) (calls : List Call)
    (short : initial.toNat + calls.length < 2 ^ 63 - 1) :
    Together backend initial calls (callAll initial calls) (callAllPlain backend initial calls) := by
  induction calls using List.reverseRecOn with
  | nil => exact .opened
  | append_singleton calls call ih =>
      rw [List.length_append, List.length_singleton] at short
      have earlier := ih (by omega)
      obtain ⟨resting, others⟩ := earlier.resting prompt
      have fits := resting.fits_of_short (by omega) call
      have comes := resting.call_comes fits
      rw [callAll_append, callAllPlain_append]
      apply earlier.next fits
      · rw [World.issue_fst]
        apply comes.settle
        omega
      · rw [call.start_twin]
        cases (others.runs prompt).call call.request with
        | call settles => exact settles

/-- Three callers wait for one permit, one more is posted, and nobody gets one at once. -/
def overbooked : List Call := [.wait, .wait, .wait, .post, .tryWait]

/-- One caller is left waiting on both, and the count says so; the next post is alike on both. -/
theorem overbooked_owes_one :
    let fast := callAll 1 overbooked
    let plain := callAllPlain .parking 1 overbooked
    fast.shared.count.toInt = -1 ∧ World.unanswered machine fast.threads = 1 ∧
      Alike ((fast.issue machine (start .post)).2.map Answer.plain)
        (plain.issue Backend.parking.machine (SemaphoreCall.post.start .parking)).2 := by
  intro fast plain
  have short : (1 : UInt32).toNat + overbooked.length < 2 ^ 63 - 1 := by decide
  have together := Together.of_calls Permits.Parking.prompt overbooked short
  have after : tallyAll 1 overbooked = ⟨0, 1⟩ := by decide
  obtain ⟨_, others⟩ := together.resting Permits.Parking.prompt
  have permits := others.permits
  have waiting := others.unanswered
  rw [after] at permits waiting
  obtain ⟨⟨count, same, _⟩, next, fits, _⟩ :=
    agrees_with_plain 1 "futex" .parking rfl overbooked _ _ together
  obtain ⟨alike, one, another⟩ := next .post (fits short .post)
  refine ⟨?_, same.trans waiting, alike _ _ one another⟩
  exact count.trans (by rw [permits, waiting]; rfl)

end Turnstile.Counting
