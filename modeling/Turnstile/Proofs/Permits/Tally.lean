import Turnstile.Permits.Basic

/-!
# Permits without callers

What a permit counter is to somebody who only counts: how many permits there are, and how
many callers wait. Whom a release wakes is not to be seen here, and neither is how often a
caller that was woken looks at the count: as many of them take a permit as there are
permits, and the others wait again. A release may leave callers waiting beside permits,
since it wakes one caller for any number of them.

The counters differ in one thing: what they do about a sum that leaves the range.
-/

namespace Turnstile.Permits

set_option autoImplicit false

/-- What happens to a counter while everybody rests. -/
inductive Event where
  | call (request : Request)
  /-- A timed wait that ends before anything else happens. -/
  | callBriefly
  /-- The timed wait of a caller that has waited until now ends. -/
  | lapse
  deriving DecidableEq, Repr

structure Tally where
  permits : UInt64
  waiting : Nat
  deriving DecidableEq, Repr

/-- What an event comes to: the answer of the call that was made, or whose wait has ended, and
the answers of the callers from before that have returned. -/
structure Outcome where
  answer : Option Answer
  released : List Answer
  tally : Tally
  deriving DecidableEq, Repr

/-- How many of so many waiting callers a release wakes. -/
def Wake.woken : Wake → Nat → Nat
  | one, waiting => min 1 waiting
  | all, waiting => waiting

theorem Wake.woken_le (wake : Wake) (waiting : Nat) : wake.woken waiting ≤ waiting := by
  cases wake with
  | one => exact Nat.min_le_right 1 waiting
  | all => exact Nat.le_refl waiting

namespace Tally

/-- A sum of permits that leaves the range. -/
def Exceeds (tally : Tally) (permits : UInt64) : Prop :=
  UInt64.size ≤ tally.permits.toNat + permits.toNat

instance (tally : Tally) (permits : UInt64) : Decidable (tally.Exceeds permits) :=
  inferInstanceAs (Decidable (_ ≤ _))

/-- The permits are there, and those that are woken take what they can of them. -/
def release (permits : UInt64) (wake : Wake) (tally : Tally) : Outcome :=
  let sum := tally.permits + permits
  let taken := min (wake.woken tally.waiting) sum.toNat
  ⟨some .released, .replicate taken .taken, ⟨.ofNat (sum.toNat - taken), tally.waiting - taken⟩⟩

def look (tally : Tally) : Answer × Tally :=
  if tally.permits = 0 then (.refused, tally) else (.taken, { tally with permits := tally.permits - 1 })

/-- What an event comes to at a counter that checks its sums, or at one that does not. -/
def handle (checked : Bool) : Event → Tally → Outcome
  | .call (.release permits wake), tally =>
    if checked ∧ tally.Exceeds permits then ⟨some (.fault .sumOverflow), [], tally⟩
    else tally.release permits wake
  | .call (.acquire _), tally =>
    if tally.permits = 0 then ⟨none, [], { tally with waiting := tally.waiting + 1 }⟩
    else ⟨some .taken, [], tally.look.2⟩
  | .call .tryAcquire, tally | .callBriefly, tally => ⟨some tally.look.1, [], tally.look.2⟩
  | .lapse, tally =>
    ⟨some tally.look.1, [tally.look.1], { tally.look.2 with waiting := tally.waiting - 1 }⟩

theorem look_of_none {tally : Tally} (none : tally.permits = 0) : tally.look = (.refused, tally) :=
  if_pos none

theorem look_of_some {tally : Tally} (some : tally.permits ≠ 0) :
    tally.look = (.taken, { tally with permits := tally.permits - 1 }) := if_neg some

theorem waiting_look (tally : Tally) : tally.look.2.waiting = tally.waiting := by
  unfold look
  split <;> rfl

theorem toNat_sub_one {permits : UInt64} (some : permits ≠ 0) :
    (permits - 1).toNat = permits.toNat - 1 := by
  have positive : permits.toNat ≠ 0 := fun zero => some (UInt64.toNat_inj.mp zero)
  have least : (1 : UInt64) ≤ permits := by
    rw [UInt64.le_iff_toNat_le, UInt64.toNat_one]
    exact Nat.one_le_iff_ne_zero.mpr positive
  rw [UInt64.toNat_sub_of_le _ _ least, UInt64.toNat_one]

theorem handle_release (permits : UInt64) (wake : Wake) (tally : Tally) :
    tally.handle false (.call (.release permits wake)) = tally.release permits wake := by
  simp [handle]

theorem release_of_nobody {tally : Tally} (nobody : tally.waiting = 0) :
    tally.release 1 .one = ⟨some .released, [], { tally with permits := tally.permits + 1 }⟩ := by
  have woken : Wake.one.woken tally.waiting = 0 := by rw [nobody]; rfl
  simp only [release, woken, Nat.zero_min, Nat.sub_zero, UInt64.ofNat_toNat, List.replicate_zero]

theorem release_of_none {tally : Tally} (none : tally.permits = 0) (waits : tally.waiting ≠ 0) :
    tally.release 1 .one = ⟨some .released, [.taken], { tally with waiting := tally.waiting - 1 }⟩ := by
  have woken : Wake.one.woken tally.waiting = 1 := Nat.min_eq_left (Nat.pos_of_ne_zero waits)
  simp [release, woken, none]

/-- The tally after so many events at a counter that does not check its sums. -/
def handleAll (events : List Event) (tally : Tally) : Tally :=
  events.foldl (fun tally event => (tally.handle false event).tally) tally

end Tally

/-- No release takes such a count out of the range. -/
def Event.Fits (count : UInt64) : Event → Prop
  | call (.release permits _) => count.toNat + permits.toNat < UInt64.size
  | _ => True

instance (count : UInt64) : DecidablePred (Event.Fits count)
  | .call (.release permits _) =>
    inferInstanceAs (Decidable (count.toNat + permits.toNat < UInt64.size))
  | .call (.acquire _) | .call .tryAcquire | .callBriefly | .lapse => .isTrue trivial

theorem Tally.handle_of_fits {tally : Tally} {event : Event} (fits : event.Fits tally.permits)
    (checked : Bool) : tally.handle checked event = tally.handle false event := by
  match event, fits with
  | .call (.release permits wake), fits =>
      have within : ¬tally.Exceeds permits := Nat.not_le.mpr fits
      simp [handle, within]
  | .call (.acquire _), _ | .call .tryAcquire, _ | .callBriefly, _ | .lapse, _ => rfl

end Turnstile.Permits
