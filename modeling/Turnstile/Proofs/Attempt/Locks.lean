import Turnstile.Lock.Sharing
import Turnstile.Lock.Spinning
import Turnstile.Proofs.Attempt.Lines

/-!
# Attempts to enter a lock

An attempt to enter a lock of one word, or one that is waited for by looking at it, fails
with a single action that leaves everything as it is. An attempt to enter a shared lock as a
reader looks at the word; as a writer it takes the gate first, and gives it back if the word
says that somebody is inside. Nobody who is parked notices that: whoever is parked at the
gate sleeps in its line whatever the word of the gate says.
-/

namespace Turnstile.Lock

set_option autoImplicit false

open World (Inert Still Traceless)

def Answer.IsRefused (answer : Answer) : Prop := answer = .refused

namespace Spinning

variable {before : World Spinning Point}

def rename (_ : ThreadId → ThreadId) (lock : Spinning) : Spinning := lock

theorem impartial : machine.Impartial rename where
  act {f} _ me point lock := by
    have same : Prod.map (id : Point → Point) (rename f) = id := Prod.map_id
    rw [same, Option.map_id]
    rfl
  expire _ _ _ _ := rfl

theorem inert (point : Point) (answer : Answer) (answered : machine.answer? point = some answer) :
    Inert machine point := by
  cases point with
  | done => exact fun _ _ => ⟨rfl, rfl⟩
  | _ => cases answered

theorem traceless_tryEnter (still : Still machine before.threads before.shared) :
    Traceless machine Answer.IsRefused before .tryEnter before.shared := by
  refine .step still rfl ?_
  cases held : before.shared.held with
  | true => exact .answers rfl fun _ => congrArg Spinning.mk held.symm
  | false => exact .answers rfl Answer.noConfusion

end Spinning

namespace Exclusive

variable {before : World Exclusive Point}

def rename (f : ThreadId → ThreadId) (lock : Exclusive) : Exclusive :=
  { lock with parked := lock.parked.rename f }

theorem act_rename {f : ThreadId → ThreadId} (injective : Function.Injective f) (me : ThreadId)
    (point : Point) (lock : Exclusive) :
    act (f me) point (rename f lock) = (act me point lock).map (Prod.map id (rename f)) := by
  cases point with
  | sleep =>
      simp only [act, rename, Semaphore.wait_rename injective]
      cases lock.parked.wait me <;> rfl
  | tryEnter => by_cases free : lock.word = .free <;> simp [act, rename, free]
  | leave => cases word : lock.word <;> simp [act, rename, word]
  | wake => simp [act, rename]
  | _ => rfl

theorem impartial : machine.Impartial rename where
  act := act_rename
  expire _ _ _ _ := rfl

theorem inert (point : Point) (answer : Answer) (answered : machine.answer? point = some answer) :
    Inert machine point := by
  cases point with
  | done => exact fun _ _ => ⟨rfl, rfl⟩
  | _ => cases answered

theorem traceless_tryEnter (still : Still machine before.threads before.shared) :
    Traceless machine Answer.IsRefused before .tryEnter before.shared := by
  by_cases free : before.shared.word = .free
  · exact .step still (if_pos free) (.answers rfl Answer.noConfusion)
  · exact .step still (if_neg free) (.answers rfl fun _ => rfl)

theorem still_of_word {me : ThreadId} {point : Point} {lock : Exclusive}
    (still : act me point lock = none) (word : Word) :
    act me point { lock with word } = none := by
  cases point with
  | done => rfl
  | sleep =>
      cases waited : lock.parked.wait me with
      | taken | joined => simp [act, waited] at still
      | asleep => simp [act, waited]
  | tryEnter => by_cases free : lock.word = .free <;> simp [act, free] at still
  | leave => cases word : lock.word <;> simp [act, word] at still
  | _ => cases still

end Exclusive

namespace Sharing

variable {before : World Sharing Point} {me : ThreadId} {point : Point} {lock : Sharing}

def rename (f : ThreadId → ThreadId) (lock : Sharing) : Sharing :=
  { lock with
    gate := lock.gate.rename f
    readerWait := lock.readerWait.rename f
    writerWait := lock.writerWait.rename f }

theorem impartial : machine.Impartial rename where
  act {f} injective me point lock := by
    cases point with
    | sleepShared =>
        simp only [machine, act, rename, Semaphore.wait_rename injective]
        cases lock.readerWait.wait me <;> rfl
    | exchangeShared seen =>
        by_cases same : lock.readers = seen <;> simp [machine, act, rename, same]
    | wakeWriter => simp [machine, act, rename]
    | gate passage point =>
        simp only [machine, act, rename, Exclusive.act_rename injective]
        cases Exclusive.act me point lock.gate <;> rfl
    | drain =>
        simp only [machine, act, rename, Semaphore.wait_rename injective]
        cases lock.writerWait.wait me <;> rfl
    | claim => by_cases empty : lock.readers = roof <;> simp [machine, act, rename, empty]
    | letIn readers => simp [machine, act, rename]
    | _ => rfl
  expire _ _ _ _ := rfl

theorem inert (point : Point) (answer : Answer) (answered : machine.answer? point = some answer) :
    Inert machine point := by
  cases point with
  | done => exact fun _ _ => ⟨rfl, rfl⟩
  | _ => cases answered

theorem still_of_word (still : act me point lock = none) (word : Word) :
    act me point { lock with gate := { lock.gate with word } } = none := by
  cases point with
  | gate passage point =>
      rw [act, Option.map_eq_none_iff] at still ⊢
      exact Exclusive.still_of_word still word
  | done => rfl
  | sleepShared =>
      cases waited : lock.readerWait.wait me with
      | taken | joined => simp [act, waited] at still
      | asleep => simp [act, waited]
  | drain =>
      cases waited : lock.writerWait.wait me with
      | taken | joined => simp [act, waited] at still
      | asleep => simp [act, waited]
  | exchangeShared seen => by_cases same : lock.readers = seen <;> simp [act, same] at still
  | claim => by_cases empty : lock.readers = roof <;> simp [act, empty] at still
  | _ => cases still

theorem traceless_tryEnter_shared (still : Still machine before.threads before.shared) :
    Traceless machine Answer.IsRefused before (tryEnter .shared) before.shared := by
  refine .step still rfl ?_
  by_cases some : 1 ≤ before.shared.readers
  · simp only [afterLook, if_pos some]
    exact .step still (if_pos rfl) (.answers rfl Answer.noConfusion)
  · simp only [afterLook, if_neg some]
    exact .answers rfl fun _ => rfl

theorem traceless_tryEnter_exclusive (still : Still machine before.threads before.shared) :
    Traceless machine Answer.IsRefused before (tryEnter .exclusive) before.shared := by
  by_cases free : before.shared.gate.word = .free
  · have taken (word : Word) : Still machine before.threads
        { before.shared with gate := { before.shared.gate with word } } :=
      fun other there found => still_of_word (still other there found) word
    have takes : act before.threads.length (tryEnter .exclusive) before.shared =
        some (.claim,
          { before.shared with gate := { before.shared.gate with word := .held } }) := by
      simp [tryEnter, act, Exclusive.act, free, atGate, Exclusive.answer?, afterGate]
    refine .step still takes ?_
    by_cases empty : before.shared.readers = roof
    · exact .step (taken .held) (if_pos empty) (.answers rfl Answer.noConfusion)
    · refine .step (taken .held) (if_neg empty) (.step (taken .held) rfl (.answers rfl fun _ => ?_))
      rw [← free]
  · have refused : act before.threads.length (tryEnter .exclusive) before.shared =
        some (.done .refused, before.shared) := by
      simp [tryEnter, act, Exclusive.act, free, atGate, Exclusive.answer?, afterGate]
    exact .step still refused (.answers rfl fun _ => rfl)

end Sharing

end Turnstile.Lock
