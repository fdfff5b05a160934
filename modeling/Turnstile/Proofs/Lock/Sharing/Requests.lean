import Turnstile.Proofs.Lock.Sharing.Handover

/-!
# Requests of a shared lock, one after the other

Each request is followed, in any order, until nobody can act, and nothing is given up that
is not held. The lock is then settled again, and what is seen of the request is what the
`PhaseFair` lock says. The schedule that is run for a request is one of these orders.
-/

namespace Turnstile.Lock.Sharing

set_option autoImplicit false

open World (total)

variable {fair : PhaseFair} {outcome : Outcome} {request : Request} {requests : List Request}
  {lock : Sharing} {before world last : World Sharing Point}

/-- The request gives up nothing but what is held, and after it there are still few enough
readers. -/
structure PhaseFair.Allows (fair : PhaseFair) (request : Request) : Prop where
  holds : fair.Holds request
  fits : (fair.serve request).fair.Fits

theorem PhaseFair.allows_of_few (holds : (PhaseFair.free.serveAll requests).Holds request)
    (few : ((requests.length + 1 : Nat) : Int) < Int64.maxValue.toInt) :
    (PhaseFair.free.serveAll requests).Allows request := by
  refine ⟨holds, ?_⟩
  have before := PhaseFair.serveAll_readers_le requests PhaseFair.free
  have now := PhaseFair.serve_readers_le request (PhaseFair.free.serveAll requests)
  have none : PhaseFair.free.inside + PhaseFair.free.readers.length = 0 := rfl
  unfold PhaseFair.Fits
  omega

/-- The requests were made one after the other, each once the one before had come to rest. -/
inductive ServedAll : List Request → World Sharing Point → Prop where
  | none : ServedAll [] ⟨Sharing.free, []⟩
  | next {requests : List Request} {request : Request} {before last : World Sharing Point}
      (earlier : ServedAll requests before) (allowed : (PhaseFair.free.serveAll requests).Allows request)
      (settles : (before.spawn request.start).Settles machine last) :
      ServedAll (requests ++ [request]) last

/-- What can be read off the lock, and the two words. -/
structure Shows (fair : PhaseFair) (lock : Sharing) : Prop where
  isHeld : lock.isHeld = fair.isHeld
  isHeldExclusively : lock.isHeldExclusively = fair.isHeldExclusively
  readers : lock.readers.toInt = fair.word
  departing : lock.departing.toInt = fair.departing

structure Agrees (outcome : Outcome) (report : Report Answer) (lock : Sharing) : Prop where
  answer : report.answer = outcome.answer
  released : report.released.Perm outcome.released
  waiting : report.waiting.Perm outcome.fair.waiting
  shows : Shows outcome.fair lock

namespace Settled

theorem free : Settled .free ⟨Sharing.free, []⟩ := by
  refine ⟨⟨rfl, rfl, rfl, rfl, ⟨by decide, rfl, by simp [PhaseFair.free], by decide, .inl rfl⟩⟩,
    PhaseFair.sane_free, by decide, rfl, ?_, ?_⟩
  · intro me point found
    cases found
  · intro me member
    cases member

theorem shows (settled : Settled fair before) : Shows fair before.shared := by
  have few := settled.inside_lt
  have bound := toInt_roof
  have roofed : before.shared.readers = roof ↔ before.shared.readers.toInt = roof.toInt :=
    Int64.toInt_inj.symm
  have shut : before.shared.readers ≤ 0 ↔ before.shared.readers.toInt ≤ 0 := by
    rw [Int64.le_iff_toInt_le, Int64.toInt_zero]
  refine ⟨?_, ?_, settled.mirrors.word, settled.mirrors.departing⟩
  · rw [isHeld, PhaseFair.isHeld, decide_eq_decide, ne_eq, roofed]
    by_cases absent : fair.writer = .absent
    · have word := settled.word_open absent
      simp only [absent, ne_eq, not_true_eq_false, or_false]
      omega
    · have word := settled.word_shut absent
      simp only [ne_eq, absent, not_false_eq_true, or_true, iff_true]
      omega
  · rw [isHeldExclusively, PhaseFair.isHeldExclusively, decide_eq_decide, shut]
    by_cases absent : fair.writer = .absent
    · have word := settled.word_open absent
      have nobody := (settled.sane.absent absent).1
      rw [nobody, List.length_nil] at few
      simp only [absent, ne_eq, not_true_eq_false, iff_false]
      omega
    · have word := settled.word_shut absent
      simp only [ne_eq, absent, not_false_eq_true, iff_true]
      omega

theorem handle_comes (settled : Settled fair before) (holds : fair.Holds request) :
    World.Comes machine (Arrives before (fair.handle request)) (before.threads.length + 9)
      (before.spawn request.start) := by
  have few : fair.readers.length ≤ before.threads.length := by
    have light : total asleep before.threads ≤ before.threads.length * 1 :=
      World.total_le_mul fun point => by cases point <;> simp [asleep]
    have same := settled.total_asleep
    omega
  cases request with
  | enter mode =>
      cases mode with
      | shared => exact settled.enterShared_comes.mono (by omega)
      | exclusive => exact settled.enterExclusive_comes.mono (by omega)
  | tryEnter mode =>
      cases mode with
      | shared => exact settled.tryEnterShared_comes.mono (by omega)
      | exclusive => exact settled.tryEnterExclusive_comes.mono (by omega)
  | leave mode =>
      cases mode with
      | shared => exact (settled.leaveShared_comes holds).mono (by omega)
      | exclusive => exact (settled.leaveExclusive_comes holds).mono (by omega)

theorem issue_settles (settled : Settled fair before) (holds : fair.Holds request) :
    (before.spawn request.start).Settles machine (before.issue machine request.start).1 := by
  rw [World.issue_fst]
  refine (settled.handle_comes holds).settle ?_
  simp only [World.spawn, List.length_append, List.length_singleton]
  omega

theorem agrees (settled : Settled fair before) (allowed : fair.Allows request)
    (settles : (before.spawn request.start).Settles machine last) :
    Settled (fair.serve request).fair last ∧
      Agrees (fair.serve request) (before.report machine last before.threads.length) last.shared := by
  have arrives := (settled.handle_comes allowed.holds).surely last settles
  have served := settled.serve allowed.holds allowed.fits arrives
  have ends := settled.ends (PhaseFair.handle_places settled.sane.toStaged allowed.holds) arrives
  refine ⟨served, ends.report_answer, ends.report_released, ?_, served.shows⟩
  exact World.report_waiting_perm served.sane.distinct fun _ => served.mem_waiting_iff

end Settled

theorem ServedAll.settled (served : ServedAll requests world) :
    Settled (PhaseFair.free.serveAll requests) world := by
  induction served with
  | none => exact .free
  | next earlier allowed settles ih =>
      rw [PhaseFair.serveAll, List.foldl_append]
      exact (ih.agrees allowed settles).1

end Turnstile.Lock.Sharing
