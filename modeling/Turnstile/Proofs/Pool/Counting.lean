import Turnstile.Proofs.Pool.Sums

/-!
# What the counters of a pool count

Each counter goes up in an action of its own, before or after the event that it stands
for: a submission is counted when its job is in a queue already, a theft when the job is
out of one, and a fallback when the last of the candidates has been found full. So beside
each count stand the threads that are between the event and the counter.
-/

namespace Turnstile.Pool

set_option autoImplicit false

open World (total)
open Turnstile.Task (Ticket Job)

variable {α : Type} {me : ThreadId} {pool later : Pool α} {ticket : Ticket} {config : Config}
  {world after first last : Running α} {old new : Point α} {history : List (Occurrence α)}

def Occurrence.isAnswer : Occurrence α → Bool
  | .answered _ => true
  | _ => false

def answers (history : List (Occurrence α)) : Nat := history.countP Occurrence.isAnswer

def Note.isTheft : Note → Bool
  | .took worker _ queue => queue ≠ worker
  | _ => false

def Note.isStealing : Note → Bool
  | .stole _ _ => true
  | _ => false

/-- The ticket of a submission that has been counted as a fallback. -/
def Note.fallen? : Note → Option Ticket
  | .fellBack ticket _ => some ticket
  | _ => none

/-- The submission of the thread is accepted, and has still to be counted. -/
def answering (point : Point α) : Nat :=
  match point.submission? with
  | some (.count _) => 1
  | _ => 0

/-- The thread has a job in hand that it has stolen, and has still to count the theft. -/
def stealing : Point α → Nat
  | .worker (.countTheft _ _) => 1
  | _ => 0

/-- How an action adds to the counters and to what they stand for. -/
structure Reckoning (pool later : Pool α) (old new : Point α) (happens : Option (Occurrence α)) :
    Prop where
  config : later.config = pool.config
  submitted : later.counters.submitted =
    pool.counters.submitted + .ofNat (answers happens.toList)
  accepted : later.reached .accepted + answering old =
    pool.reached .accepted + answering new + answers happens.toList
  stolen : ∃ more, later.counters.stolen = pool.counters.stolen + .ofNat more ∧
    later.journal.countP Note.isStealing = pool.journal.countP Note.isStealing + more
  thefts : later.journal.countP Note.isTheft + stealing old + pool.journal.countP Note.isStealing =
    pool.journal.countP Note.isTheft + stealing new + later.journal.countP Note.isStealing
  fallbacks : ∃ more, later.counters.fallbacks = pool.counters.fallbacks + .ofNat more ∧
    later.journal.countP (·.fallen?.isSome) = pool.journal.countP (·.fallen?.isSome) + more

theorem reached_of_dull {note : Note} (dull : note.isDull = true) :
    (ticketOf .accepted note.milestone?).isSome = false ∧ note.isTheft = false ∧
      note.isStealing = false ∧ note.fallen? = none := by
  cases note <;> first | exact ⟨rfl, rfl, rfl, rfl⟩ | cases dull

theorem Reckoning.of_dull (dull : Dull pool later) {happens : Option (Occurrence α)}
    (silent : answers happens.toList = 0) (waits : answering new = answering old)
    (steals : stealing new = stealing old) : Reckoning pool later old new happens := by
  have counted (counts : Note → Bool) (ignores : ∀ note, note.isDull = true → counts note = false) :
      later.journal.countP counts = pool.journal.countP counts := by
    rcases dull.journal with same | ⟨note, dull, more⟩
    · rw [same]
    · rw [more, List.countP_cons_of_neg (by simp [ignores note dull])]
  have accepted : later.reached .accepted = pool.reached .accepted :=
    counted _ fun note dull => (reached_of_dull dull).1
  have thefts := counted Note.isTheft fun note dull => (reached_of_dull dull).2.1
  have stolen := counted Note.isStealing fun note dull => (reached_of_dull dull).2.2.1
  have fallen := counted (·.fallen?.isSome) fun note dull => by simp [(reached_of_dull dull).2.2.2]
  refine ⟨dull.config, ?_, ?_, ⟨0, ?_, stolen⟩, ?_, 0, ?_, fallen⟩
  · simp [silent, dull.submitted]
  · rw [accepted, waits, silent]
    rfl
  · simp [dull.stolen]
  · rw [stolen, thefts, steals]
  · simp [dull.fallbacks]

theorem Reckoning.of_note {what : Note} {happens : Option (Occurrence α)}
    (config : later.config = pool.config) (journal : later.journal = what :: pool.journal)
    (submitted : later.counters.submitted = pool.counters.submitted)
    (silent : answers happens.toList = 0)
    (stolen : later.counters.stolen =
      pool.counters.stolen + if what.isStealing then 1 else 0)
    (fallbacks : later.counters.fallbacks =
      pool.counters.fallbacks + if what.fallen?.isSome then 1 else 0)
    (accepted : answering new =
      answering old + if (ticketOf .accepted what.milestone?).isSome then 1 else 0)
    (thefts : stealing old + (if what.isTheft then 1 else 0) =
      stealing new + if what.isStealing then 1 else 0) : Reckoning pool later old new happens := by
  refine ⟨config, ?_, ?_, ⟨if what.isStealing then 1 else 0, ?_, ?_⟩, ?_,
    if what.fallen?.isSome then 1 else 0, ?_, ?_⟩
  · simp [silent, submitted]
  · rw [accepted, silent, reached, reached, journal, List.countP_cons]
    omega
  · rw [stolen]
    split <;> rfl
  · rw [journal, List.countP_cons]
  · rw [journal, List.countP_cons, List.countP_cons]
    omega
  · rw [fallbacks]
    split <;> rfl
  · rw [journal, List.countP_cons]

theorem Submission.Course.reckoning {old new : Submission α} (course : Course pool old new later) :
    Reckoning pool later (.submission old) (.submission new) (occurs old new) := by
  have unsought {job : Job α} (seeks : old.seeks? = some job) :
      answering (.submission old) = 0 := by
    cases old <;> first | rfl | cases seeks
  cases course with
  | ticket | aim | misaim | exhaust | park | meetFull =>
      refine .of_dull ?_ rfl rfl rfl
      exact ⟨rfl, rfl, rfl, rfl, .inl rfl⟩
  | fallBack job home =>
      exact .of_note rfl rfl rfl rfl (UInt64.add_zero _).symm rfl rfl rfl
  | @accept _ job seeks knocks index visited =>
      have silent : occurs old (.count job.ticket) = none := by cases old <;> rfl
      rw [silent]
      exact .of_note rfl rfl rfl rfl (UInt64.add_zero _).symm (UInt64.add_zero _).symm
        (by rw [unsought seeks]; rfl) rfl
  | @refuse _ job seeks knocks index visited =>
      have silent : occurs old (.done (.refused .shutDown)) = none := by cases old <;> rfl
      rw [silent]
      refine .of_dull ?_ rfl (unsought seeks).symm rfl
      exact ⟨rfl, rfl, rfl, rfl, .inr ⟨_, rfl, rfl⟩⟩
  | answer ticket =>
      exact ⟨rfl, rfl, rfl, ⟨0, (UInt64.add_zero _).symm, rfl⟩, rfl, 0, (UInt64.add_zero _).symm, rfl⟩

theorem Worker.dull_of_runBody {frame : Frame α} {new : Worker α}
    (acted : runBody me frame pool = some (new, later)) :
    Dull pool later ∧ answering (.worker new) = 0 ∧ stealing (.worker new) = 0 := by
  unfold runBody at acted
  split at acted
  case h_2 =>
    cases acted
    exact ⟨⟨rfl, rfl, rfl, rfl, .inr ⟨_, rfl, rfl⟩⟩, rfl, rfl⟩
  case h_3 =>
    split at acted
    · cases acted
      exact ⟨.refl pool, rfl, rfl⟩
    · cases acted
  all_goals
    cases acted
    exact ⟨.refl pool, rfl, rfl⟩

theorem Worker.counts_of_not_bears {hand : Worker α} (free : hand.bears = false) :
    answering (.worker hand) = 0 ∧ stealing (.worker hand) = 0 := by
  cases hand <;> first | exact ⟨rfl, rfl⟩ | cases free

theorem Worker.Course.reckoning {old new : Worker α} (course : Course me pool old new later) :
    Reckoning pool later (.worker old) (.worker new) (occurs me old new) := by
  cases course with
  | @take _ _ job index queue visited roams found loads goes =>
      have silent : occurs me old new = none ∧ answering (.worker old) = 0 ∧
          stealing (.worker old) = 0 := by
        cases roams <;> exact ⟨rfl, rfl, rfl⟩
      rw [silent.1]
      refine .of_note rfl rfl rfl rfl (UInt64.add_zero _).symm (UInt64.add_zero _).symm ?_ ?_
      · rw [silent.2.1]
        rcases goes with ⟨_, rfl⟩ | ⟨_, rfl⟩ <;> rfl
      · rw [silent.2.2]
        rcases goes with ⟨rfl, rfl⟩ | ⟨stranger, rfl⟩
        · simp [Note.isTheft, Note.isStealing, begin, stealing]
        · simp [Note.isTheft, Note.isStealing, stealing, stranger]
  | countTheft job victim =>
      exact .of_note rfl rfl rfl rfl rfl (UInt64.add_zero _).symm rfl rfl
  | body acted =>
      obtain ⟨dull, waits, steals⟩ := dull_of_runBody acted
      exact .of_dull dull rfl waits steals
  | submit frame course =>
      obtain ⟨config, submitted, accepted, stolen, thefts, fallbacks⟩ := course.reckoning
      exact ⟨config, submitted, accepted, stolen, thefts, fallbacks⟩
  | resume frame receipt => cases receipt <;> exact .of_dull (.refl pool) rfl rfl rfl
  | deliver ticket ending =>
      obtain ⟨waits, steals⟩ := counts_of_not_bears (not_bears_afterDelivery ticket _ ending)
      refine .of_dull ?_ rfl waits steals
      exact ⟨rfl, rfl, rfl, rfl, .inl rfl⟩
  | aside before after dull =>
      obtain ⟨waited, stole⟩ := counts_of_not_bears before
      obtain ⟨waits, steals⟩ := counts_of_not_bears after
      have silent : occurs me old new = none := by
        cases old <;> first | rfl | cases before
      rw [silent]
      exact .of_dull dull rfl (waits.trans waited.symm) (steals.trans stole.symm)

theorem Point.Course.reckoning (course : Point.Course me pool old new later) :
    Reckoning pool later old new (old.occurs me new) := by
  cases course with
  | worker course =>
      exact course.reckoning
  | submission course => exact course.reckoning
  | inquiry course =>
      cases course with
      | ask | wait | expire =>
          refine .of_dull ?_ rfl rfl rfl
          exact ⟨rfl, rfl, rfl, rfl, .inl rfl⟩
  | closing acted =>
      cases Closing.change_of_act acted with
      | begin | mourn | stop =>
          refine .of_dull ?_ rfl rfl rfl
          exact ⟨rfl, rfl, rfl, rfl, .inr ⟨_, rfl, rfl⟩⟩
      | shut | await | bury | report =>
          refine .of_dull ?_ rfl rfl rfl
          exact ⟨rfl, rfl, rfl, rfl, .inl rfl⟩
      | dismantle =>
          have accepted : pool.dismantle.reached .accepted = pool.reached .accepted :=
            countP_dismantle (fun _ => rfl) pool
          refine ⟨rfl, (UInt64.add_zero _).symm, ?_, ⟨0, (UInt64.add_zero _).symm, ?_⟩, ?_, 0,
            (UInt64.add_zero _).symm, ?_⟩
          · rw [accepted]
            rfl
          · exact countP_dismantle (fun _ => rfl) pool
          · rw [countP_dismantle fun _ => rfl, countP_dismantle fun _ => rfl]
            rfl
          · exact countP_dismantle (fun _ => rfl) pool

/-- The counters count what they stand for, as far as 64 bits can. -/
structure Reckoned (config : Config) (world : Running α) (history : List (Occurrence α)) : Prop where
  config : world.shared.config = config
  submitted : world.shared.counters.submitted = UInt64.ofNat (answers history)
  accepted : world.shared.reached .accepted = answers history + total answering world.threads
  stolen : world.shared.counters.stolen = UInt64.ofNat (world.shared.journal.countP Note.isStealing)
  thefts : world.shared.journal.countP Note.isTheft =
    world.shared.journal.countP Note.isStealing + total stealing world.threads
  fallbacks : world.shared.counters.fallbacks =
    UInt64.ofNat (world.shared.journal.countP (·.fallen?.isSome))

namespace Reckoned

theorem start (opened : start config = .ok first) : Reckoned config first [] := by
  unfold Pool.start at opened
  split at opened
  · cases opened
  · split at opened <;> cases opened
    refine ⟨rfl, rfl, ?_, rfl, ?_, rfl⟩
    · rw [World.total_replicate]
      rfl
    · rw [World.total_replicate]
      rfl

theorem put (reckoned : Reckoned config world history) (found : world.threads[me]? = some old)
    {happens : Option (Occurrence α)} (reckoning : Reckoning world.shared later old new happens) :
    Reckoned config (world.put me (new, later)) (happens.toList ++ history) := by
  obtain ⟨same, submitted, accepted, ⟨thieves, stolen, stole⟩, thefts, fallen, fallbacks, fell⟩ :=
    reckoning
  have waits := World.total_set answering found new
  have steals := World.total_set stealing found new
  have more : answers (happens.toList ++ history) = answers happens.toList + answers history :=
    List.countP_append
  have acceptedBefore := reckoned.accepted
  have theftsBefore := reckoned.thefts
  refine ⟨same.trans reckoned.config, ?_, ?_, ?_, ?_, ?_⟩
  · simp only [World.put, submitted, reckoned.submitted, more, UInt64.ofNat_add]
    exact UInt64.add_comm _ _
  · simp only [World.put, more]
    omega
  · simp only [World.put, stolen, stole, reckoned.stolen, UInt64.ofNat_add]
  · simp only [World.put]
    omega
  · simp only [World.put, fallbacks, fell, reckoned.fallbacks, UInt64.ofNat_add]

theorem of_chronicle (opened : Pool.start config = .ok first)
    (chronicle : Chronicle first last history) : Reckoned config last history := by
  induction chronicle with
  | refl => exact .start opened
  | @move world _ me old new later before found moved ih =>
      have recorded : Recorded config world := (Recorded.start opened).run before.run
      exact ih.put found (recorded.course_of_move found moved).reckoning
  | @call world _ before made ih =>
      have waits : answering (begin made : Point α) = 0 := by cases made <;> rfl
      have steals : stealing (begin made : Point α) = 0 := by cases made <;> rfl
      refine ⟨ih.config, ih.submitted, ?_, ih.stolen, ?_, ih.fallbacks⟩
      · rw [World.spawn, World.total_append, waits]
        exact ih.accepted
      · rw [World.spawn, World.total_append, steals]
        exact ih.thefts
  | heed before signal ih =>
      exact ⟨ih.config, ih.submitted, ih.accepted, ih.stolen, ih.thefts, ih.fallbacks⟩

end Reckoned

end Turnstile.Pool
