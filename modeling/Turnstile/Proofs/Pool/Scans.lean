import Turnstile.Proofs.Pool.Counting

/-!
# Scans that find no room

A submission that is aimed at no queue tries one candidate after the other. It falls back
on waiting if it has met as many full queues as there are candidates, and in no other
case: not if it was accepted or refused on the way. So the fallbacks that are counted are
the submissions whose whole scan met full queues only, whatever becomes of them later.
-/

namespace Turnstile.Pool

set_option autoImplicit false

open World (total)
open Turnstile.Task (Ticket Job Body)

variable {α : Type} {me : ThreadId} {pool later : Pool α} {ticket : Ticket} {config : Config}
  {world after first last : Running α} {old new : Point α} {history : List (Occurrence α)}
  {attempts : Nat}

/-- The ticket is that of a submission that looks for room at several queues. -/
def Occurrence.offers (ticket : Ticket) : Occurrence α → Bool
  | .ticketed other _ false => other = ticket
  | _ => false

def Occurrence.isFull (ticket : Ticket) : Occurrence α → Bool
  | .metFull other => other = ticket
  | _ => false

def fullMet (ticket : Ticket) (history : List (Occurrence α)) : Nat :=
  history.countP (Occurrence.isFull ticket)

/-- The whole scan of a submission has met full queues only. -/
def inVain (attempts : Nat) (history : List (Occurrence α)) (ticket : Ticket) : Bool :=
  history.any (Occurrence.offers ticket) && fullMet ticket history = attempts

/-- The ticket of a submission that has come to the end of its scan, until it is counted. -/
def Submission.exhausted? (attempts : Nat) : Submission α → Option Ticket
  | .look job _ attempt => if attempts ≤ attempt then some job.ticket else none
  | .fallBack job _ => some job.ticket
  | .begin _ | .aim _ _ | .wait _ _ | .count _ | .done _ => none

def Point.exhausted? (attempts : Nat) (point : Point α) : Option Ticket :=
  point.submission?.bind (Submission.exhausted? attempts)

def exhausted (attempts : Nat) (ticket : Ticket) (point : Point α) : Nat :=
  isFor ticket (point.exhausted? attempts)

def fallen (ticket : Ticket) (pool : Pool α) : Nat :=
  pool.journal.countP fun note => note.fallen? = some ticket

/-- What an action of a thread means for its scan. -/
inductive Scan (attempts : Nat) (pool later : Pool α) :
    Option (Submission α) → Option (Submission α) → Option (Occurrence α) → Prop where
  | begin {old : Option (Submission α)} (body : Body α) (home : UInt64)
      (fresh : old.bind (Submission.exhausted? attempts) = none)
      (issued : later.deliveries.length = pool.deliveries.length + 1)
      (journal : later.journal = pool.journal) :
      Scan attempts pool later old (some (.look ⟨pool.deliveries.length, body⟩ home 0))
        (some (.ticketed pool.deliveries.length body false))
  | meetFull (job : Job α) (home : UInt64) {attempt : Nat} (within : attempt < attempts)
      (same : later = pool) :
      Scan attempts pool later (some (.look job home attempt)) (some (.look job home (attempt + 1)))
        (some (.metFull job.ticket))
  | fallBack (job : Job α) (home : UInt64) (index : Nat)
      (deliveries : later.deliveries = pool.deliveries)
      (journal : later.journal = .fellBack job.ticket index :: pool.journal) :
      Scan attempts pool later (some (.fallBack job home)) (some (.wait job index)) none
  | aside {old new : Option (Submission α)} {happens : Option (Occurrence α)}
      (same : new.bind (Submission.exhausted? attempts) = old.bind (Submission.exhausted? attempts))
      (still : ∀ job home attempt, new ≠ some (.look job home attempt))
      (issued : pool.deliveries.length ≤ later.deliveries.length)
      (fallen : ∀ ticket, later.fallen ticket = pool.fallen ticket)
      (silent : ∀ what ∈ happens, ∀ ticket, what.offers ticket = false ∧ what.isFull ticket = false) :
      Scan attempts pool later old new happens

theorem Submission.Course.full_of_metFull {old new : Submission α}
    (course : Course pool old new later) (met : occurs old new = some (.metFull ticket)) :
    ∃ job home attempt queue, old = .look job home attempt ∧ job.ticket = ticket ∧
      pool.queues[pool.candidate home attempt]? = some queue ∧ queue.closed = false ∧
        queue.toList.length = queue.capacity := by
  cases course with
  | @meetFull job home attempt queue within found isOpen full =>
      cases met
      exact ⟨job, home, attempt, queue, rfl, rfl, found, isOpen, full⟩
  | @accept _ job => cases old <;> cases met
  | @refuse _ job => cases old <;> cases met
  | ticket | aim | misaim | exhaust | fallBack | park | answer => cases met

theorem fallen_note {what : Note} (silent : what.fallen? = none) (ticket : Ticket) :
    (pool.note what).fallen ticket = pool.fallen ticket := by
  rw [fallen, note, List.countP_cons_of_neg (by simp [silent])]
  rfl

theorem Submission.Knocks.not_exhausted {submission : Submission α}
    (knocks : submission.Knocks attempts) : submission.exhausted? attempts = none := by
  cases submission with
  | look job home attempt => exact if_neg (Nat.not_le.mpr knocks)
  | wait => rfl
  | begin | aim | fallBack | count | done => cases knocks

theorem Submission.Course.scan {old new : Submission α} (course : Course pool old new later) :
    Scan pool.config.submitAttempts pool later (some old) (some new) (occurs old new) := by
  cases course with
  | ticket body => exact .begin body pool.nextQueue rfl (by simp [issueTicket]) rfl
  | meetFull within found isOpen full => exact .meetFull _ _ within rfl
  | fallBack job home => exact .fallBack job home _ rfl rfl
  | aim body within =>
      exact .aside rfl (by simp) (by simp [issueTicket]) (fun _ => rfl)
        (by simp [occurs, Occurrence.offers, Occurrence.isFull])
  | misaim | park =>
      exact .aside rfl (by simp) (Nat.le_refl _) (fun _ => rfl) (by simp [occurs])
  | @exhaust job home attempt beyond =>
      refine .aside ?_ (by simp) (Nat.le_refl _) (fun _ => rfl) (by simp [occurs])
      simp [exhausted?, beyond]
  | @accept _ job seeks knocks index visited =>
      have silent : occurs old (.count job.ticket) = none := by cases old <;> rfl
      rw [silent]
      exact .aside knocks.not_exhausted.symm (by simp) (Nat.le_refl _) (fallen_note rfl) (by simp)
  | @refuse _ job seeks knocks index visited =>
      have silent : occurs old (.done (.refused .shutDown)) = none := by cases old <;> rfl
      rw [silent]
      exact .aside knocks.not_exhausted.symm (by simp) (Nat.le_refl _) (fallen_note rfl) (by simp)
  | answer ticket =>
      exact .aside rfl (by simp) (Nat.le_refl _) (fun _ => rfl)
        (by simp [occurs, Occurrence.offers, Occurrence.isFull])

theorem Dull.fallen_eq (dull : Dull pool later) (ticket : Ticket) :
    later.fallen ticket = pool.fallen ticket := by
  rcases dull.journal with same | ⟨note, silent, more⟩
  · rw [fallen, same]
    rfl
  · rw [fallen, more, List.countP_cons_of_neg (by simp [(reached_of_dull silent).2.2.2])]
    rfl

theorem Worker.unscanned_of_runBody (attempts : Nat) {frame : Frame α} {new : Worker α}
    (acted : runBody me frame pool = some (new, later)) :
    new.submission?.bind (Submission.exhausted? attempts) = none ∧
      (∀ job home attempt, new.submission? ≠ some (.look job home attempt)) ∧
      later.deliveries = pool.deliveries := by
  unfold runBody at acted
  split at acted
  case h_3 =>
    split at acted
    · cases acted
      exact ⟨rfl, nofun, rfl⟩
    · cases acted
  all_goals
    cases acted
    exact ⟨rfl, nofun, rfl⟩

theorem Worker.submission_of_not_bears {hand : Worker α} (free : hand.bears = false) :
    hand.submission? = none := by
  cases hand <;> first | rfl | cases free

theorem Worker.Course.scan {old new : Worker α} (course : Course me pool old new later) :
    Scan pool.config.submitAttempts pool later old.submission? new.submission?
      (occurs me old new) := by
  cases course with
  | @take _ _ job index queue visited roams found loads goes =>
      have apart : old.submission? = none ∧ occurs me old new = none := by
        cases roams <;> exact ⟨rfl, rfl⟩
      have unasked : new.submission? = none := by
        rcases goes with ⟨_, rfl⟩ | ⟨_, rfl⟩ <;> rfl
      rw [apart.1, apart.2, unasked]
      exact .aside rfl nofun (Nat.le_refl _) (fallen_note rfl) nofun
  | countTheft => exact .aside rfl nofun (Nat.le_refl _) (fallen_note rfl) nofun
  | body acted =>
      obtain ⟨fresh, still, deliveries⟩ :=
        unscanned_of_runBody pool.config.submitAttempts acted
      exact .aside fresh still (by rw [deliveries]) (dull_of_runBody acted).1.fallen_eq nofun
  | submit frame course => exact course.scan
  | resume frame receipt =>
      cases receipt <;> exact .aside rfl nofun (Nat.le_refl _) (fun _ => rfl) nofun
  | deliver ticket ending =>
      have free := not_bears_afterDelivery ticket (pool.isForgone ticket) ending
      rw [submission_of_not_bears free]
      exact .aside rfl nofun (by simp [setDelivery]) (fun _ => rfl)
        (by simp [occurs, Occurrence.offers, Occurrence.isFull])
  | aside before after dull deliveries =>
      have silent : occurs me old new = none := by
        cases old <;> first | rfl | cases before
      rw [submission_of_not_bears before, submission_of_not_bears after, silent]
      exact .aside rfl nofun (by rw [deliveries]) dull.fallen_eq nofun

theorem Inquiry.scan_silent {old new : Inquiry α} :
    ∀ what ∈ occurs old new, ∀ ticket, what.offers ticket = false ∧ what.isFull ticket = false := by
  intro what told ticket
  cases old with
  | done => cases told
  | ask | wait =>
      cases new with
      | done =>
          cases told
          exact ⟨rfl, rfl⟩
      | ask | wait => cases told

theorem Point.Course.scan (course : Point.Course me pool old new later) :
    Scan pool.config.submitAttempts pool later old.submission? new.submission?
      (old.occurs me new) := by
  have nowhere : ∀ job home attempt,
      (none : Option (Submission α)) ≠ some (.look job home attempt) := by simp
  cases course with
  | worker course => exact course.scan
  | submission course => exact course.scan
  | inquiry course =>
      have issued : pool.deliveries.length ≤ later.deliveries.length := by
        cases course <;> simp [setDelivery]
      have same : ∀ ticket, later.fallen ticket = pool.fallen ticket := by
        cases course <;> exact fun _ => rfl
      exact .aside rfl nowhere issued same Inquiry.scan_silent
  | closing acted =>
      have silent : ∀ what ∈ (none : Option (Occurrence α)), ∀ ticket,
          what.offers ticket = false ∧ what.isFull ticket = false := by simp
      cases Closing.change_of_act acted with
      | begin | mourn | stop => exact .aside rfl nowhere (Nat.le_refl _) (fallen_note rfl) silent
      | shut | await | bury | report => exact .aside rfl nowhere (Nat.le_refl _) (fun _ => rfl) silent
      | dismantle =>
          refine .aside rfl nowhere (by simp [Pool.dismantle]) ?_ silent
          exact fun ticket => countP_dismantle (fun _ => by simp [Note.fallen?]) pool

/-- What is known of all scans, as long as the pool is standing. -/
structure Scanned (attempts : Nat) (world : Running α) (history : List (Occurrence α)) : Prop where
  unissued : ∀ ticket, world.shared.deliveries.length ≤ ticket →
    fullMet ticket history = 0 ∧ history.any (Occurrence.offers ticket) = false
  /-- A submission has met a full queue in every attempt so far. -/
  looking : ∀ (me : ThreadId) (point : Point α) (job : Job α) (home : UInt64) (attempt : Nat),
    world.threads[me]? = some point → point.submission? = some (.look job home attempt) →
    fullMet job.ticket history = attempt ∧
      history.any (Occurrence.offers job.ticket) = true ∧ attempt ≤ attempts
  counted : ∀ ticket, (if inVain attempts history ticket then 1 else 0) =
    world.shared.fallen ticket + total (exhausted attempts ticket) world.threads

theorem seeking_of_look {point : Point α} {job : Job α} {home : UInt64} {attempt : Nat}
    (looks : point.submission? = some (.look job home attempt)) :
    seeking job.ticket point = 1 := by
  simp [seeking, looks, Submission.seeks?, isFor]

theorem fullMet_append (ticket : Ticket) (more history : List (Occurrence α)) :
    fullMet ticket (more ++ history) = fullMet ticket more + fullMet ticket history :=
  List.countP_append

namespace Scanned

variable {happens : Option (Occurrence α)} {job : Job α} {home : UInt64} {attempt : Nat}
  (scanned : Scanned attempts world history)
include scanned

theorem issued_of_look (found : world.threads[me]? = some old)
    (looks : old.submission? = some (.look job home attempt)) :
    job.ticket < world.shared.deliveries.length := by
  by_contra beyond
  have offered := (scanned.looking me old job home attempt found looks).2.1
  rw [(scanned.unissued job.ticket (Nat.not_lt.mp beyond)).2] at offered
  cases offered

theorem meetFull (booked : ∀ ticket, Booked ticket world) (found : world.threads[me]? = some old)
    (looked : old.submission? = some (.look job home attempt)) (within : attempt < attempts)
    (looks : new.submission? = some (.look job home (attempt + 1))) :
    Scanned attempts (world.put me (new, world.shared)) (.metFull job.ticket :: history) := by
  obtain ⟨met, offered, _⟩ := scanned.looking me old job home attempt found looked
  have issued := scanned.issued_of_look found looked
  have metNow (ticket : Ticket) : fullMet ticket (.metFull job.ticket :: history) =
      fullMet ticket history + if job.ticket = ticket then 1 else 0 := by
    rw [fullMet, List.countP_cons]
    simp [Occurrence.isFull, fullMet]
  have offeredNow (ticket : Ticket) :
      (Occurrence.metFull job.ticket :: history).any (Occurrence.offers ticket) =
        history.any (Occurrence.offers ticket) := rfl
  refine ⟨?_, ?_, ?_⟩
  · intro ticket beyond
    have apart : job.ticket ≠ ticket := Nat.ne_of_lt (Nat.lt_of_lt_of_le issued beyond)
    rw [metNow, offeredNow, if_neg apart]
    exact scanned.unissued ticket beyond
  · intro other point sought number tried foundOther looksOther
    rw [metNow, offeredNow]
    by_cases same : me = other
    · subst same
      rw [World.put, World.found_set found] at foundOther
      cases foundOther
      rw [looks] at looksOther
      cases looksOther
      rw [if_pos rfl, met]
      exact ⟨rfl, offered, within⟩
    · rw [World.put, List.getElem?_set_ne same] at foundOther
      have apart : job.ticket ≠ sought.ticket := by
        intro alike
        have once := (booked job.ticket).decided_once
        refine same (World.eq_of_total_le_one
          (Nat.le_of_add_right_le (Nat.le_of_add_right_le once)) found ?_ foundOther ?_)
        · rw [seeking_of_look looked]
          exact Nat.one_pos
        · rw [alike, seeking_of_look looksOther]
          exact Nat.one_pos
      rw [if_neg apart]
      exact scanned.looking other point sought number tried foundOther looksOther
  · intro ticket
    have exhausts := World.total_set (exhausted attempts ticket) found new
    have weighed : exhausted attempts ticket old = 0 := by
      simp [exhausted, Point.exhausted?, looked, Submission.exhausted?, Nat.not_le.mpr within]
    have weighs : exhausted attempts ticket new =
        if job.ticket = ticket then (if attempts ≤ attempt + 1 then 1 else 0) else 0 := by
      rw [exhausted, Point.exhausted?, looks, Option.bind_some, Submission.exhausted?]
      by_cases last : attempts ≤ attempt + 1
      · simp [isFor, last]
      · simp [isFor, last]
    have counted := scanned.counted ticket
    rw [inVain] at counted
    rw [inVain, metNow, offeredNow]
    simp only [World.put]
    by_cases same : job.ticket = ticket
    · subst same
      have unmet : attempt ≠ attempts := Nat.ne_of_lt within
      simp only [offered, met, unmet, decide_false, Bool.and_false, Bool.false_eq_true, if_false,
        if_true, Bool.true_and, decide_eq_true_eq] at counted weighs ⊢
      by_cases last : attempts ≤ attempt + 1
      · rw [if_pos (Nat.le_antisymm within last)]
        rw [if_pos last] at weighs
        omega
      · rw [if_neg fun same => last same.ge]
        rw [if_neg last] at weighs
        omega
    · rw [if_neg same] at weighs
      rw [if_neg same, Nat.add_zero]
      omega

theorem begin (found : world.threads[me]? = some old) {body : Body α}
    (fresh : old.exhausted? attempts = none)
    (looks : new.submission? = some (.look ⟨world.shared.deliveries.length, body⟩ home 0))
    (issued : later.deliveries.length = world.shared.deliveries.length + 1)
    (journal : later.journal = world.shared.journal) :
    Scanned attempts (world.put me (new, later))
      (.ticketed world.shared.deliveries.length body false :: history) := by
  obtain ⟨unmet, unoffered⟩ := scanned.unissued world.shared.deliveries.length (Nat.le_refl _)
  have metNow (ticket : Ticket) :
      fullMet ticket (.ticketed world.shared.deliveries.length body false :: history) =
        fullMet ticket history := by
    rw [fullMet, List.countP_cons_of_neg (by simp [Occurrence.isFull])]
    rfl
  have offeredNow (ticket : Ticket) :
      (Occurrence.ticketed world.shared.deliveries.length body false :: history).any
        (Occurrence.offers ticket) =
          (decide (world.shared.deliveries.length = ticket) ||
            history.any (Occurrence.offers ticket)) := rfl
  refine ⟨?_, ?_, ?_⟩
  · intro ticket beyond
    rw [World.put, issued] at beyond
    have apart : world.shared.deliveries.length ≠ ticket := Nat.ne_of_lt beyond
    rw [metNow, offeredNow, decide_eq_false apart, Bool.false_or]
    exact scanned.unissued ticket (Nat.le_of_succ_le beyond)
  · intro other point sought number tried foundOther looksOther
    rw [metNow, offeredNow]
    by_cases same : me = other
    · subst same
      rw [World.put, World.found_set found] at foundOther
      cases foundOther
      rw [looks] at looksOther
      cases looksOther
      exact ⟨unmet, by simp, Nat.zero_le _⟩
    · rw [World.put, List.getElem?_set_ne same] at foundOther
      obtain ⟨met, offered, within⟩ :=
        scanned.looking other point sought number tried foundOther looksOther
      exact ⟨met, by rw [offered, Bool.or_true], within⟩
  · intro ticket
    have exhausts := World.total_set (exhausted attempts ticket) found new
    have weighed : exhausted attempts ticket old = 0 := by rw [exhausted, fresh, isFor_none]
    have weighs : exhausted attempts ticket new =
        if world.shared.deliveries.length = ticket then (if attempts = 0 then 1 else 0) else 0 := by
      rw [exhausted, Point.exhausted?, looks, Option.bind_some, Submission.exhausted?]
      by_cases none : attempts = 0
      · simp [isFor, none]
      · simp [isFor, none]
    have counted := scanned.counted ticket
    have fallen : later.fallen ticket = world.shared.fallen ticket := by
      rw [Pool.fallen, Pool.fallen, journal]
    rw [inVain] at counted
    rw [inVain, metNow, offeredNow]
    simp only [World.put, fallen]
    by_cases same : world.shared.deliveries.length = ticket
    · subst same
      simp only [unmet, unoffered, Bool.false_and, Bool.false_eq_true, if_false, if_true,
        decide_true, Bool.true_or, Bool.true_and, decide_eq_true_eq, eq_comm (a := 0)]
        at counted weighs ⊢
      omega
    · rw [if_neg same] at weighs
      rw [decide_eq_false same, Bool.false_or]
      omega

theorem fallBack (found : world.threads[me]? = some old) {index : Nat}
    (fell : old.submission? = some (.fallBack job home))
    (waits : new.submission? = some (.wait job index))
    (deliveries : later.deliveries = world.shared.deliveries)
    (journal : later.journal = .fellBack job.ticket index :: world.shared.journal) :
    Scanned attempts (world.put me (new, later)) history := by
  refine ⟨?_, ?_, ?_⟩
  · intro ticket beyond
    rw [World.put, deliveries] at beyond
    exact scanned.unissued ticket beyond
  · intro other point sought number tried foundOther looksOther
    by_cases same : me = other
    · subst same
      rw [World.put, World.found_set found] at foundOther
      cases foundOther
      rw [waits] at looksOther
      cases looksOther
    · rw [World.put, List.getElem?_set_ne same] at foundOther
      exact scanned.looking other point sought number tried foundOther looksOther
  · intro ticket
    have exhausts := World.total_set (exhausted attempts ticket) found new
    have weighed : exhausted attempts ticket old = isFor ticket (some job.ticket) := by
      rw [exhausted, Point.exhausted?, fell]
      rfl
    have weighs : exhausted attempts ticket new = 0 := by
      rw [exhausted, Point.exhausted?, waits]
      rfl
    have fallen : later.fallen ticket =
        world.shared.fallen ticket + isFor ticket (some job.ticket) := by
      rw [Pool.fallen, journal, List.countP_cons]
      simp [Note.fallen?, Pool.fallen, isFor]
    rw [scanned.counted]
    simp only [World.put, fallen]
    omega

theorem aside (found : world.threads[me]? = some old)
    (same : new.exhausted? attempts = old.exhausted? attempts)
    (still : ∀ job home attempt, new.submission? ≠ some (.look job home attempt))
    (issued : world.shared.deliveries.length ≤ later.deliveries.length)
    (fallen : ∀ ticket, later.fallen ticket = world.shared.fallen ticket)
    (silent : ∀ what ∈ happens, ∀ ticket,
      what.offers ticket = false ∧ what.isFull ticket = false) :
    Scanned attempts (world.put me (new, later)) (happens.toList ++ history) := by
  have metNow (ticket : Ticket) :
      fullMet ticket (happens.toList ++ history) = fullMet ticket history := by
    have none : fullMet ticket happens.toList = 0 := by
      refine List.countP_eq_zero.mpr fun what member => ?_
      simp [(silent what (Option.mem_toList.mp member) ticket).2]
    rw [fullMet_append, none, Nat.zero_add]
  have offeredNow (ticket : Ticket) : (happens.toList ++ history).any (Occurrence.offers ticket) =
      history.any (Occurrence.offers ticket) := by
    have none : happens.toList.any (Occurrence.offers ticket) = false := by
      refine List.any_eq_false.mpr fun what member => ?_
      simp [(silent what (Option.mem_toList.mp member) ticket).1]
    rw [List.any_append, none, Bool.false_or]
  refine ⟨?_, ?_, ?_⟩
  · intro ticket beyond
    rw [metNow, offeredNow]
    exact scanned.unissued ticket (Nat.le_trans issued beyond)
  · intro other point sought number tried foundOther looksOther
    rw [metNow, offeredNow]
    by_cases same : me = other
    · subst same
      rw [World.put, World.found_set found] at foundOther
      cases foundOther
      exact absurd looksOther (still sought number tried)
    · rw [World.put, List.getElem?_set_ne same] at foundOther
      exact scanned.looking other point sought number tried foundOther looksOther
  · intro ticket
    have weighs : exhausted attempts ticket new = exhausted attempts ticket old := by
      rw [exhausted, exhausted, same]
    rw [inVain, metNow, offeredNow, ← inVain, scanned.counted, World.put, fallen,
      World.total_set_of_eq found weighs]

theorem put (booked : ∀ ticket, Booked ticket world) (found : world.threads[me]? = some old)
    (scan : Scan attempts world.shared later old.submission? new.submission? happens) :
    Scanned attempts (world.put me (new, later)) (happens.toList ++ history) := by
  generalize posted : old.submission? = before at scan
  generalize posts : new.submission? = after at scan
  cases scan with
  | begin body home fresh issued journal =>
      exact scanned.begin found (by rwa [Point.exhausted?, posted]) posts issued journal
  | meetFull job home within same =>
      subst same
      exact scanned.meetFull booked found posted within posts
  | fallBack job home index deliveries journal =>
      exact scanned.fallBack found posted posts deliveries journal
  | aside same still issued fallen silent =>
      refine scanned.aside found ?_ (by rwa [posts]) issued fallen silent
      rwa [Point.exhausted?, Point.exhausted?, posted, posts]

omit scanned

theorem start (opened : Pool.start config = .ok first) : Scanned attempts first [] := by
  unfold Pool.start at opened
  split at opened
  · cases opened
  · split at opened <;> cases opened
    refine ⟨fun _ _ => ⟨rfl, rfl⟩, ?_, ?_⟩
    · intro me point job home attempt found looks
      rw [List.eq_of_mem_replicate (List.mem_of_getElem? found)] at looks
      cases looks
    · intro ticket
      rw [World.total_replicate]
      rfl

theorem of_chronicle (opened : Pool.start config = .ok first)
    (chronicle : Chronicle first last history) (standing : Standing last) :
    Scanned config.submitAttempts last history := by
  induction chronicle with
  | refl => exact .start opened
  | @move world _ me old new later before found moved ih =>
      have earlier := standing.of_put found moved
      have recorded : Recorded config world := (Recorded.start opened).run before.run
      have settings := (Reckoned.of_chronicle opened before).config
      refine (ih earlier).put (recorded.booked earlier).2 found ?_
      rw [← settings]
      exact (recorded.course_of_move found moved).scan
  | @call world _ before made ih =>
      obtain ⟨unissued, looking, counted⟩ := ih standing.of_spawn
      refine ⟨unissued, ?_, ?_⟩
      · intro me point job home attempt found looks
        rcases World.found_or_eq_of_append found with found | rfl
        · exact looking me point job home attempt found looks
        · cases made <;> cases looks
      · intro ticket
        have resting : exhausted config.submitAttempts ticket (Pool.begin made : Point α) = 0 := by
          cases made <;> rfl
        rw [World.spawn, World.total_append, resting]
        exact counted ticket
  | heed before signal ih =>
      obtain ⟨unissued, looking, counted⟩ := ih standing
      exact ⟨unissued, looking, counted⟩

end Scanned

end Turnstile.Pool
