import Turnstile.Proofs.Pool.Bodies
import Turnstile.Proofs.Pool.Counting
import Turnstile.Proofs.Pool.Endings

/-!
# Every outcome is that of its own body

A job keeps its body on its way from the submission through a queue to a worker, be that the
owner of the queue or a thief. So what is delivered for a ticket is what the body comes to for
which the ticket was issued, and no other body has the same ticket.
-/

namespace Turnstile.Pool

set_option autoImplicit false

open Turnstile.Task (Ticket Job Body)

variable {α : Type} {me : ThreadId} {pool later : Pool α} {ticket : Ticket} {config : Config}
  {world first last : Running α} {old new : Point α} {history : List (Occurrence α)}
  {body : Body α} {job : Job α}

/-! ## The jobs in the queues -/

theorem queued_of_eq (same : later.queues = pool.queues) : later.queued = pool.queued := by
  rw [queued, queued, same]

theorem mem_queued_of_set {index : Nat} {queue after : Queue (Job α)}
    (member : job ∈ (pool.setQueue index after).queued)
    (kept : pool.queues[index]? = some queue → job ∈ after.toList → job ∈ queue.toList)
    (found : pool.queues[index]? = some queue) : job ∈ pool.queued := by
  obtain ⟨other, listed, inside⟩ := List.mem_flatMap.mp member
  rcases List.mem_or_eq_of_mem_set listed with listed | rfl
  · exact List.mem_flatMap.mpr ⟨other, listed, inside⟩
  · exact List.mem_flatMap.mpr ⟨queue, List.mem_of_getElem? found, kept found inside⟩

theorem Submission.Change.queued {old new : Submission α} (change : Change pool old new later)
    (member : job ∈ later.queued) : job ∈ pool.queued ∨ old.seeks? = some job := by
  cases change with
  | issue fresh seeks queues => exact .inl (queued_of_eq queues ▸ member)
  | seek seeks still quiet => exact .inl (queued_of_eq quiet.queues ▸ member)
  | misaim | count => exact .inl member
  | retry seeks still found retains | turnAway seeks found retains =>
      exact .inl (mem_queued_of_set member (fun _ inside => retains.items ▸ inside) found)
  | @store _ own index queue after seeks found stores =>
      by_cases same : job = own
      · subst same
        exact .inr seeks
      · refine .inl (mem_queued_of_set member (fun _ inside => ?_) found)
        rw [stores.items, List.mem_append, List.mem_singleton] at inside
        exact inside.resolve_right same

theorem Worker.Change.queued {old new : Worker α} (change : Change me pool old new later)
    (member : job ∈ later.queued) :
    job ∈ pool.queued ∨ old.submission?.bind Submission.seeks? = some job := by
  cases change with
  | take roams runs quiet found loads =>
      refine .inl (mem_queued_of_set member (fun _ inside => ?_) found)
      rw [loads.items]
      exact List.mem_cons_of_mem _ inside
  | miss roams still found retains =>
      exact .inl (mem_queued_of_set member (fun _ inside => retains.items ▸ inside) found)
  | work runs still before after quiet => exact .inl (queued_of_eq quiet.queues ▸ member)
  | submit frame change => exact change.queued member
  | start | resume | findClosed | findEmpty | post | finish | leave => exact .inl member

/-- As long as the pool is standing, a job that is in a queue was there before, or the thread
has brought it. -/
theorem Point.queued_of_move (idle : pool.Idle) (standing : new ≠ .closing .done)
    (moved : act me old pool = some (new, later) ∨ expire me old pool = some (new, later))
    (member : job ∈ later.queued) :
    job ∈ pool.queued ∨ old.submission?.bind Submission.seeks? = some job := by
  rcases change_or_death idle moved with ⟨change, _⟩ | ⟨_, _, _, _, quiet⟩ | ⟨held, _, _, rfl⟩
  · cases change with
    | worker change => exact change.queued member
    | submission change => exact change.queued member
    | inquiry quiet => exact .inl (queued_of_eq quiet.queues ▸ member)
    | closing change =>
        cases change with
        | shut found =>
            exact .inl (mem_queued_of_set member
              (fun _ inside => (idle.of_found found).close.items ▸ inside) found)
        | dismantle => exact absurd rfl standing
        | begin | await | bury | mourn | report | stop => exact .inl member
  · exact .inl (queued_of_eq quiet.queues ▸ member)
  · exact .inl member

/-! ## The tickets -/

theorem Submission.Course.ticketed {old new : Submission α} (course : Course pool old new later)
    {aimed : Bool} (happens : occurs old new = some (.ticketed ticket body aimed)) :
    ticket = pool.deliveries.length ∧ later.deliveries.length = pool.deliveries.length + 1 := by
  cases course with
  | ticket | aim =>
      cases happens
      exact ⟨rfl, by simp [issueTicket]⟩
  | @accept _ job => cases old <;> cases happens
  | @refuse _ job => cases old <;> cases happens
  | misaim | meetFull | exhaust | fallBack | park | answer => cases happens

theorem Worker.occurs_of_not_bears {hand next : Worker α} (free : hand.bears = false) :
    occurs me hand next = none := by
  cases hand <;> first | rfl | cases free

theorem Point.Course.ticketed (course : Point.Course me pool old new later) {aimed : Bool}
    (happens : old.occurs me new = some (.ticketed ticket body aimed)) :
    ticket = pool.deliveries.length ∧ later.deliveries.length = pool.deliveries.length + 1 := by
  cases course with
  | worker course =>
      cases course with
      | submit frame course => exact course.ticketed happens
      | take roams => cases roams <;> cases happens
      | aside before =>
          rw [occurs, Worker.occurs_of_not_bears before] at happens
          cases happens
      | resume frame receipt => cases receipt <;> cases happens
      | countTheft | body | deliver => cases happens
  | submission course => exact course.ticketed happens
  | inquiry course => cases course <;> cases happens
  | closing => cases happens

theorem Deed.issued_le (deed : Deed me pool old new later) :
    pool.deliveries.length ≤ later.deliveries.length := by
  cases deed with
  | plain before after plain =>
      rcases plain.deliveries with same | more
      · rw [same]
      · rw [more, List.length_append]
        exact Nat.le_add_right _ _
  | deliver | collect => exact (List.length_set ..).ge
  | countPanic | countRun | perish => exact Nat.le_refl _
  | dismantle => exact (List.length_mapIdx ..).ge

theorem Recorded.standing_of_move (recorded : Recorded config world) {hand : Worker α}
    (found : world.threads[me]? = some (.worker hand))
    (moved : act me (.worker hand) world.shared = some (new, later) ∨
      expire me (.worker hand) world.shared = some (new, later)) : Standing world := by
  have here : hand ≠ .gone := by
    rintro rfl
    rcases moved with acted | expired
    · cases acted
    · cases expired
  intro closer done
  have ended : ∀ fate ∈ world.shared.fates, fate ≠ .alive := recorded.seen closer .done done
  exact ended _ (List.mem_of_getElem? (recorded.alive found here)) rfl

theorem Point.occurs_ne_called {made : Call α} {other : ThreadId} :
    old.occurs me new ≠ some (.called other made) := by
  intro happens
  rcases Point.occurs_cases happens with
    (⟨_, _, _, same⟩ | ⟨_, same⟩ | ⟨_, same⟩) | ⟨_, _, _, same⟩ | ⟨_, _, _, _, same⟩ <;> cases same

/-! ## What is true of every job -/

/-- What thread `me` has in hand is as it should be. -/
def Point.Keeps (config : Config) (me : ThreadId) (pool : Pool α) (history : List (Occurrence α)) :
    Point α → Prop
  | .worker hand => hand.Keeps config me pool history
  | .submission posting => ∃ target body, posting.Pursues config pool history target body
  | .inquiry _ | .closing _ => True

theorem Point.Keeps.mono {longer : List (Occurrence α)} (more : Extends pool later history longer)
    (keeps : old.Keeps config me pool history) : old.Keeps config me later longer := by
  cases old with
  | worker hand => exact Worker.Keeps.mono more keeps
  | submission posting =>
      obtain ⟨target, body, pursues⟩ := keeps
      exact ⟨target, body, pursues.mono more⟩
  | inquiry | closing => exact trivial

theorem Point.Course.keeps (course : Point.Course me pool old new later)
    (same : pool.config = config) (staffed : pool.queues.length = config.workers)
    (known : ∀ hand, old = .worker hand → ∀ job ∈ pool.queued, Issued history job.ticket job.body)
    (more : Extends pool later history ((old.occurs me new).toList ++ history))
    (keeps : old.Keeps config me pool history) :
    new.Keeps config me later ((old.occurs me new).toList ++ history) := by
  cases course with
  | worker course => exact Worker.Course.keeps course same staffed (known _ rfl) more keeps
  | submission course =>
      obtain ⟨target, body, pursues⟩ := keeps
      exact ⟨target, body, course.pursues staffed more pursues⟩
  | inquiry | closing => exact trivial

theorem Point.Keeps.of_seeks (keeps : old.Keeps config me pool history)
    (seeks : old.submission?.bind Submission.seeks? = some job) :
    Issued history job.ticket job.body := by
  obtain ⟨submission, posts, seeks⟩ := Option.bind_eq_some_iff.mp seeks
  cases old with
  | worker hand =>
      cases hand with
      | post frame posting =>
          cases posts
          obtain ⟨_, _, target, body, _, _, _, pursues⟩ := keeps
          obtain ⟨rfl, ticketed⟩ := pursues.of_seeks seeks
          exact ticketed.issued
      | _ => cases posts
  | submission posting =>
      cases posts
      obtain ⟨target, body, pursues⟩ := keeps
      obtain ⟨rfl, ticketed⟩ := pursues.of_seeks seeks
      exact ticketed.issued
  | inquiry | closing => cases posts

/-- The submission that a call makes: at which queue it is aimed, if at any, and its body. -/
def Call.submits? : Call α → Option (Option Nat × Body α)
  | .submit body => some (none, body)
  | .submitTo worker body => some (some worker, body)
  | .ask _ | .wait _ | .waitBriefly _ | .close => none

/-- What is known of all bodies. -/
structure Truthful (config : Config) (world : Running α) (history : List (Occurrence α)) : Prop where
  points : ∀ (me : ThreadId) (point : Point α), world.threads[me]? = some point →
    point.Keeps config me world.shared history
  callers : ∀ (me : ThreadId) (made : Call α) (target : Option Nat) (body : Body α),
    .called me made ∈ history → made.submits? = some (target, body) →
    ∃ submission, world.threads[me]? = some (.submission submission) ∧
      submission.Pursues config world.shared history target body
  queued : Standing world → ∀ job ∈ world.shared.queued, Issued history job.ticket job.body
  ended : ∀ (worker : Nat) (ticket : Ticket) (ending : Ending α),
    .ended worker ticket ending ∈ history → ∃ body, Issued history ticket body ∧
      Ends config worker (Responds config world.shared history) body ending
  bound : ∀ (ticket : Ticket) (body : Body α), Issued history ticket body →
    ticket < world.shared.deliveries.length
  unique : ∀ (ticket : Ticket) (body other : Body α), Issued history ticket body →
    Issued history ticket other → body = other

namespace Truthful

theorem start (opened : start config = .ok first) : Truthful config first [] := by
  unfold Pool.start at opened
  split at opened
  · cases opened
  · split at opened
    · next queue made =>
      cases opened
      obtain ⟨_, empty⟩ := Queue.Balanced.ofCapacity made
      refine ⟨?_, nofun, ?_, nofun, ?_, ?_⟩
      · intro me point found
        rw [List.eq_of_mem_replicate (List.mem_of_getElem? found)]
        exact trivial
      · intro _ job member
        obtain ⟨other, listed, inside⟩ := List.mem_flatMap.mp member
        rw [List.eq_of_mem_replicate listed, empty] at inside
        cases inside
      · rintro ticket body ⟨_, ticketed⟩
        cases ticketed
      · rintro ticket body other ⟨_, ticketed⟩
        cases ticketed
    · cases opened

theorem call (truthful : Truthful config world history) (made : Call α) :
    Truthful config (world.spawn (begin made)) (.called world.threads.length made :: history) := by
  have more : Extends world.shared world.shared history
      (.called world.threads.length made :: history) :=
    ⟨List.subset_cons_self .., fun _ => Nat.le_refl _⟩
  have issuedBefore {ticket : Ticket} {body : Body α}
      (issued : Issued (.called world.threads.length made :: history) ticket body) :
      Issued history ticket body := by
    obtain ⟨aimed, ticketed⟩ := issued
    exact ⟨aimed, (List.mem_cons.mp ticketed).resolve_left nofun⟩
  refine ⟨?_, ?_, ?_, ?_, ?_, ?_⟩
  · intro me point found
    rcases World.found_or_eq_of_append found with found | rfl
    · exact (truthful.points me point found).mono more
    · cases made with
      | submit body => exact ⟨none, body, rfl, rfl⟩
      | submitTo worker body => exact ⟨some worker, body, rfl, rfl⟩
      | ask | wait | waitBriefly | close => exact trivial
  · intro me called target body member submits
    rcases List.mem_cons.mp member with same | member
    · cases same
      cases made with
      | submit | submitTo =>
          cases submits
          exact ⟨_, List.getElem?_concat_length, rfl, rfl⟩
      | ask | wait | waitBriefly | close => cases submits
    · obtain ⟨submission, found, pursues⟩ := truthful.callers me called target body member submits
      exact ⟨submission, World.found_append found, pursues.mono more⟩
  · intro standing job member
    exact (truthful.queued standing.of_spawn job member).mono more
  · intro worker ticket ending ended
    obtain ⟨body, issued, ends⟩ :=
      truthful.ended worker ticket ending ((List.mem_cons.mp ended).resolve_left nofun)
    exact ⟨body, issued.mono more, ends.mono fun _ _ _ => Responds.mono more⟩
  · exact fun ticket body issued => truthful.bound ticket body (issuedBefore issued)
  · exact fun ticket body other issued another =>
      truthful.unique ticket body other (issuedBefore issued) (issuedBefore another)

theorem put (truthful : Truthful config world history) (recorded : Recorded config world)
    (same : world.shared.config = config) (found : world.threads[me]? = some old)
    (moved : act me old world.shared = some (new, later) ∨
      expire me old world.shared = some (new, later)) :
    Truthful config (world.put me (new, later)) ((old.occurs me new).toList ++ history) := by
  have course := recorded.course_of_move found moved
  have deed := Point.deed_of_move moved
  have staffed := recorded.upheld.queues
  have more : Extends world.shared later history ((old.occurs me new).toList ++ history) :=
    ⟨List.subset_append_right .., fun ticket => deed.countP_le _⟩
  have issuedNow {ticket : Ticket} {body : Body α}
      (issued : Issued ((old.occurs me new).toList ++ history) ticket body) :
      Issued history ticket body ∨ ∃ aimed, old.occurs me new = some (.ticketed ticket body aimed) := by
    obtain ⟨aimed, ticketed⟩ := issued
    rcases List.mem_append.mp ticketed with now | before
    · exact .inr ⟨aimed, Option.mem_toList.mp now⟩
    · exact .inl ⟨aimed, before⟩
  have known : ∀ hand, old = .worker hand → ∀ job ∈ world.shared.queued,
      Issued history job.ticket job.body := by
    rintro hand rfl
    exact truthful.queued (recorded.standing_of_move found moved)
  refine ⟨?_, ?_, ?_, ?_, ?_, ?_⟩
  · intro other point foundOther
    by_cases alike : me = other
    · subst alike
      rw [World.put, World.found_set found] at foundOther
      cases foundOther
      exact course.keeps same staffed known more (truthful.points me old found)
    · rw [World.put, List.getElem?_set_ne alike] at foundOther
      exact (truthful.points other point foundOther).mono more
  · intro other made target body called submits
    have calledBefore : .called other made ∈ history := by
      refine (List.mem_append.mp called).resolve_left fun now => ?_
      exact Point.occurs_ne_called (Option.mem_toList.mp now)
    obtain ⟨posting, foundOther, pursues⟩ :=
      truthful.callers other made target body calledBefore submits
    by_cases alike : me = other
    · subst alike
      rw [found] at foundOther
      cases foundOther
      cases course with
      | submission course => exact ⟨_, World.found_set found, course.pursues staffed more pursues⟩
    · exact ⟨posting, (List.getElem?_set_ne alike).trans foundOther, pursues.mono more⟩
  · intro standing job member
    have before : Standing world := standing.of_put found moved
    have undone : new ≠ .closing .done := by
      rintro rfl
      exact standing me (World.found_set found)
    obtain ⟨idle, _⟩ := recorded.booked before
    rcases Point.queued_of_move idle undone moved member with queued | seeks
    · exact (truthful.queued before job queued).mono more
    · exact ((truthful.points me old found).of_seeks seeks).mono more
  · intro worker ticket ending ended
    have grown (target : Option Nat) (body : Body α) (receipt : Receipt) :
        Responds config world.shared history target body receipt →
          Responds config later ((old.occurs me new).toList ++ history) target body receipt :=
      Responds.mono more
    rcases List.mem_append.mp ended with now | before
    · have happens := Option.mem_toList.mp now
      obtain rfl := Point.delivers_of_ended happens
      cases course with
      | worker course =>
          cases happens
          obtain ⟨body, issued, ends⟩ := truthful.points me _ found
          exact ⟨body, issued.mono more, ends.mono grown⟩
    · obtain ⟨body, issued, ends⟩ := truthful.ended worker ticket ending before
      exact ⟨body, issued.mono more, ends.mono grown⟩
  · intro ticket body issued
    rcases issuedNow issued with issued | ⟨aimed, happens⟩
    · exact Nat.lt_of_lt_of_le (truthful.bound ticket body issued) deed.issued_le
    · obtain ⟨rfl, grows⟩ := course.ticketed happens
      exact grows ▸ Nat.lt_succ_self _
  · intro ticket body other issued another
    rcases issuedNow issued with before | ⟨aimed, happens⟩
    · rcases issuedNow another with anotherBefore | ⟨_, happens⟩
      · exact truthful.unique ticket body other before anotherBefore
      · exact absurd (truthful.bound ticket body before) (course.ticketed happens).1.ge.not_gt
    · rcases issuedNow another with anotherBefore | ⟨_, happensToo⟩
      · exact absurd (truthful.bound ticket other anotherBefore) (course.ticketed happens).1.ge.not_gt
      · rw [happens] at happensToo
        cases happensToo
        rfl

theorem of_chronicle (opened : Pool.start config = .ok first)
    (chronicle : Chronicle first last history) : Truthful config last history := by
  induction chronicle with
  | refl => exact .start opened
  | move before found moved ih =>
      have recorded : Recorded config _ := (Recorded.start opened).run before.run
      exact ih.put recorded (Reckoned.of_chronicle opened before).config found moved
  | call before made ih => exact ih.call made
  | @heed world history before signal ih =>
      have more : Extends world.shared (world.shared.heed signal) history history :=
        ⟨List.Subset.refl history, fun _ => Nat.le_refl _⟩
      refine ⟨?_, ?_, ih.queued, ?_, ih.bound, ih.unique⟩
      · exact fun me point found => (ih.points me point found).mono more
      · intro me made target body called submits
        obtain ⟨posting, found, pursues⟩ := ih.callers me made target body called submits
        exact ⟨posting, found, pursues.mono more⟩
      · intro worker ticket ending ended
        obtain ⟨body, issued, ends⟩ := ih.ended worker ticket ending ended
        exact ⟨body, issued, ends.mono fun _ _ _ => Responds.mono more⟩

end Truthful

/-- The body for which the ticket was issued has been run to its end, once, by a worker that
has done what its text says. -/
structure HasRun (config : Config) (ticket : Ticket) (world : Running α)
    (history : List (Occurrence α)) : Prop where
  once : ends ticket history = 1
  byText : ∃ worker body ending, Issued history ticket body ∧
    .ended worker ticket ending ∈ history ∧
    Ends config worker (Responds config world.shared history) body ending

theorem Truthful.hasRun (truthful : Truthful config world history)
    (once : ends ticket history = 1) : HasRun config ticket world history := by
  obtain ⟨worker, ending, ended⟩ := exists_ended (once ▸ Nat.one_pos)
  obtain ⟨body, issued, performed⟩ := truthful.ended worker ticket ending ended
  exact ⟨once, worker, body, ending, issued, ended, performed⟩

end Turnstile.Pool
