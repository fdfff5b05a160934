import Turnstile.Proofs.Pool.Chronicle

/-!
# What bodies come to

`Ends` says what a body comes to by its text alone: the value after the last of its actions,
or what the first action has thrown that throws. Only the answers to the submissions that it
makes come from outside. A worker that runs a body keeps to that action by action, whatever
the other threads do in between.
-/

namespace Turnstile.Pool

set_option autoImplicit false

open Turnstile.Task (Ticket Job Body Action Result Payload)

variable {α : Type} {me : ThreadId} {pool later : Pool α} {ticket : Ticket} {config : Config}
  {old new : Point α} {history longer : List (Occurrence α)} {target : Option Nat}
  {body : Body α}

/-! ## By the text of the body -/

/-- The submission that an action makes: at which queue it is aimed, if at any, and its body. -/
def submits? : Action α → Option (Option Nat × Body α)
  | .post body => some (none, body)
  | .postTo worker body => some (some worker, body)
  | _ => none

/-- What the answer to a submission is to the task that has made it. -/
def Receipt.ending : Receipt → Ending α
  | .accepted _ => .ok .accepted
  | .refused failure => .ok (.refused failure)
  | .fault broken => .error (.text broken.message)

section Text

variable (config : Config) (me : Nat) (responds : Option Nat → Body α → Receipt → Prop)

/-- An action makes a new result of the one so far, or throws. -/
inductive Yields : Action α → Result α → Ending α → Prop where
  | say (text : String) (result : Result α) : Yields (.say text) result (.ok result)
  | pass (gate : String) (result : Result α) : Yields (.pass gate) result (.ok result)
  | give (value : α) (result : Result α) : Yields (.give value) result (.ok (.value value))
  | giveExplosive (result : Result α) : Yields .giveExplosive result (.ok .explosive)
  | giveName (result : Result α) : Yields .giveName result (.ok (.name (config.workerName me)))
  | submit {action : Action α} {target : Option Nat} {body : Body α} {receipt : Receipt}
      (result : Result α) (submits : submits? action = some (target, body))
      (responds : responds target body receipt) : Yields action result receipt.ending
  | panic (payload : Payload) (result : Result α) : Yields (.panic payload) result (.error payload)

/-- The actions were carried out one after the other, and none of them has thrown. -/
inductive Performed : Body α → Result α → Prop where
  | nothing : Performed [] .nothing
  | next {done : Body α} {action : Action α} {result after : Result α} (before : Performed done result)
      (yields : Yields config me responds action result (.ok after)) :
      Performed (done ++ [action]) after

/-- What a body comes to that worker `me` runs. -/
inductive Ends : Body α → Ending α → Prop where
  | value {body : Body α} {result : Result α} (performed : Performed config me responds body result) :
      Ends body (.ok result)
  | panic {done rest : Body α} {action : Action α} {result : Result α} {payload : Payload}
      (performed : Performed config me responds done result)
      (yields : Yields config me responds action result (.error payload)) :
      Ends (done ++ action :: rest) (.error payload)

variable {config me responds} {more : Option Nat → Body α → Receipt → Prop}
  (grown : ∀ target body receipt, responds target body receipt → more target body receipt)
include grown

theorem Yields.mono {action : Action α} {result : Result α} {ending : Ending α}
    (yields : Yields config me responds action result ending) :
    Yields config me more action result ending := by
  cases yields with
  | say text => exact .say text result
  | pass gate => exact .pass gate result
  | give value => exact .give value result
  | giveExplosive => exact .giveExplosive result
  | giveName => exact .giveName result
  | submit _ submits responds => exact .submit result submits (grown _ _ _ responds)
  | panic payload => exact .panic payload result

theorem Performed.mono {done : Body α} {result : Result α}
    (performed : Performed config me responds done result) : Performed config me more done result := by
  induction performed with
  | nothing => exact .nothing
  | next _ yields ih => exact .next ih (yields.mono grown)

theorem Ends.mono {ending : Ending α} (ends : Ends config me responds body ending) :
    Ends config me more body ending := by
  cases ends with
  | value performed => exact .value (performed.mono grown)
  | panic performed yields => exact .panic (performed.mono grown) (yields.mono grown)

end Text

section Unique

variable {me : Nat} {responds : Option Nat → Body α → Receipt → Prop} {action : Action α}
  {done rest : Body α} {result other : Result α} {ending another : Ending α}

theorem Yields.unique (silent : submits? action = none)
    (yields : Yields config me responds action result ending)
    (yieldsToo : Yields config me responds action result another) : ending = another := by
  cases yields with
  | submit _ submits =>
      rw [silent] at submits
      cases submits
  | say | pass | give | giveExplosive | giveName | panic =>
      cases yieldsToo with
      | submit _ submits =>
          rw [silent] at submits
          cases submits
      | _ => rfl

theorem Performed.of_concat (performed : Performed config me responds (done ++ [action]) result) :
    ∃ before, Performed config me responds done before ∧
      Yields config me responds action before (.ok result) := by
  generalize same : done ++ [action] = all at performed
  cases performed with
  | nothing => simp at same
  | next before yields =>
      obtain ⟨rfl, alike⟩ := List.append_inj' same rfl
      cases alike
      exact ⟨_, before, yields⟩

theorem Performed.of_append (performed : Performed config me responds (done ++ rest) result) :
    ∃ before, Performed config me responds done before := by
  induction rest using List.reverseRecOn generalizing result with
  | nil =>
      rw [List.append_nil] at performed
      exact ⟨result, performed⟩
  | append_singleton rest action ih =>
      rw [← List.append_assoc] at performed
      obtain ⟨before, performed, _⟩ := performed.of_concat
      exact ih performed

theorem Performed.unique (silent : ∀ each ∈ done, submits? each = none)
    (performed : Performed config me responds done result)
    (performedToo : Performed config me responds done other) : result = other := by
  induction performed generalizing other with
  | nothing =>
      generalize same : ([] : Body α) = all at performedToo
      cases performedToo with
      | nothing => rfl
      | next => simp at same
  | @next done action result after _ yields ih =>
      obtain ⟨before, performed, yieldsToo⟩ := performedToo.of_concat
      obtain rfl := ih (fun each member => silent each (List.mem_append_left _ member)) performed
      have quiet := silent action (List.mem_append_right _ (List.mem_singleton_self action))
      exact Except.ok.inj (yields.unique quiet yieldsToo)

section Panic

variable {payload : Payload} (silent : ∀ each ∈ done, submits? each = none)
  (quiet : submits? action = none) (before : Performed config me responds done other)
  (yields : Yields config me responds action other (.error payload))
include silent quiet before yields

theorem Performed.not_after_panic
    (performed : Performed config me responds (done ++ action :: rest) result) : False := by
  rw [List.append_cons] at performed
  obtain ⟨after, performed⟩ := performed.of_append
  obtain ⟨between, performed, yieldsToo⟩ := performed.of_concat
  obtain rfl := before.unique silent performed
  cases yields.unique quiet yieldsToo

theorem Performed.panic_unique {more left : Body α} {next : Action α} {thrown : Payload}
    (performed : Performed config me responds (done ++ more) result)
    (yieldsToo : Yields config me responds next result (.error thrown))
    (same : action :: rest = more ++ next :: left) : payload = thrown := by
  cases more with
  | nil =>
      cases same
      rw [List.append_nil] at performed
      obtain rfl := before.unique silent performed
      exact Except.error.inj (yields.unique quiet yieldsToo)
  | cons first more =>
      cases same
      exact (before.not_after_panic silent quiet yields performed).elim

end Panic

theorem Ends.unique (silent : ∀ each ∈ body, submits? each = none)
    (ends : Ends config me responds body ending) (endsToo : Ends config me responds body another) :
    ending = another := by
  have front {done rest : Body α} {action : Action α} (same : done ++ action :: rest = body) :
      (∀ each ∈ done, submits? each = none) ∧ submits? action = none := by
    subst same
    exact ⟨fun each member => silent each (List.mem_append_left _ member),
      silent action (List.mem_append_right _ (List.mem_cons_self ..))⟩
  cases ends with
  | value performed =>
      generalize same : body = all at endsToo
      cases endsToo with
      | value performedToo =>
          subst same
          rw [performed.unique silent performedToo]
      | panic before yields =>
          obtain ⟨silentFront, quiet⟩ := front same.symm
          subst same
          exact (before.not_after_panic silentFront quiet yields performed).elim
  | @panic done rest action _ _ before yields =>
      obtain ⟨silentFront, quiet⟩ := front rfl
      generalize same : done ++ action :: rest = all at endsToo
      cases endsToo with
      | value performed =>
          subst same
          exact (before.not_after_panic silentFront quiet yields performed).elim
      | panic beforeToo yieldsToo =>
          obtain ⟨silentToo, quietToo⟩ := front same.symm
          rcases List.append_eq_append_iff.mp same with ⟨more, rfl, alike⟩ | ⟨more, rfl, alike⟩
          · rw [before.panic_unique silentFront quiet yields beforeToo yieldsToo alike]
          · rw [beforeToo.panic_unique silentToo quietToo yieldsToo before yields alike]

end Unique

/-! ## What submissions are answered -/

/-- The ticket was issued for the body. -/
def Issued (history : List (Occurrence α)) (ticket : Ticket) (body : Body α) : Prop :=
  ∃ aimed, .ticketed ticket body aimed ∈ history

/-- The ticket was issued for the body, for a submission that is aimed at a queue or at none. -/
structure Ticketed (config : Config) (history : List (Occurrence α)) (target : Option Nat)
    (body : Body α) (ticket : Ticket) : Prop where
  ticketed : .ticketed ticket body target.isSome ∈ history
  within : ∀ worker ∈ target, worker < config.workers

/-- What a submission of the body may be answered. -/
inductive Responds (config : Config) (pool : Pool α) (history : List (Occurrence α))
    (target : Option Nat) (body : Body α) : Receipt → Prop where
  | accepted {ticket : Ticket} (ticketed : Ticketed config history target body ticket)
      (answered : .answered ticket ∈ history) :
      Responds config pool history target body (.accepted ticket)
  | refused {ticket : Ticket} (ticketed : Ticketed config history target body ticket)
      (refused : 0 < pool.times .refused ticket) :
      Responds config pool history target body (.refused .shutDown)
  | misaimed {worker : Nat} (aimed : target = some worker) (beyond : config.workers ≤ worker) :
      Responds config pool history target body (.fault .noSuchWorker)

/-- How far a submission of the body can have come. -/
def Submission.Pursues (config : Config) (pool : Pool α) (history : List (Occurrence α))
    (target : Option Nat) (body : Body α) : Submission α → Prop
  | .begin posted => target = none ∧ posted = body
  | .aim worker posted => target = some worker ∧ posted = body
  | .look job _ _ | .fallBack job _ | .wait job _ =>
    job.body = body ∧ Ticketed config history target body job.ticket
  | .count ticket => Ticketed config history target body ticket
  | .done receipt => Responds config pool history target body receipt

/-- Nothing that has happened is forgotten. -/
structure Extends (pool later : Pool α) (history longer : List (Occurrence α)) : Prop where
  history : history ⊆ longer
  refused : ∀ ticket, pool.times .refused ticket ≤ later.times .refused ticket

section Extends

variable (more : Extends pool later history longer)
include more

theorem Issued.mono (issued : Issued history ticket body) : Issued longer ticket body := by
  obtain ⟨aimed, ticketed⟩ := issued
  exact ⟨aimed, more.history ticketed⟩

theorem Ticketed.mono (ticketed : Ticketed config history target body ticket) :
    Ticketed config longer target body ticket :=
  ⟨more.history ticketed.ticketed, ticketed.within⟩

theorem Responds.mono {receipt : Receipt}
    (responds : Responds config pool history target body receipt) :
    Responds config later longer target body receipt := by
  cases responds with
  | accepted ticketed answered => exact .accepted (ticketed.mono more) (more.history answered)
  | refused ticketed refused =>
      exact .refused (ticketed.mono more) (Nat.lt_of_lt_of_le refused (more.refused _))
  | misaimed aimed beyond => exact .misaimed aimed beyond

theorem Submission.Pursues.mono {submission : Submission α}
    (pursues : submission.Pursues config pool history target body) :
    submission.Pursues config later longer target body := by
  cases submission with
  | begin | aim => exact pursues
  | look | fallBack | wait => exact ⟨pursues.1, pursues.2.mono more⟩
  | count => exact Ticketed.mono more pursues
  | done => exact Responds.mono more pursues

end Extends

theorem Ticketed.issued (ticketed : Ticketed config history target body ticket) :
    Issued history ticket body := ⟨_, ticketed.ticketed⟩

namespace Submission

variable {submission next : Submission α}

theorem Pursues.of_seeks (pursues : submission.Pursues config pool history target body)
    {job : Job α} (seeks : submission.seeks? = some job) :
    job.body = body ∧ Ticketed config history target body job.ticket := by
  cases submission with
  | look | fallBack | wait =>
      cases seeks
      exact pursues
  | begin | aim | count | done => cases seeks

theorem Course.pursues (course : Course pool submission next later)
    (staffed : pool.queues.length = config.workers)
    (more : Extends pool later history ((occurs submission next).toList ++ history))
    (pursues : submission.Pursues config pool history target body) :
    next.Pursues config later ((occurs submission next).toList ++ history) target body := by
  cases course with
  | ticket posted =>
      obtain ⟨rfl, rfl⟩ := pursues
      exact ⟨rfl, List.mem_cons_self .., nofun⟩
  | aim posted within =>
      obtain ⟨rfl, rfl⟩ := pursues
      refine ⟨rfl, List.mem_cons_self .., ?_⟩
      intro worker aimed
      cases aimed
      exact staffed ▸ within
  | misaim posted beyond => exact .misaimed pursues.1 (staffed ▸ beyond)
  | meetFull | exhaust | fallBack | park => exact ⟨pursues.1, pursues.2.mono more⟩
  | accept seeks => exact (pursues.of_seeks seeks).2.mono more
  | refuse seeks =>
      exact .refused ((pursues.of_seeks seeks).2.mono more) (times_pos_of_note rfl _)
  | answer ticket => exact .accepted (Ticketed.mono more pursues) (List.mem_cons_self ..)

end Submission

/-! ## What workers do with a body -/

/-- What a worker has in hand comes from a job for whose body its ticket was issued, and as
far as the body was carried out, that was done by its text. -/
def Worker.Keeps (config : Config) (me : Nat) (pool : Pool α) (history : List (Occurrence α)) :
    Worker α → Prop
  | .countTheft job _ => Issued history job.ticket job.body
  | .run frame => ∃ done, Issued history frame.ticket (done ++ frame.rest) ∧
      Performed config me (Responds config pool history) done frame.result
  | .post frame submission => ∃ done action target body,
      Issued history frame.ticket (done ++ action :: frame.rest) ∧
      Performed config me (Responds config pool history) done frame.result ∧
      submits? action = some (target, body) ∧ submission.Pursues config pool history target body
  | .deliver ticket ending => ∃ body, Issued history ticket body ∧
      Ends config me (Responds config pool history) body ending
  | _ => True

namespace Worker

variable {hand next : Worker α}

theorem Keeps.of_not_bears (free : hand.bears = false) : hand.Keeps config me pool history := by
  cases hand <;> first | exact trivial | cases free

theorem Keeps.begin {job : Job α} (issued : Issued history job.ticket job.body) :
    (Worker.begin job).Keeps config me pool history :=
  ⟨[], issued, .nothing⟩

theorem Keeps.mono (more : Extends pool later history longer)
    (keeps : hand.Keeps config me pool history) : hand.Keeps config me later longer := by
  have grown (target : Option Nat) (body : Body α) (receipt : Receipt) :
      Responds config pool history target body receipt →
        Responds config later longer target body receipt := Responds.mono more
  cases hand with
  | countTheft job victim => exact Issued.mono more keeps
  | run frame =>
      obtain ⟨done, issued, performed⟩ := keeps
      exact ⟨done, issued.mono more, performed.mono grown⟩
  | post frame submission =>
      obtain ⟨done, action, target, body, issued, performed, submits, pursues⟩ := keeps
      exact ⟨done, action, target, body, issued.mono more, performed.mono grown, submits,
        pursues.mono more⟩
  | deliver ticket ending =>
      obtain ⟨body, issued, ends⟩ := keeps
      exact ⟨body, issued.mono more, ends.mono grown⟩
  | _ => trivial

theorem Keeps.goes_on {frame : Frame α} {action : Action α} {done rest : Body α} {after : Result α}
    (issued : Issued history frame.ticket (done ++ action :: rest))
    (performed : Performed config me (Responds config pool history) done frame.result)
    (yields : Yields config me (Responds config pool history) action frame.result (.ok after)) :
    (Worker.run { frame with rest, result := after }).Keeps config me pool history := by
  refine ⟨done ++ [action], ?_, performed.next yields⟩
  rwa [List.append_assoc, List.singleton_append]

theorem Keeps.runBody {frame : Frame α} (same : pool.config = config)
    (keeps : (Worker.run frame).Keeps config me pool history)
    (acted : runBody me frame pool = some (next, later)) :
    next.Keeps config me pool history := by
  obtain ⟨done, issued, performed⟩ := keeps
  unfold Worker.runBody at acted
  split at acted
  case h_1 finished =>
    cases acted
    rw [finished, List.append_nil] at issued
    exact ⟨done, issued, .value performed⟩
  case h_2 text rest begins =>
    cases acted
    rw [begins] at issued
    exact Keeps.goes_on issued performed (.say text _)
  case h_3 gate rest begins =>
    split at acted
    · cases acted
      rw [begins] at issued
      exact Keeps.goes_on issued performed (.pass gate _)
    · cases acted
  case h_4 value rest begins =>
    cases acted
    rw [begins] at issued
    exact Keeps.goes_on issued performed (.give value _)
  case h_5 rest begins =>
    cases acted
    rw [begins] at issued
    exact Keeps.goes_on issued performed (.giveExplosive _)
  case h_6 rest begins =>
    cases acted
    rw [begins] at issued
    rw [same]
    exact Keeps.goes_on issued performed (.giveName _)
  case h_7 posted rest begins =>
    cases acted
    rw [begins] at issued
    exact ⟨done, .post posted, none, posted, issued, performed, rfl, rfl, rfl⟩
  case h_8 worker posted rest begins =>
    cases acted
    rw [begins] at issued
    exact ⟨done, .postTo worker posted, some worker, posted, issued, performed, rfl, rfl, rfl⟩
  case h_9 payload rest begins =>
    cases acted
    rw [begins] at issued
    exact ⟨_, issued, .panic performed (.panic payload _)⟩

theorem Keeps.afterPost {frame : Frame α} {receipt : Receipt}
    (keeps : (Worker.post frame (.done receipt)).Keeps config me pool history) :
    (Worker.afterPost frame receipt).Keeps config me pool history := by
  obtain ⟨done, action, target, body, issued, performed, submits, responds⟩ := keeps
  have yields : Yields config me (Responds config pool history) action frame.result receipt.ending :=
    .submit _ submits responds
  cases receipt with
  | accepted | refused => exact Keeps.goes_on issued performed yields
  | fault => exact ⟨_, issued, .panic performed yields⟩

theorem Course.keeps (course : Course me pool hand next later) (same : pool.config = config)
    (staffed : pool.queues.length = config.workers)
    (known : ∀ job ∈ pool.queued, Issued history job.ticket job.body)
    (more : Extends pool later history ((occurs me hand next).toList ++ history))
    (keeps : hand.Keeps config me pool history) :
    next.Keeps config me later ((occurs me hand next).toList ++ history) := by
  cases course with
  | @take _ _ job index queue visited roams found loads goes =>
      have waits : job ∈ pool.queued := by
        refine List.mem_flatMap.mpr ⟨queue, List.mem_of_getElem? found, ?_⟩
        rw [loads.items]
        exact List.mem_cons_self ..
      have issued := (known job waits).mono more
      rcases goes with ⟨_, rfl⟩ | ⟨_, rfl⟩
      · exact .begin issued
      · exact issued
  | countTheft job victim =>
      exact .begin (Issued.mono more keeps)
  | body acted => exact (keeps.runBody same acted).mono more
  | submit frame course =>
      obtain ⟨done, action, target, body, issued, performed, submits, pursues⟩ := keeps
      exact ⟨done, action, target, body, issued.mono more,
        performed.mono fun _ _ _ => Responds.mono more, submits, course.pursues staffed more pursues⟩
  | resume frame receipt => exact keeps.afterPost.mono more
  | deliver ticket ending =>
      exact .of_not_bears (not_bears_afterDelivery ticket _ ending)
  | aside before after => exact .of_not_bears after

end Worker

end Turnstile.Pool
