import Turnstile.Proofs.Pool.Courses
import Turnstile.Proofs.Schedule

/-!
# The chronicle of a run

The journal of a pool tells what became of the jobs, but not what the callers and the
bodies see of it: the calls, the tickets, the answers, the endings. A `Chronicle` is a run
together with all of that, the latest first.
-/

namespace Turnstile.Pool

set_option autoImplicit false

open Turnstile.Task (Ticket Body Outcome)

variable {α : Type} {me : ThreadId} {later : Pool α} {world first last : Running α}

inductive Occurrence (α : Type) where
  /-- Thread `me` has called. -/
  | called (me : ThreadId) (made : Call α)
  /-- A submission has got the ticket for its job, and is aimed at one queue or at none. -/
  | ticketed (ticket : Ticket) (body : Body α) (aimed : Bool)
  /-- A submission goes on to the next queue, because one had no room. -/
  | metFull (ticket : Ticket)
  /-- A submission has answered that its job was accepted. -/
  | answered (ticket : Ticket)
  /-- The job of the ticket has run: its body has ended, and the outcome is delivered. -/
  | ended (worker : Nat) (ticket : Ticket) (ending : Ending α)
  /-- Whoever asked for the outcome has been told; `none` is that it is still to come. -/
  | told (ticket : Ticket) (outcome : Option (Outcome α))

def Submission.occurs : Submission α → Submission α → Option (Occurrence α)
  | .begin body, .look job _ _ => some (.ticketed job.ticket body false)
  | .aim _ body, .wait job _ => some (.ticketed job.ticket body true)
  | .look job _ _, .look _ _ _ => some (.metFull job.ticket)
  | _, .done (.accepted ticket) => some (.answered ticket)
  | _, _ => none

def Inquiry.occurs : Inquiry α → Inquiry α → Option (Occurrence α)
  | .ask ticket, .done outcome | .wait ticket _, .done outcome => some (.told ticket outcome)
  | _, _ => none

def Worker.occurs (me : Nat) : Worker α → Worker α → Option (Occurrence α)
  | .deliver ticket ending, _ => some (.ended me ticket ending)
  | .post _ old, .post _ new => Submission.occurs old new
  | _, _ => none

/-- What happens when thread `me` moves from one point to another. -/
def Point.occurs (me : ThreadId) : Point α → Point α → Option (Occurrence α)
  | .worker old, .worker new => Worker.occurs me old new
  | .submission old, .submission new => Submission.occurs old new
  | .inquiry old, .inquiry new => Inquiry.occurs old new
  | _, _ => none

theorem Submission.occurs_cases {before after : Submission α} {what : Occurrence α}
    (happens : occurs before after = some what) :
    (∃ ticket body aimed, what = .ticketed ticket body aimed) ∨
    (∃ ticket, what = .metFull ticket) ∨ ∃ ticket, what = .answered ticket := by
  unfold occurs at happens
  split at happens <;> cases happens
  · exact .inl ⟨_, _, _, rfl⟩
  · exact .inl ⟨_, _, _, rfl⟩
  · exact .inr (.inl ⟨_, rfl⟩)
  · exact .inr (.inr ⟨_, rfl⟩)

/-- A submission issues a ticket and tells how it fares, a worker ends a body, and whoever asks
is told something. -/
theorem Point.occurs_cases {old new : Point α} {what : Occurrence α}
    (happens : old.occurs me new = some what) :
    ((∃ ticket body aimed, what = .ticketed ticket body aimed) ∨
      (∃ ticket, what = .metFull ticket) ∨ ∃ ticket, what = .answered ticket) ∨
    (∃ ticket ending, old = .worker (.deliver ticket ending) ∧ what = .ended me ticket ending) ∨
    ∃ asked ticket outcome, old = .inquiry asked ∧ what = .told ticket outcome := by
  unfold occurs at happens
  split at happens
  · unfold Worker.occurs at happens
    split at happens
    · cases happens
      exact .inr (.inl ⟨_, _, rfl, rfl⟩)
    · exact .inl (Submission.occurs_cases happens)
    · cases happens
  · exact .inl (Submission.occurs_cases happens)
  · unfold Inquiry.occurs at happens
    split at happens <;> cases happens
    · exact .inr (.inr ⟨_, _, _, rfl, rfl⟩)
    · exact .inr (.inr ⟨_, _, _, rfl, rfl⟩)
  · cases happens

inductive Chronicle (first : Running α) : Running α → List (Occurrence α) → Prop where
  | refl : Chronicle first first []
  | move {world : Running α} {history : List (Occurrence α)} {me : ThreadId} {old new : Point α}
      {later : Pool α} (before : Chronicle first world history)
      (found : world.threads[me]? = some old)
      (moved : act me old world.shared = some (new, later) ∨
        expire me old world.shared = some (new, later)) :
      Chronicle first (world.put me (new, later)) ((old.occurs me new).toList ++ history)
  | call {world : Running α} {history : List (Occurrence α)} (before : Chronicle first world history)
      (made : Call α) :
      Chronicle first (world.spawn (begin made)) (.called world.threads.length made :: history)
  | heed {world : Running α} {history : List (Occurrence α)}
      (before : Chronicle first world history) (signal : Signal) :
      Chronicle first ⟨world.shared.heed signal, world.threads⟩ history

theorem Step.of_move {old new : Point α} (found : world.threads[me]? = some old)
    (moved : Pool.act me old world.shared = some (new, later) ∨
      Pool.expire me old world.shared = some (new, later)) : Step world (world.put me (new, later)) := by
  rcases moved with acted | expired
  · exact .act me (World.act_eq_some_iff.mpr ⟨old, new, later, found, acted, rfl⟩)
  · refine .expire me ?_
    rw [World.expire?, found, Option.bind_some]
    exact Option.map_eq_some_iff.mpr ⟨_, expired, rfl⟩

namespace Chronicle

variable {history : List (Occurrence α)}

theorem run (chronicle : Chronicle first last history) : Relation.ReflTransGen Step first last := by
  induction chronicle with
  | refl => exact .refl
  | move _ found moved ih => exact ih.tail (.of_move found moved)
  | call _ made ih => exact ih.tail (.call made)
  | heed _ signal ih => exact ih.tail (.heed signal)

theorem exists_of_run (run : Relation.ReflTransGen Step first last) :
    ∃ history, Chronicle first last history := by
  induction run with
  | refl => exact ⟨[], .refl⟩
  | tail _ step ih =>
      obtain ⟨history, chronicle⟩ := ih
      rcases step.cases_on_move with
        ⟨me, old, new, pool, found, moved, rfl⟩ | ⟨made, rfl⟩ | ⟨signal, rfl⟩
      · exact ⟨_, chronicle.move found moved⟩
      · exact ⟨_, chronicle.call made⟩
      · exact ⟨_, chronicle.heed signal⟩

/-- Calls one after the other, before any of their threads acts. -/
def callAll (calls : List (Call α)) (told : Running α × List (Occurrence α)) :
    Running α × List (Occurrence α) :=
  calls.foldl (fun (world, history) made =>
    (world.spawn (begin made), .called world.threads.length made :: history)) told

theorem callAll_chronicle (chronicle : Chronicle first world history) (calls : List (Call α)) :
    Chronicle first (callAll calls (world, history)).1 (callAll calls (world, history)).2 := by
  induction calls generalizing world history with
  | nil => exact chronicle
  | cons made rest ih => exact ih (chronicle.call made)

/-- Threads act in turn, and what happens is written down. -/
def narrate? (order : List ThreadId) (told : Running α × List (Occurrence α)) :
    Option (Running α × List (Occurrence α)) :=
  order.foldlM (fun (world, history) me => world.threads[me]?.bind fun old =>
    (act me old world.shared).map fun moved =>
      (world.put me moved, (old.occurs me moved.1).toList ++ history)) told

theorem narrated (chronicle : Chronicle first world history) {written : List (Occurrence α)}
    (order : List ThreadId) (performed : narrate? order (world, history) = some (last, written)) :
    Chronicle first last written := by
  induction order generalizing world history with
  | nil =>
      cases performed
      exact chronicle
  | cons me rest ih =>
      rw [narrate?, List.foldlM_cons, Option.bind_eq_bind, Option.bind_eq_some_iff] at performed
      obtain ⟨⟨mid, so⟩, acted, performed⟩ := performed
      rw [Option.bind_eq_some_iff] at acted
      obtain ⟨old, found, acted⟩ := acted
      rw [Option.map_eq_some_iff] at acted
      obtain ⟨⟨new, pool⟩, acted, same⟩ := acted
      cases same
      exact ih (chronicle.move found (.inl acted)) performed

theorem narrated_getD {told : Running α × List (Occurrence α)}
    (chronicle : Chronicle first told.1 told.2) (order : List ThreadId) :
    Chronicle first ((narrate? order told).getD told).1 ((narrate? order told).getD told).2 := by
  cases written : narrate? order told with
  | none => exact chronicle
  | some after => exact chronicle.narrated order written

/-- A signal reaches the pool, of which nothing is written down. -/
def heeding (signal : Signal) (told : Running α × List (Occurrence α)) :
    Running α × List (Occurrence α) :=
  (⟨told.1.shared.heed signal, told.1.threads⟩, told.2)

end Chronicle

end Turnstile.Pool
