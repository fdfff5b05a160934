import Mathlib.Data.List.Nodup
import Turnstile.Lock.Sharing

/-!
# A phase-fair lock

What a shared lock is to its callers: how many readers are inside, the readers that wait,
one writer that is inside or drains the readers before it, and the writers behind that
one. Readers enter as long as there is no writer. A writer drains the readers it found
inside and enters with the last of them gone; when it leaves, all readers that wait enter
at once, and the writer that has waited longest is the next one.
-/

namespace Turnstile.Lock.Sharing

set_option autoImplicit false

/-- The one writer that keeps new readers out. -/
inductive Writer where
  | absent
  | holding
  /-- Waits for the readers that were inside when it came. -/
  | draining (caller : ThreadId)
  deriving DecidableEq

/-- What a writer takes off the word. -/
def Writer.weight : Writer → Int
  | absent => 0
  | _ => roof.toInt

structure PhaseFair where
  inside : Nat
  /-- The readers that wait, the one waiting longest first. -/
  readers : List ThreadId
  writer : Writer
  /-- The writers behind that one, the one waiting longest first. -/
  writers : List ThreadId
  /-- How many calls there were. The next caller has this number. -/
  calls : Nat

inductive Request where
  | enter (mode : Mode)
  | tryEnter (mode : Mode)
  | leave (mode : Mode)
  deriving DecidableEq

def Request.start : Request → Point
  | enter mode => Sharing.enter mode
  | tryEnter mode => Sharing.tryEnter mode
  | leave mode => Sharing.leave mode

structure Outcome where
  answer : Option Answer
  released : List (ThreadId × Answer)
  fair : PhaseFair

namespace PhaseFair

def free : PhaseFair := ⟨0, [], .absent, [], 0⟩

def drainer (fair : PhaseFair) : List ThreadId :=
  match fair.writer with
  | .draining caller => [caller]
  | _ => []

def waiting (fair : PhaseFair) : List ThreadId := fair.readers ++ (fair.drainer ++ fair.writers)

/-- Somebody is inside, or a writer is on the way in. -/
def isHeld (fair : PhaseFair) : Bool := 0 < fair.inside ∨ fair.writer ≠ .absent

def isHeldExclusively (fair : PhaseFair) : Bool := fair.writer ≠ .absent

/-- The value of the word that counts the readers. -/
def word (fair : PhaseFair) : Int :=
  roof.toInt - fair.inside - fair.readers.length - fair.writer.weight

/-- The readers inside that a writer waits for. -/
def departing (fair : PhaseFair) : Nat :=
  match fair.writer with
  | .draining _ => fair.inside
  | _ => 0

def enterShared (fair : PhaseFair) : Outcome :=
  match fair.writer with
  | .absent => ⟨some .entered, [], { fair with inside := fair.inside + 1 }⟩
  | _ => ⟨none, [], { fair with readers := fair.readers ++ [fair.calls] }⟩

def tryEnterShared (fair : PhaseFair) : Outcome :=
  match fair.writer with
  | .absent => ⟨some .entered, [], { fair with inside := fair.inside + 1 }⟩
  | _ => ⟨some .refused, [], fair⟩

/-- The last reader of those that a writer drains lets it in. -/
def leaveShared (fair : PhaseFair) : Outcome :=
  match fair.writer, fair.inside with
  | .draining caller, 1 =>
    ⟨some .left, [(caller, .entered)], { fair with inside := 0, writer := .holding }⟩
  | _, inside => ⟨some .left, [], { fair with inside := inside - 1 }⟩

def enterExclusive (fair : PhaseFair) : Outcome :=
  match fair.writer with
  | .absent =>
    if fair.inside = 0 then ⟨some .entered, [], { fair with writer := .holding }⟩
    else ⟨none, [], { fair with writer := .draining fair.calls }⟩
  | _ => ⟨none, [], { fair with writers := fair.writers ++ [fair.calls] }⟩

def tryEnterExclusive (fair : PhaseFair) : Outcome :=
  match fair.writer with
  | .absent =>
    if fair.inside = 0 then ⟨some .entered, [], { fair with writer := .holding }⟩
    else ⟨some .refused, [], fair⟩
  | _ => ⟨some .refused, [], fair⟩

/-- The readers that wait come in, and then the next writer finds them there. -/
def leaveExclusive (fair : PhaseFair) : Outcome :=
  let readers := fair.readers.map fun reader => (reader, Answer.entered)
  match fair.writers with
  | [] =>
    ⟨some .left, readers,
      { fair with inside := fair.readers.length, readers := [], writer := .absent }⟩
  | writer :: rest =>
    match fair.readers with
    | [] => ⟨some .left, [(writer, .entered)], { fair with writers := rest }⟩
    | _ =>
      ⟨some .left, readers,
        { fair with
          inside := fair.readers.length, readers := [], writer := .draining writer,
          writers := rest }⟩

def handle : Request → PhaseFair → Outcome
  | .enter .shared, fair => fair.enterShared
  | .tryEnter .shared, fair => fair.tryEnterShared
  | .leave .shared, fair => fair.leaveShared
  | .enter .exclusive, fair => fair.enterExclusive
  | .tryEnter .exclusive, fair => fair.tryEnterExclusive
  | .leave .exclusive, fair => fair.leaveExclusive

def serve (request : Request) (fair : PhaseFair) : Outcome :=
  let outcome := fair.handle request
  { outcome with fair := { outcome.fair with calls := fair.calls + 1 } }

def serveAll (requests : List Request) (fair : PhaseFair) : PhaseFair :=
  requests.foldl (fun fair request => (fair.serve request).fair) fair

/-- Only what is held is given up. -/
def Holds (fair : PhaseFair) : Request → Prop
  | .leave .shared => 0 < fair.inside
  | .leave .exclusive => fair.writer = .holding
  | _ => True

/-- There are fewer readers than the word of the lock can count. -/
def Fits (fair : PhaseFair) : Prop := fair.inside + fair.readers.length < Int64.maxValue.toInt

instance : DecidablePred Fits := fun fair =>
  inferInstanceAs (Decidable ((fair.inside + fair.readers.length : Int) < Int64.maxValue.toInt))

theorem serve_readers_le (request : Request) (fair : PhaseFair) :
    (fair.serve request).fair.inside + (fair.serve request).fair.readers.length ≤
      fair.inside + fair.readers.length + 1 := by
  rcases request with mode | mode | mode <;> cases mode <;>
    simp only [serve, handle, enterShared, tryEnterShared, leaveShared, enterExclusive,
      tryEnterExclusive, leaveExclusive] <;>
    split <;> (try split) <;> simp <;> omega

theorem serveAll_readers_le (requests : List Request) (fair : PhaseFair) :
    (fair.serveAll requests).inside + (fair.serveAll requests).readers.length ≤
      fair.inside + fair.readers.length + requests.length := by
  induction requests generalizing fair with
  | nil => exact Nat.le_refl _
  | cons request rest ih =>
      have first := serve_readers_le request fair
      have others := ih (fair.serve request).fair
      rw [serveAll, List.foldl_cons, ← serveAll, List.length_cons]
      omega

structure Staged (fair : PhaseFair) : Prop where
  absent : fair.writer = .absent → fair.readers = [] ∧ fair.writers = []
  holding : fair.writer = .holding → fair.inside = 0
  draining : ∀ caller, fair.writer = .draining caller → 0 < fair.inside

/-- Nobody waits twice, and those that wait have called. -/
structure Sane (fair : PhaseFair) : Prop extends Staged fair where
  distinct : fair.waiting.Nodup
  earlier : ∀ me ∈ fair.waiting, me < fair.calls

theorem sane_free : Sane free := by
  refine ⟨⟨fun _ => ⟨rfl, rfl⟩, fun _ => rfl, ?_⟩, List.nodup_nil, ?_⟩
  · intro caller same
    cases same
  · intro me member
    cases member

end PhaseFair

variable {fair : PhaseFair} {outcome : Outcome} {request : Request}

/-- Of those that have waited and the newcomer, each is released or waits, once. -/
def Outcome.Places (fair : PhaseFair) (outcome : Outcome) : Prop :=
  (outcome.released.map Prod.fst ++ outcome.fair.waiting).Perm
    (fair.waiting ++ if outcome.answer = none then [fair.calls] else [])

namespace Outcome.Places

theorem of_same (some : outcome.answer ≠ none) (released : outcome.released = [])
    (same : outcome.fair.waiting = fair.waiting) : outcome.Places fair := by
  rw [Places, if_neg some, released, same, List.append_nil]
  exact .rfl

theorem of_join (none : outcome.answer = none) (released : outcome.released = [])
    (joins : outcome.fair.waiting.Perm (fair.waiting ++ [fair.calls])) : outcome.Places fair := by
  rw [Places, if_pos none, released]
  exact joins

end Outcome.Places

namespace PhaseFair

theorem enterShared_places (fair : PhaseFair) : fair.enterShared.Places fair := by
  unfold enterShared
  split
  · exact .of_same (by simp) rfl rfl
  · refine .of_join rfl rfl ?_
    show (fair.readers ++ [fair.calls] ++ (fair.drainer ++ fair.writers)).Perm
      (fair.readers ++ (fair.drainer ++ fair.writers) ++ [fair.calls])
    rw [List.append_assoc, List.append_assoc]
    exact List.perm_append_comm.append_left _

theorem tryEnterShared_places (fair : PhaseFair) : fair.tryEnterShared.Places fair := by
  unfold tryEnterShared
  split <;> exact .of_same (by simp) rfl rfl

theorem leaveShared_places (fair : PhaseFair) : fair.leaveShared.Places fair := by
  unfold leaveShared
  split
  · next caller drains _ =>
    show ([caller] ++ (fair.readers ++ ([] ++ fair.writers))).Perm
      (fair.readers ++ (fair.drainer ++ fair.writers) ++ [])
    rw [drainer, drains, List.append_nil, List.nil_append, ← List.append_assoc, ← List.append_assoc]
    exact List.perm_append_comm.append_right _
  · exact .of_same (by simp) rfl rfl

theorem enterExclusive_places (staged : fair.Staged) : fair.enterExclusive.Places fair := by
  unfold enterExclusive
  split
  · next absent =>
    obtain ⟨readers, writers⟩ := staged.absent absent
    split
    · exact .of_same (by simp) rfl (by simp [waiting, drainer, absent])
    · exact .of_join rfl rfl (by simp [waiting, drainer, absent, readers, writers])
  · exact .of_join rfl rfl (by simp [waiting, drainer])

theorem tryEnterExclusive_places (fair : PhaseFair) : fair.tryEnterExclusive.Places fair := by
  unfold tryEnterExclusive
  split
  · next absent =>
    split
    · exact .of_same (by simp) rfl (by simp [waiting, drainer, absent])
    · exact .of_same (by simp) rfl rfl
  · exact .of_same (by simp) rfl rfl

theorem leaveExclusive_places (holds : fair.writer = .holding) : fair.leaveExclusive.Places fair := by
  unfold leaveExclusive Outcome.Places
  cases writers : fair.writers with
  | nil => simp [waiting, drainer, holds, writers, Function.comp_def]
  | cons writer rest =>
      cases readers : fair.readers with
      | nil => simp [waiting, drainer, holds, writers, readers]
      | cons reader more => simp [waiting, drainer, holds, writers, readers, Function.comp_def]

theorem handle_places (staged : fair.Staged) (holds : fair.Holds request) :
    (fair.handle request).Places fair := by
  match request with
  | .enter .shared => exact fair.enterShared_places
  | .tryEnter .shared => exact fair.tryEnterShared_places
  | .leave .shared => exact fair.leaveShared_places
  | .enter .exclusive => exact enterExclusive_places staged
  | .tryEnter .exclusive => exact fair.tryEnterExclusive_places
  | .leave .exclusive => exact leaveExclusive_places holds

theorem enterShared_staged (staged : fair.Staged) : fair.enterShared.fair.Staged := by
  obtain ⟨absent, holding, draining⟩ := staged
  unfold enterShared
  split
  · next none => exact ⟨absent, by simp [none], by simp [none]⟩
  · next some => exact ⟨fun none => absurd none some, holding, draining⟩

theorem leaveShared_staged (staged : fair.Staged) (holds : 0 < fair.inside) :
    fair.leaveShared.fair.Staged := by
  obtain ⟨absent, holding, draining⟩ := staged
  unfold leaveShared
  split
  · exact ⟨by simp, by simp, by simp⟩
  · next last =>
    refine ⟨absent, fun held => ?_, fun caller drains => ?_⟩
    · have nobody := holding held
      show fair.inside - 1 = 0
      omega
    · have several : fair.inside ≠ 1 := fun one => last caller drains one
      show 0 < fair.inside - 1
      omega

theorem enterExclusive_staged (staged : fair.Staged) : fair.enterExclusive.fair.Staged := by
  obtain ⟨absent, holding, draining⟩ := staged
  unfold enterExclusive
  split
  · split
    · next none => exact ⟨by simp, fun _ => none, by simp⟩
    · next some => exact ⟨by simp, by simp, fun _ _ => Nat.pos_of_ne_zero some⟩
  · next some => exact ⟨fun none => absurd none some, holding, draining⟩

theorem tryEnterExclusive_staged (staged : fair.Staged) : fair.tryEnterExclusive.fair.Staged := by
  unfold tryEnterExclusive
  split
  · split
    · next none => exact ⟨by simp, fun _ => none, by simp⟩
    · exact staged
  · exact staged

theorem tryEnterShared_staged (staged : fair.Staged) : fair.tryEnterShared.fair.Staged := by
  have entered := enterShared_staged staged
  unfold enterShared at entered
  unfold tryEnterShared
  split
  · next none => simpa only [none] using entered
  · exact staged

theorem leaveExclusive_staged (staged : fair.Staged) (holds : fair.writer = .holding) :
    fair.leaveExclusive.fair.Staged := by
  have nobody := staged.holding holds
  unfold leaveExclusive
  cases writers : fair.writers with
  | nil => exact ⟨fun _ => ⟨rfl, rfl⟩, by simp, by simp⟩
  | cons writer rest =>
      cases readers : fair.readers with
      | nil => exact ⟨by simp [holds], fun _ => nobody, by simp [holds]⟩
      | cons reader more => exact ⟨by simp, by simp, fun _ _ => Nat.succ_pos _⟩

theorem handle_staged (staged : fair.Staged) (holds : fair.Holds request) :
    (fair.handle request).fair.Staged := by
  match request with
  | .enter .shared => exact enterShared_staged staged
  | .tryEnter .shared => exact tryEnterShared_staged staged
  | .leave .shared => exact leaveShared_staged staged holds
  | .enter .exclusive => exact enterExclusive_staged staged
  | .tryEnter .exclusive => exact tryEnterExclusive_staged staged
  | .leave .exclusive => exact leaveExclusive_staged staged holds

theorem Sane.nodup_newcomer (sane : fair.Sane) : (fair.waiting ++ [fair.calls]).Nodup := by
  refine List.nodup_append.mpr ⟨sane.distinct, List.nodup_singleton _, ?_⟩
  intro me member other last same
  obtain rfl := List.mem_singleton.mp last
  exact Nat.lt_irrefl _ (same ▸ sane.earlier me member)

theorem Sane.nodup_placed (sane : fair.Sane) (places : outcome.Places fair) :
    (outcome.released.map Prod.fst ++ outcome.fair.waiting).Nodup := by
  refine places.nodup_iff.mpr ?_
  split
  · exact sane.nodup_newcomer
  · simpa using sane.distinct

theorem Sane.serve (sane : fair.Sane) (holds : fair.Holds request) :
    (fair.serve request).fair.Sane := by
  have places := handle_places sane.toStaged holds
  have placed := List.nodup_append.mp (sane.nodup_placed places)
  obtain ⟨absent, holding, draining⟩ := handle_staged sane.toStaged holds
  refine ⟨⟨absent, holding, draining⟩, placed.2.1, ?_⟩
  intro me member
  have listed := places.subset (List.mem_append_right _ member)
  rcases List.mem_append.mp listed with waited | new
  · exact Nat.lt_succ_of_lt (sane.earlier me waited)
  · split at new
    · rw [List.mem_singleton.mp new]
      exact Nat.lt_succ_self _
    · cases new

end PhaseFair

end Turnstile.Lock.Sharing
