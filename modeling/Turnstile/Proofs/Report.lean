import Mathlib.Data.List.Nodup
import Turnstile.Machine

/-!
# What is seen of a call

A call that came to rest has added one thread, and some of the earlier ones have gone
from where they waited to an answer. `Ends` says which, and then the report of the call
lists the same callers with the same answers; the callers that wait after it are those
without one.
-/

namespace Turnstile

set_option autoImplicit false

/-- What is seen of a call if less is seen of its answers. -/
def Report.map {ρ ρ' : Type} (strip : ρ → ρ') (report : Report ρ) : Report ρ' where
  answer := report.answer.map strip
  released := report.released.map fun (me, answer) => (me, strip answer)
  waiting := report.waiting

namespace World

variable {σ π ρ : Type} {machine : Machine σ π ρ} {finish : ρ → π}
  {before after : World σ π} {released : List (ThreadId × ρ)} {threads : List π}
  {point : π} {answer : ρ} {given : Option ρ} {me : ThreadId}

/-- The threads once those that were released have returned. -/
def settled (finish : ρ → π) (released : List (ThreadId × ρ)) (threads : List π) : List π :=
  threads.mapIdx fun me point => ((released.lookup me).map finish).getD point

theorem length_settled : (settled finish released threads).length = threads.length :=
  List.length_mapIdx

theorem found_settled_of_released (once : (released.map Prod.fst).Nodup)
    (member : (me, answer) ∈ released) (found : threads[me]? = some point) :
    (settled finish released threads)[me]? = some (finish answer) := by
  have looked : released.lookup me = some answer := by
    obtain ⟨front, rest, rfl⟩ := List.append_of_mem member
    rw [List.map_append, List.map_cons, List.nodup_append] at once
    obtain ⟨_, _, apart⟩ := once
    refine List.lookup_eq_some_iff.mpr ⟨front, rest, rfl, ?_⟩
    intro other earlier
    simpa using (apart _ (List.mem_map_of_mem earlier) me (by simp)).symm
  rw [settled, List.getElem?_mapIdx, found, Option.map_some, looked]
  rfl

theorem found_settled_of_not_released (stays : me ∉ released.map Prod.fst) :
    (settled finish released threads)[me]? = threads[me]? := by
  have looked : released.lookup me = none := by
    rw [List.lookup_eq_none_iff]
    intro other member
    simp only [bne_iff_ne, ne_eq]
    exact fun same => stays (same ▸ List.mem_map_of_mem member)
  rw [settled, List.getElem?_mapIdx, looked]
  simp

theorem settled_singleton : settled finish [(me, answer)] threads = threads.set me (finish answer) := by
  apply List.ext_getElem?
  intro other
  by_cases same : me = other
  · subst same
    rw [settled, List.getElem?_mapIdx, List.getElem?_set_self', List.lookup_cons_self]
    rfl
  · rw [found_settled_of_not_released (by simpa using Ne.symm same), List.getElem?_set_ne same]

theorem settled_nil : settled finish [] threads = threads := by
  apply List.ext_getElem?
  intro me
  exact found_settled_of_not_released (by simp)

theorem pairwise_zipIdx (threads : List π) :
    threads.zipIdx.Pairwise fun first second => first.2 < second.2 := by
  rw [← List.pairwise_map (f := Prod.snd) (R := (· < ·)), List.zipIdx_map_snd]
  exact List.pairwise_lt_range' 1

theorem nodup_filterMap_zipIdx {κ τ : Type} (seen : List κ) (pick : κ × Nat → Option τ)
    (key : τ → Nat) (keeps : ∀ entry picked, pick entry = some picked → key picked = entry.2) :
    (seen.zipIdx.filterMap pick).Nodup := by
  rw [List.Nodup, List.pairwise_filterMap]
  refine (pairwise_zipIdx seen).imp ?_
  intro first second earlier one foundOne other foundOther same
  have left := keeps first one foundOne
  have right := keeps second other foundOther
  rw [same] at left
  omega

theorem mem_report_waiting : me ∈ (before.report machine after before.threads.length).waiting ↔
    ∃ point, after.threads[me]? = some point ∧ machine.answer? point = none := by
  simp only [report, List.mem_filterMap, Prod.exists, List.mem_zipIdx_iff_getElem?]
  constructor
  · rintro ⟨point, other, found, same⟩
    split at same
    · next none =>
      cases same
      exact ⟨point, found, by simpa using none⟩
    · cases same
  · rintro ⟨point, found, none⟩
    exact ⟨point, me, found, by simp [none]⟩

theorem report_waiting_perm {waiting : List ThreadId} (distinct : waiting.Nodup)
    (waits : ∀ me, me ∈ waiting ↔
      ∃ point, after.threads[me]? = some point ∧ machine.answer? point = none) :
    (before.report machine after before.threads.length).waiting.Perm waiting := by
  refine (List.perm_ext_iff_of_nodup ?_ distinct).mpr fun me => mem_report_waiting.trans (waits me).symm
  refine nodup_filterMap_zipIdx _ _ id ?_
  rintro ⟨point, other⟩ picked same
  simp only at same
  split at same
  · cases same
    rfl
  · cases same

theorem mem_report_released :
    (me, answer) ∈ (before.report machine after before.threads.length).released ↔
      ∃ old new, before.threads[me]? = some old ∧ after.threads[me]? = some new ∧
        machine.answer? old = none ∧ machine.answer? new = some answer := by
  simp only [report, List.mem_filterMap, Prod.exists, List.mem_zipIdx_iff_getElem?,
    List.getElem?_zip_eq_some]
  constructor
  · rintro ⟨old, new, other, ⟨foundOld, foundNew⟩, same⟩
    split at same
    · next none some =>
      cases same
      exact ⟨old, new, foundOld, foundNew, none, some⟩
    · cases same
  · rintro ⟨old, new, foundOld, foundNew, none, some⟩
    exact ⟨old, new, me, ⟨foundOld, foundNew⟩, by simp [none, some]⟩

/-- A call came to rest with an answer, or with none, and just the callers in `released`,
which had waited, have returned with it. -/
structure Ends (machine : Machine σ π ρ) (released : List (ThreadId × ρ)) (answer : Option ρ)
    (before after : World σ π) : Prop where
  length : after.threads.length = before.threads.length + 1
  new : after.answer? machine before.threads.length = answer
  returns : ∀ me answer, (me, answer) ∈ released → me < before.threads.length ∧
    before.answer? machine me = none ∧ after.answer? machine me = some answer
  others : ∀ me, me < before.threads.length → me ∉ released.map Prod.fst →
    after.answer? machine me = before.answer? machine me
  once : (released.map Prod.fst).Nodup

namespace Ends

theorem of_threads (finishes : ∀ answer, machine.answer? (finish answer) = some answer)
    (threads : after.threads = settled finish released before.threads ++ [point])
    (waited : ∀ me answer, (me, answer) ∈ released →
      ∃ old, before.threads[me]? = some old ∧ machine.answer? old = none)
    (once : (released.map Prod.fst).Nodup) :
    Ends machine released (machine.answer? point) before after := by
  have old : ∀ me, me < before.threads.length →
      after.threads[me]? = (settled finish released before.threads)[me]? := by
    intro me bound
    rw [threads, List.getElem?_append_left (by rwa [length_settled])]
  refine ⟨?_, ?_, ?_, ?_, once⟩
  · rw [threads, List.length_append, length_settled]
    rfl
  · rw [answer?, threads, List.getElem?_append_right (by simp [length_settled]), length_settled,
      Nat.sub_self]
    rfl
  · intro me answer member
    obtain ⟨there, found, waits⟩ := waited me answer member
    obtain ⟨bound, _⟩ := List.getElem?_eq_some_iff.mp found
    refine ⟨bound, by rw [answer?, found]; exact waits, ?_⟩
    rw [answer?, old me bound, found_settled_of_released once member found]
    exact finishes answer
  · intro me bound stays
    rw [answer?, old me bound, found_settled_of_not_released stays]
    rfl

theorem report_answer (ends : Ends machine released given before after) :
    (before.report machine after before.threads.length).answer = given := ends.new

theorem report_released (ends : Ends machine released given before after) :
    (before.report machine after before.threads.length).released.Perm released := by
  refine (List.perm_ext_iff_of_nodup ?_ (List.Nodup.of_map _ ends.once)).mpr ?_
  · refine nodup_filterMap_zipIdx _ _ Prod.fst ?_
    rintro ⟨⟨old, new⟩, other⟩ picked same
    simp only at same
    split at same
    · cases same
      rfl
    · cases same
  · rintro ⟨me, answer⟩
    rw [mem_report_released]
    constructor
    · rintro ⟨old, new, foundOld, foundNew, none, some⟩
      obtain ⟨bound, _⟩ := List.getElem?_eq_some_iff.mp foundOld
      have before : before.answer? machine me = Option.none := by rwa [answer?, foundOld]
      have after : after.answer? machine me = Option.some answer := by rwa [answer?, foundNew]
      by_cases member : me ∈ released.map Prod.fst
      · obtain ⟨⟨who, other⟩, listed, same⟩ := List.mem_map.mp member
        obtain rfl : who = me := same
        obtain ⟨_, _, given⟩ := ends.returns who other listed
        rw [after] at given
        cases given
        exact listed
      · rw [ends.others me bound member, before] at after
        cases after
    · intro member
      obtain ⟨bound, waits, given⟩ := ends.returns me answer member
      have there := List.getElem?_eq_getElem bound
      rw [answer?, there] at waits
      rw [answer?, Option.bind_eq_some_iff] at given
      obtain ⟨new, foundNew, answered⟩ := given
      exact ⟨_, new, there, foundNew, waits, answered⟩

end Ends

theorem report_map {σ' π' ρ' : Type} {other : Machine σ' π' ρ'} {plain : π → π'} {strip : ρ → ρ'}
    {start last : World σ' π'} (starts : start.threads = before.threads.map plain)
    (ends : last.threads = after.threads.map plain)
    (alike : ∀ point, point ∈ before.threads ∨ point ∈ after.threads →
      other.answer? (plain point) = (machine.answer? point).map strip) :
    start.report other last me = (before.report machine after me).map strip := by
  simp only [report, Report.map, answer?, starts, ends, Report.mk.injEq]
  refine ⟨?_, ?_, ?_⟩
  · rw [List.getElem?_map]
    cases found : after.threads[me]? with
    | none => rfl
    | some point => exact alike point (.inr (List.mem_of_getElem? found))
  · rw [List.zip_map, List.zipIdx_map, List.filterMap_map, List.map_filterMap]
    refine List.filterMap_congr ?_
    rintro ⟨⟨old, new⟩, me⟩ member
    have both := List.of_mem_zip (List.fst_mem_of_mem_zipIdx member)
    simp only [Function.comp_apply, Prod.map_apply, id_eq, alike old (.inl both.1),
      alike new (.inr both.2)]
    cases machine.answer? old <;> cases machine.answer? new <;> rfl
  · rw [List.zipIdx_map, List.filterMap_map]
    refine List.filterMap_congr ?_
    rintro ⟨point, me⟩ member
    simp only [Function.comp_apply, Prod.map_apply, id_eq,
      alike point (.inr (List.fst_mem_of_mem_zipIdx member)), Option.isNone_map]

/-! ## How many return -/

def unanswered (machine : Machine σ π ρ) (threads : List π) : Nat :=
  threads.countP fun point => (machine.answer? point).isNone

theorem length_report_waiting :
    (before.report machine after me).waiting.length = unanswered machine after.threads := by
  rw [report, List.length_filterMap_eq_countP]
  conv_rhs => rw [unanswered, ← List.zipIdx_map_fst 0 after.threads, List.countP_map]
  refine List.countP_congr ?_
  rintro ⟨point, other⟩ _
  cases waits : machine.answer? point <;> simp [waits]

/-- Threads only come, and whoever has an answer keeps it. -/
structure Later (machine : Machine σ π ρ) (before after : World σ π) : Prop where
  length : before.threads.length ≤ after.threads.length
  keeps : ∀ me answer, before.answer? machine me = some answer → after.answer? machine me = some answer

private theorem countP_zip_returned {olds news : List π} (length : olds.length ≤ news.length)
    (keeps : ∀ (me : ThreadId) (old new : π), olds[me]? = some old → news[me]? = some new →
      (machine.answer? old).isSome → (machine.answer? new).isSome) :
    (olds.zip news).countP (fun pair => (machine.answer? pair.1).isNone && (machine.answer? pair.2).isSome) +
        unanswered machine news =
      unanswered machine olds + unanswered machine (news.drop olds.length) := by
  induction olds generalizing news with
  | nil => simp [unanswered]
  | cons old olds ih =>
      cases news with
      | nil => simp at length
      | cons new news =>
          have shorter : olds.length ≤ news.length := by simpa using length
          have rest := ih shorter fun me there here found there' =>
            keeps (me + 1) there here (by simpa using found) (by simpa using there')
          have first := keeps 0 old new rfl rfl
          simp only [unanswered, List.zip_cons_cons, List.countP_cons, List.length_cons,
            List.drop_succ_cons] at rest ⊢
          cases was : machine.answer? old <;> cases is : machine.answer? new
          · simp; omega
          · simp; omega
          · simp [was, is] at first
          · simp; omega

theorem length_report_released (me : ThreadId) (later : Later machine before after) :
    (before.report machine after me).released.length + unanswered machine after.threads =
      unanswered machine before.threads +
        unanswered machine (after.threads.drop before.threads.length) := by
  have returned : (before.report machine after me).released.length =
      (before.threads.zip after.threads).countP fun pair =>
        (machine.answer? pair.1).isNone && (machine.answer? pair.2).isSome := by
    rw [report, List.length_filterMap_eq_countP]
    conv_rhs => rw [← List.zipIdx_map_fst 0 (before.threads.zip after.threads), List.countP_map]
    refine List.countP_congr ?_
    rintro ⟨⟨old, new⟩, other⟩ _
    cases was : machine.answer? old <;> cases is : machine.answer? new <;> simp [was, is]
  rw [returned]
  refine countP_zip_returned later.length ?_
  intro me old new foundOld foundNew answered
  obtain ⟨answer, given⟩ := Option.isSome_iff_exists.mp answered
  have kept := later.keeps me answer (by rw [answer?, foundOld]; exact given)
  rw [answer?, foundNew] at kept
  exact Option.isSome_of_eq_some kept

theorem unanswered_newest (length : after.threads.length = before.threads.length + 1) :
    unanswered machine (after.threads.drop before.threads.length) =
      if after.answer? machine before.threads.length = none then 1 else 0 := by
  have bound : before.threads.length < after.threads.length := by omega
  rw [List.drop_eq_getElem_cons bound, List.drop_eq_nil_of_le (by omega), answer?,
    List.getElem?_eq_getElem bound, unanswered, List.countP_singleton]
  cases waits : machine.answer? after.threads[before.threads.length] <;> simp [waits]

end World

end Turnstile
