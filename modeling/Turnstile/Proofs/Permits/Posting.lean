import Turnstile.Proofs.Permits.Interchange

/-!
# Posting many permits is posting them one by one

A semaphore asks its counter for less than the counter can do: a post of one permit wakes
one caller, and a post of many wakes everybody. So where everybody rests, nobody waits
beside a permit, which is `Tally.Heeded`. A release of many then wakes the whole line, and
those that find nothing go back into it; as many releases of one wake one caller each. Both
come to `Tally.posted`.
-/

namespace Turnstile.Permits

set_option autoImplicit false

variable {backend : Backend} {reading : Reading backend} {checked : Bool} {tally : Tally}
  {initial permits : UInt64} {count released : Nat} {me : ThreadId}
  {start before last : World backend.Shared backend.Point}

/-! ## Numbers -/

namespace Tally

/-- Nobody waits beside a permit. -/
def Heeded (tally : Tally) : Prop := tally.permits = 0 ∨ tally.waiting = 0

/-- So many permits more, as many of which as callers waited went to them. -/
def posted (count : Nat) (tally : Tally) : Tally :=
  ⟨.ofNat (tally.permits.toNat + count - min tally.waiting count),
    tally.waiting - min tally.waiting count⟩

theorem toNat_permits_posted (fits : tally.permits.toNat + count < UInt64.size) :
    (tally.posted count).permits.toNat = tally.permits.toNat + count - min tally.waiting count :=
  UInt64.toNat_ofNat_of_lt' (Nat.lt_of_le_of_lt (Nat.sub_le _ _) fits)

theorem posted_zero (tally : Tally) : tally.posted 0 = tally := by
  simp [posted]

theorem toNat_eq_zero_of_heeded (heeded : tally.Heeded) :
    tally.permits.toNat = 0 ∨ tally.waiting = 0 := by
  refine heeded.imp ?_ id
  intro none
  rw [none, UInt64.toNat_zero]

theorem Heeded.posted (heeded : tally.Heeded) (count : Nat) : (tally.posted count).Heeded := by
  rcases Nat.le_total tally.waiting count with enough | few
  · right
    simp [Tally.posted, Nat.min_eq_left enough]
  · rcases toNat_eq_zero_of_heeded heeded with none | nobody
    · left
      simp [Tally.posted, none, Nat.min_eq_right few]
    · right
      simp [Tally.posted, nobody]

theorem posted_succ (heeded : tally.Heeded)
    (fits : tally.permits.toNat + (count + 1) < UInt64.size) :
    (tally.posted count).posted 1 = tally.posted (count + 1) := by
  have before : (tally.posted count).permits.toNat =
      tally.permits.toNat + count - min tally.waiting count := toNat_permits_posted (by omega)
  have none := toNat_eq_zero_of_heeded heeded
  have sum : (tally.posted count).permits.toNat + 1 - min (tally.posted count).waiting 1 =
      tally.permits.toNat + (count + 1) - min tally.waiting (count + 1) := by
    rw [before]
    simp only [posted]
    omega
  have left : (tally.posted count).waiting - min (tally.posted count).waiting 1 =
      tally.waiting - min tally.waiting (count + 1) := by
    simp only [posted]
    omega
  rw [posted, sum, left, ← posted]

theorem released_succ (tally : Tally) (count : Nat) :
    min tally.waiting count + min (tally.posted count).waiting 1 =
      min tally.waiting (count + 1) := by
  simp only [posted]
  omega

theorem release_all (heeded : tally.Heeded)
    (fits : tally.permits.toNat + permits.toNat < UInt64.size) :
    tally.release permits .all =
      ⟨some .released, .replicate (min tally.waiting permits.toNat) .taken,
        tally.posted permits.toNat⟩ := by
  have sum := Semaphore.toNat_permits_add tally.permits permits fits
  have taken : min tally.waiting (tally.permits.toNat + permits.toNat) =
      min tally.waiting permits.toNat := by
    rcases toNat_eq_zero_of_heeded heeded with none | nobody
    · rw [none, Nat.zero_add]
    · rw [nobody, Nat.zero_min, Nat.zero_min]
  simp only [release, posted, Wake.woken, sum, taken]

theorem release_one (heeded : tally.Heeded) (fits : tally.permits.toNat + 1 < UInt64.size) :
    tally.release 1 .one =
      ⟨some .released, .replicate (min tally.waiting 1) .taken, tally.posted 1⟩ := by
  by_cases nobody : tally.waiting = 0
  · have sum := Semaphore.toNat_permits_add tally.permits 1 fits
    rw [UInt64.toNat_one] at sum
    rw [release_of_nobody nobody]
    simp only [posted, nobody, Nat.zero_min, List.replicate_zero, Nat.sub_zero, ← sum,
      UInt64.ofNat_toNat]
  · have none : tally.permits = 0 := heeded.resolve_right nobody
    have one : min tally.waiting 1 = 1 := Nat.min_eq_right (Nat.pos_of_ne_zero nobody)
    rw [release_of_none none nobody]
    simp [posted, none, one]

theorem Heeded.release_one (heeded : tally.Heeded) : (tally.release 1 .one).tally.Heeded := by
  by_cases nobody : tally.waiting = 0
  · rw [release_of_nobody nobody]
    exact .inr nobody
  · have none : tally.permits = 0 := heeded.resolve_right nobody
    rw [release_of_none none nobody]
    exact .inl none

theorem heeded_release_all (permits : UInt64) (tally : Tally) :
    (tally.release permits .all).tally.Heeded := by
  rcases Nat.le_total tally.waiting (tally.permits + permits).toNat with enough | few
  · right
    simp only [release, Wake.woken, Nat.min_eq_left enough, Nat.sub_self]
  · left
    simp only [release, Wake.woken, Nat.min_eq_right few, Nat.sub_self]
    rfl

theorem Heeded.look (heeded : tally.Heeded) : tally.look.2.Heeded := by
  by_cases none : tally.permits = 0
  · rw [look_of_none none]
    exact heeded
  · rw [look_of_some none]
    exact .inr (heeded.resolve_left none)

end Tally

/-! ## The calls of a semaphore -/

/-- What a call of a semaphore asks its counter for, if it asks for anything. -/
def SemaphoreCall.request? : SemaphoreCall → Option Request
  | post => some (.release 1 .one)
  | postMany permits => if permits = 0 then none else some (.release permits .all)
  | wait => some (.acquire false)
  | tryWait => some .tryAcquire
  | waitUntil => some (.acquire true)

theorem SemaphoreCall.start_eq (backend : Backend) (call : SemaphoreCall) :
    call.start backend =
      (call.request?.map backend.start).getD (backend.returned .released) := by
  cases call with
  | postMany permits =>
      by_cases none : permits = 0
      · simp [start, request?, none]
      · simp [start, request?, none]
  | _ => rfl

theorem Tally.Heeded.handle {call : SemaphoreCall} {request : Request} (heeded : tally.Heeded)
    (asks : call.request? = some request) (checked : Bool) :
    (tally.handle checked (.call request)).tally.Heeded := by
  have acquires (timed : Bool) : (tally.handle checked (.call (.acquire timed))).tally.Heeded := by
    by_cases none : tally.permits = 0
    · rw [Tally.handle, if_pos none]
      exact .inl none
    · rw [Tally.handle, if_neg none]
      exact heeded.look
  have releases {permits : UInt64} {wake : Wake}
      (after : (tally.release permits wake).tally.Heeded) :
      (tally.handle checked (.call (.release permits wake))).tally.Heeded := by
    by_cases breaks : checked = true ∧ tally.Exceeds permits
    · rw [Tally.handle, if_pos breaks]
      exact heeded
    · rw [Tally.handle, if_neg breaks]
      exact after
  cases call with
  | post =>
      cases asks
      exact releases heeded.release_one
  | postMany permits =>
      simp only [SemaphoreCall.request?] at asks
      split at asks
      · cases asks
      · cases asks
        exact releases (heeded_release_all permits tally)
  | wait =>
      cases asks
      exact acquires false
  | waitUntil =>
      cases asks
      exact acquires true
  | tryWait =>
      cases asks
      exact heeded.look

theorem Tally.Heeded.lapse (heeded : tally.Heeded) (checked : Bool) :
    (tally.handle checked .lapse).tally.Heeded := by
  rcases heeded.look with none | nobody
  · exact .inl none
  · rw [Tally.waiting_look] at nobody
    right
    simp [Tally.handle, nobody]

/-- Where everybody rests after any calls of a semaphore, made one at a time. Timed waits have
ended at once, or some time later. -/
inductive Used (backend : Backend) (initial : UInt64) :
    World backend.Shared backend.Point → Prop where
  | opened : Used backend initial ⟨backend.ofPermits initial, []⟩
  | call {before last : World backend.Shared backend.Point} (call : SemaphoreCall)
      (earlier : Used backend initial before)
      (settles : (before.spawn (call.start backend)).Settles backend.machine last) :
      Used backend initial last
  | callBriefly {before last : World backend.Shared backend.Point} {me : ThreadId}
      (earlier : Used backend initial before)
      (served : Served backend before .callBriefly me last) :
      Used backend initial last
  | lapse {before last : World backend.Shared backend.Point} {me : ThreadId}
      (earlier : Used backend initial before) (served : Served backend before .lapse me last) :
      Used backend initial last

/-- So many posts of one permit, each followed until everybody rests, and how many callers they
have released. -/
inductive Posts (backend : Backend) (start : World backend.Shared backend.Point) :
    Nat → Nat → World backend.Shared backend.Point → Prop where
  | none : Posts backend start 0 0 start
  | next {count released : Nat} {before last : World backend.Shared backend.Point}
      (earlier : Posts backend start count released before)
      (settles : (before.spawn (SemaphoreCall.post.start backend)).Settles backend.machine last) :
      Posts backend start (count + 1)
        (released +
          (before.report backend.machine last before.threads.length).released.length) last

namespace Resting

theorem nothing (resting : Resting reading tally before) (prompt : Prompt reading checked)
    {call : SemaphoreCall} (asks : call.request? = none) :
    (before.spawn (call.start backend)).Quiet backend.machine ∧
      Resting reading tally (before.spawn (call.start backend)) ∧
        (before.spawn (call.start backend)).threads =
          before.threads ++ [backend.returned .released] := by
  have starts : call.start backend = backend.returned .released := by
    rw [call.start_eq, asks]
    rfl
  have returned := reading.returned .released
  have upholds := reading.called before.shared before.threads call resting.upholds
  have stands : reading.standings (before.spawn (call.start backend)) =
      reading.standings before ++ [.done .released] := by
    rw [Reading.standings, World.spawn, List.map_append, List.map_singleton, starts, returned]
    rfl
  have rested : Rested (reading.standings (before.spawn (call.start backend)))
      (reading.counter before.shared) := by
    rw [stands]
    refine ⟨resting.rested.lined.append _, fun me standing found => ?_⟩
    rcases World.found_or_eq_of_append found with found | rfl
    · exact resting.rested.rests me standing found
    · exact .inl ⟨.released, rfl⟩
  refine ⟨?_, ⟨upholds, rested, resting.permits, resting.waiting⟩, by rw [World.spawn, starts]⟩
  apply World.quiet_of_still
  intro me point found
  have here : (reading.standings (before.spawn (call.start backend)))[me]? =
      some (reading.standing point) := by
    rw [Reading.standings, List.getElem?_map, found]
    rfl
  rcases rested.rests me _ here with ⟨answer, done⟩ | ⟨timed, asleep, member⟩
  · exact prompt.returned me point _ answer done
  · exact prompt.sleeps me point _ timed asleep member

theorem asked {call : SemaphoreCall} {request : Request} (asks : call.request? = some request)
    (settles : (before.spawn (call.start backend)).Settles backend.machine last) :
    Served backend before (.call request) before.threads.length last := by
  have starts : call.start backend = backend.start request := by
    rw [call.start_eq, asks]
    rfl
  rw [starts] at settles
  exact .call settles

theorem calls_settle (resting : Resting reading tally before) (prompt : Prompt reading checked)
    (call : SemaphoreCall) : ∃ last,
      (before.spawn (call.start backend)).Settles backend.machine last := by
  cases asks : call.request? with
  | none => exact ⟨_, .refl, (resting.nothing prompt asks).1⟩
  | some request =>
      have starts : call.start backend = backend.start request := by
        rw [call.start_eq, asks]
        rfl
      rw [starts]
      cases (resting.runs prompt).call request with
      | call settles => exact ⟨_, settles⟩

theorem post (resting : Resting reading tally before) (prompt : Prompt reading checked)
    (heeded : tally.Heeded) (fits : tally.permits.toNat + 1 < UInt64.size)
    (settles : (before.spawn (SemaphoreCall.post.start backend)).Settles backend.machine last) :
    Resting reading (tally.posted 1) last ∧
      (before.report backend.machine last before.threads.length).released.length =
        min tally.waiting 1 := by
  obtain ⟨after, agrees⟩ := resting.serve prompt (asked rfl settles)
  have within : (Event.call (.release 1 .one)).Fits tally.permits := fits
  rw [Tally.handle_of_fits within, Tally.handle_release, Tally.release_one heeded fits]
    at after agrees
  refine ⟨after, ?_⟩
  have released := congrArg List.length agrees.released
  rwa [List.length_map, List.length_replicate] at released

theorem postMany (resting : Resting reading tally before) (prompt : Prompt reading checked)
    (heeded : tally.Heeded) (fits : tally.permits.toNat + permits.toNat < UInt64.size)
    (settles : (before.spawn ((SemaphoreCall.postMany permits).start backend)).Settles
      backend.machine last) :
    Resting reading (tally.posted permits.toNat) last ∧
      (before.report backend.machine last before.threads.length).released.length =
        min tally.waiting permits.toNat := by
  by_cases none : permits = 0
  · have asks : (SemaphoreCall.postMany permits).request? = Option.none := if_pos none
    obtain ⟨quiet, after, threads⟩ := resting.nothing prompt asks
    have same : last = before.spawn ((SemaphoreCall.postMany permits).start backend) :=
      (World.Surely.of_quiet quiet rfl last settles).symm
    rw [← same] at after threads
    rw [none, UInt64.toNat_zero, Tally.posted_zero, Nat.min_zero]
    refine ⟨after, ?_⟩
    have later : before.Later backend.machine last := by
      refine ⟨by rw [threads, List.length_append]; exact Nat.le_add_right _ _, ?_⟩
      intro me answer given
      rw [World.answer?, Option.bind_eq_some_iff] at given ⊢
      obtain ⟨point, found, given⟩ := given
      exact ⟨point, by rw [threads]; exact World.found_append found, given⟩
    have count := World.length_report_released before.threads.length later
    rw [after.unanswered, resting.unanswered, threads, List.drop_left, World.unanswered,
      List.countP_singleton, reading.answers, reading.returned] at count
    have given : (Standing.done .released).answer? = some .released := rfl
    simp only [given, Option.isNone_some, Bool.false_eq_true, if_false] at count
    omega
  · have asks : (SemaphoreCall.postMany permits).request? = some (.release permits .all) :=
      if_neg none
    obtain ⟨after, agrees⟩ := resting.serve prompt (asked asks settles)
    have within : (Event.call (.release permits .all)).Fits tally.permits := fits
    rw [Tally.handle_of_fits within, Tally.handle_release, Tally.release_all heeded fits]
      at after agrees
    refine ⟨after, ?_⟩
    have released := congrArg List.length agrees.released
    rwa [List.length_map, List.length_replicate] at released

end Resting

theorem Used.heeded (used : Used backend initial last) (prompt : Prompt reading checked) :
    ∃ tally, Resting reading tally last ∧ tally.Heeded := by
  induction used with
  | opened => exact ⟨_, .opened reading initial, .inr rfl⟩
  | @call before last call earlier settles ih =>
      obtain ⟨tally, resting, heeded⟩ := ih
      cases asks : call.request? with
      | none =>
          obtain ⟨quiet, after, _⟩ := resting.nothing prompt asks
          have same : last = before.spawn (call.start backend) :=
            (World.Surely.of_quiet quiet rfl last settles).symm
          exact ⟨tally, same ▸ after, heeded⟩
      | some request =>
          exact ⟨_, (resting.serve prompt (Resting.asked asks settles)).1,
            heeded.handle asks checked⟩
  | callBriefly earlier served ih =>
      obtain ⟨tally, resting, heeded⟩ := ih
      exact ⟨_, (resting.serve prompt served).1, heeded.look⟩
  | lapse earlier served ih =>
      obtain ⟨tally, resting, heeded⟩ := ih
      exact ⟨_, (resting.serve prompt served).1, heeded.lapse checked⟩

theorem Posts.resting (posts : Posts backend start count released last)
    (prompt : Prompt reading checked) (resting : Resting reading tally start)
    (heeded : tally.Heeded) (fits : tally.permits.toNat + count < UInt64.size) :
    Resting reading (tally.posted count) last ∧ released = min tally.waiting count := by
  induction posts with
  | none => exact ⟨by rwa [Tally.posted_zero], (Nat.min_zero _).symm⟩
  | @next count released before last earlier settles ih =>
      obtain ⟨before, sum⟩ := ih (by omega)
      have room : (tally.posted count).permits.toNat + 1 < UInt64.size := by
        rw [Tally.toNat_permits_posted (by omega)]
        omega
      obtain ⟨after, one⟩ := before.post prompt (heeded.posted count) room settles
      rw [Tally.posted_succ heeded fits] at after
      rw [one, sum, Tally.released_succ]
      exact ⟨after, rfl⟩

theorem Posts.exists (resting : Resting reading tally start) (prompt : Prompt reading checked)
    (heeded : tally.Heeded) (fits : tally.permits.toNat + count < UInt64.size) :
    ∃ released last, Posts backend start count released last := by
  induction count with
  | zero => exact ⟨0, start, .none⟩
  | succ count ih =>
      obtain ⟨released, before, posts⟩ := ih (by omega)
      obtain ⟨rests, _⟩ := posts.resting prompt resting heeded (by omega)
      obtain ⟨last, settles⟩ := rests.calls_settle prompt .post
      exact ⟨_, last, .next posts settles⟩

/-- At either counter, after any calls of a semaphore made one at a time, and for every number of
permits that the count has room for: one post of so many permits and as many posts of one, in
whatever order the callers act after each, come to the same count, have released the same number of
callers, and leave the same number waiting. As many are released as wait, or as there are permits
posted, whichever is less. All these calls come to rest. -/
theorem postMany_eq_posts (name : String) (backend : Backend)
    (named : Backend.ofName? name = some backend) (initial : UInt64)
    (world : World backend.Shared backend.Point) (used : Used backend initial world)
    (permits : UInt64)
    (fits : (backend.count world.shared).toNat + permits.toNat < UInt64.size) :
    (∀ (many few : World backend.Shared backend.Point) (released : Nat),
      (world.spawn ((SemaphoreCall.postMany permits).start backend)).Settles backend.machine many →
      Posts backend world permits.toNat released few →
        backend.count many.shared = backend.count few.shared ∧
        (world.report backend.machine many world.threads.length).released.length = released ∧
        World.unanswered backend.machine many.threads =
          World.unanswered backend.machine few.threads ∧
        released = min (World.unanswered backend.machine world.threads) permits.toNat ∧
        (backend.count few.shared).toNat + released =
          (backend.count world.shared).toNat + permits.toNat ∧
        World.unanswered backend.machine few.threads + released =
          World.unanswered backend.machine world.threads) ∧
    (∃ many, (world.spawn ((SemaphoreCall.postMany permits).start backend)).Settles
      backend.machine many) ∧
    ∃ released few, Posts backend world permits.toNat released few := by
  obtain ⟨reading, checked, prompt⟩ := exists_prompt named
  obtain ⟨tally, resting, heeded⟩ := used.heeded prompt
  rw [resting.permits] at fits ⊢
  refine ⟨?_, resting.calls_settle prompt _, Posts.exists resting prompt heeded fits⟩
  intro many few released settles posts
  obtain ⟨afterMany, releasedMany⟩ := resting.postMany prompt heeded fits settles
  obtain ⟨afterFew, sum⟩ := posts.resting prompt resting heeded fits
  have count := Tally.toNat_permits_posted fits
  rw [afterMany.permits, afterFew.permits, afterMany.unanswered, afterFew.unanswered,
    resting.unanswered, releasedMany, count, sum]
  refine ⟨rfl, rfl, rfl, rfl, ?_, ?_⟩
  · omega
  · simp only [Tally.posted]
    omega

/-- Two callers wait, the second for a limited time. -/
def awaited : World Backend.parking.Shared Backend.parking.Point :=
  ⟨⟨0, 2, [0, 1]⟩, [.parked false, .parked true]⟩

private theorem used_awaited : Used .parking 0 awaited := by
  have first : Used .parking 0 ⟨⟨0, 1, [0]⟩, [.parked false]⟩ := by
    refine .call .wait .opened ⟨?_, World.quiet_of_still ?_⟩
    · exact ((Relation.ReflTransGen.single ⟨0, rfl⟩).tail ⟨0, rfl⟩).tail ⟨0, rfl⟩
    · intro me point found
      match me with
      | 0 => cases found; rfl
  refine .call .waitUntil first ⟨?_, World.quiet_of_still ?_⟩
  · exact ((Relation.ReflTransGen.single ⟨1, rfl⟩).tail ⟨1, rfl⟩).tail ⟨1, rfl⟩
  · intro me point found
    match me with
    | 0 | 1 => cases found; rfl

/-- Three permits let both callers go and leave one, whether they come at once or one by one. -/
theorem awaited_by_two_leaves_one :
    (∃ many, (awaited.spawn ((SemaphoreCall.postMany 3).start .parking)).Settles
        Backend.parking.machine many ∧
      Backend.parking.count many.shared = 1 ∧
      World.unanswered Backend.parking.machine many.threads = 0) ∧
    ∃ few, Posts .parking awaited 3 2 few ∧ Backend.parking.count few.shared = 1 := by
  obtain ⟨alike, ⟨many, settles⟩, released, few, posts⟩ :=
    postMany_eq_posts "futex" .parking rfl 0 awaited used_awaited 3 (by decide)
  obtain ⟨same, _, left, taken, count, waiting⟩ := alike many few released settles posts
  have two : World.unanswered Backend.parking.machine awaited.threads = 2 := rfl
  have none : (Backend.parking.count awaited.shared).toNat = 0 := rfl
  have three : (3 : UInt64).toNat = 3 := rfl
  rw [two, three] at taken
  obtain rfl : released = 2 := taken
  rw [none, three] at count
  have one : Backend.parking.count few.shared = 1 := UInt64.toNat_inj.mp (by
    show _ = 1
    omega)
  refine ⟨⟨many, settles, same.trans one, ?_⟩, few, posts, one⟩
  omega

end Turnstile.Permits
