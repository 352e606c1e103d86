import Convergence.Proofs.Hangups

/-! Waits for an address that always answers. The statuses of the answers decide alone: the
first 200 ends the wait well, and a status that turns the client away ends it badly, unless it
is one that may pass. All others are waited out, whatever they would mean to another wait. -/
namespace Convergence

variable {σ : Type}

namespace Tolerance

variable {t : Tolerance} {code : Nat}

/-- A status is permanent if nothing says otherwise. -/
theorem ofStatus_permanent_iff (hcode : code ≤ 999) :
    t.ofStatus code.toUInt16 = .permanent ↔
      code ∉ [404, 408, 409, 429] ∧ ¬(500 ≤ code ∧ code < 600) ∧
        ∀ extra ∈ t.extra, extra.toNat ≠ code := by
  have hword : code.toUInt16.toNat = code := by
    simp only [Nat.toUInt16, UInt16.toNat_ofNat']
    omega
  have hextra : code.toUInt16 ∈ t.extra ↔ ∃ extra ∈ t.extra, extra.toNat = code := by
    constructor
    · intro hmem
      exact ⟨_, hmem, hword⟩
    · rintro ⟨extra, hmem, hsame⟩
      rwa [← UInt16.toNat_inj.mp (hsame.trans hword.symm)]
  have husual : code.toUInt16 ∈ usual ↔ code ∈ [404, 408, 409, 429] := by
    simp [usual, ← UInt16.toNat_inj, hword]
  have hserver : (500 ≤ code.toUInt16 ∧ code.toUInt16 < 600) ↔ 500 ≤ code ∧ code < 600 := by
    simp [UInt16.le_iff_toNat_le, UInt16.lt_iff_toNat_lt, hword]
  unfold ofStatus
  rw [ite_eq_right_iff, imp_iff_not (by simp)]
  simp only [Bool.or_eq_true, Bool.and_eq_true, decide_eq_true_eq, List.contains_iff_mem, husual,
    hserver, hextra, not_or, not_exists, not_and, ne_eq, and_assoc]

end Tolerance

namespace Probe

/-- A client error that does not pass by itself: the usual statuses that may pass are spared,
and those that were added. -/
def TurnsAway (p : Probe) (status : Nat) : Prop :=
  400 ≤ status ∧ status < 500 ∧ status ∉ [404, 408, 409, 429] ∧
    ∀ extra ∈ p.tolerance.extra, extra.toNat ≠ status

def LeavesOpen (p : Probe) (status : Nat) : Prop := status ≠ 200 ∧ ¬p.TurnsAway status

/-- The request of the tick after `i` others gets a whole answer, at the end of all moves. -/
structure Answered (p : Probe) (e : Setting Query Answer σ) (s : Scene σ) (i status : Nat)
    (body : String) : Prop where
  answer : ∃ a, p.answerAt e s i = .ok a ∧ a.status = status ∧ a.text = .ok body
  range : 100 ≤ status ∧ status ≤ 999

/-- What a whole answer is to the wait. -/
inductive Verdict (p : Probe) (status : Nat) (body : String) : Finding String → Prop
  | up : status = 200 → Verdict p status body (.met body)
  | away : status ≠ 200 → p.TurnsAway status →
    Verdict p status body (.fatal ("Returned wrong status code: " ++ toString status))
  | left : p.LeavesOpen status →
    Verdict p status body (.pending (some ("Returned wrong status code: " ++ toString status)))

/-- The wait makes a tick after `k` others, whose answers had these statuses. -/
structure ComesTo (p : Probe) (j : Job Query Answer String) (e : Setting Query Answer σ)
    (s : Scene σ) (status : Nat → Nat) (k : Nat) : Prop where
  within : k < j.plan.maxAttempts
  undecided : ∀ i < k, p.LeavesOpen (status i)
  live : j.stops e (j.sceneAt e s k) = false

variable {p : Probe} {status : Nat} {body : String}

theorem turnsAway_iff (hstatus : status ≤ 999) :
    p.TurnsAway status ↔
      isClientError status = true ∧ p.tolerance.ofStatus status.toUInt16 = .permanent := by
  rw [isClientError_iff, Tolerance.ofStatus_permanent_iff hstatus]
  unfold TurnsAway
  constructor
  · rintro ⟨hlow, hhigh, husual, hextra⟩
    exact ⟨⟨hlow, hhigh⟩, husual, by omega, hextra⟩
  · rintro ⟨⟨hlow, hhigh⟩, husual, -, hextra⟩
    exact ⟨hlow, hhigh, husual, hextra⟩

/-- Only a client error is judged like an error of other waits. -/
theorem leavesOpen_iff (hstatus : status ≤ 999) :
    p.LeavesOpen status ↔ status ≠ 200 ∧
      (status < 400 ∨ 500 ≤ status ∨ p.tolerance.ofStatus status.toUInt16 = .transient) := by
  have hclass : p.tolerance.ofStatus status.toUInt16 = .transient ↔
      p.tolerance.ofStatus status.toUInt16 ≠ .permanent := by
    cases p.tolerance.ofStatus status.toUInt16 <;> simp
  unfold LeavesOpen
  rw [turnsAway_iff hstatus, isClientError_iff, hclass, not_and_or, not_and_or, or_assoc,
    Nat.not_le, Nat.not_lt]

theorem judge_verdict {a : HttpAnswer} (hrange : a.status ≤ 999) (htext : a.text = .ok body) :
    p.Verdict a.status body (p.judge (.ok a)).finding := by
  by_cases hok : a.status = 200
  · rw [judge_of_text hok htext]
    exact .up hok
  · have hjudge : (p.judge (.ok a)).finding = p.judgeStatus a.status := by
      simp [judge, hok]
    rw [hjudge]
    unfold judgeStatus
    split
    · rename_i haway
      rw [Bool.and_eq_true, beq_iff_eq, ← turnsAway_iff hrange] at haway
      exact .away hok haway
    · rename_i hleft
      rw [Bool.and_eq_true, beq_iff_eq, ← turnsAway_iff hrange] at hleft
      exact .left ⟨hok, hleft⟩

theorem TurnsAway.ne_ok (h : p.TurnsAway status) : status ≠ 200 := by
  unfold TurnsAway at h
  omega

section

variable {f : Finding String}

theorem Verdict.met_iff (h : p.Verdict status body f) {value : String} :
    f = .met value ↔ status = 200 ∧ value = body := by
  cases h with
  | up hok => simp [hok, eq_comm]
  | away hok _ => simp [hok]
  | left hleft => simp [hleft.1]

theorem Verdict.fatal_iff (h : p.Verdict status body f) {cause : String} :
    f = .fatal cause ↔
      p.TurnsAway status ∧ cause = "Returned wrong status code: " ++ toString status := by
  cases h with
  | up hok => simpa using fun haway => absurd hok (TurnsAway.ne_ok haway)
  | away _ haway => simp [haway, eq_comm]
  | left hleft => simp [hleft.2]

theorem Verdict.pending_iff (h : p.Verdict status body f) :
    f.isPending = true ↔ p.LeavesOpen status := by
  cases h with
  | up hok => simp [Finding.isPending, LeavesOpen, hok]
  | away _ haway => simp [Finding.isPending, LeavesOpen, haway]
  | left hleft => simp [Finding.isPending, hleft]

theorem Verdict.eq_pending (h : p.Verdict status body f) (hleft : p.LeavesOpen status) :
    f = .pending (some ("Returned wrong status code: " ++ toString status)) := by
  cases h with
  | up hok => exact absurd hok hleft.1
  | away _ haway => exact absurd haway hleft.2
  | left _ => rfl

end

/-! ### A wait -/

section

variable {w : Waiter} {j : Job Query Answer String} {e : Setting Query Answer σ} {s : Scene σ}
  {status : Nat → Nat} {body : Nat → String} {k : Nat}

/-- Nothing but the statuses decides how far a wait comes that no token cuts short. -/
theorem comesTo_of_undisturbed (h : j.Undisturbed e s) :
    p.ComesTo j e s status k ↔
      k < j.plan.maxAttempts ∧ ∀ i < k, p.LeavesOpen (status i) := by
  constructor
  · rintro ⟨hwithin, hopen, -⟩
    exact ⟨hwithin, hopen⟩
  · rintro ⟨hwithin, hopen⟩
    exact ⟨hwithin, hopen, h.stops_sceneAt k⟩

variable (hj : w.job 0 p.check = .ok j)
  (hanswers : ∀ i < j.plan.maxAttempts, p.Answered e s i (status i) (body i))

include hj hanswers

theorem findingAt_verdict {i : Nat} (hi : i < j.plan.maxAttempts) :
    p.Verdict (status i) (body i) (j.findingAt e s i) := by
  obtain ⟨⟨a, hanswer, hstatus, htext⟩, -, hhigh⟩ := hanswers i hi
  rw [findingAt_eq hj, hanswer, ← hstatus]
  exact judge_verdict (by omega) htext

theorem isPending_iff {i : Nat} (hi : i < j.plan.maxAttempts) :
    (j.findingAt e s i).isPending = true ↔ p.LeavesOpen (status i) :=
  (findingAt_verdict hj hanswers hi).pending_iff

theorem decidedAt_iff {f : Finding String} :
    j.DecidedAt e s k f ↔ p.ComesTo j e s status k ∧ j.findingAt e s k = f := by
  constructor
  · intro h
    have hopen : ∀ i < k, p.LeavesOpen (status i) := fun i hi =>
      (isPending_iff hj hanswers (Nat.lt_trans hi h.within)).mp (h.before i hi)
    exact ⟨⟨h.within, hopen, h.live⟩, h.finding⟩
  · rintro ⟨h, hfinding⟩
    have hpending : ∀ i < k, (j.findingAt e s i).isPending = true := fun i hi =>
      (isPending_iff hj hanswers (Nat.lt_trans hi h.within)).mpr (h.undecided i hi)
    exact ⟨h.within, hpending, h.live, hfinding⟩

theorem timedOut_iff :
    (j.EndsWith e s k ∧ (j.findingAt e s k).isPending = true) ↔
      p.ComesTo j e s status k ∧ p.LeavesOpen (status k) ∧ k + 1 = j.plan.maxAttempts := by
  rw [Job.endsWith_iff, decidedAt_iff hj hanswers]
  constructor
  · rintro ⟨⟨⟨hcomes, -⟩, hlast⟩, hpending⟩
    exact ⟨hcomes, (isPending_iff hj hanswers hcomes.within).mp hpending,
      hlast.resolve_right (by simp [hpending])⟩
  · rintro ⟨hcomes, hleft, hlast⟩
    exact ⟨⟨⟨hcomes, rfl⟩, .inl hlast⟩, (isPending_iff hj hanswers hcomes.within).mpr hleft⟩

theorem timedOut_result (hcomes : p.ComesTo j e s status k) (hleft : p.LeavesOpen (status k))
    (hlast : k + 1 = j.plan.maxAttempts) :
    (j.run e s).result =
      { ending := .timedOut
        attempts := k + 1
        elapsed := elapsedBetween s.now (j.endAt e.source s.source s.now k)
        lastNote := some ("Returned wrong status code: " ++ toString (status k)) } := by
  obtain ⟨hends, hpending⟩ := (timedOut_iff hj hanswers).mpr ⟨hcomes, hleft, hlast⟩
  have hnote :=
    hends.lastNote ((findingAt_verdict hj hanswers hcomes.within).eq_pending hleft)
  rw [hends.result] at hnote ⊢
  rw [← hnote, (Finding.ending?_eq_none _).mpr hpending, Job.returnAt_eq_endAt]
  rfl

/-- Such a wait comes to a status that decides it, or makes all its ticks. -/
theorem exists_comesTo (h : j.Undisturbed e s) :
    ∃ k, p.ComesTo j e s status k ∧
      (k + 1 = j.plan.maxAttempts ∨ ¬p.LeavesOpen (status k)) := by
  obtain ⟨k, hk, hpending, hend⟩ := j.exists_decided e s
  have hopen : ∀ i < k, p.LeavesOpen (status i) := fun i hi =>
    (isPending_iff hj hanswers (Nat.lt_trans hi hk)).mp (hpending i hi)
  refine ⟨k, (comesTo_of_undisturbed h).mpr ⟨hk, hopen⟩, hend.imp_right fun hdecided => ?_⟩
  simp [← isPending_iff hj hanswers hk, hdecided]

end

/-- The statuses decide: the wait ends by the first 200 with its body, if it comes so far, or by
the first status that turns it away. With any other it goes on, and when it has run out it tells
the status of the last answer. -/
theorem statuses_decide (p : Probe) (w : Waiter) {plan : Plan} (hplan : w.plan = .ok plan)
    (e : Setting Query Answer σ) (s : Scene σ) (status : Nat → Nat) (body : Nat → String)
    (hanswers : ∀ i < plan.maxAttempts, p.Answered e s i (status i) (body i)) :
    let j := w.scheduler.job 0 p.check plan
    let outcome := (p.wait w e s).result
    let comesTo := p.ComesTo j e s status
    let note := fun k => "Returned wrong status code: " ++ toString (status k)
    let elapsedBy := fun k => elapsedBetween s.now (j.endAt e.source s.source s.now k)
    (∀ c, outcome = .ok c ↔ ∃ k, comesTo k ∧ status k = 200 ∧
        c = { value := body k, attempts := k + 1, elapsed := elapsedBy k }) ∧
      (∀ description cause attempts elapsed,
        outcome = .error (.aborted description cause attempts elapsed) ↔
          ∃ k, comesTo k ∧ p.TurnsAway (status k) ∧ cause = note k ∧
            description = w.description ∧ attempts = k + 1 ∧ elapsed = elapsedBy k) ∧
      (∀ description maxAttempts interval attempts elapsed lastNote,
        outcome =
            .error (.timedOut description maxAttempts interval attempts elapsed lastNote) ↔
          ∃ k, comesTo k ∧ p.LeavesOpen (status k) ∧ k + 1 = plan.maxAttempts ∧
            lastNote = some (note k) ∧ description = w.description ∧ maxAttempts = k + 1 ∧
            interval = plan.interval ∧ attempts = k + 1 ∧ elapsed = elapsedBy k) ∧
      (∀ k < (j.run e s).result.attempts, p.LeavesOpen (status k) →
        j.GoesOnAfter e s k (note k)) ∧
      (j.Undisturbed e s →
        (∀ k, comesTo k ↔ k < plan.maxAttempts ∧ ∀ i < k, p.LeavesOpen (status i)) ∧
          ∃ k, comesTo k ∧ (k + 1 = plan.maxAttempts ∨ ¬p.LeavesOpen (status k))) ∧
      ∀ code, 100 ≤ code → code ≤ 999 →
        (p.LeavesOpen code ↔ code ≠ 200 ∧ (code < 400 ∨ 500 ≤ code ∨
          p.tolerance.ofStatus code.toUInt16 = .transient)) := by
  intro j outcome comesTo note elapsedBy
  have hj : w.job 0 p.check = .ok j := by
    unfold Waiter.job
    rw [hplan]
    rfl
  have houtcome : outcome = (j.run e s).result.outcome plan :=
    congrArg Passage.result (Waiter.wait_of_plan hplan p.check e s)
  have hdescription : plan.description = w.description := (Cadence.plan_ok hplan).1
  have hverdict {i : Nat} : i < plan.maxAttempts → p.Verdict (status i) (body i) _ :=
    findingAt_verdict hj hanswers
  refine ⟨fun c => ?ok, fun description cause attempts elapsed => ?aborted,
    fun description maxAttempts interval attempts elapsed lastNote => ?timedOut,
    fun k hk hleft => ?goesOn,
    fun h => ⟨fun k => comesTo_of_undisturbed h, exists_comesTo hj hanswers h⟩,
    fun code _ hhigh => leavesOpen_iff hhigh⟩
  case ok =>
    rw [houtcome, Report.outcome_eq_ok, Job.result_iff (f := .met c.value) rfl]
    simp only [decidedAt_iff hj hanswers, and_assoc]
    refine exists_congr fun k => and_congr_right fun hcomes => ?_
    rw [(hverdict hcomes.within).met_iff, and_assoc]
    obtain ⟨value, attempts, elapsed⟩ := c
    simp [elapsedBy]
  case aborted =>
    rw [houtcome, Report.outcome_eq_aborted, hdescription, Job.result_iff (f := .fatal cause) rfl]
    simp only [decidedAt_iff hj hanswers, and_assoc, ← exists_and_left]
    refine exists_congr fun k => ?_
    rw [and_left_comm]
    refine and_congr_right fun hcomes => ?_
    rw [(hverdict hcomes.within).fatal_iff, and_left_comm, and_assoc]
  case timedOut =>
    rw [houtcome, Report.outcome_eq_timedOut, hdescription]
    constructor
    · rintro ⟨hending, hdescribed, hmax, hinterval, hattempts, helapsed, hnote⟩
      obtain ⟨k, hends⟩ := (j.run_timedOut_iff e s).mp hending
      obtain ⟨hcomes, hleft, hlast⟩ := (timedOut_iff hj hanswers).mp hends
      rw [timedOut_result hj hanswers hcomes hleft hlast] at hattempts helapsed hnote
      exact ⟨k, hcomes, hleft, hlast, hnote, hdescribed, hmax.trans hlast.symm, hinterval,
        hattempts, helapsed⟩
    · rintro ⟨k, hcomes, hleft, hlast, hnote, hdescribed, hmax, hinterval, hattempts, helapsed⟩
      rw [timedOut_result hj hanswers hcomes hleft hlast]
      exact ⟨rfl, hdescribed, hmax.trans hlast, hinterval, hattempts, helapsed, hnote⟩
  case goesOn =>
    have hwithin := Nat.lt_of_lt_of_le hk (j.attempts_le e s)
    exact Job.goesOnAfter hk ((hverdict hwithin).eq_pending hleft)

/-- The statuses of an address that is overloaded, unchanged, busy and odd before it is up. -/
def moods (i : Nat) : Nat := [503, 304, 202, 700].getD i 200

def moodySource : Source Query Answer (Tally Query) := .scripted fun _ n =>
  prompt (.ok { status := moods n, location := none, body := .whole [0x6F, 0x6B] })

theorem statuses_decide_moods :
    let e : Setting Query Answer (Tally Query) := { source := moodySource, trigger := .never }
    let s := e.opening []
    (∀ i < 6, story.Answered e s i (moods i) "ok") ∧
      (∀ i < 4, story.LeavesOpen (moods i)) ∧
      (story.wait storyWaiter e s).result =
        .ok { value := "ok", attempts := 5, elapsed := .ofSecs 12 } := by
  intro e s
  obtain ⟨plan, hplan, hattempts, helapsed⟩ : ∃ plan, storyWaiter.plan = .ok plan ∧
      plan.maxAttempts = 6 ∧ elapsedBetween s.now
        ((storyWaiter.scheduler.job 0 story.check plan).endAt e.source s.source s.now 4) =
          .ofSecs 12 :=
    ⟨_, rfl, rfl, by decide +kernel⟩
  have hanswer : ∀ i < 6, story.answerAt e s i =
      .ok { status := moods i, location := none, body := .whole [0x6F, 0x6B] } := by
    decide +kernel
  have hrange : ∀ i < 6, 100 ≤ moods i ∧ moods i ≤ 999 := by decide
  have htext : Text.decodeBytes [0x6F, 0x6B] = "ok" := by decide +kernel
  have hanswers : ∀ i < 6, story.Answered e s i (moods i) "ok" := fun i hi =>
    ⟨⟨_, hanswer i hi, rfl, congrArg Except.ok htext⟩, hrange i hi⟩
  obtain ⟨hok, -, -, -, hcomes, hopen⟩ :=
    statuses_decide story storyWaiter hplan e s moods (fun _ => "ok") (hattempts ▸ hanswers)
  have hleft : ∀ i < 4, story.LeavesOpen (moods i) := by
    intro i hi
    have hmood : moods i ≠ 200 ∧ (moods i < 400 ∨ 500 ≤ moods i) := by
      revert i
      decide
    have hbounds := hrange i (by omega)
    exact (hopen _ hbounds.1 hbounds.2).mpr ⟨hmood.1, by omega⟩
  have hfive := ((hcomes (.inr ⟨rfl, rfl⟩)).1 4).mpr ⟨by omega, hleft⟩
  exact ⟨hanswers, hleft, (hok _).mpr ⟨4, hfive, rfl, by rw [← helapsed]⟩⟩

end Probe

end Convergence
