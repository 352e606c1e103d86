import Convergence.Proofs.Poll.Turns
import Convergence.Proofs.Poll.Undisturbed

/-! A token that all polls share. Once it is cancelled no poll makes another check. A
poll that has not started does not make any, one between two checks ends where it
stands, and one with a check under way ends when that check returns. -/
namespace Convergence

variable {Q : Type} {A : Q → Type} {σ α : Type}

/-- How a poll ends with a check that returns when the token is cancelled. -/
def Finding.lastEnding (finding : Finding α) : Nat → Ending α
  | 0 => finding.ending?.getD .timedOut
  | _ + 1 => finding.ending?.getD .cancelled

theorem Finding.lastEnding_of_last {f : Finding α} {left : Nat}
    (h : left = 0 ∨ f.isPending = false) : f.lastEnding left = f.ending?.getD .timedOut := by
  cases left with
  | zero => rfl
  | succ left =>
    have hpending : f.isPending = false := by simpa using h
    cases f with
    | pending note => simp [isPending] at hpending
    | met value => rfl
    | fatal cause => rfl

theorem Finding.lastEnding_of_pending {f : Finding α} (left : Nat) (h : f.isPending = true) :
    f.lastEnding (left + 1) = .cancelled := by
  rw [lastEnding, (Finding.ending?_eq_none f).mpr h, Option.getD_none]

namespace Runner

variable {e : Setting Q A σ} {s : Scene σ} {r : Runner Q A α} {p : Passage Q σ (Runner Q A α)}

def lastReport (r : Runner Q A α) (left : Nat) (finding : Finding α) (time : Instant) : Report α :=
  Job.report (r.course.noting finding) (finding.lastEnding left) (r.job.attempt left) time

/-! ### Steps under a cancelled token -/

theorem afterTick_stops (h : r.job.stops e s = true) :
    r.job.stops e (r.job.afterTick e s) = true := by
  refine r.job.stops_mono e (s := s) (fun hc => ?_) (Nat.le_of_eq (Job.afterTick_now _ _ _).symm) h
  unfold Job.afterTick Setting.observe
  split <;> simp [hc]

theorem Act.of_idle (h : Act e s r p) {left : Nat} (hidle : r.phase.idle? = some left)
    (hstops : r.job.stops e s = true) :
    p = r.finish r.course .cancelled (r.job.attempt left - 1) s := by
  cases h with
  | refuse idle stops => rw [Option.some.inj (hidle.symm.trans idle)]
  | ask idle live due => exact absurd hstops (by simp [live])
  | askAgain phase answered => simp [phase, Phase.idle?] at hidle
  | decide verdict answered last => simp [Phase.idle?_of_verdict verdict] at hidle
  | cut verdict answered pending stops => simp [Phase.idle?_of_verdict verdict] at hidle
  | rest verdict answered pending live => simp [Phase.idle?_of_verdict verdict] at hidle

theorem Act.of_verdict (h : Act e s r p) {left : Nat} {wake : Instant} {j : Judgement α}
    (hverdict : r.phase.verdict? = some (left, wake, j)) (hstops : r.job.stops e s = true) :
    wake ≤ s.now ∧ p.result.phase = .done (r.lastReport left j.finding s.now) ∧
      Event.reads p.events = [] := by
  cases h with
  | refuse idle stops => simp [Phase.idle?_of_verdict hverdict] at idle
  | ask idle live due => simp [Phase.idle?_of_verdict hverdict] at idle
  | askAgain phase answered => simp [phase, Phase.verdict?] at hverdict
  | decide verdict answered last =>
    obtain ⟨rfl, rfl, rfl⟩ : _ ∧ _ ∧ _ := by simpa using verdict.symm.trans hverdict
    refine ⟨answered, ?_, ?_⟩
    · unfold lastReport
      rw [Finding.lastEnding_of_last last, ← Job.afterTick_now r.job e s]
      rfl
    · rw [Passage.prepend_events, Event.reads_append, shownTick_reads, finish_reads]
      rfl
  | cut verdict answered pending stops =>
    obtain ⟨rfl, rfl, rfl⟩ : _ ∧ _ ∧ _ := by simpa using verdict.symm.trans hverdict
    refine ⟨answered, ?_, ?_⟩
    · unfold lastReport
      rw [Finding.lastEnding_of_pending _ pending, ← Job.afterTick_now r.job e s]
      rfl
    · rw [Passage.prepend_events, Event.reads_append, waitingTick_reads, finish_reads]
      rfl
  | rest verdict answered pending live =>
    exact absurd (afterTick_stops hstops) (by simp [live])

theorem Act.of_followed (h : Act e s r p) {left : Nat} {wake : Instant} {query : Q}
    {judge : A query → Judgement α} (hphase : r.phase = .reading left wake (.read query judge)) :
    wake ≤ s.now ∧
      p.result =
        { r with
          phase := .rereading left (s.now + (e.source query s.source).1.delay)
            (judge (e.source query s.source).1.answer) } ∧
      Event.reads p.events = [(query, s.now)] := by
  cases h with
  | refuse idle stops => simp [hphase, Phase.idle?] at idle
  | ask idle live due => simp [hphase, Phase.idle?] at idle
  | askAgain phase answered =>
    rw [hphase] at phase
    obtain ⟨rfl, rfl, rfl, hjudge⟩ : _ ∧ _ ∧ _ ∧ _ := by simpa using phase
    rw [eq_of_heq hjudge]
    exact ⟨answered, rfl, rfl⟩
  | decide verdict answered last => simp [hphase, Phase.verdict?] at verdict
  | cut verdict answered pending stops => simp [hphase, Phase.verdict?] at verdict
  | rest verdict answered pending live => simp [hphase, Phase.verdict?] at verdict

end Runner

namespace Seat

/-- The second read of a check that is under way and still has to make it. -/
def owed : Seat Q A α → List (Q × Instant)
  | running { phase := .reading _ wake (.read query _), .. } => [(query, wake)]
  | _ => []

/-- How a poll ends when the token is cancelled at `now`, by where it stands then. -/
inductive Ends (source : Source Q A σ) (now : Instant) : Seat Q A α → Report α → Prop where
  | unstarted (j : Job Q A α) :
      Ends source now (.waiting j)
        { ending := .cancelled, attempts := 0, elapsed := .ofMillis 0, lastNote := none }
  | idle {r : Runner Q A α} {left : Nat} (between : r.phase.idle? = some left) :
      Ends source now (.running r) (Job.report r.course .cancelled (r.job.attempt left - 1) now)
  | answered {r : Runner Q A α} {left : Nat} {wake : Instant} {j : Judgement α}
      (verdict : r.phase.verdict? = some (left, wake, j)) :
      Ends source now (.running r) (r.lastReport left j.finding wake)
  | followed {r : Runner Q A α} {left : Nat} {wake : Instant} {query : Q}
      {judge : A query → Judgement α} (state : σ)
      (phase : r.phase = .reading left wake (.read query judge)) :
      Ends source now (.running r)
        (r.lastReport left (judge (source query state).1.answer).finding
          (wake + (source query state).1.delay))
  | ended {r : Runner Q A α} {report : Report α} (phase : r.phase = .done report) :
      Ends source now (.running r) report

/-- What has become at `later` of a poll whose token was cancelled at `now`, and the
reads that it has made since. -/
inductive Since (source : Source Q A σ) (now later : Instant) :
    Seat Q A α → List (Q × Instant) → Seat Q A α → Prop where
  | same (x : Seat Q A α)
      (still : ∀ r left, x = .running r → r.phase.idle? = some left → later = now) :
      Since source now later x [] x
  | started (j : Job Q A α) : Since source now later (.waiting j) [] (.running (.start j later))
  | followed {r : Runner Q A α} {left : Nat} {wake : Instant} {query : Q}
      {judge : A query → Judgement α} (state : σ)
      (phase : r.phase = .reading left wake (.read query judge)) :
      Since source now later (.running r) [(query, wake)]
        (.running
          { r with
            phase := .rereading left (wake + (source query state).1.delay)
              (judge (source query state).1.answer) })
  | finished {x : Seat Q A α} {r : Runner Q A α} {report : Report α}
      (ends : x.Ends source now report) (phase : r.phase = .done report) :
      Since source now later x x.owed (.running r)

variable {source : Source Q A σ} {now later : Instant} {x y : Seat Q A α}
  {reads : List (Q × Instant)}

theorem owed_of_idle {r : Runner Q A α} {left : Nat} (h : r.phase.idle? = some left) :
    (Seat.running r).owed = [] := by
  unfold owed
  split
  · rename_i heq
    cases heq
    exact absurd h nofun
  · rfl

theorem owed_of_verdict {r : Runner Q A α} {left : Nat} {wake : Instant} {j : Judgement α}
    (h : r.phase.verdict? = some (left, wake, j)) : (Seat.running r).owed = [] := by
  unfold owed
  split
  · rename_i heq
    cases heq
    exact absurd h nofun
  · rfl

theorem owed_of_followed {r : Runner Q A α} {left : Nat} {wake : Instant} {query : Q}
    {judge : A query → Judgement α} (h : r.phase = .reading left wake (.read query judge)) :
    (Seat.running r).owed = [(query, wake)] := by
  obtain ⟨job, course, phase⟩ := r
  subst h
  rfl

theorem Since.reads_prefix (h : Since source now later x reads y) : reads <+: x.owed := by
  cases h with
  | same still => exact List.nil_prefix
  | started j => exact List.nil_prefix
  | followed state phase => simp [owed_of_followed phase]
  | finished ends phase => exact List.prefix_rfl

theorem Since.of_report (h : Since source now later x reads y) {report : Report α}
    (hreport : y.report? = some report) : x.Ends source now report ∧ reads = x.owed := by
  cases h with
  | same still =>
    cases x with
    | waiting j => cases hreport
    | running r =>
      have hphase := Runner.phase_of_report hreport
      refine ⟨.ended hphase, ?_⟩
      obtain ⟨job, course, phase⟩ := r
      cases hphase
      rfl
  | started j => cases hreport
  | followed state phase => cases hreport
  | finished ends phase =>
    have hsame := Runner.phase_of_report hreport
    rw [phase] at hsame
    cases hsame
    exact ⟨ends, rfl⟩

theorem Since.still (h : Since source now later x reads y) (hopen : y.report? = none) :
    ∀ r left, x = .running r → r.phase.idle? = some left → later = now := by
  intro r left hx hidle
  cases h with
  | same _ still => exact still r left hx hidle
  | started j => cases hx
  | followed state phase =>
    cases hx
    rw [phase] at hidle
    cases hidle
  | finished ends phase =>
    cases hopen.symm.trans (Runner.report?_of_done phase)

theorem Since.act {e : Setting Q A σ} {s : Scene σ} {r : Runner Q A α}
    (h : Since e.source now s.now x reads (.running r)) (htimely : (Seat.running r).Timely s.now)
    (hstops : r.job.stops e s = true) (can : r.canRun e s = true) :
    Since e.source now s.now x (reads ++ Event.reads (r.step e s).events)
      (.running (r.step e s).result) := by
  have hact := Runner.step_act can
  cases h with
  | same _ still =>
    rw [List.nil_append]
    rcases r.phase.kinds with ⟨left, hidle⟩ | ⟨left, wake, j, hverdict⟩ |
      ⟨left, wake, query, judge, hphase⟩ | ⟨report, hphase⟩
    · have hnow : s.now = now := still r left rfl hidle
      rw [hact.of_idle hidle hstops, Runner.finish_reads, ← owed_of_idle hidle]
      exact .finished (hnow ▸ .idle hidle) rfl
    · obtain ⟨hanswered, hdone, hreads⟩ := hact.of_verdict hverdict hstops
      have hnow : wake = s.now :=
        Nat.le_antisymm hanswered (htimely.1 wake (Phase.wake?_of_verdict hverdict))
      rw [hreads, ← owed_of_verdict hverdict]
      exact .finished (hnow ▸ .answered hverdict) hdone
    · obtain ⟨hanswered, hresult, hreads⟩ := hact.of_followed hphase
      have hnow : wake = s.now :=
        Nat.le_antisymm hanswered (htimely.1 wake (by rw [hphase]; rfl))
      subst hnow
      rw [hresult, hreads]
      exact .followed s.source hphase
    · simp [Runner.canRun, hphase] at can
  | started j =>
    have hattempt : j.attempt (j.plan.maxAttempts - 1) = 1 :=
      Job.attempt_of_lt (i := 0) j.plan.maxAttempts_pos
    have hreport : Job.report (Runner.start j s.now).course (Ending.cancelled : Ending α)
        (j.attempt (j.plan.maxAttempts - 1) - 1) s.now =
        { ending := .cancelled, attempts := 0, elapsed := .ofMillis 0, lastNote := none } := by
      have helapsed : elapsedBetween s.now s.now = .ofMillis 0 :=
        congrArg Duration.ofMillis (Nat.sub_self _)
      unfold Job.report Runner.start
      rw [hattempt, helapsed]
    rw [hact.of_idle rfl hstops, Runner.finish_reads]
    exact .finished (.unstarted j) (congrArg Phase.done hreport)
  | @followed r left wake query judge state phase =>
    obtain ⟨hanswered, hdone, hreads⟩ := hact.of_verdict rfl hstops
    have hnow := Nat.le_antisymm hanswered (htimely.1 _ rfl)
    rw [hreads, List.append_nil, ← owed_of_followed phase]
    exact .finished (.followed state phase) (hnow ▸ hdone)
  | finished ends phase => simp [Runner.canRun, phase] at can

end Seat

namespace Hall

variable {source : Source Q A σ} {a b c h : Hall Q A σ α}
  {first before after : List (Nat × Event Q)} {now : Instant} {i : Nat} {x y : Seat Q A α} {reads : List (Q × Instant)}

/-- The token is cancelled and reaches every poll. -/
structure Struck (h : Hall Q A σ α) : Prop where
  timely : h.Timely
  cancelled : h.scene.cancelled = true
  shared : ∀ (i : Nat) (x : Seat Q A α), h.seats[i]? = some x → x.job.cancellable = true

theorem Struck.stops (h : a.Struck) {r : Runner Q A α} (hr : a.seats[i]? = some (.running r)) :
    r.job.stops source.calm a.scene = true := by
  unfold Job.stops Setting.isCancelled
  rw [h.cancelled, show r.job.cancellable = true from h.shared i _ hr]
  rfl

theorem Step.struck (hstep : Step source a first b) (ha : a.Struck) : b.Struck where
  timely := hstep.timely ha.timely
  cancelled := hstep.cancelled ha.cancelled
  shared := by
    intro i y hy
    obtain ⟨x, hx⟩ := hstep.seat_back hy
    have hgiven : ∀ (k : Nat) (z : Seat Q A α), a.seats[k]? = some z →
        (a.seats.map Seat.job)[k]? = some z.job := by
      intro k z hz
      rw [List.getElem?_map, hz]
      rfl
    have hjob := hstep.job hgiven i y hy
    rw [List.getElem?_map, hx] at hjob
    exact Option.some.inj hjob ▸ ha.shared i x hx

/-- Nothing that can happen takes a poll off its way to its end. -/
theorem Step.since (hstep : Step source a first b) (ha : a.Struck) (hy : a.seats[i]? = some y)
    (h : Seat.Since source now a.scene.now x reads y) :
    ∃ z, b.seats[i]? = some z ∧
      Seat.Since source now b.scene.now x (reads ++ Event.reads (own i first)) z := by
  rcases hstep.seat hy with ⟨hsame, hown⟩ | ⟨j, rfl, hstart, hown, hscene⟩ |
    ⟨r, rfl, can, hrun, hown, hscene⟩
  · refine ⟨y, hsame, ?_⟩
    rw [hown, Event.reads_nil, List.append_nil]
    rcases hstep.now with hnow | ⟨-, -, -, hstill⟩
    · rw [hnow]
      exact h
    -- The clock goes on only where every poll waits for an answer.
    · have hbusy : ∀ r left, y = .running r → r.phase.idle? = some left → False := by
        rintro r left rfl hidle
        obtain ⟨still, -⟩ := hstill r (List.mem_of_getElem? hy)
        exact absurd still (by simp [Runner.canRun_of_idle hidle (.inl (ha.stops hy))])
      cases h with
      | same _ still => exact .same _ fun r left hr hidle => (hbusy r left hr hidle).elim
      | started j => exact (hbusy _ _ rfl rfl).elim
      | followed state phase => exact .followed state phase
      | finished ends phase => exact .finished ends phase
  · refine ⟨_, hstart, ?_⟩
    rw [hown, hscene, Event.reads_nil, List.append_nil]
    cases h with
    | same _ still => exact .started j
  · refine ⟨_, hrun, ?_⟩
    rw [hown, hscene, (Runner.step_act can).now]
    exact h.act (ha.timely i _ hy) (ha.stops hy) can

theorem Run.since (hrun : Run source a after h) (ha : a.Struck) (hy : a.seats[i]? = some y)
    (hsince : Seat.Since source now a.scene.now x reads y) :
    ∃ z, h.seats[i]? = some z ∧
      Seat.Since source now h.scene.now x (reads ++ Event.reads (own i after)) z := by
  induction hrun generalizing y reads with
  | refl h =>
    refine ⟨y, hy, ?_⟩
    rw [own_nil, Event.reads_nil, List.append_nil]
    exact hsince
  | step hstep _ ih =>
    obtain ⟨z, hz, hnext⟩ := hstep.since ha hy hsince
    rw [own_append, Event.reads_append, ← List.append_assoc]
    exact ih (hstep.struck ha) hz hnext

/-- What is run under a token that is cancelled sooner or later goes through the hall up
to its cancellation, which is where the trigger strikes, and on from there. -/
theorem run_runAll_cancelled (e : Setting Q A σ) (jobs : List (Job Q A α)) (s : Scene σ)
    (order : Order) (h : e.isCancelled (runAll e jobs s order).scene = true) :
    ∃ before c after last reports, Run e.source (opening jobs (e.seen s)) before c ∧
      (c = opening jobs (e.seen s) ∨ c.scene.cancelled = false ∧ e.trigger.Strikes c.scene) ∧
      Run e.source c.cancelled after last ∧
      (before ++ after).map Prod.snd = (runAll e jobs s order).events ∧
      last.seats.map Seat.report? = reports.map some ∧
      (runAll e jobs s order).result = (jobs.map (·.index)).zip reports := by
  obtain ⟨last, reports, ⟨trace, hrun, hevents, hcuts⟩, hscene, hreports, hresult⟩ :=
    run_runAll e jobs s order
  cases hlive : e.isCancelled s with
  | true =>
    have hopening : (opening jobs (e.seen s) : Hall Q A σ α).cancelled =
        opening jobs (e.seen s) := by
      unfold cancelled opening Setting.seen
      rw [hlive]
    exact ⟨[], _, trace, last, reports, .refl _, .inl rfl, hopening ▸ hrun, hevents, hreports,
      hresult⟩
  | false =>
    obtain ⟨before, c, after, hbefore, hc, hplace, hafter, rfl⟩ := hcuts hlive (hscene ▸ h)
    exact ⟨before, c, after, last, reports, hbefore, .inr ⟨hc, hplace⟩, hafter, hevents, hreports,
      hresult⟩

/-- Cancellation is final and prompt, in whatever order polls take their steps and
whatever cancels the token. No check begins after it. Each poll ends, with a report that
says where it stood when the token was cancelled, and none that was between two ticks
lets the clock go on before it has ended. -/
theorem cancellation_final (source : Source Q A σ) (jobs : List (Job Q A α))
    (shared : ∀ j ∈ jobs, j.cancellable = true) :
    (∀ (trigger : Trigger) (s : Scene σ) (order : Order),
      let e : Setting Q A σ := { source, trigger }
      let p := runAll e jobs s order
      e.isCancelled p.scene = true →
        ∃ before c after last reports, Run source (opening jobs (e.seen s)) before c ∧
          (c = opening jobs (e.seen s) ∨ c.scene.cancelled = false ∧ trigger.Strikes c.scene) ∧
          Run source c.cancelled after last ∧ (before ++ after).map Prod.snd = p.events ∧
          last.seats.map Seat.report? = reports.map some ∧
          p.result = (jobs.map (·.index)).zip reports) ∧
    ∀ (s : Scene σ) (before after : List (Nat × Event Q)) (c h : Hall Q A σ α),
      Run source (opening jobs s) before c → Run source c.cancelled after h →
        Acc (fun b a : Hall Q A σ α => ∃ events, Step source a events b) h ∧
        (h.Over ∨ ∃ events next, Step source h events next) ∧
        ∀ (i : Nat) (x : Seat Q A α), c.seats[i]? = some x →
          ∃ y, h.seats[i]? = some y ∧ Event.reads (own i after) <+: x.owed ∧
            (∀ report, y.report? = some report →
              x.Ends source c.scene.now report ∧ Event.reads (own i after) = x.owed) ∧
            (y.report? = none → ∀ r left, x = .running r → r.phase.idle? = some left →
              h.scene.now = c.scene.now) := by
  refine ⟨fun trigger s order h => run_runAll_cancelled { source, trigger } jobs s order h, ?_⟩
  intro s before after c h hbefore hafter
  refine ⟨(wellFounded_step source).apply h, ?_, fun i x hx => ?_⟩
  · by_cases hover : h.Over
    · exact .inl hover
    · obtain ⟨events, next, hstep, -⟩ := exists_step source h hover
      exact .inr ⟨events, next, hstep⟩
  · have hstruck : c.cancelled.Struck :=
      { timely := hbefore.timely
        cancelled := rfl
        shared := fun k y hy => shared _ (List.mem_of_getElem? (hbefore.job hy)) }
    have hsame : Seat.Since source c.scene.now c.scene.now x [] x := .same x fun _ _ _ _ => rfl
    obtain ⟨y, hy, hsince⟩ := hafter.since hstruck hx hsame
    rw [List.nil_append] at hsince
    refine ⟨y, hy, hsince.reads_prefix, fun report hreport => ?_, fun hopen => ?_⟩
    · exact hsince.of_report hreport
    · exact hsince.still hopen

/-- Two polls: the first is asleep for an answer when the token is cancelled, and the
other has not started. -/
theorem cancellation_final_rehearsal :
    let s : Scene (Tally Nat) :=
      { now := 0, source := [], reads := 0, ticks := 0, cancelled := false }
    let jobs := [rehearsal 0, rehearsal 1]
    ∃ before c after h, Run rehearsed (opening jobs s) before c ∧
      Run rehearsed c.cancelled after h ∧ h.Over ∧
      (∃ r, c.seats = [.running r, .waiting (rehearsal 1)] ∧ r.phase.wake? = some 5) ∧
      ∀ (i : Nat) (x : Seat Nat (fun _ => Finding Nat) Nat), c.seats[i]? = some x →
        ∃ y report, h.seats[i]? = some y ∧ y.report? = some report ∧
          x.Ends rehearsed c.scene.now report := by
  intro s jobs
  have hstart : Step rehearsed (opening jobs s) _ _ := .start (i := 0) (j := rehearsal 0) rfl
  have hbefore := Run.step hstart (.step (.run (i := 0) rfl rfl) (.refl _))
  obtain ⟨after, h, hafter, hover⟩ := exists_over rehearsed (Hall.cancelled _)
  refine ⟨_, _, after, h, hbefore, hafter, hover, ⟨_, rfl, rfl⟩, fun i x hx => ?_⟩
  obtain ⟨y, hy, -, hends, -⟩ := ((cancellation_final rehearsed jobs
    (by simp [jobs, rehearsal])).2 s _ after _ h hbefore hafter).2.2 i x hx
  obtain ⟨report, hreport⟩ := hover y (List.mem_of_getElem? hy)
  exact ⟨y, report, hy, hreport, (hends report hreport).1⟩

end Hall
end Convergence
