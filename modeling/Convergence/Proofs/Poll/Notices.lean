import Convergence.Cluster.Wait
import Convergence.Probe.Check
import Convergence.Proofs.Poll.Observed

/-! What is told of a poll while it runs, next to the report of it. Every tick that leaves
the poll open is told of once, right after its check, and so is the end. A tick that decides
is told of by the end alone; a tick after which the token strikes is told of by itself, and
the end tells of the token. -/
namespace Convergence

variable {Q : Type} {A : Q → Type} {σ α : Type}

/-! ### Lines -/

/-- What a notice says where it is read. -/
structure Line where
  level : Level
  message : String
  fields : List (String × Value)

def Notice.line (n : Notice) : Line := { level := n.level, message := n.message, fields := n.fields }

/-- Whether the polls themselves tell of it, and not a check or what is built around a poll. -/
def Notice.aboutPoll (n : Notice) : Bool := n.origin = "kubewait::services::poll_scheduler"

namespace Event

@[simp] theorem notices_append (first rest : List (Event Q)) :
    notices (first ++ rest) = notices first ++ notices rest := by
  unfold notices
  rw [List.filterMap_append]

theorem notices_flatMap (l : List Nat) (f : Nat → List (Event Q)) :
    notices (l.flatMap f) = l.flatMap fun i => notices (f i) := by
  unfold notices
  rw [List.filterMap_flatMap]

@[simp] theorem notices_noticed (told : List Notice) :
    notices (told.map .noticed : List (Event Q)) = told := by
  unfold notices
  rw [List.filterMap_map]
  exact List.filterMap_some

end Event

theorem Call.notices_events (c : Call Q σ α) (index : Nat) (start : Instant) :
    Event.notices (c.events index start) = c.log := by
  have hasks : Event.notices (c.asks index start) = [] := by
    unfold Event.notices asks
    rw [List.filterMap_map]
    exact List.filterMap_eq_nil_iff.mpr fun _ _ => rfl
  unfold events
  rw [Event.notices_append, Event.notices_noticed]
  unfold asks at hasks
  rw [hasks, List.nil_append]

theorem Job.notices_tickEvents (j : Job Q A α) (t : Tick) :
    Event.notices (j.tickEvents t : List (Event Q)) = [] := by
  unfold tickEvents
  split <;> rfl

/-- The last line of a poll. -/
def Report.lastLine (plan : Plan) (r : Report α) : Line :=
  let spent := [("description", .text plan.description), ("attempts", .unsigned r.attempts),
    ("elapsed", .text r.elapsed.text)]
  match r.ending with
  | .converged _ => { level := .info, message := "condition converged", fields := spent }
  | .timedOut =>
    { level := .warn
      message := "condition did not converge before attempts ran out"
      fields := spent }
  | .aborted cause =>
    { level := .warn
      message := "poll aborted on hard error"
      fields := spent ++ [("cause", .text cause)] }
  | .cancelled => { level := .info, message := "poll cancelled", fields := spent }

theorem Report.line_notice (plan : Plan) (r : Report α) :
    (r.ending.notice plan.description r.attempts r.elapsed).line = r.lastLine plan := by
  unfold lastLine Notice.line Ending.notice
  cases r.ending <;> rfl

/-- How many ticks have left a poll open that ends like this. -/
def Report.openTicks (r : Report α) : Nat :=
  match r.ending with
  | .cancelled => r.attempts
  | _ => r.attempts - 1

theorem Report.openTicks_of_cancelled {r : Report α} (h : r.ending = .cancelled) :
    r.openTicks = r.attempts := by
  unfold openTicks
  rw [h]

theorem Report.openTicks_of_decided {r : Report α} (h : r.ending ≠ .cancelled) :
    r.openTicks = r.attempts - 1 := by
  unfold openTicks
  split
  · rename_i hending
    exact absurd hending h
  · rfl

namespace Job

variable (j : Job Q A α) (e : Setting Q A σ) (s : Scene σ)

/-- What is told of the tick after `i` others, if it leaves the poll open. The observation
is the last note so far, of whichever tick. -/
def openLine (i : Nat) : Line :=
  { level := .debug
    message := "condition not yet satisfied, sleeping " ++ j.plan.interval.text
    fields :=
      [("description", .text j.plan.description), ("attempt", .unsigned (i + 1)),
       ("max_attempts", .unsigned j.plan.maxAttempts),
       ("elapsed", .text (j.recordAt e s i).elapsed.text),
       ("observation",
         .text ((Finding.lastNote? ((List.range (i + 1)).map (j.findingAt e s))).getD ""))] }

def openNotice (i : Nat) : Notice :=
  .pending j.plan.description (i + 1) j.plan.maxAttempts (j.recordAt e s i).elapsed
    (Finding.lastNote? ((List.range (i + 1)).map (j.findingAt e s))) j.plan.interval

theorem line_openNotice (i : Nat) : (j.openNotice e s i).line = j.openLine e s i := rfl

theorem notices_tickAt (i : Nat) :
    Event.notices (j.tickAt e s i) = (j.check.callAt e.source s.source i).log := by
  rw [tickAt_eq, Event.notices_append, Call.notices_events, notices_tickEvents, List.append_nil]

theorem notices_roundAt (i : Nat) :
    Event.notices (j.roundAt e s i) =
      (j.check.callAt e.source s.source i).log ++ [j.openNotice e s i] := by
  unfold roundAt
  rw [Event.notices_append, notices_tickAt, courseAt_lastNote]
  rfl

theorem notices_roundsBefore (n : Nat) :
    Event.notices (j.roundsBefore e s n) =
      (List.range n).flatMap fun i =>
        (j.check.callAt e.source s.source i).log ++ [j.openNotice e s i] := by
  unfold roundsBefore
  rw [Event.notices_flatMap]
  exact List.flatMap_congr fun i _ => j.notices_roundAt e s i

/-- What is told of a tick: what its check tells, and that it leaves the poll open. -/
def tickNotices (i : Nat) : List Notice :=
  (j.check.callAt e.source s.source i).log ++
    if (j.recordAt e s i).isFinal then [] else [j.openNotice e s i]

variable {j e s} {n : Nat}

theorem isFinal_of_before (hwithin : n < j.plan.maxAttempts)
    (hbefore : ∀ i < n, (j.findingAt e s i).isPending = true) {i : Nat} (hi : i ∈ List.range n) :
    (j.recordAt e s i).isFinal = false := by
  have hlt := List.mem_range.mp hi
  rw [← Bool.not_eq_true, recordAt_isFinal, hbefore i hlt]
  simp only [Bool.true_eq_false, false_or, not_le]
  omega

theorem EndsWith.isFinal (h : j.EndsWith e s n) : (j.recordAt e s n).isFinal = true :=
  (recordAt_isFinal n).mpr (h.last.symm.imp_right fun heq => Nat.le_of_eq heq.symm)

theorem notices_rounds (hwithin : n < j.plan.maxAttempts)
    (hbefore : ∀ i < n, (j.findingAt e s i).isPending = true) :
    Event.notices (j.roundsBefore e s n) = (List.range n).flatMap (j.tickNotices e s) := by
  rw [notices_roundsBefore]
  refine List.flatMap_congr fun i hi => ?_
  unfold tickNotices
  rw [isFinal_of_before hwithin hbefore hi]
  rfl

variable (j e s)

/-- All that is told during a run, in order. -/
theorem notices_run :
    Event.notices (j.run e s).events =
      (List.range (j.run e s).result.attempts).flatMap (j.tickNotices e s) ++
        j.endNotices (j.run e s).result := by
  rcases j.endsWith_or_cutBefore e s with ⟨n, h⟩ | ⟨n, h⟩
  · have hlast : j.tickNotices e s n = (j.check.callAt e.source s.source n).log := by
      unfold tickNotices
      rw [h.isFinal]
      exact List.append_nil _
    have hattempts : (j.run e s).result.attempts = n + 1 := congrArg Report.attempts h.result
    have hevents : (j.run e s).events = j.roundsBefore e s n ++ j.tickAt e s n ++
        (j.endNotices (j.run e s).result).map .noticed := by
      rw [h.run]
      rfl
    rw [hevents, hattempts, Event.notices_append, Event.notices_append, Event.notices_noticed,
      notices_rounds h.within h.before, notices_tickAt, List.range_succ, List.flatMap_append,
      List.flatMap_singleton, hlast]
  · have hattempts : (j.run e s).result.attempts = n := congrArg Report.attempts h.result
    have hevents : (j.run e s).events = j.roundsBefore e s n ++
        (j.endNotices (j.run e s).result).map .noticed := by
      rw [h.run]
      rfl
    rw [hevents, hattempts, Event.notices_append, Event.notices_noticed,
      notices_rounds h.within h.before]

/-- The ticks that left the poll open are all, or all but the last. -/
theorem filter_open :
    (List.range (j.run e s).result.attempts).filter (fun i => !(j.recordAt e s i).isFinal) =
      List.range (j.run e s).result.openTicks := by
  have hopen : ∀ n, n < j.plan.maxAttempts → (∀ i < n, (j.findingAt e s i).isPending = true) →
      (List.range n).filter (fun i => !(j.recordAt e s i).isFinal) = List.range n := by
    intro n hwithin hbefore
    refine List.filter_eq_self.mpr fun i hi => ?_
    rw [isFinal_of_before hwithin hbefore hi]
    rfl
  rcases j.endsWith_or_cutBefore e s with ⟨n, h⟩ | ⟨n, h⟩
  · have hdecided : (j.run e s).result.ending ≠ .cancelled := by
      rw [h.result]
      exact (Finding.shownBy_ending (f := j.findingAt e s n) (t := j.recordAt e s n) rfl rfl).2
    have hlast : [n].filter (fun i => !(j.recordAt e s i).isFinal) = [] := by
      rw [List.filter_singleton, h.isFinal]
      rfl
    rw [Report.openTicks_of_decided hdecided, h.result]
    dsimp only
    rw [List.range_succ, List.filter_append, hopen n h.within h.before, hlast, List.append_nil,
      Nat.add_sub_cancel]
  · have hcancelled : (j.run e s).result.ending = .cancelled := congrArg Report.ending h.result
    rw [Report.openTicks_of_cancelled hcancelled, h.result]
    exact hopen n h.within h.before

end Job

/-! ### Checks that say nothing about polls -/

def Followup.Discreet : Followup Q A α → Prop
  | .decide judgement => ∀ n ∈ judgement.log, n.aboutPoll = false
  | .read _ judge => ∀ answer, ∀ n ∈ (judge answer).log, n.aboutPoll = false

/-- Whatever the check tells of is not the poll that calls it. -/
def Check.Discreet (c : Check Q A α) : Prop := ∀ answer, (c.next answer).Discreet

theorem Check.Discreet.call {c : Check Q A α} (h : c.Discreet) (source : Source Q A σ)
    (state : σ) : ∀ n ∈ (c.call source state).log, n.aboutPoll = false := by
  have hnext := h (source c.query state).1.answer
  cases hfirst : c.next (source c.query state).1.answer with
  | decide judgement =>
    rw [c.call_of_decide source state hfirst]
    rw [hfirst] at hnext
    exact hnext
  | read query judge =>
    rw [c.call_of_read source state hfirst]
    rw [hfirst] at hnext
    exact hnext _

theorem ErrorClass.judge_log (c : ErrorClass) (message : String) :
    ∀ n ∈ (c.judge message : Judgement α).log, n = .transientError message := by
  cases c with
  | transient => exact fun n hn => List.mem_singleton.mp hn
  | permanent => exact fun n hn => absurd hn List.not_mem_nil

theorem ErrorClass.judge_discreet (c : ErrorClass) (message : String) :
    ∀ n ∈ (c.judge message : Judgement α).log, n.aboutPoll = false := by
  intro n hn
  rw [c.judge_log message n hn]
  rfl

theorem Wait.judge_discreet {β : Type} (t : Tolerance) (look : β → Finding α)
    (answer : Except ClusterFault β) : ∀ n ∈ (judge t look answer).log, n.aboutPoll = false := by
  cases answer with
  | ok found => exact fun n hn => absurd hn List.not_mem_nil
  | error e => exact (t.ofFault e).judge_discreet e.message

theorem Wait.check_discreet (h : ClusterHandle) (w : Wait) : (w.check h).Discreet := by
  cases w with
  | modelReplicas model expected =>
    intro answer
    cases answer with
    | error e => exact (h.tolerance.ofFault e).judge_discreet e.message
    | ok status =>
      unfold check
      simp only [modelNext, followModel]
      cases field? "deployment" status with
      | none => exact fun n hn => absurd hn List.not_mem_nil
      | some deployment => exact judge_discreet h.tolerance _
  | _ => exact fun answer => judge_discreet h.tolerance _ answer

theorem Probe.check_discreet (p : Probe) : p.check.Discreet := by
  intro answer
  cases answer with
  | error e => exact (p.tolerance.classify e).judge_discreet e.message
  | ok answer =>
    change ∀ n ∈ (p.judge (.ok answer)).log, n.aboutPoll = false
    unfold judge
    dsimp only
    split
    · split
      · exact fun n hn => absurd hn List.not_mem_nil
      · rename_i e _
        exact (p.tolerance.classify e).judge_discreet e.message
    · intro n hn
      rw [List.mem_singleton.mp hn]
      rfl

namespace Job

variable (j : Job Q A α) (e : Setting Q A σ) (s : Scene σ)

/-- Nothing speaks for the poll but the poll itself. -/
structure Discreet : Prop where
  check : j.check.Discreet
  farewell : ∀ elapsed, ∀ n ∈ j.farewell elapsed, n.aboutPoll = false

variable {j e s}

theorem Discreet.tickNotices (h : j.Discreet) (i : Nat) :
    (j.tickNotices e s i).filter Notice.aboutPoll =
      if (j.recordAt e s i).isFinal then [] else [j.openNotice e s i] := by
  have hlog : (j.check.callAt e.source s.source i).log.filter Notice.aboutPoll = [] :=
    List.filter_eq_nil_iff.mpr fun n hn => by simp [h.check.call e.source _ n hn]
  unfold Job.tickNotices
  rw [List.filter_append, hlog, List.nil_append]
  split <;> rfl

theorem Discreet.endNotices (h : j.Discreet) (r : Report α) :
    (j.endNotices r).filter Notice.aboutPoll =
      [r.ending.notice j.plan.description r.attempts r.elapsed] := by
  have hending : (r.ending.notice j.plan.description r.attempts r.elapsed).aboutPoll = true := by
    cases r.ending <;> rfl
  have hfarewell :
      (if r.ending.isConverged then j.farewell r.elapsed else []).filter Notice.aboutPoll = [] := by
    split
    · exact List.filter_eq_nil_iff.mpr fun n hn => by simp [h.farewell r.elapsed n hn]
    · rfl
  unfold Job.endNotices
  rw [List.filter_cons_of_pos hending, hfarewell]

theorem flatMap_unless {β : Type} (l : List Nat) (p : Nat → Bool) (f : Nat → β) :
    (l.flatMap fun i => if p i then [] else [f i]) = (l.filter fun i => !p i).map f := by
  induction l with
  | nil => rfl
  | cons i l ih =>
    rw [List.flatMap_cons, ih, List.filter_cons]
    cases p i <;> rfl

/-- What polls tell of themselves in a run: the ticks that left it open, and the end. -/
theorem Discreet.told (h : j.Discreet) :
    (Event.notices (j.run e s).events).filter Notice.aboutPoll =
      ((List.range (j.run e s).result.attempts).filter
          fun i => !(j.recordAt e s i).isFinal).map (j.openNotice e s) ++
        [(j.run e s).result.ending.notice j.plan.description (j.run e s).result.attempts
          (j.run e s).result.elapsed] := by
  rw [notices_run, List.filter_append, List.filter_flatMap, h.endNotices, ← flatMap_unless]
  exact congrArg (· ++ _) (List.flatMap_congr fun i _ => h.tickNotices i)

theorem level_lastLine (plan : Plan) (r : Report α) : (r.lastLine plan).level ≠ .debug := by
  unfold Report.lastLine
  cases r.ending <;> nofun

/-- The log of a run tells the same story as the report. It has what the checks tell, one
line for every tick that left the poll open, one line for the end, and nothing after it but
what follows a condition that was met. Where nobody else speaks for the poll, the lines about
it are those of the open ticks, in order, and the last one. -/
theorem run_tells (j : Job Q A α) (e : Setting Q A σ) (s : Scene σ) :
    let r := (j.run e s).result
    let notices := Event.notices (j.run e s).events
    notices.map Notice.line =
        ((List.range r.attempts).flatMap fun i =>
          (j.check.callAt e.source s.source i).log.map Notice.line ++
            if (j.recordAt e s i).isFinal then [] else [j.openLine e s i]) ++
          r.lastLine j.plan ::
            (if r.ending.isConverged then (j.farewell r.elapsed).map Notice.line else []) ∧
      (j.Discreet →
        let told := (notices.filter Notice.aboutPoll).map Notice.line
        told =
            ((List.range r.attempts).filter fun i => !(j.recordAt e s i).isFinal).map
              (j.openLine e s) ++ [r.lastLine j.plan] ∧
          (told.filter (·.level = .debug)).length = r.openTicks) := by
  intro r notices
  constructor
  · have hticks : ∀ i, (j.tickNotices e s i).map Notice.line =
        (j.check.callAt e.source s.source i).log.map Notice.line ++
          if (j.recordAt e s i).isFinal then [] else [j.openLine e s i] := by
      intro i
      unfold tickNotices
      rw [List.map_append]
      split
      · rfl
      · rw [List.map_singleton, line_openNotice]
    have hend : (j.endNotices r).map Notice.line = r.lastLine j.plan ::
        (if r.ending.isConverged then (j.farewell r.elapsed).map Notice.line else []) := by
      unfold endNotices
      rw [List.map_cons, Report.line_notice]
      split <;> rfl
    have hnotices : notices = (List.range r.attempts).flatMap (j.tickNotices e s) ++
        j.endNotices r := j.notices_run e s
    rw [hnotices, List.map_append, List.map_flatMap, hend]
    simp only [hticks]
  · intro h told
    have htold : told =
        ((List.range r.attempts).filter fun i => !(j.recordAt e s i).isFinal).map
          (j.openLine e s) ++ [r.lastLine j.plan] := by
      have hall : notices.filter Notice.aboutPoll = _ := h.told
      change (notices.filter Notice.aboutPoll).map Notice.line = _
      rw [hall, List.map_append, List.map_map, List.map_singleton, Report.line_notice]
      rfl
    refine ⟨htold, ?_⟩
    have hopen : ∀ l : List Nat, (l.map (j.openLine e s)).filter (·.level = .debug) =
        l.map (j.openLine e s) := by
      intro l
      refine List.filter_eq_self.mpr fun line hline => ?_
      obtain ⟨i, -, rfl⟩ := List.mem_map.mp hline
      rfl
    have hlast : [r.lastLine j.plan].filter (·.level = .debug) = [] := by
      simp [level_lastLine]
    rw [htold, List.filter_append, hopen, hlast, List.append_nil, List.length_map, filter_open,
      List.length_range]

end Job

/-- The token is cancelled in the sleep after the second tick, which has no note. -/
theorem run_tells_rehearsal :
    let e : Setting Nat (fun _ => Finding Nat) (Tally Nat) :=
      { source := rehearsed, trigger := { Trigger.never with time := some 1500 } }
    let p := (rehearsal 0).run e (e.opening [])
    let told := ((Event.notices p.events).filter Notice.aboutPoll).map Notice.line
    (rehearsal 0).Discreet ∧ p.result.ending = .cancelled ∧ p.result.attempts = 2 ∧
      told = [(rehearsal 0).openLine e (e.opening []) 0, (rehearsal 0).openLine e (e.opening []) 1,
        p.result.lastLine (rehearsal 0).plan] := by
  intro e p told
  have h : (rehearsal 0).Discreet :=
    { check := fun _ _ hn => absurd hn List.not_mem_nil
      farewell := fun _ _ hn => absurd hn List.not_mem_nil }
  obtain ⟨-, htold⟩ := (rehearsal 0).run_tells e (e.opening [])
  refine ⟨h, by decide, by decide, (htold h).1.trans ?_⟩
  rw [show ((List.range p.result.attempts).filter fun i =>
    !((rehearsal 0).recordAt e (e.opening []) i).isFinal) = [0, 1] by decide]
  rfl

end Convergence
