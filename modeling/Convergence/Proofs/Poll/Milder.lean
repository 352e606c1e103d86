import Convergence.Proofs.Poll.Notices
import Convergence.Proofs.Poll.Outcomes

/-! Two polls that differ in one thing: the check of the second leaves some errors open that
are fatal to the first. The polls go the same way up to such an error. There the first is
over, while the second has seen its text as one more note, and goes on if it has attempts
left. -/
namespace Convergence

variable {Q : Type} {A : Q → Type} {σ α : Type}

namespace Check

/-- The second check spares the errors of which `Spared` tells in which state of the source
they come up, and with which text. In all else it does what the first does. -/
structure Milder (c d : Check Q A α) (source : Source Q A σ) (Spared : σ → String → Prop) :
    Prop where
  same : ∀ state, (∀ cause, ¬Spared state cause) → d.call source state = c.call source state
  fatal : ∀ state cause, Spared state cause → (c.call source state).finding = .fatal cause
  spared : ∀ state cause, Spared state cause → ∃ log,
    d.call source state =
      { c.call source state with finding := .pending (some cause), log }

namespace Milder

variable {c d : Check Q A α} {source : Source Q A σ} {Spared : σ → String → Prop}

/-- A call takes its time and leaves the source behind, whether an error is spared or not. -/
theorem call (h : c.Milder d source Spared) (state : σ) :
    (d.call source state).delay = (c.call source state).delay ∧
      (d.call source state).reads = (c.call source state).reads ∧
      (d.call source state).source = (c.call source state).source := by
  by_cases hspared : ∃ cause, Spared state cause
  · obtain ⟨cause, hcause⟩ := hspared
    obtain ⟨log, hcall⟩ := h.spared state cause hcause
    rw [hcall]
    exact ⟨rfl, rfl, rfl⟩
  · rw [h.same state fun cause hcause => hspared ⟨cause, hcause⟩]
    exact ⟨rfl, rfl, rfl⟩

theorem sourceAfter (h : c.Milder d source Spared) (state : σ) (i : Nat) :
    d.sourceAfter source state i = c.sourceAfter source state i := by
  induction i with
  | zero => rfl
  | succ i ih =>
    unfold Check.sourceAfter
    rw [ih]
    exact (h.call _).2.2

end Milder
end Check

theorem Setting.Follows.unique {e : Setting Q A σ} {s t u : Scene σ} (ht : e.Follows s t)
    (hu : e.Follows s u) (hnow : u.now = t.now) (hsource : u.source = t.source)
    (hreads : u.reads = t.reads) (hticks : u.ticks = t.ticks) : u = t := by
  have hcancelled : u.cancelled = t.cancelled := by
    rw [ht.cancelled, hu.cancelled, hreads, hticks]
  cases t
  cases u
  simp only [Scene.mk.injEq]
  exact ⟨hnow, hsource, hreads, hticks, hcancelled⟩

namespace Job

/-- The same poll with another check. -/
def judging (j : Job Q A α) (check : Check Q A α) : Job Q A α := { j with check }

section

variable {j : Job Q A α} {d : Check Q A α} {e : Setting Q A σ} {Spared : σ → String → Prop}

theorem shown_judging (h : j.check.Milder d e.source Spared) (s : Scene σ) :
    (j.judging d).shown e s = j.shown e s := by
  obtain ⟨hdelay, hreads, hsource⟩ := h.call s.source
  obtain ⟨hjreads, hjticks⟩ := j.shown_counts e s
  obtain ⟨hkreads, hkticks⟩ := (j.judging d).shown_counts e s
  refine (j.shown_follows (.refl s)).unique ((j.judging d).shown_follows (.refl s)) ?_ ?_ ?_ ?_
  · rw [shown_now, shown_now, checkOnce_now, checkOnce_now]
    exact congrArg (s.now + ·) hdelay
  · rw [shown_source, shown_source, checkOnce_source, checkOnce_source]
    exact hsource
  · rw [hkreads, hjreads]
    exact congrArg (s.reads + ·) (congrArg List.length hreads)
  · rw [hkticks, hjticks]
    rfl

theorem sceneAt_judging (h : j.check.Milder d e.source Spared) (s : Scene σ) (i : Nat) :
    (j.judging d).sceneAt e s i = j.sceneAt e s i := by
  induction i with
  | zero => rfl
  | succ i ih =>
    rw [sceneAt, sceneAt, rested, rested, ih, shown_judging h]
    rfl

theorem stops_judging (h : j.check.Milder d e.source Spared) (s : Scene σ) (i : Nat) :
    (j.judging d).stops e ((j.judging d).sceneAt e s i) = j.stops e (j.sceneAt e s i) := by
  rw [sceneAt_judging h]
  rfl

theorem returnAt_judging (h : j.check.Milder d e.source Spared) (s : Scene σ) (i : Nat) :
    (j.judging d).returnAt e s i = j.returnAt e s i := by
  unfold returnAt
  rw [sceneAt_judging h, shown_judging h]

theorem cutAt_judging (h : j.check.Milder d e.source Spared) (s : Scene σ) (i : Nat) :
    (j.judging d).cutAt e s i = j.cutAt e s i := by
  cases i with
  | zero => rfl
  | succ i =>
    rw [cutAt, cutAt, sceneAt_judging h, shown_judging h]
    rfl

end

/-- The tick after `i` others meets an error that is spared, with this text. -/
def MeetsSpared (j : Job Q A α) (e : Setting Q A σ) (s : Scene σ) (Spared : σ → String → Prop)
    (i : Nat) (cause : String) : Prop :=
  Spared (j.check.sourceAfter e.source s.source i) cause

section

variable {j : Job Q A α} {d : Check Q A α} {e : Setting Q A σ} {s : Scene σ}
  {Spared : σ → String → Prop} {n : Nat}

theorem callAt_judging (h : j.check.Milder d e.source Spared) {i : Nat}
    (hi : ∀ cause, ¬j.MeetsSpared e s Spared i cause) :
    d.callAt e.source s.source i = j.check.callAt e.source s.source i := by
  unfold Check.callAt
  rw [h.sourceAfter]
  exact h.same _ hi

theorem findingAt_judging (h : j.check.Milder d e.source Spared) {i : Nat}
    (hi : ∀ cause, ¬j.MeetsSpared e s Spared i cause) :
    (j.judging d).findingAt e s i = j.findingAt e s i := by
  rw [findingAt_eq, findingAt_eq]
  exact congrArg Call.finding (callAt_judging h hi)

theorem recordAt_judging (h : j.check.Milder d e.source Spared) {i : Nat}
    (hi : ∀ cause, ¬j.MeetsSpared e s Spared i cause) :
    (j.judging d).recordAt e s i = j.recordAt e s i := by
  unfold recordAt
  rw [findingAt_judging h hi, returnAt_judging h]
  rfl

theorem tickAt_judging (h : j.check.Milder d e.source Spared) {i : Nat}
    (hi : ∀ cause, ¬j.MeetsSpared e s Spared i cause) :
    (j.judging d).tickAt e s i = j.tickAt e s i := by
  rw [tickAt_eq, tickAt_eq, recordAt_judging h hi, ← sceneAt_now, ← sceneAt_now,
    sceneAt_judging h]
  exact congrArg (fun call => Call.events call j.index (j.sceneAt e s i).now ++ _)
    (callAt_judging h hi)

theorem courseAt_judging (h : j.check.Milder d e.source Spared)
    (hn : ∀ i < n, ∀ cause, ¬j.MeetsSpared e s Spared i cause) :
    (j.judging d).courseAt e s n = j.courseAt e s n := by
  induction n with
  | zero => rfl
  | succ n ih =>
    rw [courseAt, courseAt, ih fun i hi => hn i (Nat.lt_succ_of_lt hi),
      findingAt_judging h (hn n (Nat.lt_succ_self n))]

theorem roundsBefore_judging (h : j.check.Milder d e.source Spared)
    (hn : ∀ i < n, ∀ cause, ¬j.MeetsSpared e s Spared i cause) :
    (j.judging d).roundsBefore e s n = j.roundsBefore e s n := by
  unfold roundsBefore
  refine List.flatMap_congr fun i hi => ?_
  have hlt := List.mem_range.mp hi
  unfold roundAt
  rw [tickAt_judging h (hn i hlt), returnAt_judging h,
    courseAt_judging h fun k hk => hn k (Nat.lt_of_lt_of_le hk hlt)]
  rfl

theorem EndsWith.judging (h : j.check.Milder d e.source Spared) (hends : j.EndsWith e s n)
    (hn : ∀ i ≤ n, ∀ cause, ¬j.MeetsSpared e s Spared i cause) :
    (j.judging d).EndsWith e s n where
  within := hends.within
  before i hi := by
    rw [findingAt_judging h (hn i (Nat.le_of_lt hi))]
    exact hends.before i hi
  live i hi := by
    rw [stops_judging h]
    exact hends.live i hi
  last := by
    rw [findingAt_judging h (hn n (Nat.le_refl n))]
    exact hends.last

theorem CutBefore.judging (h : j.check.Milder d e.source Spared) (hcut : j.CutBefore e s n)
    (hn : ∀ i < n, ∀ cause, ¬j.MeetsSpared e s Spared i cause) :
    (j.judging d).CutBefore e s n where
  within := hcut.within
  before i hi := by
    rw [findingAt_judging h (hn i hi)]
    exact hcut.before i hi
  live i hi := by
    rw [stops_judging h]
    exact hcut.live i hi
  cut := by
    rw [stops_judging h]
    exact hcut.cut

/-- Where no error is spared, the milder check makes no difference. -/
theorem run_judging (h : j.check.Milder d e.source Spared)
    (hn : ∀ i < (j.run e s).result.attempts, ∀ cause, ¬j.MeetsSpared e s Spared i cause) :
    (j.judging d).run e s = j.run e s := by
  rcases j.endsWith_or_cutBefore e s with ⟨n, hends⟩ | ⟨n, hcut⟩
  · rw [hends.result] at hn
    have hnone : ∀ i ≤ n, ∀ cause, ¬j.MeetsSpared e s Spared i cause :=
      fun i hi => hn i (Nat.lt_succ_of_le hi)
    rw [hends.run, (hends.judging h hnone).run, courseAt_judging h hn,
      findingAt_judging h (hnone n (Nat.le_refl n)), sceneAt_judging h, shown_judging h,
      roundsBefore_judging h fun i hi => hnone i (Nat.le_of_lt hi),
      tickAt_judging h (hnone n (Nat.le_refl n))]
    rfl
  · rw [hcut.result] at hn
    rw [hcut.run, (hcut.judging h hn).run, courseAt_judging h hn, cutAt_judging h,
      roundsBefore_judging h hn]
    rfl

/-! ### Where an error is spared -/

/-- The abort of a poll by its tick after `n` others, with this cause, and what a second poll
makes of it: a tick like those before, whose note is the cause. -/
structure PutOffBy (k j : Job Q A α) (e : Setting Q A σ) (s : Scene σ) (n : Nat)
    (cause : String) : Prop where
  aborted : (j.run e s).result.outcome j.plan =
    .error (.aborted j.plan.description cause (n + 1) (j.recordAt e s n).elapsed)
  /-- The runs show the same up to the end of the reads of that tick. -/
  begun :
    let begun := j.roundsBefore e s n ++
      (j.check.callAt e.source s.source n).asks j.index (j.startAt e.source s.source s.now n)
    begun <+: (j.run e s).events ∧ begun <+: (k.run e s).events
  findings : ∀ i < n, k.findingAt e s i = j.findingAt e s i
  noted : k.recordAt e s n = { j.recordAt e s n with mark := .pending, note := some cause }
  lastNote : Finding.lastNote? ((List.range (n + 1)).map (k.findingAt e s)) = some cause
  runsOut : n + 1 = j.plan.maxAttempts →
    (k.run e s).result.outcome k.plan =
      .error (.timedOut j.plan.description j.plan.maxAttempts j.plan.interval (n + 1)
        (j.recordAt e s n).elapsed (some cause))
  goesOn : n + 1 < j.plan.maxAttempts →
    k.roundsBefore e s (n + 1) <+: (k.run e s).events ∧
      if k.stops e (k.sceneAt e s (n + 1)) then
        (k.run e s).result.ending = .cancelled ∧ (k.run e s).result.attempts = n + 1
      else n + 2 ≤ (k.run e s).result.attempts
  attempts : n + 1 ≤ (k.run e s).result.attempts

theorem MeetsSpared.finding {cause : String} (h : j.check.Milder d e.source Spared)
    (hspared : j.MeetsSpared e s Spared n cause) : j.findingAt e s n = .fatal cause := by
  rw [findingAt_eq]
  exact h.fatal _ cause hspared

/-- A tick that does not leave the poll open is the last. -/
theorem endsWith_of_decisive (hn : n < (j.run e s).result.attempts)
    (hdecisive : (j.findingAt e s n).isPending = false) : j.EndsWith e s n := by
  have hlast : ∀ m, (∀ i < m, (j.findingAt e s i).isPending = true) → m ≤ n := by
    intro m hbefore
    refine Nat.le_of_not_lt fun hlt => ?_
    have hpending := hbefore n hlt
    rw [hdecisive] at hpending
    cases hpending
  rcases j.endsWith_or_cutBefore e s with ⟨m, hends⟩ | ⟨m, hcut⟩
  · rw [hends.result] at hn
    cases Nat.le_antisymm (hlast m hends.before) (Nat.le_of_lt_succ hn)
    exact hends
  · rw [hcut.result] at hn
    exact absurd hn (Nat.not_lt.mpr (hlast m hcut.before))

theorem endsWith_of_fatal {cause : String} (hn : n < (j.run e s).result.attempts)
    (hfatal : j.findingAt e s n = .fatal cause) : j.EndsWith e s n :=
  endsWith_of_decisive hn (by rw [hfatal]; rfl)

theorem findingAt_spared {cause : String} (h : j.check.Milder d e.source Spared)
    (hspared : j.MeetsSpared e s Spared n cause) :
    (j.judging d).findingAt e s n = .pending (some cause) := by
  obtain ⟨log, hcall⟩ := h.spared _ cause hspared
  have hsource := h.sourceAfter s.source n
  rw [findingAt_eq]
  change (d.callAt e.source s.source n).finding = _
  unfold Check.callAt
  rw [hsource, hcall]

/-- Before the tick that meets a spared error there is none. -/
theorem EndsWith.not_spared (h : j.check.Milder d e.source Spared) (hends : j.EndsWith e s n) :
    ∀ i < n, ∀ cause, ¬j.MeetsSpared e s Spared i cause := by
  intro i hi cause hspared
  have hpending := hends.before i hi
  rw [MeetsSpared.finding h hspared] at hpending
  cases hpending

/-- A run begins with its rounds, and with the reads of the tick after them. -/
theorem begins_with {k : Job Q A α} (hn : n < (k.run e s).result.attempts) :
    k.roundsBefore e s n ++
        (k.check.callAt e.source s.source n).asks k.index (k.startAt e.source s.source s.now n) <+:
      (k.run e s).events := by
  have htick : (k.check.callAt e.source s.source n).asks k.index
      (k.startAt e.source s.source s.now n) <+: k.tickAt e s n := by
    rw [tickAt_eq]
    exact (List.prefix_append _ _).trans (List.prefix_append _ _)
  have hround : ∀ m, n < m → k.roundsBefore e s n ++ k.tickAt e s n <+: k.roundsBefore e s m := by
    intro m hm
    refine List.IsPrefix.trans ?_ (k.roundsBefore_prefix e s hm)
    rw [roundsBefore_succ, List.prefix_append_right_inj]
    exact List.prefix_append _ _
  refine ((List.prefix_append_right_inj _).mpr htick).trans ?_
  rcases k.endsWith_or_cutBefore e s with ⟨m, hends⟩ | ⟨m, hcut⟩
  · rw [hends.result] at hn
    rw [hends.run]
    refine List.IsPrefix.trans ?_ (List.prefix_append _ _)
    rcases Nat.lt_or_eq_of_le (Nat.le_of_lt_succ hn) with hlt | rfl
    · exact (hround m hlt).trans (List.prefix_append _ _)
    · exact List.prefix_rfl
  · rw [hcut.result] at hn
    rw [hcut.run]
    exact (hround m hn).trans (List.prefix_append _ _)

/-- How far a run comes whose first ticks are pending: the token or the attempts end it. -/
theorem run_goes_on {k : Job Q A α} (hpending : ∀ i ≤ n, (k.findingAt e s i).isPending = true)
    (hlive : ∀ i ≤ n, k.stops e (k.sceneAt e s i) = false) (hn : n + 1 < k.plan.maxAttempts) :
    k.roundsBefore e s (n + 1) <+: (k.run e s).events ∧
      if k.stops e (k.sceneAt e s (n + 1)) then
        (k.run e s).result.ending = .cancelled ∧ (k.run e s).result.attempts = n + 1
      else n + 2 ≤ (k.run e s).result.attempts := by
  rcases k.endsWith_or_cutBefore e s with ⟨m, hends⟩ | ⟨m, hcut⟩
  · have hm : n + 1 ≤ m := by
      refine Nat.lt_of_not_le fun hle => ?_
      rcases hends.last with hlast | hlast
      · omega
      · rw [hpending m hle] at hlast
        cases hlast
    rw [hends.live (n + 1) hm, hends.result, hends.run]
    refine ⟨?_, Nat.succ_le_succ hm⟩
    exact ((k.roundsBefore_prefix e s hm).trans (List.prefix_append _ _)).trans
      (List.prefix_append _ _)
  · have hm : n + 1 ≤ m := by
      refine Nat.lt_of_not_le fun hle => ?_
      have hcuts := hcut.cut
      rw [hlive m hle] at hcuts
      cases hcuts
    rw [hcut.result, hcut.run]
    refine ⟨(k.roundsBefore_prefix e s hm).trans (List.prefix_append _ _), ?_⟩
    split
    · rename_i hstops
      refine ⟨rfl, Nat.le_antisymm (Nat.le_of_not_lt fun hlt => ?_) hm⟩
      rw [hcut.live (n + 1) hlt] at hstops
      cases hstops
    · rename_i hstops
      refine Nat.lt_of_le_of_ne hm ?_
      rintro rfl
      exact hstops hcut.cut

theorem lt_attempts {k : Job Q A α} (hpending : ∀ i ≤ n, (k.findingAt e s i).isPending = true)
    (hlive : ∀ i ≤ n, k.stops e (k.sceneAt e s i) = false) (hn : n < k.plan.maxAttempts) :
    n < (k.run e s).result.attempts := by
  rcases Nat.lt_or_eq_of_le hn with hlt | heq
  · have hon := (run_goes_on hpending hlive hlt).2
    split at hon
    · exact Nat.lt_of_succ_le (Nat.le_of_eq hon.2.symm)
    · exact Nat.lt_of_succ_lt hon
  · have hends : k.EndsWith e s n :=
      { within := hn
        before := fun i hi => hpending i (Nat.le_of_lt hi)
        live := hlive
        last := .inl heq }
    rw [hends.result]
    exact Nat.lt_succ_self n

theorem lastNote_spared {cause : String} (h : j.check.Milder d e.source Spared)
    (hspared : j.MeetsSpared e s Spared n cause) :
    Finding.lastNote? ((List.range (n + 1)).map ((j.judging d).findingAt e s)) = some cause := by
  rw [List.range_succ, List.map_append, List.map_singleton, findingAt_spared h hspared,
    Finding.lastNote?_concat]
  rfl

theorem recordAt_spared {cause : String} (h : j.check.Milder d e.source Spared)
    (hspared : j.MeetsSpared e s Spared n cause) :
    (j.judging d).recordAt e s n =
      { j.recordAt e s n with mark := .pending, note := some cause } := by
  unfold recordAt
  rw [findingAt_spared h hspared, returnAt_judging h]
  rfl

/-- With the error spared no tick so far decides the second poll. -/
theorem EndsWith.pending_spared {cause : String} (h : j.check.Milder d e.source Spared)
    (hends : j.EndsWith e s n) (hspared : j.MeetsSpared e s Spared n cause) :
    ∀ i ≤ n, ((j.judging d).findingAt e s i).isPending = true := by
  intro i hi
  rcases Nat.lt_or_eq_of_le hi with hlt | rfl
  · rw [findingAt_judging h (hends.not_spared h i hlt)]
    exact hends.before i hlt
  · rw [findingAt_spared h hspared]
    rfl

theorem EndsWith.live_judging (h : j.check.Milder d e.source Spared) (hends : j.EndsWith e s n) :
    ∀ i ≤ n, (j.judging d).stops e ((j.judging d).sceneAt e s i) = false := by
  intro i hi
  rw [stops_judging h]
  exact hends.live i hi

/-- The reads of the tick that meets the error are made by both polls. -/
theorem EndsWith.begins_judging (h : j.check.Milder d e.source Spared) (hends : j.EndsWith e s n)
    (hn : n < ((j.judging d).run e s).result.attempts) :
    j.roundsBefore e s n ++
        (j.check.callAt e.source s.source n).asks j.index (j.startAt e.source s.source s.now n) <+:
      ((j.judging d).run e s).events := by
  have hbegun := begins_with hn
  have hstart : (j.judging d).startAt e.source s.source s.now n =
      j.startAt e.source s.source s.now n := by
    rw [← sceneAt_now, ← sceneAt_now, sceneAt_judging h]
  have hasks : (d.callAt e.source s.source n).reads =
      (j.check.callAt e.source s.source n).reads := by
    unfold Check.callAt
    rw [h.sourceAfter]
    exact (h.call _).2.1
  rw [roundsBefore_judging h (hends.not_spared h), hstart] at hbegun
  unfold Call.asks at hbegun ⊢
  rw [← hasks]
  exact hbegun

theorem EndsWith.putOff {cause : String} (h : j.check.Milder d e.source Spared)
    (hends : j.EndsWith e s n) (hspared : j.MeetsSpared e s Spared n cause) :
    (j.judging d).PutOffBy j e s n cause := by
  have hpending := hends.pending_spared h hspared
  have hlive := hends.live_judging h
  have hattempts : n < ((j.judging d).run e s).result.attempts :=
    lt_attempts hpending hlive hends.within
  refine
    { aborted := ?_, begun := ⟨?_, hends.begins_judging h hattempts⟩
      findings := fun i hi => findingAt_judging h (hends.not_spared h i hi)
      noted := recordAt_spared h hspared, lastNote := lastNote_spared h hspared
      runsOut := fun hlast => ?_, goesOn := run_goes_on hpending hlive, attempts := hattempts }
  · rw [hends.result, hspared.finding h]
    rfl
  · apply begins_with
    rw [hends.result]
    exact Nat.lt_succ_self n
  · have hlasts : (j.judging d).EndsWith e s n :=
      { within := hends.within
        before := fun i hi => hpending i (Nat.le_of_lt hi)
        live := hlive
        last := .inl hlast }
    rw [hlasts.result, findingAt_spared h hspared, lastNote_spared h hspared, returnAt_judging h]
    rfl

end

/-! ### As polls are asked for -/

/-- The second poll puts off every abort of the first by an error that is spared, and does
the same where there is none. So it never makes fewer attempts. -/
structure Postpones (first second : Except PlanError (Job Q A α)) (e : Setting Q A σ)
    (s : Scene σ) (spared : Nat → String → Prop) : Prop where
  same : (∀ n < attemptsOf (await first e s).result, ∀ cause, ¬spared n cause) →
    await second e s = await first e s
  putOff : ∀ n < attemptsOf (await first e s).result, ∀ cause, spared n cause →
    ∃ j k, first = .ok j ∧ second = .ok k ∧ k.PutOffBy j e s n cause
  attempts : attemptsOf (await first e s).result ≤ attemptsOf (await second e s).result

theorem await_ok (j : Job Q A α) (e : Setting Q A σ) (s : Scene σ) :
    await (.ok j) e s = (j.run e s).map (·.outcome j.plan) := rfl

theorem attemptsOf_await (j : Job Q A α) (e : Setting Q A σ) (s : Scene σ) :
    attemptsOf (await (.ok j) e s).result = (j.run e s).result.attempts :=
  Report.attemptsOf_outcome _ j.plan

theorem postpones {c d : Check Q A α} {e : Setting Q A σ} {Spared : σ → String → Prop}
    (h : c.Milder d e.source Spared) (first : Except PlanError (Job Q A α))
    (hfirst : ∀ j, first = .ok j → j.check = c) (s : Scene σ) :
    Postpones first (first.map (·.judging d)) e s fun i =>
      Spared (c.sourceAfter e.source s.source i) := by
  cases hjob : first with
  | error error =>
    exact
      { same := fun _ => rfl
        putOff := fun n hn => absurd hn (Nat.not_lt_zero n)
        attempts := Nat.le_refl _ }
  | ok j =>
    cases hfirst j hjob
    have hputOff : ∀ n < (j.run e s).result.attempts, ∀ cause, j.MeetsSpared e s Spared n cause →
        j.EndsWith e s n ∧ (j.judging d).PutOffBy j e s n cause := by
      intro n hn cause hspared
      have hends := endsWith_of_fatal hn (hspared.finding h)
      exact ⟨hends, hends.putOff h hspared⟩
    have hsame : (∀ n < (j.run e s).result.attempts, ∀ cause, ¬j.MeetsSpared e s Spared n cause) →
        (j.judging d).run e s = j.run e s := run_judging h
    refine { same := ?_, putOff := ?_, attempts := ?_ }
    · rw [attemptsOf_await]
      intro hnone
      change await (.ok (j.judging d)) e s = await (.ok j) e s
      rw [await_ok, await_ok, hsame hnone]
      rfl
    · rw [attemptsOf_await]
      intro n hn cause hspared
      exact ⟨j, j.judging d, rfl, rfl, (hputOff n hn cause hspared).2⟩
    · change attemptsOf (await (.ok j) e s).result ≤
        attemptsOf (await (.ok (j.judging d)) e s).result
      rw [attemptsOf_await, attemptsOf_await]
      by_cases hspared : ∃ n < (j.run e s).result.attempts, ∃ cause,
          j.MeetsSpared e s Spared n cause
      · obtain ⟨n, hn, cause, hcause⟩ := hspared
        obtain ⟨hends, hoff⟩ := hputOff n hn cause hcause
        rw [hends.result]
        exact hoff.attempts
      · rw [hsame fun n hn cause hcause => hspared ⟨n, hn, cause, hcause⟩]

end Job
end Convergence
