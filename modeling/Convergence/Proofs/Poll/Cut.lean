import Convergence.Proofs.Poll.Undisturbed

/-! A token cuts a run and changes nothing in it. The ticks that began before the token
was cancelled are those of the same poll without a token, and where these are all of
its ticks the two runs are one. -/
namespace Convergence

variable {Q : Type} {A : Q → Type} {σ α : Type}

/-- Whether the counter passes the place of the trigger on its way. -/
def Trigger.struck (place : Option Nat) (before after : Nat) : Bool :=
  place.any fun n => before < n && n ≤ after

theorem Trigger.struck_self (place : Option Nat) (n : Nat) : struck place n n = false := by
  unfold struck
  cases place with
  | none => rfl
  | some k =>
    simp only [Option.any_some, Bool.and_eq_false_imp, decide_eq_true_eq, decide_eq_false_iff_not]
    omega

theorem Trigger.struck_succ (place : Option Nat) {before after : Nat} (h : before ≤ after) :
    (struck place before after || place == some (after + 1)) = struck place before (after + 1) := by
  unfold struck
  cases place with
  | none => rfl
  | some k =>
    rw [Bool.eq_iff_iff]
    simp only [Option.any_some, Bool.or_eq_true, Bool.and_eq_true, decide_eq_true_eq, beq_iff_eq,
      Option.some.injEq]
    omega

namespace Setting

variable (e : Setting Q A σ)

/-- Whether the token is cancelled by the time of `t`, a scene that follows `s`: it was
before, or the clock, the reads or the observed ticks have come past the trigger. -/
def reached (s t : Scene σ) : Bool :=
  s.cancelled || Trigger.struck e.trigger.onRead s.reads t.reads ||
    Trigger.struck e.trigger.onTick s.ticks t.ticks || e.trigger.past t.now

/-- The scene `t` follows `s` and knows what struck the token on the way. -/
structure Follows (s t : Scene σ) : Prop where
  reads : s.reads ≤ t.reads
  ticks : s.ticks ≤ t.ticks
  cancelled : t.cancelled =
    (s.cancelled || Trigger.struck e.trigger.onRead s.reads t.reads ||
      Trigger.struck e.trigger.onTick s.ticks t.ticks)

namespace Follows

variable {e} {s t : Scene σ}

theorem refl (s : Scene σ) : e.Follows s s :=
  { reads := le_rfl
    ticks := le_rfl
    cancelled := by simp [Trigger.struck_self] }

theorem at_time (h : e.Follows s t) (now : Instant) : e.Follows s { t with now } :=
  { reads := h.reads, ticks := h.ticks, cancelled := h.cancelled }

theorem ask (h : e.Follows s t) (q : Q) : e.Follows s (e.ask q t).2 :=
  { reads := Nat.le_succ_of_le h.reads
    ticks := h.ticks
    cancelled := by
      change (t.cancelled || e.trigger.onRead == some (t.reads + 1)) =
        (s.cancelled || Trigger.struck e.trigger.onRead s.reads (t.reads + 1) ||
          Trigger.struck e.trigger.onTick s.ticks t.ticks)
      rw [h.cancelled, ← Trigger.struck_succ _ h.reads]
      ac_rfl }

theorem observe (h : e.Follows s t) : e.Follows s (e.observe t) :=
  { reads := h.reads
    ticks := Nat.le_succ_of_le h.ticks
    cancelled := by
      change (t.cancelled || e.trigger.onTick == some (t.ticks + 1)) =
        (s.cancelled || Trigger.struck e.trigger.onRead s.reads t.reads ||
          Trigger.struck e.trigger.onTick s.ticks (t.ticks + 1))
      rw [h.cancelled, ← Trigger.struck_succ _ h.ticks]
      ac_rfl }

theorem isCancelled (h : e.Follows s t) : e.isCancelled t = e.reached s t := by
  unfold Setting.isCancelled reached
  rw [h.cancelled]

end Follows
end Setting

namespace Job

variable (j : Job Q A α) (e : Setting Q A σ) (s : Scene σ)

theorem checkOnce_follows {e : Setting Q A σ} {s t : Scene σ} (h : e.Follows s t) :
    e.Follows s (j.checkOnce e t).scene := by
  unfold checkOnce Scene.pass
  dsimp only
  cases j.check.next (e.ask j.check.query t).1.answer with
  | decide judgement => exact (h.ask _).at_time _
  | read query judge => exact (((h.ask _).at_time _).ask _).at_time _

theorem shown_follows {e : Setting Q A σ} {s t : Scene σ} (h : e.Follows s t) :
    e.Follows s (j.shown e t) := by
  unfold shown afterTick
  split
  · exact (j.checkOnce_follows h).observe
  · exact j.checkOnce_follows h

theorem sceneAt_follows (i : Nat) : e.Follows s (j.sceneAt e s i) := by
  induction i with
  | zero => exact .refl s
  | succ i ih => exact (j.shown_follows ih).at_time _

theorem stops_sceneAt (i : Nat) :
    j.stops e (j.sceneAt e s i) = (j.cancellable && e.reached s (j.sceneAt e s i)) := by
  unfold stops
  rw [(j.sceneAt_follows e s i).isCancelled]

theorem stops_shown (i : Nat) :
    j.stops e (j.shown e (j.sceneAt e s i)) =
      (j.cancellable && e.reached s (j.shown e (j.sceneAt e s i))) := by
  unfold stops
  rw [(j.shown_follows (j.sceneAt_follows e s i)).isCancelled]

/-- A tick counts the reads of its call, and itself if it is observed. -/
theorem shown_counts :
    (j.shown e s).reads = s.reads + (j.check.call e.source s.source).reads.length ∧
      (j.shown e s).ticks = s.ticks + if j.observed then 1 else 0 := by
  unfold shown afterTick checkOnce Check.call Setting.ask Scene.pass Setting.observe
  dsimp only
  cases j.check.next (e.source j.check.query s.source).1.answer <;> cases j.observed <;>
    exact ⟨rfl, rfl⟩

theorem sceneAt_reads (i : Nat) :
    (j.sceneAt e s i).reads = s.reads +
      ((List.range i).map fun k => (j.check.callAt e.source s.source k).reads.length).sum := by
  induction i with
  | zero => rfl
  | succ i ih =>
    rw [List.sum_range_succ, ← Nat.add_assoc, ← ih, Check.callAt, ← sceneAt_source, sceneAt, rested]
    exact (j.shown_counts e (j.sceneAt e s i)).1

theorem sceneAt_ticks (h : j.observed = false) (i : Nat) :
    (j.sceneAt e s i).ticks = s.ticks := by
  induction i with
  | zero => rfl
  | succ i ih =>
    have hcount := (j.shown_counts e (j.sceneAt e s i)).2
    rw [h, ih] at hcount
    rw [sceneAt, rested]
    exact hcount

/-- The same poll where no token reaches it. -/
def free (j : Job Q A α) : Job Q A α := { j with cancellable := false }

theorem sceneAt_free (i : Nat) : j.free.sceneAt e s i = j.sceneAt e s i := by
  induction i with
  | zero => rfl
  | succ i ih => exact congrArg (j.rested e) ih

theorem findingAt_free (i : Nat) : j.free.findingAt e s i = j.findingAt e s i := by
  unfold findingAt
  rw [sceneAt_free]
  rfl

theorem courseAt_free (i : Nat) : j.free.courseAt e s i = j.courseAt e s i := by
  induction i with
  | zero => rfl
  | succ i ih => rw [courseAt, courseAt, ih, findingAt_free]

theorem tickAt_free (i : Nat) : j.free.tickAt e s i = j.tickAt e s i := by
  unfold tickAt recordAt returnAt
  rw [findingAt_free, sceneAt_free]
  rfl

theorem roundsBefore_free (n : Nat) : j.free.roundsBefore e s n = j.roundsBefore e s n := by
  unfold roundsBefore roundAt returnAt
  simp only [tickAt_free, sceneAt_free, courseAt_free]
  rfl

theorem run_free {n : Nat} (hn : n < j.plan.maxAttempts)
    (hpending : ∀ i < n, (j.findingAt e s i).isPending = true)
    (hend : n + 1 = j.plan.maxAttempts ∨ (j.findingAt e s n).isPending = false) :
    j.free.run e s =
      (j.conclude (j.courseAt e s (n + 1)) ((j.findingAt e s n).ending?.getD .timedOut) (n + 1)
        (j.shown e (j.sceneAt e s n))).prepend (j.roundsBefore e s n ++ j.tickAt e s n) := by
  have hfree := j.free.run_of_decided e s hn
    (fun i hi => (j.findingAt_free e s i).symm ▸ hpending i hi) (fun _ _ => rfl)
    ((j.findingAt_free e s n).symm ▸ hend)
  rw [roundsBefore_free, tickAt_free, findingAt_free, courseAt_free, sceneAt_free] at hfree
  exact hfree

theorem roundsBefore_prefix {p n : Nat} (h : p ≤ n) :
    j.roundsBefore e s p <+: j.roundsBefore e s n := by
  induction h with
  | refl => exact List.prefix_rfl
  | step _ ih =>
    rw [roundsBefore_succ]
    exact ih.trans (List.prefix_append _ _)

/-- The end of a run that the token cuts after a tick: at once if the tick was over
when the token was cancelled, and else at the instant of the trigger. -/
theorem cutAt_succ_now {i : Nat} (hcut : j.stops e (j.sceneAt e s (i + 1)) = true) :
    j.returnAt e s i ≤ (j.cutAt e s (i + 1)).now ∧
      (j.stops e (j.shown e (j.sceneAt e s i)) = true →
        (j.cutAt e s (i + 1)).now = j.returnAt e s i) ∧
      (j.stops e (j.shown e (j.sceneAt e s i)) = false →
        e.trigger.time = some (j.cutAt e s (i + 1)).now) := by
  rw [sceneAt, rested] at hcut
  rw [cutAt, returnAt]
  generalize j.shown e (j.sceneAt e s i) = t at hcut ⊢
  cases ht : j.stops e t with
  | true =>
    rw [j.cutScene_of_stops e ht]
    exact ⟨Nat.le_refl _, fun _ => rfl, fun h => Bool.noConfusion h⟩
  | false =>
    obtain ⟨hle, -, htime⟩ := j.cutScene_now e ht hcut
    exact ⟨hle, fun h => Bool.noConfusion h, fun _ => htime⟩

/-- A token cuts a run and changes nothing in it. The poll makes those ticks that it
would make without a token and that begin before the token is cancelled. If these are
all of them the runs are one; else the poll ends as cancelled after them. -/
theorem run_cut :
    ∃ n p, (j.free.run e s).result.attempts = n + 1 ∧
      (j.free.run e s).events = j.roundsBefore e s n ++ j.tickAt e s n ++
        (j.endNotices (j.free.run e s).result).map .noticed ∧
      p ≤ n + 1 ∧
      (∀ i < p, (j.cancellable && e.reached s (j.sceneAt e s i)) = false) ∧
      (p ≤ n → (j.cancellable && e.reached s (j.sceneAt e s p)) = true) ∧
      (p = n + 1 → j.run e s = j.free.run e s) ∧
      (p ≤ n → ∃ cut,
        (j.run e s).scene.now = cut ∧
        (j.run e s).result =
          { ending := .cancelled
            attempts := p
            elapsed := elapsedBetween s.now cut
            lastNote := Finding.lastNote? ((List.range p).map (j.findingAt e s)) } ∧
        (j.run e s).events = j.roundsBefore e s p ++
          [.noticed (.cancelled j.plan.description p (elapsedBetween s.now cut))] ∧
        j.roundsBefore e s p <+: (j.free.run e s).events ∧
        (p = 0 → cut = s.now) ∧
        ∀ i, p = i + 1 → j.returnAt e s i ≤ cut ∧
          (e.reached s (j.shown e (j.sceneAt e s i)) = true → cut = j.returnAt e s i) ∧
          (e.reached s (j.shown e (j.sceneAt e s i)) = false → e.trigger.time = some cut)) := by
  obtain ⟨n, hn, hpending, hend⟩ := j.exists_decided e s
  have hfree := j.run_free e s hn hpending hend
  simp only [← stops_sceneAt]
  -- The run is cut before the first of its rounds at which the token stops it.
  by_cases hcut : ∃ p, p ≤ n ∧ j.stops e (j.sceneAt e s p) = true
  · classical
    obtain ⟨hp, hstops⟩ := Nat.find_spec hcut
    have hlive : ∀ i < Nat.find hcut, j.stops e (j.sceneAt e s i) = false := by
      intro i hi
      have hnot := Nat.find_min hcut hi
      simpa using not_and.mp hnot (by omega)
    generalize Nat.find hcut = p at hp hstops hlive
    have hrun := j.run_of_cut e s (Nat.lt_of_le_of_lt hp hn)
      (fun i hi => hpending i (Nat.lt_of_lt_of_le hi hp)) hlive hstops
    have hlistens : j.cancellable = true := by
      unfold stops at hstops
      exact (Bool.and_eq_true _ _ ▸ hstops).1
    refine ⟨n, p, by rw [hfree]; rfl, by rw [hfree]; rfl, by omega, hlive, fun _ => hstops,
      fun h => by omega, fun _ => ⟨(j.cutAt e s p).now, by rw [hrun]; rfl, ?_, ?_, ?_, ?_, ?_⟩⟩
    · rw [hrun, ← courseAt_lastNote]
      unfold conclude report
      rw [courseAt_started]
      rfl
    · rw [hrun]
      unfold conclude report
      rw [courseAt_started]
      rfl
    · rw [hfree]
      exact (j.roundsBefore_prefix e s hp).trans ((List.prefix_append _ _).trans
        (List.prefix_append _ _))
    · intro h
      rw [h]
      rfl
    · intro i h
      subst h
      have hnow := j.cutAt_succ_now e s hstops
      rw [stops_shown, hlistens, Bool.true_and] at hnow
      exact hnow
  · have hlive : ∀ i ≤ n, j.stops e (j.sceneAt e s i) = false := by
      intro i hi
      simpa using fun h => hcut ⟨i, hi, h⟩
    have hrun := j.run_of_decided e s hn hpending hlive hend
    refine ⟨n, n + 1, by rw [hfree]; rfl, by rw [hfree]; rfl, le_rfl,
      fun i hi => hlive i (by omega), fun h => by omega, fun _ => hrun.trans hfree.symm,
      fun h => by omega⟩

end Job

/-- The second tick is due at 1005. A token cancelled at that instant stops it if it is
cancelled before anything else happens there, and comes too late if it is last. -/
example :
    let at_due := fun early : Bool =>
      ((rehearsal 0).run
        { source := rehearsed, trigger := { Trigger.never with time := some 1005, early } }
        { now := 0, source := [], reads := 0, ticks := 0, cancelled := false }).result
    (at_due true).attempts = 1 ∧ (at_due false).attempts = 2 ∧
      (at_due true).elapsed = (at_due false).elapsed := by
  decide

end Convergence
