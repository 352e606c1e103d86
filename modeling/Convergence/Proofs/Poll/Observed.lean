import Convergence.Proofs.Poll.Endings

/-! What an observer is shown of a poll, next to the report of it. A tick tells by itself
whether it is the last, and this is decided a second time where the poll ends; the two
agree in every run, wherever the token strikes. -/
namespace Convergence

variable {Q : Type} {A : Q → Type} {σ α : Type}

/-- A poll ends like this with the tick, unless it is cancelled. -/
def Ending.ShownBy (t : Tick) : Ending α → Prop
  | converged _ => t.mark = .met ∧ t.note = none
  | aborted cause => t.mark = .fatal ∧ t.note = some cause
  | timedOut => t.mark = .pending
  | cancelled => False

/-- The ticks tell the same as the report of the poll that has made them. -/
structure Report.ToldBy (r : Report α) (plan : Plan) (ticks : List Tick) : Prop where
  length : ticks.length = r.attempts
  numbered : ∀ i t, ticks[i]? = some t → t.attempt = i + 1 ∧ t.maxAttempts = plan.maxAttempts
  timely : ticks.Pairwise fun t u => t.elapsed.nanos ≤ u.elapsed.nanos
  before : ∀ t ∈ ticks.dropLast, t.isFinal = false
  last : ∀ t ∈ ticks.getLast?, t.isFinal = true ↔ r.ending ≠ .cancelled
  ending : ∀ t ∈ ticks.getLast?, t.isFinal = true →
    t.elapsed = r.elapsed ∧ r.ending.ShownBy t
  idle : ticks = [] → r.ending = .cancelled
  lastNote : r.lastNote = ((ticks.filter (·.mark = .pending)).filterMap (·.note)).getLast?

theorem elapsedBetween_mono (started : Instant) {now later : Instant} (h : now ≤ later) :
    (elapsedBetween started now).nanos ≤ (elapsedBetween started later).nanos := by
  unfold elapsedBetween Duration.ofMillis
  exact Nat.mul_le_mul_right _ (Nat.sub_le_sub_right h started)

theorem Finding.shownBy_ending {f : Finding α} {t : Tick} (hmark : t.mark = f.mark)
    (hnote : t.note = f.shown?) :
    (f.ending?.getD .timedOut).ShownBy t ∧ f.ending?.getD .timedOut ≠ .cancelled := by
  cases f with
  | pending note => exact ⟨hmark, nofun⟩
  | met value => exact ⟨⟨hmark, hnote⟩, nofun⟩
  | fatal cause => exact ⟨⟨hmark, hnote⟩, nofun⟩

namespace Job

variable {j : Job Q A α} {e : Setting Q A σ} {s : Scene σ}

theorem returnAt_lt (i : Nat) : j.returnAt e s i < j.returnAt e s (i + 1) := by
  have hwake := lt_wakeTime (j.returnAt e s i) j.plan.interval_pos
  have hreturn := j.returnAt_eq e s (i + 1)
  rw [sceneAt, rested_now, ← returnAt] at hreturn
  unfold Instant at hwake hreturn ⊢
  omega

theorem returnAt_mono {i k : Nat} (h : i ≤ k) : j.returnAt e s i ≤ j.returnAt e s k := by
  induction h with
  | refl => exact Nat.le_refl _
  | step _ ih => exact Nat.le_trans ih (Nat.le_of_lt (j.returnAt_lt _))

theorem recordAt_isFinal (i : Nat) :
    (j.recordAt e s i).isFinal = true ↔
      (j.findingAt e s i).isPending = false ∨ j.plan.maxAttempts ≤ i + 1 := by
  unfold Tick.isFinal recordAt
  cases j.findingAt e s i <;> simp [Finding.mark, Finding.isPending]

theorem ticks_tickEvents (t : Tick) :
    Event.ticks (j.tickEvents t : List (Event Q)) = if j.observed then [t] else [] := by
  unfold tickEvents
  split <;> rfl

/-- If there is an observer, it is shown one tick for each call. -/
theorem ticks_eq_flatMap :
    Event.ticks (j.run e s).events = (List.range (j.run e s).result.attempts).flatMap fun i =>
      if j.observed then [j.recordAt e s i] else [] := by
  rw [← Event.ticks_deeds, deeds_run, Event.ticks_flatMap]
  simp only [Event.ticks_append, Call.ticks_asks, List.nil_append, ticks_tickEvents]

theorem ticks_run (h : j.observed = true) :
    Event.ticks (j.run e s).events =
      (List.range (j.run e s).result.attempts).map (j.recordAt e s) := by
  rw [ticks_eq_flatMap, List.map_eq_flatMap]
  simp only [h, if_true]

variable (j e s)

theorem recordAt_note? (i : Nat) :
    (if (j.recordAt e s i).mark = .pending then (j.recordAt e s i).note else none) =
      (j.findingAt e s i).note? := by
  unfold recordAt
  cases j.findingAt e s i <;> rfl

/-- The last note is that of a tick that is pending. A cause is no note. -/
theorem lastNote_recordAt (n : Nat) :
    Finding.lastNote? ((List.range n).map (j.findingAt e s)) =
      ((((List.range n).map (j.recordAt e s)).filter (·.mark = .pending)).filterMap
        (·.note)).getLast? := by
  unfold Finding.lastNote?
  rw [List.filterMap_filter, List.filterMap_map, List.filterMap_map]
  refine congrArg List.getLast? (List.filterMap_congr fun i _ => ?_)
  simp only [Function.comp_apply, ← recordAt_note?, decide_eq_true_eq]

theorem recordAt_elapsed_mono {i k : Nat} (h : i ≤ k) :
    (j.recordAt e s i).elapsed.nanos ≤ (j.recordAt e s k).elapsed.nanos :=
  elapsedBetween_mono s.now (returnAt_mono h)

/-- A tick before the last is pending, and there are attempts left after it. -/
theorem recordAt_open {i : Nat} (hi : i + 1 < (j.run e s).result.attempts) :
    (j.recordAt e s i).isFinal = false := by
  have hpending := j.isPending_of_lt e s hi
  have hle := j.attempts_le e s
  rw [← Bool.not_eq_true, recordAt_isFinal, hpending]
  simp only [Bool.true_eq_false, false_or, not_le]
  omega

variable {j e s}

theorem getElem?_records {n i : Nat} {t : Tick}
    (h : ((List.range n).map (j.recordAt e s))[i]? = some t) :
    i < n ∧ t = j.recordAt e s i := by
  rw [List.getElem?_map] at h
  obtain ⟨k, hk, rfl⟩ := Option.map_eq_some_iff.mp h
  obtain ⟨hi, hget⟩ := List.getElem?_eq_some_iff.mp hk
  rw [List.getElem_range] at hget
  rw [List.length_range] at hi
  exact ⟨hi, by rw [hget]⟩

theorem mem_dropLast_records {n : Nat} {t : Tick}
    (h : t ∈ ((List.range n).map (j.recordAt e s)).dropLast) :
    ∃ i, i + 1 < n ∧ t = j.recordAt e s i := by
  cases n with
  | zero => cases h
  | succ n =>
    rw [List.range_succ, List.map_append, List.map_singleton, List.dropLast_concat] at h
    obtain ⟨i, hi, rfl⟩ := List.mem_map.mp h
    exact ⟨i, Nat.succ_lt_succ (List.mem_range.mp hi), rfl⟩

theorem getLast?_records {n : Nat} {t : Tick}
    (h : t ∈ ((List.range n).map (j.recordAt e s)).getLast?) :
    ∃ i, n = i + 1 ∧ t = j.recordAt e s i := by
  cases n with
  | zero => cases h
  | succ i =>
    rw [List.range_succ, List.map_append, List.map_singleton, List.getLast?_concat] at h
    exact ⟨i, rfl, (Option.some.inj h).symm⟩

/-- What the last tick tells about the end of the run. -/
theorem recordAt_last {i : Nat} (hi : (j.run e s).result.attempts = i + 1) :
    ((j.recordAt e s i).isFinal = true ↔ (j.run e s).result.ending ≠ .cancelled) ∧
      ((j.recordAt e s i).isFinal = true →
        (j.recordAt e s i).elapsed = (j.run e s).result.elapsed ∧
          (j.run e s).result.ending.ShownBy (j.recordAt e s i)) := by
  rcases j.endsWith_or_cutBefore e s with ⟨n, h⟩ | ⟨n, h⟩
  · rw [h.result] at hi ⊢
    cases hi
    obtain ⟨hshown, hending⟩ :=
      Finding.shownBy_ending (f := j.findingAt e s i) (t := j.recordAt e s i) rfl rfl
    have hfinal : (j.recordAt e s i).isFinal = true :=
      (recordAt_isFinal i).mpr (h.last.symm.imp_right fun heq => Nat.le_of_eq heq.symm)
    exact ⟨iff_of_true hfinal hending, fun _ => ⟨rfl, hshown⟩⟩
  · rw [h.result] at hi ⊢
    cases hi
    have hopen : ¬(j.recordAt e s i).isFinal = true := by
      rw [recordAt_isFinal, h.before i (Nat.lt_succ_self i)]
      have hwithin := h.within
      simp only [Bool.true_eq_false, false_or, not_le]
      omega
    exact ⟨iff_of_false hopen fun h => h rfl, fun hfinal => absurd hfinal hopen⟩

theorem idle_of_no_attempts (h : (j.run e s).result.attempts = 0) :
    (j.run e s).result.ending = .cancelled := by
  rcases j.endsWith_or_cutBefore e s with ⟨n, hends⟩ | ⟨n, hcut⟩
  · rw [hends.result] at h
    cases h
  · rw [hcut.result]

variable (j e s) in
theorem toldBy_records :
    (j.run e s).result.ToldBy j.plan
      ((List.range (j.run e s).result.attempts).map (j.recordAt e s)) := by
  refine
    { length := by rw [List.length_map, List.length_range]
      numbered := ?_, timely := ?_, before := ?_, last := ?_, ending := ?_, idle := ?_
      lastNote := ?_ }
  · intro i t ht
    obtain ⟨-, rfl⟩ := getElem?_records ht
    exact ⟨rfl, rfl⟩
  · rw [List.pairwise_map]
    exact List.pairwise_lt_range.imp fun h => j.recordAt_elapsed_mono e s (Nat.le_of_lt h)
  · intro t ht
    obtain ⟨i, hi, rfl⟩ := mem_dropLast_records ht
    exact j.recordAt_open e s hi
  · intro t ht
    obtain ⟨i, hi, rfl⟩ := getLast?_records ht
    exact (recordAt_last hi).1
  · intro t ht
    obtain ⟨i, hi, rfl⟩ := getLast?_records ht
    exact (recordAt_last hi).2
  · intro hnone
    rw [List.map_eq_nil_iff, List.range_eq_nil] at hnone
    exact idle_of_no_attempts hnone
  · rw [run_lastNote, lastNote_recordAt]

/-- An observer sees the run as it is: one tick for each call of the check, in order and
right after the reads of the call, and the ticks tell the same as the report. -/
theorem run_observed (h : j.observed = true) :
    (j.run e s).result.ToldBy j.plan (Event.ticks (j.run e s).events) ∧
      Event.deeds (j.run e s).events =
        (List.range (j.run e s).result.attempts).flatMap fun i =>
          (j.check.callAt e.source s.source i).asks j.index
              (j.startAt e.source s.source s.now i) ++
            (Event.ticks (j.run e s).events)[i]?.toList.map .ticked := by
  rw [ticks_run h]
  refine ⟨j.toldBy_records e s, ?_⟩
  rw [deeds_run]
  refine List.flatMap_congr fun i hi => ?_
  unfold tickEvents
  rw [if_pos h, List.getElem?_map, List.getElem?_range (List.mem_range.mp hi)]
  rfl

end Job

/-- The token is cancelled while the observer is shown the second tick. -/
theorem run_observed_rehearsal :
    let e : Setting Nat (fun _ => Finding Nat) (Tally Nat) :=
      { source := rehearsed, trigger := { Trigger.never with onTick := some 2 } }
    let p := (rehearsal 0).run e (e.opening [])
    (rehearsal 0).observed = true ∧ p.result.ToldBy (rehearsal 0).plan (Event.ticks p.events) ∧
      p.result.ending = .cancelled ∧
      (Event.ticks p.events).map (·.note) = [some "half", none] := by
  intro e p
  exact ⟨rfl, (Job.run_observed rfl).1, by decide, by decide⟩

end Convergence
