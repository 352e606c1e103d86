import Convergence.Proofs.Poll.Cut
import Convergence.Proofs.Poll.Steps

/-! The tick that decides a poll: the first whose finding is not pending, as long as the
attempts and the token let the poll come so far. A poll converges or aborts by such a
tick and in no other way. -/
namespace Convergence

variable {Q : Type} {A : Q → Type} {σ α : Type}

theorem Finding.ending?_injective {f g : Finding α} {ending : Ending α}
    (hf : f.ending? = some ending) (hg : g.ending? = some ending) : f = g := by
  cases f <;> cases hf <;> cases g <;> cases hg <;> rfl

theorem Finding.isPending_of_ending {f : Finding α} {ending : Ending α}
    (h : f.ending? = some ending) : f.isPending = false := by
  rw [← Bool.not_eq_true, ← ending?_eq_none, h]
  nofun

namespace Job

variable (j : Job Q A α) (e : Setting Q A σ) (s : Scene σ)

theorem sceneAt_now_le (i : Nat) : (j.sceneAt e s i).now ≤ (j.sceneAt e s (i + 1)).now := by
  have hwake := lt_wakeTime (j.shown e (j.sceneAt e s i)).now j.plan.interval_pos
  rw [shown_now, checkOnce_now] at hwake
  rw [sceneAt, rested_now, shown_now, checkOnce_now]
  unfold Instant at hwake ⊢
  omega

theorem sceneAt_cancelled (i : Nat) (h : (j.sceneAt e s i).cancelled = true) :
    (j.sceneAt e s (i + 1)).cancelled = true := by
  have hfollows := j.shown_follows (Setting.Follows.refl (e := e) (j.sceneAt e s i))
  rw [sceneAt, rested_cancelled, hfollows.cancelled, h]
  rfl

/-- A token that stops one round stops all the rounds after it. -/
theorem stops_sceneAt_mono {i k : Nat} (hik : i ≤ k)
    (h : j.stops e (j.sceneAt e s i) = true) : j.stops e (j.sceneAt e s k) = true := by
  induction hik with
  | refl => exact h
  | step _ ih => exact j.stops_mono e (j.sceneAt_cancelled e s _) (j.sceneAt_now_le e s _) ih

/-- Where a poll ends: before a tick that the token stops, or with a tick that decides
it or has none after it. -/
theorem exists_last :
    ∃ n < j.plan.maxAttempts, (∀ i < n, (j.findingAt e s i).isPending = true) ∧
      (∀ i < n, j.stops e (j.sceneAt e s i) = false) ∧
      (j.stops e (j.sceneAt e s n) = true ∨ j.stops e (j.sceneAt e s n) = false ∧
        (n + 1 = j.plan.maxAttempts ∨ (j.findingAt e s n).isPending = false)) := by
  obtain ⟨n, hn, hpending, hend⟩ := j.exists_decided e s
  by_cases hcut : ∃ p, p ≤ n ∧ j.stops e (j.sceneAt e s p) = true
  · classical
    obtain ⟨hp, hstops⟩ := Nat.find_spec hcut
    refine ⟨Nat.find hcut, Nat.lt_of_le_of_lt hp hn,
      fun i hi => hpending i (Nat.lt_of_lt_of_le hi hp), fun i hi => ?_, .inl hstops⟩
    simpa using not_and.mp (Nat.find_min hcut hi) (by omega)
  · have hlive : ∀ i ≤ n, j.stops e (j.sceneAt e s i) = false := by
      intro i hi
      simpa using fun h => hcut ⟨i, hi, h⟩
    exact ⟨n, hn, hpending, fun i hi => hlive i (Nat.le_of_lt hi), .inr ⟨hlive n le_rfl, hend⟩⟩

/-- The tick after `k` others is made, and its finding is the first that is not pending. -/
structure DecidedAt (k : Nat) (f : Finding α) : Prop where
  within : k < j.plan.maxAttempts
  before : ∀ i < k, (j.findingAt e s i).isPending = true
  live : j.stops e (j.sceneAt e s k) = false
  finding : j.findingAt e s k = f

variable {j e s} {k : Nat} {f : Finding α} {ending : Ending α}

theorem DecidedAt.live_of_le (h : j.DecidedAt e s k f) {i : Nat} (hi : i ≤ k) :
    j.stops e (j.sceneAt e s i) = false := by
  rw [← Bool.not_eq_true]
  exact fun hstops => absurd h.live (by simp [j.stops_sceneAt_mono e s hi hstops])

theorem DecidedAt.run (h : j.DecidedAt e s k f) (hf : f.ending? = some ending) :
    j.run e s =
      (j.conclude (j.courseAt e s (k + 1)) ending (k + 1) (j.shown e (j.sceneAt e s k))).prepend
        (j.roundsBefore e s k ++ j.tickAt e s k) := by
  have hend := h.finding ▸ Finding.isPending_of_ending hf
  rw [j.run_of_decided e s h.within h.before (fun _ => h.live_of_le) (.inr hend), h.finding, hf]
  rfl

theorem DecidedAt.result (h : j.DecidedAt e s k f) (hf : f.ending? = some ending) :
    (j.run e s).result =
      { ending
        attempts := k + 1
        elapsed := elapsedBetween s.now (j.endAt e.source s.source s.now k)
        lastNote := Finding.lastNote? ((List.range (k + 1)).map (j.findingAt e s)) } := by
  rw [h.run hf, ← returnAt_eq_endAt, ← courseAt_lastNote]
  unfold conclude report
  rw [courseAt_started]
  rfl

/-- A poll ends as a finding says if and only if a tick with that finding decides it. -/
theorem run_ending_iff (hf : f.ending? = some ending) :
    (j.run e s).result.ending = ending ↔ ∃ k, j.DecidedAt e s k f := by
  constructor
  · intro hending
    obtain ⟨n, hn, hpending, hlive, hcut | ⟨hnow, hend⟩⟩ := j.exists_last e s
    · rw [j.run_of_cut e s hn hpending hlive hcut] at hending
      cases hending
      cases f <;> cases hf
    · have hlives : ∀ i ≤ n, j.stops e (j.sceneAt e s i) = false := fun i hi =>
        (Nat.lt_or_eq_of_le hi).elim (hlive i) fun heq => heq ▸ hnow
      rw [j.run_of_decided e s hn hpending hlives hend] at hending
      change (j.findingAt e s n).ending?.getD .timedOut = ending at hending
      refine ⟨n, hn, hpending, hnow, ?_⟩
      cases hfinding : (j.findingAt e s n).ending? with
      | none =>
        rw [hfinding] at hending
        cases hending
        cases f <;> cases hf
      | some other =>
        rw [hfinding] at hending
        cases hending
        exact Finding.ending?_injective hfinding hf
  · rintro ⟨k, h⟩
    rw [h.result hf]

/-- What is told of a run that a finding ends, by the tick that has this finding. -/
theorem result_iff (hf : f.ending? = some ending) (attempts : Nat) (elapsed : Duration) :
    ((j.run e s).result.ending = ending ∧ attempts = (j.run e s).result.attempts ∧
        elapsed = (j.run e s).result.elapsed) ↔
      ∃ k, j.DecidedAt e s k f ∧ attempts = k + 1 ∧
        elapsed = elapsedBetween s.now (j.endAt e.source s.source s.now k) := by
  constructor
  · rintro ⟨hending, hattempts, helapsed⟩
    obtain ⟨k, hdecided⟩ := (run_ending_iff hf).mp hending
    rw [hdecided.result hf] at hattempts helapsed
    exact ⟨k, hdecided, hattempts, helapsed⟩
  · rintro ⟨k, hdecided, hattempts, helapsed⟩
    rw [hdecided.result hf]
    exact ⟨rfl, hattempts, helapsed⟩

/-! ### Reads -/

variable (j e s)

theorem reads_tickAt (i : Nat) :
    Event.reads (j.tickAt e s i) =
      (j.check.callAt e.source s.source i).reads.map fun read =>
        (read.1, j.startAt e.source s.source s.now i + read.2) := by
  rw [tickAt_eq, Event.reads_append, Call.reads_events, reads_tickEvents, List.append_nil]

theorem reads_roundsBefore (n : Nat) :
    Event.reads (j.roundsBefore e s n) =
      (List.range n).flatMap fun i => Event.reads (j.tickAt e s i) := by
  unfold roundsBefore
  rw [Event.reads_flatMap]
  refine List.flatMap_congr fun i _ => ?_
  unfold roundAt
  rw [Event.reads_append]
  exact List.append_nil _

variable {j e s}

theorem DecidedAt.source (h : j.DecidedAt e s k f) (hf : f.ending? = some ending) :
    (j.run e s).scene.source = j.check.sourceAfter e.source s.source (k + 1) := by
  rw [h.run hf, ← sceneAt_source, sceneAt, rested_source]
  rfl

end Job
end Convergence
