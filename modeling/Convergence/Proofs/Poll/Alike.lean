import Convergence.Proofs.Poll.Endings

/-! Polls that cannot be told apart by their reports. They may read different things from
different sources, as many as they like in a call: a report knows only what the calls
found, how long they took, and before which of them the token was cancelled. -/
namespace Convergence

variable {Q R : Type} {A : Q → Type} {B : R → Type} {σ τ α : Type}

namespace Job

/-- The second poll keeps the pace of the first, and its first `n` calls find the same in
the same time. -/
structure Alike (j : Job Q A α) (e : Setting Q A σ) (s : Scene σ)
    (k : Job R B α) (f : Setting R B τ) (t : Scene τ) (n : Nat) : Prop where
  interval : k.plan.interval = j.plan.interval
  maxAttempts : k.plan.maxAttempts = j.plan.maxAttempts
  cancellable : k.cancellable = j.cancellable
  now : t.now = s.now
  time : f.trigger.time = e.trigger.time
  early : f.trigger.early = e.trigger.early
  finding : ∀ i < n, k.findingAt f t i = j.findingAt e s i
  delay : ∀ i < n, (k.check.callAt f.source t.source i).delay =
    (j.check.callAt e.source s.source i).delay
  cancelled : ∀ i ≤ n, (k.sceneAt f t i).cancelled = (j.sceneAt e s i).cancelled

namespace Alike

variable {j : Job Q A α} {e : Setting Q A σ} {s : Scene σ}
  {k : Job R B α} {f : Setting R B τ} {t : Scene τ} {n i : Nat}

theorem startAt (h : j.Alike e s k f t n) (hi : i ≤ n) :
    k.startAt f.source t.source t.now i = j.startAt e.source s.source s.now i := by
  induction i with
  | zero => exact h.now
  | succ i ih =>
    unfold Job.startAt
    rw [ih (Nat.le_of_succ_le hi), h.delay i hi, h.interval]

theorem returnAt (h : j.Alike e s k f t n) (hi : i < n) :
    k.returnAt f t i = j.returnAt e s i := by
  rw [returnAt_eq_endAt, returnAt_eq_endAt]
  unfold endAt
  rw [h.startAt (Nat.le_of_lt hi), h.delay i hi]

theorem past (h : j.Alike e s k f t n) (now : Instant) :
    f.trigger.past now = e.trigger.past now := by
  unfold Trigger.past
  rw [h.time, h.early]

theorem stops_sceneAt (h : j.Alike e s k f t n) (hi : i ≤ n) :
    k.stops f (k.sceneAt f t i) = j.stops e (j.sceneAt e s i) := by
  unfold stops Setting.isCancelled
  rw [h.cancellable, h.cancelled i hi, h.past, sceneAt_now, sceneAt_now, h.startAt hi]

theorem stops_shown (h : j.Alike e s k f t n) (hi : i < n) :
    k.stops f (k.shown f (k.sceneAt f t i)) = j.stops e (j.shown e (j.sceneAt e s i)) := by
  have hcancelled := h.cancelled (i + 1) hi
  rw [sceneAt, sceneAt, rested_cancelled, rested_cancelled] at hcancelled
  have hreturn := h.returnAt hi
  unfold Job.returnAt at hreturn
  unfold stops Setting.isCancelled
  rw [h.cancellable, hcancelled, h.past, hreturn]

theorem cutAt (h : j.Alike e s k f t n) (hi : i ≤ n) :
    (k.cutAt f t i).now = (j.cutAt e s i).now := by
  cases i with
  | zero => exact h.now
  | succ i =>
    have hreturn := h.returnAt hi
    unfold Job.returnAt at hreturn
    rw [Job.cutAt, Job.cutAt, cutScene, cutScene, h.stops_shown hi, h.time, hreturn]
    split
    · exact hreturn
    · rfl

theorem lastNote (h : j.Alike e s k f t n) :
    Finding.lastNote? ((List.range n).map (k.findingAt f t)) =
      Finding.lastNote? ((List.range n).map (j.findingAt e s)) :=
  congrArg _ (List.map_congr_left fun i hi => h.finding i (List.mem_range.mp hi))

theorem endsWith (h : j.Alike e s k f t (n + 1)) (hends : j.EndsWith e s n) :
    k.EndsWith f t n where
  within := h.maxAttempts ▸ hends.within
  before := fun i hi => h.finding i (Nat.lt_succ_of_lt hi) ▸ hends.before i hi
  live := fun i hi => h.stops_sceneAt (Nat.le_succ_of_le hi) ▸ hends.live i hi
  last := by
    rw [h.maxAttempts, h.finding n (Nat.lt_succ_self n)]
    exact hends.last

theorem cutBefore (h : j.Alike e s k f t n) (hcut : j.CutBefore e s n) : k.CutBefore f t n where
  within := h.maxAttempts ▸ hcut.within
  before := fun i hi => h.finding i hi ▸ hcut.before i hi
  live := fun i hi => h.stops_sceneAt (Nat.le_of_lt hi) ▸ hcut.live i hi
  cut := h.stops_sceneAt (Nat.le_refl n) ▸ hcut.cut

/-- Polls that are alike as long as the first of them goes on end with the same report. -/
theorem result (h : j.Alike e s k f t (j.run e s).result.attempts) :
    (k.run f t).result = (j.run e s).result := by
  rcases j.endsWith_or_cutBefore e s with ⟨n, hends⟩ | ⟨n, hcut⟩
  · have hattempts : (j.run e s).result.attempts = n + 1 := congrArg Report.attempts hends.result
    rw [hattempts] at h
    rw [hends.result, (h.endsWith hends).result, h.lastNote, h.finding n (Nat.lt_succ_self n),
      h.returnAt (Nat.lt_succ_self n), h.now]
  · have hattempts : (j.run e s).result.attempts = n := congrArg Report.attempts hcut.result
    rw [hattempts] at h
    rw [hcut.result, (h.cutBefore hcut).result, h.lastNote, h.cutAt (Nat.le_refl n), h.now]

end Alike
end Job
end Convergence
