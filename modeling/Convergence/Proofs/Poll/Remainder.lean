import Convergence.Proofs.Poll.Steps

/-! What is left of a poll that nothing else disturbs, from wherever it stands. A step
takes its own events off the front of it. -/
namespace Convergence

variable {Q : Type} {A : Q → Type} {σ α : Type}

namespace Job

variable (j : Job Q A α) (e : Setting Q A σ)

/-- The poll from the end of a sleep on, which may have been cut. -/
def wakeUp (left : Nat) (c : Course) : Bool × Scene σ → Passage Q σ (Report α)
  | (true, s) => j.conclude c .cancelled (j.attempt (left + 1)) s
  | (false, s) => j.runFrom e left c s

/-- The poll from the return of a check on. -/
def afterCheck (left : Nat) (c : Course) (finding : Finding α) (s : Scene σ) :
    Passage Q σ (Report α) :=
  let ticked := j.tickEvents (j.tick c left s.now finding)
  let shown := j.afterTick e s
  match left, finding.ending? with
  | 0, ending =>
    (j.conclude (c.noting finding) (ending.getD .timedOut) (j.attempt 0) shown).prepend ticked
  | left + 1, some ending =>
    (j.conclude (c.noting finding) ending (j.attempt (left + 1)) shown).prepend ticked
  | left + 1, none =>
    (j.wakeUp e left (c.noting finding)
      (j.sleep e (wakeTime s.now j.plan.interval) shown)).prepend
      (ticked ++ [.noticed (j.pendingNotice (c.noting finding) (left + 1) s.now)])

theorem runFrom_eq {left : Nat} {c : Course} {s : Scene σ} (h : j.stops e s = false) :
    j.runFrom e left c s =
      (j.afterCheck e left c (j.checkOnce e s).result (j.checkOnce e s).scene).prepend
        (j.checkOnce e s).events := by
  unfold afterCheck
  cases left with
  | zero =>
    simp only [runFrom, h, Bool.false_eq_true, ↓reduceIte, takeTick]
    rw [Passage.prepend_prepend]
  | succ left =>
    simp only [runFrom, h, Bool.false_eq_true, ↓reduceIte, takeTick]
    cases hending : (j.checkOnce e s).result.ending? with
    | some ending =>
      dsimp only
      rw [Passage.prepend_prepend]
    | none =>
      dsimp only
      rw [Passage.prepend_prepend, afterTick_now, ← List.append_assoc]
      rcases j.sleep e (wakeTime (j.checkOnce e s).scene.now j.plan.interval)
        (j.afterTick e (j.checkOnce e s).scene) with ⟨_ | _, s⟩
      · rfl
      · rfl

theorem afterCheck_of_last {left : Nat} {c : Course} {f : Finding α} {s : Scene σ}
    (last : left = 0 ∨ f.isPending = false) :
    j.afterCheck e left c f s =
      (j.conclude (c.noting f) (f.ending?.getD .timedOut) (j.attempt left)
        (j.afterTick e s)).prepend (j.tickEvents (j.tick c left s.now f)) := by
  cases left with
  | zero => rfl
  | succ left =>
    have hpending : f.isPending = false := by simpa using last
    unfold afterCheck
    cases hending : f.ending? with
    | none => simp [(Finding.ending?_eq_none _).mp hending] at hpending
    | some ending => rfl

theorem afterCheck_of_pending {left : Nat} {c : Course} {f : Finding α} {s : Scene σ}
    (pending : f.isPending = true) :
    j.afterCheck e (left + 1) c f s =
      (j.wakeUp e left (c.noting f)
        (j.sleep e (wakeTime s.now j.plan.interval) (j.afterTick e s))).prepend
        (j.tickEvents (j.tick c (left + 1) s.now f) ++
          [.noticed (j.pendingNotice (c.noting f) (left + 1) s.now)]) := by
  unfold afterCheck
  rw [(Finding.ending?_eq_none _).mpr pending]

end Job

namespace Runner

/-- What is left of a poll where nothing else runs. -/
def remainder (e : Setting Q A σ) (r : Runner Q A α) (s : Scene σ) : Passage Q σ (Report α) :=
  match r.phase with
  | .due left => r.job.runFrom e left r.course s
  | .sleeping left wake => r.job.wakeUp e left r.course (r.job.sleep e wake s)
  | .reading left wake (.decide judgement) =>
    (r.job.afterCheck e left r.course judgement.finding { s with now := wake }).prepend
      judgement.events
  | .reading left wake (.read query judge) =>
    let read := e.ask query { s with now := wake }
    let judgement := judge read.1.answer
    (r.job.afterCheck e left r.course judgement.finding (read.2.pass read.1.delay)).prepend
      (.asked r.job.index query wake :: judgement.events)
  | .rereading left wake judgement =>
    (r.job.afterCheck e left r.course judgement.finding { s with now := wake }).prepend
      judgement.events
  | .done report => { result := report, scene := s, events := [] }

variable {e : Setting Q A σ} {s : Scene σ} {r : Runner Q A α} {p : Passage Q σ (Runner Q A α)}

theorem remainder_of_verdict {left : Nat} {wake : Instant} {j : Judgement α}
    (verdict : r.phase.verdict? = some (left, wake, j)) :
    r.remainder e s =
      (r.job.afterCheck e left r.course j.finding { s with now := wake }).prepend j.events := by
  unfold remainder
  rcases Phase.of_verdict verdict with h | h
  · rw [h]
  · rw [h]

theorem remainder_of_followed {left : Nat} {wake : Instant} {query : Q}
    {judge : A query → Judgement α} (phase : r.phase = .reading left wake (.read query judge)) :
    r.remainder e s =
      let read := e.ask query { s with now := wake }
      let judgement := judge read.1.answer
      (r.job.afterCheck e left r.course judgement.finding (read.2.pass read.1.delay)).prepend
        (.asked r.job.index query wake :: judgement.events) := by
  unfold remainder
  rw [phase]

theorem remainder_finish (c : Course) (ending : Ending α) (attempts : Nat) :
    ((r.finish c ending attempts s).result.remainder e (r.finish c ending attempts s).scene).prepend
      (r.finish c ending attempts s).events = r.job.conclude c ending attempts s := by
  unfold finish remainder Job.conclude Passage.prepend
  dsimp only
  rw [List.append_nil]

theorem remainder_of_stops {left : Nat} (idle : r.phase.idle? = some left)
    (stops : r.job.stops e s = true) :
    r.remainder e s = r.job.conclude r.course .cancelled (r.job.attempt left - 1) s := by
  unfold remainder
  rcases Phase.of_idle idle with h | ⟨wake, h⟩
  · rw [h]
    exact r.job.runFrom_of_stops e stops
  · have hsleep : r.job.sleep e wake s = (true, s) := by
      unfold Job.sleep
      rw [if_pos stops]
    have hattempt : r.job.attempt left - 1 = r.job.attempt (left + 1) := Nat.sub_sub _ _ _
    rw [h, hattempt]
    dsimp only
    rw [hsleep]
    rfl

theorem remainder_of_live {left : Nat} (idle : r.phase.idle? = some left)
    (live : r.job.stops e s = false)
    (awake : ∀ wake, r.phase.wake? = some wake → wake = s.now) :
    r.remainder e s = r.job.runFrom e left r.course s := by
  unfold remainder
  rcases Phase.of_idle idle with h | ⟨wake, h⟩
  · rw [h]
  · obtain rfl := awake wake (by rw [h]; rfl)
    rw [h]
    dsimp only
    rw [r.job.sleep_eq e (Nat.le_refl _), if_neg (by simp [live])]
    rfl

/-- A step takes its own events off what is left of the poll. -/
theorem Act.remainder_eq (h : Act e s r p)
    (timely : ∀ wake, r.phase.wake? = some wake → s.now ≤ wake) :
    r.remainder e s = (p.result.remainder e p.scene).prepend p.events := by
  cases h with
  | refuse idle stops => rw [remainder_finish, remainder_of_stops idle stops]
  | ask idle live due =>
    rw [remainder_of_live idle live fun wake hw => Nat.le_antisymm (due wake hw) (timely wake hw),
      r.job.runFrom_eq e live]
    unfold Job.checkOnce
    dsimp only
    cases hnext : r.job.check.next (e.ask r.job.check.query s).1.answer with
    | decide judgement =>
      rw [remainder_of_verdict rfl]
      exact (Passage.prepend_prepend [_] judgement.events _).symm
    | read query judge =>
      rw [remainder_of_followed rfl]
      exact (Passage.prepend_prepend [_] (_ :: _) _).symm
  | askAgain phase answered =>
    obtain rfl := Nat.le_antisymm answered (timely _ (by rw [phase]; rfl))
    rw [remainder_of_followed phase, remainder_of_verdict rfl]
    exact (Passage.prepend_prepend [_] _ _).symm
  | decide verdict answered last =>
    obtain rfl := Nat.le_antisymm answered (timely _ (Phase.wake?_of_verdict verdict))
    rw [remainder_of_verdict verdict, r.job.afterCheck_of_last e last, Passage.prepend_prepend,
      ← r.remainder_finish (e := e), Passage.prepend_prepend]
    rfl
  | @cut left _ j verdict answered pending stops =>
    obtain rfl := Nat.le_antisymm answered (timely _ (Phase.wake?_of_verdict verdict))
    have hsleep : ∀ wake,
        r.job.sleep e wake (r.job.afterTick e s) = (true, r.job.afterTick e s) := by
      intro wake
      unfold Job.sleep
      rw [if_pos stops]
    rw [remainder_of_verdict verdict, r.job.afterCheck_of_pending e pending, hsleep, Job.wakeUp,
      ← r.remainder_finish (e := e), Passage.prepend_prepend, Passage.prepend_prepend,
      ← List.append_assoc j.events]
    rfl
  | rest verdict answered pending live =>
    obtain rfl := Nat.le_antisymm answered (timely _ (Phase.wake?_of_verdict verdict))
    rw [remainder_of_verdict verdict, r.job.afterCheck_of_pending e pending,
      Passage.prepend_prepend, ← List.append_assoc]
    rfl

end Runner
end Convergence
