import Convergence.Proofs.Poll.Steps
import Convergence.Proofs.Poll.Undisturbed

/-! Polls that run together come to an end. As long as one of them has not ended there is
a next instant at which one can run, and every pass does some of the work that is left. -/
namespace Convergence

variable {Q : Type} {A : Q → Type} {σ α : Type}

namespace Runner

variable {e : Setting Q A σ} {s : Scene σ} {r : Runner Q A α}

theorem canRun_of_answered (h : r.isAnswered s = true) : r.canRun e s = true := by
  unfold isAnswered at h
  unfold canRun
  split at h <;> simp_all

/-! ### The next instant -/

theorem firstWake_eq_none {rs : List (Runner Q A α)} (h : firstWake rs = none) :
    ∀ r ∈ rs, r.phase.wake? = none := by
  induction rs with
  | nil => exact nofun
  | cons r rs ih =>
    unfold firstWake at h
    intro other hother
    split at h
    · cases h
    · cases h
    · rcases List.mem_cons.mp hother with rfl | hmem
      · assumption
      · exact ih h other hmem

theorem firstWake_eq_some {rs : List (Runner Q A α)} {wake : Instant}
    (h : firstWake rs = some wake) :
    (∃ r ∈ rs, r.phase.wake? = some wake) ∧
      ∀ r ∈ rs, ∀ other, r.phase.wake? = some other → wake ≤ other := by
  induction rs generalizing wake with
  | nil => cases h
  | cons r rs ih =>
    unfold firstWake at h
    split at h
    · rename_i mine theirs hmine htheirs
      obtain ⟨⟨first, hfirst, hwake⟩, hleast⟩ := ih htheirs
      have hmin := Option.some.inj h
      refine ⟨?_, fun other hother later hlater => ?_⟩
      · split at hmin
        · exact ⟨r, List.mem_cons_self, hmin ▸ hmine⟩
        · exact ⟨first, List.mem_cons_of_mem _ hfirst, hmin ▸ hwake⟩
      · rcases List.mem_cons.mp hother with rfl | hmem
        · obtain rfl := Option.some.inj (hmine.symm.trans hlater)
          subst hmin
          split
          · exact Nat.le_refl _
          · exact Nat.le_of_lt (Nat.lt_of_not_le ‹_›)
        · have hle := hleast other hmem later hlater
          subst hmin
          split
          · exact Nat.le_trans ‹_› hle
          · exact hle
    · rename_i mine hmine htheirs
      obtain rfl := Option.some.inj h
      refine ⟨⟨r, List.mem_cons_self, hmine⟩, fun other hother later hlater => ?_⟩
      rcases List.mem_cons.mp hother with rfl | hmem
      · exact Nat.le_of_eq (Option.some.inj (hmine.symm.trans hlater))
      · rw [firstWake_eq_none htheirs other hmem] at hlater
        cases hlater
    · rename_i hmine
      obtain ⟨⟨first, hfirst, hwake⟩, hleast⟩ := ih h
      refine ⟨⟨first, List.mem_cons_of_mem _ hfirst, hwake⟩, fun other hother later hlater => ?_⟩
      rcases List.mem_cons.mp hother with rfl | hmem
      · rw [hmine] at hlater
        cases hlater
      · exact hleast other hmem later hlater

theorem lt_firstWake {rs : List (Runner Q A α)} {wake : Instant}
    (still : rs.any (·.canRun e s) = false) (hwake : firstWake rs = some wake) : s.now < wake := by
  obtain ⟨⟨first, hfirst, hawaited⟩, -⟩ := firstWake_eq_some hwake
  refine Nat.lt_of_not_le fun hle => ?_
  exact List.any_eq_false.mp still first hfirst (canRun_of_wake hawaited hle)

/-- A poll that has not ended can run at the next instant. -/
theorem awaken_canRun {rs : List (Runner Q A α)} {r : Runner Q A α} (hr : r ∈ rs)
    (hopen : r.report? = none) : rs.any (·.canRun e (awaken e rs s)) = true := by
  unfold awaken
  split
  · assumption
  · rename_i hstill
    have still := Bool.not_eq_true _ ▸ hstill
    have hr' : r.canRun e s = false := Bool.not_eq_true _ ▸ List.any_eq_false.mp still r hr
    rcases of_still hr' with ⟨report, hreport⟩ | ⟨mine, hmine, -⟩
    · rw [hopen] at hreport
      cases hreport
    · split
      · rename_i hnone
        rw [firstWake_eq_none hnone r hr] at hmine
        cases hmine
      · rename_i wake hwake
        obtain ⟨⟨first, hfirst, hawaited⟩, -⟩ := firstWake_eq_some hwake
        have hdue : ∀ t : Scene σ, t.now = wake → rs.any (·.canRun e t) = true := fun t ht =>
          List.any_eq_true.mpr ⟨first, hfirst, canRun_of_wake hawaited (Nat.le_of_eq ht.symm)⟩
        split
        · rename_i n _
          split
          · dsimp only
            generalize (if s.now ≤ n then n else s.now) = cut
            split
            · assumption
            · exact hdue _ rfl
          · exact hdue _ rfl
        · exact hdue _ rfl

/-! ### Every pass does some of the work -/

theorem hear_work (p : Passage Q σ (Runner Q A α)) :
    (hear e p).result.phase.work ≤ p.result.phase.work := by
  unfold hear
  split
  · exact Nat.le_of_lt (step_act (canRun_of_answered ‹_›)).work
  · exact Nat.le_refl _

theorem advance_work (can : r.canRun e s = true) :
    (r.advance e s).result.phase.work < r.phase.work :=
  Nat.lt_of_le_of_lt (Nat.le_trans (hear_work _) (hear_work _)) (step_act can).work

theorem pass_work_le (e : Setting Q A σ) (rs : List (Runner Q A α)) (s : Scene σ) :
    totalWork (pass e rs s).result ≤ totalWork rs := by
  induction rs generalizing s with
  | nil => exact Nat.le_refl _
  | cons r rs ih =>
    unfold pass
    split
    · have hadvance := advance_work ‹_›
      have hothers := ih (r.advance e s).scene
      simp only [totalWork]
      omega
    · exact Nat.add_le_add_left (ih s) _

theorem pass_work_lt {rs : List (Runner Q A α)} (h : rs.any (·.canRun e s) = true) :
    totalWork (pass e rs s).result < totalWork rs := by
  induction rs with
  | nil => cases h
  | cons r rs ih =>
    unfold pass
    split
    · have hadvance := advance_work ‹_›
      have hothers := pass_work_le e rs (r.advance e s).scene
      simp only [totalWork]
      omega
    · rename_i hr
      have hany : rs.any (·.canRun e s) = true := by simpa [hr] using h
      exact Nat.add_lt_add_left (ih hany) _

/-! ### Where nothing cancels the token -/

end Runner

end Convergence
