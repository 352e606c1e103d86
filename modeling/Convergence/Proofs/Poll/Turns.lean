import Convergence.Proofs.Poll.Remainder
import Convergence.Proofs.Poll.Schedules

/-! Polls in turn are polls in one hall, where all but one of them are still or over. So
both orders in which polls are run are among those in which they can take their steps. -/
namespace Convergence

variable {Q : Type} {A : Q → Type} {σ α : Type}

/-- A poll that cannot run between two ticks is asleep, and the token lets it sleep. -/
theorem Runner.of_still_idle {e : Setting Q A σ} {s : Scene σ} {r : Runner Q A α} {left : Nat}
    (idle : r.phase.idle? = some left) (still : r.canRun e s = false) :
    r.job.stops e s = false ∧
      ∀ wake, r.phase.wake? = some wake → r.phase = .sleeping left wake := by
  constructor
  · cases hs : r.job.stops e s with
    | true => exact absurd still (by simp [canRun_of_idle idle (.inl hs)])
    | false => rfl
  · intro wake hwake
    rcases Phase.of_idle idle with h | ⟨other, h⟩
    · rw [h] at hwake
      cases hwake
    · rw [h] at hwake ⊢
      exact congrArg _ (Option.some.inj hwake)

theorem Runner.not_canRun_of_early {e : Setting Q A σ} {s : Scene σ} {r : Runner Q A α}
    {wake : Instant} (busy : r.phase.idle? = none) (hwake : r.phase.wake? = some wake)
    (early : s.now < wake) : r.canRun e s = false := by
  unfold canRun
  split <;> rename_i hphase <;> rw [hphase] at busy hwake <;> simp_all [Phase.idle?, Phase.wake?]

namespace Hall

variable {source : Source Q A σ} {e : Setting Q A σ} {seats : List (Seat Q A α)} {s : Scene σ}

/-- Every other poll has not started or has ended. -/
def Quiet (seats : List (Seat Q A α)) (i : Nat) : Prop :=
  ∀ (k : Nat) (r : Runner Q A α), k ≠ i → seats[k]? = some (.running r) →
    ∃ report, r.phase = .done report

theorem Quiet.of_mem {i : Nat} {r r' : Runner Q A α} (h : Quiet seats i)
    (hr' : .running r' ∈ seats.set i (.running r)) :
    r' = r ∨ ∃ report, r'.phase = .done report := by
  obtain ⟨k, hk⟩ := List.mem_iff_getElem?.mp hr'
  rw [List.getElem?_set] at hk
  split at hk
  · split at hk
    · cases hk
      exact .inl rfl
    · cases hk
  · exact .inr (h k r' (Ne.symm ‹_›) hk)

theorem Quiet.yields_wait {i : Nat} {r : Runner Q A α} {now wake : Instant} (h : Quiet seats i)
    (hi : i < seats.length) (still : r.canRun e s = false) (hwake : r.phase.wake? = some wake)
    (later : s.now ≤ now) (early : now ≤ wake)
    (unmoved : ∀ n < now, e.trigger.time = some n → e.trigger.past now = true →
      r.canRun e { s with now := n, cancelled := true } = false) :
    Yields e { seats := seats.set i (.running r), scene := e.seen s } []
      { seats := seats.set i (.running r), scene := e.seen { s with now } } := by
  have hstill : ∀ t : Scene σ, r.canRun e t = false →
      ∀ r', .running r' ∈ seats.set i (.running r) → r'.canRun e t = false := by
    intro t ht r' hr'
    rcases h.of_mem hr' with rfl | ⟨report, hdone⟩
    · exact ht
    · simp [Runner.canRun, hdone]
  refine Hall.yields_wait (hstill s still) later ⟨r, List.mem_set hi _, by rw [hwake]; rfl⟩
    (fun r' other hr' hother => ?_) fun n hn htime hpast _ => hstill _ (unmoved n hn htime hpast)
  rcases h.of_mem hr' with rfl | ⟨report, hdone⟩
  · exact Option.some.inj (hwake.symm.trans hother) ▸ early
  · simp [hdone, Phase.wake?] at hother

/-- A poll that has not ended comes to an instant at which it can run, and what is left
of it stays the same. -/
theorem Quiet.exists_ready {i : Nat} {r : Runner Q A α} {wake : Instant} (h : Quiet seats i)
    (hi : i < seats.length) (still : r.canRun e s = false) (hwake : r.phase.wake? = some wake)
    (later : s.now < wake) :
    ∃ t, Yields e { seats := seats.set i (.running r), scene := e.seen s } []
        { seats := seats.set i (.running r), scene := e.seen t } ∧
      r.canRun e t = true ∧ t.now ≤ wake ∧ r.remainder e t = r.remainder e s := by
  have hall := h.yields_wait (e := e) hi still hwake (Nat.le_of_lt later) (Nat.le_refl wake)
  have hdue : r.canRun e { s with now := wake } = true :=
    Runner.canRun_of_wake hwake (Nat.le_refl wake)
  rcases r.phase.kinds with ⟨left, idle⟩ | ⟨left, other, j, verdict⟩ |
    ⟨left, other, query, judge, phase⟩ | ⟨report, phase⟩
  · obtain ⟨hlive, hsleeping⟩ := Runner.of_still_idle idle still
    have hphase := hsleeping wake hwake
    cases hcut : r.job.stops e { s with now := wake } with
    | true =>
      obtain ⟨hlater, hearly, hinstant⟩ := r.job.cutScene_now e hlive hcut
      have hstops : r.job.stops e (r.job.cutScene e s) = true := by
        rw [r.job.cutScene_of_live e hlive]
        exact Bool.and_eq_true_iff.mpr ⟨(Bool.and_eq_true_iff.mp hcut).1, rfl⟩
      have hreach := h.yields_wait (e := e) hi still hwake hlater hearly fun n hn htime _ =>
        absurd (Option.some.inj (htime.symm.trans hinstant)) (Nat.ne_of_lt hn)
      have hstrike : e.Strikes (e.seen { s with now := (r.job.cutScene e s).now })
          (e.seen (r.job.cutScene e s)) := by
        rw [r.job.cutScene_of_live e hlive] at hinstant ⊢
        exact .of_flag (fun _ => rfl) fun _ _ => .inl hinstant
      refine ⟨r.job.cutScene e s, hreach.trans (Yields.strike _ hstrike),
        Runner.canRun_of_idle idle (.inl hstops), hearly, ?_⟩
      rw [Runner.remainder_of_stops idle hstops]
      unfold Runner.remainder
      rw [hphase]
      dsimp only
      rw [r.job.sleep_eq e (Nat.le_of_lt later), if_pos hcut]
      exact congrArg (r.job.conclude r.course .cancelled · _) (Nat.sub_sub _ _ _)
    | false =>
      have hunmoved : ∀ n < wake, e.trigger.time = some n → e.trigger.past wake = true →
          r.canRun e { s with now := n, cancelled := true } = false := by
        intro n hn _ hpast
        have hdeaf : r.job.cancellable = false := by
          simpa [Job.stops, Setting.isCancelled, hpast] using hcut
        simp [Runner.canRun, hphase, hn, Job.stops, hdeaf]
      refine ⟨_, hall hunmoved, hdue, Nat.le_refl wake, ?_⟩
      rw [Runner.remainder_of_live idle hcut fun w hw => Option.some.inj (hw.symm.trans hwake)]
      unfold Runner.remainder
      rw [hphase]
      dsimp only
      rw [r.job.sleep_eq e (Nat.le_of_lt later), if_neg (by simp [hcut])]
      rfl
  · have busy := Phase.idle?_of_verdict verdict
    refine ⟨_, hall fun n hn _ _ => Runner.not_canRun_of_early busy hwake hn, hdue,
      Nat.le_refl wake, ?_⟩
    rw [Runner.remainder_of_verdict verdict, Runner.remainder_of_verdict verdict]
  · have busy : r.phase.idle? = none := by
      rw [phase]
      rfl
    refine ⟨_, hall fun n hn _ _ => Runner.not_canRun_of_early busy hwake hn, hdue,
      Nat.le_refl wake, ?_⟩
    rw [Runner.remainder_of_followed phase, Runner.remainder_of_followed phase]
  · simp [phase, Phase.wake?] at hwake

/-- A poll goes through what is left of it, whatever cancels the token, and ends. -/
theorem Quiet.yields_remainder {i : Nat} (h : Quiet seats i) (hi : i < seats.length)
    (r : Runner Q A α) (s : Scene σ)
    (timely : ∀ wake, r.phase.wake? = some wake → s.now ≤ wake) :
    ∃ r', Yields e { seats := seats.set i (.running r), scene := e.seen s }
        (r.remainder e s).events
        { seats := seats.set i (.running r'), scene := e.seen (r.remainder e s).scene } ∧
      r'.report? = some (r.remainder e s).result := by
  induction hwork : r.phase.work using Nat.strongRecOn generalizing r s with
  | ind n ih =>
    subst hwork
    -- Once the poll can run, its step leaves less work and the same remainder.
    have hgo : ∀ t : Scene σ, r.canRun e t = true →
        (∀ wake, r.phase.wake? = some wake → t.now ≤ wake) →
        ∃ r', Yields e { seats := seats.set i (.running r), scene := e.seen t }
            (r.remainder e t).events
            { seats := seats.set i (.running r'), scene := e.seen (r.remainder e t).scene } ∧
          r'.report? = some (r.remainder e t).result := by
      intro t can htimely
      have hact := Runner.step_act can
      have hseat : (seats.set i (.running r))[i]? = some (.running r) := by simp [hi]
      have hstep := yields_step hseat can
      rw [List.set_set] at hstep
      obtain ⟨r', hrest, hreport⟩ := ih _ hact.work (r.step e t).result (r.step e t).scene
        (fun wake hw => hact.now ▸ hact.timely hw) rfl
      rw [hact.remainder_eq htimely]
      exact ⟨r', hstep.trans hrest, hreport⟩
    cases hcan : r.canRun e s with
    | true => exact hgo s hcan timely
    | false =>
      rcases Runner.of_still hcan with ⟨report, hreport⟩ | ⟨wake, hwake, hlt⟩
      · have hphase := Runner.phase_of_report hreport
        unfold Runner.remainder
        rw [hphase]
        exact ⟨r, .refl _, hreport⟩
      · obtain ⟨t, hwait, can, hearly, hsame⟩ := h.exists_ready (e := e) hi hcan hwake hlt
        obtain ⟨r', hrest, hreport⟩ := hgo t can fun w hw =>
          Option.some.inj (hwake.symm.trans hw) ▸ hearly
        rw [hsame] at hrest hreport
        exact ⟨r', hwait.trans hrest, hreport⟩

theorem quiet_next {old : List (Seat Q A α)}
    (hold : ∀ seat ∈ old, ∃ report, seat.report? = some report) (j : Job Q A α)
    (jobs : List (Job Q A α)) : Quiet (old ++ .waiting j :: jobs.map .waiting) old.length := by
  intro k r hk hr
  rw [List.getElem?_append] at hr
  split at hr
  · obtain ⟨report, hreport⟩ := hold _ (List.mem_of_getElem? hr)
    exact ⟨report, Runner.phase_of_report hreport⟩
  · obtain ⟨m, hm⟩ := Nat.exists_eq_succ_of_ne_zero (n := k - old.length) (by omega)
    rw [hm, Nat.succ_eq_add_one, List.getElem?_cons_succ, List.getElem?_map] at hr
    obtain ⟨other, -, hother⟩ := Option.map_eq_some_iff.mp hr
    cases hother

/-- Polls in turn take steps of the hall, and each of them starts where the one before
has ended. -/
theorem yields_runInTurn (e : Setting Q A σ) (old : List (Seat Q A α))
    (hold : ∀ seat ∈ old, ∃ report, seat.report? = some report) (jobs : List (Job Q A α))
    (s : Scene σ) :
    ∃ ended : List (Runner Q A α),
      Yields e { seats := old ++ jobs.map .waiting, scene := e.seen s }
        (runInTurn e jobs s).events
        { seats := old ++ ended.map .running, scene := e.seen (runInTurn e jobs s).scene } ∧
      ended.map Runner.report? = (runInTurn e jobs s).result.map some ∧
      ended.map (·.course.started) =
        (List.range jobs.length).map fun k => (runInTurn e (jobs.take k) s).scene.now := by
  induction jobs generalizing old s with
  | nil => exact ⟨[], .refl _, rfl, rfl⟩
  | cons j jobs ih =>
    have hi : old.length < (old ++ Seat.waiting j :: jobs.map .waiting).length := by simp
    have hstep : Step e.source
        { seats := old ++ .waiting j :: jobs.map .waiting, scene := e.seen s } _ _ :=
      .start (i := old.length) (j := j) (by simp)
    have hstart := Yields.single hstep rfl
    obtain ⟨r, hrun, hreport⟩ := (quiet_next hold j jobs).yields_remainder (e := e) hi
      (.start j s.now) s nofun
    have hstarted : r.course.started = s.now := by
      obtain ⟨trace, hsteps, -⟩ := hrun
      obtain ⟨r', hr', hsame⟩ := hsteps.started (r := .start j s.now) (i := old.length) (by simp)
      have hr : r' = r := by simpa using hr'.symm
      exact hr ▸ hsame
    have hold' : ∀ seat ∈ old ++ [.running r], ∃ report, seat.report? = some report := by
      intro seat hseat
      rcases List.mem_append.mp hseat with hmem | hmem
      · exact hold seat hmem
      · rw [List.mem_singleton.mp hmem]
        exact ⟨_, hreport⟩
    obtain ⟨ended, hothers, hreports, hstarts⟩ := ih _ hold' (j.run e s).scene
    refine ⟨r :: ended, ?_, ?_, ?_⟩
    · have hfirst := hstart.trans hrun
      simp only [List.map_nil, List.nil_append, List.set_append, Nat.lt_irrefl, ↓reduceIte,
        Nat.sub_self, List.set_cons_zero] at hfirst
      rw [List.append_assoc, List.append_assoc] at hothers
      exact hfirst.trans hothers
    · rw [List.map_cons, hreports, hreport]
      rfl
    · rw [List.map_cons, hstarts, hstarted, List.length_cons, List.range_succ_eq_map,
        List.map_cons, List.map_map]
      rfl

theorem run_runInTurn (e : Setting Q A σ) (jobs : List (Job Q A α)) (s : Scene σ) :
    ∃ h, Yields e (opening jobs (e.seen s)) (runInTurn e jobs s).events h ∧ h.Over ∧
      h.scene = e.seen (runInTurn e jobs s).scene ∧
      h.seats.map Seat.report? = (runInTurn e jobs s).result.map some ∧
      ∀ (i : Nat) (j : Job Q A α), jobs[i]? = some j →
        ∃ r, h.seats[i]? = some (.running r) ∧
          r.course.started = (runInTurn e (jobs.take i) s).scene.now := by
  obtain ⟨ended, hrun, hreports, hstarts⟩ := yields_runInTurn e [] nofun jobs s
  refine ⟨_, hrun, ?_, rfl, ?_, fun i j hj => ?_⟩
  · intro seat hseat
    obtain ⟨r, hr, rfl⟩ := List.mem_map.mp hseat
    have hmem : r.report? ∈ ended.map Runner.report? := List.mem_map_of_mem hr
    rw [hreports] at hmem
    obtain ⟨report, -, hreport⟩ := List.mem_map.mp hmem
    exact ⟨report, hreport.symm⟩
  · rw [List.nil_append, List.map_map]
    exact hreports
  · obtain ⟨hi, -⟩ := List.getElem?_eq_some_iff.mp hj
    have hstart := congrArg (·[i]?) hstarts
    simp only [List.getElem?_map, List.getElem?_range hi, Option.map_some] at hstart
    obtain ⟨r, hr, hstarted⟩ := Option.map_eq_some_iff.mp hstart
    exact ⟨r, by simp [hr], hstarted⟩

theorem exists_reports {reports : List (Option (Report α))} {h : Hall Q A σ α} (hover : h.Over)
    (heq : h.seats.map Seat.report? = reports) :
    ∃ ended : List (Report α), reports = ended.map some := by
  induction reports generalizing h with
  | nil => exact ⟨[], rfl⟩
  | cons first others ih =>
    obtain ⟨seat, seats, hseats, hfirst, hothers⟩ := List.map_eq_cons_iff.mp heq
    obtain ⟨report, hreport⟩ := hover seat (by rw [hseats]; exact List.mem_cons_self)
    obtain ⟨ended, rfl⟩ := ih (h := { h with seats })
      (fun x hx => hover x (by rw [hseats]; exact List.mem_cons_of_mem _ hx)) hothers
    exact ⟨report :: ended, by rw [← hfirst, hreport]; rfl⟩

theorem zip_reports (jobs : List (Job Q A α)) (reports : List (Report α)) :
    (jobs.zip (reports.map some)).filterMap (fun (j, r) => r.map (j.index, ·)) =
      (jobs.map (·.index)).zip reports := by
  induction jobs generalizing reports with
  | nil => rfl
  | cons j jobs ih =>
    cases reports with
    | nil => rfl
    | cons report reports => exact congrArg (_ :: ·) (ih reports)

/-- However polls are run, they take steps of the hall, and all of them end. -/
theorem run_runAll (e : Setting Q A σ) (jobs : List (Job Q A α)) (s : Scene σ) (order : Order) :
    ∃ h reports, Yields e (opening jobs (e.seen s)) (runAll e jobs s order).events h ∧
      h.scene = e.seen (runAll e jobs s order).scene ∧
      h.seats.map Seat.report? = reports.map some ∧
      (runAll e jobs s order).result = (jobs.map (·.index)).zip reports := by
  cases order with
  | inTurn =>
    obtain ⟨h, hrun, -, hscene, hreports, -⟩ := run_runInTurn e jobs s
    exact ⟨h, _, hrun, hscene, hreports, rfl⟩
  | together =>
    obtain ⟨h, hrun, hover, hscene, hreports, -⟩ := run_runTogether e jobs s
    obtain ⟨reports, heq⟩ := exists_reports hover hreports
    refine ⟨h, reports, hrun, hscene, hreports.trans heq, ?_⟩
    unfold runAll
    dsimp only
    rw [heq]
    exact zip_reports jobs reports

end Hall
end Convergence
