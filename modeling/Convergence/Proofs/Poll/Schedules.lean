import Convergence.Proofs.Poll.Interleaving
import Convergence.Proofs.Poll.Progress

/-! Polls that run together are polls in one hall: whatever cancels the token, each step
of theirs is a step there, the cancellation is one before it or after it, and the clock
waits as it may. -/
namespace Convergence

variable {Q : Type} {A : Q → Type} {σ α : Type}

/-- The scene as a poll sees it: a trigger that lies in the past has struck. -/
def Setting.seen (e : Setting Q A σ) (s : Scene σ) : Scene σ :=
  { s with cancelled := e.isCancelled s }

/-- The trigger strikes at its instant, when its read has begun, and when its tick is
the next that is shown. -/
def Trigger.Strikes (t : Trigger) (s : Scene σ) : Prop :=
  t.time = some s.now ∨ t.onRead = some s.reads ∨ t.onTick = some (s.ticks + 1)

/-- From one scene to another the token is left as it is, or cancelled by the trigger. -/
inductive Setting.Strikes (e : Setting Q A σ) : Scene σ → Scene σ → Prop where
  | none (s : Scene σ) : Strikes e s s
  | strike {s : Scene σ} (live : s.cancelled = false) (place : e.trigger.Strikes s) :
      Strikes e s { s with cancelled := true }

theorem Setting.Strikes.of_flag {e : Setting Q A σ} {s : Scene σ} {before after : Bool}
    (keeps : before = true → after = true)
    (place : before = false → after = true → e.trigger.Strikes s) :
    e.Strikes { s with cancelled := before } { s with cancelled := after } := by
  cases before with
  | true =>
    rw [keeps rfl]
    exact .none _
  | false =>
    cases after with
    | true => exact .strike rfl (place rfl rfl)
    | false => exact .none _

namespace Job

variable (j : Job Q A α)

theorem stops_calm (source : Source Q A σ) (s : Scene σ) :
    j.stops source.calm s = (j.cancellable && s.cancelled) := by
  unfold stops Setting.isCancelled Source.calm Trigger.past Trigger.never
  simp

theorem stops_seen (e : Setting Q A σ) (s : Scene σ) :
    j.stops e.source.calm (e.seen s) = j.stops e s :=
  j.stops_calm e.source _

/-- Shown to the observer when the token is as it will be after that, the scene is the
one that is seen after it. -/
theorem afterTick_seen (e : Setting Q A σ) (s : Scene σ) :
    j.afterTick e.source.calm { s with cancelled := e.isCancelled (j.afterTick e s) } =
      e.seen (j.afterTick e s) := by
  unfold afterTick Setting.seen Setting.observe Source.calm
  split
  · simp [Trigger.never]
  · rfl

theorem strikes_afterTick (e : Setting Q A σ) (s : Scene σ) :
    e.Strikes (e.seen s) { s with cancelled := e.isCancelled (j.afterTick e s) } := by
  unfold afterTick Setting.observe
  split
  · refine .of_flag (e.isCancelled_mono (fun h => Bool.or_eq_true_iff.mpr (.inl h)) le_rfl)
      fun hlive h => ?_
    unfold Setting.isCancelled at hlive h
    rw [Bool.or_eq_false_iff] at hlive
    simp only [hlive.1, hlive.2, Bool.false_or, Bool.or_false, beq_iff_eq] at h
    exact .inr (.inr h)
  · exact .none _

end Job

namespace Setting

variable (e : Setting Q A σ)

theorem ask_calm (q : Q) (s : Scene σ) :
    e.source.calm.ask q (e.seen s) =
      ((e.ask q s).1, { (e.ask q s).2 with cancelled := e.isCancelled s }) := by
  unfold ask Source.calm seen
  simp [Trigger.never]

theorem strikes_ask (q : Q) (s : Scene σ) :
    e.Strikes { (e.ask q s).2 with cancelled := e.isCancelled s } (e.seen (e.ask q s).2) := by
  refine .of_flag (e.isCancelled_mono (fun h => Bool.or_eq_true_iff.mpr (.inl h)) le_rfl)
    fun hlive h => ?_
  unfold isCancelled at hlive h
  unfold ask at h
  rw [Bool.or_eq_false_iff] at hlive
  simp only [hlive.1, hlive.2, Bool.false_or, Bool.or_false, beq_iff_eq] at h
  exact .inr (.inl h)

end Setting

namespace Runner

variable {e : Setting Q A σ} {s : Scene σ} {r : Runner Q A α} {p : Passage Q σ (Runner Q A α)}

/-- A step with a trigger is the same step without one, where the token is cancelled
before it if the trigger strikes at the showing of the tick, and after it if the trigger
strikes at the read. -/
theorem Act.seen (h : Act e s r p) :
    ∃ flag, e.Strikes (e.seen s) { s with cancelled := flag } ∧
      e.Strikes { p.scene with cancelled := flag } (e.seen p.scene) ∧
      Act e.source.calm { s with cancelled := flag } r
        { p with scene := { p.scene with cancelled := flag } } := by
  cases h with
  | refuse idle stops =>
    refine ⟨e.isCancelled s, .none _, .none _, .refuse idle ?_⟩
    exact (r.job.stops_seen e s).trans stops
  | ask idle live due =>
    refine ⟨e.isCancelled s, .none _, e.strikes_ask r.job.check.query s, ?_⟩
    have hact := Act.ask (e := e.source.calm) (s := e.seen s) idle
      ((r.job.stops_seen e s).trans live) due
    rw [e.ask_calm] at hact
    exact hact
  | @askAgain _ _ query _ phase answered =>
    refine ⟨e.isCancelled s, .none _, e.strikes_ask query s, ?_⟩
    have hact := Act.askAgain (e := e.source.calm) (s := e.seen s) phase answered
    rw [e.ask_calm] at hact
    exact hact
  | decide verdict answered last =>
    refine ⟨e.isCancelled (r.job.afterTick e s), r.job.strikes_afterTick e s, .none _, ?_⟩
    have hact := Act.decide (e := e.source.calm)
      (s := { s with cancelled := e.isCancelled (r.job.afterTick e s) }) verdict answered last
    rw [r.job.afterTick_seen] at hact
    exact hact
  | cut verdict answered pending stops =>
    refine ⟨e.isCancelled (r.job.afterTick e s), r.job.strikes_afterTick e s, .none _, ?_⟩
    have hact := Act.cut (e := e.source.calm)
      (s := { s with cancelled := e.isCancelled (r.job.afterTick e s) }) verdict answered pending
      (by rw [r.job.afterTick_seen, r.job.stops_seen, stops])
    rw [r.job.afterTick_seen] at hact
    exact hact
  | rest verdict answered pending live =>
    refine ⟨e.isCancelled (r.job.afterTick e s), r.job.strikes_afterTick e s, .none _, ?_⟩
    have hact := Act.rest (e := e.source.calm)
      (s := { s with cancelled := e.isCancelled (r.job.afterTick e s) }) verdict answered pending
      (by rw [r.job.afterTick_seen, r.job.stops_seen, live])
    rw [r.job.afterTick_seen] at hact
    exact hact

theorem canRun_seen (e : Setting Q A σ) (s : Scene σ) (r : Runner Q A α) :
    r.canRun e.source.calm (e.seen s) = r.canRun e s := by
  unfold canRun
  rw [r.job.stops_seen]
  rfl

end Runner

namespace Hall

variable {source : Source Q A σ} {e : Setting Q A σ} {a b c : Hall Q A σ α}
  {first rest : List (Event Q)} {seats : List (Seat Q A α)} {s : Scene σ}

/-- A run with these events goes through the cancellation of the token, at a place where
the trigger strikes. -/
def Cuts (e : Setting Q A σ) (a : Hall Q A σ α) (trace : List (Nat × Event Q))
    (b : Hall Q A σ α) : Prop :=
  ∃ before c after, Run e.source a before c ∧ c.scene.cancelled = false ∧
    e.trigger.Strikes c.scene ∧ Run e.source c.cancelled after b ∧ trace = before ++ after

/-- The steps from one hall to another show these events, and nothing but the trigger
cancels the token on the way. -/
def Yields (e : Setting Q A σ) (a : Hall Q A σ α) (events : List (Event Q))
    (b : Hall Q A σ α) : Prop :=
  ∃ trace, Run e.source a trace b ∧ trace.map Prod.snd = events ∧
    (a.scene.cancelled = false → b.scene.cancelled = true → Cuts e a trace b)

namespace Yields

theorem refl (h : Hall Q A σ α) : Yields e h [] h :=
  ⟨[], .refl h, rfl, fun hlive hcut => absurd hcut (by simp [hlive])⟩

theorem trans (hab : Yields e a first b) (hbc : Yields e b rest c) :
    Yields e a (first ++ rest) c := by
  obtain ⟨trace, hrun, rfl, hcuts⟩ := hab
  obtain ⟨others, hothers, rfl, hcutsLater⟩ := hbc
  refine ⟨trace ++ others, hrun.trans hothers, List.map_append, fun ha hc => ?_⟩
  cases hb : b.scene.cancelled with
  | true =>
    obtain ⟨before, cut, after, hbefore, hlive, hplace, hafter, rfl⟩ := hcuts ha hb
    exact ⟨before, cut, after ++ others, hbefore, hlive, hplace, hafter.trans hothers,
      List.append_assoc _ _ _⟩
  | false =>
    obtain ⟨before, cut, after, hbefore, hlive, hplace, hafter, rfl⟩ := hcutsLater hb hc
    exact ⟨trace ++ before, cut, after, hrun.trans hbefore, hlive, hplace, hafter,
      (List.append_assoc _ _ _).symm⟩

theorem single {trace : List (Nat × Event Q)} (hstep : Step e.source a trace b)
    (hsame : b.scene.cancelled = a.scene.cancelled) :
    Yields e a (trace.map Prod.snd) b :=
  ⟨trace, .single hstep, rfl, fun hlive hcut => absurd hcut (by simp [hsame, hlive])⟩

theorem strike (seats : List (Seat Q A α)) {s t : Scene σ} (h : e.Strikes s t) :
    Yields e { seats, scene := s } [] { seats, scene := t } := by
  cases h with
  | none => exact refl _
  | strike live place =>
    have hcut : Run e.source { seats, scene := s } [] _ := .single (.cancel live)
    exact ⟨[], hcut, rfl, fun _ _ => ⟨[], _, [], .refl _, live, place, .refl _, rfl⟩⟩

end Yields

/-- A step of a poll whatever the trigger: the token is cancelled before it, or after
it, or not at all. -/
theorem yields_step {i : Nat} {r : Runner Q A α} (seat : seats[i]? = some (.running r))
    (can : r.canRun e s = true) :
    Yields e { seats, scene := e.seen s } (r.step e s).events
      { seats := seats.set i (.running (r.step e s).result)
        scene := e.seen (r.step e s).scene } := by
  obtain ⟨flag, hbefore, hafter, hact⟩ := (Runner.step_act can).seen
  have hstep : Step e.source { seats, scene := { s with cancelled := flag } } _ _ :=
    .run seat hact.canRun
  rw [hact.eq_step] at hstep
  have hrun := Yields.single hstep rfl
  rw [List.map_map, show (Prod.snd ∘ (i, ·) : Event Q → Event Q) = id from rfl, List.map_id] at hrun
  have hall := ((Yields.strike seats hbefore).trans hrun).trans
    (Yields.strike (seats.set i (.running (r.step e s).result)) hafter)
  rwa [List.nil_append, List.append_nil] at hall

theorem yields_hear {i : Nat} (hi : i < seats.length) (p : Passage Q σ (Runner Q A α)) :
    ∃ events, (Runner.hear e p).events = p.events ++ events ∧
      Yields e { seats := seats.set i (.running p.result), scene := e.seen p.scene } events
        { seats := seats.set i (.running (Runner.hear e p).result)
          scene := e.seen (Runner.hear e p).scene } := by
  unfold Runner.hear
  split
  · rename_i hanswered
    refine ⟨(p.result.step e p.scene).events, rfl, ?_⟩
    have hseat : (seats.set i (.running p.result))[i]? = some (.running p.result) := by simp [hi]
    have hstep := yields_step (e := e) hseat (Runner.canRun_of_answered hanswered)
    rwa [List.set_set] at hstep
  · exact ⟨[], (List.append_nil _).symm, .refl _⟩

theorem yields_advance {i : Nat} {r : Runner Q A α} (seat : seats[i]? = some (.running r))
    (can : r.canRun e s = true) :
    Yields e { seats, scene := e.seen s } (r.advance e s).events
      { seats := seats.set i (.running (r.advance e s).result)
        scene := e.seen (r.advance e s).scene } := by
  obtain ⟨hi, -⟩ := List.getElem?_eq_some_iff.mp seat
  unfold Runner.advance
  obtain ⟨first, hfirst, hone⟩ := yields_hear (e := e) hi (r.step e s)
  obtain ⟨second, hsecond, htwo⟩ := yields_hear (e := e) hi (Runner.hear e (r.step e s))
  rw [hsecond, hfirst]
  exact ((yields_step seat can).trans hone).trans htwo

theorem yields_pass (old : List (Seat Q A α)) (rs : List (Runner Q A α)) (s : Scene σ) :
    Yields e { seats := old ++ rs.map .running, scene := e.seen s } (Runner.pass e rs s).events
      { seats := old ++ (Runner.pass e rs s).result.map .running
        scene := e.seen (Runner.pass e rs s).scene } := by
  induction rs generalizing old s with
  | nil => exact .refl _
  | cons r rs ih =>
    unfold Runner.pass
    split
    · rename_i can
      have hseat : (old ++ Seat.running r :: rs.map .running)[old.length]? = some (.running r) := by
        simp
      have hadvance := yields_advance (e := e) (s := s) hseat can
      have hothers := ih (old ++ [.running (r.advance e s).result]) (r.advance e s).scene
      simp only [List.set_append, Nat.lt_irrefl, ↓reduceIte, Nat.sub_self, List.set_cons_zero]
        at hadvance
      simp only [List.append_assoc, List.singleton_append] at hothers
      exact hadvance.trans hothers
    · have hothers := ih (old ++ [.running r]) s
      simp only [List.append_assoc, List.singleton_append] at hothers
      exact hothers

/-! ### Waiting -/

/-- Nothing can run, and no instant for which a poll waits is passed. -/
theorem Yields.wait {s : Scene σ} {now : Instant}
    (still : ∀ r, .running r ∈ seats → r.canRun e.source.calm s = false) (later : s.now ≤ now)
    (awaited : ∃ r, .running r ∈ seats ∧ r.phase.wake?.isSome = true)
    (early : ∀ r wake, .running r ∈ seats → r.phase.wake? = some wake → now ≤ wake) :
    Yields e { seats, scene := s } [] { seats, scene := { s with now } } := by
  rcases Nat.eq_or_lt_of_le later with rfl | hlt
  · exact refl _
  · exact single (.wait still hlt awaited early) rfl

/-- Where the trigger strikes before the end of a wait, the wait has two parts. -/
theorem yields_wait {now : Instant}
    (still : ∀ r, .running r ∈ seats → r.canRun e s = false) (later : s.now ≤ now)
    (awaited : ∃ r, .running r ∈ seats ∧ r.phase.wake?.isSome = true)
    (early : ∀ r wake, .running r ∈ seats → r.phase.wake? = some wake → now ≤ wake)
    (unmoved : ∀ n < now, e.trigger.time = some n → e.trigger.past now = true →
      e.isCancelled s = false →
      ∀ r, .running r ∈ seats → r.canRun e { s with now := n, cancelled := true } = false) :
    Yields e { seats, scene := e.seen s } [] { seats, scene := e.seen { s with now } } := by
  have hstill : ∀ r, .running r ∈ seats → r.canRun e.source.calm (e.seen s) = false :=
    fun r hr => (r.canRun_seen e s).trans (still r hr)
  have hrest := Yields.wait (e := e) hstill later awaited early
  cases hlive : e.isCancelled s with
  | true =>
    have hcut : e.isCancelled { s with now } = true := e.isCancelled_mono (s := s) id later hlive
    unfold Setting.seen at hrest ⊢
    rw [hlive] at hrest
    rw [hcut, hlive]
    exact hrest
  | false =>
    cases hcut : e.isCancelled { s with now } with
    | false =>
      unfold Setting.seen at hrest ⊢
      rw [hlive] at hrest
      rw [hcut, hlive]
      exact hrest
    | true =>
      -- Wait for the instant of the trigger, cancel the token there, and wait on.
      obtain ⟨n, htime, hpast, hbefore, hafter⟩ := e.exists_instant hlive hcut
      have hreach : Yields e { seats, scene := e.seen s } []
          { seats, scene := { e.seen s with now := n } } :=
        .wait hstill hbefore awaited fun r wake hr hwake =>
          Nat.le_trans hafter (early r wake hr hwake)
      have hstrike := Yields.strike seats (e := e) (s := { e.seen s with now := n })
        (.strike hlive (.inl htime))
      have hon : Yields e { seats, scene := { s with now := n, cancelled := true } } []
          { seats, scene := { s with now, cancelled := true } } := by
        rcases Nat.eq_or_lt_of_le hafter with rfl | hlt
        · exact .refl _
        · refine Yields.wait (s := { s with now := n, cancelled := true }) (fun r hr => ?_) hafter
            awaited early
          rw [← unmoved n hlt htime hpast hlive r hr, ← r.canRun_seen e]
          rfl
      unfold Setting.seen at hreach hstrike ⊢
      rw [hcut]
      exact (hreach.trans hstrike).trans hon

theorem yields_wait_first {rs : List (Runner Q A α)} {now wake : Instant}
    (still : rs.any (·.canRun e s) = false) (hwake : Runner.firstWake rs = some wake)
    (later : s.now ≤ now) (early : now ≤ wake)
    (unstruck : ∀ n < now, e.trigger.time = some n → e.trigger.past now = true →
      e.isCancelled s = true) :
    Yields e { seats := rs.map .running, scene := e.seen s } []
      { seats := rs.map .running, scene := e.seen { s with now } } := by
  obtain ⟨⟨first, hfirst, hawaited⟩, hleast⟩ := Runner.firstWake_eq_some hwake
  refine yields_wait (fun r hr => ?_) later ⟨first, List.mem_map_of_mem hfirst, ?_⟩
    (fun r other hr hother => ?_) fun n hn htime hpast hlive => ?_
  · obtain ⟨r', hmem, heq⟩ := List.mem_map.mp hr
    cases heq
    exact Bool.not_eq_true _ ▸ List.any_eq_false.mp still r hmem
  · rw [hawaited]
    rfl
  · obtain ⟨r', hmem, heq⟩ := List.mem_map.mp hr
    cases heq
    exact Nat.le_trans early (hleast r hmem other hother)
  · exact absurd (unstruck n hn htime hpast) (by simp [hlive])

/-- Going to the next instant, where the trigger may strike on the way. -/
theorem yields_awaken (rs : List (Runner Q A α)) (s : Scene σ) :
    Yields e { seats := rs.map .running, scene := e.seen s } []
      { seats := rs.map .running, scene := e.seen (Runner.awaken e rs s) } := by
  unfold Runner.awaken
  split
  · exact .refl _
  · rename_i hstill
    have still : rs.any (·.canRun e s) = false := by simpa using hstill
    split
    · exact .refl _
    · rename_i wake hwake
      have hlt := Runner.lt_firstWake still hwake
      have hall := yields_wait_first still hwake (Nat.le_of_lt hlt) (Nat.le_refl wake)
      split
      · rename_i n htime
        split
        · rename_i hstrikes
          have hpast : e.trigger.past wake = true := (Bool.and_eq_true_iff.mp hstrikes).2
          have hn := e.trigger.le_of_past htime hpast
          have hlater : s.now ≤ if s.now ≤ n then n else s.now := by
            split
            · assumption
            · exact Nat.le_refl _
          have hearly : (if s.now ≤ n then n else s.now) ≤ wake := by
            split
            · exact hn
            · exact Nat.le_of_lt hlt
          have hcut : n = (if s.now ≤ n then n else s.now) ∨ n < s.now := by
            split
            · exact .inl rfl
            · exact .inr (Nat.lt_of_not_le ‹_›)
          dsimp only
          generalize (if s.now ≤ n then n else s.now) = cut at hlater hearly hcut ⊢
          have hpassed : n < s.now → e.isCancelled s = true := fun h =>
            Bool.or_eq_true_iff.mpr (.inr (e.trigger.past_of_lt htime h))
          have hreach := yields_wait_first still hwake hlater hearly fun k hk hinstant _ => by
            cases htime.symm.trans hinstant
            exact hpassed (hcut.resolve_left (Nat.ne_of_lt hk))
          have hstrike : e.Strikes (e.seen { s with now := cut })
              { s with now := cut, cancelled := true } := by
            refine .of_flag (s := { s with now := cut }) (fun _ => rfl) fun hlive _ => .inl ?_
            rcases hcut with rfl | h
            · exact htime
            · have hover : e.isCancelled { s with now := cut } = true :=
                e.isCancelled_mono (s := s) id hlater (hpassed h)
              exact absurd hover (by simp [hlive])
          have hstruck := hreach.trans (Yields.strike (rs.map .running) hstrike)
          split
          · exact hstruck
          · rename_i hnone
            have hrest := yields_wait_first (e := e) (by simpa using hnone) hwake hearly
              (Nat.le_refl wake) fun _ _ _ _ => rfl
            exact hstruck.trans hrest
        · rename_i hspared
          refine hall fun n _ _ hpast => Bool.or_eq_true_iff.mpr (.inl ?_)
          simpa [hpast] using hspared
      · rename_i hnever
        exact hall fun n _ htime => absurd htime (by simp [hnever])

/-- Polls that run together do not stop before all of them have ended. -/
theorem yields_drive (rs : List (Runner Q A α)) (s : Scene σ) :
    Yields e { seats := rs.map .running, scene := e.seen s } (Runner.drive e rs s).events
        { seats := (Runner.drive e rs s).result.map .running
          scene := e.seen (Runner.drive e rs s).scene } ∧
      ∀ r ∈ (Runner.drive e rs s).result, ∃ report, r.report? = some report := by
  fun_induction Runner.drive e rs s with
  | case1 rs s passed h ih =>
    refine ⟨?_, ih.2⟩
    have hpass := yields_pass (e := e) [] rs (Runner.awaken e rs s)
    exact ((yields_awaken rs s).trans hpass).trans ih.1
  | case2 rs s passed h =>
    refine ⟨.refl _, fun r hr => Option.ne_none_iff_exists'.mp fun hopen => h ?_⟩
    exact Runner.pass_work_lt (Runner.awaken_canRun hr hopen)

theorem yields_starts (e : Setting Q A σ) (old : List (Seat Q A α)) (jobs : List (Job Q A α))
    (s : Scene σ) :
    Yields e { seats := old ++ jobs.map .waiting, scene := s } []
      { seats := old ++ (jobs.map (Runner.start · s.now)).map .running, scene := s } := by
  induction jobs generalizing old with
  | nil => exact .refl _
  | cons j jobs ih =>
    have hstep : Step e.source
        { seats := old ++ .waiting j :: jobs.map .waiting, scene := s } _ _ :=
      .start (i := old.length) (j := j) (by simp)
    have hstart := Yields.single hstep rfl
    have hothers := ih (old ++ [.running (.start j s.now)])
    simp only [List.set_append, Nat.lt_irrefl, ↓reduceIte, Nat.sub_self, List.set_cons_zero,
      List.map_nil] at hstart
    simp only [List.append_assoc, List.singleton_append] at hothers
    exact hstart.trans hothers

/-- Polls that run together take steps of the hall, and all of them end. -/
theorem run_runTogether (e : Setting Q A σ) (jobs : List (Job Q A α)) (s : Scene σ) :
    ∃ h, Yields e (opening jobs (e.seen s)) (runTogether e jobs s).events h ∧ h.Over ∧
      h.scene = e.seen (runTogether e jobs s).scene ∧
      h.seats.map Seat.report? = (runTogether e jobs s).result ∧
      ∀ (i : Nat) (j : Job Q A α), jobs[i]? = some j →
        ∃ r, h.seats[i]? = some (.running r) ∧ r.course.started = s.now := by
  obtain ⟨hdrive, hover⟩ := yields_drive (e := e) (jobs.map (Runner.start · s.now)) s
  have hrun := (yields_starts e [] jobs (e.seen s)).trans hdrive
  refine ⟨_, hrun, ?_, rfl, ?_, fun i j hj => ?_⟩
  · intro seat hseat
    obtain ⟨r, hr, rfl⟩ := List.mem_map.mp hseat
    exact hover r hr
  · rw [List.map_map]
    rfl
  · obtain ⟨trace, hsteps, -⟩ := hdrive
    refine hsteps.started (r := .start j s.now) ?_
    simp [hj]

end Hall
end Convergence
