import Convergence.Proofs.Poll.Calls
import Mathlib.Data.Nat.Find

/-! The rounds of a poll, counted from zero: each is one tick and, where another may
follow, the notice and the sleep after it. A poll goes through its rounds in order
until a tick decides it, the ticks run out, or the token stops it. -/
namespace Convergence

variable {Q : Type} {A : Q → Type} {σ α β : Type}

namespace Passage

@[simp] theorem prepend_result (events : List (Event Q)) (p : Passage Q σ β) :
    (p.prepend events).result = p.result := rfl

@[simp] theorem prepend_scene (events : List (Event Q)) (p : Passage Q σ β) :
    (p.prepend events).scene = p.scene := rfl

@[simp] theorem prepend_events (events : List (Event Q)) (p : Passage Q σ β) :
    (p.prepend events).events = events ++ p.events := rfl

theorem prepend_prepend (first second : List (Event Q)) (p : Passage Q σ β) :
    (p.prepend second).prepend first = p.prepend (first ++ second) := by
  unfold prepend
  rw [List.append_assoc]

end Passage

theorem Duration.millisUp_pos {d : Duration} (h : 0 < d.nanos) : 0 < d.millisUp := by
  unfold millisUp
  omega

theorem lt_wakeTime (now : Instant) {d : Duration} (h : 0 < d.nanos) : now < wakeTime now d := by
  have hup := d.millisUp_pos h
  unfold wakeTime farAway Instant
  split <;> omega

theorem Trigger.past_mono (t : Trigger) {now later : Instant} (h : now ≤ later)
    (hp : t.past now = true) : t.past later = true := by
  unfold past at hp ⊢
  cases htime : t.time with
  | none =>
    rw [htime] at hp
    exact hp
  | some n =>
    rw [htime] at hp
    cases he : t.early
    · simp only [he, Option.any_some, Bool.false_eq_true, ↓reduceIte, decide_eq_true_eq] at hp ⊢
      exact Nat.lt_of_lt_of_le hp h
    · simp only [he, Option.any_some, ↓reduceIte, decide_eq_true_eq] at hp ⊢
      exact Nat.le_trans hp h

theorem Trigger.le_of_past (t : Trigger) {n : Nat} {now : Instant} (htime : t.time = some n)
    (h : t.past now = true) : n ≤ now := by
  unfold past at h
  rw [htime, Option.any_some] at h
  split at h
  · exact of_decide_eq_true h
  · exact Nat.le_of_lt (of_decide_eq_true h)

theorem Trigger.past_of_lt (t : Trigger) {n : Nat} {now : Instant} (htime : t.time = some n)
    (h : n < now) : t.past now = true := by
  unfold past
  rw [htime, Option.any_some]
  split
  · exact decide_eq_true (Nat.le_of_lt h)
  · exact decide_eq_true h

theorem Trigger.le_of_not_past (t : Trigger) {n : Nat} {now : Instant} (htime : t.time = some n)
    (h : t.past now = false) : now ≤ n :=
  Nat.le_of_not_lt fun hlt => absurd (t.past_of_lt htime hlt) (by simp [h])

namespace Setting

variable (e : Setting Q A σ)

/-- A token once seen is seen from then on. -/
theorem isCancelled_mono {s t : Scene σ} (hc : s.cancelled = true → t.cancelled = true)
    (hn : s.now ≤ t.now) (h : e.isCancelled s = true) : e.isCancelled t = true := by
  unfold isCancelled at h ⊢
  simp only [Bool.or_eq_true] at h ⊢
  exact h.imp hc (e.trigger.past_mono hn)

/-- A token that is cancelled while only the clock goes on is cancelled at the instant
of the trigger. -/
theorem exists_instant {s : Scene σ} {now : Instant} (hlive : e.isCancelled s = false)
    (hcut : e.isCancelled { s with now } = true) :
    ∃ n, e.trigger.time = some n ∧ e.trigger.past now = true ∧ s.now ≤ n ∧ n ≤ now := by
  unfold isCancelled at hlive hcut
  rw [Bool.or_eq_false_iff] at hlive
  have hpast : e.trigger.past now = true := by simpa [hlive.1] using hcut
  cases htime : e.trigger.time with
  | none => simp [Trigger.past, htime] at hpast
  | some n =>
    exact ⟨n, rfl, hpast, e.trigger.le_of_not_past htime hlive.2, e.trigger.le_of_past htime hpast⟩

end Setting

namespace Job

variable (j : Job Q A α) (e : Setting Q A σ)

theorem stops_mono {s t : Scene σ} (hc : s.cancelled = true → t.cancelled = true)
    (hn : s.now ≤ t.now) (h : j.stops e s = true) : j.stops e t = true := by
  unfold stops at h ⊢
  rw [Bool.and_eq_true] at h ⊢
  exact ⟨h.1, e.isCancelled_mono hc hn h.2⟩

/-! ### Sleeps -/

/-- The scene in which a sleep that begins in `s` is cut. A token cancelled before
cuts it at once, and the trigger at its instant. -/
def cutScene (s : Scene σ) : Scene σ :=
  if j.stops e s then s else { s with now := e.trigger.time.getD s.now, cancelled := true }

/-- A sleep is cut if and only if the token would stop the poll at its end. -/
theorem sleep_eq {wake : Instant} {s : Scene σ} (h : s.now ≤ wake) :
    j.sleep e wake s =
      if j.stops e { s with now := wake } then (true, j.cutScene e s)
      else (false, { s with now := wake }) := by
  unfold sleep cutScene
  by_cases hs : j.stops e s = true
  · have hwake : j.stops e { s with now := wake } = true :=
      j.stops_mono e (s := s) id h hs
    simp only [hs, hwake, ↓reduceIte]
  · have hstops : j.stops e { s with now := wake } = (j.cancellable && e.trigger.past wake) := by
      unfold stops Setting.isCancelled at hs ⊢
      cases hc : j.cancellable <;> simp_all
    rw [if_neg hs, if_neg hs, hstops]
    cases htime : e.trigger.time with
    | none => simp [Trigger.past, htime]
    | some n => rfl

theorem cutScene_of_stops {s : Scene σ} (h : j.stops e s = true) : j.cutScene e s = s :=
  if_pos h

theorem cutScene_of_live {s : Scene σ} (h : j.stops e s = false) :
    j.cutScene e s = { s with now := e.trigger.time.getD s.now, cancelled := true } :=
  if_neg (by simp [h])

/-- A sleep that is cut in its middle is cut at the instant of the trigger. -/
theorem cutScene_now {s : Scene σ} {wake : Instant} (hlive : j.stops e s = false)
    (hwake : j.stops e { s with now := wake } = true) :
    s.now ≤ (j.cutScene e s).now ∧ (j.cutScene e s).now ≤ wake ∧
      e.trigger.time = some (j.cutScene e s).now := by
  rw [j.cutScene_of_live e hlive]
  unfold stops at hlive hwake
  obtain ⟨hlistens, hcut⟩ := Bool.and_eq_true_iff.mp hwake
  rw [hlistens, Bool.true_and] at hlive
  obtain ⟨n, htime, -, hlater, hearly⟩ := e.exists_instant hlive hcut
  rw [htime]
  exact ⟨hlater, hearly, rfl⟩

/-! ### Rounds -/

/-- The scene after a tick that the observer has been shown. -/
def shown (s : Scene σ) : Scene σ := j.afterTick e (j.checkOnce e s).scene

/-- The scene at the end of the sleep after that tick. -/
def rested (s : Scene σ) : Scene σ :=
  { j.shown e s with now := wakeTime (j.shown e s).now j.plan.interval }

@[simp] theorem shown_now (s : Scene σ) : (j.shown e s).now = (j.checkOnce e s).scene.now := by
  unfold shown afterTick Setting.observe
  split <;> rfl

@[simp] theorem shown_source (s : Scene σ) :
    (j.shown e s).source = (j.checkOnce e s).scene.source := by
  unfold shown afterTick Setting.observe
  split <;> rfl

@[simp] theorem rested_now (s : Scene σ) :
    (j.rested e s).now = wakeTime (j.shown e s).now j.plan.interval := by
  rw [rested]

@[simp] theorem rested_source (s : Scene σ) : (j.rested e s).source = (j.shown e s).source := by
  rw [rested]

@[simp] theorem rested_cancelled (s : Scene σ) :
    (j.rested e s).cancelled = (j.shown e s).cancelled := by
  rw [rested]

theorem runFrom_of_stops {left : Nat} {c : Course} {s : Scene σ} (h : j.stops e s = true) :
    j.runFrom e left c s = j.conclude c .cancelled (j.attempt left - 1) s := by
  cases left <;> simp [runFrom, h]

def tickOnce (c : Course) (left : Nat) (s : Scene σ) : List (Event Q) :=
  (j.checkOnce e s).events ++
    j.tickEvents (j.tick c left (j.checkOnce e s).scene.now (j.checkOnce e s).result)

theorem runFrom_of_decided {left : Nat} {c : Course} {s : Scene σ} (h : j.stops e s = false)
    (hend : left = 0 ∨ (j.checkOnce e s).result.isPending = false) :
    j.runFrom e left c s =
      (j.conclude (c.noting (j.checkOnce e s).result)
        ((j.checkOnce e s).result.ending?.getD .timedOut) (j.attempt left)
        (j.shown e s)).prepend (j.tickOnce e c left s) := by
  cases left with
  | zero =>
    simp only [runFrom, h, Bool.false_eq_true, ↓reduceIte]
    rfl
  | succ left =>
    have hpending : (j.checkOnce e s).result.isPending = false := by simpa using hend
    simp only [runFrom, h, Bool.false_eq_true, ↓reduceIte]
    cases hending : (j.checkOnce e s).result.ending? with
    | none => simp [(Finding.ending?_eq_none _).mp hending] at hpending
    | some ending =>
      simp only [takeTick, hending]
      rfl

/-- What a tick that is not the last leaves behind: itself and a notice. -/
def roundOnce (c : Course) (left : Nat) (s : Scene σ) : List (Event Q) :=
  j.tickOnce e c left s ++
    [.noticed (j.pendingNotice (c.noting (j.checkOnce e s).result) left (j.shown e s).now)]

theorem sleep_shown (s : Scene σ) :
    j.sleep e (wakeTime (j.shown e s).now j.plan.interval) (j.shown e s) =
      if j.stops e (j.rested e s) then (true, j.cutScene e (j.shown e s))
      else (false, j.rested e s) :=
  j.sleep_eq e (Nat.le_of_lt (lt_wakeTime _ j.plan.interval_pos))

/-- A pending tick and a sleep that nothing cuts lead to the next tick. -/
theorem runFrom_of_rested {left : Nat} {c : Course} {s : Scene σ} (h : j.stops e s = false)
    (hpending : (j.checkOnce e s).result.isPending = true)
    (hrest : j.stops e (j.rested e s) = false) :
    j.runFrom e (left + 1) c s =
      (j.runFrom e left (c.noting (j.checkOnce e s).result) (j.rested e s)).prepend
        (j.roundOnce e c (left + 1) s) := by
  have hending := (Finding.ending?_eq_none _).mpr hpending
  have hsleep := j.sleep_shown e s
  rw [hrest] at hsleep
  unfold shown at hsleep
  simp only [runFrom, h, Bool.false_eq_true, ↓reduceIte, takeTick, hending, hsleep]
  rfl

theorem runFrom_of_cut {left : Nat} {c : Course} {s : Scene σ} (h : j.stops e s = false)
    (hpending : (j.checkOnce e s).result.isPending = true)
    (hcut : j.stops e (j.rested e s) = true) :
    j.runFrom e (left + 1) c s =
      (j.conclude (c.noting (j.checkOnce e s).result) .cancelled (j.attempt (left + 1))
        (j.cutScene e (j.shown e s))).prepend (j.roundOnce e c (left + 1) s) := by
  have hending := (Finding.ending?_eq_none _).mpr hpending
  have hsleep := j.sleep_shown e s
  rw [hcut] at hsleep
  unfold shown at hsleep
  simp only [runFrom, h, Bool.false_eq_true, ↓reduceIte, takeTick, hending, hsleep]
  rfl

/-! ### The rounds of a run -/

/-- The scene before the tick after `i` others, where nothing ends the run before it.
A token that strikes is carried along, whether the poll looks at it or not. -/
def sceneAt (s : Scene σ) : Nat → Scene σ
  | 0 => s
  | i + 1 => j.rested e (sceneAt s i)

def findingAt (s : Scene σ) (i : Nat) : Finding α := (j.checkOnce e (j.sceneAt e s i)).result

def returnAt (s : Scene σ) (i : Nat) : Instant := (j.shown e (j.sceneAt e s i)).now

def courseAt (s : Scene σ) : Nat → Course
  | 0 => { started := s.now, lastNote := none }
  | i + 1 => (courseAt s i).noting (j.findingAt e s i)

def recordAt (s : Scene σ) (i : Nat) : Tick :=
  { attempt := i + 1
    maxAttempts := j.plan.maxAttempts
    elapsed := elapsedBetween s.now (j.returnAt e s i)
    mark := (j.findingAt e s i).mark
    note := (j.findingAt e s i).shown? }

def tickAt (s : Scene σ) (i : Nat) : List (Event Q) :=
  (j.checkOnce e (j.sceneAt e s i)).events ++ j.tickEvents (j.recordAt e s i)

def roundAt (s : Scene σ) (i : Nat) : List (Event Q) :=
  j.tickAt e s i ++
    [.noticed (.pending j.plan.description (i + 1) j.plan.maxAttempts
      (elapsedBetween s.now (j.returnAt e s i)) (j.courseAt e s (i + 1)).lastNote
      j.plan.interval)]

def roundsBefore (s : Scene σ) (n : Nat) : List (Event Q) :=
  (List.range n).flatMap (j.roundAt e s)

theorem courseAt_started (s : Scene σ) (i : Nat) : (j.courseAt e s i).started = s.now := by
  induction i with
  | zero => rfl
  | succ i ih => rw [courseAt, Course.noting_started, ih]

theorem courseAt_lastNote (s : Scene σ) (i : Nat) :
    (j.courseAt e s i).lastNote =
      Finding.lastNote? ((List.range i).map (j.findingAt e s)) := by
  induction i with
  | zero => rfl
  | succ i ih =>
    rw [courseAt, Course.noting_lastNote, ih, List.range_succ, List.map_append,
      List.map_singleton, Finding.lastNote?_concat]

theorem roundsBefore_succ (s : Scene σ) (n : Nat) :
    j.roundsBefore e s (n + 1) = j.roundsBefore e s n ++ j.roundAt e s n := by
  unfold roundsBefore
  rw [List.range_succ, List.flatMap_append, List.flatMap_singleton]

variable {j}

theorem attempt_of_lt {i : Nat} (h : i < j.plan.maxAttempts) :
    j.attempt (j.plan.maxAttempts - 1 - i) = i + 1 := by
  unfold attempt
  omega

variable (j)

theorem tickOnce_courseAt (s : Scene σ) {i : Nat} (h : i < j.plan.maxAttempts) :
    j.tickOnce e (j.courseAt e s i) (j.plan.maxAttempts - 1 - i) (j.sceneAt e s i) =
      j.tickAt e s i := by
  unfold tickOnce tickAt tick recordAt findingAt returnAt
  rw [attempt_of_lt h, courseAt_started, shown_now]

theorem roundOnce_courseAt (s : Scene σ) {i : Nat} (h : i < j.plan.maxAttempts) :
    j.roundOnce e (j.courseAt e s i) (j.plan.maxAttempts - 1 - i) (j.sceneAt e s i) =
      j.roundAt e s i := by
  unfold roundOnce roundAt pendingNotice
  rw [j.tickOnce_courseAt e s h, attempt_of_lt h, Course.noting_started, courseAt_started]
  rfl

/-- As long as ticks are pending and the token lets it, a run goes on to the next. -/
theorem run_of_pending (s : Scene σ) {n : Nat} (hn : n < j.plan.maxAttempts)
    (hpending : ∀ i < n, (j.findingAt e s i).isPending = true)
    (hlive : ∀ i ≤ n, j.stops e (j.sceneAt e s i) = false) :
    j.run e s =
      (j.runFrom e (j.plan.maxAttempts - 1 - n) (j.courseAt e s n) (j.sceneAt e s n)).prepend
        (j.roundsBefore e s n) := by
  induction n with
  | zero => rfl
  | succ n ih =>
    have hbefore := ih (by omega) (fun i hi => hpending i (by omega))
      (fun i hi => hlive i (by omega))
    have hleft : j.plan.maxAttempts - 1 - n = j.plan.maxAttempts - 1 - (n + 1) + 1 := by omega
    have hround := j.roundOnce_courseAt e s (i := n) (by omega)
    rw [hbefore]
    rw [hleft] at hround ⊢
    rw [j.runFrom_of_rested e (hlive n (by omega)) (hpending n (by omega)) (hlive (n + 1) le_rfl),
      Passage.prepend_prepend, roundsBefore_succ, hround]
    rfl

/-- A run that a tick decides, or that has no tick left. -/
theorem run_of_decided (s : Scene σ) {n : Nat} (hn : n < j.plan.maxAttempts)
    (hpending : ∀ i < n, (j.findingAt e s i).isPending = true)
    (hlive : ∀ i ≤ n, j.stops e (j.sceneAt e s i) = false)
    (hend : n + 1 = j.plan.maxAttempts ∨ (j.findingAt e s n).isPending = false) :
    j.run e s =
      (j.conclude (j.courseAt e s (n + 1)) ((j.findingAt e s n).ending?.getD .timedOut) (n + 1)
        (j.shown e (j.sceneAt e s n))).prepend (j.roundsBefore e s n ++ j.tickAt e s n) := by
  have hdecided : j.plan.maxAttempts - 1 - n = 0 ∨
      (j.checkOnce e (j.sceneAt e s n)).result.isPending = false :=
    hend.imp_left fun h => by omega
  rw [j.run_of_pending e s hn hpending hlive, j.runFrom_of_decided e (hlive n le_rfl) hdecided,
    Passage.prepend_prepend, j.tickOnce_courseAt e s hn, attempt_of_lt hn]
  rfl

/-- Where a run ends that the token cuts before the tick after `p` others. -/
def cutAt (s : Scene σ) : Nat → Scene σ
  | 0 => s
  | p + 1 => j.cutScene e (j.shown e (j.sceneAt e s p))

theorem run_of_cut (s : Scene σ) {p : Nat} (hp : p < j.plan.maxAttempts)
    (hpending : ∀ i < p, (j.findingAt e s i).isPending = true)
    (hlive : ∀ i < p, j.stops e (j.sceneAt e s i) = false)
    (hcut : j.stops e (j.sceneAt e s p) = true) :
    j.run e s =
      (j.conclude (j.courseAt e s p) .cancelled p (j.cutAt e s p)).prepend
        (j.roundsBefore e s p) := by
  cases p with
  | zero =>
    have hattempt : j.attempt (j.plan.maxAttempts - 1) = 1 := attempt_of_lt hp
    have hstops : j.stops e s = true := hcut
    unfold run
    rw [j.runFrom_of_stops e hstops, hattempt]
    rfl
  | succ p =>
    have hround := j.roundOnce_courseAt e s (i := p) (by omega)
    have hattempt := attempt_of_lt (j := j) (i := p) (by omega)
    have hleft : j.plan.maxAttempts - 1 - p = j.plan.maxAttempts - 1 - (p + 1) + 1 := by omega
    rw [j.run_of_pending e s (n := p) (by omega) (fun i hi => hpending i (by omega))
      (fun i hi => hlive i (by omega))]
    rw [hleft] at hround hattempt ⊢
    rw [j.runFrom_of_cut e (hlive p (by omega)) (hpending p (by omega)) hcut,
      Passage.prepend_prepend, roundsBefore_succ, hround, hattempt]
    rfl

theorem exists_decided (s : Scene σ) :
    ∃ n < j.plan.maxAttempts, (∀ i < n, (j.findingAt e s i).isPending = true) ∧
      (n + 1 = j.plan.maxAttempts ∨ (j.findingAt e s n).isPending = false) := by
  have hpos := j.plan.maxAttempts_pos
  have hex : ∃ n, n + 1 = j.plan.maxAttempts ∨ (j.findingAt e s n).isPending = false :=
    ⟨j.plan.maxAttempts - 1, .inl (by omega)⟩
  classical
  refine ⟨Nat.find hex, ?_, fun i hi => ?_, Nat.find_spec hex⟩
  · have hle := Nat.find_min' hex (m := j.plan.maxAttempts - 1) (.inl (by omega))
    omega
  · have hnot := Nat.find_min hex hi
    simpa using (not_or.mp hnot).2

end Job
end Convergence
