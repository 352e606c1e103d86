import Convergence.Proofs.Poll.Deciding

/-! How far a run comes, whatever ends it. A run makes its rounds in order. It ends with a
tick that decides it or has none after it, or before a tick that the token stops; what it
shows of the ticks that it makes is the same either way. -/
namespace Convergence

variable {Q : Type} {A : Q → Type} {σ α : Type}

namespace Event

def tick? : Event Q → Option Tick
  | .ticked tick => some tick
  | _ => none

/-- The ticks that an observer is shown. -/
def ticks (events : List (Event Q)) : List Tick := events.filterMap tick?

/-- What happened apart from the notices: the reads, and the ticks that were shown. -/
def deeds (events : List (Event Q)) : List (Event Q) :=
  events.filter fun
    | .noticed _ => false
    | _ => true

@[simp] theorem ticks_append (first rest : List (Event Q)) :
    ticks (first ++ rest) = ticks first ++ ticks rest := by
  unfold ticks
  rw [List.filterMap_append]

theorem ticks_flatMap (l : List Nat) (f : Nat → List (Event Q)) :
    ticks (l.flatMap f) = l.flatMap fun i => ticks (f i) := by
  unfold ticks
  rw [List.filterMap_flatMap]

@[simp] theorem deeds_append (first rest : List (Event Q)) :
    deeds (first ++ rest) = deeds first ++ deeds rest := by
  unfold deeds
  rw [List.filter_append]

theorem deeds_flatMap (l : List Nat) (f : Nat → List (Event Q)) :
    deeds (l.flatMap f) = l.flatMap fun i => deeds (f i) := by
  unfold deeds
  rw [List.filter_flatMap]

@[simp] theorem deeds_noticed (notices : List Notice) :
    deeds (notices.map .noticed : List (Event Q)) = [] := by
  unfold deeds
  rw [List.filter_map]
  exact congrArg _ (List.filter_eq_nil_iff.mpr fun _ _ => Bool.false_ne_true)

theorem reads_deeds (events : List (Event Q)) : reads (deeds events) = reads events := by
  unfold reads deeds
  rw [List.filterMap_filter]
  refine List.filterMap_congr fun event _ => ?_
  cases event <;> rfl

theorem ticks_deeds (events : List (Event Q)) : ticks (deeds events) = ticks events := by
  unfold ticks deeds
  rw [List.filterMap_filter]
  refine List.filterMap_congr fun event _ => ?_
  cases event <;> rfl

end Event

/-- The reads of a call on the clock. -/
def Call.asks (c : Call Q σ α) (index : Nat) (start : Instant) : List (Event Q) :=
  c.reads.map fun read => .asked index read.1 (start + read.2)

@[simp] theorem Call.ticks_asks (c : Call Q σ α) (index : Nat) (start : Instant) :
    Event.ticks (c.asks index start) = [] := by
  unfold Event.ticks asks
  rw [List.filterMap_map]
  exact List.filterMap_eq_nil_iff.mpr fun _ _ => rfl

theorem Call.reads_asks (c : Call Q σ α) (index : Nat) (start : Instant) :
    Event.reads (c.asks index start) = c.reads.map fun read => (read.1, start + read.2) := by
  rw [← Call.reads_events c index start]
  unfold events
  rw [Event.reads_append, Event.reads_noticed, List.append_nil]
  rfl

theorem Call.deeds_events (c : Call Q σ α) (index : Nat) (start : Instant) :
    Event.deeds (c.events index start) = c.asks index start := by
  have hasks : Event.deeds (c.asks index start) = c.asks index start := by
    unfold Event.deeds asks
    rw [List.filter_map]
    exact congrArg _ (List.filter_eq_self.mpr fun _ _ => rfl)
  unfold events
  rw [Event.deeds_append, Event.deeds_noticed, List.append_nil]
  exact hasks

theorem Job.deeds_tickEvents (j : Job Q A α) (t : Tick) :
    Event.deeds (j.tickEvents t) = j.tickEvents t := by
  unfold tickEvents
  split <;> rfl

namespace Job

variable (j : Job Q A α) (e : Setting Q A σ) (s : Scene σ)

/-- The run makes `n` rounds, and then a tick that decides it or is the last it may make. -/
structure EndsWith (n : Nat) : Prop where
  within : n < j.plan.maxAttempts
  before : ∀ i < n, (j.findingAt e s i).isPending = true
  live : ∀ i ≤ n, j.stops e (j.sceneAt e s i) = false
  last : n + 1 = j.plan.maxAttempts ∨ (j.findingAt e s n).isPending = false

/-- The run makes `n` rounds, and then the token stops it. -/
structure CutBefore (n : Nat) : Prop where
  within : n < j.plan.maxAttempts
  before : ∀ i < n, (j.findingAt e s i).isPending = true
  live : ∀ i < n, j.stops e (j.sceneAt e s i) = false
  cut : j.stops e (j.sceneAt e s n) = true

theorem endsWith_or_cutBefore : (∃ n, j.EndsWith e s n) ∨ ∃ n, j.CutBefore e s n := by
  obtain ⟨n, hn, hpending, hlive, hcut | ⟨hnow, hend⟩⟩ := j.exists_last e s
  · exact .inr ⟨n, hn, hpending, hlive, hcut⟩
  · refine .inl ⟨n, hn, hpending, fun i hi => ?_, hend⟩
    rcases Nat.lt_or_eq_of_le hi with hlt | rfl
    · exact hlive i hlt
    · exact hnow

variable {j e s} {n : Nat}

/-- A tick that a run comes to and that is its last may find anything. -/
theorem endsWith_iff :
    j.EndsWith e s n ↔ j.DecidedAt e s n (j.findingAt e s n) ∧
      (n + 1 = j.plan.maxAttempts ∨ (j.findingAt e s n).isPending = false) := by
  constructor
  · rintro ⟨hwithin, hbefore, hlive, hlast⟩
    exact ⟨⟨hwithin, hbefore, hlive n (Nat.le_refl n), rfl⟩, hlast⟩
  · rintro ⟨h, hlast⟩
    exact ⟨h.within, h.before, fun _ => h.live_of_le, hlast⟩

theorem EndsWith.run (h : j.EndsWith e s n) :
    j.run e s =
      (j.conclude (j.courseAt e s (n + 1)) ((j.findingAt e s n).ending?.getD .timedOut) (n + 1)
        (j.shown e (j.sceneAt e s n))).prepend (j.roundsBefore e s n ++ j.tickAt e s n) :=
  j.run_of_decided e s h.within h.before h.live h.last

theorem EndsWith.result (h : j.EndsWith e s n) :
    (j.run e s).result =
      { ending := (j.findingAt e s n).ending?.getD .timedOut
        attempts := n + 1
        elapsed := elapsedBetween s.now (j.returnAt e s n)
        lastNote := Finding.lastNote? ((List.range (n + 1)).map (j.findingAt e s)) } := by
  rw [h.run, ← courseAt_lastNote]
  unfold conclude report
  rw [courseAt_started]
  rfl

theorem CutBefore.run (h : j.CutBefore e s n) :
    j.run e s =
      (j.conclude (j.courseAt e s n) .cancelled n (j.cutAt e s n)).prepend
        (j.roundsBefore e s n) :=
  j.run_of_cut e s h.within h.before h.live h.cut

theorem CutBefore.result (h : j.CutBefore e s n) :
    (j.run e s).result =
      { ending := .cancelled
        attempts := n
        elapsed := elapsedBetween s.now (j.cutAt e s n).now
        lastNote := Finding.lastNote? ((List.range n).map (j.findingAt e s)) } := by
  rw [h.run, ← courseAt_lastNote]
  unfold conclude report
  rw [courseAt_started]
  rfl

/-- A cut run ends at its start if it has made no tick, and else in the sleep after its
last. -/
theorem CutBefore.now (h : j.CutBefore e s (n + 1)) :
    j.returnAt e s n ≤ (j.cutAt e s (n + 1)).now ∧
      (j.cutAt e s (n + 1)).now ≤ wakeTime (j.returnAt e s n) j.plan.interval := by
  have hcut := h.cut
  have hwake := lt_wakeTime (j.returnAt e s n) j.plan.interval_pos
  rw [sceneAt, rested] at hcut
  unfold returnAt at hwake ⊢
  rw [cutAt]
  cases hstops : j.stops e (j.shown e (j.sceneAt e s n)) with
  | true =>
    rw [j.cutScene_of_stops e hstops]
    exact ⟨Nat.le_refl _, Nat.le_of_lt hwake⟩
  | false =>
    obtain ⟨hlater, hearlier, -⟩ := j.cutScene_now e hstops hcut
    exact ⟨hlater, hearlier⟩

variable (j e s)

/-! ### What is common to both -/

theorem deeds_tickAt (i : Nat) :
    Event.deeds (j.tickAt e s i) =
      (j.check.callAt e.source s.source i).asks j.index (j.startAt e.source s.source s.now i) ++
        j.tickEvents (j.recordAt e s i) := by
  rw [tickAt_eq, Event.deeds_append, Call.deeds_events, deeds_tickEvents]

theorem deeds_roundsBefore (n : Nat) :
    Event.deeds (j.roundsBefore e s n) =
      (List.range n).flatMap fun i => Event.deeds (j.tickAt e s i) := by
  unfold roundsBefore
  rw [Event.deeds_flatMap]
  refine List.flatMap_congr fun i _ => ?_
  unfold roundAt
  rw [Event.deeds_append]
  exact List.append_nil _

/-- A run reads and shows what its ticks do, one after the other, and nothing besides. -/
theorem deeds_run :
    Event.deeds (j.run e s).events =
      (List.range (j.run e s).result.attempts).flatMap fun i =>
        (j.check.callAt e.source s.source i).asks j.index (j.startAt e.source s.source s.now i) ++
          j.tickEvents (j.recordAt e s i) := by
  simp only [← deeds_tickAt]
  rcases j.endsWith_or_cutBefore e s with ⟨n, h⟩ | ⟨n, h⟩
  · rw [h.result, h.run, Passage.prepend_events, Event.deeds_append, Event.deeds_append,
      deeds_roundsBefore, List.range_succ, List.flatMap_append, List.flatMap_singleton]
    unfold conclude
    rw [Event.deeds_noticed, List.append_nil]
  · rw [h.result, h.run, Passage.prepend_events, Event.deeds_append, deeds_roundsBefore]
    unfold conclude
    rw [Event.deeds_noticed, List.append_nil]

/-- The reads of a run are those of its calls, each on the clock. -/
theorem reads_run :
    Event.reads (j.run e s).events =
      (List.range (j.run e s).result.attempts).flatMap fun i =>
        (j.check.callAt e.source s.source i).reads.map fun read =>
          (read.1, j.startAt e.source s.source s.now i + read.2) := by
  have hcall : ∀ i, Event.reads
      ((j.check.callAt e.source s.source i).asks j.index (j.startAt e.source s.source s.now i) ++
        j.tickEvents (j.recordAt e s i)) =
      (j.check.callAt e.source s.source i).reads.map fun read =>
        (read.1, j.startAt e.source s.source s.now i + read.2) := by
    intro i
    rw [Event.reads_append, reads_tickEvents, List.append_nil, Call.reads_asks]
  rw [← Event.reads_deeds, deeds_run, Event.reads_flatMap]
  simp only [hcall]

/-- A poll that a tick decides reads nothing after that tick. -/
theorem DecidedAt.reads {j : Job Q A α} {e : Setting Q A σ} {s : Scene σ} {k : Nat}
    {f : Finding α} {ending : Ending α} (h : j.DecidedAt e s k f) (hf : f.ending? = some ending) :
    Event.reads (j.run e s).events =
      (List.range (k + 1)).flatMap fun i => Event.reads (j.tickAt e s i) := by
  rw [reads_run, h.result hf]
  simp only [reads_tickAt]

theorem attempts_le : (j.run e s).result.attempts ≤ j.plan.maxAttempts := by
  rcases j.endsWith_or_cutBefore e s with ⟨n, h⟩ | ⟨n, h⟩
  · rw [h.result]
    exact h.within
  · rw [h.result]
    exact Nat.le_of_lt h.within

theorem run_lastNote :
    (j.run e s).result.lastNote =
      Finding.lastNote? ((List.range (j.run e s).result.attempts).map (j.findingAt e s)) := by
  rcases j.endsWith_or_cutBefore e s with ⟨n, h⟩ | ⟨n, h⟩
  · rw [h.result]
  · rw [h.result]

variable {j e s} in
theorem EndsWith.last_of_pending {n : Nat} (h : j.EndsWith e s n)
    (hpending : (j.findingAt e s n).isPending = true) : n + 1 = j.plan.maxAttempts :=
  h.last.resolve_right (by simp [hpending])

variable {j e s} in
theorem EndsWith.lastNote {n : Nat} {note : String} (h : j.EndsWith e s n)
    (hfinding : j.findingAt e s n = .pending (some note)) :
    (j.run e s).result.lastNote = some note := by
  simp [h.result, List.range_succ, Finding.lastNote?_concat, hfinding, Finding.note?]

/-- A poll runs out by a tick that leaves it open and has none after it. -/
theorem run_timedOut_iff :
    (j.run e s).result.ending = .timedOut ↔
      ∃ n, j.EndsWith e s n ∧ (j.findingAt e s n).isPending = true := by
  constructor
  · intro h
    rcases j.endsWith_or_cutBefore e s with ⟨n, hends⟩ | ⟨n, hcut⟩
    · refine ⟨n, hends, ?_⟩
      rw [hends.result] at h
      cases hfinding : j.findingAt e s n <;> simp_all [Finding.ending?, Finding.isPending]
    · simp [hcut.result] at h
  · rintro ⟨n, hends, hpending⟩
    rw [hends.result, (Finding.ending?_eq_none _).mpr hpending]
    rfl

/-- All ticks but the last leave the poll open. -/
theorem isPending_of_lt {i : Nat} (hi : i + 1 < (j.run e s).result.attempts) :
    (j.findingAt e s i).isPending = true := by
  rcases j.endsWith_or_cutBefore e s with ⟨n, h⟩ | ⟨n, h⟩
  · rw [h.result] at hi
    exact h.before i (Nat.lt_of_succ_lt_succ hi)
  · rw [h.result] at hi
    exact h.before i (Nat.lt_of_succ_lt hi)

end Job
end Convergence
