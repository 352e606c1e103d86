import Convergence.Proofs.Poll.Deciding
import Convergence.Proofs.Poll.Independence
import Convergence.Proofs.Poll.Later
import Convergence.Proofs.Poll.Turns

/-! Polls that share a clock and a source do not disturb each other, as long as the
source answers each of them as if the others did not read from it. In whatever order
they take their steps, each of them does what it does alone. -/
namespace Convergence

variable {Q : Type} {A : Q → Type} {σ α : Type}

/-- The poll reads `q` when it runs alone, whenever it starts. -/
def Job.Reads (j : Job Q A α) (source : Source Q A σ) (s : Scene σ) (q : Q) : Prop :=
  ∃ now time, (q, time) ∈ Event.reads (j.run source.calm { s with now }).events

theorem Job.Undisturbed.mem_reads {j : Job Q A α} {e : Setting Q A σ} {s : Scene σ}
    (h : j.Undisturbed e s) {read : Q × Instant} (hread : read ∈ Event.reads (j.run e s).events) :
    ∃ i, read.1 ∈ (j.check.callAt e.source s.source i).reads.map Prod.fst := by
  have htick : ∀ i, read ∈ Event.reads (j.tickAt e s i) →
      read.1 ∈ (j.check.callAt e.source s.source i).reads.map Prod.fst := by
    intro i hi
    rw [reads_tickAt] at hi
    obtain ⟨first, hfirst, rfl⟩ := List.mem_map.mp hi
    exact List.mem_map.mpr ⟨first, hfirst, rfl⟩
  obtain ⟨n, hn, hpending, hend⟩ := j.exists_decided e s
  rw [j.run_of_decided e s hn hpending (fun i _ => h.stops_sceneAt i) hend,
    Passage.prepend_events, Event.reads_append, Event.reads_append, List.append_assoc,
    List.mem_append, List.mem_append] at hread
  rcases hread with hbefore | hlast | hended
  · rw [reads_roundsBefore] at hbefore
    obtain ⟨i, -, hi⟩ := List.mem_flatMap.mp hbefore
    exact ⟨i, htick i hi⟩
  · exact ⟨n, htick n hlast⟩
  · exact absurd hended (by unfold conclude; simp)

namespace Runner

variable {source : Source Q A σ} {s t : Scene σ} {r : Runner Q A α}
  {p : Passage Q σ (Runner Q A α)}

theorem finish_congr (r : Runner Q A α) (c : Course) (ending : Ending α) (attempts : Nat)
    (h : t.now = s.now) :
    (r.finish c ending attempts t).result = (r.finish c ending attempts s).result ∧
      (r.finish c ending attempts t).events = (r.finish c ending attempts s).events := by
  unfold finish Job.conclude
  rw [h]
  exact ⟨rfl, rfl⟩

/-- A step shows the same at two scenes that agree on the instant and on the token, and
leads to the same where they agree on the answer to what it reads. -/
theorem Act.congr (h : Act source.calm s r p) (hnow : t.now = s.now)
    (hlive : t.cancelled = s.cancelled) :
    ∃ p', Act source.calm t r p' ∧ p'.events = p.events ∧
      p'.scene.source = source.after t.source ((Event.reads p.events).map Prod.fst) ∧
      ((∀ q time, (q, time) ∈ Event.reads p.events →
        (source q t.source).1 = (source q s.source).1) → p'.result = p.result) := by
  obtain ⟨now, state, reads, ticks, cancelled⟩ := t
  obtain rfl : now = s.now := hnow
  obtain rfl : cancelled = s.cancelled := hlive
  have hstops : ∀ u v : Scene σ, u.cancelled = v.cancelled →
      r.job.stops source.calm u = r.job.stops source.calm v := by
    intro u v hu
    rw [r.job.stops_calm, r.job.stops_calm, hu]
  have htoken : (r.job.afterTick source.calm
      { now := s.now, source := state, reads, ticks, cancelled := s.cancelled }).cancelled =
        (r.job.afterTick source.calm s).cancelled := by
    rw [r.job.afterTick_cancelled rfl, r.job.afterTick_cancelled rfl]
  have hticked : (r.job.afterTick source.calm
      { now := s.now, source := state, reads, ticks, cancelled := s.cancelled }).now =
        (r.job.afterTick source.calm s).now := by
    rw [Job.afterTick_now, Job.afterTick_now]
  cases h with
  | refuse idle stops =>
    refine ⟨_, .refuse idle ((hstops _ s rfl).trans stops), rfl, ?_, fun _ => rfl⟩
    rw [finish_reads]
    rfl
  | @ask left idle live due =>
    refine ⟨_, .ask idle ((hstops _ s rfl).trans live) due, rfl, rfl, fun hreply => ?_⟩
    exact congrArg (fun reply => { r with
      phase := .reading left (s.now + reply.delay) (r.job.check.next reply.answer) })
      (hreply r.job.check.query s.now List.mem_cons_self)
  | @askAgain left wake query judge phase answered =>
    refine ⟨_, .askAgain phase answered, rfl, rfl, fun hreply => ?_⟩
    exact congrArg (fun reply => { r with
      phase := .rereading left (s.now + reply.delay) (judge reply.answer) })
      (hreply query s.now List.mem_cons_self)
  | decide verdict answered last =>
    obtain ⟨hresult, hevents⟩ := r.finish_congr (r.course.noting _) _ _ hticked
    refine ⟨_, .decide verdict answered last, congrArg (_ ++ ·) hevents, ?_, fun _ => hresult⟩
    rw [Passage.prepend_events, Event.reads_append, shownTick_reads, finish_reads]
    exact Job.afterTick_source _ _ _
  | cut verdict answered pending stops =>
    obtain ⟨hresult, hevents⟩ := r.finish_congr (r.course.noting _) .cancelled _ hticked
    refine ⟨_, .cut verdict answered pending ((hstops _ _ htoken).trans stops),
      congrArg (_ ++ ·) hevents, ?_, fun _ => hresult⟩
    rw [Passage.prepend_events, Event.reads_append, waitingTick_reads, finish_reads]
    exact Job.afterTick_source _ _ _
  | rest verdict answered pending live =>
    refine ⟨_, .rest verdict answered pending ((hstops _ _ htoken).trans live), rfl, ?_,
      fun _ => rfl⟩
    rw [waitingTick_reads]
    exact Job.afterTick_source _ _ _

theorem Act.scene_source (h : Act source.calm s r p) :
    p.scene.source = source.after s.source ((Event.reads p.events).map Prod.fst) := by
  obtain ⟨p', hact, -, hsource, -⟩ := h.congr (t := s) rfl rfl
  obtain rfl : p = p' := h.eq_step.symm.trans hact.eq_step
  exact hsource

/-- What is left of a poll that waits does not change while it waits. -/
theorem remainder_later (hlive : s.cancelled = false) (still : r.canRun source.calm s = false)
    (now : Instant) :
    (r.remainder source.calm { s with now }).result = (r.remainder source.calm s).result ∧
      (r.remainder source.calm { s with now }).events = (r.remainder source.calm s).events := by
  have hsleep : ∀ (wake : Instant) (t : Scene σ), t.cancelled = false →
      r.job.sleep source.calm wake t = (false, { t with now := wake }) := by
    intro wake t ht
    unfold Job.sleep
    rw [r.job.stops_calm, ht, Bool.and_false]
    rfl
  unfold canRun at still
  unfold remainder
  split at still <;> rename_i hphase <;> rw [hphase]
  · cases still
  · rename_i left wake
    dsimp only
    rw [hsleep wake s hlive, hsleep wake { s with now } hlive]
    exact ⟨rfl, rfl⟩
  · rename_i left wake next
    cases next <;> exact ⟨rfl, rfl⟩
  · exact ⟨rfl, rfl⟩
  · exact ⟨rfl, rfl⟩

end Runner

/-- A poll has done and will do what it does alone: `own` is what it has shown so far. -/
def Seat.Alone (source : Source Q A σ) (s : Scene σ) (now : Instant) (own : List (Event Q)) :
    Seat Q A α → Prop
  | waiting _ => own = []
  | running r =>
    let alone := r.job.run source.calm { s with now := r.course.started }
    ∃ x : Scene σ, x.now = now ∧ x.cancelled = false ∧
      x.source = source.after s.source ((Event.reads own).map Prod.fst) ∧
      alone.result = (r.remainder source.calm x).result ∧
      alone.events = own ++ (r.remainder source.calm x).events

namespace Seat.Alone

variable {source : Source Q A σ} {s t : Scene σ} {r : Runner Q A α} {now : Instant}
  {own : List (Event Q)}

theorem start (j : Job Q A α) (hs : s.cancelled = false) (now : Instant) :
    (Seat.running (.start j now)).Alone source s now [] :=
  ⟨{ s with now }, rfl, hs, rfl, rfl, rfl⟩

theorem later (h : (Seat.running r).Alone source s t.now own) (hlive : t.cancelled = false)
    (still : r.canRun source.calm t = false) (now : Instant) :
    (Seat.running r).Alone source s now own := by
  obtain ⟨x, hnow, hx, hsource, hresult, hevents⟩ := h
  have hstill : r.canRun source.calm x = false := by
    rw [← still]
    unfold Runner.canRun
    rw [r.job.stops_calm, r.job.stops_calm, hnow, hx, hlive]
  obtain ⟨hsame, hshown⟩ := Runner.remainder_later hx hstill now
  exact ⟨{ x with now }, rfl, hx, hsource, hresult.trans hsame.symm, hevents.trans (by rw [hshown])⟩

/-- A step is a step of the poll alone, if what the poll reads is answered as if it were
alone. -/
theorem act (h : (Seat.running r).Alone source s t.now own)
    (htimely : ∀ wake, r.phase.wake? = some wake → t.now ≤ wake) (hlive : t.cancelled = false)
    (can : r.canRun source.calm t = true)
    (hreply : ∀ q, r.job.Reads source s q →
      (source q (source.after s.source ((Event.reads own).map Prod.fst))).1 =
        (source q t.source).1) :
    (Seat.running (r.step source.calm t).result).Alone source s t.now
      (own ++ (r.step source.calm t).events) := by
  obtain ⟨x, hnow, hx, hsource, hresult, hevents⟩ := h
  have hact := Runner.step_act can
  obtain ⟨p, hp, hshown, hstate, hsame⟩ := hact.congr (t := x) hnow (hx.trans hlive.symm)
  have hrest := hp.remainder_eq fun wake hw => hnow ▸ htimely wake hw
  rw [hrest] at hresult hevents
  have hp' : p.result = (r.step source.calm t).result := by
    refine hsame fun q time hq => ?_
    rw [hsource]
    refine hreply q ⟨r.course.started, time, ?_⟩
    rw [hevents, Passage.prepend_events, Event.reads_append, Event.reads_append, hshown]
    simp [hq]
  rw [← hp', ← hshown]
  refine ⟨p.scene, hp.now.trans hnow, (hp.cancelled rfl).trans hx, ?_, ?_, ?_⟩
  · rw [hstate, hsource, ← Source.after_append, ← List.map_append, ← Event.reads_append, hshown]
  · rw [hp.job, hp.started]
    exact hresult
  · rw [hp.job, hp.started, List.append_assoc]
    exact hevents

theorem reads (h : (Seat.running r).Alone source s now own) {q : Q} {time : Instant}
    (hq : (q, time) ∈ Event.reads own) : r.job.Reads source s q := by
  obtain ⟨x, -, -, -, -, hevents⟩ := h
  refine ⟨r.course.started, time, ?_⟩
  rw [hevents, Event.reads_append]
  exact List.mem_append_left _ hq

end Seat.Alone

namespace Hall

variable {source : Source Q A σ} {jobs : List (Job Q A α)} {s : Scene σ} {a b h : Hall Q A σ α}
  {trace first rest : List (Nat × Event Q)}

/-- The reads among events, each under the place of its poll. -/
def asked (events : List (Nat × Event Q)) : List (Nat × Q) :=
  events.filterMap fun
    | (i, .asked _ query _) => some (i, query)
    | _ => none

theorem asked_append (first rest : List (Nat × Event Q)) :
    asked (first ++ rest) = asked first ++ asked rest := by
  unfold asked
  rw [List.filterMap_append]

theorem asked_map (i : Nat) (events : List (Event Q)) :
    asked (events.map (i, ·)) = (Event.reads events).map fun read => (i, read.1) := by
  induction events with
  | nil => rfl
  | cons event events ih =>
    cases event with
    | asked job query time => exact congrArg ((i, query) :: ·) ih
    | ticked tick => exact ih
    | noticed notice => exact ih

theorem filter_asked (i : Nat) (events : List (Nat × Event Q)) :
    ((asked events).filter (·.1 = i)).map Prod.snd =
      (Event.reads (own i events)).map Prod.fst := by
  induction events with
  | nil => rfl
  | cons event events ih =>
    have hcons : asked (event :: events) = asked [event] ++ asked events :=
      asked_append [event] events
    have hown : own i (event :: events) = own i [event] ++ own i events :=
      own_append i [event] events
    rw [hcons, hown, List.filter_append, List.map_append, Event.reads_append, List.map_append, ih]
    congr 1
    obtain ⟨k, event⟩ := event
    by_cases hk : k = i
    · subst hk
      cases event <;> simp [asked, own, Event.reads]
    · cases event <;> simp [asked, own, Event.reads, hk]

/-- The reads that the polls of a list make alone, each under the place of its poll. -/
def Reading (source : Source Q A σ) (jobs : List (Job Q A α)) (s : Scene σ) (i : Nat) (q : Q) :
    Prop :=
  ∃ j, jobs[i]? = some j ∧ j.Reads source s q

/-- Each poll has done so far what it does alone. -/
structure Apart (source : Source Q A σ) (jobs : List (Job Q A α)) (s : Scene σ)
    (trace : List (Nat × Event Q)) (h : Hall Q A σ α) : Prop where
  timely : h.Timely
  live : h.scene.cancelled = false
  state : h.scene.source = source.after s.source ((asked trace).map Prod.snd)
  reads : ∀ read ∈ asked trace, Reading source jobs s read.1 read.2
  given : ∀ (i : Nat) (x : Seat Q A α), h.seats[i]? = some x → jobs[i]? = some x.job
  alone : ∀ (i : Nat) (x : Seat Q A α), h.seats[i]? = some x →
    x.Alone source s h.scene.now (own i trace)

theorem opening_apart (source : Source Q A σ) (jobs : List (Job Q A α))
    (hs : s.cancelled = false) : Apart source jobs s [] (opening jobs s) where
  timely := opening_timely jobs s
  live := hs
  state := rfl
  reads := nofun
  given := by
    intro i x hx
    have hrun : Run source (opening jobs s) [] (opening jobs s) := .refl _
    exact hrun.job hx
  alone := by
    intro i x hx
    unfold opening at hx
    rw [List.getElem?_map] at hx
    obtain ⟨j, -, rfl⟩ := Option.map_eq_some_iff.mp hx
    rfl

/-- What the source answers to a poll does not depend on the other polls. -/
theorem Apart.reply (ha : Apart source jobs s trace a)
    (hind : source.Independent s.source (Reading source jobs s)) {i : Nat} {q : Q}
    (hq : Reading source jobs s i q) :
    (source q (source.after s.source ((Event.reads (own i trace)).map Prod.fst))).1 =
      (source q a.scene.source).1 := by
  rw [ha.state, hind _ ha.reads i q hq, filter_asked]

theorem Step.alone (hstep : Step source a first b) (ha : Apart source jobs s trace a)
    (hind : source.Independent s.source (Reading source jobs s)) (hs : s.cancelled = false)
    {i : Nat} {y : Seat Q A α} (hy : b.seats[i]? = some y) :
    y.Alone source s b.scene.now (own i (trace ++ first)) := by
  obtain ⟨x, hx⟩ := hstep.seat_back hy
  have halone := ha.alone i x hx
  rw [own_append]
  rcases hstep.seat hx with ⟨hsame, hown⟩ | ⟨j, rfl, hstart, hown, hscene⟩ |
    ⟨r, rfl, can, hrun, hown, hscene⟩
  -- A step that is not its own can take the source and the clock along, not the poll.
  · obtain rfl := Option.some.inj (hsame.symm.trans hy)
    rw [hown, List.append_nil]
    rcases hstep.now with hnow | ⟨-, -, -, hstill⟩
    · rw [hnow]
      exact halone
    · cases x with
      | waiting j => exact halone
      | running r => exact halone.later ha.live (hstill r (List.mem_of_getElem? hx)).1 _
  · obtain rfl := Option.some.inj (hstart.symm.trans hy)
    rw [hown, hscene, show own i trace = [] from halone]
    exact .start j hs _
  · obtain rfl := Option.some.inj (hrun.symm.trans hy)
    rw [hown, hscene, (Runner.step_act can).now]
    exact halone.act (ha.timely i _ hx).1 ha.live can fun q hq =>
      ha.reply hind ⟨r.job, ha.given i _ hx, hq⟩

theorem Step.state (hstep : Step source a first b) :
    b.scene.source = source.after a.scene.source ((asked first).map Prod.snd) := by
  cases hstep with
  | start seat => rfl
  | run seat can =>
    rw [asked_map, List.map_map]
    exact (Runner.step_act can).scene_source
  | cancel live => rfl
  | wait still later awaited early => rfl

theorem Step.apart (hstep : Step source a first b) (ha : Apart source jobs s trace a)
    (hind : source.Independent s.source (Reading source jobs s)) (hs : s.cancelled = false)
    (hb : b.scene.cancelled = false) : Apart source jobs s (trace ++ first) b where
  timely := hstep.timely ha.timely
  live := hb
  state := by
    rw [hstep.state, ha.state, ← Source.after_append, ← List.map_append, ← asked_append]
  reads := by
    have halone := fun i y hy => hstep.alone (i := i) (y := y) ha hind hs hy
    have hgiven := hstep.job ha.given
    intro read hread
    rw [asked_append, List.mem_append] at hread
    rcases hread with hold | hnew
    · exact ha.reads read hold
    -- The read may be new, so that it is one of the poll alone is read off what follows it.
    · cases hstep with
      | start seat => cases hnew
      | @run i r seat can =>
        rw [asked_map] at hnew
        obtain ⟨⟨q, time⟩, hq, rfl⟩ := List.mem_map.mp hnew
        obtain ⟨hi, -⟩ := List.getElem?_eq_some_iff.mp seat
        have hy : (a.seats.set i (.running (r.step source.calm a.scene).result))[i]? =
            some (.running (r.step source.calm a.scene).result) := by simp [hi]
        have hmem : (q, time) ∈ Event.reads (own i (trace ++
            (r.step source.calm a.scene).events.map (i, ·))) := by
          rw [own_append, own_self, Event.reads_append]
          exact List.mem_append_right _ hq
        exact ⟨_, hgiven i _ hy, (halone i _ hy).reads hmem⟩
      | cancel live => cases hnew
      | wait still later awaited early => cases hnew
  given := hstep.job ha.given
  alone := fun _ _ hy => hstep.alone ha hind hs hy

theorem Run.live (hrun : Run source a first b) (hb : b.scene.cancelled = false) :
    a.scene.cancelled = false := by
  cases ha : a.scene.cancelled with
  | false => rfl
  | true => exact absurd (hrun.keeps (fun hstep => hstep.cancelled) ha) (by simp [hb])

theorem Run.apart (hrun : Run source a rest h) (ha : Apart source jobs s trace a)
    (hind : source.Independent s.source (Reading source jobs s)) (hs : s.cancelled = false)
    (hlive : h.scene.cancelled = false) : Apart source jobs s (trace ++ rest) h := by
  induction hrun generalizing trace with
  | refl h =>
    rw [List.append_nil]
    exact ha
  | step hstep hrest ih =>
    rw [← List.append_assoc]
    exact ih (hstep.apart ha hind hs (hrest.live hlive)) hlive

/-- A poll that has ended has done what it does alone, from the instant at which it
started. -/
theorem Run.alone (hrun : Run source (opening jobs s) trace h)
    (hind : source.Independent s.source (Reading source jobs s)) (hs : s.cancelled = false)
    (hlive : h.scene.cancelled = false) {i : Nat} {r : Runner Q A α} {report : Report α}
    (hr : h.seats[i]? = some (.running r)) (hreport : r.report? = some report) :
    let alone := r.job.run source.calm { s with now := r.course.started }
    alone.result = report ∧ alone.events = own i trace := by
  obtain ⟨x, -, -, -, hresult, hevents⟩ :=
    (hrun.apart (opening_apart source jobs hs) hind hs hlive).alone i _ hr
  have hremainder : r.remainder source.calm x = { result := report, scene := x, events := [] } := by
    unfold Runner.remainder
    rw [Runner.phase_of_report hreport]
  rw [hremainder] at hresult hevents
  exact ⟨hresult, hevents.trans (List.append_nil _)⟩

end Hall
end Convergence
