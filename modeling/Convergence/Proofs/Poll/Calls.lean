import Convergence.Poll.Run

/-! Calls of a check, told apart from the clock and the token. What a call finds and
how long it takes is up to the source alone; the clock only says when it begins. -/
namespace Convergence

variable {Q : Type} {A : Q → Type} {σ α : Type}

def Finding.isPending : Finding α → Bool
  | .pending _ => true
  | _ => false

/-- The note of a finding that is pending. The cause of a fatal one is no note. -/
def Finding.note? : Finding α → Option String
  | .pending note => note
  | _ => none

/-- The last note among findings. A finding without a note leaves it as it is. -/
def Finding.lastNote? (findings : List (Finding α)) : Option String :=
  (findings.filterMap Finding.note?).getLast?

theorem Finding.ending?_eq_none (f : Finding α) : f.ending? = none ↔ f.isPending := by
  cases f <;> simp [Finding.ending?, Finding.isPending]

theorem Finding.lastNote?_concat (findings : List (Finding α)) (f : Finding α) :
    Finding.lastNote? (findings ++ [f]) = f.note?.or (Finding.lastNote? findings) := by
  unfold Finding.lastNote?
  rw [List.filterMap_append, List.getLast?_append]
  cases h : f.note? <;> simp [h]

theorem Course.noting_started (c : Course) (f : Finding α) :
    (c.noting f).started = c.started := by
  unfold Course.noting
  split <;> rfl

theorem Course.noting_lastNote (c : Course) (f : Finding α) :
    (c.noting f).lastNote = f.note?.or c.lastNote := by
  unfold Course.noting Finding.note?
  split
  · rfl
  · rename_i h
    cases f with
    | pending note =>
      cases note with
      | none => rfl
      | some text => exact absurd rfl (h text)
    | met value => rfl
    | fatal cause => rfl

/-- What one call of a check does, wherever the clock stands. -/
structure Call (Q σ α : Type) where
  finding : Finding α
  delay : Nat
  /-- The reads, each with the time that has passed since the call began. -/
  reads : List (Q × Nat)
  log : List Notice
  source : σ

namespace Call

def events (c : Call Q σ α) (index : Nat) (start : Instant) : List (Event Q) :=
  c.reads.map (fun read => .asked index read.1 (start + read.2)) ++ c.log.map .noticed

end Call

namespace Check

def call (c : Check Q A α) (source : Source Q A σ) (state : σ) : Call Q σ α :=
  let first := source c.query state
  match c.next first.1.answer with
  | .decide judgement =>
    { finding := judgement.finding
      delay := first.1.delay
      reads := [(c.query, 0)]
      log := judgement.log
      source := first.2 }
  | .read query judge =>
    let second := source query first.2
    let judgement := judge second.1.answer
    { finding := judgement.finding
      delay := first.1.delay + second.1.delay
      reads := [(c.query, 0), (query, first.1.delay)]
      log := judgement.log
      source := second.2 }

theorem call_of_decide (c : Check Q A α) (source : Source Q A σ) (state : σ)
    {judgement : Judgement α} (h : c.next (source c.query state).1.answer = .decide judgement) :
    c.call source state =
      { finding := judgement.finding
        delay := (source c.query state).1.delay
        reads := [(c.query, 0)]
        log := judgement.log
        source := (source c.query state).2 } := by
  unfold call
  dsimp only
  rw [h]

theorem call_of_read (c : Check Q A α) (source : Source Q A σ) (state : σ) {query : Q}
    {judge : A query → Judgement α}
    (h : c.next (source c.query state).1.answer = .read query judge) :
    c.call source state =
      let first := source c.query state
      let second := source query first.2
      { finding := (judge second.1.answer).finding
        delay := first.1.delay + second.1.delay
        reads := [(c.query, 0), (query, first.1.delay)]
        log := (judge second.1.answer).log
        source := second.2 } := by
  unfold call
  dsimp only
  rw [h]

/-- The source when a check has been called so many times. -/
def sourceAfter (c : Check Q A α) (source : Source Q A σ) (state : σ) : Nat → σ
  | 0 => state
  | i + 1 => (c.call source (sourceAfter c source state i)).source

/-- The call after `i` others. -/
def callAt (c : Check Q A α) (source : Source Q A σ) (state : σ) (i : Nat) : Call Q σ α :=
  c.call source (c.sourceAfter source state i)

end Check

namespace Job

/-- A check on the clock of a poll is a call of it. The rest of the scene says only
how many reads there were and whether one of them struck the token. -/
theorem checkOnce_eq (j : Job Q A α) (e : Setting Q A σ) (s : Scene σ) :
    let call := j.check.call e.source s.source
    (j.checkOnce e s).result = call.finding ∧
      (j.checkOnce e s).scene.now = s.now + call.delay ∧
      (j.checkOnce e s).scene.source = call.source ∧
      (j.checkOnce e s).events = call.events j.index s.now := by
  unfold checkOnce Check.call Setting.ask Scene.pass
  dsimp only
  cases j.check.next (e.source j.check.query s.source).1.answer with
  | decide judgement => exact ⟨rfl, rfl, rfl, rfl⟩
  | read query judge => exact ⟨rfl, Nat.add_assoc _ _ _, rfl, rfl⟩

theorem checkOnce_result (j : Job Q A α) (e : Setting Q A σ) (s : Scene σ) :
    (j.checkOnce e s).result = (j.check.call e.source s.source).finding :=
  (j.checkOnce_eq e s).1

theorem checkOnce_now (j : Job Q A α) (e : Setting Q A σ) (s : Scene σ) :
    (j.checkOnce e s).scene.now = s.now + (j.check.call e.source s.source).delay :=
  (j.checkOnce_eq e s).2.1

theorem checkOnce_source (j : Job Q A α) (e : Setting Q A σ) (s : Scene σ) :
    (j.checkOnce e s).scene.source = (j.check.call e.source s.source).source :=
  (j.checkOnce_eq e s).2.2.1

theorem checkOnce_events (j : Job Q A α) (e : Setting Q A σ) (s : Scene σ) :
    (j.checkOnce e s).events = (j.check.call e.source s.source).events j.index s.now :=
  (j.checkOnce_eq e s).2.2.2

end Job
end Convergence
