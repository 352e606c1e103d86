import Convergence.Proofs.Http.Exchanges
import Convergence.Proofs.Http.Stages
import Convergence.Proofs.Poll.Consequences
import Convergence.Proofs.Widening

/-! Probes of servers that hang up. A wait outlives connections that end before all of the head
of an answer is there. It does not outlive one that ends in the body of an answer with status
200, although asking again might help there too. -/
namespace Convergence

variable {σ : Type}

namespace Probe

/-- In this state of the server, the exchange that starts with a request gets this reply to it
or to one that it moves on to. -/
def Meets (p : Probe) (server : HttpServer (StateM σ)) (s : σ) (start : HttpRequest)
    (reply : HttpReply) : Prop :=
  HttpRequest.compose p.url p.token = .ok start ∧
    ∃ t, server.Gets start maxMoves start s reply t

variable {p : Probe} {w : Waiter}

section

variable {server : HttpServer (StateM σ)} {s : σ} {start : HttpRequest}

theorem answer_eq (hstart : HttpRequest.compose p.url p.token = .ok start) :
    (source server (p.url, p.token) s).1.answer =
      ((server.followFrom start maxMoves start).run s).1 := by
  change ((server.exchange p.url p.token).run s).1 = _
  unfold HttpServer.exchange
  rw [hstart]

theorem Meets.unanswered (h : p.Meets server s start .unanswered) :
    (source server (p.url, p.token) s).1.answer = .error (.unanswered start.url) := by
  obtain ⟨hstart, t, hgets⟩ := h
  rw [answer_eq hstart, hgets.unanswered]

theorem Meets.ok {answer : HttpAnswer} (hok : answer.status = 200)
    (h : p.Meets server s start (.answered answer)) :
    (source server (p.url, p.token) s).1.answer = .ok answer := by
  obtain ⟨hstart, t, hgets⟩ := h
  rw [answer_eq hstart, hgets.ok hok]

end

theorem judge_of_text {answer : HttpAnswer} {body : String} (hok : answer.status = 200)
    (htext : answer.text = .ok body) : (p.judge (.ok answer)).finding = .met body := by
  unfold judge
  dsimp only
  rw [if_pos hok, htext]
  rfl

section

variable {j : Job Query Answer String} {e : Setting Query Answer σ} {s : Scene σ} {n : Nat}

/-- What the tick after `n` others is answered. -/
def answerAt (p : Probe) (e : Setting Query Answer σ) (s : Scene σ) (n : Nat) :
    Except HttpError HttpAnswer :=
  (e.source (p.url, p.token) (p.check.sourceAfter e.source s.source n)).1.answer

theorem findingAt_eq (hj : w.job 0 p.check = .ok j) :
    j.findingAt e s n = (p.judge (p.answerAt e s n)).finding := by
  rw [Job.findingAt_eq, Waiter.job_check hj]
  rfl

theorem findingAt_of_fault (hj : w.job 0 p.check = .ok j) {error : HttpError}
    (hfault : faultOf (p.answerAt e s n) = some error) :
    j.findingAt e s n = if error.kind = .request then .pending (some error.message)
      else .fatal error.message := by
  rw [findingAt_eq hj, judge_of_fault hfault]
  unfold judgeError
  rw [HttpError.classify_eq]
  split <;> rfl

theorem goesOnAfter_request (hj : w.job 0 p.check = .ok j)
    (hn : n < (j.run e s).result.attempts) {error : HttpError}
    (hfault : faultOf (p.answerAt e s n) = some error) (hkind : error.kind = .request) :
    j.GoesOnAfter e s n error.message := by
  refine Job.goesOnAfter hn ?_
  rw [findingAt_of_fault hj hfault, if_pos hkind]

theorem endsBy_fault (hj : w.job 0 p.check = .ok j) (hn : n < (j.run e s).result.attempts)
    {error : HttpError} (hfault : faultOf (p.answerAt e s n) = some error)
    (hkind : error.kind ≠ .request) : j.EndsBy e s n (.fatal error.message) := by
  refine Job.endsBy hn ?_ rfl
  rw [findingAt_of_fault hj hfault, if_neg hkind]

/-- What a tick makes of an answer with status 200, of which `n` bytes come over its connection,
where the head of the answer has `head` bytes and all of it `full`. -/
structure AtStage (j : Job Query Answer String) (e : Setting Query Answer σ) (s : Scene σ)
    (i : Nat) (start : HttpRequest) (hangup : Wire.Hangup) (head full n : Nat) (body : String) :
    Prop where
  headless : n < head → j.GoesOnAfter e s i (HttpError.unanswered start.url).message
  /-- Only a body that goes up to the end of the connection is not missed. -/
  cut : head ≤ n → n < full → j.EndsBy e s i (.fatal HttpError.cutBody.message) ∨
    hangup = .closed ∧ ∃ part, j.EndsBy e s i (.met part)
  whole : head ≤ n → full ≤ n → j.EndsBy e s i (.met body)

theorem atStage (hj : w.job 0 p.check = .ok j) {i : Nat} (hi : i < (j.run e s).result.attempts)
    {start : HttpRequest} {hangup : Wire.Hangup} {head full : Nat} {a : HttpAnswer}
    {body : String} {reply : HttpReply} (hok : a.status = 200) (hbody : a.text = .ok body)
    (hstage : HttpReply.Stage hangup a head full n reply)
    (hunanswered : reply = .unanswered → p.answerAt e s i = .error (.unanswered start.url))
    (hanswered : ∀ b, reply = .answered b → b.status = 200 → p.answerAt e s i = .ok b) :
    AtStage j e s i start hangup head full n body := by
  cases hstage with
  | headless missing =>
    refine ⟨fun _ => ?_, fun there => by omega, fun there => by omega⟩
    have hfault : faultOf (p.answerAt e s i) = some (.unanswered start.url) := by
      rw [hunanswered rfl]
      rfl
    exact goesOnAfter_request hj hi hfault rfl
  | cut there missing =>
    have hfault : faultOf (p.answerAt e s i) = some .cutBody := by
      rw [hanswered _ rfl hok]
      exact if_pos hok
    refine ⟨fun headless => by omega, fun _ _ => .inl ?_, fun _ all => by omega⟩
    exact endsBy_fault hj hi hfault nofun
  | short closed there missing part =>
    have hmet : j.findingAt e s i = .met (Text.decodeBytes part) := by
      rw [findingAt_eq hj, hanswered _ rfl hok]
      exact judge_of_text hok rfl
    have hends := Job.endsBy hi hmet rfl
    exact ⟨fun headless => by omega, fun _ _ => .inr ⟨closed, _, hends⟩, fun _ all => by omega⟩
  | whole there all =>
    have hmet : j.findingAt e s i = .met body := by
      rw [findingAt_eq hj, hanswered _ rfl hok]
      exact judge_of_text hok hbody
    exact ⟨fun headless => by omega, fun _ missing => by omega, fun _ _ => Job.endsBy hi hmet rfl⟩

end

/-- An exchange that gets no answer leaves its tick open, and one that comes to any other error
ends the wait. So the byte at which a connection ends decides about the wait: before all of the
head of an answer is there the wait goes on, while between there and the end of the body it is
over. -/
theorem hangups_decide {σ : Type} (p : Probe) (w : Waiter) {j : Job Query Answer String}
    (hj : w.job 0 p.check = .ok j) :
    (∀ (e : Setting Query Answer σ) (s : Scene σ),
      (p.wait w e s).result = (j.run e s).result.outcome j.plan ∧
        ∀ n < (j.run e s).result.attempts, ∀ error, faultOf (p.answerAt e s n) = some error →
          (error.kind = .request → j.GoesOnAfter e s n error.message) ∧
            (error.kind ≠ .request → j.EndsBy e s n (.fatal error.message))) ∧
    ∀ (read : Wire.Hangup → List Nat → HttpReply) (bytes : List Nat) (a : HttpAnswer)
        (head full : Nat) (body : String),
      HttpReply.Framed read bytes a head full → a.status = 200 → a.text = .ok body →
      ∀ hangup, ∀ n ≤ bytes.length,
        ∀ (server : HttpServer (StateM σ)) (trigger : Trigger) (s : Scene σ),
          let e : Setting Query Answer σ := { source := source server, trigger }
          ∀ i < (j.run e s).result.attempts, ∀ start,
            p.Meets server (p.check.sourceAfter e.source s.source i) start
                (read hangup (bytes.take n)) →
              AtStage j e s i start hangup head full n body := by
  constructor
  · intro e s
    refine ⟨?_, fun n hn error hfault => ⟨?_, endsBy_fault hj hn hfault⟩⟩
    · unfold wait Waiter.wait
      rw [hj]
      rfl
    · exact goesOnAfter_request hj hn hfault
  · intro read bytes a head full body hframed hok hbody hangup n hn server trigger s e i hi start
      hmeets
    refine atStage hj hi hok hbody (hframed.stage hangup n hn) (fun hreply => ?_)
      fun b hreply hb => ?_
    · rw [hreply] at hmeets
      exact hmeets.unanswered
    · rw [hreply] at hmeets
      exact hmeets.ok hb

/-- A head of 38 bytes, and two bytes behind it. -/
def storyBytes : List Nat :=
  "HTTP/1.1 200 OK\r\ncontent-length: 2\r\n\r\nok".toList.map Char.toNat

def storyAnswer : HttpAnswer :=
  { status := 200, location := none, body := .whole [0x6F, 0x6B] }

def story : Probe := { url := "http://h/up", token := none, tolerance := .standard }

def storyWaiter : Waiter := .simple "up" (.ofSecs 3) 6

/-- A server whose connections break after `n` bytes of its answer. -/
def storyServer (n : Nat) : HttpServer (StateM Unit) := fun _ =>
  pure (.received .broken (storyBytes.take n))

def storySetting (n : Nat) : Setting Query Answer Unit :=
  { source := source (storyServer n), trigger := .never }

/-- What comes of 37 bytes, of 38, of 39 and of all tells where the head and the body end. -/
theorem storyBytes_framed : HttpReply.Framed HttpReply.received storyBytes storyAnswer 38 40 := by
  have hwhole : HttpReply.received .closed storyBytes = .answered storyAnswer := by
    decide +kernel
  obtain ⟨head, full, hframed⟩ := HttpReply.received_framed hwhole
  have hbefore : 37 < head := by
    have hstage := hframed.stage .broken 37 (by decide)
    rw [show HttpReply.received .broken (storyBytes.take 37) = .unanswered by decide +kernel]
      at hstage
    cases hstage with
    | headless missing => exact missing
  have hcut : ∀ n ∈ [38, 39], head ≤ n ∧ n < full := by
    intro n hn
    have hreply : ∀ n ∈ [38, 39], HttpReply.received .broken (storyBytes.take n) =
        .answered { storyAnswer with body := .cut } := by decide +kernel
    have hle : ∀ n ∈ [38, 39], n ≤ storyBytes.length := by decide
    have hstage := hframed.stage .broken n (hle n hn)
    rw [hreply n hn] at hstage
    cases hstage with
    | cut there missing => exact ⟨there, missing⟩
  have hfull : full ≤ 40 := by
    have hstage := hframed.stage .broken 40 (by decide)
    rw [show HttpReply.received .broken (storyBytes.take 40) = .answered storyAnswer by
      decide +kernel] at hstage
    cases hstage with
    | whole there all => exact all
    | short closed => cases closed
  obtain ⟨hhead, -⟩ := hcut 38 (by decide)
  obtain ⟨-, hmissing⟩ := hcut 39 (by decide)
  obtain rfl : head = 38 := by omega
  obtain rfl : full = 40 := by omega
  exact hframed

theorem hangups_decide_story :
    HttpReply.Framed HttpReply.received storyBytes storyAnswer 38 40 ∧
      ∃ start j, storyWaiter.job 0 story.check = .ok j ∧ ∀ n ≤ 40,
        story.Meets (storyServer n) () start (.received .broken (storyBytes.take n)) ∧
          0 < (j.run (storySetting n) ((storySetting n).opening ())).result.attempts ∧
          AtStage j (storySetting n) ((storySetting n).opening ()) 0 start .broken 38 40 n "ok" := by
  have hbody : storyAnswer.text = .ok "ok" := by decide +kernel
  obtain ⟨j, hj⟩ : ∃ j, storyWaiter.job 0 story.check = .ok j := ⟨_, rfl⟩
  obtain ⟨start, hstart⟩ : ∃ start, HttpRequest.compose story.url story.token = .ok start := by
    cases hcompose : HttpRequest.compose story.url story.token with
    | ok start => exact ⟨start, rfl⟩
    | error error =>
      have hnone : (HttpRequest.compose story.url story.token).toOption = none :=
        congrArg Except.toOption hcompose
      exact absurd hnone (by decide +kernel)
  have hmeets : ∀ n, story.Meets (storyServer n) () start
      (.received .broken (storyBytes.take n)) := fun n => ⟨hstart, (), .now rfl⟩
  have hmade : ∀ n ≤ 40, 0 < attemptsOf (Job.await (storyWaiter.job 0 story.check)
      (storySetting n) ((storySetting n).opening ())).result := by decide +kernel
  rw [hj] at hmade
  simp only [Job.attemptsOf_await] at hmade
  obtain ⟨-, hstages⟩ := hangups_decide story storyWaiter hj
  refine ⟨storyBytes_framed, start, j, hj, fun n hn => ⟨hmeets n, hmade n hn, ?_⟩⟩
  exact hstages HttpReply.received storyBytes storyAnswer 38 40 "ok" storyBytes_framed rfl hbody
    .broken n hn (storyServer n) .never _ 0 (hmade n hn) start (hmeets n)

/-- A server that hangs up before all of the body is there. -/
theorem hangup_ends_wait :
    let reply := HttpReply.received .closed
      ("HTTP/1.1 200 OK\r\ncontent-length: 100\r\n\r\nok".toList.map Char.toNat)
    let server : HttpServer (StateM Unit) := fun _ => pure reply
    let e : Setting Query Answer Unit := { source := source server, trigger := .never }
    reply = .answered { status := 200, location := none, body := .cut } ∧
      (story.check.call e.source ()).finding ≠ .pending (some HttpError.cutBody.message) ∧
      (story.wait storyWaiter e (e.opening ())).result =
        .error (.aborted "up" HttpError.cutBody.message 1 (.ofMillis 0)) := by
  decide +kernel

end Probe

end Convergence
