import Convergence.Http.Wire

/-! Connections that come to their end at some byte of an answer. Before all of its head is
there nobody has answered. From then on there is an answer, with a cut body until all of it is
there; only a body that goes up to the end of the connection can be taken for a shorter one. -/
namespace Convergence

variable {β γ : Type}

/-- What is received of an answer of which `n` bytes have come, where its head has `head` bytes
and all of it `full`. -/
inductive HttpReply.Stage (hangup : Wire.Hangup) (a : HttpAnswer) (head full n : Nat) :
    HttpReply → Prop
  /-- Without all of its head there is no answer. -/
  | headless (missing : n < head) : Stage hangup a head full n .unanswered
  /-- A body that breaks off is cut. -/
  | cut (there : head ≤ n) (missing : n < full) :
    Stage hangup a head full n (.answered { a with body := .cut })
  /-- A body that goes up to the end of the connection does not break off where the server
  closes it. -/
  | short (closed : hangup = .closed) (there : head ≤ n) (missing : n < full) (part : List Nat) :
    Stage hangup a head full n (.answered { a with body := .whole part })
  | whole (there : head ≤ n) (all : full ≤ n) : Stage hangup a head full n (.answered a)

/-- A reader of connections takes these bytes for this answer, and goes by the framing of
messages with their beginnings. -/
structure HttpReply.Framed (read : Wire.Hangup → List Nat → HttpReply) (bytes : List Nat)
    (a : HttpAnswer) (head full : Nat) : Prop where
  head_le : head ≤ bytes.length
  stage : ∀ hangup, ∀ n ≤ bytes.length, Stage hangup a head full n (read hangup (bytes.take n))

namespace HttpReply

variable {hangup : Wire.Hangup} {a b : HttpAnswer} {head full n : Nat} {reply : HttpReply}

/-- Bytes before the head count as its own. -/
theorem Stage.shift {used : Nat} (hused : used ≤ n)
    (h : Stage hangup a head full (n - used) reply) :
    Stage hangup a (used + head) (used + full) n reply := by
  cases h with
  | headless missing => exact .headless (by omega)
  | cut there missing => exact .cut (by omega) (by omega)
  | short closed there missing part => exact .short closed (by omega) (by omega) part
  | whole there all => exact .whole (by omega) (by omega)

theorem ofAnswer_eq_answered :
    ofAnswer b = .answered a ↔ b = a ∧ isFinalStatus a.status = true := by
  unfold ofAnswer
  constructor
  · intro h
    split at h
    · rename_i hfinal
      cases h
      exact ⟨rfl, hfinal⟩
    · cases h
  · rintro ⟨rfl, hfinal⟩
    exact if_pos hfinal

end HttpReply

namespace Wire

/-! ### Readers of a beginning -/

/-- What a reader makes of the beginning of some bytes: nothing if there are fewer than
`used` of them, and what `later` tells of how many more there are. -/
def Awaits (read : List Nat → Option β) (bytes : List Nat) (used : Nat)
    (later : Nat → Option β) : Prop :=
  ∀ m, read (bytes.take m) = if m < used then none else later (m - used)

namespace Awaits

variable {read next : List Nat → Option β} {b : Nat} {more : List Nat} {used : Nat}
  {later : Nat → Option β}

theorem of_nil (h : read [] = none) : Awaits read [] 0 fun _ => none := by
  intro m
  rw [List.take_nil, h, if_neg (Nat.not_lt_zero m)]

theorem of_all (h : ∀ m, read (more.take m) = later m) : Awaits read more 0 later := by
  intro m
  rw [h, if_neg (Nat.not_lt_zero m), Nat.sub_zero]

theorem cons (hnil : read [] = none) (hcons : ∀ tail, read (b :: tail) = next tail)
    (h : Awaits next more used later) : Awaits read (b :: more) (used + 1) later := by
  intro m
  cases m with
  | zero => rw [List.take_zero, hnil, if_pos (Nat.succ_pos used)]
  | succ m =>
    rw [List.take_succ_cons, hcons, h m, Nat.add_sub_add_right]
    simp only [Nat.add_lt_add_iff_right]

theorem map (f : β → γ) (h : Awaits read more used later) :
    Awaits (fun bytes => (read bytes).map f) more used fun n => (later n).map f := by
  intro m
  dsimp only
  rw [h m]
  split <;> rfl

end Awaits

theorem awaits_head {line : List Nat} {lines : List String} {bytes : List Nat}
    {found : List String} {behind : List Nat}
    (h : head? line lines bytes = some (found, behind)) :
    ∃ used, used + behind.length = bytes.length ∧
      Awaits (head? line lines) bytes used fun n => some (found, behind.take n) := by
  fun_induction head? line lines bytes with
  | case1 => cases h
  | case2 line lines rest hempty hfirst ih =>
    obtain ⟨used, hlength, hawaits⟩ := ih h
    refine ⟨used + 1, by rw [List.length_cons]; omega, .cons rfl (fun tail => ?_) hawaits⟩
    rw [head?, if_pos rfl, if_pos hempty, if_pos hfirst]
  | case3 line lines rest hempty hfirst =>
    cases h
    have hcons : ∀ tail, head? line lines (10 :: tail) = some (lines.reverse, tail) := by
      intro tail
      rw [head?, if_pos rfl, if_pos hempty, if_neg hfirst]
    exact ⟨1, Nat.add_comm _ _, .cons rfl hcons (.of_all fun _ => rfl)⟩
  | case4 line lines rest hempty ih =>
    obtain ⟨used, hlength, hawaits⟩ := ih h
    refine ⟨used + 1, by rw [List.length_cons]; omega, .cons rfl (fun tail => ?_) hawaits⟩
    rw [head?, if_pos rfl, if_neg hempty]
  | case5 line lines b rest hb ih =>
    obtain ⟨used, hlength, hawaits⟩ := ih h
    refine ⟨used + 1, by rw [List.length_cons]; omega, .cons rfl (fun tail => ?_) hawaits⟩
    rw [head?, if_neg hb]

/-- Bytes behind the end of a body in chunks make no difference, nor do those behind one that
may not come. -/
theorem awaits_chunks (extended : Nat) (phase : ChunkPhase) (bytes : List Nat) :
    ∃ used, Awaits (chunks? extended phase) bytes used fun _ => chunks? extended phase bytes := by
  have hnone : ∀ bytes, Awaits (fun _ => (none : Option (List Nat))) bytes 0 fun _ => none :=
    fun _ => .of_all fun _ => rfl
  fun_induction chunks? extended phase bytes with
  | case1 extended bytes => exact ⟨0, .of_all fun m => by rw [chunks?]⟩
  | case2 extended phase hphase => exact ⟨0, .of_nil (by rw [chunks?]; exact hphase)⟩
  | case3 extended phase b more hphase hnext =>
    refine ⟨1, .cons (by rw [chunks?]; exact hphase) (fun tail => ?_) (hnone more)⟩
    rw [chunks?]
    · rw [hnext]
    · exact hphase
  | case4 extended phase b more hphase next hnext extended' hless ih =>
    obtain ⟨used, hawaits⟩ := ih
    refine ⟨used + 1, .cons (by rw [chunks?]; exact hphase) (fun tail => ?_) (hawaits.map _)⟩
    rw [chunks?]
    · rw [hnext]
      exact if_pos hless
    · exact hphase
  | case5 extended phase b more hphase next hnext extended' hlimit =>
    refine ⟨1, .cons (by rw [chunks?]; exact hphase) (fun tail => ?_) (hnone more)⟩
    rw [chunks?]
    · rw [hnext]
      exact if_neg hlimit
    · exact hphase

/-! ### Bodies -/

/-- A body of a known length. -/
theorem stage_ofLength (hangup : Hangup) (status : Nat) (location : Option String)
    {bytes : List Nat} (length : Nat) {n : Nat} (hn : n ≤ bytes.length) :
    HttpReply.Stage hangup { status, location, body := .ofLength bytes length } 0 length n
      (.answered { status, location, body := .ofLength (bytes.take n) length }) := by
  have htake : (bytes.take n).length = n := List.length_take_of_le hn
  by_cases hless : n < length
  · have hcut : HttpBody.ofLength (bytes.take n) length = .cut := by
      unfold HttpBody.ofLength
      rw [htake, if_pos hless]
    rw [hcut]
    exact .cut (Nat.zero_le n) hless
  · have hwhole : ¬bytes.length < length := by omega
    have hsame : HttpBody.ofLength (bytes.take n) length = HttpBody.ofLength bytes length := by
      unfold HttpBody.ofLength
      rw [htake, if_neg hless, if_neg hwhole, List.take_take,
        Nat.min_eq_left (Nat.le_of_not_lt hless)]
    rw [hsame]
    exact .whole (Nat.zero_le n) (Nat.le_of_not_lt hless)

theorem Framing.stage_body (framing : Framing) (status : Nat) (location : Option String)
    (behind : List Nat) :
    ∃ full, ∀ hangup, ∀ n ≤ behind.length,
      HttpReply.Stage hangup { status, location, body := framing.body .closed behind } 0 full n
        (.answered { status, location, body := framing.body hangup (behind.take n) }) := by
  cases framing with
  | length length => exact ⟨length, fun hangup n hn => stage_ofLength hangup status location _ hn⟩
  | chunked =>
    obtain ⟨full, hawaits⟩ := awaits_chunks 0 .start behind
    refine ⟨full, fun hangup n _ => ?_⟩
    unfold body
    rw [hawaits n]
    by_cases hless : n < full
    · rw [if_pos hless]
      exact .cut (Nat.zero_le n) hless
    · rw [if_neg hless]
      exact .whole (Nat.zero_le n) (Nat.le_of_not_lt hless)
  | untilHangup =>
    refine ⟨behind.length + 1, fun hangup n hn => ?_⟩
    cases hangup with
    | closed => exact .short rfl (Nat.zero_le n) (Nat.lt_succ_of_le hn) _
    | broken => exact .cut (Nat.zero_le n) (Nat.lt_succ_of_le hn)

/-! ### Replies -/

section

variable {hangup : Hangup} {bytes behind : List Nat} {lines : List String} {h : Head}

theorem replyIn_of_headless (hhead : head? [] [] bytes = none) :
    replyIn hangup bytes = .unanswered := by
  rw [replyIn]
  split
  · rfl
  · rename_i hfound
    cases hhead.symm.trans hfound

theorem replyIn_of_head (hhead : head? [] [] bytes = some (lines, behind))
    (hlines : Head.ofLines? lines = some h) :
    replyIn hangup bytes = if isInterim h.status then replyIn hangup behind
      else (answer? hangup h behind).elim .unanswered .ofAnswer := by
  rw [replyIn]
  split
  · rename_i hfound
    cases hhead.symm.trans hfound
  · rename_i hfound
    cases hhead.symm.trans hfound
    rw [hlines]

theorem answer?_of_framing {framing : Framing} (hframing : h.framing? = some framing)
    (hfinal : isFinalStatus h.status = true) :
    (answer? hangup h behind).elim .unanswered .ofAnswer = HttpReply.answered
      { status := h.status
        location := (h.values "location").head?
        body := framing.body hangup behind } := by
  unfold answer?
  rw [hframing]
  exact HttpReply.ofAnswer_eq_answered.mpr ⟨rfl, hfinal⟩

/-- An answer behind a head goes by the framing that the head tells. -/
theorem framing_of_answered {a : HttpAnswer}
    (hanswered : (answer? hangup h behind).elim .unanswered .ofAnswer = HttpReply.answered a) :
    ∃ framing, h.framing? = some framing ∧ isFinalStatus h.status = true ∧
      a = { status := h.status
            location := (h.values "location").head?
            body := framing.body hangup behind } := by
  unfold answer? at hanswered
  cases hframing : h.framing? with
  | none =>
    rw [hframing] at hanswered
    cases hanswered
  | some framing =>
    rw [hframing] at hanswered
    obtain ⟨rfl, hfinal⟩ := HttpReply.ofAnswer_eq_answered.mp hanswered
    exact ⟨framing, rfl, hfinal, rfl⟩

end

/-- A head takes its bytes, and nobody has answered before it is there. -/
theorem replyIn_take {bytes behind : List Nat} {lines : List String} {h : Head}
    (hhead : head? [] [] bytes = some (lines, behind)) (hlines : Head.ofLines? lines = some h) :
    ∃ used, used + behind.length = bytes.length ∧ ∀ hangup n,
      replyIn hangup (bytes.take n) =
        if n < used then .unanswered
        else if isInterim h.status then replyIn hangup (behind.take (n - used))
        else (answer? hangup h (behind.take (n - used))).elim .unanswered .ofAnswer := by
  obtain ⟨used, hlength, hawaits⟩ := awaits_head hhead
  refine ⟨used, hlength, fun hangup n => ?_⟩
  by_cases hused : n < used
  · rw [if_pos hused]
    exact replyIn_of_headless (by rw [hawaits n, if_pos hused])
  · rw [if_neg hused]
    exact replyIn_of_head (by rw [hawaits n, if_neg hused]) hlines

theorem replyIn_framed {bytes : List Nat} {a : HttpAnswer}
    (hanswered : replyIn .closed bytes = .answered a) :
    ∃ head full, HttpReply.Framed replyIn bytes a head full := by
  fun_induction replyIn .closed bytes with
  | case1 => cases hanswered
  | case2 => cases hanswered
  | case3 bytes lines behind hhead h hlines hinterim ih =>
    obtain ⟨used, hlength, htake⟩ := replyIn_take hhead hlines
    obtain ⟨head, full, hframed⟩ := ih hanswered
    have hle := hframed.head_le
    refine ⟨used + head, used + full, by omega, fun hangup n hn => ?_⟩
    rw [htake hangup n]
    by_cases hused : n < used
    · rw [if_pos hused]
      exact .headless (by omega)
    · rw [if_neg hused, if_pos hinterim]
      exact (hframed.stage hangup (n - used) (by omega)).shift (Nat.le_of_not_lt hused)
  | case4 bytes lines behind hhead h hlines hinterim =>
    obtain ⟨used, hlength, htake⟩ := replyIn_take hhead hlines
    obtain ⟨framing, hframing, hfinal, rfl⟩ := framing_of_answered hanswered
    obtain ⟨full, hstage⟩ := framing.stage_body h.status (h.values "location").head? behind
    refine ⟨used, used + full, by omega, fun hangup n hn => ?_⟩
    rw [htake hangup n]
    by_cases hused : n < used
    · rw [if_pos hused]
      exact .headless hused
    · rw [if_neg hused, if_neg hinterim, answer?_of_framing hframing hfinal]
      exact (hstage hangup (n - used) (by omega)).shift (Nat.le_of_not_lt hused)

end Wire

/-- Where the connection ends tells what is received, be the end orderly or not. -/
theorem HttpReply.received_framed {bytes : List Nat} {a : HttpAnswer}
    (h : received .closed bytes = .answered a) : ∃ head full, Framed received bytes a head full :=
  Wire.replyIn_framed h

end Convergence
