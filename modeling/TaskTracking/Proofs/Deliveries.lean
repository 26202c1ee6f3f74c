import Mathlib.Data.List.DropRight
import TaskTracking.Proofs.Metering
import TaskTracking.Proofs.Streaks

/-! # What a poll loop delivers

  A loop delivers what its answers call for (`Polling.deliveries`): every status
  that it gets, and one report at the failure with which a streak of failures
  reaches the threshold. It delivers nothing else, and nothing after a terminal
  status or once polling was stopped, another task is polled, or the channel's
  owner is gone, whatever is answered later (`Polling.Course.traced_of_reaches`).

  The proof follows one loop through a course. `Course.Move` says once what an
  event can do to it, and `Course.Told` is kept by every move.
-/

namespace TaskTracking.Polling

/-! ### What answers call for -/

/-- The answer to a request: a status, or why there is none. -/
abbrev Answer := Except TransportFailure Snapshot

/-- Whether there is no status. -/
def failed : Answer → Bool
  | .ok _ => false
  | .error _ => true

/-- Whether the task has ended. -/
def concludes : Answer → Bool
  | .ok s => s.isTerminal
  | .error _ => false

/-- How many failures the answers end with. -/
def streakOf (answers : List Answer) : Nat := (answers.rtakeWhile failed).length

/-- What answer `k` is delivered as: a status under its id or that of the polled task, and a
    failure as a report if it is the one with which its streak reaches the threshold. -/
def deliveredAt (taskId : String) (threshold : Nat) (answers : List Answer) (k : Nat) :
    List Delivery :=
  match answers[k]? with
  | some (.ok s) => [.snapshot .poll (s.withDefaultId taskId)]
  | some (.error _) =>
    if streakOf (answers.take (k + 1)) = threshold then [.stalled taskId threshold] else []
  | none => []

/-- What the answers to a loop's requests are delivered as. -/
def deliveries (taskId : String) (threshold : Nat) (answers : List Answer) : List Delivery :=
  (List.range answers.length).flatMap (deliveredAt taskId threshold answers)

theorem streakOf_concat_ok (answers : List Answer) (s : Snapshot) :
    streakOf (answers ++ [.ok s]) = 0 := by
  have hlast : ¬ failed (.ok s) = true := by simp [failed]
  unfold streakOf
  rw [List.rtakeWhile_concat_neg _ _ _ hlast]
  rfl

theorem streakOf_concat_error (answers : List Answer) (e : TransportFailure) :
    streakOf (answers ++ [.error e]) = streakOf answers + 1 := by
  have hlast : failed (.error e) = true := rfl
  unfold streakOf
  rw [List.rtakeWhile_concat_pos _ _ _ hlast, List.length_append]
  rfl

/-- One more answer adds what it is delivered as. -/
theorem deliveries_concat (taskId : String) (threshold : Nat) (answers : List Answer) (a : Answer) :
    deliveries taskId threshold (answers ++ [a]) = deliveries taskId threshold answers ++
      deliveredAt taskId threshold (answers ++ [a]) answers.length := by
  have hearlier : ∀ k ∈ List.range answers.length,
      deliveredAt taskId threshold (answers ++ [a]) k = deliveredAt taskId threshold answers k := by
    intro k hk
    have hlt : k < answers.length := List.mem_range.mp hk
    unfold deliveredAt
    rw [List.getElem?_append_left hlt, List.take_append_of_le_length hlt]
  unfold deliveries
  rw [List.length_append, List.length_singleton, List.range_succ, List.flatMap_append,
    List.flatMap_congr hearlier, List.flatMap_singleton]

theorem deliveries_concat_ok (taskId : String) (threshold : Nat) (answers : List Answer)
    (s : Snapshot) :
    deliveries taskId threshold (answers ++ [.ok s]) =
      deliveries taskId threshold answers ++ [.snapshot .poll (s.withDefaultId taskId)] := by
  rw [deliveries_concat]
  simp [deliveredAt]

theorem deliveries_concat_error (taskId : String) (threshold : Nat) (answers : List Answer)
    (e : TransportFailure) :
    deliveries taskId threshold (answers ++ [.error e]) = deliveries taskId threshold answers ++
      if streakOf answers + 1 = threshold then [.stalled taskId threshold] else [] := by
  have hwhole : (answers ++ [Except.error e]).take (answers.length + 1) = answers ++ [.error e] :=
    List.take_of_length_le (by simp)
  rw [deliveries_concat, ← streakOf_concat_error]
  unfold deliveredAt
  rw [List.getElem?_concat_length, hwhole]

namespace Course

/-! ### Answers and deliveries of a loop -/

namespace Record

/-- The answer that loop `i` gets. -/
def answer? (r : Record) (i : Nat) : Option Answer :=
  match r.event with
  | .answered j result => if j = i then some result else none
  | _ => none

/-- What loop `i` delivers. -/
def deliveredBy (r : Record) (i : Nat) : List Delivery :=
  if (r.answer? i).isSome then r.delivered else []

/-- Loop `i` is dismissed: polling is stopped, another task is polled instead, or the owner
    of the channel is gone. -/
def dismisses (r : Record) (i : Nat) : Bool :=
  match r.event with
  | .stop => (r.loopBefore i).isSome
  | .start taskId => (r.loopBefore i).any (·.taskId ≠ taskId)
  | .retire => true
  | _ => false

end Record

/-- Whether loop `i` was dismissed. -/
def dismissed (history : List Record) (i : Nat) : Bool := history.any (·.dismisses i)

/-- The answers that loop `i` got before it was dismissed. -/
def answers (history : List Record) (i : Nat) : List Answer :=
  (history.takeWhile fun r => !r.dismisses i).filterMap (·.answer? i)

/-- What loop `i` has delivered. -/
def deliveredBy (history : List Record) (i : Nat) : List Delivery :=
  history.flatMap (·.deliveredBy i)

theorem dismissed_concat (history : List Record) (r : Record) (i : Nat) :
    dismissed (history ++ [r]) i = (dismissed history i || r.dismisses i) := by
  simp [dismissed]

theorem deliveredBy_concat (history : List Record) (r : Record) (i : Nat) :
    deliveredBy (history ++ [r]) i = deliveredBy history i ++ r.deliveredBy i := by
  simp [deliveredBy]

/-- A dismissal is no answer. -/
theorem answer?_of_dismisses {r : Record} {i : Nat} (h : r.dismisses i = true) :
    r.answer? i = none := by
  unfold Record.dismisses at h
  unfold Record.answer?
  cases hevent : r.event <;> simp_all

theorem answers_concat {history : List Record} {i : Nat} (h : dismissed history i = false)
    (r : Record) : answers (history ++ [r]) i = answers history i ++ (r.answer? i).toList := by
  have hgo : ∀ r' ∈ history, (!r'.dismisses i) = true := by
    unfold dismissed at h
    simpa using h
  have hlast : ([r].takeWhile fun r => !r.dismisses i).filterMap (·.answer? i) =
      (r.answer? i).toList := by
    cases hdismisses : r.dismisses i with
    | true => simp [hdismisses, answer?_of_dismisses hdismisses]
    | false => cases hanswer : r.answer? i <;> simp [hdismisses, hanswer]
  unfold answers
  rw [List.takeWhile_append_of_pos hgo, List.filterMap_append, hlast,
    List.takeWhile_eq_self_iff.mpr hgo]

/-- A loop that was dismissed gets no more answers. -/
theorem answers_concat_of_dismissed {history : List Record} {i : Nat}
    (h : dismissed history i = true) (r : Record) :
    answers (history ++ [r]) i = answers history i := by
  have hstopped : (history.takeWhile fun r => !r.dismisses i).length ≠ history.length := by
    intro hlength
    have hall := List.takeWhile_eq_self_iff.mp ((List.takeWhile_prefix _).eq_of_length hlength)
    obtain ⟨r', hr', hdismisses⟩ := List.any_eq_true.mp h
    simpa [hdismisses] using hall r' hr'
  unfold answers
  rw [List.takeWhile_append, if_neg hstopped]

theorem answers_concat_of_none {history : List Record} {i : Nat} {r : Record}
    (h : r.answer? i = none) : answers (history ++ [r]) i = answers history i := by
  cases hdismissed : dismissed history i with
  | true => exact answers_concat_of_dismissed hdismissed r
  | false =>
    rw [answers_concat hdismissed, h]
    exact List.append_nil _

theorem deliveredBy_of_none {r : Record} {i : Nat} (h : r.answer? i = none) :
    r.deliveredBy i = [] := by
  simp [Record.deliveredBy, h]

theorem dismisses_of_answer? {r : Record} {i : Nat} {result : Answer}
    (h : r.answer? i = some result) : r.dismisses i = false := by
  by_contra hdismisses
  rw [answer?_of_dismisses (by simpa using hdismisses)] at h
  cases h

theorem asks_of_answer? {r : Record} {i : Nat} {result : Answer} (h : r.answer? i = some result) :
    r.asks i = false := by
  unfold Record.answer? at h
  unfold Record.asks
  cases hevent : r.event <;> simp_all

/-! ### What an event does to a loop -/

end Course

namespace Loop

/-- The loop issues no request: it was cancelled, has not begun, or has returned. -/
def Parked (l : Loop) : Prop := l.cancelled = true ∨ l.due = none ∨ l.ended = true

theorem run_parked {l : Loop} {interval now : Nat} (hready : l.ready now = true)
    (h : (l.run interval now).Parked) :
    l.Parked ∧ (l.request = none → (l.run interval now).request = none) := by
  by_cases hcancelled : l.cancelled = true
  · have hrun : l.run interval now = { l with ended := true } := if_pos hcancelled
    rw [hrun]
    exact ⟨.inl hcancelled, id⟩
  · cases hdue : l.due with
    | none =>
      refine ⟨.inr (.inl hdue), ?_⟩
      intro hrequest
      by_cases hzero : interval = 0 <;> simp [run, hcancelled, hdue, hzero, hrequest]
    | some due =>
      -- A tick sets the next one, so that the loop is not parked by it.
      have hended : l.ended = false := by
        have hgo := ((Bool.and_eq_true _ _).mp hready).1
        simpa using hgo
      by_cases hearly : now < due
      · simp [Parked, run, hcancelled, hdue, hearly, hended] at h
      · cases hrequest : l.request <;>
          simp [Parked, run, hcancelled, hdue, hearly, hended, hrequest] at h

theorem run_failures (l : Loop) (interval now : Nat) :
    (l.run interval now).stats.failures = l.stats.failures := by
  unfold run
  split
  · rfl
  · split
    · split <;> rfl
    · dsimp only
      split
      · rfl
      · split <;> rfl

theorem runRequest_spec (l : Loop) :
    l.runRequest.1.stats.failures = l.stats.failures ∧ (l.runRequest.1.Parked → l.Parked) ∧
      (l.request = none → l.runRequest.1.request = none) ∧
      (l.runRequest.2 = true → l.cancelled = false) := by
  unfold runRequest Parked
  cases hrequest : l.request with
  | none => simp [hrequest]
  | some request =>
    cases request <;> cases hcancelled : l.cancelled <;> simp [hcancelled]

end Loop

namespace Channel

theorem stop_retired (c : Channel) : c.stop.retired = c.retired := by
  unfold stop
  split <;> rfl

/-- A start that is no repetition adds a loop, which is cancelled if the owner is gone. -/
theorem start_loops {c : Channel} {taskId : String} (h : c.currentTask ≠ some taskId) :
    (c.start taskId).1.loops =
      c.stop.loops ++ [({ taskId, cancelled := c.retired } : Loop)] := by
  rw [start, if_neg h, ← c.stop_retired]

theorem start_retired (c : Channel) (taskId : String) :
    (c.start taskId).1.retired = c.retired := by
  unfold start
  split
  · rfl
  · exact c.stop_retired

theorem start_threshold (c : Channel) (taskId : String) :
    (c.start taskId).1.threshold = c.threshold :=
  (Unfailing.start c taskId).threshold

end Channel

namespace Course

/-- What an event does to loop `i`: it brings the answer to its request while deliveries are
    taken, or nothing that the loop counts or delivers. -/
inductive Move (r : Record) (i : Nat) (l l' : Loop) : Prop
  | answered (result : Answer) (hanswer : r.answer? i = some result)
      (hsent : l.request = some .sent)
      (hafter : l.answer r.before.threshold true result = (l', r.delivered))
  | other (hanswer : r.answer? i = none)
      (hsame : l'.taskId = l.taskId ∧ l'.streak = l.streak ∧ l'.stats.failures = l.stats.failures)
      (hcancelled : l.cancelled = true ∨ r.dismisses i = true → l'.cancelled = true)
      (hparked : r.dismisses i = false → l'.Parked →
        l.Parked ∧ (l.request = none → l'.request = none))
      (hasks : r.asks i = true → l.cancelled = false)

theorem Move.same {r : Record} {i : Nat} {l : Loop} (hanswer : r.answer? i = none)
    (hdismisses : r.dismisses i = true → l.cancelled = true) (hasks : r.asks i = false) :
    Move r i l l := by
  apply Move.other hanswer ⟨rfl, rfl, rfl⟩
  · intro h
    exact h.elim id hdismisses
  · intro _ hparked
    exact ⟨hparked, id⟩
  · simp [hasks]

/-- A start cancels every loop of another task, and of its own only one that polls no more. -/
theorem move_start {c : Channel} (hstray : c.NoStray) {i : Nat} {l : Loop}
    (hl : c.loops[i]? = some l) (taskId : String) (now : Nat) :
    ∃ l', (c.start taskId).1.loops[i]? = some l' ∧ Move {
      event := .start taskId, time := now, before := c
      after := (c.start taskId).1 } i l l' := by
  have hlive (hactive : c.active = some i) (hlive : l.isLive = true) :
      c.currentTask = some l.taskId := by
    simp [Channel.currentTask, Channel.activeLoop, hactive, hl, hlive]
  have hdismisses : ∀ after, Record.dismisses
      { event := .start taskId, time := now, before := c, after } i =
        decide (l.taskId ≠ taskId) := by
    intro after
    simp [Record.dismisses, Record.loopBefore, hl]
  by_cases hcur : c.currentTask = some taskId
  · have hsame : c.start taskId = (c, false) := if_pos hcur
    rw [hsame]
    refine ⟨l, hl, .same rfl ?_ rfl⟩
    intro hother
    rw [hdismisses, decide_eq_true_eq] at hother
    apply hstray i l hl
    intro hactive
    -- The current loop polls that very task.
    simp only [Channel.currentTask, Channel.activeLoop, hactive, Option.bind_some, hl,
      Option.map_eq_some_iff, Option.filter_eq_some_iff, Option.some.injEq] at hcur
    obtain ⟨l₀, ⟨rfl, -⟩, htask⟩ := hcur
    exact hother htask
  · have hloops := Channel.start_loops hcur
    obtain ⟨l', hl'⟩ : ∃ l', c.stop.loops[i]? = some l' := by
      rw [Channel.stop_loops, hl]
      exact ⟨_, rfl⟩
    have hcancelled := hstray.stop i l' hl'
    rw [Channel.stop_loops, hl, Option.map_some, Option.some.injEq] at hl'
    refine ⟨l', ?_, ?_⟩
    · rw [hloops, List.getElem?_append_left, Channel.stop_loops, hl, Option.map_some, hl']
      rw [Channel.stop_length]
      exact (List.getElem?_eq_some_iff.mp hl).1
    · apply Move.other rfl
      · rw [← hl']
        split <;> exact ⟨rfl, rfl, rfl⟩
      · exact fun _ => hcancelled
      · intro hown hparked
        rw [hdismisses, decide_eq_false_iff_not, not_not] at hown
        by_cases hactive : c.active = some i
        · -- The loop is replaced since it was not live.
          rw [if_pos hactive] at hl'
          have hended : l.isLive = false := by
            by_contra hlives
            exact hcur (hown ▸ hlive hactive (by simpa using hlives))
          refine ⟨?_, by simp [← hl']⟩
          by_cases hcancelled : l.cancelled = true
          · exact .inl hcancelled
          · exact .inr (.inr (by simpa [Loop.isLive, hcancelled] using hended))
        · rw [if_neg hactive] at hl'
          rw [hl']
          exact ⟨hparked, id⟩
      · simp [Record.asks]

/-- A stop cancels the loops that are not stray, and leaves what they count. -/
theorem move_stop {c : Channel} (hstray : c.NoStray) {i : Nat} {l : Loop}
    (hl : c.loops[i]? = some l) (now : Nat) :
    ∃ l', c.stop.loops[i]? = some l' ∧
      Move { event := .stop, time := now, before := c, after := c.stop } i l l' := by
  obtain ⟨l', hl'⟩ : ∃ l', c.stop.loops[i]? = some l' := by
    rw [Channel.stop_loops, hl]
    exact ⟨_, rfl⟩
  have hcancelled := hstray.stop i l' hl'
  refine ⟨l', hl', .other rfl ?_ (fun _ => hcancelled) ?_ (by simp [Record.asks])⟩
  · rw [Channel.stop_loops, hl, Option.map_some, Option.some.injEq] at hl'
    rw [← hl']
    split <;> exact ⟨rfl, rfl, rfl⟩
  · simp [Record.dismisses, Record.loopBefore, hl]

/-- A turn of the loop's own job. -/
theorem Move.run {r : Record} {i : Nat} {l : Loop} {interval now : Nat}
    (hevent : r.event = .loop i) (hready : l.ready now = true) :
    Move r i l (l.run interval now) := by
  obtain ⟨htask, hstreak⟩ := Loop.run_streak interval now l
  apply Move.other (by simp [Record.answer?, hevent]) ⟨htask, hstreak, l.run_failures _ _⟩
  · simp [Record.dismisses, hevent]
  · intro _ hparked
    exact Loop.run_parked hready hparked
  · simp [Record.asks, hevent]

/-- A turn of the loop's request, which is sent unless the loop is cancelled. -/
theorem Move.runRequest {r : Record} {i : Nat} {l : Loop} (hevent : r.event = .request i)
    (hasked : r.asked.isSome = l.runRequest.2) : Move r i l l.runRequest.1 := by
  obtain ⟨hfailures, hparked, hidle, hasks⟩ := l.runRequest_spec
  obtain ⟨htask, hstreak⟩ := l.runRequest_streak
  apply Move.other (by simp [Record.answer?, hevent]) ⟨htask, hstreak, hfailures⟩
  · simp [Record.dismisses, hevent]
  · intro _ h
    exact ⟨hparked h, hidle⟩
  · simpa [Record.asks, hevent, hasked] using hasks

theorem move_of_record? {s : Course} {e : Event} {r : Record} (h : s.record? e = some r)
    (hstray : s.channel.NoStray) (hreceiving : s.receiving = true) {i : Nat} {l : Loop}
    (hl : s.channel.loops[i]? = some l) : ∃ l', r.loopAfter i = some l' ∧ Move r i l l' := by
  cases e with
  | start taskId =>
    obtain rfl := Option.some.inj h
    exact move_start hstray hl taskId s.now
  | stop =>
    obtain rfl := Option.some.inj h
    exact move_stop hstray hl s.now
  | retire =>
    obtain rfl := Option.some.inj h
    refine ⟨{ l with cancelled := true }, ?_, ?_⟩
    · show s.channel.retire.loops[i]? = _
      rw [Channel.retire_loops, hl, Option.map_some]
    · refine .other rfl ⟨rfl, rfl, rfl⟩ (fun _ => rfl) ?_ ?_
      · simp [Record.dismisses]
      · simp [Record.asks]
  | deserted | elapsed =>
    obtain rfl := Option.some.inj h
    exact ⟨l, hl, .same rfl (by simp [Record.dismisses]) rfl⟩
  -- A job's event is for one loop, which the other loops do not notice.
  | loop j =>
    obtain ⟨hready, hr⟩ := Option.ite_none_right_eq_some.mp h
    obtain rfl := Option.some.inj hr
    by_cases hij : j = i
    · subst hij
      have hready : l.ready s.now = true := by simpa [hl] using hready
      exact ⟨_, Channel.update_self hl _, .run rfl hready⟩
    · exact ⟨l, (Channel.update_ne hij _).trans hl, .same rfl (by simp [Record.dismisses]) rfl⟩
  | request j =>
    obtain ⟨hready, hr⟩ := Option.ite_none_right_eq_some.mp h
    obtain rfl := Option.some.inj hr
    by_cases hij : j = i
    · subst hij
      rw [Channel.runRequest_eq hl]
      refine ⟨_, Channel.update_self hl _, .runRequest rfl ?_⟩
      split <;> simp_all
    · refine ⟨l, ?_, .same rfl (by simp [Record.dismisses]) (by simp [Record.asks, hij])⟩
      obtain ⟨k, hk, -⟩ := (Option.any_eq_true _ _).mp hready
      show (s.channel.runRequest j).1.loops[i]? = _
      rw [Channel.runRequest_eq hk]
      exact (Channel.update_ne hij _).trans hl
  | answered j result =>
    obtain ⟨hsent, hr⟩ := Option.ite_none_right_eq_some.mp h
    obtain ⟨k, hk, hsent⟩ := (Option.any_eq_true _ _).mp hsent
    have hsent : k.request = some .sent := by simpa using hsent
    obtain rfl := Option.some.inj hr
    by_cases hij : j = i
    · subst hij
      obtain rfl := Option.some.inj (hl.symm.trans hk)
      rw [Channel.answer_eq hl hsent, hreceiving]
      refine ⟨_, Channel.update_self hl _, .answered result ?_ hsent rfl⟩
      simp [Record.answer?]
    · refine ⟨l, ?_, .same (by simp [Record.answer?, hij]) (by simp [Record.dismisses]) rfl⟩
      show (s.channel.answer j s.receiving result).1.loops[i]? = _
      rw [Channel.answer_eq hk hsent]
      exact (Channel.update_ne hij _).trans hl

/-! ### What a loop has done so far -/

/-- Loop `i` delivers nothing and sends no request. -/
def Quiet (history : List Record) (i : Nat) : Prop :=
  deliveredBy history i = [] ∧ ∀ r ∈ history, r.asks i = false

/-- Whether loop `i` is over: it was dismissed, or has got a terminal status. -/
def finished (history : List Record) (i : Nat) : Bool :=
  dismissed history i || (answers history i).any concludes

/-- **Invariant.** Loop `i` has delivered what its answers call for, and nothing since it
    was over. -/
structure Told (threshold : Nat) (history : List Record) (i : Nat) (l : Loop) : Prop where
  streak : l.streak = streakOf (answers history i)
  failures : l.stats.failures = (answers history i).countP failed
  delivered : deliveredBy history i = deliveries l.taskId threshold (answers history i)
  cancelled : finished history i = true → l.cancelled = true
  /-- So a loop gets no answer after a terminal one. -/
  idle : dismissed history i = false → l.Parked → l.request = none
  quiet : ∀ earlier later, history = earlier ++ later → finished earlier i = true → Quiet later i

theorem finished_append {history : List Record} {i : Nat} (h : finished history i = true)
    (later : List Record) : finished (history ++ later) i = true := by
  induction later using List.reverseRecOn with
  | nil => simpa using h
  | append_singleton later r ih =>
    rw [← List.append_assoc]
    cases hdismissed : dismissed (history ++ later) i with
    | true =>
      rw [finished, dismissed_concat, hdismissed]
      rfl
    | false =>
      have hconcluded : (answers (history ++ later) i).any concludes = true := by
        simpa [finished, hdismissed] using ih
      rw [finished, answers_concat hdismissed, List.any_append, hconcluded]
      simp

theorem quiet_concat {history : List Record} {i : Nat} {r : Record} (h : Quiet history i)
    (hdelivered : r.deliveredBy i = []) (hasks : r.asks i = false) : Quiet (history ++ [r]) i := by
  obtain ⟨hquiet, hnone⟩ := h
  constructor
  · rw [deliveredBy_concat, hquiet, hdelivered]
    rfl
  · intro r' hr'
    rcases List.mem_append.mp hr' with hold | hnew
    · exact hnone r' hold
    · rw [List.mem_singleton.mp hnew]
      exact hasks

/-- Past a point where the loop was over, one more event is quiet if the loop is cancelled. -/
theorem Told.quiet_next {threshold : Nat} {history : List Record} {i : Nat} {l : Loop} {r : Record}
    (h : Told threshold history i l)
    (hquiet : l.cancelled = true → r.deliveredBy i = [] ∧ r.asks i = false) :
    ∀ earlier later, history ++ [r] = earlier ++ later → finished earlier i = true →
      Quiet later i := by
  intro earlier later hsplit hover
  rcases List.eq_nil_or_concat' later with rfl | ⟨later, r', rfl⟩
  · exact ⟨rfl, by simp⟩
  · rw [← List.append_assoc] at hsplit
    obtain ⟨rfl, hlast⟩ := List.append_inj' hsplit rfl
    cases hlast
    obtain ⟨hdelivered, hasks⟩ := hquiet (h.cancelled (finished_append hover later))
    exact quiet_concat (h.quiet earlier later rfl hover) hdelivered hasks

section Told

variable {threshold : Nat} {history : List Record} {i : Nat} {l l' : Loop} {r : Record}
  {result : Answer}

/-- An event that brings the loop no answer. -/
theorem Told.unanswered (h : Told threshold history i l) (hanswer : r.answer? i = none)
    (hsame : l'.taskId = l.taskId ∧ l'.streak = l.streak ∧ l'.stats.failures = l.stats.failures)
    (hcancelled : l.cancelled = true ∨ r.dismisses i = true → l'.cancelled = true)
    (hparked : r.dismisses i = false → l'.Parked →
      l.Parked ∧ (l.request = none → l'.request = none))
    (hasks : r.asks i = true → l.cancelled = false) : Told threshold (history ++ [r]) i l' := by
  have hanswers : answers (history ++ [r]) i = answers history i := answers_concat_of_none hanswer
  have hdelivered := deliveredBy_of_none hanswer
  obtain ⟨htask, hstreak, hfailures⟩ := hsame
  constructor
  · rw [hstreak, hanswers, h.streak]
  · rw [hfailures, hanswers, h.failures]
  · rw [deliveredBy_concat, hdelivered, List.append_nil, htask, hanswers, h.delivered]
  · intro hover
    apply hcancelled
    rw [finished, dismissed_concat, hanswers] at hover
    by_cases hdismisses : r.dismisses i = true
    · exact .inr hdismisses
    · exact .inl (h.cancelled (by simpa [finished, hdismisses] using hover))
  · intro hdismissed hparked'
    rw [dismissed_concat, Bool.or_eq_false_iff] at hdismissed
    obtain ⟨hwas, hidle⟩ := hparked hdismissed.2 hparked'
    exact hidle (h.idle hdismissed.1 hwas)
  · apply h.quiet_next
    intro hgone
    refine ⟨hdelivered, ?_⟩
    by_contra hask
    rw [hasks (by simpa using hask)] at hgone
    cases hgone

/-- An answer that comes after the loop was dismissed. -/
theorem Told.late (h : Told threshold history i l) (hanswer : r.answer? i = some result)
    (hdismissed : dismissed history i = true)
    (hafter : l.answer r.before.threshold true result = (l', r.delivered)) :
    Told threshold (history ++ [r]) i l' := by
  have hgone : l.cancelled = true := h.cancelled (by simp [finished, hdismissed])
  have hanswers := answers_concat_of_dismissed hdismissed r
  have hlate : l.answer r.before.threshold true result = ({ l with request := none }, []) :=
    if_pos hgone
  obtain ⟨rfl, hnothing⟩ := Prod.mk.inj (hlate.symm.trans hafter)
  have hdelivered : r.deliveredBy i = [] := by simp [Record.deliveredBy, hanswer, ← hnothing]
  constructor
  · rw [hanswers]
    exact h.streak
  · rw [hanswers]
    exact h.failures
  · rw [deliveredBy_concat, hdelivered, List.append_nil, hanswers]
    exact h.delivered
  · exact fun _ => hgone
  · exact fun _ _ => rfl
  · exact h.quiet_next fun _ => ⟨hdelivered, asks_of_answer? hanswer⟩

/-- A loop that waits for an answer and was not dismissed is not over. -/
theorem Told.waiting (h : Told threshold history i l) (hsent : l.request = some .sent)
    (hdismissed : dismissed history i = false) :
    l.cancelled = false ∧ finished history i = false := by
  have hbusy : ¬ l.Parked := by
    intro hparked
    rw [h.idle hdismissed hparked] at hsent
    cases hsent
  have hgo : l.cancelled = false := by
    by_contra hgone
    exact hbusy (.inl (by simpa using hgone))
  refine ⟨hgo, ?_⟩
  by_contra hover
  rw [h.cancelled (by simpa using hover)] at hgo
  cases hgo

theorem answers_of_answer? (hanswer : r.answer? i = some result)
    (hdismissed : dismissed history i = false) :
    answers (history ++ [r]) i = answers history i ++ [result] := by
  rw [answers_concat hdismissed, hanswer]
  rfl

/-- A loop is over by an answer just if that is a terminal status. -/
theorem finished_of_answer? (hanswer : r.answer? i = some result)
    (hopen : finished history i = false) : finished (history ++ [r]) i = concludes result := by
  obtain ⟨hdismissed, hconcluded⟩ := Bool.or_eq_false_iff.mp hopen
  simp [finished, dismissed_concat, hdismissed, dismisses_of_answer? hanswer,
    answers_of_answer? hanswer hdismissed, hconcluded]

theorem Told.status {s : Snapshot} (h : Told threshold history i l)
    (hanswer : r.answer? i = some (.ok s)) (hsent : l.request = some .sent)
    (hdismissed : dismissed history i = false)
    (hafter : l.answer r.before.threshold true (.ok s) = (l', r.delivered)) :
    Told threshold (history ++ [r]) i l' := by
  obtain ⟨hgo, hopen⟩ := h.waiting hsent hdismissed
  have hanswers := answers_of_answer? hanswer hdismissed
  have hdelivered : r.deliveredBy i = r.delivered := by simp [Record.deliveredBy, hanswer]
  have hrun : l.answer r.before.threshold true (.ok s) =
      ({ l with request := none, streak := 0, cancelled := s.isTerminal },
        [.snapshot .poll (s.withDefaultId l.taskId)]) := by
    simp [Loop.answer, hgo]
  obtain ⟨rfl, hsnapshot⟩ := Prod.mk.inj (hrun.symm.trans hafter)
  constructor
  · rw [hanswers, streakOf_concat_ok]
  · rw [hanswers, List.countP_append, ← h.failures]
    rfl
  · rw [deliveredBy_concat, hdelivered, ← hsnapshot, hanswers, deliveries_concat_ok, h.delivered]
  · intro hends
    rw [finished_of_answer? hanswer hopen] at hends
    exact hends
  · exact fun _ _ => rfl
  · exact h.quiet_next fun hgone => absurd hgone (by simp [hgo])

theorem Told.failure {e : TransportFailure} (h : Told threshold history i l)
    (hthreshold : r.before.threshold = threshold) (hanswer : r.answer? i = some (.error e))
    (hsent : l.request = some .sent) (hdismissed : dismissed history i = false)
    (hafter : l.answer r.before.threshold true (.error e) = (l', r.delivered)) :
    Told threshold (history ++ [r]) i l' := by
  obtain ⟨hgo, hopen⟩ := h.waiting hsent hdismissed
  have hanswers := answers_of_answer? hanswer hdismissed
  have hdelivered : r.deliveredBy i = r.delivered := by simp [Record.deliveredBy, hanswer]
  have hrun : l.answer r.before.threshold true (.error e) =
      ({ l with
          request := none, streak := l.streak + 1
          stats := { l.stats with failures := l.stats.failures + 1 } },
        if l.streak + 1 = r.before.threshold then [.stalled l.taskId (l.streak + 1)] else []) := by
    simp [Loop.answer, hgo]
  obtain ⟨rfl, hreport⟩ := Prod.mk.inj (hrun.symm.trans hafter)
  constructor
  · rw [hanswers, streakOf_concat_error, ← h.streak]
  · rw [hanswers, List.countP_append, ← h.failures]
    rfl
  · -- The report names the threshold, which the streak has just reached.
    rw [deliveredBy_concat, hdelivered, ← hreport, hanswers, deliveries_concat_error, h.delivered,
      ← h.streak, hthreshold]
    split
    · next hreached => rw [hreached]
    · rfl
  · intro hends
    rw [finished_of_answer? hanswer hopen] at hends
    cases hends
  · exact fun _ _ => rfl
  · exact h.quiet_next fun hgone => absurd hgone (by simp [hgo])

/-- **The invariant is kept by every event.** -/
theorem Told.step (h : Told threshold history i l) (hthreshold : r.before.threshold = threshold)
    (hmove : Move r i l l') : Told threshold (history ++ [r]) i l' := by
  cases hmove with
  | other hanswer hsame hcancelled hparked hasks =>
    exact h.unanswered hanswer hsame hcancelled hparked hasks
  | answered result hanswer hsent hafter =>
    cases hdismissed : dismissed history i with
    | true => exact h.late hanswer hdismissed hafter
    | false =>
      cases result with
      | ok s => exact h.status hanswer hsent hdismissed hafter
      | error e => exact h.failure hthreshold hanswer hsent hdismissed hafter

end Told

/-! ### Loops that are not started yet -/

/-- **Invariant.** Nothing was asked or answered for loop `i`, and it will be cancelled from
    the beginning if it was dismissed. -/
structure Unborn (c : Channel) (history : List Record) (i : Nat) : Prop where
  silent : ∀ r ∈ history, r.answer? i = none ∧ r.asks i = false
  retired : dismissed history i = true → c.retired = true

theorem quiet_of_silent {history : List Record} {i : Nat}
    (h : ∀ r ∈ history, r.answer? i = none ∧ r.asks i = false) : Quiet history i := by
  constructor
  · unfold deliveredBy
    rw [List.flatMap_eq_nil_iff]
    intro r hr
    exact deliveredBy_of_none (h r hr).1
  · intro r hr
    exact (h r hr).2

theorem answers_of_silent {history : List Record} {i : Nat}
    (h : ∀ r ∈ history, r.answer? i = none ∧ r.asks i = false) : answers history i = [] := by
  unfold answers
  rw [List.filterMap_eq_nil_iff]
  intro r hr
  exact (h r (List.takeWhile_subset _ hr)).1

/-- A new loop has nothing to account for. -/
theorem Unborn.told {c : Channel} {history : List Record} {i : Nat} (h : Unborn c history i)
    (threshold : Nat) (taskId : String) :
    Told threshold history i { taskId, cancelled := c.retired } := by
  have hanswers := answers_of_silent h.silent
  constructor
  · rw [hanswers]
    rfl
  · rw [hanswers]
    rfl
  · rw [hanswers, (quiet_of_silent h.silent).1]
    rfl
  · intro hover
    rw [finished, hanswers] at hover
    exact h.retired (by simpa using hover)
  · exact fun _ _ => rfl
  · rintro earlier later rfl -
    exact quiet_of_silent fun r hr => h.silent r (List.mem_append_right _ hr)

/-- What an event does to the channel: its owner takes control, or at most one loop changes. -/
inductive Change (e : Event) (c c' : Channel) : Prop
  | started (taskId : String) (hevent : e = .start taskId) (hafter : c' = (c.start taskId).1)
  | stopped (hevent : e = .stop) (hafter : c' = c.stop)
  | retired (hevent : e = .retire) (hafter : c' = c.retire)
  | updated (j : Nat) (f : Loop → Loop) (hevent : e ≠ .retire) (hafter : c' = c.update j f)
  | kept (hevent : e ≠ .retire) (hafter : c' = c)

theorem change_of_record? {s : Course} {e : Event} {r : Record} (h : s.record? e = some r) :
    Change e s.channel r.after := by
  cases e with
  | start taskId => exact .started taskId rfl (Option.some.inj h ▸ rfl)
  | stop => exact .stopped rfl (Option.some.inj h ▸ rfl)
  | retire => exact .retired rfl (Option.some.inj h ▸ rfl)
  | deserted | elapsed => exact .kept nofun (Option.some.inj h ▸ rfl)
  | loop j =>
    obtain ⟨-, hr⟩ := Option.ite_none_right_eq_some.mp h
    obtain rfl := Option.some.inj hr
    exact .updated j _ nofun rfl
  | request j =>
    obtain ⟨hready, hr⟩ := Option.ite_none_right_eq_some.mp h
    obtain ⟨l, hl, -⟩ := (Option.any_eq_true _ _).mp hready
    obtain rfl := Option.some.inj hr
    exact .updated j _ nofun (congrArg Prod.fst (Channel.runRequest_eq hl))
  | answered j result =>
    obtain ⟨hsent, hr⟩ := Option.ite_none_right_eq_some.mp h
    obtain ⟨l, hl, hsent⟩ := (Option.any_eq_true _ _).mp hsent
    obtain rfl := Option.some.inj hr
    exact .updated j _ nofun (congrArg Prod.fst (Channel.answer_eq hl (by simpa using hsent) _ _))

theorem Change.threshold_eq {e : Event} {c c' : Channel} (h : Change e c c') :
    c'.threshold = c.threshold := by
  cases h with
  | started taskId _ hafter => rw [hafter, Channel.start_threshold]
  | stopped _ hafter => rw [hafter, (Channel.Unfailing.stop c).threshold]
  | retired _ hafter | updated _ _ _ hafter | kept _ hafter =>
    subst hafter
    rfl

/-- The owner does not come back. -/
theorem Change.retired_of {e : Event} {c c' : Channel} (h : Change e c c')
    (hretired : c.retired = true ∨ e = .retire) : c'.retired = true := by
  cases h with
  | started taskId hevent hafter =>
    rw [hafter, Channel.start_retired]
    exact hretired.resolve_right (by simp [hevent])
  | stopped hevent hafter =>
    rw [hafter, Channel.stop_retired]
    exact hretired.resolve_right (by simp [hevent])
  | retired hevent hafter =>
    rw [hafter]
    rfl
  | updated j f hevent hafter =>
    rw [hafter]
    exact hretired.resolve_right hevent
  | kept hevent hafter =>
    rw [hafter]
    exact hretired.resolve_right hevent

/-- A loop that is not started before an event is so after it, or is the new one of a start. -/
theorem Change.absent {e : Event} {c c' : Channel} {i : Nat} (h : Change e c c')
    (hl : c.loops[i]? = none) :
    c'.loops[i]? = none ∨ ∃ taskId, c'.loops[i]? = some { taskId, cancelled := c'.retired } := by
  cases h with
  | started taskId _ hafter =>
    by_cases hcur : c.currentTask = some taskId
    · have hsame : c.start taskId = (c, false) := if_pos hcur
      rw [hafter, hsame]
      exact .inl hl
    · rw [hafter, Channel.start_loops hcur, Channel.start_retired, List.getElem?_append_right]
      · cases i - c.stop.loops.length with
        | zero => exact .inr ⟨taskId, rfl⟩
        | succ n => exact .inl rfl
      · rw [Channel.stop_length]
        exact List.getElem?_eq_none_iff.mp hl
  | stopped _ hafter =>
    rw [hafter, Channel.stop_loops, hl]
    exact .inl rfl
  | retired _ hafter =>
    rw [hafter, Channel.retire_loops, hl]
    exact .inl rfl
  | updated j f _ hafter =>
    rw [hafter, Channel.update_loops, hl]
    left
    split <;> rfl
  | kept _ hafter =>
    rw [hafter]
    exact .inl hl

/-- An event asks nothing and brings no answer for a loop that is not started. -/
theorem Unborn.step {s : Course} {e : Event} {r : Record} {i : Nat} (h : s.record? e = some r)
    (hl : s.channel.loops[i]? = none) (hunborn : Unborn s.channel s.history i) :
    Unborn r.after (s.history ++ [r]) i := by
  obtain ⟨hevent, hbefore, -⟩ := before_of_record? h
  have hnone : r.loopBefore i = none := by rw [Record.loopBefore, hbefore, hl]
  constructor
  · intro r' hr'
    rcases List.mem_append.mp hr' with hold | hnew
    · exact hunborn.silent r' hold
    · obtain rfl := List.mem_singleton.mp hnew
      unfold Record.answer? Record.asks
      rw [hevent]
      -- Both need a loop that is there.
      cases e with
      | answered j result =>
        obtain ⟨hsent, -⟩ := Option.ite_none_right_eq_some.mp h
        have hij : j ≠ i := by
          intro hij
          simp [hij, hl] at hsent
        exact ⟨if_neg hij, rfl⟩
      | request j =>
        obtain ⟨hready, -⟩ := Option.ite_none_right_eq_some.mp h
        have hij : j ≠ i := by
          intro hij
          simp [hij, hl] at hready
        exact ⟨rfl, by simp [hij]⟩
      | _ => exact ⟨rfl, rfl⟩
  · intro hdismissed
    apply (change_of_record? h).retired_of
    rw [dismissed_concat, Bool.or_eq_true] at hdismissed
    rcases hdismissed with hold | hnew
    · exact .inl (hunborn.retired hold)
    · unfold Record.dismisses at hnew
      rw [hevent, hnone] at hnew
      cases e <;> simp_all

/-- **Invariant.** Every loop is accounted for, and every one that is not started. -/
structure Accounted (threshold : Nat) (s : Course) : Prop where
  limit : s.channel.threshold = threshold
  present : ∀ i l, s.channel.loops[i]? = some l → Told threshold s.history i l
  absent : ∀ i, s.channel.loops[i]? = none → Unborn s.channel s.history i

theorem Accounted.step {threshold : Nat} {s s' : Course} {e : Event} (h : Accounted threshold s)
    (hstray : s.channel.NoStray) (hreceiving : s.receiving = true) (hs : s.step e = some s') :
    Accounted threshold s' := by
  obtain ⟨r, hr, hchannel, -, hhistory⟩ := step_spec hs
  obtain ⟨-, hbefore, -⟩ := before_of_record? hr
  have hchange := change_of_record? hr
  constructor
  · rw [hchannel, hchange.threshold_eq, h.limit]
  · intro i l' hl'
    rw [hchannel] at hl'
    rw [hhistory]
    cases hl : s.channel.loops[i]? with
    | some l =>
      obtain ⟨l₁, hl₁, hmove⟩ := move_of_record? hr hstray hreceiving hl
      obtain rfl := Option.some.inj (hl₁.symm.trans hl')
      exact (h.present i l hl).step (by rw [hbefore, h.limit]) hmove
    | none =>
      obtain hnone | ⟨taskId, hnew⟩ := hchange.absent hl
      · cases hnone.symm.trans hl'
      obtain rfl := Option.some.inj (hnew.symm.trans hl')
      exact ((h.absent i hl).step hr hl).told threshold taskId
  · intro i hl'
    rw [hchannel] at hl' ⊢
    rw [hhistory]
    cases hl : s.channel.loops[i]? with
    | none => exact (h.absent i hl).step hr hl
    | some l =>
      obtain ⟨l₁, hl₁, -⟩ := move_of_record? hr hstray hreceiving hl
      cases hl'.symm.trans hl₁

theorem accounted_of_reaches {allowed : Course → Event → Prop} {interval threshold : Nat}
    {s : Course} (h : Reaches allowed (opened interval threshold) s)
    (hreceiving : s.receiving = true) : Accounted threshold s := by
  induction h with
  | refl =>
    refine ⟨rfl, ?_, ?_⟩
    · intro i l hl
      simp [opened] at hl
    · intro i _
      exact ⟨by simp [opened], by simp [opened, dismissed]⟩
  | step e hreach _ hs ih =>
    have hwas := receiving_of_reaches (.step e .refl trivial hs : Reaches anytime _ _) hreceiving
    exact (ih hwas).step (noStray_of_reaches opened_noStray hreach) hwas hs

/-! ### How long a streak takes -/

/-- **Invariant.** The loop has ticked `n` times, an interval apart, and its next tick is
    due an interval later at the earliest. -/
structure Paced (interval now n : Nat) (o : Option Loop) : Prop where
  elapsed : n * interval ≤ now
  next : ∀ due, o.bind Loop.due = some due → (n + 1) * interval ≤ due
  first : o.bind Loop.due = none → n = 0

theorem Paced.congr {interval now n : Nat} {o o' : Option Loop} (h : Paced interval now n o)
    (hdue : o'.bind Loop.due = o.bind Loop.due) : Paced interval now n o' :=
  ⟨h.elapsed, fun due hnext => h.next due (hdue ▸ hnext), fun hnone => h.first (hdue ▸ hnone)⟩

/-- A tick that was due sets the next one. -/
theorem Paced.tick {interval now n due : Nat} {o o' : Option Loop} (h : Paced interval now n o)
    (hdue : o.bind Loop.due = some due) (hle : due ≤ now)
    (hnext : o'.bind Loop.due = some (Loop.nextTick interval due now)) :
    Paced interval now (n + 1) o' := by
  have hbound := h.next due hdue
  refine ⟨hbound.trans hle, fun due' hdue' => ?_, fun hnone => ?_⟩
  · obtain rfl := Option.some.inj (hnext.symm.trans hdue')
    calc (n + 1 + 1) * interval = (n + 1) * interval + 1 * interval := Nat.add_mul ..
      _ ≤ due + ((now - due) / interval + 1) * interval :=
        Nat.add_le_add hbound (Nat.mul_le_mul_right interval (Nat.le_add_left 1 _))
  · rw [hnext] at hnone
    cases hnone

theorem Shift.paced {r : Record} {i n : Nat} (h : Shift r i)
    (hpaced : Paced r.before.interval r.time n (r.loopBefore i)) :
    Paced r.before.interval r.time (n + (r.ticks i).toNat) (r.loopAfter i) := by
  have hmarked : r.ticks i = ((r.marks i).issues || (r.marks i).misses) := ticks_eq r i
  -- Only the first turn of a loop and its ticks change when the next tick is due.
  cases h with
  | absent hbefore hafter hmarks | keeps _ hbefore hafter hmarks
  | cancels _ hbefore hafter hmarks | returns _ hbefore _ hafter hmarks
  | asks _ hbefore _ _ hafter hmarks | forgoes _ hbefore _ _ hafter hmarks
  | abandons _ hbefore _ _ hafter hmarks | starts _ _ hbefore hafter hmarks =>
    rw [hmarked, hmarks]
    exact hpaced.congr (by simp [hbefore, hafter])
  | answers l l' hbefore hafter _ _ hdue _ _ _ _ hmarks =>
    rw [hmarked, hmarks]
    exact hpaced.congr (by rw [hbefore, hafter, Option.bind_some, Option.bind_some, hdue])
  | begins l hbefore _ hdue hafter hmarks =>
    obtain rfl : n = 0 := hpaced.first (by rw [hbefore, Option.bind_some, hdue])
    rw [hmarked, hmarks, hafter]
    refine ⟨by simp, ?_, nofun⟩
    rintro due ⟨rfl⟩
    simp
  | issues l due hbefore _ hdue hle _ hafter hmarks
  | misses l due hbefore _ hdue hle _ hafter hmarks =>
    rw [hmarked, hmarks]
    exact hpaced.tick (by rw [hbefore, Option.bind_some, hdue]) hle (by rw [hafter]; rfl)

/-- Time does not go back. -/
theorem Event.le_pass (e : Event) (now : Nat) : now ≤ e.pass now := by
  cases e with
  | elapsed duration => exact Nat.le_add_right now duration
  | _ => exact Nat.le_refl now

theorem paced_of_reaches {allowed : Course → Event → Prop} {interval threshold : Nat}
    (hpos : 0 < interval) {s : Course} (h : Reaches allowed (opened interval threshold) s)
    (i : Nat) :
    Paced interval s.now (s.history.countP (·.ticks i)) s.channel.loops[i]? := by
  induction h with
  | refl => exact ⟨by simp [opened], by simp [opened], by simp [opened]⟩
  | @step s₁ s₂ e hreach _ hs ih =>
    obtain ⟨r, hr, hchannel, hnow, hhistory⟩ := step_spec hs
    obtain ⟨_, hbefore, htime⟩ := before_of_record? hr
    have hinterval : r.before.interval = interval := by
      rw [hbefore, interval_of_reaches hreach]
      rfl
    have hpaced := (shift_of_record? (interval_pos hpos hreach) hr i).paced
      (n := s₁.history.countP (·.ticks i)) (by
        rw [hinterval, htime, Record.loopBefore, hbefore]
        exact ih)
    rw [hinterval, htime, Record.loopAfter, ← hchannel] at hpaced
    rw [hhistory, countP_concat, hnow]
    exact ⟨hpaced.elapsed.trans (e.le_pass _), hpaced.next, hpaced.first⟩

/-- An answer settles a request. -/
theorem settles_of_answer? {s : Course} {e : Event} {r : Record} (h : s.record? e = some r)
    {i : Nat} (hanswer : (r.answer? i).isSome = true) : r.settles i = true := by
  obtain ⟨hevent, hbefore, -⟩ := before_of_record? h
  unfold Record.answer? at hanswer
  rw [hevent] at hanswer
  cases e with
  | answered j result =>
    obtain rfl : j = i := by
      by_contra hne
      simp [hne] at hanswer
    obtain ⟨hsent, hr⟩ := Option.ite_none_right_eq_some.mp h
    obtain ⟨l, hl, hsent⟩ := (Option.any_eq_true _ _).mp hsent
    have hsent' : l.request = some .sent := by simpa using hsent
    have hidle := (l.answer_spec s.channel.threshold s.receiving result).1
    obtain rfl := Option.some.inj hr
    simp [Record.settles, Record.loopBefore, Record.loopAfter, hl, hsent',
      Channel.answer_eq hl hsent', Channel.update_self hl, hidle]
  | _ => cases hanswer

theorem answered_le_settled {allowed : Course → Event → Prop} {s₀ s : Course}
    (h₀ : s₀.history = []) (h : Reaches allowed s₀ s) (i : Nat) :
    s.history.countP (fun r => (r.answer? i).isSome) ≤ s.history.countP (·.settles i) := by
  induction h with
  | refl => simp [h₀]
  | step e _ _ hs ih =>
    obtain ⟨r, hr, -, -, hhistory⟩ := step_spec hs
    rw [hhistory, countP_concat, countP_concat]
    have hle : (r.answer? i).isSome.toNat ≤ (r.settles i).toNat := by
      cases hanswer : (r.answer? i).isSome with
      | false => exact Nat.zero_le _
      | true => rw [settles_of_answer? hr hanswer]
    omega

/-- A streak is no longer than the answers that a loop got. -/
theorem streakOf_answers_le (history : List Record) (i : Nat) :
    streakOf (answers history i) ≤ history.countP fun r => (r.answer? i).isSome := by
  calc streakOf (answers history i) ≤ (answers history i).length :=
        (List.rtakeWhile_suffix ..).length_le
    _ = (history.takeWhile fun r => !r.dismisses i).countP fun r => (r.answer? i).isSome :=
        List.length_filterMap_eq_countP ..
    _ ≤ history.countP fun r => (r.answer? i).isSome :=
        (List.takeWhile_sublist _).countP_le

/-- **A streak takes an interval for every failure.** Each needs an answer to a request of
    its own, and a loop issues at most one request in an interval. -/
theorem streak_mul_interval_le {interval threshold : Nat} {s : Course}
    (h : Reaches anytime (opened interval threshold) s) (hreceiving : s.receiving = true)
    {i : Nat} {l : Loop} (hl : s.channel.loops[i]? = some l) :
    l.streak * interval ≤ s.now := by
  rcases Nat.eq_zero_or_pos interval with rfl | hpos
  · exact Nat.zero_le _
  have hstreak := ((accounted_of_reaches h hreceiving).present i l hl).streak
  have htallied := tallied_of_reaches hpos h i
  have hticks : l.streak ≤ s.history.countP (·.ticks i) := by
    have hanswered := (streakOf_answers_le s.history i).trans (answered_le_settled rfl h i)
    have hsettled := htallied.settled
    have hcounted := htallied.counted
    have hissued := htallied.issued
    rw [hstreak, countP_ticks]
    omega
  exact (Nat.mul_le_mul_right interval hticks).trans (paced_of_reaches hpos h i).elapsed

/-! ### What a loop delivers -/

/-- Loop `i` delivers what its answers call for, counts its failures, and is quiet from a
    terminal answer or a dismissal on. -/
structure Traced (threshold : Nat) (history : List Record) (i : Nat) (l : Loop) : Prop where
  delivered : deliveredBy history i = deliveries l.taskId threshold (answers history i)
  failures : l.stats.failures = (answers history i).countP failed
  concluded : ∀ earlier later, history = earlier ++ later →
    (answers earlier i).any concludes = true → Quiet later i
  dismissed : ∀ earlier later, history = earlier ++ later → dismissed earlier i = true →
    Quiet later i

/-- **Main theorem.** In every course in which somebody takes deliveries, every loop
    delivers what its answers call for and nothing else. A streak outgrows no counter in
    time: `2 ^ 32` failures take as many intervals. -/
theorem traced_of_reaches {interval threshold : Nat} {s : Course}
    (h : Reaches anytime (opened interval threshold) s) (hreceiving : s.receiving = true)
    {i : Nat} {l : Loop} (hl : s.channel.loops[i]? = some l) :
    Traced threshold s.history i l ∧ l.streak * interval ≤ s.now := by
  have htold := (accounted_of_reaches h hreceiving).present i l hl
  refine ⟨⟨htold.delivered, htold.failures, ?_, ?_⟩, streak_mul_interval_le h hreceiving hl⟩
  · intro earlier later hsplit hconcluded
    exact htold.quiet earlier later hsplit (by simp [finished, hconcluded])
  · intro earlier later hsplit hdismissed
    exact htold.quiet earlier later hsplit (by simp [finished, hdismissed])

/-- Two failures, a status, and polling is stopped while the next request is under way. -/
def troubled : List Event :=
  [.start "t", .loop 0, .elapsed 2, .loop 0, .request 0, .answered 0 (.error .timeout),
    .elapsed 2, .loop 0, .request 0, .answered 0 (.error .timeout), .elapsed 2, .loop 0, .request 0,
    .answered 0 (.ok { status := .running }), .elapsed 2, .loop 0, .request 0, .stop,
    .answered 0 (.ok { status := .completed })]

/-- The loop has reported its failures once and delivered one of two statuses. -/
theorem traced_troubled : ∃ s l, Reaches anytime (opened 2 2) s ∧ s.receiving = true ∧
    s.channel.loops[0]? = some l ∧ Traced 2 s.history 0 l ∧ l.stats.failures = 2 ∧
    deliveredBy s.history 0 =
      [.stalled "t" 2, .snapshot .poll { id := "t", status := .running }] := by
  have hplayed : ((play anytime troubled (opened 2 2)).map fun s =>
      (s.receiving, (s.channel.loops[0]?).map (·.stats.failures), deliveredBy s.history 0)) =
        some (true, some 2,
          [.stalled "t" 2, .snapshot .poll { id := "t", status := .running }]) := rfl
  obtain ⟨s, hs, heq⟩ := Option.map_eq_some_iff.mp hplayed
  simp only [Prod.mk.injEq, Option.map_eq_some_iff] at heq
  obtain ⟨hreceiving, ⟨l, hl, hfailures⟩, hdelivered⟩ := heq
  have hreach := reaches_of_play hs
  obtain ⟨htraced, _⟩ := traced_of_reaches hreach hreceiving hl
  exact ⟨s, l, hreach, hreceiving, hl, htraced, hfailures, hdelivered⟩

end Course

end TaskTracking.Polling
