import TaskTracking.Proofs.Rounds

/-! # Shifts of a poll loop

  An event happens to a poll channel, and to each of its loops in its own way:
  `shift_of_record?` says once what an event can do to a loop, and which marks it
  leaves there. Every law of a course follows from that, by induction on the
  course.
-/

namespace TaskTracking.Polling

/-! ### Loops under control -/

namespace Channel

theorem stop_loops (c : Channel) (i : Nat) :
    c.stop.loops[i]? =
      (c.loops[i]?).map fun l => if c.active = some i then { l with cancelled := true } else l := by
  unfold stop
  split
  · next k hk =>
    show (c.update k fun l => { l with cancelled := true }).loops[i]? = _
    rw [update_loops, hk]
    by_cases hki : k = i
    · simp [hki]
    · simp [hki]
  · next hnone => simp [hnone]

theorem stop_length (c : Channel) : c.stop.loops.length = c.loops.length := by
  unfold stop
  split
  · exact List.length_modify _ _ _
  · rfl

theorem retire_loops (c : Channel) (i : Nat) :
    c.retire.loops[i]? = (c.loops[i]?).map fun l => { l with cancelled := true } :=
  List.getElem?_map

/-- A start leaves the loops alone, or stops the current one and adds a new one. -/
theorem start_eq (c : Channel) (taskId : String) :
    (c.start taskId).1 = c ∨ ∃ cancelled,
      (c.start taskId).1.loops = c.stop.loops ++ [({ taskId, cancelled } : Loop)] := by
  unfold start
  split
  · exact .inl rfl
  · exact .inr ⟨c.stop.retired, rfl⟩

theorem runRequest_eq {c : Channel} {i : Nat} {l : Loop} (hl : c.loops[i]? = some l) :
    c.runRequest i = (c.update i fun _ => l.runRequest.1,
      if l.runRequest.2 then some l.taskId else none) := by
  rw [runRequest, hl]

theorem answer_eq {c : Channel} {i : Nat} {l : Loop} (hl : c.loops[i]? = some l)
    (hsent : l.request = some .sent) (receiving : Bool)
    (result : Except TransportFailure Snapshot) :
    c.answer i receiving result = (c.update i fun _ => (l.answer c.threshold receiving result).1,
      (l.answer c.threshold receiving result).2) := by
  rw [answer, hl]
  exact if_pos hsent

theorem update_self {c : Channel} {i : Nat} {l : Loop} (hl : c.loops[i]? = some l)
    (f : Loop → Loop) : (c.update i f).loops[i]? = some (f l) := by
  rw [update_loops, if_pos rfl, hl, Option.map_some]

theorem update_ne {c : Channel} {i j : Nat} (h : i ≠ j) (f : Loop → Loop) :
    (c.update i f).loops[j]? = c.loops[j]? := by
  rw [update_loops, if_neg h]

/-- Two loops that are not cancelled are one. -/
theorem NoStray.eq_of_not_cancelled {c : Channel}
    (h : c.NoStray) {i j : Nat} {l l' : Loop} (hl : c.loops[i]? = some l)
    (hl' : c.loops[j]? = some l') (hgo : l.cancelled = false) (hgo' : l'.cancelled = false) :
    i = j := by
  have hi : c.active = some i := by
    by_contra hne
    exact Bool.false_ne_true (hgo.symm.trans (h i l hl hne))
  have hj : c.active = some j := by
    by_contra hne
    exact Bool.false_ne_true (hgo'.symm.trans (h j l' hl' hne))
  exact Option.some.inj (hi.symm.trans hj)

theorem stop_interval (c : Channel) : c.stop.interval = c.interval := by
  unfold stop
  split <;> rfl

theorem start_interval (c : Channel) (taskId : String) :
    (c.start taskId).1.interval = c.interval := by
  unfold start
  split
  · rfl
  · exact c.stop_interval

end Channel

/-- What an answer leaves of the loop that sent the request. -/
theorem Loop.answer_spec (l : Loop) (threshold : Nat) (receiving : Bool)
    (result : Except TransportFailure Snapshot) :
    let l' := (l.answer threshold receiving result).1
    l'.request = none ∧ l'.due = l.due ∧ l'.ended = l.ended ∧
      l'.stats.requests = l.stats.requests ∧ l'.stats.skipped = l.stats.skipped ∧
      (l.cancelled = true → l'.cancelled = true) := by
  unfold Loop.answer
  dsimp only
  split
  · next hcancelled => simp [hcancelled]
  · next hgo => split <;> simp [hgo]

/-- An answer delivers one thing at most. -/
theorem Loop.answer_delivers {l : Loop} {threshold : Nat} {receiving : Bool}
    {result : Except TransportFailure Snapshot}
    (h : (l.answer threshold receiving result).2 ≠ []) :
    ∃ d, (l.answer threshold receiving result).2 = [d] := by
  unfold Loop.answer at h ⊢
  dsimp only at h ⊢
  split
  · next hcancelled => exact absurd (by simp [hcancelled]) h
  · split
    · exact ⟨_, rfl⟩
    · next hgo _ _ =>
      split
      · exact ⟨_, rfl⟩
      · next hne => exact absurd (by simp [hgo, hne]) h

namespace Course

/-! ### What an event can do -/

/-- The marks that an event leaves on a loop. -/
structure Marks where
  starts : Bool := false
  cancels : Bool := false
  issues : Bool := false
  misses : Bool := false
  asks : Bool := false
  forgoes : Bool := false
  settles : Bool := false

def Record.marks (r : Record) (i : Nat) : Marks where
  starts := r.starts i
  cancels := r.cancels i
  issues := r.issues i
  misses := r.misses i
  asks := r.asks i
  forgoes := r.forgoes i
  settles := r.settles i

/-- What an event did to loop `i`, and which marks it left. -/
inductive Shift (r : Record) (i : Nat) : Prop
  | absent (hbefore : r.loopBefore i = none) (hafter : r.loopAfter i = none)
      (hmarks : r.marks i = {})
  | starts (taskId : String) (cancelled : Bool) (hbefore : r.loopBefore i = none)
      (hafter : r.loopAfter i = some { taskId, cancelled })
      (hmarks : r.marks i = { starts := true, cancels := cancelled })
  | keeps (l : Loop) (hbefore : r.loopBefore i = some l) (hafter : r.loopAfter i = some l)
      (hmarks : r.marks i = {})
  | cancels (l : Loop) (hbefore : r.loopBefore i = some l)
      (hafter : r.loopAfter i = some { l with cancelled := true })
      (hmarks : r.marks i = { cancels := !l.cancelled })
  /-- The loop sets its first tick. -/
  | begins (l : Loop) (hbefore : r.loopBefore i = some l) (hgo : l.cancelled = false)
      (hdue : l.due = none)
      (hafter : r.loopAfter i = some { l with due := some (r.time + r.before.interval) })
      (hmarks : r.marks i = {})
  /-- The loop returns because it was cancelled. -/
  | returns (l : Loop) (hbefore : r.loopBefore i = some l) (hcancelled : l.cancelled = true)
      (hafter : r.loopAfter i = some { l with ended := true }) (hmarks : r.marks i = {})
  | issues (l : Loop) (due : Nat) (hbefore : r.loopBefore i = some l) (hgo : l.cancelled = false)
      (hdue : l.due = some due) (hle : due ≤ r.time) (hidle : l.request = none)
      (hafter : r.loopAfter i = some { l with
        due := some (Loop.nextTick r.before.interval due r.time), request := some .queued })
      (hmarks : r.marks i = { issues := true })
  | misses (l : Loop) (due : Nat) (hbefore : r.loopBefore i = some l) (hgo : l.cancelled = false)
      (hdue : l.due = some due) (hle : due ≤ r.time) (hbusy : l.request ≠ none)
      (hafter : r.loopAfter i = some { l with
        due := some (Loop.nextTick r.before.interval due r.time)
        stats := { l.stats with skipped := l.stats.skipped + 1 } })
      (hmarks : r.marks i = { misses := true })
  | asks (l : Loop) (hbefore : r.loopBefore i = some l) (hgo : l.cancelled = false)
      (hqueued : l.request = some .queued)
      (hafter : r.loopAfter i = some { l with
        request := some .sent, stats := { l.stats with requests := l.stats.requests + 1 } })
      (hmarks : r.marks i = { asks := true })
  | forgoes (l : Loop) (hbefore : r.loopBefore i = some l) (hcancelled : l.cancelled = true)
      (hqueued : l.request = some .queued)
      (hafter : r.loopAfter i = some { l with
        request := none, stats := { l.stats with requests := l.stats.requests + 1 } })
      (hmarks : r.marks i = { forgoes := true })
  /-- The sent request is abandoned because its loop was cancelled. -/
  | abandons (l : Loop) (hbefore : r.loopBefore i = some l) (hcancelled : l.cancelled = true)
      (hsent : l.request = some .sent) (hafter : r.loopAfter i = some { l with request := none })
      (hmarks : r.marks i = { settles := true })
  | answers (l l' : Loop) (hbefore : r.loopBefore i = some l) (hafter : r.loopAfter i = some l')
      (hsent : l.request = some .sent) (hidle : l'.request = none) (hdue : l'.due = l.due)
      (hended : l'.ended = l.ended) (hrequests : l'.stats.requests = l.stats.requests)
      (hskipped : l'.stats.skipped = l.stats.skipped)
      (hcancelled : l.cancelled = true → l'.cancelled = true)
      (hmarks : r.marks i = { settles := true, cancels := !l.cancelled && l'.cancelled })

/-- Whether the loop or its request has its turn. -/
def Event.isTurn (i : Nat) : Event → Bool
  | .loop j | .request j => j = i
  | _ => false

/-- Only a turn of a loop or of its request leaves a mark of one. -/
theorem marks_of_other {r : Record} {i : Nat} (h : r.event.isTurn i = false) :
    r.marks i = { starts := r.starts i, cancels := r.cancels i, settles := r.settles i } := by
  have hticks : r.ticks i = false := by
    unfold Record.ticks
    split
    · next j hj => simp_all [Event.isTurn]
    · rfl
  have hasks : r.asks i = false := by
    unfold Record.asks
    split
    · next j hj => simp_all [Event.isTurn]
    · rfl
  have hforgoes : r.forgoes i = false := by
    unfold Record.forgoes
    split
    · next j hj => simp_all [Event.isTurn]
    · rfl
  simp [Record.marks, Record.issues, Record.misses, hticks, hasks, hforgoes]

theorem marks_of_loop {r : Record} {i : Nat} {l l' : Loop} (h : r.event = .loop i)
    (hbefore : r.loopBefore i = some l) (hafter : r.loopAfter i = some l') :
    r.marks i = {
      cancels := !l.cancelled && l'.cancelled
      issues := (!l.cancelled && l.due.any (· ≤ r.time)) && l.request.isNone
      misses := (!l.cancelled && l.due.any (· ≤ r.time)) && l.request.isSome
      settles := l.request = some .sent && l'.request ≠ some .sent } := by
  simp [Record.marks, Record.starts, Record.cancels, Record.ticks, Record.issues, Record.misses,
    Record.asks, Record.forgoes, Record.settles, h, hbefore, hafter]

theorem marks_of_request {r : Record} {i : Nat} {l l' : Loop} (h : r.event = .request i)
    (hbefore : r.loopBefore i = some l) (hafter : r.loopAfter i = some l') :
    r.marks i = {
      cancels := !l.cancelled && l'.cancelled
      asks := r.asked.isSome
      forgoes := l.request = some .queued && l.cancelled
      settles := l.request = some .sent && l'.request ≠ some .sent } := by
  simp [Record.marks, Record.starts, Record.cancels, Record.ticks, Record.issues, Record.misses,
    Record.asks, Record.forgoes, Record.settles, h, hbefore, hafter]

theorem shift_of_same {r : Record} {i : Nat} (h : r.event.isTurn i = false)
    (hafter : r.loopAfter i = r.loopBefore i) : Shift r i := by
  cases hbefore : r.loopBefore i with
  | none =>
    rw [hbefore] at hafter
    refine .absent hbefore hafter ?_
    rw [marks_of_other h]
    simp [Record.starts, Record.cancels, Record.settles, hbefore, hafter]
  | some l =>
    rw [hbefore] at hafter
    refine .keeps l hbefore hafter ?_
    rw [marks_of_other h]
    cases hcancelled : l.cancelled <;>
      by_cases hsent : l.request = some .sent <;>
        simp [Record.starts, Record.cancels, Record.settles, hbefore, hafter, hcancelled, hsent]

theorem shift_of_cancelled {r : Record} {i : Nat} (h : r.event.isTurn i = false)
    (hafter : r.loopAfter i = (r.loopBefore i).map fun l => { l with cancelled := true }) :
    Shift r i := by
  cases hbefore : r.loopBefore i with
  | none =>
    rw [hbefore] at hafter
    exact shift_of_same h (hafter.trans hbefore.symm)
  | some l =>
    rw [hbefore] at hafter
    refine .cancels l hbefore hafter ?_
    rw [marks_of_other h]
    by_cases hsent : l.request = some .sent <;>
      simp [Record.starts, Record.cancels, Record.settles, hbefore, hafter, hsent]

theorem shift_stopped {r : Record} {i : Nat} (h : r.event.isTurn i = false)
    (hafter : r.loopAfter i = r.before.stop.loops[i]?) : Shift r i := by
  rw [Channel.stop_loops, ← Record.loopBefore] at hafter
  by_cases hactive : r.before.active = some i
  · exact shift_of_cancelled h (by simpa [hactive] using hafter)
  · exact shift_of_same h (by simpa [hactive] using hafter)

theorem shift_start (c : Channel) (taskId : String) (now i : Nat) :
    Shift {
      event := .start taskId, time := now, before := c
      after := (c.start taskId).1 } i := by
  obtain hsame | ⟨cancelled, hnew⟩ := c.start_eq taskId
  · rw [hsame]
    exact shift_of_same rfl rfl
  · by_cases hi : i = c.loops.length
    · -- The new loop.
      have hbefore : c.loops[i]? = none := List.getElem?_eq_none (by omega)
      have hafter : (c.start taskId).1.loops[i]? = some { taskId, cancelled } := by
        rw [hnew, hi, ← c.stop_length]
        exact List.getElem?_concat_length
      refine .starts taskId cancelled hbefore hafter ?_
      rw [marks_of_other rfl]
      simp [Record.starts, Record.cancels, Record.settles, Record.loopBefore, Record.loopAfter,
        hbefore, hafter]
    · refine shift_stopped rfl ?_
      show (c.start taskId).1.loops[i]? = c.stop.loops[i]?
      rw [hnew, List.getElem?_append]
      split
      · rfl
      · next hlt =>
        have hlength := c.stop_length
        rw [List.getElem?_eq_none (l := [_]) (by simp only [List.length_singleton]; omega),
          List.getElem?_eq_none (by omega)]

theorem shift_loop {r : Record} {i : Nat} {l : Loop} (hpos : 0 < r.before.interval)
    (hevent : r.event = .loop i) (hbefore : r.loopBefore i = some l)
    (hafter : r.loopAfter i = some (l.run r.before.interval r.time))
    (hready : l.ready r.time = true) : Shift r i := by
  have hmarks := marks_of_loop hevent hbefore hafter
  -- It returns, sets its first tick, or ticks; and a tick issues a request or is skipped.
  cases hcancelled : l.cancelled with
  | true =>
    have hrun : l.run r.before.interval r.time = { l with ended := true } := if_pos hcancelled
    rw [hrun] at hafter hmarks
    exact .returns l hbefore hcancelled hafter (hmarks.trans (by simp [hcancelled]))
  | false =>
    cases hdue : l.due with
    | none =>
      have hrun : l.run r.before.interval r.time =
          { l with due := some (r.time + r.before.interval) } := by
        simp [Loop.run, hcancelled, hdue, Nat.ne_of_gt hpos]
      rw [hrun] at hafter hmarks
      exact .begins l hbefore hcancelled hdue hafter
        (hmarks.trans (by simp [hcancelled, hdue]))
    | some due =>
      have hle : due ≤ r.time := by
        simp only [Loop.ready, hcancelled, hdue, Option.all_some, Bool.and_eq_true,
          Bool.false_or, decide_eq_true_eq] at hready
        exact hready.2
      have hnlt : ¬r.time < due := Nat.not_lt.mpr hle
      cases hrequest : l.request with
      | none =>
        have hrun : l.run r.before.interval r.time = { l with
            due := some (Loop.nextTick r.before.interval due r.time)
            request := some .queued } := by
          simp [Loop.run, hcancelled, hdue, hnlt, hrequest]
        rw [hrun] at hafter hmarks
        exact .issues l due hbefore hcancelled hdue hle hrequest hafter
          (hmarks.trans (by simp [hcancelled, hdue, hle, hrequest]))
      | some request =>
        have hrun : l.run r.before.interval r.time = { l with
            due := some (Loop.nextTick r.before.interval due r.time)
            stats := { l.stats with skipped := l.stats.skipped + 1 } } := by
          simp [Loop.run, hcancelled, hdue, hnlt, hrequest]
        rw [hrun] at hafter hmarks
        exact .misses l due hbefore hcancelled hdue hle (by simp [hrequest]) hafter
          (hmarks.trans (by simp [hcancelled, hdue, hle, hrequest]))

theorem shift_request {r : Record} {i : Nat} {l : Loop} (hevent : r.event = .request i)
    (hbefore : r.loopBefore i = some l) (hafter : r.loopAfter i = some l.runRequest.1)
    (hasked : r.asked.isSome = l.runRequest.2) (hready : l.requestReady = true) : Shift r i := by
  have hmarks := marks_of_request hevent hbefore hafter
  -- A cancelled loop forgoes the request before it is sent, and abandons it after.
  cases hrequest : l.request with
  | none => simp [Loop.requestReady, hrequest] at hready
  | some request =>
    cases request with
    | queued =>
      cases hcancelled : l.cancelled with
      | true =>
        have hrun : l.runRequest = ({ l with
            request := none, stats := { l.stats with requests := l.stats.requests + 1 } },
            false) := by
          simp [Loop.runRequest, hrequest, hcancelled]
        rw [hrun] at hafter hasked hmarks
        exact .forgoes l hbefore hcancelled hrequest hafter
          (hmarks.trans (by simp [hasked, hcancelled, hrequest]))
      | false =>
        have hrun : l.runRequest = ({ l with
            request := some .sent, stats := { l.stats with requests := l.stats.requests + 1 } },
            true) := by
          simp [Loop.runRequest, hrequest, hcancelled]
        rw [hrun] at hafter hasked hmarks
        exact .asks l hbefore hcancelled hrequest hafter
          (hmarks.trans (by simp [hasked, hcancelled, hrequest]))
    | sent =>
      have hcancelled : l.cancelled = true := by simpa [Loop.requestReady, hrequest] using hready
      have hrun : l.runRequest = ({ l with request := none }, false) := by
        simp [Loop.runRequest, hrequest, hcancelled]
      rw [hrun] at hafter hasked hmarks
      exact .abandons l hbefore hcancelled hrequest hafter
        (hmarks.trans (by simp [hasked, hcancelled, hrequest]))

theorem shift_answered {r : Record} {i : Nat} {l : Loop} {receiving : Bool}
    {result : Except TransportFailure Snapshot} (hevent : r.event = .answered i result)
    (hbefore : r.loopBefore i = some l) (hsent : l.request = some .sent)
    (hafter : r.loopAfter i = some (l.answer r.before.threshold receiving result).1) :
    Shift r i := by
  obtain ⟨hidle, hdue, hended, hrequests, hskipped, hcancelled⟩ :=
    l.answer_spec r.before.threshold receiving result
  have hmarks := marks_of_other (r := r) (i := i) (by rw [hevent]; rfl)
  exact .answers l _ hbefore hafter hsent hidle hdue hended hrequests hskipped hcancelled
    (hmarks.trans (by
      simp [Record.starts, Record.cancels, Record.settles, hbefore, hafter, hsent, hidle]))

/-- What an event can do to a loop. -/
theorem shift_of_record? {s : Course} (hpos : 0 < s.channel.interval) {e : Event} {r : Record}
    (h : s.record? e = some r) (i : Nat) : Shift r i := by
  -- An event of one loop is nothing to another one.
  cases e with
  | start taskId =>
    obtain rfl := Option.some.inj h
    exact shift_start _ _ _ _
  | stop =>
    obtain rfl := Option.some.inj h
    exact shift_stopped rfl rfl
  | retire =>
    obtain rfl := Option.some.inj h
    exact shift_of_cancelled rfl (Channel.retire_loops _ _)
  | deserted | elapsed =>
    obtain rfl := Option.some.inj h
    exact shift_of_same rfl rfl
  | loop j =>
    obtain ⟨hready, hr⟩ := Option.ite_none_right_eq_some.mp h
    obtain rfl := Option.some.inj hr
    obtain ⟨l, hl, hready⟩ := (Option.any_eq_true _ _).mp hready
    by_cases hij : j = i
    · subst hij
      exact shift_loop hpos rfl hl (Channel.update_self hl _) hready
    · exact shift_of_same (by simp [Event.isTurn, hij]) (Channel.update_ne hij _)
  | request j =>
    obtain ⟨hready, hr⟩ := Option.ite_none_right_eq_some.mp h
    obtain rfl := Option.some.inj hr
    obtain ⟨l, hl, hready⟩ := (Option.any_eq_true _ _).mp hready
    rw [Channel.runRequest_eq hl]
    by_cases hij : j = i
    · subst hij
      exact shift_request rfl hl (Channel.update_self hl _) (by split <;> simp_all) hready
    · exact shift_of_same (by simp [Event.isTurn, hij]) (Channel.update_ne hij _)
  | answered j result =>
    obtain ⟨hsent, hr⟩ := Option.ite_none_right_eq_some.mp h
    obtain rfl := Option.some.inj hr
    obtain ⟨l, hl, hsent⟩ := (Option.any_eq_true _ _).mp hsent
    have hsent : l.request = some .sent := by simpa using hsent
    rw [Channel.answer_eq hl hsent]
    by_cases hij : j = i
    · subst hij
      exact shift_answered rfl hl hsent (Channel.update_self hl _)
    · exact shift_of_same rfl (Channel.update_ne hij _)

/-- Every event happens to the channel as it is, and now. -/
theorem before_of_record? {s : Course} {e : Event} {r : Record} (h : s.record? e = some r) :
    r.event = e ∧ r.before = s.channel ∧ r.time = s.now := by
  cases e with
  | loop | request | answered =>
    obtain ⟨_, hr⟩ := Option.ite_none_right_eq_some.mp h
    exact Option.some.inj hr ▸ ⟨rfl, rfl, rfl⟩
  | _ => exact Option.some.inj h ▸ ⟨rfl, rfl, rfl⟩

/-- What a step does: it changes the channel, and notes how. -/
theorem step_spec {s s' : Course} {e : Event} (hs : s.step e = some s') :
    ∃ r, s.record? e = some r ∧ s'.channel = r.after ∧ s'.now = e.pass s.now ∧
      s'.history = s.history ++ [r] := by
  obtain ⟨r, hr, rfl⟩ := Option.map_eq_some_iff.mp hs
  exact ⟨r, hr, rfl, rfl, rfl⟩

/-! ### Only the current loop is not cancelled -/

theorem noStray_of_record? {s : Course} {e : Event} {r : Record} (h : s.record? e = some r)
    (hstray : s.channel.NoStray) : r.after.NoStray := by
  cases e with
  | start taskId => exact Option.some.inj h ▸ Channel.start_noStray hstray taskId
  | stop => exact Option.some.inj h ▸ Channel.stop_noStray hstray
  | retire => exact Option.some.inj h ▸ Channel.retire_noStray _
  | deserted | elapsed => exact Option.some.inj h ▸ hstray
  | loop i =>
    obtain ⟨_, hr⟩ := Option.ite_none_right_eq_some.mp h
    exact Option.some.inj hr ▸ hstray.update i fun l _ hl => by simpa using hl
  | request i =>
    obtain ⟨_, hr⟩ := Option.ite_none_right_eq_some.mp h
    exact Option.some.inj hr ▸ Channel.runRequest_noStray hstray i
  | answered i result =>
    obtain ⟨_, hr⟩ := Option.ite_none_right_eq_some.mp h
    exact Option.some.inj hr ▸ Channel.answer_noStray hstray i _ result

theorem interval_of_record? {s : Course} {e : Event} {r : Record} (h : s.record? e = some r) :
    r.after.interval = s.channel.interval := by
  cases e with
  | start taskId => exact Option.some.inj h ▸ s.channel.start_interval taskId
  | stop => exact Option.some.inj h ▸ s.channel.stop_interval
  | retire | deserted | elapsed => exact Option.some.inj h ▸ rfl
  | loop i =>
    obtain ⟨_, hr⟩ := Option.ite_none_right_eq_some.mp h
    exact Option.some.inj hr ▸ rfl
  | request i =>
    obtain ⟨hready, hr⟩ := Option.ite_none_right_eq_some.mp h
    obtain ⟨l, hl, _⟩ := (Option.any_eq_true _ _).mp hready
    obtain rfl := Option.some.inj hr
    rw [Channel.runRequest_eq hl]
    rfl
  | answered i result =>
    obtain ⟨hsent, hr⟩ := Option.ite_none_right_eq_some.mp h
    obtain ⟨l, hl, hsent⟩ := (Option.any_eq_true _ _).mp hsent
    obtain rfl := Option.some.inj hr
    rw [Channel.answer_eq hl (by simpa using hsent)]
    rfl

end Course

end TaskTracking.Polling
