import TaskTracking.Proofs.Exclusion
import TaskTracking.Proofs.Shifts

/-! # Streaks of failing polls

  A poll loop reports a streak of failures once, at the failure with which the streak
  reaches the threshold (`Polling.Loop.answer_streak`). Nothing else makes a streak
  longer. `Session.airs_of_step` says once what an event can do to the streaks, and to
  what waits for the worker in the inbox.
-/

namespace TaskTracking

/-! ### Streaks -/

namespace Polling

namespace Loop

theorem run_streak (interval now : Nat) (l : Loop) :
    (l.run interval now).taskId = l.taskId ∧ (l.run interval now).streak = l.streak := by
  unfold run
  split
  · exact ⟨rfl, rfl⟩
  · split
    · split <;> exact ⟨rfl, rfl⟩
    · dsimp only
      split
      · exact ⟨rfl, rfl⟩
      · split <;> exact ⟨rfl, rfl⟩

theorem runRequest_streak (l : Loop) :
    l.runRequest.1.taskId = l.taskId ∧ l.runRequest.1.streak = l.streak := by
  unfold runRequest
  split
  · dsimp only
    split <;> exact ⟨rfl, rfl⟩
  · dsimp only
    split <;> exact ⟨rfl, rfl⟩
  · exact ⟨rfl, rfl⟩

/-- An answer leaves the streak alone, ends it, or makes it one longer; and it is reported
    if it then reaches the threshold. -/
theorem answer_streak (l : Loop) (threshold : Nat) (receiving : Bool)
    (result : Except TransportFailure Snapshot) :
    (l.answer threshold receiving result).1.taskId = l.taskId ∧
      ((l.answer threshold receiving result).1.streak = l.streak ∨
        (l.answer threshold receiving result).1.streak = 0 ∨
        (l.answer threshold receiving result).1.streak = l.streak + 1 ∧
          (l.streak + 1 = threshold →
            .stalled l.taskId threshold ∈ (l.answer threshold receiving result).2)) := by
  unfold answer
  dsimp only
  split
  · exact ⟨rfl, .inl rfl⟩
  · split
    · exact ⟨rfl, .inr (.inl rfl)⟩
    · refine ⟨rfl, .inr (.inr ⟨rfl, ?_⟩)⟩
      rintro rfl
      rw [if_pos rfl]
      exact List.mem_singleton_self _

end Loop

namespace Channel

/-- No loop fails: each one with a streak had the same streak before. -/
structure Unfailing (c c' : Channel) : Prop where
  threshold : c'.threshold = c.threshold
  streaks : ∀ (i : Nat) (l' : Loop), c'.loops[i]? = some l' → 0 < l'.streak →
    ∃ l : Loop, c.loops[i]? = some l ∧ l.taskId = l'.taskId ∧ l.streak = l'.streak

namespace Unfailing

variable {c c' c'' : Channel}

theorem refl (c : Channel) : c.Unfailing c := ⟨rfl, fun _ l hl _ => ⟨l, hl, rfl, rfl⟩⟩

theorem trans (h : c.Unfailing c') (h' : c'.Unfailing c'') : c.Unfailing c'' := by
  refine ⟨h'.threshold.trans h.threshold, fun i l'' hl'' hpos => ?_⟩
  obtain ⟨l', hl', htask', hstreak'⟩ := h'.streaks i l'' hl'' hpos
  obtain ⟨l, hl, htask, hstreak⟩ := h.streaks i l' hl' (hstreak' ▸ hpos)
  exact ⟨l, hl, htask.trans htask', hstreak.trans hstreak'⟩

/-- One loop changes, but not in what it polls and how it has failed. -/
theorem update (c : Channel) (i : Nat) {f : Loop → Loop}
    (hf : ∀ l, c.loops[i]? = some l → (f l).taskId = l.taskId ∧ (f l).streak = l.streak) :
    c.Unfailing (c.update i f) := by
  refine ⟨rfl, fun j l' hl' _ => ?_⟩
  rw [update_loops] at hl'
  split at hl'
  · next hij =>
    subst hij
    obtain ⟨l, hl, rfl⟩ := Option.map_eq_some_iff.mp hl'
    exact ⟨l, hl, (hf l hl).1.symm, (hf l hl).2.symm⟩
  · exact ⟨l', hl', rfl, rfl⟩

theorem stop (c : Channel) : c.Unfailing c.stop := by
  unfold Channel.stop
  split
  · next i hi =>
    obtain ⟨hthreshold, hstreaks⟩ := update c i (f := fun l => { l with cancelled := true })
      fun _ _ => ⟨rfl, rfl⟩
    exact ⟨hthreshold, hstreaks⟩
  · exact .refl c

/-- A new loop has not failed yet. -/
theorem start (c : Channel) (taskId : String) : c.Unfailing (c.start taskId).1 := by
  unfold Channel.start
  split
  · exact .refl c
  · refine .trans (stop c) ⟨rfl, fun i l' hl' hpos => ?_⟩
    have hl'' : (c.stop.loops ++ [({ taskId, cancelled := c.stop.retired } : Loop)])[i]? =
        some l' := hl'
    rcases Nat.lt_or_ge i c.stop.loops.length with hlt | hge
    · rw [List.getElem?_append_left hlt] at hl''
      exact ⟨l', hl'', rfl, rfl⟩
    -- Past the loops there were, there is only the new one.
    · rw [List.getElem?_append_right hge] at hl''
      have hnew := List.mem_singleton.mp (List.mem_of_getElem? hl'')
      rw [hnew] at hpos
      exact absurd hpos (Nat.lt_irrefl 0)

theorem retire (c : Channel) : c.Unfailing c.retire := by
  refine ⟨rfl, fun i l' hl' _ => ?_⟩
  rw [retire_loops] at hl'
  obtain ⟨l, hl, rfl⟩ := Option.map_eq_some_iff.mp hl'
  exact ⟨l, hl, rfl, rfl⟩

theorem runLoop (c : Channel) (now i : Nat) : c.Unfailing (c.runLoop now i) :=
  update c i fun l _ => l.run_streak c.interval now

theorem runRequest (c : Channel) (i : Nat) : c.Unfailing (c.runRequest i).1 := by
  cases hl : c.loops[i]? with
  | some l =>
    rw [runRequest_eq hl]
    refine update c i fun l₀ hl₀ => ?_
    cases hl.symm.trans hl₀
    exact l.runRequest_streak
  | none =>
    unfold Channel.runRequest
    rw [hl]
    exact .refl c

end Unfailing

end Channel

end Polling

namespace Selector

theorem unfailing_connect (s : Selector) : s.poll.Unfailing s.connect.1.poll := by
  unfold connect
  split <;> exact .refl _

theorem unfailing_watch (s : Selector) : s.poll.Unfailing s.watch.1.poll := by
  unfold watch
  split <;> exact .refl _

theorem unfailing_subscribe (s : Selector) (taskId : String) :
    s.poll.Unfailing (s.subscribe taskId).1.poll := by
  unfold subscribe
  dsimp only
  split
  · exact .start s.poll taskId
  · split
    · exact .refl _
    · exact .start s.poll taskId

theorem unfailing_runWatcher (s : Selector) (k : Nat) :
    s.poll.Unfailing (s.runWatcher k).poll := by
  unfold runWatcher
  split
  · exact .refl _
  · split
    · unfold failOver
      split
      · exact .refl _
      · split
        · exact .start s.poll _
        · exact .refl _
    · exact .refl _

end Selector

/-! ### Turns without a failure -/

namespace Inbox

variable {i : Inbox} {d : Delivery} {ds : List Delivery}

theorem add_nil (i : Inbox) : i.add [] = i := by
  unfold add
  split
  · rw [List.append_nil]
  · rfl

theorem receiving_add (i : Inbox) (ds : List Delivery) : (i.add ds).receiving = i.receiving := by
  unfold add
  split <;> rfl

theorem mem_add (h : d ∈ i.queue) : d ∈ (i.add ds).queue := by
  unfold add
  split
  · exact List.mem_append_left _ h
  · exact h

theorem mem_add_new (hreceiving : i.receiving = true) (h : d ∈ ds) : d ∈ (i.add ds).queue := by
  rw [add, if_pos hreceiving]
  exact List.mem_append_right _ h

end Inbox

namespace Tracker

/-- A turn in which no loop fails, and that leaves the inbox alone. -/
structure Spares (t t' : Tracker) : Prop where
  poll : t.selector.poll.Unfailing t'.selector.poll
  inbox : t'.inbox = t.inbox
  ended : t.worker = .ended → t'.worker = .ended

variable {t t' t'' : Tracker} {calls : List ViewCall}

theorem Spares.refl (t : Tracker) : t.Spares t := ⟨.refl _, rfl, id⟩

theorem Spares.trans (h : t.Spares t') (h' : t'.Spares t'') : t.Spares t'' :=
  ⟨h.poll.trans h'.poll, h'.inbox.trans h.inbox, h'.ended ∘ h.ended⟩

theorem spares_startBackground (t : Tracker) : t.Spares t.startBackground := by
  unfold startBackground
  split
  · next habsent =>
    refine ⟨t.selector.unfailing_watch, rfl, fun hended => ?_⟩
    rw [habsent] at hended
    cases hended
  · exact .refl t

theorem spares_settle (t : Tracker) (s : Snapshot) : t.Spares (t.settle s).1 := by
  unfold settle
  split <;> exact ⟨.refl _, rfl, id⟩

theorem spares_beginTracking (t : Tracker) (taskId : String) :
    t.Spares (t.beginTracking taskId).1 :=
  ⟨t.selector.unfailing_subscribe taskId, rfl, id⟩

/-- A worker that listens and does not end has not been left alone. -/
theorem stays_of_runWorker (hrun : t.runWorker = some (t', calls))
    (hworker : t.worker = .listening) (hgoes : t'.worker ≠ .ended) : t.selector.left = false := by
  cases hleft : t.selector.left with
  | false => rfl
  | true =>
    simp only [runWorker, hworker, hleft, ↓reduceIte, Option.some.injEq, Prod.mk.injEq] at hrun
    rw [← hrun.1] at hgoes
    exact absurd rfl hgoes

theorem spares_of_applies {stage : Settling} {answer : Except StorageFailure Store.Answer}
    {settled : Settled} (happlies : t.Applies stage answer (t', calls, settled)) :
    t.Spares t' := by
  cases happlies with
  | finished => exact ⟨.stop _, rfl, id⟩
  | _ => exact ⟨.refl _, rfl, id⟩

theorem spares_of_callTurn {d : Call} {reply : Option Reply} {turn : Turn}
    (hprepared : ∀ stage goal, d = .settling stage goal → stage.Prepared)
    (hturn : t.CallTurn d reply (t', calls, turn)) : t.Spares t' := by
  cases hturn with
  | enter =>
    refine (spares_startBackground t).trans ⟨?_, rfl, id⟩
    exact t.startBackground.selector.unfailing_connect
  | start =>
    have henter : t.Spares (t.enter .creating) := ⟨.refl _, rfl, id⟩
    exact henter.trans (spares_startBackground _)
  | release => exact ⟨.stop _, rfl, id⟩
  | apply => exact spares_settle t _
  | @conclude taskId =>
    have hcurrent : t.Spares { t with current := some taskId } := ⟨.refl _, rfl, id⟩
    exact hcurrent.trans (spares_settle _ _)
  | track => exact (spares_beginTracking t _).trans (spares_settle _ _)
  | begin => exact spares_beginTracking t _
  | @settle stage goal _ _ _ _ hsettle =>
    exact spares_of_applies (applies_of_settleReply (hprepared stage goal rfl) hsettle)
  | _ => exact ⟨.refl _, rfl, id⟩

end Tracker

/-! ### What an event does -/

namespace Session

/-- What an event does to the streaks of the poll loops, and to what waits in the inbox. -/
inductive Airs (s : Session) (e : Event) (s' : Session) : Prop where
  /-- No loop fails, and something may be delivered. -/
  | adds (ds : List Delivery) (hpoll : s.tracker.selector.poll.Unfailing s'.tracker.selector.poll)
      (hinbox : s'.tracker.inbox = s.tracker.inbox.add ds)
      (hended : s.tracker.worker = .ended → s'.tracker.worker = .ended)
  /-- The worker takes the next delivery. -/
  | takes {d : Delivery} {rest : List Delivery} (he : e = .turn .worker)
      (hworker : s.tracker.worker = .listening) (hleft : s.tracker.selector.left = false)
      (hqueue : s.tracker.inbox.queue = d :: rest)
      (hpoll : s.tracker.selector.poll.Unfailing s'.tracker.selector.poll)
      (hinbox : s'.tracker.inbox = { s.tracker.inbox with queue := rest })
  /-- A loop's request is answered. -/
  | answers {i : Nat} {l : Polling.Loop} (result : Except TransportFailure Snapshot)
      (hl : s.tracker.selector.poll.loops[i]? = some l) (hsent : l.request = some .sent)
      (hpoll : s'.tracker.selector.poll =
        (s.tracker.selector.poll.answer i s.tracker.inbox.receiving result).1)
      (hinbox : s'.tracker.inbox = s.tracker.inbox.add
        (s.tracker.selector.poll.answer i s.tracker.inbox.receiving result).2)
      (hworker : s'.tracker.worker = s.tracker.worker)
  /-- The worker ends. -/
  | ends (hpoll : s.tracker.selector.poll.Unfailing s'.tracker.selector.poll)
      (hworker : s'.tracker.worker = .ended)

section Airs

variable {s s' : Session} {e : Event} {t : Tracker} {calls : List ViewCall}

theorem airs_of_spares (h : s.tracker.Spares s'.tracker) : s.Airs e s' :=
  .adds [] h.poll (h.inbox.trans (Inbox.add_nil _).symm) h.ended

/-- A turn of the channels in which no loop fails. -/
theorem airs_of_deliver {selector : Selector} (ds : List Delivery)
    (htracker : s'.tracker = ({ s.tracker with selector } : Tracker).deliver ds)
    (hpoll : s.tracker.selector.poll.Unfailing selector.poll) : s.Airs e s' := by
  refine .adds ds ?_ ?_ ?_
  all_goals rw [htracker]
  · exact hpoll
  · rfl
  · exact id

theorem airs_of_works (h : s.Guarded) (hworks : s.Works e (t, calls))
    (hs' : s'.tracker = t) : s.Airs e s' := by
  -- Only a worker that listens takes something from the inbox.
  cases hworks with
  | run hrun =>
    have hstays := Tracker.stays_of_runWorker hrun
    cases Tracker.workerTurn_of_runWorker hrun with
    | quit =>
      refine .ends ?_ ?_
      · rw [hs']
        exact .refl _
      · rw [hs']
    | @take source snapshot rest hworker hqueue =>
      have hspares := Tracker.spares_settle
        { s.tracker with inbox := { s.tracker.inbox with queue := rest } } snapshot
      refine .takes rfl hworker (hstays hworker nofun) hqueue ?_ ?_
      · rw [hs']
        exact hspares.poll
      · rw [hs']
        exact hspares.inbox
    | warn hworker hqueue | pass hworker hqueue =>
      refine .takes rfl hworker (hstays hworker ?_) hqueue ?_ ?_
      · rw [hworker]
        nofun
      · rw [hs']
        exact .refl _
      · rw [hs']
    | lock hworker =>
      refine airs_of_spares ?_
      rw [hs']
      exact ⟨.refl _, rfl, fun hended => by rw [hworker] at hended; cases hended⟩
  | stored _ hreply =>
    obtain ⟨stage, t₁, settled, hd, happlies, ht, _⟩ := applies_of_replyWorker h hreply
    obtain ⟨hpoll, hinbox, _⟩ := Tracker.spares_of_applies happlies
    refine airs_of_spares ⟨?_, ?_, fun hended => ?_⟩
    · rw [hs', ht]
      exact hpoll
    · rw [hs', ht]
      exact hinbox
    · change s.tracker.worker.doing = _ at hd
      rw [hended] at hd
      cases hd

/-- A turn that an event gives the channels. -/
theorem airs_of_stirs {b : Session} {turn : Tracker × List Output} (hstirs : s.Stirs e b turn) :
    s.Airs e (b.after e turn) := by
  cases hstirs with
  | @watch k =>
    refine airs_of_spares ?_
    rw [after_tracker]
    exact ⟨s.tracker.selector.unfailing_runWatcher k, rfl, id⟩
  | @cycle c =>
    exact airs_of_deliver (Push.Channel.deliveries (c.run s.now).2) (after_tracker ..) (.refl _)
  | @tick i => exact airs_of_deliver [] (after_tracker ..) (.runLoop _ s.now i)
  | @request i => exact airs_of_deliver [] (after_tracker ..) (.runRequest _ i)
  | @answer i _ result hloop hsent =>
    refine .answers result hloop hsent ?_ ?_ ?_
    all_goals rw [after_tracker]
    all_goals rfl
  | opened | refused => exact airs_of_deliver [] (after_tracker ..) (.refl _)
  | received | deafened | elapsed =>
    refine airs_of_spares ?_
    rw [after_tracker]
    exact ⟨.refl _, rfl, id⟩

/-- The page is left. -/
theorem airs_of_left (s : Session) :
    s.Airs .left ((s.forget .worker).after .left (s.tracker.leave, [])) := by
  have hpoll : s.tracker.selector.poll.Unfailing s.tracker.leave.selector.poll := by
    have hstops := (Polling.Channel.Unfailing.retire s.tracker.selector.poll).trans (.stop _)
    unfold Tracker.leave
    dsimp only
    split <;> exact hstops
  -- A worker that was never started does not end.
  by_cases habsent : s.tracker.worker = .absent
  · refine airs_of_spares ?_
    rw [after_tracker]
    refine ⟨hpoll, ?_, fun hended => by rw [habsent] at hended; cases hended⟩
    simp [Tracker.leave, habsent]
  · refine .ends ?_ ?_
    all_goals rw [after_tracker]
    · exact hpoll
    · unfold Tracker.leave
      dsimp only
      split
      · next h => exact absurd h habsent
      · rfl

/-- An event that gives neither a call nor the worker a turn. -/
theorem airs_of_channels (hjob : ∀ job, e.job? = some job → job.usesStorage = false)
    (hstep : s.step e = some s') : s.Airs e s' := by
  rcases stirs_of_step hjob hstep with ⟨b, turn, hstirs, rfl⟩ | ⟨k, d, _, _, rfl, rfl⟩ |
    ⟨rfl, rfl⟩ | ⟨faults, rfl, rfl⟩
  · exact airs_of_stirs hstirs
  · refine airs_of_spares ?_
    rw [after_tracker]
    exact ⟨.refl _, rfl, id⟩
  · exact airs_of_left s
  · refine airs_of_spares ?_
    rw [after_tracker]
    exact ⟨.refl _, rfl, id⟩

theorem airs_of_step (h : s.Guarded) (hstep : s.step e = some s') : s.Airs e s' := by
  cases happens_of_step hstep with
  | @call _ k d r hjob hd htakes =>
    obtain ⟨t, calls, turn⟩ := r
    obtain ⟨_, _, hturn⟩ := htakes.callTurn
    have hspares := Tracker.spares_of_callTurn
      (fun stage goal heq => h.prepared (.call k) stage goal (heq ▸ hd)) hturn
    obtain ⟨cs, htracker⟩ := Tracker.afterCall_fst k t calls turn
    refine airs_of_spares ?_
    rw [after_tracker, htracker]
    exact ⟨hspares.poll, hspares.inbox, hspares.ended⟩
  | @worker _ r hjob hworks =>
    obtain ⟨t, calls⟩ := r
    exact airs_of_works h hworks (after_tracker ..)
  | channel hjob => exact airs_of_channels hjob hstep
  | called | left | disturbed => exact airs_of_channels nofun hstep

end Airs

end Session

end TaskTracking
