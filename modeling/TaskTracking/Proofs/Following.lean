import TaskTracking.Proofs.Routing

/-! # Whether polling follows the subscription

  A selector polls for its active subscription, unless the subscription has gone over
  the open connection while a loop was running for another task: nobody stops that
  loop, and as long as it runs the watcher starts no other one.

  `follows_iff` says that these are all the runs in which polling does not follow the
  subscription. What there is to know about the poll channel is which task its current
  loop polls, and whether that loop is cancelled (`polled`).
-/

namespace TaskTracking

/-! ### The task of the current loop -/

namespace Polling.Channel

variable {c : Channel} {stopped : List Nat}

/-- The task of the current loop, and whether the loop is cancelled. -/
def polled (c : Channel) : Option (String × Bool) :=
  c.activeLoop.map fun l => (l.taskId, l.cancelled)

theorem polled_eq_some_iff {taskId : String} {cancelled : Bool} :
    c.polled = some (taskId, cancelled) ↔
      ∃ i l, c.active = some i ∧ c.loops[i]? = some l ∧ l.taskId = taskId ∧
        l.cancelled = cancelled := by
  simp only [polled, activeLoop, Option.map_eq_some_iff, Option.bind_eq_some_iff, Prod.mk.injEq]
  constructor
  · rintro ⟨l, ⟨i, hi, hl⟩, htask, hcancelled⟩
    exact ⟨i, l, hi, hl, htask, hcancelled⟩
  · rintro ⟨i, l, hi, hl, htask, hcancelled⟩
    exact ⟨l, ⟨i, hi, hl⟩, htask, hcancelled⟩

/-- A loop runs as long as it is not cancelled. -/
theorem currentTask_iff_polled (h : c.Intact stopped) (taskId : String) :
    c.currentTask = some taskId ↔ c.polled = some (taskId, false) := by
  rw [polled_eq_some_iff]
  simp only [currentTask, activeLoop, Option.map_eq_some_iff, Option.filter_eq_some_iff,
    Option.bind_eq_some_iff]
  constructor
  · rintro ⟨l, ⟨⟨i, hi, hl⟩, hlive⟩, htask⟩
    refine ⟨i, l, hi, hl, htask, ?_⟩
    simpa using ((Bool.and_eq_true _ _).mp hlive).1
  · rintro ⟨i, l, hi, hl, htask, hgo⟩
    have hended : l.ended = false := Bool.eq_false_iff.mpr fun htrue => by
      simp [h.returned i l hl htrue] at hgo
    exact ⟨l, ⟨⟨i, hi, hl⟩, by simp [Loop.isLive, hgo, hended]⟩, htask⟩

theorem isRunning_iff_polled (h : c.Intact stopped) :
    c.isRunning = true ↔ ∃ taskId, c.polled = some (taskId, false) := by
  have hcurrent : c.isRunning = c.currentTask.isSome := by
    cases hloop : c.activeLoop with
    | none => simp [isRunning, currentTask, hloop]
    | some l => cases hlive : l.isLive <;> simp [isRunning, currentTask, hloop, hlive]
  rw [hcurrent, Option.isSome_iff_exists]
  exact exists_congr fun taskId => currentTask_iff_polled h taskId

theorem polled_stop (c : Channel) : c.stop.polled = none := by
  simp [polled, activeLoop]

/-- A task that is polled is polled on; else a new loop polls it. -/
theorem polled_start (h : c.Intact stopped) (taskId : String) :
    (c.start taskId).1.polled = some (taskId, false) := by
  unfold start
  split
  · next hcurrent => exact (currentTask_iff_polled h taskId).mp hcurrent
  · rw [polled_eq_some_iff]
    exact ⟨c.stop.loops.length, { taskId, cancelled := c.stop.retired }, rfl, by simp, rfl,
      h.stop.kept⟩

theorem polled_update {i : Nat} {f : Loop → Loop}
    (hf : ∀ l, c.loops[i]? = some l → (f l).taskId = l.taskId ∧ (f l).cancelled = l.cancelled) :
    (c.update i f).polled = c.polled := by
  unfold polled activeLoop
  rw [update_active]
  cases hactive : c.active with
  | none => rfl
  | some j =>
    rw [Option.bind_some, Option.bind_some, update_loops]
    split
    · next hij =>
      subst hij
      cases hl : c.loops[i]? with
      | none => rfl
      | some l =>
        obtain ⟨htask, hcancelled⟩ := hf l hl
        simp [htask, hcancelled]
    · rfl

theorem polled_runLoop (c : Channel) (now i : Nat) : (c.runLoop now i).polled = c.polled :=
  polled_update fun l _ => ⟨Loop.run_taskId _ _ l, Loop.run_cancelled _ _ l⟩

theorem polled_runRequest (c : Channel) (i : Nat) : (c.runRequest i).1.polled = c.polled := by
  unfold runRequest
  split
  · next l hl =>
    refine polled_update fun l₀ hl₀ => ?_
    obtain rfl := Option.some.inj (hl.symm.trans hl₀)
    exact ⟨Loop.runRequest_taskId l, Loop.runRequest_cancelled l⟩
  · rfl

/-- An answer to the current loop cancels it if it is terminal; other answers change
    nothing about what is polled. -/
theorem polled_answer (c : Channel) {i : Nat} {l : Loop} (hl : c.loops[i]? = some l)
    (hsent : l.request = some .sent) (result : Except TransportFailure Snapshot) :
    (c.answer i true result).1.polled =
      if c.active = some i ∧ Loop.isLast result then some (l.taskId, true) else c.polled := by
  have hanswer : (c.answer i true result).1 =
      c.update i fun _ => (l.answer c.threshold true result).1 := by
    unfold answer
    rw [hl]
    dsimp only
    rw [if_pos hsent]
  rw [hanswer]
  have hcancelled := l.answer_cancelled c.threshold result
  split
  · next hlast =>
    rw [polled_eq_some_iff]
    refine ⟨i, _, hlast.1, by rw [update_loops, if_pos rfl, hl]; rfl, by simp, ?_⟩
    rw [hcancelled, hlast.2, Bool.or_true]
  · next hlast =>
    -- The answer is not the last one, or it is one to a loop that is not the current one.
    by_cases hactive : c.active = some i
    · refine polled_update fun l₀ hl₀ => ?_
      obtain rfl := Option.some.inj (hl.symm.trans hl₀)
      have hmore : Loop.isLast result = false := by simpa [hactive] using hlast
      exact ⟨by simp, by rw [hcancelled, hmore, Bool.or_false]⟩
    · unfold polled activeLoop
      rw [update_active]
      cases hcurrent : c.active with
      | none => rfl
      | some j =>
        have hij : i ≠ j := fun hij => hactive (hij ▸ hcurrent)
        rw [Option.bind_some, Option.bind_some, update_loops, if_neg hij]

end Polling.Channel

/-! ### One loop goes on at most -/

namespace Selector

/-- What is done to the poll channel by a subscription or a watcher is to start it. -/
theorem subscribe_poll (s : Selector) (taskId : String) :
    (s.subscribe taskId).1.poll = s.poll ∨
      (s.subscribe taskId).1.poll = (s.poll.start taskId).1 := by
  unfold Selector.subscribe
  dsimp only
  split
  · exact .inr rfl
  · split
    · exact .inl rfl
    · exact .inr rfl

theorem connect_poll (s : Selector) : s.connect.1.poll = s.poll := by
  unfold Selector.connect
  split <;> rfl

theorem watch_poll (s : Selector) : s.watch.1.poll = s.poll := by
  unfold Selector.watch
  split <;> rfl

end Selector

/-- Every loop but the current one stays cancelled. -/
theorem Wiring.Move.noStray {r : Rules} {w w' : Wiring} (h : Move r w w')
    (hw : w.selector.poll.NoStray) : w'.selector.poll.NoStray := by
  cases h with
  | startUp => exact w.selector.watch_poll ▸ hw
  | connect => exact w.selector.connect_poll ▸ hw
  | subscribe taskId =>
    obtain hsame | hstart := w.selector.subscribe_poll taskId
    · exact hsame ▸ hw
    · exact hstart ▸ Polling.Channel.start_noStray hw taskId
  | unsubscribe => exact Polling.Channel.stop_noStray hw
  | watch k =>
    obtain ⟨_, _, hsame | ⟨taskId, hstart⟩⟩ := w.selector.runWatcher_spec k
    · exact hsame ▸ hw
    · exact hstart ▸ Polling.Channel.start_noStray hw taskId
  | tick i =>
    refine hw.update i fun l _ hcancelled => ?_
    rwa [Polling.Loop.run_cancelled]
  | request i => exact Polling.Channel.runRequest_noStray hw i
  | answer i result => exact Polling.Channel.answer_noStray hw i _ result
  | leave => exact Polling.Channel.stop_noStray (Polling.Channel.retire_noStray _)
  | cycle | opened | refused | link | quit | elapse => exact hw

namespace Selector

/-! ### What the standing of a subscription means -/

namespace Course

/-- **Invariant.** What the standing of the last subscription means for the selector. -/
def Stands (s : Selector) : Standing → Prop
  | .followed =>
    (∀ taskId, s.poll.polled = some (taskId, false) → s.active = some taskId) ∧
      ∀ taskId, s.active = some taskId →
        (∃ cancelled, s.poll.polled = some (taskId, cancelled)) ∨ s.Watched
  | .diverted => ∃ taskId other, s.active = some taskId ∧
      s.poll.polled = some (other, false) ∧ other ≠ taskId
  | .abandoned => ∃ taskId other, s.active = some taskId ∧
      s.poll.polled = some (other, true) ∧ other ≠ taskId

section Stands

variable {s s' : Selector} {standing : Standing}

/-- A change that leaves the subscription and what is polled as they are. -/
theorem Stands.congr (h : Stands s standing) (hactive : s'.active = s.active)
    (hpolled : s'.poll.polled = s.poll.polled) (hwatched : s.Watched → s'.Watched) :
    Stands s' standing := by
  cases standing with
  | followed =>
    obtain ⟨hrunning, hserved⟩ := h
    refine ⟨fun taskId hlive => ?_, fun taskId hsub => ?_⟩
    · rw [hactive]
      exact hrunning taskId (hpolled ▸ hlive)
    · rw [hactive] at hsub
      rw [hpolled]
      exact (hserved taskId hsub).imp id hwatched
  | diverted | abandoned =>
    obtain ⟨taskId, other, hsub, hpoll, hne⟩ := h
    exact ⟨taskId, other, hactive.trans hsub, hpolled.trans hpoll, hne⟩

theorem Stands.withPush {begun : Bool} (h : Stands s standing) (hs : s.Attended begun)
    (hbegun : begun = true) {c c' : Push.Channel} (hpush : s.push = some c)
    (hshows : c.Shows c') : Stands { s with push := some c' } standing :=
  h.congr rfl rfl fun hwatched => hwatched.withPush hs hbegun hpush hshows

/-- A task that is polled for is followed. -/
theorem stands_of_polled {taskId : String} (hactive : s.active = some taskId)
    (hpolled : s.poll.polled = some (taskId, false)) : Stands s .followed := by
  refine ⟨fun other hlive => ?_, fun other hsub => ?_⟩
  · obtain ⟨rfl, _⟩ := Prod.mk.inj (Option.some.inj (hpolled.symm.trans hlive))
    exact hactive
  · obtain rfl := Option.some.inj (hactive.symm.trans hsub)
    exact .inl ⟨false, hpolled⟩

/-! ### What an event does to the standing -/

theorem Stands.subscribe {stopped : List Nat} (h : s.poll.Intact stopped) (taskId : String)
    (standing : Standing) :
    Stands (s.subscribe taskId).1
      (standing.next { event := .subscribe taskId, before := s }) := by
  have hstart := s.poll.polled_start h taskId
  unfold Standing.next
  dsimp only
  have hroute : (s.subscribe taskId).2 = .push ∧ (∃ c,
        (s.subscribe taskId).1 = { s with active := some taskId, push := some c } ∧
        c.phase = .open) ∨
      (s.subscribe taskId).2 = .poll ∧ (s.subscribe taskId).1.active = some taskId ∧
        (s.subscribe taskId).1.poll = (s.poll.start taskId).1 := by
    unfold Selector.subscribe
    dsimp only
    split
    · exact .inr ⟨rfl, rfl, rfl⟩
    · split
      · next htold => exact .inl ⟨rfl, _, rfl, Push.Channel.phase_subscribe htold⟩
      · exact .inr ⟨rfl, rfl, rfl⟩
  obtain ⟨hpush, c, hsubscribed, hopen⟩ | ⟨hpoll, hactive, hstarted⟩ := hroute
  · rw [hpush, hsubscribed]
    have hwatched : ({ s with active := some taskId, push := some c } : Selector).Watched :=
      ⟨c, rfl, fun hclosed => by simp [hopen] at hclosed⟩
    by_cases hother : s.poll.currentTask.any (· ≠ taskId) = true
    · rw [if_pos ⟨rfl, hother⟩]
      obtain ⟨other, hcurrent, hne⟩ := (Option.any_eq_true _ _).mp hother
      exact ⟨taskId, other, rfl, (s.poll.currentTask_iff_polled h other).mp hcurrent,
        of_decide_eq_true hne⟩
    · rw [if_neg fun hboth => hother hboth.2]
      refine ⟨fun other hlive => ?_, fun _ _ => .inr hwatched⟩
      have hcurrent := (s.poll.currentTask_iff_polled h other).mpr hlive
      have hsame : other = taskId := by simpa [hcurrent] using hother
      exact congrArg some hsame.symm
  · rw [hpoll, if_neg fun hboth => by cases hboth.1]
    exact stands_of_polled hactive (hstarted ▸ hstart)

theorem Stands.unsubscribe : Stands s.unsubscribe .followed := by
  refine ⟨fun taskId hlive => ?_, fun taskId hsub => ?_⟩
  · have hnone : s.unsubscribe.poll.polled = none := s.poll.polled_stop
    rw [hnone] at hlive
    cases hlive
  · cases hsub

/-- A watcher polls for the subscription if push is closed and nobody polls. -/
theorem runWatcher_cases (hstays : s.left = false) {c : Push.Channel} (hpush : s.push = some c)
    (k : Nat) :
    (s.runWatcher k).push = some c ∧ (s.runWatcher k).active = s.active ∧
      ((∃ taskId, s.active = some taskId ∧ c.phase = .closed ∧ s.poll.isRunning = false ∧
          (s.runWatcher k).poll = (s.poll.start taskId).1) ∨
        (s.active = none ∨ c.phase ≠ .closed ∨ s.poll.isRunning = true) ∧
          (s.runWatcher k).poll = s.poll) := by
  generalize hlooked : s.updateWatcher k (fun w => { w with seen := c.version }) = looked
  have hsame : looked.push = some c ∧ looked.active = s.active ∧ looked.poll = s.poll := by
    subst hlooked
    exact ⟨hpush, rfl, rfl⟩
  have hrun : s.runWatcher k = looked.failOver c := by
    unfold Selector.runWatcher
    rw [hstays, hpush, ← hlooked]
    rfl
  obtain ⟨hpush', hactive', hpoll'⟩ := hsame
  -- A fail-over needs a subscription, a closed push channel and nobody who polls.
  cases hactive : s.active with
  | none =>
    have hkeeps : looked.failOver c = looked := by
      unfold Selector.failOver
      rw [hactive', hactive]
    rw [hrun, hkeeps]
    exact ⟨hpush', hactive'.trans hactive, .inr ⟨.inl rfl, hpoll'⟩⟩
  | some taskId =>
    have hover : looked.failOver c =
        if c.phase = .closed && !s.poll.isRunning then looked.startPoll taskId else looked := by
      unfold Selector.failOver
      rw [hactive', hactive, hpoll']
    by_cases hfails : (c.phase = .closed && !s.poll.isRunning) = true
    · rw [hrun, hover, if_pos hfails]
      simp only [Bool.and_eq_true, decide_eq_true_eq, Bool.not_eq_true'] at hfails
      refine ⟨hpush', hactive'.trans hactive, .inl ⟨taskId, rfl, hfails.1, hfails.2, ?_⟩⟩
      rw [← hpoll']
      rfl
    · rw [hrun, hover, if_neg hfails]
      refine ⟨hpush', hactive'.trans hactive, .inr ⟨.inr ?_, hpoll'⟩⟩
      by_cases hclosed : c.phase = .closed
      · exact .inr (by simpa [hclosed] using hfails)
      · exact .inl hclosed

theorem Stands.watch {begun : Bool} {stopped : List Nat} (h : Stands s standing)
    (hs : s.Attended begun) (hintact : s.poll.Intact stopped) {c : Push.Channel}
    (hpush : s.push = some c) (k : Nat) :
    Stands (s.runWatcher k) (standing.next { event := .watcher k, before := s }) := by
  have hnext : standing.next { event := .watcher k, before := s } =
      if standing = .abandoned ∧ c.phase = .closed then .followed else standing := by
    simp [Standing.next, hpush]
  have hrunning := s.poll.isRunning_iff_polled hintact
  obtain ⟨hpush', hactive', hcases⟩ := runWatcher_cases hs.stays hpush k
  rw [hnext]
  obtain ⟨taskId, hactive, hclosed, hidle, hstarted⟩ | ⟨hkept, hpoll⟩ := hcases
  · -- Nobody polled, so nothing stands in the way of the subscription any more.
    have hfollowed : Stands (s.runWatcher k) .followed :=
      stands_of_polled (hactive'.trans hactive) (hstarted ▸ s.poll.polled_start hintact taskId)
    cases standing with
    | followed =>
      rw [if_neg fun hboth => by cases hboth.1]
      exact hfollowed
    | abandoned =>
      rw [if_pos ⟨rfl, hclosed⟩]
      exact hfollowed
    | diverted =>
      obtain ⟨_, other, _, hlive, _⟩ := h
      have hrun := hrunning.mpr ⟨other, hlive⟩
      rw [hidle] at hrun
      cases hrun
  · -- The watcher starts nothing: no subscription, push not closed, or somebody who polls.
    have hpolled : (s.runWatcher k).poll.polled = s.poll.polled := by rw [hpoll]
    cases standing with
    | followed =>
      rw [if_neg fun hboth => by cases hboth.1]
      obtain ⟨hlive, hserved⟩ := h
      refine ⟨fun taskId hrun => ?_, fun taskId hsub => ?_⟩
      · rw [hactive']
        exact hlive taskId (hpolled ▸ hrun)
      · rw [hactive'] at hsub
        rw [hpolled]
        obtain hnone | hopen | hrun := hkept
        · simp [hnone] at hsub
        · exact .inr ⟨c, hpush', fun hclosed => absurd hclosed hopen⟩
        · obtain ⟨other, hother⟩ := hrunning.mp hrun
          obtain rfl := Option.some.inj (hsub.symm.trans (hlive other hother))
          exact .inl ⟨false, hother⟩
    | diverted =>
      rw [if_neg fun hboth => by cases hboth.1]
      obtain ⟨taskId, other, hsub, hother, hne⟩ := h
      exact ⟨taskId, other, hactive'.trans hsub, hpolled.trans hother, hne⟩
    | abandoned =>
      obtain ⟨taskId, other, hsub, hother, hne⟩ := h
      obtain hnone | hopen | hrun := hkept
      · simp [hnone] at hsub
      · rw [if_neg fun hboth => hopen hboth.2]
        exact ⟨taskId, other, hactive'.trans hsub, hpolled.trans hother, hne⟩
      · obtain ⟨live, hlive⟩ := hrunning.mp hrun
        rw [hother] at hlive
        cases hlive

/-- A terminal answer to the current loop stops it, and nobody polls after that. -/
theorem Stands.answer (h : Stands s standing) {i : Nat} {l : Polling.Loop}
    (hl : s.poll.loops[i]? = some l) (hsent : l.request = some .sent)
    (result : Except TransportFailure Snapshot) :
    Stands { s with poll := (s.poll.answer i true result).1 }
      (standing.next { event := .answered i result, before := s }) := by
  have hpolled := s.poll.polled_answer hl hsent result
  unfold Standing.next
  dsimp only
  by_cases hlast : s.poll.active = some i ∧ Polling.Loop.isLast result = true
  · rw [if_pos hlast] at hpolled
    -- It was the current loop.
    have hcurrent : s.poll.polled = some (l.taskId, l.cancelled) :=
      Polling.Channel.polled_eq_some_iff.mpr ⟨i, l, hlast.1, hl, rfl, rfl⟩
    cases standing with
    | followed =>
      rw [if_neg fun hboth => by cases hboth.1]
      refine ⟨fun taskId hlive => ?_, fun taskId hsub => ?_⟩
      · rw [hpolled] at hlive
        cases hlive
      · refine (h.2 taskId hsub).imp ?_ id
        rintro ⟨cancelled, hserved⟩
        obtain ⟨rfl, _⟩ := Prod.mk.inj (Option.some.inj (hcurrent.symm.trans hserved))
        exact ⟨true, hpolled⟩
    | diverted =>
      rw [if_pos ⟨rfl, hlast⟩]
      obtain ⟨taskId, other, hsub, hother, hne⟩ := h
      obtain ⟨rfl, _⟩ := Prod.mk.inj (Option.some.inj (hcurrent.symm.trans hother))
      exact ⟨taskId, l.taskId, hsub, hpolled, hne⟩
    | abandoned =>
      rw [if_neg fun hboth => by cases hboth.1]
      obtain ⟨taskId, other, hsub, hother, hne⟩ := h
      obtain ⟨rfl, _⟩ := Prod.mk.inj (Option.some.inj (hcurrent.symm.trans hother))
      exact ⟨taskId, l.taskId, hsub, hpolled, hne⟩
  · rw [if_neg hlast] at hpolled
    rw [if_neg fun hall => hlast hall.2]
    exact h.congr rfl hpolled id

/-- What the peer does is nothing to polling. -/
theorem Stands.onLink {begun : Bool} (h : Stands s standing) (hs : s.Attended begun)
    (hbegun : begun = true) (f : Push.Link → Push.Link) :
    Stands { s with push := s.push.map (·.onLink f) } standing := by
  rcases s.mapPush_cases (·.onLink f) with hsame | ⟨c, hpush, hchanged⟩
  · rw [hsame]
    exact h
  · rw [hchanged]
    exact h.withPush hs hbegun hpush (Push.Channel.shows_onLink c f)

/-! ### Every event -/

/-- An event is a move of the wiring. -/
theorem move_of_next {w w' : Wiring} {e : Event} (h : next? w e = some w') :
    Wiring.Move .staying w w' := by
  cases e with
  | subscribe taskId => exact Option.some.inj h ▸ .subscribe taskId trivial
  | unsubscribe => exact Option.some.inj h ▸ .unsubscribe
  | connect => exact Option.some.inj h ▸ .connect
  | watcher k =>
    obtain ⟨_, hw⟩ := Option.ite_none_right_eq_some.mp h
    exact Option.some.inj hw ▸ .watch k
  | cycle =>
    obtain ⟨c, hpush, hready⟩ := Option.bind_eq_some_iff.mp h
    obtain ⟨_, hw⟩ := Option.ite_none_right_eq_some.mp hready
    exact Option.some.inj hw ▸ .cycle hpush
  | attempted result =>
    cases result with
    | ok =>
      obtain ⟨c, hpush, hphase⟩ := Option.bind_eq_some_iff.mp h
      obtain ⟨_, hw⟩ := Option.ite_none_right_eq_some.mp hphase
      exact Option.some.inj hw ▸ .opened hpush
    | error failure =>
      obtain ⟨c, hpush, hphase⟩ := Option.bind_eq_some_iff.mp h
      obtain ⟨_, hw⟩ := Option.ite_none_right_eq_some.mp hphase
      exact Option.some.inj hw ▸ .refused failure hpush
  | received incoming => exact Option.some.inj h ▸ .link (fun _ => rfl) (fun _ => rfl)
  | deafened => exact Option.some.inj h ▸ .link (fun _ => rfl) (fun _ => rfl)
  | loop i =>
    obtain ⟨_, hw⟩ := Option.ite_none_right_eq_some.mp h
    exact Option.some.inj hw ▸ .tick i
  | request i =>
    obtain ⟨_, hw⟩ := Option.ite_none_right_eq_some.mp h
    exact Option.some.inj hw ▸ .request i
  | answered i result =>
    obtain ⟨hsent, hw⟩ := Option.ite_none_right_eq_some.mp h
    obtain ⟨l, hl, hsent⟩ := (Option.any_eq_true _ _).mp hsent
    exact Option.some.inj hw ▸ .answer i result hl (of_decide_eq_true hsent)
  | elapsed duration => exact Option.some.inj h ▸ .elapse duration trivial

/-- What has become of the last subscription is known from the history. -/
theorem Stands.next {w w' : Wiring} (hw : w.Attended) (hbegun : w.begun = true) {e : Event}
    (h : next? w e = some w') (hstands : Stands w.selector standing) :
    Stands w'.selector (standing.next { event := e, before := w.selector }) := by
  have hattended := hw.selector
  cases e with
  | subscribe taskId =>
    exact Option.some.inj h ▸ Stands.subscribe hw.intact taskId standing
  | unsubscribe => exact Option.some.inj h ▸ Stands.unsubscribe
  | connect =>
    obtain rfl := Option.some.inj h
    unfold Selector.connect
    cases hpush : w.selector.push with
    | none => exact hstands
    | some c =>
      exact hstands.withPush hattended hbegun hpush (Push.Channel.shows_connect c)
  | watcher k =>
    obtain ⟨hready, hw'⟩ := Option.ite_none_right_eq_some.mp h
    obtain rfl := Option.some.inj hw'
    -- A watcher that has something to do watches a push channel.
    obtain ⟨x, _, hready⟩ := (Option.any_eq_true _ _).mp hready
    cases hpush : w.selector.push with
    | none => simp [watcherReady, hattended.stays, hpush] at hready
    | some c => exact hstands.watch hattended hw.intact hpush k
  | cycle =>
    obtain ⟨c, hpush, hready⟩ := Option.bind_eq_some_iff.mp h
    obtain ⟨_, hw'⟩ := Option.ite_none_right_eq_some.mp hready
    obtain rfl := Option.some.inj hw'
    exact hstands.withPush hattended hbegun hpush
      (Push.Channel.shows_run (hw.spoken c hpush).unshut w.now)
  | attempted result =>
    cases result with
    | ok | error =>
      obtain ⟨c, hpush, hphase⟩ := Option.bind_eq_some_iff.mp h
      obtain ⟨_, hw'⟩ := Option.ite_none_right_eq_some.mp hphase
      obtain rfl := Option.some.inj hw'
      exact hstands.withPush hattended hbegun hpush (Push.Channel.shows_attempted c w.now _)
  | received | deafened =>
    obtain rfl := Option.some.inj h
    exact hstands.onLink hattended hbegun _
  | loop i =>
    obtain ⟨_, hw'⟩ := Option.ite_none_right_eq_some.mp h
    obtain rfl := Option.some.inj hw'
    exact hstands.congr rfl (Polling.Channel.polled_runLoop _ _ _) id
  | request i =>
    obtain ⟨_, hw'⟩ := Option.ite_none_right_eq_some.mp h
    obtain rfl := Option.some.inj hw'
    exact hstands.congr rfl (Polling.Channel.polled_runRequest _ _) id
  | answered i result =>
    obtain ⟨hsent, hw'⟩ := Option.ite_none_right_eq_some.mp h
    obtain rfl := Option.some.inj hw'
    obtain ⟨l, hl, hsent⟩ := (Option.any_eq_true _ _).mp hsent
    rw [hw.receiving]
    exact hstands.answer hl (of_decide_eq_true hsent) result
  | elapsed => exact Option.some.inj h ▸ hstands

end Stands

/-! ### Every course -/

section Opened

variable {push : Option PushSettings} {interval threshold : Nat} {s : Course}

theorem opened_attended (hpos : 0 < interval) :
    (opened push interval threshold).wiring.Attended := by
  have hfresh : Wiring.Attended {
      now := 0
      selector := { push := push.map Push.Channel.ofSettings, poll := { interval, threshold } }
      begun := false, receiving := true, accepted := 0, frames := [], stopped := [] } := by
    refine ⟨rfl, nofun, ?_, ⟨rfl, hpos, nofun, nofun, nofun⟩,
      ⟨rfl, ?_, nofun, nofun, nofun⟩⟩
    · intro c hc
      obtain ⟨p, _, rfl⟩ := Option.map_eq_some_iff.mp hc
      exact .of_closed rfl nofun
    · intro c hc
      obtain ⟨p, _, rfl⟩ := Option.map_eq_some_iff.mp hc
      rfl
  exact hfresh.startUp rfl

theorem opened_idle (push : Option PushSettings) (interval threshold : Nat) :
    (opened push interval threshold).wiring.selector.active = none ∧
    (opened push interval threshold).wiring.selector.poll.polled = none ∧
    (opened push interval threshold).wiring.selector.poll.loops = [] := by
  unfold opened Selector.watch
  dsimp only
  split <;> exact ⟨rfl, rfl, rfl⟩

/-- **Invariant.** The channels attend to the subscription, no loop but the current one
    goes on, and the last subscription stands as the history tells. -/
structure Sorted (s : Course) : Prop where
  begun : s.wiring.begun = true
  attended : s.wiring.Attended
  noStray : s.wiring.selector.poll.NoStray
  stands : Stands s.wiring.selector (standing s.history)

theorem Sorted.step {s s' : Course} {e : Event} (h : s.Sorted) (hs : s.step e = some s') :
    s'.Sorted := by
  obtain ⟨w, hw, rfl⟩ := Option.map_eq_some_iff.mp hs
  have hmove := move_of_next hw
  have hstands : standing (s.history ++ [{ event := e, before := s.wiring.selector }]) =
      (standing s.history).next { event := e, before := s.wiring.selector } := by
    unfold standing
    rw [List.foldl_append]
    rfl
  exact {
    begun := Wiring.Moves.begun (Relation.ReflTransGen.single hmove) h.begun
    attended := hmove.attended id h.attended
    noStray := hmove.noStray h.noStray
    stands := hstands ▸ h.stands.next h.attended h.begun hw }

theorem sorted_opened (hpos : 0 < interval) : (opened push interval threshold).Sorted where
  begun := rfl
  attended := opened_attended hpos
  noStray := by
    intro i l hl
    rw [(opened_idle push interval threshold).2.2] at hl
    cases hl
  stands := by
    obtain ⟨hidle, hpolled, _⟩ := opened_idle push interval threshold
    refine ⟨fun taskId hlive => ?_, fun taskId hsub => ?_⟩
    · rw [hpolled] at hlive
      cases hlive
    · rw [hidle] at hsub
      cases hsub

theorem sorted_of_reaches (hpos : 0 < interval) (h : Reaches (opened push interval threshold) s) :
    s.Sorted := by
  induction h with
  | refl => exact sorted_opened hpos
  | step e _ hs ih => exact ih.step hs

/-- A push channel that is watched is not closed once the watchers have seen it. -/
theorem not_closed_of_watched (h : s.wiring.Attended) (hrest : s.AtRest)
    (hwatched : s.wiring.selector.Watched) :
    ∃ c, s.wiring.selector.push = some c ∧ c.phase ≠ .closed := by
  obtain ⟨c, hpush, hunseen⟩ := hwatched
  refine ⟨c, hpush, fun hclosed => ?_⟩
  obtain ⟨x, hx, hne⟩ := hunseen hclosed
  have hidle := hrest.watchers x hx
  simp [watcherReady, h.selector.working x hx, hpush, Ne.symm hne] at hidle

/-- A loop that runs is the current one. -/
theorem polled_of_isLive (h : s.Sorted) {l : Polling.Loop}
    (hl : l ∈ s.wiring.selector.poll.loops) (hlive : l.isLive = true) :
    s.wiring.selector.poll.polled = some (l.taskId, false) := by
  obtain ⟨i, hi⟩ := List.mem_iff_getElem?.mp hl
  have hgo : l.cancelled = false := by simpa using ((Bool.and_eq_true _ _).mp hlive).1
  have hactive : s.wiring.selector.poll.active = some i := by
    by_contra hother
    have hcancelled := h.noStray i l hi hother
    rw [hgo] at hcancelled
    cases hcancelled
  exact Polling.Channel.polled_eq_some_iff.mpr ⟨i, l, hactive, hi, rfl, hgo⟩

theorem not_follows_of_diverted (h : s.wiring.Attended)
    (hstands : Stands s.wiring.selector .diverted) : ¬ s.Follows := by
  intro hfollows
  obtain ⟨taskId, other, hsub, hother, hne⟩ := hstands
  obtain ⟨i, l, _, hl, rfl, hgo⟩ := Polling.Channel.polled_eq_some_iff.mp hother
  have hended : l.ended = false := Bool.eq_false_iff.mpr fun htrue => by
    simp [h.intact.returned i l hl htrue] at hgo
  have hlive : l.isLive = true := by simp [Polling.Loop.isLive, hgo, hended]
  have hactive := hfollows.running l (List.mem_of_getElem? hl) hlive
  exact hne (Option.some.inj (hactive.symm.trans hsub))

theorem follows_iff_of_abandoned (h : s.Sorted)
    (hstands : Stands s.wiring.selector .abandoned) :
    s.Follows ↔ ¬ s.wiring.selector.push.all (·.phase = .closed) = true := by
  obtain ⟨taskId, other, hsub, hother, hne⟩ := hstands
  constructor
  · intro hfollows hclosed
    have hall : ∀ c, s.wiring.selector.push = some c → c.phase = .closed := by
      intro c hpush
      simpa [hpush] using hclosed
    obtain hcurrent | ⟨i, l, hactive, hl, htask, _⟩ := hfollows.polled taskId hsub hall
    · have hlive := (Polling.Channel.currentTask_iff_polled h.attended.intact taskId).mp hcurrent
      rw [hother] at hlive
      cases hlive
    · have hdone := Polling.Channel.polled_eq_some_iff.mpr ⟨i, l, hactive, hl, htask, rfl⟩
      obtain ⟨hsame, _⟩ := Prod.mk.inj (Option.some.inj (hother.symm.trans hdone))
      exact hne hsame
  · intro hopen
    refine ⟨fun l hl hrun => ?_, fun _ _ hclosed => ?_⟩
    · have hlive := polled_of_isLive h hl hrun
      rw [hother] at hlive
      cases hlive
    · refine absurd ?_ hopen
      cases hpush : s.wiring.selector.push with
      | none => rfl
      | some c => simp [hclosed c hpush]

theorem follows_of_followed (h : s.Sorted) (hrest : s.AtRest)
    (hstands : Stands s.wiring.selector .followed) : s.Follows := by
  obtain ⟨hlive, hserved⟩ := hstands
  refine ⟨fun l hl hrun => hlive l.taskId (polled_of_isLive h hl hrun), ?_⟩
  intro taskId hsub hclosed
  obtain ⟨cancelled, hpolled⟩ | hwatched := hserved taskId hsub
  · cases cancelled with
    | false =>
      exact .inl ((Polling.Channel.currentTask_iff_polled h.attended.intact taskId).mpr hpolled)
    | true =>
      -- Its loop was cancelled, which only a terminal status does.
      obtain ⟨i, l, hactive, hl, htask, hcancelled⟩ :=
        Polling.Channel.polled_eq_some_iff.mp hpolled
      obtain ⟨l', hl', hstopped⟩ := h.attended.intact.current i hactive
      obtain rfl := Option.some.inj (hl.symm.trans hl')
      exact .inr ⟨i, l, hactive, hl, htask, hstopped hcancelled⟩
  · obtain ⟨c, hpush, hopen⟩ := not_closed_of_watched h.attended hrest hwatched
    exact absurd (hclosed c hpush) hopen

/-- **Main theorem.** In every course of a selector, with any calls, fortunes of push and
    answers, polling follows the subscription at rest exactly if the last subscription has
    not strayed: gone over the open connection while a loop was running for another task. -/
theorem follows_iff (hpos : 0 < interval) (h : Reaches (opened push interval threshold) s)
    (hrest : s.AtRest) : s.Follows ↔ ¬ s.Strays := by
  have hsorted := sorted_of_reaches hpos h
  have hstands := hsorted.stands
  unfold Strays
  cases hstanding : standing s.history with
  | followed =>
    rw [hstanding] at hstands
    simpa using follows_of_followed hsorted hrest hstands
  | diverted =>
    rw [hstanding] at hstands
    simpa using not_follows_of_diverted hsorted.attended hstands
  | abandoned =>
    rw [hstanding] at hstands
    simpa using follows_iff_of_abandoned hsorted hstands

end Opened

/-- Settings of a push channel. -/
def endpoint : PushSettings := { url := { scheme := "ws", path := .segments [] } }

/-- A task is subscribed to over the open connection, which is then lost. -/
def failedOver : List Event :=
  [.connect, .cycle, .attempted (.ok ()), .watcher 0, .subscribe "task", .cycle,
    .received .closed, .cycle, .watcher 0, .loop 0]

/-- Polling takes over. -/
theorem follows_failed_over : 0 < 2000 ∧ ∃ s, play failedOver (opened endpoint 2000 3) = some s ∧
    s.AtRest ∧ s.wiring.selector.poll.currentTask = some "task" ∧ s.Follows := by
  have hplayed : (play failedOver (opened endpoint 2000 3)).any fun s =>
      s.AtRest ∧ s.wiring.selector.poll.currentTask = some "task" ∧ ¬ s.Strays := by decide
  obtain ⟨s, hs, hholds⟩ := (Option.any_eq_true ..).mp hplayed
  obtain ⟨hrest, hcurrent, hkept⟩ := of_decide_eq_true hholds
  have hpos : 0 < 2000 := by decide
  exact ⟨hpos, s, hs, hrest, hcurrent, (follows_iff hpos (reaches_of_play hs) hrest).mpr hkept⟩

/-- A task is polled until push opens, another one is subscribed to over the open
    connection, and that is lost. -/
def diverted : List Event :=
  [.subscribe "old", .cycle, .watcher 0, .loop 0, .attempted (.ok ()), .cycle, .watcher 0,
    .subscribe "new", .cycle, .received .closed, .cycle, .watcher 0]

/-- The task that is no longer subscribed to is polled, and the one that is is not. -/
theorem not_follows_diverted : ∃ s, play diverted (opened endpoint 2000 3) = some s ∧
    s.AtRest ∧ s.wiring.selector.active = some "new" ∧
    s.wiring.selector.poll.currentTask = some "old" ∧ ¬ s.Follows := by
  have hplayed : (play diverted (opened endpoint 2000 3)).any fun s =>
      s.AtRest ∧ s.wiring.selector.active = some "new" ∧
        s.wiring.selector.poll.currentTask = some "old" ∧
        ∃ l ∈ s.wiring.selector.poll.loops, l.isLive = true ∧ l.taskId = "old" := by decide
  obtain ⟨s, hs, hholds⟩ := (Option.any_eq_true ..).mp hplayed
  obtain ⟨hrest, hactive, hcurrent, l, hl, hlive, htask⟩ := of_decide_eq_true hholds
  refine ⟨s, hs, hrest, hactive, hcurrent, fun hfollows => ?_⟩
  have hsame := hfollows.running l hl hlive
  rw [hactive, htask] at hsame
  exact absurd hsame (by decide)

end Course

end Selector

end TaskTracking
