import TaskTracking.Selector

/-! # Subscriptions of a selector

  What a selector and its two channels agree on, whatever happens to them:

  - The push channel's active task is the selector's.
  - Every loop that is not the poll channel's current one is cancelled.
  - The current loop polls the selector's active task.

  So a channel that delivers anything delivers it while a subscription is
  active (`Selector.Sound.quiet_run`, `Selector.Sound.quiet_answer`).
-/

namespace TaskTracking

/-! ### The push channel keeps its active task -/

namespace Push.Channel

@[simp] theorem finish_active (c : Channel) : c.finish.active = c.active := rfl

@[simp] theorem touch_active (c : Channel) : c.touch.active = c.active := rfl

@[simp] theorem connect_active (c : Channel) : c.connect.1.active = c.active := by
  unfold connect
  split
  · split <;> rfl
  · rfl

@[simp] theorem subscribe_active (c : Channel) (taskId : String) :
    (c.subscribe taskId).1.active = some taskId := by
  unfold subscribe
  dsimp only
  split <;> rfl

@[simp] theorem attempt_active (c : Channel) : c.attempt.1.active = c.active := by
  unfold attempt
  split <;> rfl

@[simp] theorem fall_active (c : Channel) (now : Nat) : (c.fall now).active = c.active := by
  unfold fall
  dsimp only
  split <;> rfl

@[simp] theorem pump_active (c : Channel) (now : Nat) (link : Link) :
    (c.pump now link).1.active = c.active := by
  unfold pump
  split
  · split <;> simp
  · rfl
  · simp
  · simp
  · rfl

@[simp] theorem run_active (c : Channel) (now : Nat) : (c.run now).1.active = c.active := by
  unfold run
  split
  · rfl
  · simp
  · split <;> simp
  · split <;> simp
  · split
    · simp
    · split <;> simp

@[simp] theorem attempted_active (c : Channel) (now : Nat) (r : Except TransportFailure Nat) :
    (c.attempted now r).active = c.active := by
  unfold attempted
  split
  · split
    · rfl
    · split
      · rfl
      · simp
  · rfl

@[simp] theorem onLink_active (c : Channel) (f : Link → Link) : (c.onLink f).active = c.active := by
  unfold onLink
  split <;> rfl

/-- Frames are handed on only for an active task. -/
theorem dispatch_eq_nil {c : Channel} (h : c.active = none) (frame : String) :
    c.dispatch frame = [] := by
  unfold dispatch
  split
  · rfl
  · split
    · simp [h]
    · rfl

/-- What is handed on in a turn. -/
def deliveries (acts : List Act) : List Delivery :=
  acts.filterMap fun
    | .deliver delivery => some delivery
    | _ => none

theorem deliveries_pump {c : Channel} (h : c.active = none) (now : Nat) (link : Link) :
    deliveries (c.pump now link).2 = [] := by
  unfold pump
  split
  · split <;> rfl
  · simp [dispatch_eq_nil h, deliveries]
  · rfl
  · rfl
  · rfl

theorem deliveries_attempt (c : Channel) : deliveries c.attempt.2 = [] := by
  unfold attempt
  split <;> rfl

/-- Nothing is handed on while no task is active. -/
theorem deliveries_run {c : Channel} (h : c.active = none) (now : Nat) :
    deliveries (c.run now).2 = [] := by
  unfold run
  split
  · rfl
  · exact deliveries_attempt c
  · split <;> rfl
  · split
    · rfl
    · exact deliveries_pump h now _
  · split
    · rfl
    · split
      · exact deliveries_attempt c
      · rfl

/-! ### What a turn of the push channel writes -/

/-- The frames that a turn of a connect cycle writes, with the numbers of their
    connections. -/
def written (acts : List Act) : List (Nat × String) :=
  acts.filterMap fun
    | .write number frame => some (number, frame)
    | _ => none

/-- The frames written on a connection. -/
def onConnection (frames : List (Nat × String)) (number : Nat) : List String :=
  (frames.filter (·.1 = number)).map Prod.snd

theorem written_attempt (c : Channel) : written c.attempt.2 = [] := by
  unfold attempt
  split <;> rfl

theorem written_dispatch (c : Channel) (frame : String) : written (c.dispatch frame) = [] := by
  unfold dispatch
  split
  · rfl
  · split
    · split <;> rfl
    · rfl

end Push.Channel

/-! ### The loops of a poll channel -/

namespace Polling

namespace Loop

@[simp] theorem run_taskId (interval now : Nat) (l : Loop) :
    (l.run interval now).taskId = l.taskId := by
  unfold run
  split
  · rfl
  · split
    · split <;> rfl
    · split
      · rfl
      · dsimp only
        split <;> rfl

@[simp] theorem run_cancelled (interval now : Nat) (l : Loop) :
    (l.run interval now).cancelled = l.cancelled := by
  unfold run
  split
  · rfl
  · split
    · split <;> rfl
    · split
      · rfl
      · dsimp only
        split <;> rfl

@[simp] theorem runRequest_taskId (l : Loop) : l.runRequest.1.taskId = l.taskId := by
  unfold runRequest
  split
  · dsimp only
    split <;> rfl
  · split <;> rfl
  · rfl

@[simp] theorem runRequest_cancelled (l : Loop) : l.runRequest.1.cancelled = l.cancelled := by
  unfold runRequest
  split
  · dsimp only
    split <;> rfl
  · split <;> rfl
  · rfl

@[simp] theorem answer_taskId (threshold : Nat) (receiving : Bool) (l : Loop)
    (result : Except TransportFailure Snapshot) :
    (l.answer threshold receiving result).1.taskId = l.taskId := by
  unfold answer
  dsimp only
  split
  · rfl
  · split <;> rfl

/-- A cancelled loop stays cancelled and delivers nothing. -/
theorem answer_of_cancelled {l : Loop} (h : l.cancelled = true) (threshold : Nat)
    (receiving : Bool) (result : Except TransportFailure Snapshot) :
    (l.answer threshold receiving result).1.cancelled = true ∧
      (l.answer threshold receiving result).2 = [] := by
  unfold answer
  simp [h]

end Loop

namespace Channel

/-- The loops after one of them has changed. -/
theorem update_loops (c : Channel) (i j : Nat) (f : Loop → Loop) :
    (c.update i f).loops[j]? = if i = j then c.loops[j]?.map f else c.loops[j]? := by
  simp [update, List.getElem?_modify]
  split <;> simp_all

@[simp] theorem update_active (c : Channel) (i : Nat) (f : Loop → Loop) :
    (c.update i f).active = c.active := rfl

@[simp] theorem stop_active (c : Channel) : c.stop.active = none := by
  unfold stop
  split
  · rfl
  · assumption

/-- Every loop but the current one is cancelled. -/
def NoStray (c : Channel) : Prop :=
  ∀ (i : Nat) (l : Loop), c.loops[i]? = some l → c.active ≠ some i → l.cancelled = true

/-- The current loop is there and polls the task. -/
def Polls (c : Channel) (active : Option String) : Prop :=
  ∀ i, c.active = some i → ∃ l, c.loops[i]? = some l ∧ active = some l.taskId

/-- A change of one loop that keeps its task, and cancels it at most, strays from nothing. -/
theorem NoStray.update {c : Channel} (h : c.NoStray) (i : Nat) {f : Loop → Loop}
    (hf : ∀ l, c.loops[i]? = some l → l.cancelled = true → (f l).cancelled = true) :
    (c.update i f).NoStray := by
  intro j l hl hj
  rw [update_loops] at hl
  split at hl
  · next hij =>
    subst hij
    obtain ⟨l₀, hl₀, rfl⟩ := Option.map_eq_some_iff.mp hl
    exact hf l₀ hl₀ (h i l₀ hl₀ hj)
  · exact h j l hl hj

theorem Polls.update {c : Channel} {active : Option String} (h : c.Polls active) (i : Nat)
    {f : Loop → Loop} (hf : ∀ l, c.loops[i]? = some l → (f l).taskId = l.taskId) :
    (c.update i f).Polls active := by
  intro j hj
  obtain ⟨l, hl, ha⟩ := h j hj
  rw [update_loops]
  split
  · next hij =>
    subst hij
    exact ⟨f l, by simp [hl], by rw [hf l hl]; exact ha⟩
  · exact ⟨l, hl, ha⟩

/-- After a stop every loop is cancelled. -/
theorem NoStray.stop {c : Channel} (h : c.NoStray) :
    ∀ (i : Nat) (l : Loop), c.stop.loops[i]? = some l → l.cancelled = true := by
  intro i l hl
  unfold Channel.stop at hl
  split at hl
  · next k hk =>
    change (c.update k fun l => { l with cancelled := true }).loops[i]? = some l at hl
    rw [update_loops] at hl
    split at hl
    · obtain ⟨l₀, _, rfl⟩ := Option.map_eq_some_iff.mp hl
      rfl
    · next hne => exact h i l hl (by rw [hk]; simpa using hne)
  · next hnone => exact h i l hl (by simp [hnone])

theorem stop_noStray {c : Channel} (h : c.NoStray) : c.stop.NoStray :=
  fun i l hl _ => h.stop i l hl

theorem stop_polls (c : Channel) (active : Option String) : c.stop.Polls active := by
  intro i hi
  simp at hi

/-- Starting to poll a task leaves no other loop alive. -/
theorem start_noStray {c : Channel} (h : c.NoStray) (taskId : String) :
    (c.start taskId).1.NoStray := by
  unfold start
  split
  · exact h
  · intro i l hl hi
    dsimp only at hl hi
    rw [List.getElem?_append] at hl
    split at hl
    · exact h.stop i l hl
    · have hlast : i = c.stop.loops.length := by
        have := (List.getElem?_eq_some_iff.mp hl).1
        simp only [List.length_cons, List.length_nil] at this
        omega
      exact absurd (by rw [hlast]) hi

theorem start_polls (c : Channel) (taskId : String) :
    (c.start taskId).1.Polls (some taskId) := by
  unfold start
  split
  · next hcur =>
    intro i hi
    change c.active = some i at hi
    simp only [currentTask, activeLoop, hi, Option.bind_some, Option.map_eq_some_iff,
      Option.filter_eq_some_iff] at hcur
    obtain ⟨l, ⟨hl, _⟩, htask⟩ := hcur
    exact ⟨l, hl, by rw [htask]⟩
  · intro i hi
    simp only [Option.some.injEq] at hi
    subst hi
    exact ⟨{ taskId, cancelled := c.stop.retired }, by simp, rfl⟩

theorem retire_noStray (c : Channel) : c.retire.NoStray := by
  intro i l hl _
  simp only [retire, List.getElem?_map, Option.map_eq_some_iff] at hl
  obtain ⟨l₀, _, rfl⟩ := hl
  rfl

theorem retire_polls {c : Channel} {active : Option String} (h : c.Polls active) :
    c.retire.Polls active := by
  intro i hi
  obtain ⟨l, hl, ha⟩ := h i hi
  exact ⟨{ l with cancelled := true }, by simp [retire, hl], ha⟩

theorem runRequest_noStray {c : Channel} (h : c.NoStray) (i : Nat) :
    (c.runRequest i).1.NoStray := by
  unfold runRequest
  split
  · next l hl =>
    refine h.update i fun l₀ hl₀ hc => ?_
    rw [hl] at hl₀
    cases hl₀
    simpa using hc
  · exact h

theorem runRequest_polls {c : Channel} {active : Option String} (h : c.Polls active) (i : Nat) :
    (c.runRequest i).1.Polls active := by
  unfold runRequest
  split
  · next l hl =>
    refine h.update i fun l₀ hl₀ => ?_
    rw [hl] at hl₀
    cases hl₀
    simp
  · exact h

theorem answer_noStray {c : Channel} (h : c.NoStray) (i : Nat) (receiving : Bool)
    (result : Except TransportFailure Snapshot) : (c.answer i receiving result).1.NoStray := by
  unfold answer
  split
  · next l hl =>
    split
    · refine h.update i fun l₀ hl₀ hc => ?_
      rw [hl] at hl₀
      cases hl₀
      exact (Loop.answer_of_cancelled hc _ _ _).1
    · exact h
  · exact h

theorem answer_polls {c : Channel} {active : Option String} (h : c.Polls active) (i : Nat)
    (receiving : Bool) (result : Except TransportFailure Snapshot) :
    (c.answer i receiving result).1.Polls active := by
  unfold answer
  split
  · next l hl =>
    split
    · refine h.update i fun l₀ hl₀ => ?_
      rw [hl] at hl₀
      cases hl₀
      simp
    · exact h
  · exact h

/-- A channel that polls nothing delivers nothing. -/
theorem deliveries_answer {c : Channel} (h : c.NoStray) (hp : c.Polls none) (i : Nat)
    (receiving : Bool) (result : Except TransportFailure Snapshot) :
    (c.answer i receiving result).2 = [] := by
  unfold answer
  split
  · next l hl =>
    split
    · have hidle : c.active ≠ some i := by
        intro hi
        obtain ⟨_, _, ha⟩ := hp i hi
        cases ha
      exact (Loop.answer_of_cancelled (h i l hl hidle) _ _ _).2
    · rfl
  · rfl

end Channel

end Polling

/-! ### Selectors -/

namespace Selector

/-- The selector and its channels agree on what is subscribed to. -/
structure Sound (s : Selector) : Prop where
  subscribed : ∀ c, s.push = some c → c.active = s.active
  noStray : s.poll.NoStray
  polls : s.poll.Polls s.active

namespace Sound

/-- Any change of the push channel that keeps its active task. -/
theorem withPush {s : Selector} (h : s.Sound) {c : Push.Channel} (hc : c.active = s.active) :
    ({ s with push := some c } : Selector).Sound where
  subscribed := by
    rintro _ ⟨rfl⟩
    exact hc
  noStray := h.noStray
  polls := h.polls

theorem mapPush {s : Selector} (h : s.Sound) {f : Push.Channel → Push.Channel}
    (hf : ∀ c, (f c).active = c.active) : ({ s with push := s.push.map f } : Selector).Sound where
  subscribed := by
    intro c hc
    obtain ⟨c₀, hc₀, rfl⟩ := Option.map_eq_some_iff.mp hc
    rw [hf]
    exact h.subscribed c₀ hc₀
  noStray := h.noStray
  polls := h.polls

theorem withPoll {s : Selector} (h : s.Sound) {poll : Polling.Channel} (hn : poll.NoStray)
    (hp : poll.Polls s.active) : ({ s with poll } : Selector).Sound where
  subscribed := h.subscribed
  noStray := hn
  polls := hp

theorem watch {s : Selector} (h : s.Sound) : s.watch.1.Sound := by
  unfold Selector.watch
  split
  · exact ⟨h.subscribed, h.noStray, h.polls⟩
  · exact h

theorem connect {s : Selector} (h : s.Sound) : s.connect.1.Sound := by
  unfold Selector.connect
  split
  · next c hc => exact h.withPush (by rw [Push.Channel.connect_active]; exact h.subscribed c hc)
  · exact h

/-- A subscription that follows no other one. -/
theorem subscribe {s : Selector} (h : s.Sound) (hidle : s.active = none) (taskId : String) :
    (s.subscribe taskId).1.Sound := by
  have hpolls : s.poll.Polls (some taskId) := by
    intro i hi
    obtain ⟨_, _, ha⟩ := h.polls i hi
    rw [hidle] at ha
    cases ha
  unfold Selector.subscribe
  dsimp only
  split
  · next hnone =>
    exact ⟨fun c hc => by simp [startPoll, hnone] at hc,
      Polling.Channel.start_noStray h.noStray taskId, Polling.Channel.start_polls _ taskId⟩
  · next c hc =>
    split
    · exact ⟨by rintro _ ⟨rfl⟩; simp, h.noStray, hpolls⟩
    · exact ⟨by rintro _ ⟨rfl⟩; simp [startPoll],
        Polling.Channel.start_noStray h.noStray taskId, Polling.Channel.start_polls _ taskId⟩

theorem unsubscribe {s : Selector} (h : s.Sound) : s.unsubscribe.Sound where
  subscribed := by
    intro c hc
    obtain ⟨c₀, _, rfl⟩ := Option.map_eq_some_iff.mp hc
    rfl
  noStray := Polling.Channel.stop_noStray h.noStray
  polls := Polling.Channel.stop_polls _ _

theorem leave {s : Selector} (h : s.Sound) : s.leave.Sound where
  subscribed := by
    intro c hc
    obtain ⟨c₀, hc₀, rfl⟩ := Option.map_eq_some_iff.mp hc
    exact h.subscribed c₀ hc₀
  noStray := Polling.Channel.retire_noStray _
  polls := Polling.Channel.retire_polls h.polls

theorem stopPoll {s : Selector} (h : s.Sound) : ({ s with poll := s.poll.stop } : Selector).Sound :=
  h.withPoll (Polling.Channel.stop_noStray h.noStray) (Polling.Channel.stop_polls _ _)

theorem runWatcher {s : Selector} (h : s.Sound) (k : Nat) : (s.runWatcher k).Sound := by
  unfold Selector.runWatcher
  split
  · exact ⟨h.subscribed, h.noStray, h.polls⟩
  · split
    · unfold Selector.failOver
      split
      · exact ⟨h.subscribed, h.noStray, h.polls⟩
      · next taskId ha =>
        split
        · refine ⟨h.subscribed, Polling.Channel.start_noStray h.noStray taskId, ?_⟩
          have hstart := Polling.Channel.start_polls s.poll taskId
          simpa [startPoll, updateWatcher, show s.active = some taskId from ha] using hstart
        · exact ⟨h.subscribed, h.noStray, h.polls⟩
    · exact h

/-- The connect cycle hands nothing on without a subscription. -/
theorem quiet_run {s : Selector} (h : s.Sound) (hidle : s.active = none) {c : Push.Channel}
    (hc : s.push = some c) (now : Nat) : Push.Channel.deliveries (c.run now).2 = [] :=
  Push.Channel.deliveries_run ((h.subscribed c hc).trans hidle) now

/-- No request delivers anything without a subscription. -/
theorem quiet_answer {s : Selector} (h : s.Sound) (hidle : s.active = none) (i : Nat)
    (receiving : Bool) (result : Except TransportFailure Snapshot) :
    (s.poll.answer i receiving result).2 = [] :=
  Polling.Channel.deliveries_answer h.noStray (hidle ▸ h.polls) i receiving result

/-- A loop that runs polls the active task. -/
theorem currentTask {s : Selector} (h : s.Sound) {taskId : String}
    (hcur : s.poll.currentTask = some taskId) : s.active = some taskId := by
  simp only [Polling.Channel.currentTask, Polling.Channel.activeLoop, Option.map_eq_some_iff,
    Option.filter_eq_some_iff, Option.bind_eq_some_iff] at hcur
  obtain ⟨l, ⟨⟨i, hi, hl⟩, _⟩, rfl⟩ := hcur
  obtain ⟨l', hl', ha⟩ := h.polls i hi
  rw [hl] at hl'
  cases hl'
  exact ha

/-- A loop that still polls does so for the active subscription. -/
theorem active_of_isLive {s : Selector} (h : s.Sound) {l : Polling.Loop} (hl : l ∈ s.poll.loops)
    (hlive : l.isLive = true) : s.active = some l.taskId := by
  obtain ⟨i, hi⟩ := List.mem_iff_getElem?.mp hl
  by_cases hactive : s.poll.active = some i
  · obtain ⟨l', hl', hs⟩ := h.polls i hactive
    rw [hi] at hl'
    cases hl'
    exact hs
  · have hcancelled := h.noStray i l hi hactive
    simp [Polling.Loop.isLive, hcancelled] at hlive

/-- Nothing is polled without a subscription. -/
theorem isRunning_eq_false {s : Selector} (h : s.Sound) (hidle : s.active = none) :
    s.poll.isRunning = false := by
  have hnone : s.poll.active = none := by
    cases hp : s.poll.active with
    | none => rfl
    | some i =>
      obtain ⟨_, _, ha⟩ := h.polls i hp
      rw [hidle] at ha
      cases ha
  simp [Polling.Channel.isRunning, Polling.Channel.activeLoop, hnone]

end Sound

end Selector

end TaskTracking
