import TaskTracking.Proofs.Wiring

/-! # Attention to the channels

  While the page stays, a subscribed task is attended to:

  - An open connection was last told the active task, or is about to be.
  - A poll loop stops itself only with a terminal status that it took.
  - If nobody polls, push is not closed, or a watcher has yet to see that it is.

  The first two are invariants of a wiring (`Wiring.Attended`) that every move keeps on
  a page that stays (`Wiring.Moves.attended`). The third (`Wiring.Covered`) needs more:
  the watchers begin with what push is then, so the background jobs must not be started
  while a subscription is left to push alone (`Wiring.Moves.covered`).
-/

namespace TaskTracking

/-! ### The connection is told the active task -/

namespace Push.Channel

variable {c : Channel} {accepted : Nat} {frames : List (Nat × String)} {now : Nat}

/-- **Invariant.** The channel is not shut down, and the last frame that is written
    on an open connection, or is to be, subscribes to the active task. -/
structure Spoken (c : Channel) (accepted : Nat) (frames : List (Nat × String)) : Prop where
  unshut : c.shut = false
  told : ∀ link, c.cycle = .connected link → link.number < accepted ∧
    ∀ taskId, c.active = some taskId →
      (onConnection frames link.number ++ link.outgoing).getLast? = some (subscribeFrame taskId)

/-- Nothing is said about a channel without a connection. -/
theorem Spoken.of_closed (hunshut : c.shut = false) (hclosed : ∀ link, c.cycle ≠ .connected link) :
    c.Spoken accepted frames :=
  ⟨hunshut, fun link hlink => absurd hlink (hclosed link)⟩

theorem Spoken.connect (h : c.Spoken accepted frames) : c.connect.1.Spoken accepted frames := by
  unfold Channel.connect
  split
  · split
    · exact h
    · exact .of_closed h.unshut nofun
  · exact h

theorem Spoken.subscribe (h : c.Spoken accepted frames) (taskId : String) :
    (c.subscribe taskId).1.Spoken accepted frames := by
  unfold Channel.subscribe
  dsimp only
  split
  · next link hlink =>
    refine ⟨h.unshut, ?_⟩
    rintro _ ⟨rfl⟩
    refine ⟨(h.told link hlink).1, ?_⟩
    rintro _ ⟨rfl⟩
    rw [← List.append_assoc]
    exact List.getLast?_concat
  · next hclosed => exact .of_closed h.unshut fun link hlink => hclosed link hlink

theorem Spoken.unsubscribe (h : c.Spoken accepted frames) :
    c.unsubscribe.Spoken accepted frames :=
  ⟨h.unshut, fun link hlink => ⟨(h.told link hlink).1, nofun⟩⟩

theorem Spoken.onLink (h : c.Spoken accepted frames) {f : Link → Link}
    (hnumber : ∀ l, (f l).number = l.number) (houtgoing : ∀ l, (f l).outgoing = l.outgoing) :
    (c.onLink f).Spoken accepted frames := by
  unfold Channel.onLink
  split
  · next link hlink =>
    refine ⟨h.unshut, ?_⟩
    rintro _ ⟨rfl⟩
    rw [hnumber, houtgoing]
    exact h.told link hlink
  · exact h

/-! #### Turns of the cycle -/

theorem fall_shut (c : Channel) (now : Nat) : (c.fall now).shut = c.shut := by
  unfold fall
  dsimp only
  split <;> rfl

theorem fall_closed (c : Channel) (now : Nat) (link : Link) :
    (c.fall now).cycle ≠ .connected link := by
  unfold fall
  dsimp only
  split <;> nofun

theorem attempt_spoken (hunshut : c.shut = false) : c.attempt.1.Spoken accepted frames := by
  unfold attempt
  rw [hunshut]
  exact .of_closed rfl nofun

/-- A frame that is sent was the next one to be written. -/
theorem Spoken.pump (h : c.Spoken accepted frames) {link : Link}
    (hlink : c.cycle = .connected link) :
    (c.pump now link).1.Spoken accepted (frames ++ written (c.pump now link).2) := by
  have hfall : ∀ frames', (c.fall now).Spoken accepted frames' := fun _ =>
    .of_closed ((fall_shut c now).trans h.unshut) (fall_closed c now)
  obtain ⟨hnumber, htold⟩ := h.told link hlink
  unfold Channel.pump
  split
  · next frame rest _ houtgoing =>
    split
    · exact hfall _
    · refine ⟨h.unshut, ?_⟩
      rintro _ ⟨rfl⟩
      refine ⟨hnumber, fun taskId hactive => ?_⟩
      have hlast := htold taskId hactive
      rw [houtgoing] at hlast
      simpa [onConnection, written] using hlast
  · next frame rest houtgoing _ =>
    rw [written_dispatch, List.append_nil]
    refine ⟨h.unshut, ?_⟩
    rintro _ ⟨rfl⟩
    exact ⟨hnumber, htold⟩
  · exact hfall _
  · exact hfall _
  · rw [show written [] = [] from rfl, List.append_nil]
    exact h

theorem Spoken.run (h : c.Spoken accepted frames) (now : Nat) :
    (c.run now).1.Spoken accepted (frames ++ written (c.run now).2) := by
  have hsame : c.Spoken accepted (frames ++ written []) := by
    rw [show written [] = [] from rfl, List.append_nil]
    exact h
  unfold Channel.run
  split
  · exact hsame
  · exact attempt_spoken h.unshut
  · rw [h.unshut]
    exact hsame
  · next link hlink =>
    rw [h.unshut]
    exact h.pump hlink
  · rw [h.unshut]
    simp only [Bool.false_eq_true, ↓reduceIte]
    split
    · exact attempt_spoken h.unshut
    · exact hsame

/-- Frames are written only on connections that were accepted. -/
theorem written_lt (h : c.Spoken accepted frames) (now : Nat) :
    ∀ f ∈ written (c.run now).2, f.1 < accepted := by
  unfold run
  split
  · nofun
  · rw [written_attempt]
    nofun
  · split <;> nofun
  · -- A frame goes out on the connection that is there, and that one was accepted.
    next link hlink =>
    rw [h.unshut]
    simp only [Bool.false_eq_true, ↓reduceIte]
    unfold pump
    split
    · split
      · nofun
      · intro f hf
        have heq : f = (link.number, _) := List.mem_singleton.mp hf
        rw [heq]
        exact (h.told link hlink).1
    · rw [written_dispatch]
      nofun
    · nofun
    · nofun
    · nofun
  · split
    · nofun
    · split
      · rw [written_attempt]
        nofun
      · nofun

/-- A new connection is told the active task first. -/
theorem Spoken.opened (h : c.Spoken accepted frames) (hframes : ∀ f ∈ frames, f.1 < accepted)
    (now : Nat) : (c.attempted now (.ok accepted)).Spoken (accepted + 1) frames := by
  unfold attempted
  split
  · rw [h.unshut]
    refine ⟨rfl, ?_⟩
    rintro _ ⟨rfl⟩
    refine ⟨Nat.lt_succ_self accepted, fun taskId hactive => ?_⟩
    have hnone : onConnection frames accepted = [] := by
      unfold onConnection
      rw [List.map_eq_nil_iff, List.filter_eq_nil_iff]
      intro f hf
      have hlt := hframes f hf
      simp only [decide_eq_true_eq]
      omega
    have hactive' : c.active = some taskId := hactive
    rw [hnone, hactive']
    rfl
  · refine ⟨h.unshut, fun link hlink => ?_⟩
    obtain ⟨hnumber, htold⟩ := h.told link hlink
    exact ⟨Nat.lt_succ_of_lt hnumber, htold⟩

theorem Spoken.refused (h : c.Spoken accepted frames) (now : Nat) (failure : TransportFailure) :
    (c.attempted now (.error failure)).Spoken accepted frames := by
  unfold attempted
  split
  · rw [h.unshut]
    exact .of_closed ((fall_shut c now).trans h.unshut) (fall_closed c now)
  · exact h

/-! ### Others see that the channel closes -/

/-- The channel has not closed unnoticed: its visible state was written, or it is
    closed only if it was before. -/
def Shows (c c' : Channel) : Prop :=
  c.version < c'.version ∨ c'.version = c.version ∧ (c'.phase = .closed → c.phase = .closed)

theorem Shows.refl (c : Channel) : c.Shows c := .inr ⟨rfl, id⟩

theorem Shows.version_le {c c' : Channel} (h : c.Shows c') : c.version ≤ c'.version := by
  rcases h with hlt | ⟨heq, _⟩
  · exact Nat.le_of_lt hlt
  · exact Nat.le_of_eq heq.symm

theorem shows_connect (c : Channel) : c.Shows c.connect.1 := by
  unfold connect
  split
  · next hcycle =>
    have hphase : c.phase = .closed := by
      unfold phase
      rw [hcycle]
    split
    · exact .refl c
    · exact .inr ⟨rfl, fun _ => hphase⟩
  · exact .refl c

theorem shows_subscribe (c : Channel) (taskId : String) : c.Shows (c.subscribe taskId).1 := by
  unfold subscribe
  dsimp only
  split
  · exact .inr ⟨rfl, nofun⟩
  · exact .inr ⟨rfl, id⟩

theorem shows_onLink (c : Channel) (f : Link → Link) : c.Shows (c.onLink f) := by
  unfold onLink
  split
  · exact .inr ⟨rfl, nofun⟩
  · exact .refl c

theorem shows_attempt (c : Channel) : c.Shows c.attempt.1 := by
  left
  unfold attempt
  split
  · change c.version < c.version + 1 + 1
    omega
  · exact Nat.lt_succ_self c.version

theorem shows_fall (c : Channel) (now : Nat) : c.Shows (c.fall now) := by
  left
  unfold fall
  dsimp only
  split <;> exact Nat.lt_succ_self c.version

theorem shows_run (hunshut : c.shut = false) (now : Nat) : c.Shows (c.run now).1 := by
  unfold run
  split
  · exact .refl c
  · exact shows_attempt c
  · rw [hunshut]
    exact .refl c
  · next link _ =>
    rw [hunshut]
    simp only [Bool.false_eq_true, ↓reduceIte]
    unfold pump
    split
    · split
      · exact shows_fall c now
      · exact .inr ⟨rfl, nofun⟩
    · exact .inr ⟨rfl, nofun⟩
    · exact shows_fall c now
    · exact shows_fall c now
    · exact .refl c
  · rw [hunshut]
    simp only [Bool.false_eq_true, ↓reduceIte]
    split
    · exact shows_attempt c
    · exact .refl c

theorem shows_attempted (c : Channel) (now : Nat) (result : Except TransportFailure Nat) :
    c.Shows (c.attempted now result) := by
  unfold attempted
  split
  · split
    · exact .inl (Nat.lt_succ_self c.version)
    · split
      · exact .inl (Nat.lt_succ_self c.version)
      · exact shows_fall c now
  · exact .refl c

/-- The server is told a task at once over an open connection. -/
theorem phase_subscribe {taskId : String} (h : (c.subscribe taskId).2 = true) :
    (c.subscribe taskId).1.phase = .open := by
  revert h
  unfold subscribe
  dsimp only
  split
  · exact fun _ => rfl
  · nofun

end Push.Channel

/-! ### A loop stops itself only with a terminal status -/

namespace Polling

variable {l : Loop} {c : Channel} {stopped : List Nat}

/-- A loop that has returned was cancelled. -/
def Loop.Returned (l : Loop) : Prop := l.ended = true → l.cancelled = true

theorem Loop.Returned.run (h : l.Returned) {interval : Nat} (hinterval : 0 < interval)
    (now : Nat) : (l.run interval now).Returned := by
  unfold Loop.run
  split
  · next hcancelled => exact fun _ => hcancelled
  · split
    · rw [if_neg (Nat.ne_of_gt hinterval)]
      exact h
    · split
      · exact h
      · dsimp only
        split <;> exact h

theorem Loop.Returned.runRequest (h : l.Returned) : l.runRequest.1.Returned := by
  unfold Loop.runRequest
  split
  · dsimp only
    split <;> exact h
  · split <;> exact h
  · exact h

/-- A loop whose answers are received is cancelled by a terminal one. -/
theorem Loop.answer_cancelled (l : Loop) (threshold : Nat)
    (result : Except TransportFailure Snapshot) :
    (l.answer threshold true result).1.cancelled = (l.cancelled || Loop.isLast result) := by
  unfold Loop.answer Loop.isLast
  cases hcancelled : l.cancelled with
  | true => simp
  | false => cases result <;> simp

theorem Loop.answer_ended (l : Loop) (threshold : Nat) (receiving : Bool)
    (result : Except TransportFailure Snapshot) :
    (l.answer threshold receiving result).1.ended = l.ended := by
  unfold Loop.answer
  dsimp only
  split
  · rfl
  · split <;> rfl

theorem Loop.Returned.answer (h : l.Returned) (threshold : Nat)
    (result : Except TransportFailure Snapshot) : (l.answer threshold true result).1.Returned := by
  intro hended
  rw [Loop.answer_ended] at hended
  rw [Loop.answer_cancelled, h hended, Bool.true_or]

namespace Channel

/-- **Invariant.** The channel's owner stays, every loop that has returned was
    cancelled, and the current loop is cancelled just if it took a terminal status. -/
structure Intact (c : Channel) (stopped : List Nat) : Prop where
  kept : c.retired = false
  ticks : 0 < c.interval
  returned : ∀ (i : Nat) l, c.loops[i]? = some l → l.Returned
  current : ∀ i, c.active = some i → ∃ l, c.loops[i]? = some l ∧
    (l.cancelled = true → i ∈ stopped)
  stopped : ∀ i ∈ stopped, ∃ l, c.loops[i]? = some l ∧ l.cancelled = true

/-- A change of one loop, which is cancelled if the change is its `last`. -/
theorem Intact.update (h : c.Intact stopped) {i : Nat} {f : Loop → Loop} {last : Bool}
    (hf : ∀ l, c.loops[i]? = some l → l.Returned →
      (f l).Returned ∧ (f l).cancelled = (l.cancelled || last))
    (hlast : last = true → (c.loops[i]?).isSome = true) :
    (c.update i f).Intact (stopped ++ if last then [i] else []) := by
  -- Each part is the change's own business for loop `i`, and untouched for the others.
  refine ⟨h.kept, h.ticks, fun j l hl => ?_, fun j hj => ?_, fun j hj => ?_⟩
  · rw [update_loops] at hl
    split at hl
    · next hij =>
      subst hij
      obtain ⟨l₀, hl₀, rfl⟩ := Option.map_eq_some_iff.mp hl
      exact (hf l₀ hl₀ (h.returned i l₀ hl₀)).1
    · exact h.returned j l hl
  · obtain ⟨l, hl, hstopped⟩ := h.current j hj
    rw [update_loops]
    split
    · next hij =>
      subst hij
      refine ⟨f l, by rw [hl]; rfl, fun hcancelled => ?_⟩
      rw [(hf l hl (h.returned i l hl)).2, Bool.or_eq_true] at hcancelled
      rcases hcancelled with hcancelled | htrue
      · exact List.mem_append_left _ (hstopped hcancelled)
      · exact List.mem_append_right _ (by simp [htrue])
    · exact ⟨l, hl, fun hcancelled => List.mem_append_left _ (hstopped hcancelled)⟩
  · have hcancelled : ∃ l, c.loops[j]? = some l ∧ (l.cancelled = true ∨ i = j ∧ last = true) := by
      rcases List.mem_append.mp hj with hj | hj
      · obtain ⟨l, hl, hl'⟩ := h.stopped j hj
        exact ⟨l, hl, .inl hl'⟩
      · split at hj
        · next htrue =>
          cases List.mem_singleton.mp hj
          obtain ⟨l, hl⟩ := Option.isSome_iff_exists.mp (hlast htrue)
          exact ⟨l, hl, .inr ⟨rfl, htrue⟩⟩
        · cases hj
    obtain ⟨l, hl, hl'⟩ := hcancelled
    rw [update_loops]
    split
    · next hij =>
      subst hij
      refine ⟨f l, by rw [hl]; rfl, ?_⟩
      rw [(hf l hl (h.returned i l hl)).2, Bool.or_eq_true]
      exact hl'.imp id And.right
    · next hij => exact ⟨l, hl, hl'.resolve_right fun heq => hij heq.1⟩

/-- A change of one loop that leaves it as cancelled as it was. -/
theorem Intact.update_plain (h : c.Intact stopped) {i : Nat} {f : Loop → Loop}
    (hf : ∀ l, c.loops[i]? = some l → l.Returned →
      (f l).Returned ∧ (f l).cancelled = l.cancelled) : (c.update i f).Intact stopped := by
  have hupdate : (c.update i f).Intact (stopped ++ if false then [i] else []) :=
    h.update (fun l hl hreturned => by rw [Bool.or_false]; exact hf l hl hreturned) nofun
  simpa using hupdate

theorem Intact.stop (h : c.Intact stopped) : c.stop.Intact stopped := by
  unfold Channel.stop
  split
  · next k hk =>
    refine ⟨h.kept, h.ticks, fun j l hl => ?_, nofun, fun j hj => ?_⟩
    · change (c.update k _).loops[j]? = some l at hl
      rw [update_loops] at hl
      split at hl
      · obtain ⟨l₀, _, rfl⟩ := Option.map_eq_some_iff.mp hl
        exact fun _ => rfl
      · exact h.returned j l hl
    · obtain ⟨l, hl, hl'⟩ := h.stopped j hj
      change ∃ l, (c.update k _).loops[j]? = some l ∧ l.cancelled = true
      rw [update_loops]
      split
      · exact ⟨{ l with cancelled := true }, by rw [hl]; rfl, rfl⟩
      · exact ⟨l, hl, hl'⟩
  · exact h

/-- A new loop lives. -/
theorem Intact.start (h : c.Intact stopped) (taskId : String) :
    (c.start taskId).1.Intact stopped := by
  unfold Channel.start
  split
  · exact h
  · have hstop := h.stop
    refine ⟨hstop.kept, hstop.ticks, fun j l hl => ?_, ?_, fun j hj => ?_⟩
    · dsimp only at hl
      rw [List.getElem?_append] at hl
      split at hl
      · exact hstop.returned j l hl
      · have hmem := List.mem_of_getElem? hl
        rw [List.mem_singleton.mp hmem]
        nofun
    · rintro i ⟨rfl⟩
      refine ⟨{ taskId, cancelled := c.stop.retired }, by simp, fun hcancelled => ?_⟩
      have hkept := hstop.kept
      rw [show c.stop.retired = true from hcancelled] at hkept
      cases hkept
    · obtain ⟨l, hl, hl'⟩ := hstop.stopped j hj
      refine ⟨l, ?_, hl'⟩
      have hlt : j < c.stop.loops.length := (List.getElem?_eq_some_iff.mp hl).1
      dsimp only
      rw [List.getElem?_append_left hlt]
      exact hl

theorem Intact.runLoop (h : c.Intact stopped) (now i : Nat) :
    (c.runLoop now i).Intact stopped :=
  h.update_plain fun l _ hreturned =>
    ⟨hreturned.run h.ticks now, Loop.run_cancelled c.interval now l⟩

theorem Intact.runRequest (h : c.Intact stopped) (i : Nat) :
    (c.runRequest i).1.Intact stopped := by
  unfold Channel.runRequest
  split
  · next l hl =>
    refine h.update_plain fun l₀ hl₀ hreturned => ?_
    rw [hl] at hl₀
    cases hl₀
    exact ⟨hreturned.runRequest, Loop.runRequest_cancelled l⟩
  · exact h

/-- A terminal status stops its loop. -/
theorem Intact.answer (h : c.Intact stopped) {i : Nat} (hl : c.loops[i]? = some l)
    (hsent : l.request = some .sent) (result : Except TransportFailure Snapshot) :
    (c.answer i true result).1.Intact (stopped ++ if Loop.isLast result then [i] else []) := by
  unfold Channel.answer
  rw [hl]
  dsimp only
  rw [if_pos hsent]
  refine h.update (fun l₀ hl₀ hreturned => ?_) fun _ => by rw [hl]; rfl
  rw [hl] at hl₀
  cases hl₀
  exact ⟨hreturned.answer c.threshold result, Loop.answer_cancelled l c.threshold result⟩

@[simp] theorem runRequest_active (c : Channel) (i : Nat) :
    (c.runRequest i).1.active = c.active := by
  unfold Channel.runRequest
  split <;> rfl

@[simp] theorem answer_active (c : Channel) (i : Nat) (receiving : Bool)
    (result : Except TransportFailure Snapshot) :
    (c.answer i receiving result).1.active = c.active := by
  unfold Channel.answer
  split
  · split <;> rfl
  · rfl

/-- There is a current loop once polling was started. -/
theorem start_active (c : Channel) (taskId : String) : (c.start taskId).1.active ≠ none := by
  unfold Channel.start
  split
  · next hcurrent =>
    intro hnone
    simp [currentTask, activeLoop, show c.active = none from hnone] at hcurrent
  · exact Option.some_ne_none _

end Channel

end Polling

/-! ### Watchers see that push has closed -/

namespace Selector

variable {s : Selector} {begun : Bool}

/-- A watcher changes neither push nor the subscription, and starts a loop at most. -/
theorem runWatcher_spec (s : Selector) (k : Nat) :
    (s.runWatcher k).push = s.push ∧ (s.runWatcher k).active = s.active ∧
      ((s.runWatcher k).poll = s.poll ∨
        ∃ taskId, (s.runWatcher k).poll = (s.poll.start taskId).1) := by
  unfold Selector.runWatcher failOver
  split
  · exact ⟨rfl, rfl, .inl rfl⟩
  · split
    · split
      · exact ⟨rfl, rfl, .inl rfl⟩
      · next taskId _ =>
        split
        · exact ⟨rfl, rfl, .inr ⟨taskId, rfl⟩⟩
        · exact ⟨rfl, rfl, .inl rfl⟩
    · exact ⟨rfl, rfl, .inl rfl⟩

/-- A change of the push channel, if there is one. -/
theorem mapPush_cases (s : Selector) (f : Push.Channel → Push.Channel) :
    ({ s with push := s.push.map f } : Selector) = s ∨
      ∃ c, s.push = some c ∧
        ({ s with push := s.push.map f } : Selector) = { s with push := some (f c) } := by
  cases hpush : s.push with
  | none => exact .inl (by rw [Option.map_none, ← hpush])
  | some c => exact .inr ⟨c, rfl, rfl⟩

/-- Push is not closed, or a watcher has yet to see that it is. -/
def Watched (s : Selector) : Prop :=
  ∃ c, s.push = some c ∧ (c.phase = .closed → ∃ w ∈ s.watchers, w.seen ≠ c.version)

/-- Nobody was set to poll for the subscription. -/
def Unpolled (s : Selector) : Prop := s.active ≠ none ∧ s.poll.active = none

instance (s : Selector) : Decidable s.Unpolled := by
  unfold Unpolled
  infer_instance

/-- A task that is polled for is not unpolled. -/
theorem not_unpolled_of_start {poll : Polling.Channel} {taskId : String}
    (hpoll : s.poll = (poll.start taskId).1) : ¬ s.Unpolled := by
  rintro ⟨_, hnone⟩
  rw [hpoll] at hnone
  exact Polling.Channel.start_active poll taskId hnone

/-- **Invariant.** The page stays, the push channel has the selector's subscription, and
    the watchers work. -/
structure Attended (begun : Bool) (s : Selector) : Prop where
  stays : s.left = false
  subscribed : ∀ c, s.push = some c → c.active = s.active
  watchers : s.push.isSome = true → begun = true → s.watchers ≠ []
  seen : ∀ c, s.push = some c → ∀ w ∈ s.watchers, w.seen ≤ c.version
  working : ∀ w ∈ s.watchers, w.ended = false

namespace Attended

/-- A push channel whose closing is seen. -/
theorem withPush (h : s.Attended begun) {c c' : Push.Channel} (hpush : s.push = some c)
    (hshows : c.Shows c') (hactive : c'.active = c.active) :
    ({ s with push := some c' } : Selector).Attended begun := by
  refine ⟨h.stays, ?_, fun _ => h.watchers (by rw [hpush]; rfl), ?_, h.working⟩
  · rintro _ ⟨rfl⟩
    rw [hactive]
    exact h.subscribed c hpush
  · rintro _ ⟨rfl⟩ w hw
    exact Nat.le_trans (h.seen c hpush w hw) hshows.version_le

theorem watch (h : s.Attended false) : s.watch.1.Attended true := by
  unfold Selector.watch
  split
  · next c hpush =>
    refine ⟨h.stays, h.subscribed, fun _ _ => by simp, fun c' hc' w hw => ?_, fun w hw => ?_⟩
    · rcases List.mem_append.mp hw with hw | hw
      · exact h.seen c' hc' w hw
      · rw [List.mem_singleton.mp hw]
        have heq : some c = some c' := hpush.symm.trans hc'
        cases heq
        exact Nat.le_refl c.version
    · rcases List.mem_append.mp hw with hw | hw
      · exact h.working w hw
      · rw [List.mem_singleton.mp hw]
  · next hpush =>
    refine ⟨h.stays, h.subscribed, fun hsome => ?_, h.seen, h.working⟩
    rw [hpush] at hsome
    cases hsome

theorem connect (h : s.Attended begun) : s.connect.1.Attended begun := by
  unfold Selector.connect
  split
  · next c hpush =>
    exact h.withPush hpush (Push.Channel.shows_connect c) (Push.Channel.connect_active c)
  · exact h

theorem unsubscribe (h : s.Attended begun) : s.unsubscribe.Attended begun := by
  refine ⟨h.stays, ?_, ?_, ?_, h.working⟩
  · intro c hc
    obtain ⟨c₀, _, rfl⟩ := Option.map_eq_some_iff.mp hc
    rfl
  · intro hsome
    exact h.watchers (by simpa [Selector.unsubscribe] using hsome)
  · intro c hc
    obtain ⟨c₀, hc₀, rfl⟩ := Option.map_eq_some_iff.mp hc
    exact h.seen c₀ hc₀

/-- A changed watcher is one of those that there were. -/
theorem mem_modify {ws : List Watcher} {k : Nat} {f : Watcher → Watcher} {w : Watcher}
    (h : w ∈ ws.modify k f) : w ∈ ws ∨ ∃ w₀ ∈ ws, w = f w₀ := by
  obtain ⟨i, hi⟩ := List.mem_iff_getElem?.mp h
  rw [List.getElem?_modify] at hi
  obtain ⟨w₀, hw₀, rfl⟩ := Option.map_eq_some_iff.mp hi
  have hmem := List.mem_of_getElem? hw₀
  split
  · exact .inr ⟨w₀, hmem, rfl⟩
  · exact .inl hmem

/-- A watcher sees push as it is. -/
theorem look (h : s.Attended begun) {c : Push.Channel} (hpush : s.push = some c) (k : Nat)
    (poll : Polling.Channel) :
    ({ s.updateWatcher k (fun w => { w with seen := c.version }) with poll } :
      Selector).Attended begun := by
  refine ⟨h.stays, h.subscribed, fun hsome hbegun => ?_, fun c' hc' w hw => ?_, fun w hw => ?_⟩
  · have hne := h.watchers hsome hbegun
    simpa [updateWatcher] using hne
  · have heq : some c = some c' := hpush.symm.trans hc'
    cases heq
    rcases mem_modify hw with hw | ⟨w₀, _, rfl⟩
    · exact h.seen c hpush w hw
    · exact Nat.le_refl c.version
  · rcases mem_modify hw with hw | ⟨w₀, hw₀, rfl⟩
    · exact h.working w hw
    · exact h.working w₀ hw₀

theorem runWatcher (h : s.Attended begun) (k : Nat) : (s.runWatcher k).Attended begun := by
  unfold Selector.runWatcher
  rw [h.stays]
  simp only [Bool.false_eq_true, ↓reduceIte]
  split
  · next c hpush =>
    unfold failOver
    split
    · exact h.look hpush k s.poll
    · split <;> exact h.look hpush k _
  · exact h

/-- Push takes a new subscription if it is open; else it is brought up. -/
theorem subscribe (h : s.Attended begun) (taskId : String) :
    (s.subscribe taskId).1.Attended begun := by
  unfold Selector.subscribe
  dsimp only
  split
  · next hnone =>
    refine ⟨h.stays, fun c hc => ?_, h.watchers, h.seen, h.working⟩
    have heq : none = some c := hnone.symm.trans hc
    cases heq
  · next c hpush =>
    have hsubscribed := Push.Channel.subscribe_active c taskId
    have hseen : ∀ c', c.Shows c' → ∀ w ∈ s.watchers, w.seen ≤ c'.version := fun c' hshows w hw =>
      Nat.le_trans (h.seen c hpush w hw) hshows.version_le
    have hshows := Push.Channel.shows_subscribe c taskId
    have hwatchers : begun = true → s.watchers ≠ [] := h.watchers (by rw [hpush]; rfl)
    split
    · refine ⟨h.stays, ?_, fun _ => hwatchers, ?_, h.working⟩
      · rintro _ ⟨rfl⟩
        exact hsubscribed
      · rintro _ ⟨rfl⟩
        exact hseen _ hshows
    · refine ⟨h.stays, ?_, fun _ => hwatchers, ?_, h.working⟩
      · rintro _ ⟨rfl⟩
        rw [Push.Channel.connect_active]
        exact hsubscribed
      · rintro _ ⟨rfl⟩ w hw
        have hle := hseen _ hshows w hw
        exact Nat.le_trans hle (Push.Channel.shows_connect _).version_le

end Attended

/-! #### Push is watched while nobody polls -/

/-- Push that was not closed unseen is not so after a change that shows. -/
theorem Watched.withPush (h : s.Watched) (hs : s.Attended begun) (hbegun : begun = true)
    {c c' : Push.Channel} (hpush : s.push = some c) (hshows : c.Shows c') :
    ({ s with push := some c' } : Selector).Watched := by
  refine ⟨c', rfl, fun hclosed => ?_⟩
  rcases hshows with hlt | ⟨heq, hphase⟩
  · have hne : s.watchers ≠ [] := hs.watchers (by rw [hpush]; rfl) hbegun
    obtain ⟨w, hw⟩ := List.exists_mem_of_ne_nil _ hne
    have hle := hs.seen c hpush w hw
    exact ⟨w, hw, by omega⟩
  · obtain ⟨c₀, hc₀, hwatched⟩ := h
    obtain rfl := Option.some.inj (hpush.symm.trans hc₀)
    rw [heq]
    exact hwatched (hphase hclosed)

/-- **Invariant.** Once the background jobs were started, push is watched if nobody
    polls for the subscription. -/
def Covered (begun : Bool) (s : Selector) : Prop := begun = true → s.Unpolled → s.Watched

namespace Covered

theorem withPush (h : s.Covered begun) (hs : s.Attended begun) {c c' : Push.Channel}
    (hpush : s.push = some c) (hshows : c.Shows c') :
    ({ s with push := some c' } : Selector).Covered begun :=
  fun hbegun hidle => (h hbegun hidle).withPush hs hbegun hpush hshows

/-- The watchers begin where nothing is left to the push channel alone. -/
theorem watch (hpolled : ¬ s.Unpolled) : s.watch.1.Covered true := by
  unfold Selector.watch
  split <;> exact fun _ hidle => absurd hidle hpolled

theorem connect (h : s.Covered begun) (hs : s.Attended begun) : s.connect.1.Covered begun := by
  unfold Selector.connect
  split
  · next c hpush => exact h.withPush hs hpush (Push.Channel.shows_connect c)
  · exact h

/-- A watcher that runs polls if push is closed. -/
theorem runWatcher (h : s.Covered begun) (hs : s.Attended begun) (k : Nat) :
    (s.runWatcher k).Covered begun := by
  unfold Selector.runWatcher
  rw [hs.stays]
  simp only [Bool.false_eq_true, ↓reduceIte]
  split
  · next c hpush =>
    unfold failOver
    split
    · next hidle => exact fun _ hunpolled => absurd hidle hunpolled.1
    · next taskId _ =>
      split
      · exact fun _ hidle => absurd hidle (not_unpolled_of_start rfl)
      · next hopen =>
        refine fun _ hidle => ⟨c, hpush, fun hclosed => absurd ?_ hopen⟩
        have hnone : s.poll.active = none := hidle.2
        have hrest : s.poll.isRunning = false := by
          simp [Polling.Channel.isRunning, Polling.Channel.activeLoop, hnone]
        simp [updateWatcher, hclosed, hrest]
  · exact h

end Covered

/-- A new subscription goes over an open connection, or is polled. -/
theorem covered_subscribe (s : Selector) (begun : Bool) (taskId : String) :
    (s.subscribe taskId).1.Covered begun := by
  unfold Selector.subscribe
  dsimp only
  split
  · exact fun _ hidle => absurd hidle (not_unpolled_of_start rfl)
  · split
    · next htold =>
      refine fun _ _ => ⟨_, rfl, fun hclosed => ?_⟩
      rw [Push.Channel.phase_subscribe htold] at hclosed
      cases hclosed
    · exact fun _ hidle => absurd hidle (not_unpolled_of_start rfl)

end Selector

/-! ### Moves -/

namespace Wiring

variable {w w' : Wiring}

/-- A page that stays starts its background jobs where nothing is left to push alone. -/
def Rules.staying : Rules where
  starts := fun w => ¬ w.selector.Unpolled
  begins := fun _ => True
  leaves := False
  elapses := fun _ => True

/-- **Invariant.** What the channels deliver is taken, and both channels and the
    watchers attend to the subscription. -/
structure Attended (w : Wiring) : Prop where
  receiving : w.receiving = true
  accepted : ∀ f ∈ w.frames, f.1 < w.accepted
  spoken : ∀ c, w.selector.push = some c → c.Spoken w.accepted w.frames
  intact : w.selector.poll.Intact w.stopped
  selector : w.selector.Attended w.begun

namespace Attended

/-- A move that changes neither what was written nor which loops were stopped. -/
theorem of_selector (h : w.Attended) {selector : Selector}
    (hpush : ∀ c, selector.push = some c → c.Spoken w.accepted w.frames)
    (hpoll : selector.poll.Intact w.stopped) (hselector : selector.Attended w.begun) :
    ({ w with selector } : Wiring).Attended :=
  ⟨h.receiving, h.accepted, hpush, hpoll, hselector⟩

theorem startUp (h : w.Attended) (hfirst : w.begun = false) :
    ({ w with selector := w.selector.watch.1, begun := true } : Wiring).Attended := by
  have hwatch : w.selector.watch.1.Attended true := (hfirst ▸ h.selector).watch
  unfold Selector.watch at hwatch ⊢
  split at hwatch <;> exact ⟨h.receiving, h.accepted, h.spoken, h.intact, hwatch⟩

theorem connect (h : w.Attended) :
    ({ w with selector := w.selector.connect.1 } : Wiring).Attended := by
  have hconnect := h.selector.connect
  unfold Selector.connect at hconnect ⊢
  split
  · next c hpush =>
    simp only [hpush] at hconnect
    refine h.of_selector ?_ h.intact hconnect
    rintro _ ⟨rfl⟩
    exact (h.spoken c hpush).connect
  · exact h

theorem subscribe (h : w.Attended) (taskId : String) :
    ({ w with selector := (w.selector.subscribe taskId).1 } : Wiring).Attended := by
  refine h.of_selector (fun c hc => ?_) ?_ (h.selector.subscribe taskId)
  · unfold Selector.subscribe at hc
    dsimp only at hc
    split at hc
    · next hnone =>
      have heq : none = some c := hnone.symm.trans hc
      cases heq
    · next c₀ hpush =>
      have hspoken := (h.spoken c₀ hpush).subscribe taskId
      split at hc
      · cases hc
        exact hspoken
      · cases hc
        exact hspoken.connect
  · unfold Selector.subscribe
    dsimp only
    split
    · exact h.intact.start taskId
    · split
      · exact h.intact
      · exact h.intact.start taskId

theorem unsubscribe (h : w.Attended) :
    ({ w with selector := w.selector.unsubscribe } : Wiring).Attended := by
  refine h.of_selector (fun c hc => ?_) h.intact.stop h.selector.unsubscribe
  obtain ⟨c₀, hc₀, rfl⟩ := Option.map_eq_some_iff.mp hc
  exact (h.spoken c₀ hc₀).unsubscribe

theorem watch (h : w.Attended) (k : Nat) :
    ({ w with selector := w.selector.runWatcher k } : Wiring).Attended := by
  obtain ⟨hpush, _, hpoll⟩ := Selector.runWatcher_spec w.selector k
  refine h.of_selector (fun c hc => ?_) ?_ (h.selector.runWatcher k)
  · rw [hpush] at hc
    exact h.spoken c hc
  · rcases hpoll with hsame | ⟨taskId, hstart⟩
    · rw [hsame]
      exact h.intact
    · rw [hstart]
      exact h.intact.start taskId

theorem cycle (h : w.Attended) {c : Push.Channel} (hpush : w.selector.push = some c) :
    ({ w with
        selector := { w.selector with push := some (c.run w.now).1 }
        frames := w.frames ++ Push.Channel.written (c.run w.now).2 } : Wiring).Attended := by
  have hspoken := h.spoken c hpush
  refine ⟨h.receiving, fun f hf => ?_, ?_, h.intact, h.selector.withPush hpush
    (Push.Channel.shows_run hspoken.unshut w.now) (Push.Channel.run_active c w.now)⟩
  · rcases List.mem_append.mp hf with hf | hf
    · exact h.accepted f hf
    · exact Push.Channel.written_lt hspoken w.now f hf
  · rintro _ ⟨rfl⟩
    exact hspoken.run w.now

theorem opened (h : w.Attended) {c : Push.Channel} (hpush : w.selector.push = some c) :
    ({ w with
        selector := { w.selector with push := some (c.attempted w.now (.ok w.accepted)) }
        accepted := w.accepted + 1 } : Wiring).Attended := by
  refine ⟨h.receiving, fun f hf => Nat.lt_succ_of_lt (h.accepted f hf), ?_, h.intact,
    h.selector.withPush hpush (Push.Channel.shows_attempted c w.now _)
      (Push.Channel.attempted_active c w.now _)⟩
  rintro _ ⟨rfl⟩
  exact (h.spoken c hpush).opened h.accepted w.now

theorem refused (h : w.Attended) {c : Push.Channel} (failure : TransportFailure)
    (hpush : w.selector.push = some c) :
    ({ w with selector := { w.selector with push := some (c.attempted w.now (.error failure)) } } :
      Wiring).Attended := by
  refine h.of_selector ?_ h.intact (h.selector.withPush hpush
    (Push.Channel.shows_attempted c w.now _) (Push.Channel.attempted_active c w.now _))
  rintro _ ⟨rfl⟩
  exact (h.spoken c hpush).refused w.now failure

theorem link (h : w.Attended) {f : Push.Link → Push.Link} (hnumber : ∀ l, (f l).number = l.number)
    (houtgoing : ∀ l, (f l).outgoing = l.outgoing) :
    ({ w with selector := { w.selector with push := w.selector.push.map (·.onLink f) } } :
      Wiring).Attended := by
  rcases w.selector.mapPush_cases (·.onLink f) with hsame | ⟨c, hpush, hchanged⟩
  · rw [hsame]
    exact h
  · rw [hchanged]
    refine h.of_selector ?_ h.intact (h.selector.withPush hpush (Push.Channel.shows_onLink c f)
      (Push.Channel.onLink_active c f))
    rintro _ ⟨rfl⟩
    exact (h.spoken c hpush).onLink hnumber houtgoing

/-- A change of the poll channel. -/
theorem withPoll (h : w.Attended) {poll : Polling.Channel} {stopped : List Nat}
    (hpoll : poll.Intact stopped) :
    ({ w with selector := { w.selector with poll }, stopped } : Wiring).Attended :=
  ⟨h.receiving, h.accepted, h.spoken, hpoll, ⟨h.selector.stays, h.selector.subscribed,
    h.selector.watchers, h.selector.seen, h.selector.working⟩⟩

end Attended

/-- **While the page stays, every move attends to the subscription.** -/
theorem Move.attended {r : Rules} (h : Move r w w') (hstays : ¬ r.leaves) (hw : w.Attended) :
    w'.Attended := by
  cases h with
  | startUp hfirst => exact hw.startUp hfirst
  | connect => exact hw.connect
  | subscribe taskId => exact hw.subscribe taskId
  | unsubscribe => exact hw.unsubscribe
  | watch k => exact hw.watch k
  | cycle hpush => exact hw.cycle hpush
  | opened hpush => exact hw.opened hpush
  | refused failure hpush => exact hw.refused failure hpush
  | link hnumber houtgoing => exact hw.link hnumber houtgoing
  | tick i => exact hw.withPoll (hw.intact.runLoop w.now i)
  | request i => exact hw.withPoll (hw.intact.runRequest i)
  | answer i result hloop hsent =>
    have hpoll : (w.selector.poll.answer i w.receiving result).1.Intact
        (w.stopped ++ if Polling.Loop.isLast result then [i] else []) := by
      rw [hw.receiving]
      exact hw.intact.answer hloop hsent result
    exact hw.withPoll hpoll
  | quit hleft =>
    have hstay := hw.selector.stays
    rw [hleft] at hstay
    cases hstay
  | leave hleaves => exact absurd hleaves hstays
  | elapse => exact ⟨hw.receiving, hw.accepted, hw.spoken, hw.intact, hw.selector⟩

theorem Moves.attended {r : Rules} (h : Moves r w w') (hstays : ¬ r.leaves) (hw : w.Attended) :
    w'.Attended := by
  induction h with
  | refl => exact hw
  | tail _ hmove ih => exact hmove.attended hstays ih

/-- **Invariant.** Once the background jobs were started, push is watched if nobody
    polls for the subscription. -/
def Covered (w : Wiring) : Prop := w.selector.Covered w.begun

/-- **While the page stays, every move keeps push watched.** -/
theorem Move.covered {r : Rules} (h : Move r w w')
    (hstarts : ∀ w, r.starts w → ¬ w.selector.Unpolled) (hstays : ¬ r.leaves)
    (hattended : w.Attended) (hw : w.Covered) : w'.Covered := by
  have hselector := hattended.selector
  -- Push loses its watchers' attention only where it closes, and it shows that it does.
  cases h with
  | startUp _ hpolled => exact Selector.Covered.watch (hstarts w hpolled)
  | connect => exact Selector.Covered.connect hw hselector
  | subscribe taskId => exact Selector.covered_subscribe w.selector w.begun taskId
  | unsubscribe => exact fun _ hidle => absurd rfl hidle.1
  | watch k => exact Selector.Covered.runWatcher hw hselector k
  | cycle hpush =>
    exact Selector.Covered.withPush hw hselector hpush
      (Push.Channel.shows_run (hattended.spoken _ hpush).unshut w.now)
  | opened hpush | refused _ hpush =>
    exact Selector.Covered.withPush hw hselector hpush (Push.Channel.shows_attempted _ w.now _)
  | @link f =>
    rcases w.selector.mapPush_cases (·.onLink f) with hsame | ⟨c, hpush, hchanged⟩
    · rw [hsame]
      exact hw
    · rw [hchanged]
      exact Selector.Covered.withPush hw hselector hpush (Push.Channel.shows_onLink c f)
  | tick | quit | elapse => exact hw
  | request i =>
    exact fun hbegun hidle => hw hbegun ⟨hidle.1, Polling.Channel.runRequest_active _ i ▸ hidle.2⟩
  | answer i result =>
    exact fun hbegun hidle =>
      hw hbegun ⟨hidle.1, Polling.Channel.answer_active _ i _ result ▸ hidle.2⟩
  | leave hleaves => exact absurd hleaves hstays

theorem Moves.covered {r : Rules} (h : Moves r w w')
    (hstarts : ∀ w, r.starts w → ¬ w.selector.Unpolled) (hstays : ¬ r.leaves)
    (hattended : w.Attended) (hw : w.Covered) : w'.Attended ∧ w'.Covered := by
  induction h with
  | refl => exact ⟨hattended, hw⟩
  | tail _ hmove ih =>
    exact ⟨hmove.attended hstays ih.1, hmove.covered hstarts hstays ih.1 ih.2⟩

/-- A task is subscribed to only once the background jobs were started. -/
def Started (w : Wiring) : Prop := w.selector.active ≠ none → w.begun = true

/-- Only who has had the background jobs started subscribes to a task. -/
def Rules.staffed : Rules := { Rules.any with begins := fun w => w.begun = true }

theorem Move.started {r : Rules} (h : Move r w w') (hbegins : ∀ w, r.begins w → w.begun = true)
    (hw : w.Started) : w'.Started := by
  cases h with
  | startUp => exact fun _ => rfl
  | connect =>
    unfold Selector.connect
    split <;> exact hw
  | subscribe _ hbegun => exact fun _ => hbegins w hbegun
  | unsubscribe => exact fun hsub => absurd rfl hsub
  | watch k =>
    obtain ⟨_, hactive, _⟩ := Selector.runWatcher_spec w.selector k
    exact fun hsub => hw (hactive ▸ hsub)
  | _ => exact hw

theorem Moves.started {r : Rules} (h : Moves r w w') (hbegins : ∀ w, r.begins w → w.begun = true)
    (hw : w.Started) : w'.Started := by
  induction h with
  | refl => exact hw
  | tail _ hmove ih => exact hmove.started hbegins ih

end Wiring

/-! ### Nothing is missed in time -/

namespace Push.Channel

variable {c : Channel} {now : Nat}

/-- Whoever sees the channel now sees that it has closed, if it is not open: it is
    given up, or the next attempt is still to come. -/
def Visible (now : Nat) (c : Channel) : Prop :=
  match c.cycle with
  | .absent => c.downgraded = true
  | .starting | .connecting => False
  | .connected _ => True
  | .waiting wake => now < wake

theorem visible_of_open (h : c.phase = .open) : c.Visible now := by
  unfold Visible
  cases hcycle : c.cycle with
  | connected link => trivial
  | _ =>
    unfold phase at h
    rw [hcycle] at h
    cases h

theorem Visible.connect (h : c.Visible now) : c.connect.1.Visible now := by
  unfold Channel.connect
  split
  · next hcycle =>
    have hdowngraded : c.downgraded = true := by
      unfold Visible at h
      rw [hcycle] at h
      exact h
    rw [hdowngraded, Bool.true_or]
    exact h
  · exact h

theorem Visible.onLink (h : c.Visible now) (f : Link → Link) : (c.onLink f).Visible now := by
  unfold Channel.onLink
  split
  · trivial
  · exact h

theorem Visible.attempted (h : c.Visible now) (result : Except TransportFailure Nat) :
    (c.attempted now result).Visible now := by
  unfold Channel.attempted
  split
  · next hcycle =>
    unfold Visible at h
    rw [hcycle] at h
    exact h.elim
  · exact h

/-- A connection that is lost is tried again after a while. -/
theorem visible_fall (hdelay : 0 < c.delay) (hactive : c.active ≠ none) (now : Nat) :
    (c.fall now).Visible now := by
  have hsome : c.active.isNone = false := by
    cases hc : c.active with
    | none => exact absurd hc hactive
    | some taskId => rfl
  unfold fall
  dsimp only
  split
  · next hfinish =>
    have hdowngraded : (c.downgraded || decide (c.maxRetry ≤ c.retryCount + 1)) = true := by
      simpa [touch, hsome] using hfinish
    exact hdowngraded
  · exact Nat.lt_add_of_pos_right hdelay

theorem Visible.run (h : c.Visible now) (hunshut : c.shut = false) (hdelay : 0 < c.delay)
    (hactive : c.active ≠ none) : (c.run now).1.Visible now := by
  have hfall := visible_fall hdelay hactive now
  have hwhen := h
  unfold Visible at hwhen
  unfold Channel.run
  split
  · exact h
  · next hcycle =>
    rw [hcycle] at hwhen
    exact hwhen.elim
  · next hcycle =>
    rw [hcycle] at hwhen
    exact hwhen.elim
  · -- A connection that is lost has the channel fall, and a fall can be seen.
    next link _ =>
    rw [hunshut]
    simp only [Bool.false_eq_true, ↓reduceIte]
    unfold pump
    split
    · split
      · exact hfall
      · trivial
    · trivial
    · exact hfall
    · exact hfall
    · exact h
  · next wake hcycle =>
    rw [hcycle] at hwhen
    have hnot : ¬ wake ≤ now := Nat.not_le_of_lt hwhen
    rw [hunshut, if_neg hnot]
    exact h

/-! #### The delay stays -/

theorem connect_delay (c : Channel) : c.connect.1.delay = c.delay := by
  unfold connect
  split
  · split <;> rfl
  · rfl

theorem fall_delay (c : Channel) (now : Nat) : (c.fall now).delay = c.delay := by
  unfold fall
  dsimp only
  split <;> rfl

theorem attempt_delay (c : Channel) : c.attempt.1.delay = c.delay := by
  unfold attempt
  split <;> rfl

theorem run_delay (c : Channel) (now : Nat) : (c.run now).1.delay = c.delay := by
  unfold run
  split
  · rfl
  · exact attempt_delay c
  · split <;> rfl
  · split
    · rfl
    · unfold pump
      split
      · split
        · exact fall_delay c now
        · rfl
      · rfl
      · exact fall_delay c now
      · exact fall_delay c now
      · rfl
  · split
    · rfl
    · split
      · exact attempt_delay c
      · rfl

theorem attempted_delay (c : Channel) (now : Nat) (result : Except TransportFailure Nat) :
    (c.attempted now result).delay = c.delay := by
  unfold attempted
  split
  · split
    · rfl
    · split
      · rfl
      · exact fall_delay c now
  · rfl

theorem subscribe_delay (c : Channel) (taskId : String) :
    (c.subscribe taskId).1.delay = c.delay := by
  unfold subscribe
  dsimp only
  split <;> rfl

theorem onLink_delay (c : Channel) (f : Link → Link) : (c.onLink f).delay = c.delay := by
  unfold onLink
  split <;> rfl

end Push.Channel

namespace Wiring

variable {w w' : Wiring}

/-- Push waits between attempts. -/
def Delayed (w : Wiring) : Prop := ∀ c, w.selector.push = some c → 0 < c.delay

/-- The delay is a setting, which nothing changes. -/
theorem Move.delayed {r : Rules} (h : Move r w w') (hw : w.Delayed) : w'.Delayed := by
  have hset : ∀ {c c' : Push.Channel}, w.selector.push = some c → c'.delay = c.delay →
      ∀ c₁, some c' = some c₁ → 0 < c₁.delay := by
    rintro c c' hpush hdelay _ ⟨rfl⟩
    rw [hdelay]
    exact hw c hpush
  have hmap : ∀ {f : Push.Channel → Push.Channel}, (∀ c, (f c).delay = c.delay) →
      ∀ c₁, w.selector.push.map f = some c₁ → 0 < c₁.delay := by
    intro f hdelay c₁ hc
    obtain ⟨c, hpush, rfl⟩ := Option.map_eq_some_iff.mp hc
    rw [hdelay]
    exact hw c hpush
  cases h with
  | startUp =>
    unfold Selector.watch
    split <;> exact hw
  | connect =>
    unfold Selector.connect
    split
    · next c hpush => exact hset hpush (Push.Channel.connect_delay c)
    · exact hw
  | subscribe taskId =>
    unfold Selector.subscribe
    dsimp only
    split
    · exact hw
    · next c hpush =>
      split
      · exact hset hpush (Push.Channel.subscribe_delay c taskId)
      · exact hset hpush
          ((Push.Channel.connect_delay _).trans (Push.Channel.subscribe_delay c taskId))
  | unsubscribe => exact hmap fun _ => rfl
  | watch k =>
    obtain ⟨hpush, _, _⟩ := Selector.runWatcher_spec w.selector k
    intro c hc
    rw [hpush] at hc
    exact hw c hc
  | cycle hpush => exact hset hpush (Push.Channel.run_delay _ w.now)
  | opened hpush | refused _ hpush => exact hset hpush (Push.Channel.attempted_delay _ w.now _)
  | @link f => exact hmap fun c => Push.Channel.onLink_delay c f
  | leave => exact hmap fun _ => rfl
  | tick | request | answer | quit | elapse => exact hw

/-- The watchers have seen push as it is. -/
def Seen (w : Wiring) : Prop :=
  ∀ c, w.selector.push = some c → ∀ x ∈ w.selector.watchers, x.seen = c.version

/-- A page that stays, and on which time passes only while the watchers have nothing to
    do. -/
def Rules.prompt : Rules := { Rules.staying with elapses := Seen }

/-- **Invariant.** Once the background jobs were started, it stays visible that push has
    closed if nobody polls for the subscription. -/
def Visible (w : Wiring) : Prop :=
  w.begun = true → w.selector.Unpolled → ∀ c, w.selector.push = some c → c.Visible w.now

namespace Visible

/-- A change of the push channel. -/
theorem withPush (h : w.Visible) {c c' : Push.Channel} (hpush : w.selector.push = some c)
    (hvisible : w.selector.active ≠ none → c.Visible w.now → c'.Visible w.now)
    {accepted : Nat} {frames : List (Nat × String)} :
    ({ w with selector := { w.selector with push := some c' }, accepted, frames } :
      Wiring).Visible := by
  rintro hbegun hidle _ ⟨rfl⟩
  exact hvisible hidle.1 (h hbegun hidle c hpush)

/-- A change of the poll channel that starts no loop. -/
theorem withPoll (h : w.Visible) {poll : Polling.Channel} {stopped : List Nat}
    (hactive : poll.active = w.selector.poll.active) :
    ({ w with selector := { w.selector with poll }, stopped } : Wiring).Visible :=
  fun hbegun hidle => h hbegun ⟨hidle.1, hactive ▸ hidle.2⟩

theorem connect (h : w.Visible) :
    ({ w with selector := w.selector.connect.1 } : Wiring).Visible := by
  unfold Selector.connect
  split
  · next c hpush => exact h.withPush hpush fun _ hvisible => hvisible.connect
  · exact h

/-- Push takes a new subscription if it is open; else the task is polled. -/
theorem subscribe (w : Wiring) (taskId : String) :
    ({ w with selector := (w.selector.subscribe taskId).1 } : Wiring).Visible := by
  unfold Selector.subscribe
  dsimp only
  split
  · exact fun _ hidle => absurd hidle (Selector.not_unpolled_of_start rfl)
  · split
    · next htold =>
      rintro _ _ _ ⟨rfl⟩
      exact Push.Channel.visible_of_open (Push.Channel.phase_subscribe htold)
    · exact fun _ hidle => absurd hidle (Selector.not_unpolled_of_start rfl)

theorem watch (h : w.Visible) (k : Nat) :
    ({ w with selector := w.selector.runWatcher k } : Wiring).Visible := by
  obtain ⟨hpush, hactive, hpoll⟩ := Selector.runWatcher_spec w.selector k
  rcases hpoll with hsame | ⟨taskId, hstart⟩
  · intro hbegun hidle c hc
    have hidle' : w.selector.Unpolled := ⟨hactive ▸ hidle.1, hsame ▸ hidle.2⟩
    rw [hpush] at hc
    exact h hbegun hidle' c hc
  · exact fun _ hidle => absurd hidle (Selector.not_unpolled_of_start hstart)

/-- Time passes while the watchers have seen push as it is. -/
theorem elapse (h : w.Visible) (hcovered : w.Covered) (hseen : w.Seen) (duration : Nat) :
    ({ w with now := w.now + duration } : Wiring).Visible := by
  intro hbegun hidle c hpush
  have hvisible := h hbegun hidle c hpush
  obtain ⟨c', hpush', hwatched⟩ := hcovered hbegun hidle
  have heq := hpush.symm.trans hpush'
  cases heq
  have hopen : c.phase ≠ .closed := by
    intro hclosed
    obtain ⟨x, hx, hne⟩ := hwatched hclosed
    exact hne (hseen c hpush x hx)
  unfold Push.Channel.Visible at hvisible ⊢
  unfold Push.Channel.phase at hopen
  cases hcycle : c.cycle with
  | connected link => trivial
  | absent | waiting =>
    rw [hcycle] at hopen
    exact absurd rfl hopen
  | starting | connecting =>
    rw [hcycle] at hvisible
    exact hvisible.elim

end Visible

/-- **A page on which time waits for the watchers misses nothing.** -/
theorem Move.visible (h : Move .prompt w w') (hattended : w.Attended) (hcovered : w.Covered)
    (hdelayed : w.Delayed) (hw : w.Visible) : w'.Visible := by
  -- Time is the one thing that could overtake a watcher, and it waits for them.
  cases h with
  | startUp _ hpolled =>
    unfold Selector.watch
    split <;> exact fun _ hidle => absurd hidle hpolled
  | connect => exact hw.connect
  | subscribe taskId => exact .subscribe w taskId
  | unsubscribe => exact fun _ hidle => absurd rfl hidle.1
  | watch k => exact hw.watch k
  | @cycle c hpush =>
    refine hw.withPush hpush fun hsub hvisible => ?_
    have hactive : c.active ≠ none := by
      rw [hattended.selector.subscribed c hpush]
      exact hsub
    exact hvisible.run (hattended.spoken c hpush).unshut (hdelayed c hpush) hactive
  | opened hpush | refused _ hpush => exact hw.withPush hpush fun _ hvisible => hvisible.attempted _
  | @link f =>
    rcases w.selector.mapPush_cases (·.onLink f) with hsame | ⟨c, hpush, hchanged⟩
    · rw [hsame]
      exact hw
    · rw [hchanged]
      exact hw.withPush hpush fun _ hvisible => hvisible.onLink f
  | tick | quit => exact hw
  | request i => exact hw.withPoll (Polling.Channel.runRequest_active _ i)
  | answer i result => exact hw.withPoll (Polling.Channel.answer_active _ i _ result)
  | leave hleaves => exact hleaves.elim
  | elapse duration hseen => exact hw.elapse hcovered hseen duration

/-- **Invariant.** Push is watched, and its closing stays visible. -/
structure Prompt (w : Wiring) : Prop where
  attended : w.Attended
  covered : w.Covered
  delayed : w.Delayed
  visible : w.Visible

theorem Moves.prompt (h : Moves .prompt w w') (hw : w.Prompt) : w'.Prompt := by
  induction h with
  | refl => exact hw
  | tail _ hmove ih =>
    exact ⟨hmove.attended id ih.attended,
      hmove.covered (fun _ hpolled => hpolled) id ih.attended ih.covered,
      hmove.delayed ih.delayed, hmove.visible ih.attended ih.covered ih.delayed ih.visible⟩

end Wiring

end TaskTracking
