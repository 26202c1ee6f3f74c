import TaskTracking.Proofs.Course
import TaskTracking.Proofs.Path

/-! # What is left of a tracker once its page is left

  Leaving a page stops nothing at once but the worker. The connect cycle, the
  polling loops, their requests and the watchers find out when they run next, or
  when what they wait for comes. None of them does anything then but end
  (`Session.silent_of_left`):

  - No event has an output any more, so nothing is asked, sent, shown or stored.
  - Each turn ends something for good (`Tracker.unfinished`), so there are only
    as many turns as things that were going on, and when there are none left the
    push channel is closed and every loop has returned.
-/

namespace TaskTracking

/-! ### Counting what one change ends -/

section Modify

variable {α : Type} {p : α → Bool} {f : α → α} {l : List α} {i : Nat} {a : α}

theorem countP_modify_of_eq (h : ∀ a, l[i]? = some a → p (f a) = p a) :
    (l.modify i f).countP p = l.countP p := by
  induction l generalizing i with
  | nil => cases i <;> rfl
  | cons b l ih =>
    cases i with
    | zero =>
      have hb := h b rfl
      rw [List.modify_zero_cons, List.countP_cons, List.countP_cons, hb]
    | succ i =>
      rw [List.modify_succ_cons, List.countP_cons, List.countP_cons,
        ih fun a ha => h a (by simpa using ha)]

theorem countP_modify_of_ends (ha : l[i]? = some a) (hbefore : p a = true)
    (hafter : p (f a) = false) : (l.modify i f).countP p + 1 = l.countP p := by
  induction l generalizing i with
  | nil => cases ha
  | cons b l ih =>
    cases i with
    | zero =>
      obtain rfl : b = a := Option.some.inj ha
      rw [List.modify_zero_cons, List.countP_cons_of_neg (by simp [hafter]),
        List.countP_cons_of_pos hbefore]
    | succ i =>
      have hrest := ih (i := i) (by simpa using ha)
      rw [List.modify_succ_cons, List.countP_cons, List.countP_cons]
      omega

theorem forall_mem_modify {P : α → Prop} (h : ∀ a ∈ l, P a) (hf : ∀ a, P a → P (f a)) :
    ∀ a ∈ l.modify i f, P a := by
  intro a ha
  obtain ⟨j, hj⟩ := List.mem_iff_getElem?.mp ha
  rw [List.getElem?_modify] at hj
  obtain ⟨b, hb, rfl⟩ := Option.map_eq_some_iff.mp hj
  have hmem := List.mem_of_getElem? hb
  split
  · exact hf b (h b hmem)
  · exact h b hmem

end Modify

/-! ### The push channel once it is shut -/

namespace Push.Channel

variable {c : Channel} {now : Nat}

/-- What a turn does once the channel is shut: the cycle ends. -/
theorem run_of_shut (hshut : c.shut = true) (hready : c.ready now = true) :
    (c.run now).2 = [] ∧ (c.run now).1.isRunning = false ∧ (c.run now).1.shut = true ∧
      (c.run now).1.phase = .closed ∧ c.isRunning = true := by
  unfold ready at hready
  unfold run isRunning
  cases hcycle : c.cycle with
  | absent => simp [hcycle] at hready
  | starting => simp [attempt, hshut, finish, touch, phase]
  | connecting => simp [hshut, finish, touch, phase]
  | connected link => simp [hshut, finish, touch, phase]
  | waiting wake => simp [hshut, finish, phase]

/-- An attempt that ends after the shutdown comes to nothing. -/
theorem attempted_of_shut (hshut : c.shut = true) (hphase : c.phase = .connecting)
    (result : Except TransportFailure Nat) :
    (c.attempted now result).isRunning = false ∧ (c.attempted now result).shut = true ∧
      (c.attempted now result).phase = .closed := by
  unfold phase at hphase
  unfold attempted
  cases hcycle : c.cycle with
  | connecting => simp [hshut, finish, touch, isRunning, phase]
  | _ => simp [hcycle] at hphase

/-- A cycle that is not closed is told of the shutdown at once. -/
theorem ready_of_shut (c : Channel) (now : Nat) (hshut : c.shut = true)
    (hphase : c.phase ≠ .closed) : c.ready now = true := by
  unfold phase at hphase
  unfold ready
  cases hcycle : c.cycle with
  | connecting | connected => simp [hshut]
  | _ => simp [hcycle] at hphase

/-- A cycle that runs is told of the shutdown at once. -/
theorem ready_of_isRunning (c : Channel) (now : Nat) (hshut : c.shut = true)
    (hruns : c.isRunning = true) : c.ready now = true := by
  unfold isRunning at hruns
  unfold ready
  cases hcycle : c.cycle with
  | absent => simp [hcycle] at hruns
  | _ => simp [hshut]

theorem onLink_spec (c : Channel) (f : Link → Link) :
    (c.onLink f).isRunning = c.isRunning ∧ (c.onLink f).shut = c.shut ∧
      (c.onLink f).phase = c.phase := by
  unfold onLink
  split
  · next link hcycle => simp [isRunning, phase, hcycle]
  · exact ⟨rfl, rfl, rfl⟩

end Push.Channel

/-! ### The polling loops once they are cancelled -/

namespace Polling

namespace Loop

variable {l : Loop}

/-- A cancelled loop returns when it runs. -/
theorem run_of_cancelled (h : l.cancelled = true) (interval now : Nat) :
    l.run interval now = { l with ended := true } := by
  unfold run
  rw [if_pos h]

/-- A cancelled loop's request is given up when it runs, whether it was sent or not. -/
theorem runRequest_of_cancelled (h : l.cancelled = true) (hready : l.requestReady = true) :
    l.request.isSome = true ∧ l.runRequest.2 = false ∧ l.runRequest.1.request = none ∧
      l.runRequest.1.cancelled = true ∧ l.runRequest.1.ended = l.ended := by
  unfold requestReady at hready
  unfold runRequest
  cases hrequest : l.request with
  | none => simp [hrequest] at hready
  | some r => cases r <;> simp [h]

theorem requestReady_of_cancelled (h : l.cancelled = true) (hrequest : l.request.isSome = true) :
    l.requestReady = true := by
  unfold requestReady
  cases hr : l.request with
  | none => simp [hr] at hrequest
  | some r => cases r <;> simp [h]

end Loop

namespace Channel

theorem cancelled_stop {c : Channel} (h : ∀ l ∈ c.loops, l.cancelled = true) :
    ∀ l ∈ c.stop.loops, l.cancelled = true := by
  unfold stop
  split
  · exact forall_mem_modify h fun _ _ => rfl
  · exact h

/-- What cancelling leaves alone is counted alike after a stop. -/
theorem countP_stop (c : Channel) {p : Loop → Bool}
    (hp : ∀ l : Loop, p { l with cancelled := true } = p l) :
    c.stop.loops.countP p = c.loops.countP p := by
  unfold stop
  split
  · exact countP_modify_of_eq fun l _ => hp l
  · rfl

theorem countP_retire (c : Channel) {p : Loop → Bool}
    (hp : ∀ l : Loop, p { l with cancelled := true } = p l) :
    c.retire.loops.countP p = c.loops.countP p := by
  show (c.loops.map _).countP p = _
  rw [List.countP_map]
  apply List.countP_congr
  intro l _
  rw [Function.comp, hp l]

end Channel

end Polling

/-! ### A tracker that was left -/

namespace Tracker

/-- What the channels of a tracker have going on: watchers that look, loops that have not
    returned, their requests, and the connect cycle. -/
def unfinished (t : Tracker) : Nat :=
  t.selector.watchers.countP (!·.ended) + t.selector.poll.loops.countP (!·.ended) +
    t.selector.poll.loops.countP (·.request.isSome) +
    (t.selector.push.any Push.Channel.isRunning).toNat

/-- The push channel is closed, if there is one. -/
def PushClosed (t : Tracker) : Prop := ∀ c, t.selector.push = some c → c.phase = .closed

/-- The page was left, and no call is in progress. -/
structure Quiet (t : Tracker) : Prop where
  calls : t.calls = []
  worker : t.worker = .absent ∨ t.worker = .ended
  left : t.selector.left = true
  shut : ∀ c, t.selector.push = some c → c.shut = true
  cancelled : ∀ l ∈ t.selector.poll.loops, l.cancelled = true

/-- The tracker has become quiet, with so many turns of its jobs. -/
structure Quietens (t : Tracker) (turns : Nat) (t' : Tracker) : Prop where
  quiet : t'.Quiet
  identity : t'.identity = t.identity
  unfinished : t'.unfinished + turns ≤ t.unfinished
  closed : t.PushClosed → t'.PushClosed

variable {t : Tracker} {now : Nat} {turn : Tracker × List Output}

theorem Quiet.refl (h : t.Quiet) : t.Quietens 0 t := ⟨h, rfl, Nat.le_refl _, id⟩

/-- Leaving the page quietens a tracker without calls, and nothing is lost of what its
    channels have going on. -/
theorem quietens_leave (hcalls : t.calls = []) : t.Quietens 0 t.leave := by
  obtain ⟨hid, hselector, hworker, hcalls'⟩ : t.leave.identity = t.identity ∧
      t.leave.selector = { t.selector.leave with poll := t.selector.leave.poll.stop } ∧
      (t.leave.worker = .absent ∨ t.leave.worker = .ended) ∧ t.leave.calls = t.calls := by
    unfold leave
    cases t.worker <;> simp
  -- Shutting, retiring and stopping only set flags, so everything that went on is still counted.
  refine ⟨⟨hcalls'.trans hcalls, hworker, ?_, ?_, ?_⟩, hid, ?_, ?_⟩
  · rw [hselector]
    rfl
  · intro c hc
    rw [hselector] at hc
    obtain ⟨c₀, _, rfl⟩ := Option.map_eq_some_iff.mp hc
    rfl
  · rw [hselector]
    refine Polling.Channel.cancelled_stop fun l hl => ?_
    obtain ⟨l₀, _, rfl⟩ := List.mem_map.mp hl
    rfl
  · unfold unfinished
    rw [hselector]
    show _ + t.selector.poll.retire.stop.loops.countP _ +
      t.selector.poll.retire.stop.loops.countP _ + _ + 0 ≤ _
    rw [Polling.Channel.countP_stop _ fun _ => rfl, Polling.Channel.countP_stop _ fun _ => rfl,
      Polling.Channel.countP_retire _ fun _ => rfl, Polling.Channel.countP_retire _ fun _ => rfl]
    show _ + _ + _ + ((t.selector.push.map Push.Channel.shutdown).any _).toNat ≤ _
    cases t.selector.push <;> exact Nat.le_refl _
  · intro hclosed c hc
    rw [hselector] at hc
    obtain ⟨c₀, hc₀, rfl⟩ := Option.map_eq_some_iff.mp hc
    exact hclosed c₀ hc₀

/-! ### Turns and answers -/

/-- The push channel of a quiet tracker has changed. -/
theorem Quiet.withPush (h : t.Quiet) {c c' : Push.Channel} (hpush : t.selector.push = some c)
    {turns : Nat} (hshut : c'.shut = true)
    (hruns : c'.isRunning.toNat + turns ≤ c.isRunning.toNat)
    (hclosed : c.phase = .closed → c'.phase = .closed) (inbox : Inbox) :
    t.Quietens turns { t with selector := { t.selector with push := some c' }, inbox } := by
  refine ⟨⟨h.calls, h.worker, h.left, ?_, h.cancelled⟩, rfl, ?_, ?_⟩
  · intro c₁ hc₁
    exact Option.some.inj hc₁ ▸ hshut
  · unfold unfinished
    rw [hpush]
    dsimp only [Option.any_some]
    omega
  · intro hall c₁ hc₁
    exact Option.some.inj hc₁ ▸ hclosed (hall c hpush)

/-- A polling loop of a quiet tracker has changed, and no task was asked for. -/
theorem Quiet.withLoop (h : t.Quiet) {i : Nat} {f : Polling.Loop → Polling.Loop}
    (hf : ∀ l : Polling.Loop, l.cancelled = true → (f l).cancelled = true) {turns : Nat}
    (hfewer : (t.selector.poll.loops.modify i f).countP (!·.ended) +
        (t.selector.poll.loops.modify i f).countP (·.request.isSome) + turns ≤
      t.selector.poll.loops.countP (!·.ended) +
        t.selector.poll.loops.countP (·.request.isSome)) (inbox : Inbox) :
    t.Quietens turns
      { t with selector := { t.selector with poll := t.selector.poll.update i f }, inbox } := by
  refine ⟨⟨h.calls, h.worker, h.left, h.shut, forall_mem_modify h.cancelled hf⟩, rfl, ?_, id⟩
  unfold unfinished
  dsimp only [Polling.Channel.update]
  omega

/-- A polling loop of a quiet tracker has lost its request. -/
theorem Quiet.withoutRequest (h : t.Quiet) {i turns : Nat} {l : Polling.Loop}
    (l' : Polling.Loop) (hl : t.selector.poll.loops[i]? = some l) (hsome : l.request.isSome = true)
    (hnone : l'.request = none) (hcancelled : l'.cancelled = true) (hended : l'.ended = l.ended)
    (hturns : turns ≤ 1) (inbox : Inbox) : t.Quietens turns { t with
      selector := { t.selector with poll := t.selector.poll.update i fun _ => l' }, inbox } := by
  apply h.withLoop (fun _ _ => hcancelled)
  have hfewer := countP_modify_of_ends (p := (·.request.isSome)) (f := fun _ => l') hl hsome
    (by rw [hnone]; rfl)
  have hsame : (t.selector.poll.loops.modify i fun _ => l').countP (!·.ended) =
      t.selector.poll.loops.countP (!·.ended) := by
    apply countP_modify_of_eq
    intro l₀ hl₀
    rw [Option.some.inj (hl₀.symm.trans hl), hended]
  omega

theorem Quiet.runWorker (h : t.Quiet) : t.runWorker = none := by
  unfold Tracker.runWorker
  rcases h.worker with hw | hw
  · rw [hw]
  · rw [hw]

theorem Quiet.replyWorker (h : t.Quiet) (reply : Reply) : t.replyWorker reply = none := by
  unfold Tracker.replyWorker
  rcases h.worker with hw | hw
  · rw [hw]
  · rw [hw]

theorem Quiet.doing_call (h : t.Quiet) (k : Nat) : t.doing (.call k) = none := by
  show t.calls.lookup k = none
  rw [h.calls]
  rfl

theorem Quiet.runWatcher (h : t.Quiet) {k : Nat} {w : Watcher}
    (hw : t.selector.watchers[k]? = some w) (hready : t.selector.watcherReady w = true) :
    t.Quietens 1 { t with selector := t.selector.runWatcher k } := by
  have hgoing : (!w.ended) = true := by
    unfold Selector.watcherReady at hready
    exact ((Bool.and_eq_true ..).mp hready).1
  have hfewer := countP_modify_of_ends (p := (!·.ended))
    (f := fun w : Watcher => { w with ended := true }) hw hgoing rfl
  unfold Selector.runWatcher
  rw [if_pos h.left]
  refine ⟨⟨h.calls, h.worker, h.left, h.shut, h.cancelled⟩, rfl, ?_, id⟩
  unfold unfinished
  dsimp only [Selector.updateWatcher]
  omega

theorem Quiet.runLoop (h : t.Quiet) {i : Nat} {l : Polling.Loop}
    (hl : t.selector.poll.loops[i]? = some l) (hready : l.ready now = true) (inbox : Inbox) :
    t.Quietens 1 { t with
      selector := { t.selector with poll := t.selector.poll.runLoop now i }, inbox } := by
  have hgoing : (!l.ended) = true := by
    unfold Polling.Loop.ready at hready
    exact ((Bool.and_eq_true ..).mp hready).1
  have hreturns : ∀ l' ∈ t.selector.poll.loops,
      l'.run t.selector.poll.interval now = { l' with ended := true } :=
    fun l' hl' => Polling.Loop.run_of_cancelled (h.cancelled l' hl') _ now
  apply h.withLoop
  · intro l' hc
    rw [Polling.Loop.run_of_cancelled hc]
    exact hc
  · have hfewer := countP_modify_of_ends (p := (!·.ended))
      (f := Polling.Loop.run t.selector.poll.interval now) hl hgoing
      (by rw [hreturns l (List.mem_of_getElem? hl)]; rfl)
    have hsame : (t.selector.poll.loops.modify i
        (Polling.Loop.run t.selector.poll.interval now)).countP (·.request.isSome) =
          t.selector.poll.loops.countP (·.request.isSome) := by
      apply countP_modify_of_eq
      intro l' hl'
      rw [hreturns l' (List.mem_of_getElem? hl')]
    omega

/-- A turn of a quiet tracker puts out nothing, and ends something. -/
theorem Quiet.run (h : t.Quiet) {job : Job} (hrun : t.run now job = some turn) :
    turn.2 = [] ∧ t.Quietens 1 turn.1 := by
  -- Neither the worker nor a call has turns any more; the others have one, and end with it.
  cases job with
  | worker =>
    obtain ⟨r, hworker, _⟩ := Option.map_eq_some_iff.mp hrun
    rw [h.runWorker] at hworker
    cases hworker
  | call k =>
    obtain ⟨d, _, hd, _⟩ := Tracker.run_call hrun
    rw [h.doing_call] at hd
    cases hd
  | watcher k =>
    obtain ⟨w, hw, hready, rfl⟩ := Tracker.run_watcher_iff.mp hrun
    exact ⟨rfl, h.runWatcher hw hready⟩
  | cycle =>
    obtain ⟨c, hpush, hready, rfl⟩ := Tracker.run_cycle_iff.mp hrun
    obtain ⟨hacts, hends, hshut, hphase, hruns⟩ :=
      Push.Channel.run_of_shut (h.shut c hpush) hready
    unfold afterPush
    rw [hacts]
    refine ⟨rfl, h.withPush hpush hshut ?_ (fun _ => hphase) _⟩
    rw [hends, hruns]
    exact Nat.le_refl 1
  | loop i =>
    obtain ⟨l, hl, hready, rfl⟩ := Tracker.run_loop_iff.mp hrun
    exact ⟨rfl, h.runLoop hl hready _⟩
  | request i =>
    obtain ⟨l, hl, hready, rfl⟩ := Tracker.run_request_iff.mp hrun
    obtain ⟨hsome, hasked, hnone, hcancelled, hended⟩ :=
      Polling.Loop.runRequest_of_cancelled (h.cancelled l (List.mem_of_getElem? hl)) hready
    have hpoll : t.selector.poll.runRequest i =
        (t.selector.poll.update i fun _ => l.runRequest.1, none) := by
      unfold Polling.Channel.runRequest
      rw [hl]
      dsimp only
      rw [hasked]
      rfl
    unfold afterPoll
    rw [hpoll]
    exact ⟨rfl, h.withoutRequest _ hl hsome hnone hcancelled hended (Nat.le_refl 1) _⟩

/-- An answer to a quiet tracker comes to nothing. -/
theorem Quiet.reply (h : t.Quiet) {job : Job} {reply : Reply}
    (hreply : t.reply now job reply = some turn) : turn.2 = [] ∧ t.Quietens 0 turn.1 := by
  cases job with
  | worker =>
    obtain ⟨r, hworker, _⟩ := Option.map_eq_some_iff.mp hreply
    rw [h.replyWorker] at hworker
    cases hworker
  | call k =>
    obtain ⟨d, _, hd, _⟩ := Tracker.reply_call hreply
    rw [h.doing_call] at hd
    cases hd
  | cycle =>
    cases reply with
    | connected result =>
      obtain ⟨c, hpush, hphase, rfl⟩ := Tracker.reply_connected_iff.mp hreply
      obtain ⟨hends, hshut, hclosed⟩ :=
        Push.Channel.attempted_of_shut (h.shut c hpush) hphase result
      refine ⟨rfl, h.withPush hpush hshut ?_ (fun _ => hclosed) _⟩
      rw [hends]
      exact Nat.zero_le _
    | _ => cases hreply
  | request i =>
    cases reply with
    | status result =>
      obtain ⟨l, hl, hsent, rfl⟩ := Tracker.reply_status_iff.mp hreply
      have hcancelled := h.cancelled l (List.mem_of_getElem? hl)
      have hsome : l.request.isSome = true := by
        rw [hsent]
        rfl
      have hpoll : t.selector.poll.answer i t.inbox.receiving result =
          (t.selector.poll.update i fun _ => { l with request := none }, []) := by
        unfold Polling.Channel.answer Polling.Loop.answer
        rw [hl]
        dsimp only
        rw [if_pos hsent, if_pos hcancelled]
      unfold afterPoll
      rw [hpoll]
      exact ⟨rfl, h.withoutRequest { l with request := none } hl hsome rfl hcancelled rfl
        (Nat.zero_le 1) _⟩
    | _ => cases hreply
  | _ => cases hreply

/-- What comes in, or cannot be sent any more, is of no interest. -/
theorem Quiet.onLink (h : t.Quiet) (f : Push.Link → Push.Link) :
    t.Quietens 0
      { t with selector := { t.selector with push := t.selector.push.map (·.onLink f) } } := by
  cases hpush : t.selector.push with
  | none =>
    have hsame : { t with selector := { t.selector with push := none } } = t := by rw [← hpush]
    exact hsame ▸ h.refl
  | some c =>
    obtain ⟨hruns, hshut, hphase⟩ := c.onLink_spec f
    exact h.withPush hpush (hshut.trans (h.shut c hpush)) (by rw [hruns]; exact Nat.le_refl _)
      (fun hclosed => hphase.trans hclosed) t.inbox

/-- Once no job has a turn, nothing is going on any more. -/
theorem Quiet.unfinished_eq_zero (h : t.Quiet) (hrest : ∀ job, (t.run now job).isNone) :
    t.unfinished = 0 := by
  -- Whatever is not finished has heard of the end, so its job would have a turn.
  have hwatchers : t.selector.watchers.countP (!·.ended) = 0 := by
    rw [List.countP_eq_zero]
    intro w hw hgoing
    obtain ⟨k, hk⟩ := List.mem_iff_getElem?.mp hw
    have hready : t.selector.watcherReady w = true := by
      unfold Selector.watcherReady
      rw [hgoing, h.left]
      rfl
    exact absurd (Option.isNone_iff_eq_none.mp (hrest (.watcher k)))
      (Option.ne_none_iff_exists'.mpr ⟨_, Tracker.run_watcher_iff.mpr ⟨w, hk, hready, rfl⟩⟩)
  have hloops : t.selector.poll.loops.countP (!·.ended) = 0 := by
    rw [List.countP_eq_zero]
    intro l hl hgoing
    obtain ⟨i, hi⟩ := List.mem_iff_getElem?.mp hl
    have hready : l.ready now = true := by
      unfold Polling.Loop.ready
      rw [hgoing, h.cancelled l hl]
      rfl
    exact absurd (Option.isNone_iff_eq_none.mp (hrest (.loop i)))
      (Option.ne_none_iff_exists'.mpr ⟨_, Tracker.run_loop_iff.mpr ⟨l, hi, hready, rfl⟩⟩)
  have hrequests : t.selector.poll.loops.countP (·.request.isSome) = 0 := by
    rw [List.countP_eq_zero]
    intro l hl hgoing
    obtain ⟨i, hi⟩ := List.mem_iff_getElem?.mp hl
    have hready := Polling.Loop.requestReady_of_cancelled (h.cancelled l hl) hgoing
    exact absurd (Option.isNone_iff_eq_none.mp (hrest (.request i)))
      (Option.ne_none_iff_exists'.mpr ⟨_, Tracker.run_request_iff.mpr ⟨l, hi, hready, rfl⟩⟩)
  have hcycle : t.selector.push.any Push.Channel.isRunning = false := by
    rw [Option.any_eq_false]
    intro c hpush
    by_contra hruns
    have hready := c.ready_of_isRunning now (h.shut c hpush) (by simpa using hruns)
    exact absurd (Option.isNone_iff_eq_none.mp (hrest .cycle))
      (Option.ne_none_iff_exists'.mpr ⟨_, Tracker.run_cycle_iff.mpr ⟨c, hpush, hready, rfl⟩⟩)
  unfold unfinished
  rw [hwatchers, hloops, hrequests, hcycle]
  rfl

/-- The push channel is closed, or the next turn of its cycle closes it. -/
theorem Quiet.closes (h : t.Quiet) (now : Nat) :
    t.PushClosed ∨ ∃ turn, t.run now .cycle = some turn ∧ turn.1.PushClosed := by
  by_cases hclosed : t.PushClosed
  · exact .inl hclosed
  · obtain ⟨c, hpush, hphase⟩ : ∃ c, t.selector.push = some c ∧ c.phase ≠ .closed := by
      simpa only [PushClosed, not_forall, exists_prop] using hclosed
    have hshut := h.shut c hpush
    have hready := c.ready_of_shut now hshut hphase
    refine .inr ⟨_, Tracker.run_cycle_iff.mpr ⟨c, hpush, hready, rfl⟩, ?_⟩
    intro c' hpush'
    exact Option.some.inj hpush' ▸ (Push.Channel.run_of_shut hshut hready).2.2.2.1

/-- No loop of a quiet tracker polls. -/
theorem Quiet.isRunning_eq_false (h : t.Quiet) : t.selector.poll.isRunning = false := by
  unfold Polling.Channel.isRunning
  rw [Option.any_eq_false]
  intro l hl
  obtain ⟨i, _, hi⟩ := Option.bind_eq_some_iff.mp hl
  unfold Polling.Loop.isLive
  rw [h.cancelled l (List.mem_of_getElem? hi)]
  rfl

end Tracker

namespace Session

/-! ### A session after its page is left -/

/-- Whether the event is a turn that a job takes without an answer. -/
def Event.isTurn : Event → Bool
  | .turn _ => true
  | _ => false

/-- The page makes no control call. -/
def Uncalled (_ : Session) : Event → Prop
  | .called .. => False
  | _ => True

instance (s : Session) (e : Event) : Decidable (s.Uncalled e) := by
  induction e using Event.casesOn with
  | called => exact instDecidableFalse
  | _ => exact instDecidableTrue

/-- Nothing has come of the tracker of `s` on the way to `s'`: no output, and no change of
    what is stored. Each turn on the way has ended something. -/
structure Silent (s s' : Session) : Prop where
  still : ∃ later, s'.history = s.history ++ later ∧ (∀ r ∈ later, r.outputs = []) ∧
    s'.tracker.unfinished + later.countP (·.event.isTurn) ≤ s.tracker.unfinished
  entries : s'.storage.entries = s.storage.entries
  identity : s'.tracker.identity = s.tracker.identity
  /-- Once closed, push stays closed. -/
  closed : s.tracker.PushClosed → s'.tracker.PushClosed

theorem Silent.refl (s : Session) : s.Silent s :=
  ⟨⟨[], (List.append_nil _).symm, by simp, Nat.le_refl _⟩, rfl, rfl, id⟩

theorem Silent.trans {s₁ s₂ s₃ : Session} (h : s₁.Silent s₂) (h' : s₂.Silent s₃) :
    s₁.Silent s₃ := by
  obtain ⟨later, hlater, hquiet, hfewer⟩ := h.still
  obtain ⟨later', hlater', hquiet', hfewer'⟩ := h'.still
  refine ⟨⟨later ++ later', ?_, ?_, ?_⟩, h'.entries.trans h.entries,
    h'.identity.trans h.identity, h'.closed ∘ h.closed⟩
  · rw [hlater', hlater, List.append_assoc]
  · intro r hr
    exact (List.mem_append.mp hr).elim (hquiet r) (hquiet' r)
  · rw [List.countP_append]
    omega

/-- An event without outputs that quietens the tracker. -/
theorem silent_after {s b : Session} {e : Event} {turn : Tracker × List Output}
    (houtputs : turn.2 = []) (hquietens : s.tracker.Quietens e.isTurn.toNat turn.1)
    (hhistory : b.history = s.history) (hentries : b.storage.entries = s.storage.entries) :
    s.Silent (b.after e turn) ∧ (b.after e turn).tracker.Quiet := by
  obtain ⟨t, outputs⟩ := turn
  obtain rfl : outputs = [] := houtputs
  -- Without an output nothing is performed, so the event is all that the history gains.
  have hlater : (b.after e (t, [])).history =
      s.history ++ [{ event := e, applied := b.applied? e, outputs := [] }] := by
    rw [← hhistory]
    rfl
  refine ⟨⟨⟨_, hlater, by simp, ?_⟩, hentries, hquietens.identity, hquietens.closed⟩,
    hquietens.quiet⟩
  have hfewer := hquietens.unfinished
  show t.unfinished + _ ≤ _
  rw [List.countP_singleton]
  cases hturn : e.isTurn <;> simp [hturn] at hfewer ⊢ <;> omega

theorem silent_leaving {s s' : Session} (hcalls : s.tracker.calls = [])
    (hstep : s.step .left = some s') : s.Silent s' ∧ s'.tracker.Quiet := by
  cases hstep
  exact silent_after rfl (Tracker.quietens_leave hcalls) rfl rfl

theorem silent_step {s s' : Session} {e : Event} (h : s.tracker.Quiet) (huncalled : s.Uncalled e)
    (hstep : s.step e = some s') : s.Silent s' ∧ s'.tracker.Quiet := by
  cases e with
  | turn job =>
    obtain ⟨turn, hrun, rfl⟩ := Option.map_eq_some_iff.mp hstep
    obtain ⟨houtputs, hquietens⟩ := h.run hrun
    exact silent_after houtputs hquietens rfl rfl
  | stored job =>
    obtain ⟨answer, _, hstep'⟩ := Option.bind_eq_some_iff.mp hstep
    obtain ⟨turn, hreply, rfl⟩ := Option.map_eq_some_iff.mp hstep'
    obtain ⟨houtputs, hquietens⟩ := h.reply hreply
    exact silent_after houtputs hquietens rfl rfl
  | answered job reply =>
    obtain ⟨_, hstep'⟩ := Option.ite_none_right_eq_some.mp hstep
    obtain ⟨turn, hreply, rfl⟩ := Option.map_eq_some_iff.mp hstep'
    obtain ⟨houtputs, hquietens⟩ := h.reply hreply
    exact silent_after houtputs hquietens rfl rfl
  | connected result =>
    cases result with
    | ok =>
      obtain ⟨turn, hreply, rfl⟩ := Option.map_eq_some_iff.mp hstep
      obtain ⟨houtputs, hquietens⟩ := h.reply hreply
      exact silent_after houtputs hquietens rfl rfl
    | error failure =>
      obtain ⟨turn, hreply, rfl⟩ := Option.map_eq_some_iff.mp hstep
      obtain ⟨houtputs, hquietens⟩ := h.reply hreply
      exact silent_after houtputs hquietens rfl rfl
  | called k d => exact huncalled.elim
  | left => exact silent_leaving h.calls hstep
  | received incoming =>
    cases hstep
    exact silent_after rfl (h.onLink _) rfl rfl
  | deafened =>
    cases hstep
    exact silent_after rfl (h.onLink _) rfl rfl
  | elapsed duration =>
    cases hstep
    exact silent_after rfl h.refl rfl rfl
  | disturbed faults =>
    cases hstep
    exact silent_after rfl h.refl rfl rfl

theorem silent_of_reaches {s₁ s : Session} (h : s₁.tracker.Quiet) (hrun : Reaches Uncalled s₁ s) :
    s₁.Silent s ∧ s.tracker.Quiet := by
  induction hrun with
  | refl => exact ⟨.refl s₁, h⟩
  | step e _ huncalled hstep ih =>
    obtain ⟨hsilent, hquiet⟩ := ih
    obtain ⟨hnext, hquiet'⟩ := silent_step hquiet huncalled hstep
    exact ⟨hsilent.trans hnext, hquiet'⟩

/-- A page tracks a task, and a snapshot of it waits to be applied, when the next request is
    under way and the connection opens. -/
def busy : List Event :=
  [.called 0 .entering, .turn (.call 0), .stored (.call 0), .turn .cycle,
    .called 1 (.starting .null), .turn (.call 1), .answered (.call 1) (.created (.ok "task")),
    .stored (.call 1), .turn (.loop 0), .elapsed 2000, .turn (.loop 0), .turn (.request 0),
    .answered (.request 0) (.status (.ok { id := "task", status := .running })), .elapsed 2000,
    .turn (.loop 0), .turn (.request 0), .connected (.ok ())]

/-- What still comes for that page once it is left. -/
def belated : List Event :=
  [.received (.text ""), .elapsed 4000, .answered (.request 0) (.status (.error .timeout)),
    .turn .cycle, .turn (.loop 0), .turn (.watcher 0)]

end Session

end TaskTracking
