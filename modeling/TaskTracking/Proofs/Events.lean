import TaskTracking.Proofs.Calls

/-! # What one event does

  An event gives one call or the worker a turn, or it changes only the channels,
  the calls in progress, or what surrounds the tracker (`Session.happens_of_step`).
  `Session.Stirs` tells the turns of the channels one by one. This holds of every
  session: nothing is asked of the storage, or of the order of the calls.
-/

namespace TaskTracking

/-! ### Turns -/

namespace Session

/-- A turn that an event gives the call with ticket `k`, which is at `d`. -/
inductive Takes (s : Session) (k : Nat) (d : Call) :
    Event → Tracker × List ViewCall × Turn → Prop where
  | run {r : Tracker × List ViewCall × Turn} (hrun : s.tracker.runCall d = some r) :
      Takes s k d (.turn (.call k)) r
  | stored {answer : Except StorageFailure Store.Answer} {r : Tracker × List ViewCall × Turn}
      (hanswer : s.answers.lookup (.call k) = some answer)
      (hreply : s.tracker.replyCall d (.store answer) = some r) :
      Takes s k d (.stored (.call k)) r
  | answered {reply : Reply} {r : Tracker × List ViewCall × Turn}
      (hservers : reply.isServers = true) (hreply : s.tracker.replyCall d reply = some r) :
      Takes s k d (.answered (.call k) reply) r

/-- With which answer an event reaches job `j`. -/
inductive Brings (s : Session) (j : Job) : Event → Option Reply → Prop where
  | turn : Brings s j (.turn j) none
  | stored {answer : Except StorageFailure Store.Answer}
      (hanswer : s.answers.lookup j = some answer) :
      Brings s j (.stored j) (some (.store answer))
  | answered {reply : Reply} (hservers : reply.isServers = true) :
      Brings s j (.answered j reply) (some reply)

/-- Only the storage's own event brings an answer of it. -/
theorem Brings.of_store {s : Session} {j : Job} {e : Event}
    {answer : Except StorageFailure Store.Answer} (h : s.Brings j e (some (.store answer))) :
    e = .stored j ∧ s.answers.lookup j = some answer := by
  cases h with
  | stored hanswer => exact ⟨rfl, hanswer⟩
  | answered hservers => cases hservers

theorem Takes.callTurn {s : Session} {k : Nat} {d : Call} {e : Event}
    {r : Tracker × List ViewCall × Turn} (h : s.Takes k d e r) :
    ∃ reply, s.Brings (.call k) e reply ∧ s.tracker.CallTurn d reply r := by
  cases h with
  | run hrun => exact ⟨none, .turn, Tracker.callTurn_of_runCall hrun⟩
  | stored hanswer hreply => exact ⟨_, .stored hanswer, Tracker.callTurn_of_replyCall hreply⟩
  | answered hservers hreply => exact ⟨_, .answered hservers, Tracker.callTurn_of_replyCall hreply⟩

/-- A turn that an event gives the worker. -/
inductive Works (s : Session) : Event → Tracker × List ViewCall → Prop where
  | run {r : Tracker × List ViewCall} (hrun : s.tracker.runWorker = some r) :
      Works s (.turn .worker) r
  | stored {answer : Except StorageFailure Store.Answer} {r : Tracker × List ViewCall}
      (hanswer : s.answers.lookup .worker = some answer)
      (hreply : s.tracker.replyWorker (.store answer) = some r) :
      Works s (.stored .worker) r

/-- The same session but for the time, the connections accepted, and the answers to
    jobs that do not ask the storage. -/
structure Beside (s b : Session) : Prop where
  tracker : b.tracker = s.tracker
  storage : b.storage = s.storage
  history : b.history = s.history
  answers : ∀ job : Job, job.usesStorage = true → b.answers.lookup job = s.answers.lookup job

/-- Whether an output is one of the channels' own: a frame, an attempt to connect, or the
    request of a polling loop. -/
def isOfChannels : Output → Bool
  | .frame .. | .ask .cycle .connect | .ask (.request _) (.status _) => true
  | _ => false

/-- A turn that an event gives the channels, with the session in which it is taken: the
    time may have passed, or a connection been accepted. -/
inductive Stirs (s : Session) : Event → Session → Tracker × List Output → Prop where
  | watch {k : Nat} {w : Watcher} (hwatcher : s.tracker.selector.watchers[k]? = some w)
      (hready : s.tracker.selector.watcherReady w = true) :
      Stirs s (.turn (.watcher k)) (s.forget (.watcher k))
        ({ s.tracker with selector := s.tracker.selector.runWatcher k }, [])
  | cycle {c : Push.Channel} (hpush : s.tracker.selector.push = some c)
      (hready : c.ready s.now = true) :
      Stirs s (.turn .cycle) (s.forget .cycle)
        (s.tracker.afterPush (c.run s.now).1 (c.run s.now).2)
  | tick {i : Nat} {l : Polling.Loop} (hloop : s.tracker.selector.poll.loops[i]? = some l)
      (hready : l.ready s.now = true) :
      Stirs s (.turn (.loop i)) (s.forget (.loop i))
        (s.tracker.afterPoll (s.tracker.selector.poll.runLoop s.now i) [], [])
  | request {i : Nat} {l : Polling.Loop} (hloop : s.tracker.selector.poll.loops[i]? = some l)
      (hready : l.requestReady = true) :
      Stirs s (.turn (.request i)) (s.forget (.request i))
        (s.tracker.afterPoll (s.tracker.selector.poll.runRequest i).1 [],
          Tracker.asking (.request i) ((s.tracker.selector.poll.runRequest i).2.map .status))
  | answer {i : Nat} {l : Polling.Loop} {result : Except TransportFailure Snapshot}
      (hloop : s.tracker.selector.poll.loops[i]? = some l) (hsent : l.request = some .sent) :
      Stirs s (.answered (.request i) (.status result)) (s.forget (.request i))
        (s.tracker.afterPoll (s.tracker.selector.poll.answer i s.tracker.inbox.receiving result).1
          (s.tracker.selector.poll.answer i s.tracker.inbox.receiving result).2, [])
  | opened {c : Push.Channel} (hpush : s.tracker.selector.push = some c)
      (hphase : c.phase = .connecting) :
      Stirs s (.connected (.ok ())) { s with accepted := s.accepted + 1 }
        (s.tracker.afterPush (c.attempted s.now (.ok s.accepted)) [])
  | refused {c : Push.Channel} {failure : TransportFailure}
      (hpush : s.tracker.selector.push = some c) (hphase : c.phase = .connecting) :
      Stirs s (.connected (.error failure)) s
        (s.tracker.afterPush (c.attempted s.now (.error failure)) [])
  | received (incoming : Push.Incoming) :
      Stirs s (.received incoming) s (s.feel (·.receive incoming), [])
  | deafened : Stirs s .deafened s (s.feel (·.deafen), [])
  | elapsed (duration : Nat) :
      Stirs s (.elapsed duration) { s with now := s.now + duration } (s.tracker, [])

/-- What one event does. -/
inductive Happens (s : Session) : Event → Session → Prop where
  | call {e : Event} {k : Nat} {d : Call} {r : Tracker × List ViewCall × Turn}
      (hjob : e.job? = some (.call k)) (hdoing : s.doing (.call k) = some d)
      (htakes : s.Takes k d e r) :
      Happens s e ((s.forget (.call k)).after e (Tracker.afterCall k r))
  | worker {e : Event} {r : Tracker × List ViewCall} (hjob : e.job? = some .worker)
      (hworks : s.Works e r) : Happens s e ((s.forget .worker).after e (Tracker.afterWorker r))
  /-- A turn of the channels, or time that passes. -/
  | channel {e : Event} {b : Session} {selector : Selector} {inbox : Inbox} {outputs : List Output}
      (hjob : ∀ job, e.job? = some job → job.usesStorage = false) (hbeside : s.Beside b)
      (hchannels : ∀ o ∈ outputs, isOfChannels o = true) :
      Happens s e (b.after e ({ s.tracker with selector, inbox }, outputs))
  | called {k : Nat} {d : Call} (hnew : d.isNew = true) (hfree : s.doing (.call k) = none) :
      Happens s (.called k d) (s.after (.called k d) (s.tracker.call k d, []))
  | left : Happens s .left ((s.forget .worker).after .left (s.tracker.leave, []))
  | disturbed (faults : Scenario.Faults) : Happens s (.disturbed faults)
      ({ s with storage := { s.storage with faults } }.after (.disturbed faults) (s.tracker, []))

/-! ### Every step happens so -/

section Steps

variable {s s' : Session} {e : Event} {job : Job}

theorem Beside.refl (s : Session) : s.Beside s := ⟨rfl, rfl, rfl, fun _ _ => rfl⟩

theorem Beside.forget (s : Session) (hjob : job.usesStorage = false) : s.Beside (s.forget job) where
  tracker := rfl
  storage := rfl
  history := rfl
  answers := fun job' huses => lookup_filter_ne (by rintro rfl; rw [huses] at hjob; cases hjob) _

theorem isOfChannels_afterPush (t : Tracker) (push : Push.Channel) (acts : List Push.Act) :
    ∀ o ∈ (t.afterPush push acts).2, isOfChannels o = true := by
  intro o ho
  obtain ⟨act, _, hact⟩ := List.mem_filterMap.mp ho
  cases act <;> cases hact <;> rfl

theorem isOfChannels_asking_status (i : Nat) (taskId : Option String) :
    ∀ o ∈ Tracker.asking (.request i) (taskId.map .status), isOfChannels o = true := by
  intro o ho
  cases taskId with
  | none => simp [Tracker.asking] at ho
  | some taskId =>
    cases List.mem_singleton.mp ho
    rfl

/-- The channels touch the selector and the inbox alone. -/
theorem Stirs.happens {b : Session} {turn : Tracker × List Output} (h : s.Stirs e b turn) :
    s.Happens e (b.after e turn) := by
  have hnone : ∀ o ∈ ([] : List Output), isOfChannels o = true := fun o ho => by cases ho
  cases h with
  | watch | tick | answer => exact .channel (by rintro _ ⟨⟩; rfl) (.forget s rfl) hnone
  | @cycle c =>
    exact .channel (by rintro _ ⟨⟩; rfl) (.forget s rfl)
      (isOfChannels_afterPush s.tracker (c.run s.now).1 (c.run s.now).2)
  | request =>
    exact .channel (by rintro _ ⟨⟩; rfl) (.forget s rfl) (isOfChannels_asking_status _ _)
  | opened =>
    exact .channel (b := { s with accepted := s.accepted + 1 }) (by rintro _ ⟨⟩)
      ⟨rfl, rfl, rfl, fun _ _ => rfl⟩ hnone
  | refused | received | deafened => exact .channel (by rintro _ ⟨⟩) (.refl s) hnone
  | elapsed duration =>
    exact .channel (b := { s with now := s.now + duration }) (by rintro _ ⟨⟩)
      ⟨rfl, rfl, rfl, fun _ _ => rfl⟩ hnone

/-- What an event does that gives neither a call nor the worker a turn. -/
theorem stirs_of_step (hjob : ∀ job, e.job? = some job → job.usesStorage = false)
    (hstep : s.step e = some s') :
    (∃ b turn, s.Stirs e b turn ∧ s' = b.after e turn) ∨
      (∃ k d, d.isNew = true ∧ s.doing (.call k) = none ∧ e = .called k d ∧
        s' = s.after (.called k d) (s.tracker.call k d, [])) ∨
      (e = .left ∧ s' = (s.forget .worker).after .left (s.tracker.leave, [])) ∨
      ∃ faults, e = .disturbed faults ∧
        s' = { s with storage := { s.storage with faults } }.after (.disturbed faults)
          (s.tracker, []) := by
  cases e with
  | turn job =>
    obtain ⟨turn, hrun, rfl⟩ := Option.map_eq_some_iff.mp hstep
    cases job with
    | call | worker => cases hjob _ rfl
    | watcher k =>
      obtain ⟨_, hwatcher, hready, rfl⟩ := Tracker.run_watcher_iff.mp hrun
      exact .inl ⟨_, _, .watch hwatcher hready, rfl⟩
    | cycle =>
      obtain ⟨_, hpush, hready, rfl⟩ := Tracker.run_cycle_iff.mp hrun
      exact .inl ⟨_, _, .cycle hpush hready, rfl⟩
    | loop i =>
      obtain ⟨_, hloop, hready, rfl⟩ := Tracker.run_loop_iff.mp hrun
      exact .inl ⟨_, _, .tick hloop hready, rfl⟩
    | request i =>
      obtain ⟨_, hloop, hready, rfl⟩ := Tracker.run_request_iff.mp hrun
      exact .inl ⟨_, _, .request hloop hready, rfl⟩
  | stored job =>
    -- No such job asks the storage, so none takes an answer of it.
    obtain ⟨_, _, hstep'⟩ := Option.bind_eq_some_iff.mp hstep
    obtain ⟨_, hreply, _⟩ := Option.map_eq_some_iff.mp hstep'
    cases (Tracker.usesStorage_of_reply hreply).symm.trans (hjob job rfl)
  | answered job reply =>
    obtain ⟨hservers, hstep'⟩ := Option.ite_none_right_eq_some.mp hstep
    obtain ⟨_, hreply, rfl⟩ := Option.map_eq_some_iff.mp hstep'
    rcases Tracker.job_of_reply hservers hreply with ⟨k, rfl⟩ | ⟨i, result, rfl, rfl⟩
    · cases hjob _ rfl
    · obtain ⟨_, hloop, hsent, rfl⟩ := Tracker.reply_status_iff.mp hreply
      exact .inl ⟨_, _, .answer hloop hsent, rfl⟩
  | connected result =>
    cases result with
    -- The session counts the connections that were accepted, which is beside the tracker.
    | ok =>
      obtain ⟨_, hreply, rfl⟩ := Option.map_eq_some_iff.mp hstep
      obtain ⟨_, hpush, hphase, rfl⟩ := Tracker.reply_connected_iff.mp hreply
      exact .inl ⟨_, _, .opened hpush hphase, rfl⟩
    | error failure =>
      obtain ⟨_, hreply, rfl⟩ := Option.map_eq_some_iff.mp hstep
      obtain ⟨_, hpush, hphase, rfl⟩ := Tracker.reply_connected_iff.mp hreply
      exact .inl ⟨_, _, .refused hpush hphase, rfl⟩
  | called k d =>
    obtain ⟨hcond, heq⟩ := Option.ite_none_right_eq_some.mp hstep
    obtain ⟨hnew, hfree⟩ := (Bool.and_eq_true ..).mp hcond
    cases heq
    exact .inr (.inl ⟨k, d, hnew, Option.isNone_iff_eq_none.mp hfree, rfl, rfl⟩)
  | left => exact .inr (.inr (.inl ⟨rfl, (Option.some.inj hstep).symm⟩))
  | received incoming => exact .inl ⟨_, _, .received incoming, (Option.some.inj hstep).symm⟩
  | deafened => exact .inl ⟨_, _, .deafened, (Option.some.inj hstep).symm⟩
  | elapsed duration => exact .inl ⟨_, _, .elapsed duration, (Option.some.inj hstep).symm⟩
  | disturbed faults => exact .inr (.inr (.inr ⟨faults, rfl, (Option.some.inj hstep).symm⟩))

/-- An event with a job that asks the storage gives a call or the worker a turn. -/
theorem happens_of_usesStorage (hjob : e.job? = some job) (huses : job.usesStorage = true)
    (hstep : s.step e = some s') : s.Happens e s' := by
  cases e with
  | turn job' =>
    cases hjob
    obtain ⟨turn, hrun, rfl⟩ := Option.map_eq_some_iff.mp hstep
    cases job with
    | call k =>
      obtain ⟨d, r, hd, hrun', rfl⟩ := Tracker.run_call hrun
      exact .call rfl hd (.run hrun')
    | worker =>
      obtain ⟨r, hrun', rfl⟩ := Option.map_eq_some_iff.mp hrun
      exact .worker rfl (.run hrun')
    | _ => cases huses
  | stored job' =>
    cases hjob
    obtain ⟨answer, hanswer, hstep'⟩ := Option.bind_eq_some_iff.mp hstep
    obtain ⟨turn, hreply, rfl⟩ := Option.map_eq_some_iff.mp hstep'
    cases job with
    | call k =>
      obtain ⟨d, r, hd, hreply', rfl⟩ := Tracker.reply_call hreply
      exact .call rfl hd (.stored hanswer hreply')
    | worker =>
      obtain ⟨r, hreply', rfl⟩ := Option.map_eq_some_iff.mp hreply
      exact .worker rfl (.stored hanswer hreply')
    | _ => cases huses
  | answered job' reply =>
    cases hjob
    obtain ⟨hservers, hstep'⟩ := Option.ite_none_right_eq_some.mp hstep
    obtain ⟨turn, hreply, rfl⟩ := Option.map_eq_some_iff.mp hstep'
    rcases Tracker.job_of_reply hservers hreply with ⟨k, rfl⟩ | ⟨i, result, rfl, rfl⟩
    · obtain ⟨d, r, hd, hreply', rfl⟩ := Tracker.reply_call hreply
      exact .call rfl hd (.answered hservers hreply')
    · cases huses
  | _ => cases hjob

/-- **Every step happens so.** -/
theorem happens_of_step (hstep : s.step e = some s') : s.Happens e s' := by
  by_cases hjob : ∀ job, e.job? = some job → job.usesStorage = false
  · rcases stirs_of_step hjob hstep with ⟨b, turn, hstirs, rfl⟩ | ⟨k, d, hnew, hfree, rfl, rfl⟩ |
      ⟨rfl, rfl⟩ | ⟨faults, rfl, rfl⟩
    · exact hstirs.happens
    · exact .called hnew hfree
    · exact .left
    · exact .disturbed faults
  · obtain ⟨job, hjob⟩ := Classical.not_forall.mp hjob
    obtain ⟨hjob, huses⟩ := Classical.not_imp.mp hjob
    exact happens_of_usesStorage hjob (Bool.of_not_eq_false huses) hstep

/-- Only a call is at something else than the application of a snapshot. -/
theorem eq_call_of_doing {d : Call} (hd : s.doing job = some d)
    (hother : ∀ stage, d ≠ .settling stage .applied) : ∃ k, job = .call k := by
  cases job with
  | call k => exact ⟨k, rfl⟩
  | worker =>
    change s.tracker.worker.doing = some d at hd
    cases hw : s.tracker.worker with
    | settling stage =>
      rw [hw] at hd
      cases hd
      exact absurd rfl (hother stage)
    | _ =>
      rw [hw] at hd
      cases hd
  | _ => cases hd

/-- A call takes its turn by what it is at. -/
theorem takes_of_step {k : Nat} {d : Call} (hd : s.doing (.call k) = some d)
    (hjob : e.job? = some (.call k)) (hstep : s.step e = some s') :
    ∃ t calls turn, s.Takes k d e (t, calls, turn) ∧
      s' = (s.forget (.call k)).after e (Tracker.afterCall k (t, calls, turn)) := by
  cases happens_of_step hstep with
  | @call _ k' d' r hjob' hd' htakes =>
    cases hjob.symm.trans hjob'
    cases hd.symm.trans hd'
    exact ⟨r.1, r.2.1, r.2.2, htakes, rfl⟩
  | worker hjob' => cases hjob.symm.trans hjob'
  | channel hjob' => cases hjob' _ hjob
  | called | left | disturbed => cases hjob

/-- A call can take each of its turns. -/
theorem step_of_takes {k : Nat} {d : Call} {r : Tracker × List ViewCall × Turn}
    (hd : s.doing (.call k) = some d) (htakes : s.Takes k d e r) :
    s.step e = some ((s.forget (.call k)).after e (Tracker.afterCall k r)) := by
  have hcall : s.tracker.calls.lookup k = some d := hd
  have hreplies : ∀ reply, s.tracker.replyCall d reply = some r →
      s.tracker.reply s.now (.call k) reply = some (Tracker.afterCall k r) := by
    intro reply hreply
    cases reply <;> simp [Tracker.reply, hcall, hreply]
  cases htakes with
  | run hrun => simp [step, Tracker.run, hcall, hrun]
  | stored hanswer hreply => simp [step, hanswer, hreplies _ hreply]
  | answered hservers hreply => simp [step, hservers, hreplies _ hreply]

end Steps

end Session

end TaskTracking
