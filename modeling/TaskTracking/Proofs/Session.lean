import Mathlib.Data.Option.Basic
import TaskTracking.Scenario.Doubles
import TaskTracking.Tracker.Setup
import TaskTracking.Tracker.Step

/-! # Sessions

  A session is a tracker among its surroundings, as a transition system:

  - The jobs of the tracker take their turns in any order.
  - The storage performs a request when it is asked, and its answer reaches
    the job some time later. Everything else can happen in between.
  - The task server and the push endpoint answer when and what they like.
  - The page makes its control calls, and leaves, whenever it likes.

  A session keeps the history of what has happened, so what a run showed or
  returned can be spoken of at its end.
-/

namespace TaskTracking

/-! ### State -/

namespace Session

/-- Something that happens in a session. -/
inductive Event where
  /-- A job takes a turn that needs no answer. -/
  | turn (job : Job)
  /-- The storage's answer reaches the job that asked. -/
  | stored (job : Job)
  /-- The task server answers a job. -/
  | answered (job : Job) (reply : Reply)
  /-- A connection attempt ends. -/
  | connected (result : Except TransportFailure Unit)
  /-- The page makes a control call. -/
  | called (ticket : Nat) (call : Call)
  | left
  /-- Something comes in over the open connection. -/
  | received (incoming : Push.Incoming)
  /-- The peer of the open connection takes no more frames. -/
  | deafened
  | elapsed (duration : Nat)
  /-- The storage begins to fail in some of its operations, or works again. -/
  | disturbed (faults : Scenario.Faults)

/-- The job that takes a turn. -/
def Event.job? : Event → Option Job
  | .turn job | .stored job | .answered job _ => some job
  | _ => none

/-- An event of the past, with what it put out. -/
structure Record where
  event : Event
  /-- The snapshot that was being applied by the job that took the event. -/
  applied : Option Snapshot
  outputs : List Output

end Session

/-- A tracker among its surroundings. -/
structure Session where
  now : Nat := 0
  tracker : Tracker
  storage : Scenario.Storage := {}
  /-- The storage's answers that have not yet reached their jobs. -/
  answers : List (Job × Except StorageFailure Store.Answer) := []
  /-- The connections accepted so far. -/
  accepted : Nat := 0
  /-- What has happened, the oldest first. -/
  history : List Session.Record := []

/-! ### What the jobs are doing -/

/-- A call that the page can make. -/
def Call.isNew : Call → Bool
  | .entering | .resuming | .starting _ | .cancelling | .applying _ => true
  | _ => false

/-- The snapshot that is being applied. -/
def Settling.snapshot : Settling → Snapshot
  | .locking s | .reading s | .clearing s .. => s

/-- The snapshot that the call is applying. -/
def Call.snapshot? : Call → Option Snapshot
  | .settling stage _ => some stage.snapshot
  | _ => none

/-- The worker applies a snapshot as a call does that only applies one. -/
def Worker.doing : Worker → Option Call
  | .settling stage => some (.settling stage .applied)
  | _ => none

/-- What a job of the tracker is at. -/
def Tracker.doing (t : Tracker) : Job → Option Call
  | .worker => t.worker.doing
  | .call ticket => t.calls.lookup ticket
  | _ => none

/-- Whether the job can ask the storage. -/
def Job.usesStorage : Job → Bool
  | .worker | .call _ => true
  | _ => false

/-- Whether the answer is one of the task server. -/
def Reply.isServers : Reply → Bool
  | .created _ | .status _ | .cancelled _ => true
  | _ => false

/-! ### What a turn takes -/

/-- A turn that looks something up and goes on if it is ready. -/
theorem guarded_eq_some_iff {α β : Type} {o : Option α} {p : α → Prop} [DecidablePred p]
    {f : α → β} {b : β} :
    (do let a ← o; guard (p a); return f a) = some b ↔ ∃ a, o = some a ∧ p a ∧ f a = b := by
  constructor
  · intro h
    obtain ⟨a, ha, hrest⟩ := Option.bind_eq_some_iff.mp h
    obtain ⟨u, hguard, hb⟩ := Option.bind_eq_some_iff.mp hrest
    exact ⟨a, ha, (Option.guard_eq_some' u).mp hguard, Option.some.inj hb⟩
  · rintro ⟨a, rfl, hp, rfl⟩
    have hrest : (do guard (p a); return f a : Option β) = some (f a) :=
      Option.bind_eq_some_iff.mpr ⟨(), (Option.guard_eq_some' ()).mpr hp, rfl⟩
    exact Option.bind_eq_some_iff.mpr ⟨a, rfl, hrest⟩

namespace Tracker

variable {t : Tracker} {now : Nat} {turn : Tracker × List Output}

theorem run_watcher_iff {k : Nat} :
    t.run now (.watcher k) = some turn ↔ ∃ w, t.selector.watchers[k]? = some w ∧
      t.selector.watcherReady w ∧ ({ t with selector := t.selector.runWatcher k }, []) = turn :=
  guarded_eq_some_iff

theorem run_cycle_iff :
    t.run now .cycle = some turn ↔ ∃ c, t.selector.push = some c ∧ c.ready now ∧
      t.afterPush (c.run now).1 (c.run now).2 = turn :=
  guarded_eq_some_iff

theorem run_loop_iff {i : Nat} :
    t.run now (.loop i) = some turn ↔ ∃ l, t.selector.poll.loops[i]? = some l ∧
      l.ready now ∧ (t.afterPoll (t.selector.poll.runLoop now i) [], []) = turn :=
  guarded_eq_some_iff

theorem run_request_iff {i : Nat} :
    t.run now (.request i) = some turn ↔ ∃ l, t.selector.poll.loops[i]? = some l ∧
      l.requestReady ∧ (t.afterPoll (t.selector.poll.runRequest i).1 [],
        asking (.request i) ((t.selector.poll.runRequest i).2.map .status)) = turn :=
  guarded_eq_some_iff

theorem reply_connected_iff {result : Except TransportFailure Nat} :
    t.reply now .cycle (.connected result) = some turn ↔ ∃ c, t.selector.push = some c ∧
      c.phase = .connecting ∧ t.afterPush (c.attempted now result) [] = turn :=
  guarded_eq_some_iff

theorem reply_status_iff {i : Nat} {result : Except TransportFailure Snapshot} :
    t.reply now (.request i) (.status result) = some turn ↔
      ∃ l, t.selector.poll.loops[i]? = some l ∧ l.request = some .sent ∧
        (t.afterPoll (t.selector.poll.answer i t.inbox.receiving result).1
          (t.selector.poll.answer i t.inbox.receiving result).2, []) = turn :=
  guarded_eq_some_iff

/-- A control call takes a turn by what it does. -/
theorem run_call {k : Nat} (h : t.run now (.call k) = some turn) :
    ∃ d r, t.doing (.call k) = some d ∧ t.runCall d = some r ∧ afterCall k r = turn := by
  obtain ⟨d, hd, hrest⟩ := Option.bind_eq_some_iff.mp h
  obtain ⟨r, hr, hturn⟩ := Option.bind_eq_some_iff.mp hrest
  exact ⟨d, r, hd, hr, Option.some.inj hturn⟩

theorem reply_call {k : Nat} {reply : Reply} (h : t.reply now (.call k) reply = some turn) :
    ∃ d r, t.doing (.call k) = some d ∧ t.replyCall d reply = some r ∧ afterCall k r = turn := by
  have h' : (do let d ← t.calls.lookup k; let r ← t.replyCall d reply; return afterCall k r) =
      some turn := by
    cases reply <;> exact h
  obtain ⟨d, hd, hrest⟩ := Option.bind_eq_some_iff.mp h'
  obtain ⟨r, hr, hturn⟩ := Option.bind_eq_some_iff.mp hrest
  exact ⟨d, r, hd, hr, Option.some.inj hturn⟩

/-- What the storage answers goes to a call or to the worker. -/
theorem usesStorage_of_reply {job : Job} {answer : Except StorageFailure Store.Answer}
    (h : t.reply now job (.store answer) = some turn) : job.usesStorage = true := by
  cases job with
  | worker | call => rfl
  | _ => cases h

/-- What the task server answers goes to a call or to a polling loop. -/
theorem job_of_reply {job : Job} {reply : Reply} (hservers : reply.isServers = true)
    (h : t.reply now job reply = some turn) :
    (∃ k, job = .call k) ∨ ∃ i result, job = .request i ∧ reply = .status result := by
  cases job with
  | call k => exact .inl ⟨k, rfl⟩
  | request i =>
    cases reply with
    | status result => exact .inr ⟨i, result, rfl, rfl⟩
    | _ => cases h
  | worker =>
    obtain ⟨_, hworker, _⟩ := Option.map_eq_some_iff.mp h
    unfold replyWorker at hworker
    split at hworker
    · cases hservers
    · cases hworker
  | cycle =>
    cases reply with
    | connected => cases hservers
    | _ => cases h
  | _ => cases h

end Tracker

namespace Session

def doing (s : Session) (job : Job) : Option Call := s.tracker.doing job

/-- The task id that the page's identity store holds. -/
def stored (s : Session) : Option String :=
  Store.Identity.taskId? (s.storage.entries.get? s.tracker.identity.key)

/-- The snapshot whose application an event carries on. -/
def applied? (s : Session) : Event → Option Snapshot
  | .stored job => (s.doing job).bind Call.snapshot?
  | _ => none

/-! ### Steps -/

/-- Performs what an output asks of the storage. -/
def perform (s : Session) : Output → Session
  | .ask job (.store request) =>
    let (answer, storage) := s.storage.answer request
    { s with storage, answers := s.answers ++ [(job, answer)] }
  | _ => s

/-- The session with an event in its history that gave the tracker a turn. -/
def note (s : Session) (event : Event) (turn : Tracker × List Output) : Session :=
  { s with
    tracker := turn.1
    history := s.history ++ [{ event, applied := s.applied? event, outputs := turn.2 }] }

/-- The session after an event that gave the tracker a turn. -/
def after (s : Session) (event : Event) (turn : Tracker × List Output) : Session :=
  turn.2.foldl perform (s.note event turn)

/-- The session without what the storage has answered a job. A job that goes on
    waits for no earlier answer. -/
def forget (s : Session) (job : Job) : Session :=
  { s with answers := s.answers.filter (·.1 ≠ job) }

/-- The tracker with its push channel changed from outside. -/
def feel (s : Session) (f : Push.Channel → Push.Channel) : Tracker :=
  { s.tracker with selector := { s.tracker.selector with push := s.tracker.selector.push.map f } }

/-- The session after an event; none if the event cannot happen now. -/
def step (s : Session) (event : Event) : Option Session :=
  match event with
  | .turn job => (s.tracker.run s.now job).map ((s.forget job).after event)
  | .stored job =>
    (s.answers.lookup job).bind fun answer =>
      (s.tracker.reply s.now job (.store answer)).map ((s.forget job).after event)
  | .answered job reply =>
    if reply.isServers then (s.tracker.reply s.now job reply).map ((s.forget job).after event)
    else none
  | .connected (.ok ()) =>
    (s.tracker.reply s.now .cycle (.connected (.ok s.accepted))).map
      ({ s with accepted := s.accepted + 1 }.after event)
  | .connected (.error failure) =>
    (s.tracker.reply s.now .cycle (.connected (.error failure))).map (s.after event)
  | .called ticket call =>
    if call.isNew && (s.doing (.call ticket)).isNone then
      some (s.after event (s.tracker.call ticket call, []))
    else none
  | .left => some ((s.forget .worker).after event (s.tracker.leave, []))
  | .received incoming => some (s.after event (s.feel (·.receive incoming), []))
  | .deafened => some (s.after event (s.feel (·.deafen), []))
  | .elapsed duration => some ({ s with now := s.now + duration }.after event (s.tracker, []))
  | .disturbed faults =>
    some ({ s with storage := { s.storage with faults } }.after event (s.tracker, []))

/-! ### Runs -/

/-- The session in which a tracker begins. -/
def opened (tracker : Tracker) (entries : Store.Entries) : Session :=
  { tracker, storage := { entries } }

/-- The sessions that come of `s₀` by events that are allowed where they happen. -/
inductive Reaches (allowed : Session → Event → Prop) (s₀ : Session) : Session → Prop where
  | refl : Reaches allowed s₀ s₀
  | step : ∀ {s s'} e, Reaches allowed s₀ s → allowed s e → s.step e = some s' →
      Reaches allowed s₀ s'

/-- Plays events one after another, as long as they are allowed and can happen. -/
def play (allowed : Session → Event → Prop) [∀ s e, Decidable (allowed s e)] :
    List Event → Session → Option Session
  | [], s => some s
  | e :: es, s => if allowed s e then (s.step e).bind (play allowed es) else none

theorem Reaches.trans {allowed : Session → Event → Prop} {s₀ s₁ s₂ : Session}
    (h₁ : Reaches allowed s₀ s₁) (h₂ : Reaches allowed s₁ s₂) : Reaches allowed s₀ s₂ := by
  induction h₂ with
  | refl => exact h₁
  | step e _ ha hs ih => exact .step e ih ha hs

theorem play_cons_iff {allowed : Session → Event → Prop} [∀ s e, Decidable (allowed s e)]
    {e : Event} {es : List Event} {s₀ s : Session} : play allowed (e :: es) s₀ = some s ↔
      allowed s₀ e ∧ ∃ s₁, s₀.step e = some s₁ ∧ play allowed es s₁ = some s := by
  rw [play, Option.ite_none_right_eq_some, Option.bind_eq_some_iff]

/-- Whatever is played is reached. -/
theorem reaches_of_play {allowed : Session → Event → Prop} [∀ s e, Decidable (allowed s e)]
    {es : List Event} {s₀ s : Session} (h : play allowed es s₀ = some s) :
    Reaches allowed s₀ s := by
  induction es generalizing s₀ with
  | nil =>
    rw [play, Option.some.injEq] at h
    exact h ▸ .refl
  | cons e es ih =>
    obtain ⟨ha, s₁, hs, hrest⟩ := play_cons_iff.mp h
    exact (Reaches.step e .refl ha hs).trans (ih hrest)

/-- What is played under one rule is played under every rule that allows more. -/
theorem play_mono {allowed allowed' : Session → Event → Prop} [∀ s e, Decidable (allowed s e)]
    [∀ s e, Decidable (allowed' s e)] (hle : ∀ s e, allowed s e → allowed' s e) {es : List Event}
    {s₀ s : Session} (h : play allowed es s₀ = some s) : play allowed' es s₀ = some s := by
  induction es generalizing s₀ with
  | nil => exact h
  | cons e es ih =>
    obtain ⟨ha, s₁, hs, hrest⟩ := play_cons_iff.mp h
    exact play_cons_iff.mpr ⟨hle _ _ ha, s₁, hs, ih hrest⟩

/-- A run under one rule is a run under every rule that allows more. -/
theorem Reaches.mono {allowed allowed' : Session → Event → Prop} {s₀ s : Session}
    (hle : ∀ s e, allowed s e → allowed' s e) (h : Reaches allowed s₀ s) :
    Reaches allowed' s₀ s := by
  induction h with
  | refl => exact .refl
  | step e _ ha hs ih => exact .step e ih (hle _ _ ha) hs

/-! ### Rest -/

/-- Nothing can go on unless time passes or something comes from outside. Answers
    of the task server may still be awaited. -/
def AtRest (s : Session) : Prop :=
  s.answers = [] ∧ ∀ job, (s.tracker.run s.now job).isNone

/-- Only the jobs that the tracker has can have a turn. -/
theorem run_eq_none_of_not_mem {t : Tracker} {now : Nat} {job : Job} (h : job ∉ t.jobs) :
    t.run now job = none := by
  simp only [Tracker.jobs, List.mem_append, List.mem_map, List.mem_range, List.mem_singleton,
    not_or, not_exists, not_and] at h
  cases job with
  | worker => simp at h
  | watcher k =>
    have hk : t.selector.watchers.length ≤ k := Nat.le_of_not_lt fun hlt => h.1.1.1.1.2 k hlt rfl
    rw [Tracker.run, List.getElem?_eq_none hk]
    rfl
  | cycle => simp at h
  | loop i =>
    have hi : t.selector.poll.loops.length ≤ i := Nat.le_of_not_lt fun hlt => h.1.1.2 i hlt rfl
    rw [Tracker.run, List.getElem?_eq_none hi]
    rfl
  | request i =>
    have hi : t.selector.poll.loops.length ≤ i := Nat.le_of_not_lt fun hlt => h.1.2 i hlt rfl
    rw [Tracker.run, List.getElem?_eq_none hi]
    rfl
  | call k =>
    have hk : t.calls.lookup k = none := by
      rw [List.lookup_eq_none_iff]
      intro c hc
      have hne := h.2 c hc
      simp only [Job.call.injEq] at hne
      simpa using Ne.symm hne
    rw [Tracker.run, hk]
    rfl

/-- It is enough to ask the jobs that there are. -/
theorem atRest_iff {s : Session} :
    s.AtRest ↔ s.answers.isEmpty ∧ ∀ job ∈ s.tracker.jobs, (s.tracker.run s.now job).isNone := by
  constructor
  · rintro ⟨hempty, hrest⟩
    exact ⟨by simp [hempty], fun job _ => hrest job⟩
  · rintro ⟨hempty, hrest⟩
    refine ⟨by simpa using hempty, fun job => ?_⟩
    by_cases hmem : job ∈ s.tracker.jobs
    · exact hrest job hmem
    · simp [run_eq_none_of_not_mem hmem]

instance (s : Session) : Decidable s.AtRest := decidable_of_iff _ atRest_iff.symm

/-! ### A page -/

/-- The settings of a page that only polls. -/
def pollingPage : Config :=
  .ofPage .screening { baseUrl := { scheme := "http", path := .segments [] } }

/-- The session in which the tracker of that page begins, and a task id is stored. -/
def polling (stored : String) : Session :=
  opened
    { identity := ⟨pollingPage.pageKey⟩
      selector :=
        { push := none
          poll :=
            { interval := pollingPage.pollInterval, threshold := pollingPage.stallThreshold } } }
    (.ofList [(pollingPage.pageKey, stored)])

end Session

end TaskTracking
