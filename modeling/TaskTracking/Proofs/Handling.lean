import TaskTracking.Proofs.Sparing

/-! # Snapshots handled at once

  What a session does does not depend on its past (`Session.Timeless`), so what is
  done is told by what it leads to and what it shows (`Session.Leads`).

  A job that handles a snapshot takes the lock, reads the stored id and carries out
  the effects. If nothing else happens in between, it comes to what the snapshot
  says of the session it found (`Session.leads_handle`).
-/

namespace TaskTracking

namespace Session

/-- What the view was told. -/
def viewed (records : List Record) : List ViewCall := records.flatMap fun r => viewCalls r.outputs

theorem viewed_append (records records' : List Record) :
    viewed (records ++ records') = viewed records ++ viewed records' :=
  List.flatMap_append

/-! ### The past makes no difference -/

/-- The session with another past. -/
def withHistory (s : Session) (history : List Record) : Session := { s with history }

/-- What is done goes on from the present alone, and adds to the past. -/
def Timeless (f : Session → Option Session) : Prop :=
  ∀ s s', f s = some s' → ∃ added, s'.history = s.history ++ added ∧
    ∀ past, f (s.withHistory past) = some (s'.withHistory (past ++ added))

theorem Timeless.bind {f g : Session → Option Session} (hf : Timeless f) (hg : Timeless g) :
    Timeless fun s => (f s).bind g := by
  intro s s' h
  obtain ⟨s₁, hfirst, hsecond⟩ := Option.bind_eq_some_iff.mp h
  obtain ⟨added, hadded, hpast⟩ := hf s s₁ hfirst
  obtain ⟨added', hadded', hpast'⟩ := hg s₁ s' hsecond
  refine ⟨added ++ added', by rw [hadded', hadded, List.append_assoc], ?_⟩
  intro past
  show (f (s.withHistory past)).bind g = _
  rw [hpast past, Option.bind_some, hpast' (past ++ added), List.append_assoc]

theorem timeless_some : Timeless some := by
  intro s s' h
  obtain rfl := Option.some.inj h
  exact ⟨[], (List.append_nil _).symm, fun past => by rw [List.append_nil]⟩

theorem perform_withHistory (s : Session) (past : List Record) (o : Output) :
    (s.withHistory past).perform o = (s.perform o).withHistory past := by
  unfold perform
  split <;> rfl

theorem foldl_perform_withHistory (outputs : List Output) (s : Session) (past : List Record) :
    outputs.foldl perform (s.withHistory past) = (outputs.foldl perform s).withHistory past := by
  induction outputs generalizing s with
  | nil => rfl
  | cons o outputs ih => rw [List.foldl_cons, List.foldl_cons, perform_withHistory, ih]

/-- What a turn adds to the history. -/
def added (s : Session) (e : Event) (turn : Tracker × List Output) : Record :=
  { event := e, applied := s.applied? e, outputs := turn.2 }

theorem after_history (s : Session) (e : Event) (turn : Tracker × List Output) :
    (s.after e turn).history = s.history ++ [s.added e turn] :=
  foldl_perform_history _ _

theorem after_withHistory (s : Session) (past : List Record) (e : Event)
    (turn : Tracker × List Output) :
    (s.withHistory past).after e turn =
      (s.after e turn).withHistory (past ++ [s.added e turn]) :=
  (foldl_perform_withHistory turn.2 (s.note e turn) (past ++ [s.added e turn]))

/-- A turn of a session that was prepared for it. -/
theorem timeless_after {f : Session → Session} {g : Session → Option (Tracker × List Output)}
    (e : Event) (hprepared : ∀ s past, f (s.withHistory past) = (f s).withHistory past ∧
      (f s).history = s.history ∧ g (s.withHistory past) = g s) :
    Timeless fun s => (g s).map ((f s).after e) := by
  intro s s' h
  obtain ⟨turn, hturn, rfl⟩ := Option.map_eq_some_iff.mp h
  refine ⟨[(f s).added e turn], ?_, ?_⟩
  · rw [after_history, (hprepared s []).2.1]
  · intro past
    obtain ⟨hf, -, hg⟩ := hprepared s past
    show (g (s.withHistory past)).map ((f (s.withHistory past)).after e) = _
    rw [hg, hf, hturn, Option.map_some, after_withHistory]

/-- Whether an event can happen, and what it does, is told by the present. -/
theorem timeless_step (e : Event) : Timeless (·.step e) := by
  -- Each event first prepares the session and then gives the tracker a turn.
  cases e with
  | turn job =>
    exact timeless_after (f := (·.forget job)) (g := fun s => s.tracker.run s.now job) _
      fun _ _ => ⟨rfl, rfl, rfl⟩
  | stored job =>
    have hstep : (fun s : Session => s.step (.stored job)) = fun s =>
        ((s.answers.lookup job).bind fun answer =>
          s.tracker.reply s.now job (.store answer)).map ((s.forget job).after (.stored job)) := by
      funext s
      exact (Option.map_bind ..).symm
    rw [hstep]
    exact timeless_after _ fun _ _ => ⟨rfl, rfl, rfl⟩
  | answered job reply =>
    cases hservers : reply.isServers with
    | false =>
      intro s s' h
      simp [step, hservers] at h
    | true =>
      have hstep : (fun s : Session => s.step (.answered job reply)) = fun s =>
          (s.tracker.reply s.now job reply).map ((s.forget job).after (.answered job reply)) := by
        funext s
        exact if_pos hservers
      rw [hstep]
      exact timeless_after _ fun _ _ => ⟨rfl, rfl, rfl⟩
  | connected result =>
    cases result with
    | ok =>
      exact timeless_after (f := fun s => { s with accepted := s.accepted + 1 })
        (g := fun s => s.tracker.reply s.now .cycle (.connected (.ok s.accepted))) _
        fun _ _ => ⟨rfl, rfl, rfl⟩
    | error failure =>
      exact timeless_after (f := id)
        (g := fun s => s.tracker.reply s.now .cycle (.connected (.error failure))) _
        fun _ _ => ⟨rfl, rfl, rfl⟩
  | called ticket call =>
    have hstep : (fun s : Session => s.step (.called ticket call)) = fun s =>
        (if (call.isNew && (s.doing (.call ticket)).isNone) = true then
          some (s.tracker.call ticket call, []) else none).map (s.after (.called ticket call)) := by
      funext s
      by_cases hnew : (call.isNew && (s.doing (.call ticket)).isNone) = true
      · simp only [step, hnew, ↓reduceIte, Option.map_some]
      · simp only [step, hnew, Bool.false_eq_true, ↓reduceIte, Option.map_none]
    rw [hstep]
    exact timeless_after (f := id) _ fun _ _ => ⟨rfl, rfl, rfl⟩
  | left =>
    exact timeless_after (f := (·.forget .worker)) (g := fun s => some (s.tracker.leave, [])) _
      fun _ _ => ⟨rfl, rfl, rfl⟩
  | received incoming =>
    exact timeless_after (f := id) (g := fun s => some (s.feel (·.receive incoming), [])) _
      fun _ _ => ⟨rfl, rfl, rfl⟩
  | deafened =>
    exact timeless_after (f := id) (g := fun s => some (s.feel (·.deafen), [])) _
      fun _ _ => ⟨rfl, rfl, rfl⟩
  | elapsed duration =>
    exact timeless_after (f := fun s => { s with now := s.now + duration })
      (g := fun s => some (s.tracker, [])) _ fun _ _ => ⟨rfl, rfl, rfl⟩
  | disturbed faults =>
    exact timeless_after (f := fun s => { s with storage := { s.storage with faults } })
      (g := fun s => some (s.tracker, [])) _ fun _ _ => ⟨rfl, rfl, rfl⟩

/-! ### What is led to -/

/-- What is done leads from one session to the other, but for the past, and shows that. -/
def Leads (f : Session → Option Session) (s s' : Session) (calls : List ViewCall) : Prop :=
  ∃ added, f s = some (s'.withHistory (s.history ++ added)) ∧ viewed added = calls

section Leads

variable {f g : Session → Option Session} {s s₁ s' : Session} {calls calls' : List ViewCall}

/-- What does not depend on the past is led to from any. -/
theorem Leads.from (hf : Timeless f) (h : Leads f s s' calls) (past : List Record) :
    ∃ added, f (s.withHistory past) = some (s'.withHistory (past ++ added)) ∧
      viewed added = calls := by
  obtain ⟨added, hrun, hviewed⟩ := h
  obtain ⟨added', hhistory, hpast⟩ := hf _ _ hrun
  have hsame : added = added' := List.append_cancel_left hhistory
  subst hsame
  exact ⟨added, hpast past, hviewed⟩

theorem Leads.bind (hg : Timeless g) (h : Leads f s s₁ calls) (h' : Leads g s₁ s' calls') :
    Leads (fun s => (f s).bind g) s s' (calls ++ calls') := by
  obtain ⟨added, hrun, hviewed⟩ := h
  obtain ⟨added', hrun', hviewed'⟩ := h'.from hg (s.history ++ added)
  refine ⟨added ++ added', ?_, ?_⟩
  · show (f s).bind g = _
    rw [hrun, Option.bind_some, hrun', List.append_assoc]
  · rw [viewed_append, hviewed, hviewed']

theorem leads_some (s : Session) : Leads some s s [] :=
  ⟨[], by rw [List.append_nil]; rfl, rfl⟩

end Leads

/-- A turn that asks the storage for nothing. -/
theorem after_of_silent (s : Session) (e : Event) {t : Tracker} {outputs : List Output}
    (hsilent : ∀ o ∈ outputs, isRequest o = false) :
    s.after e (t, outputs) =
      { s with tracker := t }.withHistory (s.history ++ [s.added e (t, outputs)]) :=
  foldl_perform_of_quiet hsilent _

/-- A turn whose last output is a request to the storage. -/
theorem after_of_request (s : Session) (e : Event) {t : Tracker} {outputs : List Output}
    (hsilent : ∀ o ∈ outputs, isRequest o = false) (job : Job) (request : Store.Request) :
    s.after e (t, outputs ++ [Output.ask job (.store request)]) =
      { s with
        tracker := t
        storage := (s.storage.answer request).2
        answers := s.answers ++ [(job, (s.storage.answer request).1)] }.withHistory
          (s.history ++ [s.added e (t, outputs ++ [Output.ask job (.store request)])]) := by
  unfold after
  rw [List.foldl_append, foldl_perform_of_quiet hsilent]
  rfl

end Session

/-! ### Where a job stands with a snapshot -/

namespace Tracker

/-- The tracker with a job at that stage of a snapshot. -/
def seat (t : Tracker) (stage : Settling) : Job → Tracker
  | .worker => { t with worker := .settling stage }
  | .call k => t.call k (.settling stage .applied)
  | _ => t

/-- Whether the job has nothing to do: the worker listens, and no call has the ticket. -/
def Vacant (t : Tracker) : Job → Prop
  | .worker => t.worker = .listening
  | .call k => t.calls.lookup k = none
  | _ => False

/-- What a job returns when its snapshot is settled; the worker returns to nobody. -/
def returns (result : Except StorageFailure Applied) : Job → List Output
  | .call k =>
    [.returned k (match result with
      | .ok applied => .ok (.applied applied)
      | .error failure => .error (.storage failure))]
  | _ => []

/-- The tracker, with what a turn puts out, once a job has got on with its snapshot. -/
def proceed (job : Job) : Tracker × List ViewCall × Settled → Tracker × List Output
  | (t, calls, .waiting stage) =>
    (t.seat stage job, calls.map .view ++ asking job (stage.ask? t.identity))
  | (t, calls, .over result) => (t, calls.map .view ++ returns result job)

theorem afterWorker_seat {t : Tracker} (h : t.worker = .listening) (stage : Settling)
    (calls : List ViewCall) (result : Except StorageFailure Applied) :
    afterWorker ({ t.seat stage .worker with worker := .listening }, calls) =
      proceed .worker (t, calls, .over result) := by
  have hfreed : ({ t.seat stage .worker with worker := .listening } : Tracker) = t := by
    show ({ t with worker := .listening } : Tracker) = t
    rw [← h]
  rw [hfreed]
  show (t, calls.map .view ++ asking .worker (t.worker.ask? t.identity)) = _
  rw [h]
  rfl

theorem afterCall_call {t : Tracker} {k : Nat} (h : t.calls.lookup k = none) (d : Call)
    (calls : List ViewCall) (settled : Settled) :
    afterCall k (t.call k d, calls, settled.turn .applied) =
      proceed (.call k) (t, calls, settled) := by
  have hcalls : (t.call k d).calls = t.calls ++ [(k, d)] := rfl
  cases settled with
  | waiting stage =>
    simp only [Settled.turn, afterCall, hcalls, replace_concat h]
    rfl
  | «over» result =>
    cases result <;>
    · simp only [Settled.turn, Turn.failed, afterCall, hcalls, filter_concat h]
      rfl

/-- A new call that applies a snapshot takes the lock, or waits for it. -/
theorem run_applying {t : Tracker} {k : Nat} (h : t.calls.lookup k = none) (x : Snapshot)
    (now : Nat) : (t.call k (.applying x)).run now (.call k) =
      some (proceed (.call k) ((t.settle x).1, [], .waiting (t.settle x).2)) := by
  have hlookup : (t.call k (.applying x)).calls.lookup k = some (.applying x) :=
    lookup_concat h _
  have hsettle : (t.call k (.applying x)).settle x =
      ((t.settle x).1.call k (.applying x), (t.settle x).2) := by
    unfold settle
    by_cases hlocked : t.locked = true
    · rw [if_pos hlocked]
      exact if_pos hlocked
    · rw [if_neg hlocked]
      exact if_neg hlocked
  have hvacant : (t.settle x).1.calls.lookup k = none := by
    unfold settle
    split <;> exact h
  show ((t.call k (.applying x)).calls.lookup k).bind _ = _
  rw [hlookup, Option.bind_some, ← afterCall_call hvacant (.applying x)]
  simp only [runCall, hsettle]
  rfl

/-- A job with a snapshot takes the storage's answer, if that leaves its seat alone. -/
theorem reply_seat {t t' : Tracker} {job : Job} (h : t.Vacant job) (h' : t'.Vacant job)
    {now : Nat} {stage : Settling} {answer : Except StorageFailure Store.Answer}
    {calls : List ViewCall} {settled : Settled}
    (hreply : (t.seat stage job).settleReply stage answer =
      some (t'.seat stage job, calls, settled)) :
    (t.seat stage job).reply now job (.store answer) = some (proceed job (t', calls, settled)) := by
  cases job with
  | worker =>
    have hworker : (t.seat stage .worker).replyWorker (.store answer) =
        ((t.seat stage .worker).settleReply stage answer).map fun
          | (t, calls, .waiting stage) => ({ t with worker := .settling stage }, calls)
          | (t, calls, .over _) => ({ t with worker := .listening }, calls) := rfl
    show ((t.seat stage .worker).replyWorker (.store answer)).map afterWorker = _
    rw [hworker, hreply]
    cases settled with
    | waiting stage' => rfl
    | «over» result => exact congrArg some (afterWorker_seat h' stage calls result)
  | call k =>
    have hlookup : (t.seat stage (.call k)).calls.lookup k = some (.settling stage .applied) :=
      lookup_concat h _
    have hturn : (t.seat stage (.call k)).replyCall (.settling stage .applied) (.store answer) =
        some (t'.seat stage (.call k), calls, settled.turn .applied) := by
      simp only [replyCall, hreply, Option.map_some]
    show ((t.seat stage (.call k)).calls.lookup k).bind _ = _
    rw [hlookup, Option.bind_some, hturn]
    exact congrArg some (afterCall_call h' _ calls settled)
  | _ => exact h.elim

/-- Whether the job can handle a snapshot at once. -/
structure Free (t : Tracker) (job : Job) : Prop where
  vacant : t.Vacant job
  unlocked : t.locked = false
  /-- On a page that was left the worker takes no more snapshots. -/
  stays : job = .worker → t.selector.left = false

end Tracker

/-! ### What a snapshot comes to -/

namespace Display

/-- The display has nothing to learn from a snapshot of a task that goes on. -/
structure Shows (d : Display) (x : Snapshot) : Prop where
  taskId : d.taskId = some x.id
  status : d.status = some x.status
  visible : d.visible = true
  percentage : d.percentage.le x.progress.clamped = true → d.percentage = x.progress.clamped
  current : x.progress.current ≤ d.current
  total : 0 < x.progress.total → d.total = x.progress.total
  message : x.progress.message ≠ "" → d.message = x.progress.message

theorem following_of_running {x : Snapshot} (h : x.isTerminal = false) (d : Display) :
    d.following x = { d.advance x with status := some x.status, visible := true } := by
  unfold Snapshot.isTerminal Status.isTerminal at h
  unfold following apply
  cases hstatus : x.status <;> simp_all

/-- What a snapshot of a task that goes on says is shown once it is applied. -/
theorem shows_following {x : Snapshot} (h : x.isTerminal = false) (d : Display) :
    (d.following x).Shows x := by
  have htask := d.following_taskId x
  rw [following_of_running h] at htask ⊢
  refine ⟨htask, rfl, rfl, ?_, ?_, ?_, ?_⟩
  · intro hle
    show (d.advance x).percentage = _
    change (d.advance x).percentage.le _ = true at hle
    rcases advance_percentage d x with hnew | ⟨hsame, hold⟩
    · exact hnew
    · -- The old percentage stayed, so it is not below that of the snapshot.
      rw [hold] at hle
      simp [advance, hsame, hle]
  · exact Nat.le_max_right _ _
  · intro htotal
    exact if_pos htotal
  · intro hmessage
    exact if_neg hmessage

theorem following_of_shows {x : Snapshot} (h : x.isTerminal = false) {d : Display}
    (hshows : d.Shows x) : d.following x = d := by
  have hpercentage : (if d.percentage.le x.progress.clamped = true then x.progress.clamped
      else d.percentage) = d.percentage := by
    by_cases hle : d.percentage.le x.progress.clamped = true
    · rw [if_pos hle, hshows.percentage hle]
    · rw [if_neg hle]
  have htotal : (if 0 < x.progress.total then x.progress.total else d.total) = d.total := by
    by_cases hpositive : 0 < x.progress.total
    · rw [if_pos hpositive, hshows.total hpositive]
    · rw [if_neg hpositive]
  have hmessage : (if x.progress.message = "" then d.message else x.progress.message) =
      d.message := by
    by_cases hempty : x.progress.message = ""
    · rw [if_pos hempty]
    · rw [if_neg hempty, hshows.message hempty]
  have hadvance : d.advance x = d := by
    unfold advance
    simp only [hshows.taskId, ↓reduceIte, decide_true, Bool.not_true, Bool.false_eq_true, false_or,
      hpercentage, Nat.max_eq_left hshows.current, htotal, hmessage]
    rw [← hshows.taskId]
  rw [following_of_running h, hadvance, ← hshows.status, ← hshows.visible]

/-- A snapshot of a task that goes on says nothing more the second time. -/
theorem following_following {x : Snapshot} (h : x.isTerminal = false) (d : Display) :
    (d.following x).following x = d.following x :=
  following_of_shows h (shows_following h d)

end Display

namespace Tracker

/-- The tracker with a snapshot shown. -/
def redraw (t : Tracker) (x : Snapshot) : Tracker :=
  { t with display := t.display.following x }

/-- The tracker of a task that a terminal snapshot has ended. -/
def close (t : Tracker) (x : Snapshot) : Tracker :=
  (({ t with
      display := t.display.following x
      selector := t.selector.unsubscribe
      current := none } : Tracker).enter .done).enter .idle

section Seat

variable {t : Tracker} {x : Snapshot} {found : Option String} {job : Job}

theorem unlock_seat (hunlocked : t.locked = false) (stage : Settling) (job : Job) :
    (t.lock.seat stage job).unlock = t.seat stage job := by
  have hfreed : t.lock.unlock = t := by
    show ({ t with locked := false } : Tracker) = t
    rw [← hunlocked]
  cases job with
  | worker => exact congrArg (fun t : Tracker => t.seat stage .worker) hfreed
  | call k => exact congrArg (fun t : Tracker => t.seat stage (.call k)) hfreed
  | _ => exact hfreed

@[simp] theorem seat_display (t : Tracker) (stage : Settling) (job : Job) :
    (t.seat stage job).display = t.display := by
  cases job <;> rfl

/-- A snapshot of another task than the stored one only gives the lock back. -/
theorem settleReply_ignored (hunlocked : t.locked = false) (job : Job)
    (hother : Store.Identity.taskId? found ≠ some x.id) :
    (t.lock.seat (.reading x) job).settleReply (.reading x) (.ok (.value found)) =
      some (t.seat (.reading x) job, [], .over (.ok { display := t.display, effects := [] })) := by
  show some (settleRead _ x found) = _
  rw [settleRead_of_ne _ hother, unlock_seat hunlocked, seat_display]
  rfl

theorem settleReply_redrawn (hunlocked : t.locked = false) (job : Job)
    (hsame : Store.Identity.taskId? found = some x.id) (hrun : x.isTerminal = false) :
    (t.lock.seat (.reading x) job).settleReply (.reading x) (.ok (.value found)) =
      some ((t.redraw x).seat (.reading x) job, [.updateProgress (t.display.following x)],
        .over (.ok (t.display.apply x (some x.id)))) := by
  have hshown : (t.lock.seat (.reading x) job).redraw x =
      (t.redraw x).lock.seat (.reading x) job := by
    cases job <;> rfl
  show some (settleRead _ x found) = _
  rw [settleRead_of_running _ hsame hrun]
  show some (((t.lock.seat (.reading x) job).redraw x).unlock, _) = _
  rw [hshown, unlock_seat (t := t.redraw x) hunlocked, seat_display]
  rfl

/-- A terminal snapshot has the stored id removed before anything else. -/
theorem settleReply_closed (t : Tracker) (job : Job)
    (hsame : Store.Identity.taskId? found = some x.id) (hend : x.isTerminal = true) :
    (t.lock.seat (.reading x) job).settleReply (.reading x) (.ok (.value found)) =
      some ((t.lock.redraw x).seat (.reading x) job, [],
        .waiting (.clearing x (t.display.apply x (some x.id)) x.lastEffects)) := by
  show some (settleRead _ x found) = _
  rw [settleRead_of_terminal _ hsame hend]
  cases job <;> rfl

/-- Whatever became of the stored id, the task is ended then. -/
theorem settleReply_finished (hunlocked : t.locked = false) (job : Job) {applied : Applied}
    (hterminal : applied.isTerminal = true) (answer : Except StorageFailure Store.Answer) :
    ((t.lock.redraw x).seat (.clearing x applied x.lastEffects) job).settleReply
        (.clearing x applied x.lastEffects) answer =
      some ((t.close x).seat (.clearing x applied x.lastEffects) job, x.closing,
        .over (.ok applied)) := by
  have hclose : (t.close x).locked = false := hunlocked
  have hlast : ((t.lock.redraw x).seat (.clearing x applied x.lastEffects) job).settleEffects
      x applied x.lastEffects =
        ((t.close x).seat (.clearing x applied x.lastEffects) job, x.closing,
          .over (.ok applied)) := by
    rw [settleEffects_last _ x hterminal, ← unlock_seat hclose]
    cases job <;> rfl
  cases answer <;> exact congrArg some hlast

end Seat

end Tracker

namespace Session

variable {s s' : Session} {x : Snapshot} {job : Job}

/-- The session when a snapshot of a task that goes on is shown. -/
def redraw (s : Session) (x : Snapshot) : Session := { s with tracker := s.tracker.redraw x }

/-- The session when a snapshot has ended the task. -/
def close (s : Session) (x : Snapshot) : Session :=
  { s with
    tracker := s.tracker.close x
    storage := { s.storage with entries := s.storage.entries.erase s.tracker.identity.key } }

/-- The session when a snapshot is handled: it counts if its task is the stored one. -/
def heed (s : Session) (x : Snapshot) : Session :=
  if s.stored = some x.id then if x.isTerminal then s.close x else s.redraw x else s

/-- What the view is told of a snapshot. -/
def notices (s : Session) (x : Snapshot) : List ViewCall :=
  if s.stored = some x.id then
    if x.isTerminal then x.closing else [.updateProgress (s.tracker.display.following x)]
  else []

theorem heed_of_other (h : s.stored ≠ some x.id) : s.heed x = s ∧ s.notices x = [] :=
  ⟨if_neg h, if_neg h⟩

theorem heed_of_running (h : s.stored = some x.id) (hrun : x.isTerminal = false) :
    s.heed x = s.redraw x ∧
      s.notices x = [.updateProgress (s.tracker.display.following x)] := by
  unfold heed notices
  simp only [if_pos h, hrun, Bool.false_eq_true, ↓reduceIte, and_self]

theorem heed_of_terminal (h : s.stored = some x.id) (hend : x.isTerminal = true) :
    s.heed x = s.close x ∧ s.notices x = x.closing := by
  unfold heed notices
  simp only [if_pos h, hend, ↓reduceIte, and_self]

/-- The session once a job has taken the lock for a snapshot and has asked for the stored id. -/
def begun (s : Session) (x : Snapshot) (job : Job) : Session :=
  { s.forget job with
    tracker := s.tracker.lock.seat (.reading x) job
    answers := (s.forget job).answers ++ [(job, .ok (.value s.found))] }

/-- A job that has begun to handle a snapshot goes on to the end. -/
def finish (job : Job) (s : Session) : Option Session :=
  if (s.doing job).isSome then s.step (.stored job) else some s

theorem timeless_finish (job : Job) : Timeless (finish job) := by
  intro s s' h
  unfold finish at h
  by_cases hdoing : (s.doing job).isSome = true
  · rw [if_pos hdoing] at h
    obtain ⟨added, hadded, hpast⟩ := timeless_step (.stored job) s s' h
    exact ⟨added, hadded, fun past => (if_pos hdoing).trans (hpast past)⟩
  · rw [if_neg hdoing] at h
    obtain ⟨added, hadded, hpast⟩ := timeless_some s s' h
    exact ⟨added, hadded, fun past => (if_neg hdoing).trans (hpast past)⟩

/-! ### The turns of a job with a snapshot -/

section Turns

variable {t t' : Tracker} {stage : Settling} {answer : Except StorageFailure Store.Answer}
  {others : List (Job × Except StorageFailure Store.Answer)} {calls : List ViewCall}

/-- The storage's answer reaches a job with a snapshot. -/
theorem step_seat {settled : Settled} (htracker : s.tracker = t.seat stage job)
    (hanswers : s.answers = others ++ [(job, answer)]) (hothers : others.lookup job = none)
    (hvacant : t.Vacant job) (hvacant' : t'.Vacant job)
    (hreply : (t.seat stage job).settleReply stage answer =
      some (t'.seat stage job, calls, settled)) :
    s.step (.stored job) = some ({ s with answers := others }.after (.stored job)
      (Tracker.proceed job (t', calls, settled))) := by
  have hforget : s.forget job = { s with answers := others } := by
    unfold forget
    rw [hanswers, filter_concat hothers]
  have hreplied : s.tracker.reply s.now job (.store answer) =
      some (Tracker.proceed job (t', calls, settled)) := by
    rw [htracker]
    exact Tracker.reply_seat hvacant hvacant' hreply
  show (s.answers.lookup job).bind _ = _
  rw [hanswers, lookup_concat hothers, Option.bind_some, hreplied, Option.map_some, hforget]

theorem viewCalls_returns (result : Except StorageFailure Applied) (job : Job) :
    viewCalls (Tracker.returns result job) = [] := by
  cases job <;> rfl

theorem silent_returns (result : Except StorageFailure Applied) (job : Job) :
    ∀ o ∈ Tracker.returns result job, isRequest o = false := by
  cases job with
  | call k => simp [Tracker.returns, isRequest]
  | _ => simp [Tracker.returns]

theorem silent_views (calls : List ViewCall) :
    ∀ o ∈ calls.map Output.view, isRequest o = false := by
  simp [isRequest]

/-- With the answer, a job can be done with its snapshot. -/
theorem leads_over {result : Except StorageFailure Applied}
    (htracker : s.tracker = t.seat stage job)
    (hanswers : s.answers = others ++ [(job, answer)]) (hothers : others.lookup job = none)
    (hvacant : t.Vacant job) (hvacant' : t'.Vacant job)
    (hreply : (t.seat stage job).settleReply stage answer =
      some (t'.seat stage job, calls, .over result)) :
    Leads (·.step (.stored job)) s { s with tracker := t', answers := others } calls := by
  have hstep := step_seat htracker hanswers hothers hvacant hvacant' hreply
  have hsilent : ∀ o ∈ calls.map Output.view ++ Tracker.returns result job,
      isRequest o = false := by
    intro o ho
    rcases List.mem_append.mp ho with hview | hreturns
    · exact silent_views calls o hview
    · exact silent_returns result job o hreturns
  refine ⟨_, hstep.trans (congrArg some (after_of_silent _ _ hsilent)), ?_⟩
  show viewCalls (calls.map .view ++ Tracker.returns result job) ++ [] = calls
  rw [List.append_nil, viewCalls_map, viewCalls_returns, List.append_nil]

/-- With the answer, a job can have to ask the storage again. -/
theorem leads_waiting {stage' : Settling} {request : Store.Request}
    (hworks : s.storage.faults = {}) (htracker : s.tracker = t.seat stage job)
    (hanswers : s.answers = others ++ [(job, answer)]) (hothers : others.lookup job = none)
    (hvacant : t.Vacant job) (hvacant' : t'.Vacant job)
    (hreply : (t.seat stage job).settleReply stage answer =
      some (t'.seat stage job, calls, .waiting stage'))
    (hask : stage'.ask? t'.identity = some (.store request)) :
    Leads (·.step (.stored job)) s
      { s with
        tracker := t'.seat stage' job
        storage := { s.storage with entries := (s.storage.entries.answer request).1 }
        answers := others ++ [(job, .ok (s.storage.entries.answer request).2)] } calls := by
  have hstep := step_seat htracker hanswers hothers hvacant hvacant' hreply
  have houtputs : Tracker.proceed job (t', calls, .waiting stage') =
      (t'.seat stage' job, calls.map Output.view ++ [Output.ask job (.store request)]) := by
    show (t'.seat stage' job, calls.map .view ++
      Tracker.asking job (stage'.ask? t'.identity)) = _
    rw [hask]
    rfl
  rw [houtputs, after_of_request _ _ (silent_views calls)] at hstep
  rw [show ({ s with answers := others } : Session).storage.answer request = _ from
    answer_of_works hworks request] at hstep
  refine ⟨_, hstep, ?_⟩
  show viewCalls (calls.map .view ++ [Output.ask job (.store request)]) ++ [] = calls
  rw [List.append_nil, viewCalls_map]
  exact List.append_nil calls

end Turns

/-! ### Handling -/

section Handle

theorem doing_of_vacant (h : s.tracker.Vacant job) : s.doing job = none := by
  cases job with
  | worker =>
    show s.tracker.worker.doing = none
    rw [(h : s.tracker.worker = .listening)]
    rfl
  | call k => exact h
  | _ => exact h.elim

theorem leads_finish_of_vacant (h : s.tracker.Vacant job) : Leads (finish job) s s [] := by
  obtain ⟨added, hrun, hviewed⟩ := leads_some s
  refine ⟨added, ?_, hviewed⟩
  unfold finish
  rw [doing_of_vacant h]
  exact hrun

theorem doing_seat {t : Tracker} {stage : Settling} (hvacant : t.Vacant job)
    (htracker : s.tracker = t.seat stage job) :
    s.doing job = some (.settling stage .applied) := by
  unfold doing
  rw [htracker]
  cases job with
  | worker => rfl
  | call k => exact lookup_concat (show t.calls.lookup k = none from hvacant) _
  | _ => exact hvacant.elim

theorem leads_finish_of_seat {t : Tracker} {stage : Settling} {calls : List ViewCall}
    (hvacant : t.Vacant job) (htracker : s.tracker = t.seat stage job)
    (h : Leads (·.step (.stored job)) s s' calls) : Leads (finish job) s s' calls := by
  obtain ⟨added, hrun, hviewed⟩ := h
  refine ⟨added, ?_, hviewed⟩
  unfold finish
  rw [doing_seat hvacant htracker]
  exact hrun

/-- A job that holds the lock for a snapshot comes to what the snapshot says, if nothing else
    happens. -/
theorem leads_begun (hworks : s.storage.faults = {}) (hfree : s.tracker.Free job) (x : Snapshot) :
    Leads (fun s => (s.step (.stored job)).bind (finish job)) (s.begun x job)
      ((s.heed x).forget job) (s.notices x) := by
  have hothers : (s.forget job).answers.lookup job = none := lookup_filter_self s.answers
  have hvacant := hfree.vacant
  have hlocked : s.tracker.lock.Vacant job := by cases job <;> exact hvacant
  by_cases hsame : s.stored = some x.id
  · cases hend : x.isTerminal with
    | false =>
      -- One answer is enough, and `finish` finds the job with nothing to do.
      have hreply := Tracker.settleReply_redrawn hfree.unlocked job hsame hend
      have hshown : (s.tracker.redraw x).Vacant job := by cases job <;> exact hvacant
      have hover := leads_over (s := s.begun x job) rfl rfl hothers hlocked hshown hreply
      have hafter := hover.bind (timeless_finish job) (leads_finish_of_vacant hshown)
      rw [(heed_of_running hsame hend).1, (heed_of_running hsame hend).2]
      exact hafter
    | true =>
      -- The job has to wait until the stored id is removed, and `finish` takes that answer.
      have hreply := Tracker.settleReply_closed s.tracker job hsame hend
      have hclosing : (s.tracker.lock.redraw x).Vacant job := by cases job <;> exact hvacant
      have hwaiting := leads_waiting (s := s.begun x job) hworks rfl rfl hothers hlocked hclosing
        hreply rfl
      have hclosed : (s.tracker.close x).Vacant job := by cases job <;> exact hvacant
      rw [(heed_of_terminal hsame hend).1, (heed_of_terminal hsame hend).2]
      refine hwaiting.bind (timeless_finish job) (leads_finish_of_seat hclosing rfl ?_)
      exact leads_over rfl rfl hothers hclosing hclosed
        (Tracker.settleReply_finished hfree.unlocked job (Display.isTerminal_apply hend) _)
  · have hreply := Tracker.settleReply_ignored hfree.unlocked job hsame
    have hover := leads_over (s := s.begun x job) rfl rfl hothers hlocked hvacant hreply
    have hafter := hover.bind (timeless_finish job) (leads_finish_of_vacant hvacant)
    rw [(heed_of_other hsame).1, (heed_of_other hsame).2]
    exact hafter

end Handle

end Session

end TaskTracking
