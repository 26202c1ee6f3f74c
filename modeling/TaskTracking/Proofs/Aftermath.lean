import TaskTracking.Proofs.Events

/-! # After a turn

  A job that goes on has its new request performed at once (`Session.Turned`). So
  what is stored after a turn, and what the job will be answered, is told by what
  the job is at (`Session.Turned.found`, `Session.Turned.answered`).
-/

namespace TaskTracking

/-- What of an ask the storage is to perform. -/
def Ask.request? : Ask → Option Store.Request
  | .store request => some request
  | _ => none

/-! ### What the jobs are at after a turn -/

namespace Tracker

theorem doing_replace {t : Tracker} {k : Nat} (h : (t.calls.lookup k).isSome) (d : Call) :
    ({ t with calls := t.calls.map fun c => if c.1 = k then (k, d) else c } : Tracker).doing =
      Function.update t.doing (.call k) (some d) := by
  funext job
  by_cases hj : job = .call k
  · subst hj
    rw [Function.update_self]
    obtain ⟨d', hd'⟩ := Option.isSome_iff_exists.mp h
    simp only [doing, lookup_replace, hd', Option.map_some, ↓reduceIte]
  · rw [Function.update_of_ne hj]
    cases job with
    | call k' =>
      have hk' : k' ≠ k := fun heq => hj (by rw [heq])
      simp only [doing, lookup_replace, hk', ↓reduceIte]
    | _ => rfl

theorem doing_filter (t : Tracker) (k : Nat) :
    ({ t with calls := t.calls.filter (·.1 ≠ k) } : Tracker).doing =
      Function.update t.doing (.call k) none := by
  funext job
  by_cases hj : job = .call k
  · subst hj
    rw [Function.update_self]
    exact lookup_filter_self t.calls
  · rw [Function.update_of_ne hj]
    cases job with
    | call k' =>
      have hk' : k' ≠ k := fun heq => hj (by rw [heq])
      exact lookup_filter_ne hk' t.calls
    | _ => rfl

theorem doing_call {t : Tracker} {k : Nat} (h : t.doing (.call k) = none) (d : Call) :
    (t.call k d).doing = Function.update t.doing (.call k) (some d) := by
  have hk : t.calls.lookup k = none := h
  funext job
  by_cases hj : job = .call k
  · subst hj
    rw [Function.update_self]
    simp [doing, call, List.lookup_append, hk]
  · rw [Function.update_of_ne hj]
    cases job with
    | call k' =>
      have hk' : k' ≠ k := fun heq => hj (by rw [heq])
      simp [doing, call, List.lookup_append, lookup_cons_eq, hk']
    | _ => rfl

theorem doing_startBackground (t : Tracker) : t.startBackground.doing = t.doing := by
  unfold startBackground
  split
  · next h =>
    funext job
    cases job <;> simp [doing, Worker.doing, h]
  · rfl

/-- The trackers have the same place in the store and the same jobs in progress. -/
structure Keeps (t t' : Tracker) : Prop where
  identity : t'.identity = t.identity
  calls : t'.calls = t.calls
  doing : t'.doing = t.doing

theorem Keeps.refl (t : Tracker) : t.Keeps t := ⟨rfl, rfl, rfl⟩

theorem Keeps.trans {t t' t'' : Tracker} (h : t.Keeps t') (h' : t'.Keeps t'') : t.Keeps t'' :=
  ⟨h'.identity.trans h.identity, h'.calls.trans h.calls, h'.doing.trans h.doing⟩

theorem keeps_startBackground (t : Tracker) : t.Keeps t.startBackground := by
  refine ⟨?_, ?_, doing_startBackground t⟩
  · unfold startBackground
    split <;> rfl
  · unfold startBackground
    split <;> rfl

theorem keeps_enterPage (t : Tracker) : t.Keeps t.enterPage.1 :=
  (keeps_startBackground t).trans ⟨rfl, rfl, rfl⟩

theorem keeps_settle (t : Tracker) (s : Snapshot) : t.Keeps (t.settle s).1 := by
  unfold settle
  split <;> exact ⟨rfl, rfl, rfl⟩

theorem keeps_carryOut (t : Tracker) (s : Snapshot) (d : Display) (effects : List Effect) :
    t.Keeps (t.carryOut s d effects).1 := by
  induction effects generalizing t with
  | nil => exact .refl t
  | cons effect effects ih =>
    cases effect with
    | clearIdentity => exact .refl t
    | stopChannels =>
      have hkeeps : t.Keeps { t with selector := t.selector.unsubscribe } := ⟨rfl, rfl, rfl⟩
      exact hkeeps.trans (ih _)
    | _ => exact ih t

theorem keeps_settleEffects (t : Tracker) (s : Snapshot) (a : Applied) (effects : List Effect) :
    t.Keeps (t.settleEffects s a effects).1 := by
  have hkeeps := keeps_carryOut t s a.display effects
  unfold settleEffects
  split
  · next heq =>
    rw [heq] at hkeeps
    exact hkeeps
  · next heq =>
    rw [heq] at hkeeps
    unfold endSettling
    split <;> exact hkeeps.trans ⟨rfl, rfl, rfl⟩

theorem keeps_settleRead (t : Tracker) (s : Snapshot) (found : Option String) :
    t.Keeps (t.settleRead s found).1 := by
  unfold settleRead
  dsimp only
  split
  · exact ⟨rfl, rfl, rfl⟩
  · have hkeeps : t.Keeps
        { t with display := (t.display.apply s (Store.Identity.taskId? found)).display } :=
      ⟨rfl, rfl, rfl⟩
    exact hkeeps.trans (keeps_settleEffects ..)

theorem keeps_settleReply {t : Tracker} {stage : Settling}
    {answer : Except StorageFailure Store.Answer} {r : Tracker × List ViewCall × Settled}
    (hreply : t.settleReply stage answer = some r) : t.Keeps r.1 := by
  unfold settleReply at hreply
  split at hreply
  · cases hreply
    exact ⟨rfl, rfl, rfl⟩
  · exact Option.some.inj hreply ▸ keeps_settleRead t _ _
  · exact Option.some.inj hreply ▸ keeps_settleEffects t _ _ _
  · cases hreply

/-- A turn of a call is its own affair. -/
theorem CallTurn.keeps {t : Tracker} {d : Call} {reply : Option Reply}
    {r : Tracker × List ViewCall × Turn} (h : t.CallTurn d reply r) : t.Keeps r.1 := by
  cases h with
  | enter => exact keeps_enterPage t
  | start =>
    have hkeeps : t.Keeps (t.enter .creating) := ⟨rfl, rfl, rfl⟩
    exact hkeeps.trans (keeps_startBackground _)
  | apply => exact keeps_settle t _
  -- A resume that has its task's status first makes the task the tracker's own.
  | @conclude taskId =>
    have hkeeps : t.Keeps { t with current := some taskId } := ⟨rfl, rfl, rfl⟩
    exact hkeeps.trans (keeps_settle _ _)
  | @track taskId =>
    have hkeeps : t.Keeps (t.beginTracking taskId).1 := ⟨rfl, rfl, rfl⟩
    exact hkeeps.trans (keeps_settle _ _)
  | settle hsettle => exact keeps_settleReply hsettle
  | _ => exact ⟨rfl, rfl, rfl⟩

/-- The worker's turns touch no call. -/
theorem WorkerTurn.keeps {t : Tracker} {r : Tracker × List ViewCall} (h : t.WorkerTurn r) :
    r.1.identity = t.identity ∧ r.1.calls = t.calls := by
  cases h with
  | @take source s rest =>
    have hkeeps := keeps_settle { t with inbox := { t.inbox with queue := rest } } s
    exact ⟨hkeeps.identity, hkeeps.calls⟩
  | _ => exact ⟨rfl, rfl⟩

theorem keeps_replyWorker {t : Tracker} {answer : Except StorageFailure Store.Answer}
    {r : Tracker × List ViewCall} (hreply : t.replyWorker (.store answer) = some r) :
    r.1.identity = t.identity ∧ r.1.calls = t.calls := by
  obtain ⟨stage, t₁, settled, -, hsettle, ht, -⟩ := replyWorker_spec hreply
  have hkeeps := keeps_settleReply hsettle
  exact ⟨ht ▸ hkeeps.identity, ht ▸ hkeeps.calls⟩

/-- A call in progress is kept apart from the rest of the tracker. -/
theorem afterCall_fst (k : Nat) (t : Tracker) (calls : List ViewCall) (turn : Turn) :
    ∃ cs, (afterCall k (t, calls, turn)).1 = { t with calls := cs } := by
  cases turn with
  | waiting d => exact ⟨_, rfl⟩
  | «over» result => exact ⟨_, rfl⟩

theorem workerHolds_eq (t : Tracker) : t.workerHolds = t.worker.doing.any Call.holds := by
  unfold Tracker.workerHolds
  split
  · next hw => rw [hw]; rfl
  · next hw => rw [hw]; rfl
  · next hread hclear =>
    cases hw : t.worker with
    | settling stage =>
      cases stage with
      | locking => rfl
      | reading s => exact absurd hw (hread s)
      | clearing s applied rest => exact absurd hw (hclear s applied rest)
    | _ => rfl

/-- A page that is left has its worker give up, and takes the lock from it. -/
theorem leave_spec (t : Tracker) :
    t.leave.identity = t.identity ∧ t.leave.calls = t.calls ∧ t.leave.worker.doing = none ∧
      t.leave.locked = (t.locked && !t.worker.doing.any Call.holds) := by
  rw [← workerHolds_eq]
  unfold leave
  dsimp only
  split
  · next hworker => exact ⟨rfl, rfl, by rw [hworker]; rfl, by simp [workerHolds, hworker]⟩
  · exact ⟨rfl, rfl, rfl, rfl⟩

end Tracker

namespace Session

theorem doing_of_worker {s : Session} {t : Tracker} (hcalls : t.calls = s.tracker.calls) :
    t.doing = Function.update s.doing .worker t.worker.doing := by
  funext job
  by_cases hj : job = .worker
  · subst hj
    rw [Function.update_self]
    rfl
  · rw [Function.update_of_ne hj]
    cases job with
    | worker => exact absurd rfl hj
    | call k =>
      change t.calls.lookup k = s.tracker.calls.lookup k
      rw [hcalls]
    | _ => rfl

/-- A page that is left has its worker give up. -/
theorem doing_left (s : Session) :
    ((s.forget .worker).after .left (s.tracker.leave, [])).doing =
      Function.update s.doing .worker none := by
  obtain ⟨_, hcalls, hworker, _⟩ := s.tracker.leave_spec
  unfold doing
  rw [after_tracker, ← hworker]
  exact doing_of_worker hcalls

theorem Takes.keeps {s : Session} {k : Nat} {d : Call} {e : Event}
    {r : Tracker × List ViewCall × Turn} (h : s.Takes k d e r) : s.tracker.Keeps r.1 := by
  obtain ⟨_, _, hturn⟩ := h.callTurn
  exact hturn.keeps

theorem Works.keeps {s : Session} {e : Event} {r : Tracker × List ViewCall} (h : s.Works e r) :
    r.1.identity = s.tracker.identity ∧ r.1.calls = s.tracker.calls := by
  cases h with
  | run hrun => exact (Tracker.workerTurn_of_runWorker hrun).keeps
  | stored _ hreply => exact Tracker.keeps_replyWorker hreply

/-- A new call is begun, and no other job goes on. -/
theorem doing_called {s : Session} {k : Nat} (hfree : s.doing (.call k) = none) (d : Call) :
    (s.after (.called k d) (s.tracker.call k d, [])).doing =
      Function.update s.doing (.call k) (some d) := by
  unfold doing
  rw [after_tracker]
  exact Tracker.doing_call hfree d

/-! ### A job after its turn -/

/-- What the storage makes of an ask, if it is one for the storage. -/
def performed? (s : Session) (ask : Option Ask) :
    Option (Except StorageFailure Store.Answer × Scenario.Storage) :=
  (ask.bind Ask.request?).map s.storage.answer

/-- Job `j` has gone on to `next`, and asks the storage at once if it waits for it. -/
structure Turned (s : Session) (j : Job) (next : Option Call) (s' : Session) : Prop where
  identity : s'.tracker.identity = s.tracker.identity
  doing : s'.doing = Function.update s.doing j next
  storage : s'.storage = ((s.performed? (next.bind fun d => d.ask? s.tracker.identity)).map
    Prod.snd).getD s.storage
  answer : s'.answers.lookup j =
    (s.performed? (next.bind fun d => d.ask? s.tracker.identity)).map Prod.fst
  others : ∀ i, i ≠ j → s'.answers.lookup i = s.answers.lookup i

section Turned

variable {s : Session} {e : Event} {t : Tracker} {calls : List ViewCall}

theorem after_quiet (b : Session) {outputs : List Output}
    (hquiet : ∀ o ∈ outputs, isRequest o = false) :
    b.after e (t, outputs) = b.note e (t, outputs) := by
  unfold after
  exact foldl_perform_of_quiet hquiet _

/-- The channels ask nothing of the storage. -/
theorem quiet_of_channels {outputs : List Output} (h : ∀ o ∈ outputs, isOfChannels o = true) :
    ∀ o ∈ outputs, isRequest o = false := by
  intro o ho
  have hchannel := h o ho
  unfold isOfChannels at hchannel
  split at hchannel <;> first | rfl | cases hchannel

/-- A job without a request has its answers forgotten. -/
theorem turned_of_quiet {j : Job} {next : Option Call} (hid : t.identity = s.tracker.identity)
    (hdoing : t.doing = Function.update s.doing j next)
    (hask : (next.bind fun d => d.ask? s.tracker.identity).bind Ask.request? = none)
    {outputs : List Output} (hquiet : ∀ o ∈ outputs, isRequest o = false) :
    s.Turned j next ((s.forget j).after e (t, outputs)) := by
  rw [after_quiet _ hquiet]
  unfold note
  refine ⟨hid, hdoing, ?_, ?_, fun i hne => lookup_filter_ne hne _⟩
  · unfold performed?
    rw [hask]
    rfl
  · unfold performed?
    rw [hask]
    exact lookup_filter_self _

/-- A job with a request has it performed. -/
theorem turned_of_request {j : Job} {d : Call} {request : Store.Request}
    (hid : t.identity = s.tracker.identity)
    (hdoing : t.doing = Function.update s.doing j (some d))
    (hask : d.ask? s.tracker.identity = some (.store request)) :
    s.Turned j (some d)
      ((s.forget j).after e (t, calls.map .view ++ Tracker.asking j (some (.store request)))) := by
  have hperformed : s.performed? (Option.bind (some d) fun d => d.ask? s.tracker.identity) =
      some (s.storage.answer request) := by
    simp [performed?, hask, Ask.request?]
  unfold after
  rw [List.foldl_append, foldl_perform_of_quiet isRequest_views]
  refine ⟨?_, ?_, ?_, ?_, fun i hne => ?_⟩
  · exact hid
  · exact hdoing
  · rw [hperformed]
    rfl
  · rw [hperformed]
    change ((s.answers.filter (·.1 ≠ j)) ++ [(j, (s.storage.answer request).1)]).lookup j = _
    rw [List.lookup_append, lookup_filter_self]
    simp
  · change ((s.answers.filter (·.1 ≠ j)) ++ [(j, (s.storage.answer request).1)]).lookup i = _
    rw [List.lookup_append, lookup_filter_ne hne, lookup_cons_eq, if_neg hne]
    simp

/-- A job that asks for something goes on so. -/
theorem turned_of_asking {j : Job} {d : Call} (hid : t.identity = s.tracker.identity)
    (hdoing : t.doing = Function.update s.doing j (some d)) :
    s.Turned j (some d) ((s.forget j).after e
      (t, calls.map .view ++ Tracker.asking j (d.ask? t.identity))) := by
  rw [hid]
  cases hask : d.ask? s.tracker.identity with
  | some ask =>
    cases ask with
    -- Only a request to the storage is performed within the event.
    | store request => exact turned_of_request hid hdoing hask
    | _ =>
      refine turned_of_quiet hid hdoing (by simp [hask, Ask.request?]) ?_
      intro o ho
      simp only [Tracker.asking, Option.map_some, Option.toList_some, List.mem_append,
        List.mem_map, List.mem_singleton] at ho
      rcases ho with ⟨_, _, rfl⟩ | rfl <;> rfl
  | none =>
    refine turned_of_quiet hid hdoing (by simp [hask]) ?_
    simp only [Tracker.asking, Option.map_none, Option.toList_none, List.append_nil]
    exact isRequest_views

theorem turned_of_call {k : Nat} {d : Call} {turn : Turn} (hd : s.doing (.call k) = some d)
    (hkeeps : s.tracker.Keeps t) :
    s.Turned (.call k) turn.next
      ((s.forget (.call k)).after e (Tracker.afterCall k (t, calls, turn))) := by
  cases turn with
  | waiting d' =>
    -- The call has its place among the calls in progress, where it is replaced.
    have hlookup : (t.calls.lookup k).isSome := by
      rw [hkeeps.calls, show s.tracker.calls.lookup k = some d from hd]
      rfl
    have hdoing := Tracker.doing_replace hlookup d'
    rw [hkeeps.doing] at hdoing
    have hid : ({ t with calls := t.calls.map fun c => if c.1 = k then (k, d') else c } :
        Tracker).identity = s.tracker.identity := hkeeps.identity
    exact turned_of_asking hid hdoing
  | «over» result =>
    have hdoing := Tracker.doing_filter t k
    rw [hkeeps.doing] at hdoing
    have hid : ({ t with calls := t.calls.filter (·.1 ≠ k) } : Tracker).identity =
        s.tracker.identity := hkeeps.identity
    exact turned_of_quiet hid hdoing rfl isRequest_returned

theorem turned_of_worker (hid : t.identity = s.tracker.identity)
    (hcalls : t.calls = s.tracker.calls) :
    s.Turned .worker t.worker.doing
      ((s.forget .worker).after e (Tracker.afterWorker (t, calls))) := by
  have hdoing := doing_of_worker (s := s) hcalls
  cases hworker : t.worker with
  | settling stage =>
    rw [hworker] at hdoing
    rw [Tracker.afterWorker, hworker]
    exact turned_of_asking (d := .settling stage .applied) hid hdoing
  | _ =>
    rw [hworker] at hdoing
    simp only [Tracker.afterWorker, hworker, Worker.ask?, Tracker.asking, Option.map_none,
      Option.toList_none, List.append_nil]
    exact turned_of_quiet hid hdoing rfl isRequest_views

/-- A call that an event gives a turn. -/
theorem turned_of_takes {k : Nat} {d : Call} {turn : Turn} (hd : s.doing (.call k) = some d)
    (htakes : s.Takes k d e (t, calls, turn)) :
    s.Turned (.call k) turn.next
      ((s.forget (.call k)).after e (Tracker.afterCall k (t, calls, turn))) :=
  turned_of_call hd htakes.keeps

/-- A call goes on as its turn says. -/
theorem turned_of_step {k : Nat} {d : Call} (hd : s.doing (.call k) = some d)
    (hjob : e.job? = some (.call k)) (hstep : s.step e = some s') :
    ∃ t calls turn, s.Takes k d e (t, calls, turn) ∧ s.Turned (.call k) turn.next s' := by
  obtain ⟨t, calls, turn, htakes, rfl⟩ := takes_of_step hd hjob hstep
  exact ⟨t, calls, turn, htakes, turned_of_takes hd htakes⟩

/-- A worker that an event gives a turn. -/
theorem turned_of_works (hworks : s.Works e (t, calls)) :
    s.Turned .worker t.worker.doing
      ((s.forget .worker).after e (Tracker.afterWorker (t, calls))) :=
  turned_of_worker hworks.keeps.1 hworks.keeps.2

end Turned

/-! ### What is stored after a turn -/

section Found

variable {s s' : Session} {j : Job} {next : Option Call} {d : Call}

/-- A request that is performed leaves what the call says. -/
theorem leaving_of_answer {request : Store.Request}
    (hask : d.ask? s.tracker.identity = some (.store request)) :
    (s.storage.entries.answer request).1.get? s.tracker.identity.key = d.leaving s.found := by
  cases d with
  | settling stage goal =>
    cases stage with
    | locking => cases hask
    | reading => cases hask; rfl
    | clearing => cases hask; exact Store.Entries.get?_erase ..
  | loading => cases hask; rfl
  | saving => cases hask; exact Store.Entries.get?_put ..
  | forgetting | erasing => cases hask; exact Store.Entries.get?_erase ..
  | _ => cases hask

theorem leaving_of_unasked (hask : (d.ask? s.tracker.identity).bind Ask.request? = none) :
    d.leaving s.found = s.found := by
  cases d with
  | settling stage goal =>
    cases stage with
    | clearing => cases hask
    | _ => rfl
  | saving | forgetting | erasing => cases hask
  | _ => rfl

/-- The storage does what a job asks for, or fails and changes nothing. -/
theorem found_of_turned (hturned : s.Turned j next s') :
    s'.found = next.elim s.found (Call.leaving s.found) ∨
      s'.found = s.found ∧ s.storage.faults ≠ {} := by
  have hstorage := hturned.storage
  unfold found
  rw [hturned.identity]
  cases next with
  | none =>
    rw [hstorage]
    exact .inl rfl
  | some d =>
    change s'.storage = ((s.performed? (d.ask? s.tracker.identity)).map Prod.snd).getD _ at hstorage
    cases hask : (d.ask? s.tracker.identity).bind Ask.request? with
    | none =>
      unfold performed? at hstorage
      rw [hask] at hstorage
      rw [hstorage]
      exact .inl (leaving_of_unasked hask).symm
    | some request =>
      unfold performed? at hstorage
      rw [hask] at hstorage
      have hrequest : d.ask? s.tracker.identity = some (.store request) := by
        obtain ⟨ask, hask', hrequest⟩ := Option.bind_eq_some_iff.mp hask
        rw [hask']
        cases ask <;> cases hrequest
        rfl
      change s'.storage = (s.storage.answer request).2 at hstorage
      -- A request is performed as a whole, or it fails and leaves the entries as they are.
      unfold Scenario.Storage.answer at hstorage
      cases hfaults : s.storage.faults.of request with
      | none =>
        rw [hfaults] at hstorage
        rw [hstorage]
        exact .inl (leaving_of_answer hrequest)
      | some message =>
        rw [hfaults] at hstorage
        rw [hstorage]
        refine .inr ⟨rfl, fun hworks => ?_⟩
        rw [hworks] at hfaults
        cases request <;> cases hfaults

/-- A storage that works does what a job asks for. -/
theorem Turned.found (hturned : s.Turned j next s') (hworks : s.storage.faults = {}) :
    s'.found = next.elim s.found (Call.leaving s.found) :=
  (found_of_turned hturned).resolve_right fun hfails => hfails.2 hworks

/-- A storage that works has an answer for a job that asks it. -/
theorem Turned.answered (hturned : s.Turned j next s') (hworks : s.storage.faults = {}) :
    s'.answers.lookup j = (next.bind (Call.answered s.found)).map .ok := by
  have hanswer : ∀ request : Store.Request,
      (s.storage.answer request).1 = .ok (s.storage.entries.answer request).2 := by
    intro request
    unfold Scenario.Storage.answer
    rw [hworks]
    cases request <;> rfl
  rw [hturned.answer]
  cases next with
  | none => rfl
  | some d =>
    -- The calls differ in their requests; what one is answered is the same fact for all.
    have hperformed : ∀ request, d.ask? s.tracker.identity = some (.store request) →
        d.answered s.found = some (s.storage.entries.answer request).2 →
        (s.performed? ((some d).bind fun d => d.ask? s.tracker.identity)).map Prod.fst =
          ((some d).bind (Call.answered s.found)).map Except.ok := by
      intro request hask hanswered
      simp [performed?, hask, Ask.request?, hanswer, hanswered]
    cases d with
    | loading | saving | forgetting | erasing => exact hperformed _ rfl rfl
    | settling stage goal =>
      cases stage with
      | locking => rfl
      | reading | clearing => exact hperformed _ rfl rfl
    | _ => rfl

/-- A job that begins to read is told what is stored, if anything. -/
theorem told_of_asked {taskId : String}
    (hask : d.ask? s.tracker.identity = some (.store s.tracker.identity.load))
    (hturned : s.Turned j (some d) s') (htold : s'.told j = some taskId) :
    s.stored = some taskId := by
  have hanswer : s'.answers.lookup j =
      some (s.storage.answer (.get s.tracker.identity.key)).1 := by
    rw [hturned.answer]
    simp [performed?, hask, Ask.request?, Store.Identity.load]
  unfold told pending at htold
  rw [hanswer] at htold
  unfold Scenario.Storage.answer at htold
  cases hfaults : s.storage.faults.of (.get s.tracker.identity.key) with
  | none =>
    rw [hfaults] at htold
    exact htold
  | some message =>
    rw [hfaults] at htold
    cases htold

end Found

end Session

end TaskTracking
