import TaskTracking.Proofs.Coherence
import TaskTracking.Proofs.Handover
import TaskTracking.Proofs.Sparing

/-! # Entering a page

  A page is only entered, one enter at a time. Before it tracks a task its channels
  deliver nothing, so the page is calm but for the enter under way
  (`Session.Calm`), whose turns are told one by one. When a stored task goes on,
  the enter holds the lock until it has shown the status (`Session.Showing`).
-/

namespace TaskTracking

/-! ### Accounts -/

/-- What passed between the calls of a page and its surroundings. -/
structure Account where
  /-- What the calls asked of the task server. -/
  asked : List Ask := []
  /-- The statuses that were answered to calls. -/
  fetched : List (Except TransportFailure Snapshot) := []
  /-- What the calls have returned. -/
  results : List Outcome.Result := []
  views : List ViewCall := []

/-- The ask, if it is not one for the storage. -/
@[simp] def Ask.foreign? : Ask → Option Ask
  | .store _ => none
  | ask => some ask

/-- What a call asks of the task server. -/
def Output.asked? : Output → Option Ask
  | .ask (.call _) request => request.foreign?
  | _ => none

def Output.result? : Output → Option Outcome.Result
  | .returned _ result => some result
  | _ => none

/-- The id that a start has returned. -/
def Outcome.Result.started? : Outcome.Result → Option String
  | .ok (.started taskId) => some taskId
  | _ => none

/-- What an enter or a resume has returned. -/
def Outcome.Result.resumption? : Outcome.Result → Option Resumption
  | .ok (.resumption outcome) => some outcome
  | _ => none

@[simp] def Turn.result? : Turn → Option Outcome.Result
  | .waiting _ => none
  | .over result => some result

namespace Session

/-- The status that an event answers to a call. -/
@[simp] def Event.fetched? : Event → Option (Except TransportFailure Snapshot)
  | .answered (.call _) (.status result) => some result
  | _ => none

end Session

/-- Whether a task was resumed. -/
def Account.hasResumed (a : Account) : Bool :=
  a.results.any fun
    | .ok (.resumption (.resumed _)) => true
    | _ => false

/-- The account after one more event. -/
def Account.add (a : Account) (e : Session.Event) (outputs : List Output) : Account where
  asked := a.asked ++ outputs.filterMap Output.asked?
  fetched := a.fetched ++ e.fetched?.toList
  results := a.results ++ outputs.filterMap Output.result?
  views := a.views ++ Session.viewCalls outputs

namespace Session

def account (s : Session) : Account := s.history.foldl (fun a r => a.add r.event r.outputs) {}

theorem account_after (s : Session) (e : Event) (turn : Tracker × List Output) :
    (s.after e turn).account = s.account.add e turn.2 := by
  unfold after account
  rw [foldl_perform_history, note, List.foldl_append]
  rfl

theorem filterMap_views (calls : List ViewCall) :
    (calls.map Output.view).filterMap Output.asked? = [] ∧
      (calls.map Output.view).filterMap Output.result? = [] := by
  rw [List.filterMap_map, List.filterMap_map, List.filterMap_eq_nil_iff, List.filterMap_eq_nil_iff]
  exact ⟨fun _ _ => rfl, fun _ _ => rfl⟩

/-- What a turn of a call adds to the account. -/
theorem add_afterCall (a : Account) (e : Event) (k : Nat) (t : Tracker) (calls : List ViewCall)
    (turn : Turn) : a.add e (Tracker.afterCall k (t, calls, turn)).2 =
      { asked :=
          a.asked ++ ((turn.next.bind (Call.ask? t.identity)).bind Ask.foreign?).toList
        fetched := a.fetched ++ e.fetched?.toList
        results := a.results ++ turn.result?.toList
        views := a.views ++ calls } := by
  obtain ⟨hasked, hresults⟩ := filterMap_views calls
  unfold Account.add
  rw [viewCalls_afterCall]
  cases turn with
  -- What a call asks comes after what it shows; an ask for the storage is no entry.
  | waiting d =>
    rw [Tracker.afterCall, List.filterMap_append, List.filterMap_append, hasked, hresults]
    change (⟨a.asked ++ ([] ++ (Tracker.asking _ (d.ask? t.identity)).filterMap _), _,
      a.results ++ ([] ++ (Tracker.asking _ (d.ask? t.identity)).filterMap _), _⟩ : Account) =
      ⟨a.asked ++ ((d.ask? t.identity).bind Ask.foreign?).toList, _, a.results ++ [], _⟩
    cases d.ask? t.identity with
    | none => rfl
    | some ask => cases ask <;> rfl
  | «over» result =>
    rw [Tracker.afterCall, List.filterMap_append, List.filterMap_append, hasked, hresults]
    rfl

/-- What a turn of the worker adds to the account. -/
theorem add_afterWorker (a : Account) (e : Event) (t : Tracker) (calls : List ViewCall) :
    a.add e (Tracker.afterWorker (t, calls)).2 =
      { asked := a.asked
        fetched := a.fetched ++ e.fetched?.toList
        results := a.results
        views := a.views ++ calls } := by
  obtain ⟨hasked, hresults⟩ := filterMap_views calls
  unfold Account.add
  rw [viewCalls_afterWorker, Tracker.afterWorker, List.filterMap_append, List.filterMap_append,
    hasked, hresults]
  cases t.worker.ask? t.identity with
  | none => simp [Tracker.asking]
  | some ask => simp [Tracker.asking, Output.asked?, Output.result?]

theorem add_channels (a : Account) {e : Event} {outputs : List Output}
    (hfetched : e.fetched? = none) (hchannels : ∀ o ∈ outputs, isOfChannels o = true) :
    a.add e outputs = a := by
  have hnone : outputs.filterMap Output.asked? = [] ∧ outputs.filterMap Output.result? = [] ∧
      viewCalls outputs = [] := by
    refine ⟨List.filterMap_eq_nil_iff.mpr fun o ho => ?_,
      List.filterMap_eq_nil_iff.mpr fun o ho => ?_,
      List.filterMap_eq_nil_iff.mpr fun o ho => ?_⟩ <;>
    · have hchannel := hchannels o ho
      unfold isOfChannels at hchannel
      split at hchannel <;> first | rfl | cases hchannel
  obtain ⟨hasked, hresults, hviews⟩ := hnone
  unfold Account.add
  rw [hasked, hresults, hviews, hfetched]
  simp

/-! ### A calm page -/

/-- No task is tracked, and the only call is the one with ticket `k`, which is at `call`;
    before it came there, the text `before` was stored. -/
structure Calm (s : Session) (k : Nat) (call : Option Call) (before : Option String) : Prop where
  idle : s.tracker.lifecycle = .idle
  silent : s.tracker.selector.active = none
  empty : s.tracker.inbox.queue = []
  locked : s.tracker.locked = call.any Call.holds
  doing : s.doing = Function.update (fun _ => none) (.call k) call
  found : s.found = call.elim before (Call.leaving before)
  answer : ∀ i, s.answers.lookup (.call i) =
    if i = k then (call.bind (Call.answered before)).map .ok else none

section Calm

variable {s s' : Session} {e : Event} {k : Nat} {d : Call} {call : Option Call}
  {before : Option String} {t : Tracker} {calls : List ViewCall} {turn : Turn}

theorem Calm.at (h : s.Calm k (some d) before) : s.doing (.call k) = some d := by
  rw [h.doing, Function.update_self]

/-- What the storage has answered to the call. -/
theorem Calm.answered (h : s.Calm k (some d) before) :
    s.answers.lookup (.call k) = (d.answered before).map .ok := by
  rw [h.answer, if_pos rfl]
  rfl

theorem calm_opened {config : Config} (hconfig : Tracker.ofConfig config = .ok t)
    (entries : Store.Entries) (k : Nat) :
    (opened t entries).Calm k none (opened t entries).found := by
  have hdoing : (opened t entries).doing = Function.update (fun _ => none) (.call k) none := by
    rw [Function.update_eq_self_iff.mpr rfl]
    funext j
    exact doing_opened hconfig j
  have hanswer : ∀ i, (opened t entries).answers.lookup (.call i) =
      if i = k then (Option.none.bind (Call.answered (opened t entries).found)).map .ok
        else none := by
    intro i
    split <;> rfl
  obtain ⟨_, _, rfl⟩ := Tracker.ofConfig_eq_ok hconfig
  exact ⟨rfl, rfl, rfl, rfl, hdoing, rfl, hanswer⟩

/-- A call takes a turn. -/
theorem taken_turn (hd : s.doing (.call k) = some d) (htakes : s.Takes k d e (t, calls, turn))
    (hkeeps : s.tracker.Keeps t) :
    ∃ s', s.step e = some s' ∧ s.Turned (.call k) turn.next s' ∧
      (∃ cs, s'.tracker = { t with calls := cs }) ∧
      s'.account =
        { asked := s.account.asked ++
            ((turn.next.bind (Call.ask? t.identity)).bind Ask.foreign?).toList
          fetched := s.account.fetched ++ e.fetched?.toList
          results := s.account.results ++ turn.result?.toList
          views := s.account.views ++ calls } := by
  refine ⟨_, step_of_takes hd htakes, turned_of_call hd hkeeps, ?_, ?_⟩
  · rw [after_tracker]
    exact Tracker.afterCall_fst k t calls turn
  · rw [account_after, add_afterCall]
    rfl

/-- The call of a calm page takes a turn, and the page stays calm. -/
theorem Calm.next (h : s.Calm k (some d) before) (hworks : s.storage.faults = {})
    (htakes : s.Takes k d e (t, calls, turn)) (hkeeps : s.tracker.Keeps t)
    (hidle : t.lifecycle = .idle) (hsilent : t.selector.active = none)
    (hempty : t.inbox.queue = []) (hlocked : t.locked = turn.next.any Call.holds) :
    ∃ s', s.step e = some s' ∧ s'.Calm k turn.next (d.leaving before) ∧
      s'.account =
        { asked := s.account.asked ++
            ((turn.next.bind (Call.ask? t.identity)).bind Ask.foreign?).toList
          fetched := s.account.fetched ++ e.fetched?.toList
          results := s.account.results ++ turn.result?.toList
          views := s.account.views ++ calls } := by
  obtain ⟨s', hstep, hturned, ⟨cs, htracker⟩, haccount⟩ := taken_turn h.at htakes hkeeps
  have hfound : s.found = d.leaving before := h.found
  refine ⟨s', hstep, ⟨?_, ?_, ?_, ?_, ?_, ?_, fun i => ?_⟩, haccount⟩
  · rw [htracker]
    exact hidle
  · rw [htracker]
    exact hsilent
  · rw [htracker]
    exact hempty
  · rw [htracker]
    exact hlocked
  · rw [hturned.doing, h.doing, Function.update_idem]
  · rw [hturned.found hworks, hfound]
  -- Only the call itself has a new answer.
  · split
    · next hi =>
      subst hi
      rw [hturned.answered hworks, hfound]
    · next hi =>
      rw [hturned.others (.call i) (by simpa using hi), h.answer, if_neg hi]

/-! ### The turns of an enter -/

/-- An enter asks the storage for the id. -/
theorem Calm.load (h : s.Calm k (some .entering) before) (hworks : s.storage.faults = {}) :
    ∃ s', s.step (.turn (.call k)) = some s' ∧ s'.Calm k (some .loading) before ∧
      s'.account = s.account := by
  have hcore : s.tracker.enterPage.1.core none (fun _ => none) false [] =
      s.tracker.core none (fun _ => none) false [] := Tracker.core_enterPage s.tracker
  have hidle := (congrArg Core.lifecycle hcore).trans h.idle
  have hrun : s.tracker.runCall .entering =
      some (s.tracker.enterPage.1, [], .waiting .loading) := by
    have hresume : s.tracker.enterPage.2 = .waiting .loading := if_pos hidle
    rw [← hresume]
    rfl
  obtain ⟨s', hstep, hcalm, haccount⟩ := h.next hworks (.run hrun)
    (Tracker.keeps_enterPage s.tracker) hidle
    ((congrArg Core.active hcore).trans h.silent) ((congrArg Core.queue hcore).trans h.empty)
    ((congrArg Core.locked hcore).trans h.locked)
  exact ⟨s', hstep, hcalm, haccount.trans (by simp [Call.ask?])⟩

/-- An enter that finds no id returns, and one that finds an id asks for its task. -/
theorem Calm.look (h : s.Calm k (some .loading) before) (hworks : s.storage.faults = {}) :
    ∃ s', s.step (.stored (.call k)) = some s' ∧
      match Store.Identity.taskId? before with
      | none => s'.Calm k none before ∧
          s'.account = { s.account with
            results := s.account.results ++ [.ok (.resumption .nothing)] }
      | some taskId => s'.Calm k (some (.fetching taskId)) before ∧
          s'.account = { s.account with asked := s.account.asked ++ [.status taskId] } := by
  have hanswer : s.answers.lookup (.call k) = some (.ok (.value before)) := h.answered
  cases htaskId : Store.Identity.taskId? before with
  | none =>
    have hreply : s.tracker.replyCall .loading (.store (.ok (.value before))) =
        some (s.tracker, [], .resumption .nothing) := by
      simp [Tracker.replyCall, htaskId]
    obtain ⟨s', hstep, hcalm, haccount⟩ := h.next hworks (.stored hanswer hreply) (.refl _) h.idle
      h.silent h.empty h.locked
    exact ⟨s', hstep, hcalm, haccount.trans (by simp [Turn.resumption])⟩
  | some taskId =>
    have hreply : s.tracker.replyCall .loading (.store (.ok (.value before))) =
        some (s.tracker, [], .waiting (.fetching taskId)) := by
      simp [Tracker.replyCall, htaskId]
    obtain ⟨s', hstep, hcalm, haccount⟩ := h.next hworks (.stored hanswer hreply) (.refl _) h.idle
      h.silent h.empty h.locked
    exact ⟨s', hstep, hcalm, haccount.trans (by simp [Call.ask?])⟩

/-- A task that cannot be fetched is forgotten. -/
theorem Calm.forget {taskId : String} (h : s.Calm k (some (.fetching taskId)) before)
    (hworks : s.storage.faults = {}) (failure : TransportFailure) :
    ∃ s', s.step (.answered (.call k) (.status (.error failure))) = some s' ∧
      s'.Calm k (some (.forgetting taskId)) before ∧
      s'.account = { s.account with fetched := s.account.fetched ++ [.error failure] } := by
  have hreply : s.tracker.replyCall (.fetching taskId) (.status (.error failure)) =
      some (s.tracker, [], .waiting (.forgetting taskId)) := rfl
  obtain ⟨s', hstep, hcalm, haccount⟩ := h.next hworks (.answered rfl hreply) (.refl _) h.idle
    h.silent h.empty h.locked
  exact ⟨s', hstep, hcalm, haccount.trans (by simp [Call.ask?])⟩

/-- A task that has ended is applied, though it is not tracked. -/
theorem Calm.conclude {taskId : String} (h : s.Calm k (some (.fetching taskId)) before)
    (hworks : s.storage.faults = {}) {snapshot : Snapshot} (hend : snapshot.isTerminal = true) :
    ∃ s', s.step (.answered (.call k) (.status (.ok snapshot))) = some s' ∧
      s'.Calm k (some (.settling (.reading (snapshot.withId taskId))
        (.finished taskId snapshot.status))) before ∧
      s'.account = { s.account with fetched := s.account.fetched ++ [.ok snapshot] } := by
  have hfree : s.tracker.locked = false := h.locked
  -- The lock is free, so that the resume goes on at once.
  have hsettle : ({ s.tracker with current := some taskId } : Tracker).settle
      (snapshot.withId taskId) =
        ({ s.tracker with current := some taskId, locked := true },
          .reading (snapshot.withId taskId)) := by
    unfold Tracker.settle
    rw [if_neg (by rw [hfree]; simp)]
    rfl
  have hreply : s.tracker.replyCall (.fetching taskId) (.status (.ok snapshot)) =
      some ({ s.tracker with current := some taskId, locked := true }, [],
        .waiting (.settling (.reading (snapshot.withId taskId))
          (.finished taskId snapshot.status))) := by
    change some (s.tracker.resumeFrom taskId snapshot) = _
    rw [Tracker.resumeFrom_of_terminal _ _ hend, hsettle]
  obtain ⟨s', hstep, hcalm, haccount⟩ := h.next hworks (.answered rfl hreply) ⟨rfl, rfl, rfl⟩ h.idle
    h.silent h.empty rfl
  exact ⟨s', hstep, hcalm, haccount.trans (by simp [Call.ask?, Settling.ask?,
    Store.Identity.load])⟩

/-- A forgotten task is stale. -/
theorem Calm.stale {taskId : String} (h : s.Calm k (some (.forgetting taskId)) before)
    (hworks : s.storage.faults = {}) :
    ∃ s', s.step (.stored (.call k)) = some s' ∧ s'.Calm k none none ∧
      s'.account = { s.account with
        results := s.account.results ++ [.ok (.resumption (.stale taskId))] } := by
  have hanswer : s.answers.lookup (.call k) = some (.ok (.removed before.isSome)) := h.answered
  have hreply : s.tracker.replyCall (.forgetting taskId) (.store (.ok (.removed before.isSome))) =
      some (s.tracker, [], .resumption (.stale taskId)) := rfl
  obtain ⟨s', hstep, hcalm, haccount⟩ := h.next hworks (.stored hanswer hreply) (.refl _) h.idle
    h.silent h.empty h.locked
  exact ⟨s', hstep, hcalm, haccount.trans (by simp [Turn.resumption])⟩

/-- The id of a task that has ended is removed. -/
theorem Calm.close {snapshot : Snapshot} {goal : Goal}
    (h : s.Calm k (some (.settling (.reading snapshot) goal)) before)
    (hworks : s.storage.faults = {}) (hend : snapshot.isTerminal = true)
    (hbefore : Store.Identity.taskId? before = some snapshot.id) :
    ∃ s', s.step (.stored (.call k)) = some s' ∧
      s'.Calm k (some (.settling (.clearing snapshot
        (s.tracker.display.apply snapshot (some snapshot.id)) snapshot.lastEffects) goal)) before ∧
      s'.account = s.account := by
  have hanswer : s.answers.lookup (.call k) = some (.ok (.value before)) := h.answered
  have hreply : s.tracker.replyCall (.settling (.reading snapshot) goal)
      (.store (.ok (.value before))) =
      some ({ s.tracker with display := s.tracker.display.following snapshot }, [],
        .waiting (.settling (.clearing snapshot
          (s.tracker.display.apply snapshot (some snapshot.id)) snapshot.lastEffects) goal)) := by
    simp [Tracker.replyCall, Tracker.settleReply, Tracker.settleRead_of_terminal _ hbefore hend,
      Settled.turn]
  obtain ⟨s', hstep, hcalm, haccount⟩ := h.next hworks (.stored hanswer hreply) ⟨rfl, rfl, rfl⟩
    h.idle h.silent h.empty h.locked
  exact ⟨s', hstep, hcalm, haccount.trans (by simp [Call.ask?, Settling.ask?,
    Store.Identity.clear])⟩

/-- Then its end is shown. -/
theorem Calm.finish {snapshot : Snapshot} {applied : Applied} {goal : Goal}
    (h : s.Calm k (some (.settling (.clearing snapshot applied snapshot.lastEffects) goal)) before)
    (hworks : s.storage.faults = {}) (hend : applied.isTerminal = true) :
    ∃ s', s.step (.stored (.call k)) = some s' ∧ s'.Calm k none none ∧
      s'.account = { s.account with
        results := s.account.results ++ [.ok (goal.outcome applied)]
        views := s.account.views ++ snapshot.closing } := by
  have hanswer : s.answers.lookup (.call k) = some (.ok (.removed before.isSome)) := h.answered
  have hreply : s.tracker.replyCall
      (.settling (.clearing snapshot applied snapshot.lastEffects) goal)
      (.store (.ok (.removed before.isSome))) =
      some (((({ s.tracker with
          selector := s.tracker.selector.unsubscribe, current := none } : Tracker).enter
            .done).enter .idle).unlock, snapshot.closing, .over (.ok (goal.outcome applied))) := by
    simp [Tracker.replyCall, Tracker.settleReply, Tracker.settleEffects_last _ _ hend, Settled.turn]
  obtain ⟨s', hstep, hcalm, haccount⟩ := h.next hworks (.stored hanswer hreply) ⟨rfl, rfl, rfl⟩
    rfl rfl h.empty rfl
  exact ⟨s', hstep, hcalm, haccount.trans (by simp)⟩

end Calm

/-! ### A task that goes on -/

/-- A resume has begun to track the task and is about to apply the status it has fetched:
    whoever else has a snapshot waits for the lock. -/
structure Showing (s : Session) (taskId : String) (k : Nat) (snapshot : Snapshot) : Prop where
  lifecycle : s.tracker.lifecycle = .tracking
  current : s.tracker.current = some taskId
  display : s.tracker.display = .tracking taskId
  locked : s.tracker.locked = true
  doing : s.doing (.call k) =
    some (.settling (.reading (snapshot.withId taskId)) (.resumed taskId))
  alone : ∀ i, i ≠ k → s.doing (.call i) = none
  found : s.found = some taskId
  answer : s.answers.lookup (.call k) = some (.ok (.value (some taskId)))
  account : ∃ n, s.account =
    { asked := [.status taskId]
      fetched := [.ok snapshot]
      views := .showProgress taskId :: List.replicate n (.notify .stalled) }

/-- A resume has returned, and the task is tracked again and shown as its status tells. -/
structure Resumed (s : Session) (taskId : String) (snapshot : Snapshot) : Prop where
  lifecycle : s.tracker.lifecycle = .tracking
  current : s.tracker.current = some taskId
  stored : s.stored = some taskId
  display : s.tracker.display = (Display.tracking taskId).following (snapshot.withId taskId)
  percentage : s.tracker.display.percentage = snapshot.progress.clamped
  results : s.account.results = [.ok (.resumption (.resumed taskId))]
  /-- While the storage is asked, the user can be told that updates are delayed. -/
  views : ∃ n, s.account.views = .showProgress taskId ::
    (List.replicate n (.notify .stalled) ++ [.updateProgress s.tracker.display])

/-- The percentage of a task that goes on is the one its status tells. -/
theorem percentage_resumed (taskId : String) {snapshot : Snapshot}
    (hrun : snapshot.isTerminal = false) :
    ((Display.tracking taskId).following (snapshot.withId taskId)).percentage =
      snapshot.progress.clamped := by
  have hfrom : (Display.tracking taskId).percentage.le snapshot.progress.clamped = true :=
    snapshot.progress.clamped_isPercentage.1
  have hadvance : ((Display.tracking taskId).advance (snapshot.withId taskId)).percentage =
      snapshot.progress.clamped := by
    have hsame : (Display.tracking taskId).taskId = some taskId := rfl
    unfold Display.advance
    simp [Snapshot.withId, hsame, hfrom]
  unfold Snapshot.isTerminal Status.isTerminal at hrun
  unfold Display.following Display.apply
  cases hstatus : snapshot.status <;> simp_all [Snapshot.withId]

section Showing

variable {s s' : Session} {e : Event} {k : Nat} {taskId : String} {snapshot : Snapshot}

/-- A task that goes on is tracked again. -/
theorem Calm.show {before : Option String} (h : s.Calm k (some (.fetching taskId)) before)
    (hworks : s.storage.faults = {}) (hbefore : before = some taskId)
    (haccount : s.account = { asked := [.status taskId] }) (hrun : snapshot.isTerminal = false) :
    ∃ s', s.step (.answered (.call k) (.status (.ok snapshot))) = some s' ∧
      s'.Showing taskId k snapshot := by
  have hfree : s.tracker.locked = false := h.locked
  -- The lock is free, and kept from now on until the status is shown.
  have hsettle : (s.tracker.beginTracking taskId).1.settle (snapshot.withId taskId) =
      ({ (s.tracker.beginTracking taskId).1 with locked := true },
        .reading (snapshot.withId taskId)) := by
    unfold Tracker.settle
    rw [if_neg (by change ¬ s.tracker.locked = true; rw [hfree]; simp)]
    rfl
  have hreply : s.tracker.replyCall (.fetching taskId) (.status (.ok snapshot)) =
      some ({ (s.tracker.beginTracking taskId).1 with locked := true }, [.showProgress taskId],
        .waiting (.settling (.reading (snapshot.withId taskId)) (.resumed taskId))) := by
    change some (s.tracker.resumeFrom taskId snapshot) = _
    rw [Tracker.resumeFrom_of_running _ _ hrun, hsettle]
    rfl
  obtain ⟨s', hstep, hturned, ⟨cs, htracker⟩, haccount'⟩ :=
    taken_turn h.at (.answered rfl hreply) ⟨rfl, rfl, rfl⟩
  have hfound : s.found = some taskId := h.found.trans hbefore
  refine ⟨s', hstep, ?_, ?_, ?_, ?_, ?_, fun i hi => ?_, ?_, ?_, 0, ?_⟩
  · rw [htracker]
    rfl
  · rw [htracker]
    rfl
  · rw [htracker]
    rfl
  · rw [htracker]
  · rw [hturned.doing, Function.update_self]
    rfl
  · have hne : (Job.call i) ≠ .call k := by simpa using hi
    rw [hturned.doing, Function.update_of_ne hne, h.doing, Function.update_of_ne hne]
  · rw [hturned.found hworks, hfound]
    rfl
  · rw [hturned.answered hworks, hfound]
    rfl
  · rw [haccount', haccount]
    rfl

/-- Then its status is shown, and the resume returns. -/
theorem Showing.resume (h : s.Showing taskId k snapshot) (hworks : s.storage.faults = {})
    (hne : taskId ≠ "") (hrun : snapshot.isTerminal = false) :
    ∃ s', s.step (.stored (.call k)) = some s' ∧ s'.Resumed taskId snapshot ∧
      s'.account.asked = [.status taskId] ∧ s'.account.fetched = [.ok snapshot] ∧
      ∀ i, s'.doing (.call i) = none := by
  -- The storage tells the id that the status was fetched for.
  have hsame : Store.Identity.taskId? (some taskId) = some (snapshot.withId taskId).id := by
    simp [Store.Identity.taskId?, Snapshot.withId, hne]
  have hreply : s.tracker.replyCall
      (.settling (.reading (snapshot.withId taskId)) (.resumed taskId))
      (.store (.ok (.value (some taskId)))) =
      some ({ s.tracker with
          display := s.tracker.display.following (snapshot.withId taskId) }.unlock,
        [.updateProgress (s.tracker.display.following (snapshot.withId taskId))],
        .over (.ok (.resumption (.resumed taskId)))) := by
    simp [Tracker.replyCall, Tracker.settleReply, Tracker.settleRead_of_running _ hsame hrun,
      Settled.turn, Goal.outcome]
  obtain ⟨s', hstep, hturned, ⟨cs, htracker⟩, haccount⟩ :=
    taken_turn h.doing (.stored h.answer hreply) ⟨rfl, rfl, rfl⟩
  obtain ⟨n, hbefore⟩ := h.account
  rw [hbefore, h.display] at haccount
  rw [h.display] at htracker
  have hdisplay : s'.tracker.display =
      (Display.tracking taskId).following (snapshot.withId taskId) := by rw [htracker]; rfl
  have hfound : s'.found = some taskId := by
    rw [hturned.found hworks]
    exact h.found
  refine ⟨s', hstep, ⟨?_, ?_, ?_, hdisplay, ?_, ?_, n, ?_⟩, ?_, ?_, fun i => ?_⟩
  · rw [htracker]
    exact h.lifecycle
  · rw [htracker]
    exact h.current
  · change Store.Identity.taskId? s'.found = _
    rw [hfound]
    exact hsame
  · rw [hdisplay, percentage_resumed taskId hrun]
  · rw [haccount]
    rfl
  · rw [haccount, hdisplay]
    rfl
  · rw [haccount]
    rfl
  · rw [haccount]
    rfl
  · rw [hturned.doing]
    by_cases hi : i = k
    · subst hi
      rw [Function.update_self]
      rfl
    · rw [Function.update_of_ne (by simpa using hi)]
      exact h.alone i hi

end Showing

/-! ### Visits -/

/-- An event of a page that is only entered, one enter at a time, until a task is resumed. -/
def Visits (s : Session) (e : Event) : Prop :=
  s.Fair e ∧ s.account.hasResumed = false ∧
    match e with
    | .called _ .entering => s.tracker.calls = []
    | .called .. | .left => False
    | _ => True

instance (s : Session) (e : Event) : Decidable (s.Visits e) := by
  refine @instDecidableAnd _ _ _ (@instDecidableAnd _ _ _ ?_)
  induction e using Event.casesOn with
  | called i d => induction d using Call.casesOn <;> exact inferInstance
  | left => exact instDecidableFalse
  | _ => exact instDecidableTrue

section Others

variable {s s' : Session} {e : Event} {k : Nat} {call : Option Call} {before : Option String}

/-- An enter without other calls is alone. -/
theorem Visits.apart (h : s.Visits e) : s.Apart e := by
  obtain ⟨hfair, _, hvisits⟩ := h
  have hdue : s.Due e := by
    cases e with
    | called i d =>
      cases d with
      | applying => exact hvisits.elim
      | _ => trivial
    | _ => trivial
  refine ⟨hfair, hdue, ?_⟩
  cases e with
  | called i d =>
    cases d with
    | entering =>
      intro job hmem
      cases hd : s.doing job with
      | none => rfl
      | some d =>
        cases job with
        | worker =>
          change s.tracker.worker.doing = some d at hd
          cases hworker : s.tracker.worker with
          | settling stage =>
            rw [hworker] at hd
            cases hd
            rfl
          | _ =>
            rw [hworker] at hd
            cases hd
        | call i =>
          change s.tracker.calls.lookup i = some d at hd
          rw [show s.tracker.calls = [] from hvisits] at hd
          cases hd
        | _ => cases hd
    | _ => exact hvisits.elim
  | _ => trivial

/-- Without a subscription the channels deliver nothing. -/
theorem quiet_of_channel (h : s.Lone) (hapart : s.Apart e) (hstep : s.step e = some s')
    (hjob : ∀ job, e.job? = some job → job.usesStorage = false) (hdoing : s'.doing = s.doing)
    (hsilent : s.tracker.selector.active = none) (hempty : s.tracker.inbox.queue = []) :
    s'.tracker.selector.active = none ∧ s'.tracker.inbox.queue = [] := by
  -- The event is a move of the core; none of those that could deliver or begin fits here.
  obtain ⟨scene, hmoves⟩ := h.moves hapart hstep
  have hscene := (hmoves.scene_eq hstep).1
  have hfree : ∀ j, scene.job = some j → s.core.doing j = none := by
    intro j hj
    have huses := hjob j (hscene.symm.trans hj)
    cases j with
    | worker | call => cases huses
    | _ => rfl
  have hmove := hmoves.move
  change s'.core.active = none ∧ s'.core.queue = []
  change s'.core.doing = s.core.doing at hdoing
  change s.core.active = none at hsilent
  change s.core.queue = [] at hempty
  generalize s'.core = c' at hmove hdoing
  cases hmove with
  | deliver _ hquiet =>
    rw [hquiet hsilent, List.append_nil]
    exact ⟨hsilent, hempty⟩
  | dismiss _ hrest =>
    refine ⟨hsilent, List.eq_nil_iff_forall_not_mem.mpr fun d hd => ?_⟩
    have hmem := hrest d hd
    rw [hempty] at hmem
    cases hmem
  | @call k d hnone _ _ =>
    have hnew : Function.update s.core.doing (.call k) (some d) (.call k) = _ :=
      congrFun hdoing (.call k)
    rw [hnone, Function.update_self] at hnew
    cases hnew
  | warn hqueue | take hqueue => cases hempty.symm.trans hqueue
  | _ =>
    -- Everything else is done by a job that is at something.
    have hnone := hfree _ rfl
    grind

/-- A calm page has only its call to go on with. -/
theorem Calm.free (h : s.Calm k call before) {j : Job} (hj : j ≠ .call k) : s.doing j = none := by
  rw [h.doing, Function.update_of_ne hj]

theorem fetched?_of_channel (hjob : ∀ job, e.job? = some job → job.usesStorage = false) :
    e.fetched? = none := by
  cases e with
  | answered job reply =>
    cases job with
    | call => cases hjob _ rfl
    | _ => rfl
  | _ => rfl

/-- The channels leave the storage and the account alone. -/
theorem Beside.spec {b : Session} {t : Tracker} {outputs : List Output} (hbeside : s.Beside b)
    (hjob : ∀ job, e.job? = some job → job.usesStorage = false)
    (hchannels : ∀ o ∈ outputs, isOfChannels o = true) :
    (b.after e (t, outputs)).storage = s.storage ∧
      (∀ i, (b.after e (t, outputs)).answers.lookup (.call i) = s.answers.lookup (.call i)) ∧
      (b.after e (t, outputs)).account = s.account := by
  have haccount : b.account = s.account := by
    unfold account
    rw [hbeside.history]
  refine ⟨?_, fun i => ?_, ?_⟩
  · rw [after_quiet b (quiet_of_channels hchannels)]
    exact hbeside.storage
  · rw [after_quiet b (quiet_of_channels hchannels)]
    exact hbeside.answers (.call i) rfl
  · rw [account_after, haccount]
    exact add_channels _ (fetched?_of_channel hjob) hchannels

/-- The worker of a calm page has nothing to do, unless the page was left and it ends. -/
theorem Calm.worker (h : s.Calm k call before) (hfaults : s.storage.faults = {})
    {r : Tracker × List ViewCall} (hworks : s.Works e r) :
    ((s.forget .worker).after e (Tracker.afterWorker r)).Calm k call before ∧
      ((s.forget .worker).after e (Tracker.afterWorker r)).account = s.account := by
  have hfree : s.doing .worker = none := h.free (by rintro ⟨⟩)
  have hworker : s.tracker.worker.doing = none := hfree
  obtain ⟨t, calls⟩ := r
  have hturned := turned_of_works hworks
  -- The inbox is empty and the worker applies nothing, so all it can do is end.
  cases hworks with
  | run hrun =>
    cases Tracker.workerTurn_of_runWorker hrun with
    | quit =>
      refine ⟨⟨?_, ?_, ?_, ?_, ?_, ?_, fun i => ?_⟩, ?_⟩
      · rw [after_tracker]
        exact h.idle
      · rw [after_tracker]
        exact h.silent
      · rw [after_tracker]
        rfl
      · rw [after_tracker]
        exact h.locked
      · rw [hturned.doing]
        exact (Function.update_eq_self_iff.mpr hfree.symm).trans h.doing
      · rw [hturned.found hfaults]
        exact h.found
      · rw [hturned.others (.call i) (by rintro ⟨⟩)]
        exact h.answer i
      · rw [account_after]
        exact add_channels _ rfl fun o ho => by cases ho
    | take _ hqueue | warn _ hqueue | pass _ hqueue =>
      rw [h.empty] at hqueue
      cases hqueue
    | lock hsettling =>
      rw [hsettling] at hworker
      cases hworker
  | stored _ hreply =>
    obtain ⟨_, _, _, hsettling, _⟩ := Tracker.replyWorker_spec hreply
    rw [hsettling] at hworker
    cases hworker

/-- The channels may go on as they like where they deliver nothing. -/
theorem Calm.channel (h : s.Calm k call before) {b : Session} {selector : Selector} {inbox : Inbox}
    {outputs : List Output} (hjob : ∀ job, e.job? = some job → job.usesStorage = false)
    (hbeside : s.Beside b) (hchannels : ∀ o ∈ outputs, isOfChannels o = true)
    (hsilent : selector.active = none) (hempty : inbox.queue = []) :
    (b.after e ({ s.tracker with selector, inbox }, outputs)).Calm k call before ∧
      (b.after e ({ s.tracker with selector, inbox }, outputs)).account = s.account := by
  obtain ⟨hstorage, hanswers, haccount⟩ := hbeside.spec
    (t := { s.tracker with selector, inbox }) hjob hchannels
  refine ⟨⟨?_, ?_, ?_, ?_, ?_, ?_, fun i => ?_⟩, haccount⟩
  · rw [after_tracker]
    exact h.idle
  · rw [after_tracker]
    exact hsilent
  · rw [after_tracker]
    exact hempty
  · rw [after_tracker]
    exact h.locked
  · unfold Session.doing
    rw [after_tracker]
    exact h.doing
  · unfold Session.found
    rw [hstorage, after_tracker]
    exact h.found
  · rw [hanswers i]
    exact h.answer i

/-- Whatever else happens leaves a calm page as it is. -/
theorem Calm.others (h : s.Calm k call before) (hlone : s.Lone) (hvisits : s.Visits e)
    (hstep : s.step e = some s') (hother : e.job? ≠ some (.call k))
    (hcalled : ∀ i d, e ≠ .called i d) :
    s'.Calm k call before ∧ s'.account = s.account := by
  cases happens_of_step hstep with
  | @call _ i d _ hjob hd _ =>
    have hi : Job.call i ≠ .call k := fun heq => hother (heq ▸ hjob)
    rw [h.free hi] at hd
    cases hd
  | worker hjob hworks => exact h.worker hlone.orderly.honest.faults hworks
  | @channel _ b selector inbox outputs hjob hbeside hchannels =>
    have hdoing : (b.after e ({ s.tracker with selector, inbox }, outputs)).doing = s.doing := by
      unfold Session.doing
      rw [after_tracker]
      rfl
    obtain ⟨hsilent, hempty⟩ :=
      quiet_of_channel hlone hvisits.apart hstep hjob hdoing h.silent h.empty
    rw [after_tracker] at hsilent hempty
    exact h.channel hjob hbeside hchannels hsilent hempty
  | called => exact absurd rfl (hcalled _ _)
  | left => exact hvisits.2.2.elim
  | disturbed => exact hvisits.1.elim

/-- While a resume is about to show the task, the worker at most tells of delays or waits
    for the lock. -/
theorem runWorker_of_locked {t t' : Tracker} {calls : List ViewCall} (hlocked : t.locked = true)
    (hrun : t.runWorker = some (t', calls)) :
    (∃ worker inbox stallNotified, t' = { t with worker, inbox, stallNotified }) ∧
      (t'.worker.doing = none ∨ ∃ snapshot, t'.worker = .settling (.locking snapshot)) ∧
      (calls = [] ∨ calls = [.notify .stalled]) := by
  cases Tracker.workerTurn_of_runWorker hrun with
  | quit => exact ⟨⟨_, _, _, rfl⟩, .inl rfl, .inl rfl⟩
  | @take source s rest =>
    have hwaits : ({ t with inbox := { t.inbox with queue := rest } } : Tracker).settle s =
        ({ t with inbox := { t.inbox with queue := rest } }, .locking s) := if_pos hlocked
    rw [hwaits]
    exact ⟨⟨_, _, _, rfl⟩, .inr ⟨_, rfl⟩, .inl rfl⟩
  | warn hworker =>
    exact ⟨⟨_, _, _, rfl⟩, .inl (by rw [hworker]; rfl), .inr rfl⟩
  | pass hworker =>
    exact ⟨⟨_, _, _, rfl⟩, .inl (by rw [hworker]; rfl), .inl rfl⟩
  | lock _ hfree =>
    rw [hlocked] at hfree
    cases hfree

section Showing

variable {taskId : String} {snapshot : Snapshot}

/-- The worker cannot apply anything before the resume has. -/
theorem Showing.worker (h : s.Showing taskId k snapshot) (hfaults : s.storage.faults = {})
    (hguarded : s.Guarded) {r : Tracker × List ViewCall} (hworks : s.Works e r) :
    ((s.forget .worker).after e (Tracker.afterWorker r)).Showing taskId k snapshot := by
  obtain ⟨n, haccount⟩ := h.account
  obtain ⟨t, calls⟩ := r
  have hturned := turned_of_works hworks
  cases hworks with
  | run hrun =>
    obtain ⟨⟨worker, inbox, stallNotified, rfl⟩, hwaits, hcalls⟩ :=
      runWorker_of_locked h.locked hrun
    refine ⟨?_, ?_, ?_, ?_, ?_, fun i hi => ?_, ?_, ?_, ?_⟩
    · rw [after_tracker]
      exact h.lifecycle
    · rw [after_tracker]
      exact h.current
    · rw [after_tracker]
      exact h.display
    · rw [after_tracker]
      exact h.locked
    · rw [hturned.doing, Function.update_of_ne (by rintro ⟨⟩)]
      exact h.doing
    · rw [hturned.doing, Function.update_of_ne (by rintro ⟨⟩)]
      exact h.alone i hi
    -- To wait for the lock is to ask the storage for nothing.
    · rw [hturned.found hfaults, ← h.found]
      rcases hwaits with hnone | ⟨_, hlocking⟩
      · rw [show worker.doing = none from hnone]
        rfl
      · rw [show worker = _ from hlocking]
        rfl
    · rw [hturned.others (.call k) (by rintro ⟨⟩)]
      exact h.answer
    · rw [account_after, add_afterWorker]
      change ∃ n, (⟨s.account.asked, s.account.fetched ++ [], s.account.results,
        s.account.views ++ calls⟩ : Account) = _
      rw [haccount]
      rcases hcalls with rfl | rfl
      · exact ⟨n, by simp⟩
      · exact ⟨n + 1, by simp [List.replicate_succ']⟩
  | stored _ hreply =>
    -- Someone who takes an answer of the storage holds the lock, which the resume does.
    obtain ⟨stage, _, _, hsettling, hsettle, _⟩ := Tracker.replyWorker_spec hreply
    have hholds : (s.doing (.call k)).any Call.holds = true := by rw [h.doing]; rfl
    have hother := hguarded.lock.other hholds (show Job.worker ≠ .call k by rintro ⟨⟩)
    change s.tracker.worker.doing.any Call.holds = false at hother
    rw [hsettling] at hother
    cases stage with
    | locking => simp [Tracker.settleReply] at hsettle
    | _ => cases hother

theorem Showing.channel (h : s.Showing taskId k snapshot) {b : Session} {selector : Selector}
    {inbox : Inbox} {outputs : List Output}
    (hjob : ∀ job, e.job? = some job → job.usesStorage = false) (hbeside : s.Beside b)
    (hchannels : ∀ o ∈ outputs, isOfChannels o = true) :
    (b.after e ({ s.tracker with selector, inbox }, outputs)).Showing taskId k snapshot := by
  obtain ⟨n, haccount⟩ := h.account
  obtain ⟨hstorage, hanswers, haccount'⟩ := hbeside.spec
    (t := { s.tracker with selector, inbox }) hjob hchannels
  refine ⟨?_, ?_, ?_, ?_, ?_, fun i hi => ?_, ?_, ?_, n, haccount'.trans haccount⟩
  · rw [after_tracker]
    exact h.lifecycle
  · rw [after_tracker]
    exact h.current
  · rw [after_tracker]
    exact h.display
  · rw [after_tracker]
    exact h.locked
  · unfold Session.doing
    rw [after_tracker]
    exact h.doing
  · unfold Session.doing
    rw [after_tracker]
    exact h.alone i hi
  · unfold Session.found
    rw [hstorage, after_tracker]
    exact h.found
  · rw [hanswers k]
    exact h.answer

/-- Whatever else happens, the resume is about to show the same. -/
theorem Showing.others (h : s.Showing taskId k snapshot) (hlone : s.Lone) (hguarded : s.Guarded)
    (hvisits : s.Visits e) (hstep : s.step e = some s') (hother : e.job? ≠ some (.call k)) :
    s'.Showing taskId k snapshot := by
  cases happens_of_step hstep with
  | @call _ i d _ hjob hd _ =>
    have hi : i ≠ k := fun heq => hother (heq ▸ hjob)
    rw [h.alone i hi] at hd
    cases hd
  | worker hjob hworks => exact h.worker hlone.orderly.honest.faults hguarded hworks
  | channel hjob hbeside hchannels => exact h.channel hjob hbeside hchannels
  | @called i d =>
    obtain ⟨_, _, hvisits⟩ := hvisits
    -- Nobody else enters as long as the resume is in progress.
    have hbusy : s.tracker.calls ≠ [] := by
      intro hnone
      have hdoing : s.tracker.calls.lookup k = some _ := h.doing
      rw [hnone] at hdoing
      cases hdoing
    cases d with
    | entering => exact absurd hvisits hbusy
    | _ => exact hvisits.elim
  | left => exact hvisits.2.2.elim
  | disturbed => exact hvisits.1.elim

end Showing

end Others

end Session

end TaskTracking
