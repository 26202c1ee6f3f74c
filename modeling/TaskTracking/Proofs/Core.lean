import Mathlib.Logic.Function.Basic
import TaskTracking.Proofs.Progress
import TaskTracking.Proofs.Session

/-! # The core of a session

  The laws of a session speak of little of its state: the lifecycle, the display,
  the stored task id, the subscription, and what each job is at. A `Core` is that
  much, and a `Move` is all that one event can do to it. The channels are left
  out but for one thing: without a subscription nothing is delivered.
-/

namespace TaskTracking

/-! ### What a call is at -/

/-- Whether a call with this goal resumes. -/
def Goal.isResumption : Goal → Bool
  | .applied => false
  | .finished .. | .resumed _ => true

/-- Whether a call with this goal shows the end of a task that was not tracked here. -/
def Goal.isFinishing : Goal → Bool
  | .finished .. => true
  | _ => false

namespace Call

/-- What the storage answers to what the call asks, if this text is stored. -/
def answered (found : Option String) : Call → Option Store.Answer
  | .loading | .settling (.reading _) _ => some (.value found)
  | .saving _ => some .written
  | .forgetting _ | .erasing _ | .settling (.clearing ..) _ => some (.removed found.isSome)
  | _ => none

/-- The stored text after what the call asks. -/
def leaving (found : Option String) : Call → Option String
  | .saving taskId => some taskId
  | .forgetting _ | .erasing _ | .settling (.clearing ..) _ => none
  | _ => found

/-- Whether the call holds the lock under which snapshots are applied. -/
def holds : Call → Bool
  | .settling (.reading _) _ | .settling (.clearing ..) _ | .erasing _ => true
  | _ => false

/-- Whether the call removes the stored id for a snapshot. -/
def isClearing : Call → Bool
  | .settling (.clearing ..) _ => true
  | _ => false

/-- The lock is kept while an id is removed. -/
theorem holds_of_isClearing {d : Call} (h : d.isClearing = true) : d.holds = true := by
  cases d with
  | settling stage goal =>
    cases stage with
    | clearing => rfl
    | _ => cases h
  | _ => cases h

/-- The new task whose id the call stores. -/
def saved? : Call → Option String
  | .saving taskId => some taskId
  | _ => none

/-- The task of the snapshot that the call is to apply. -/
def named? : Call → Option String
  | .applying s => some s.id
  | .settling stage _ => some stage.snapshot.id
  | _ => none

/-- Whether the call is one that resumes the stored task. -/
def resumes : Call → Bool
  | .entering | .resuming | .loading | .fetching _ | .forgetting _ => true
  | .settling _ goal => goal.isResumption
  | _ => false

/-- Whether the call waits for the answer to a cancel request. -/
def isWithdrawing : Call → Bool
  | .withdrawing .. | .revoking .. => true
  | _ => false

/-- Whether the call shows the end of a task that was not tracked here. -/
def isFinishing : Call → Bool
  | .settling _ goal => goal.isFinishing
  | _ => false

/-- Whether the call only applies a snapshot. -/
def onlyApplies : Call → Bool
  | .applying _ | .settling _ .applied => true
  | _ => false

/-- The task that a resume has loaded and does not track yet. -/
def loaded? : Call → Option String
  | .fetching taskId | .settling _ (.finished taskId _) => some taskId
  | _ => none

end Call

/-- Whether a result is the success of an enter or a resume. -/
def Outcome.Result.isResumption : Outcome.Result → Bool
  | .ok (.resumption _) => true
  | _ => false

/-- The task that a delivery speaks of. -/
def Delivery.taskId : Delivery → String
  | .snapshot _ s => s.id
  | .stalled taskId _ => taskId

/-! ### What is shown -/

/-- The task whose progress begins to be shown. -/
def ViewCall.shown? : ViewCall → Option String
  | .showProgress taskId => some taskId
  | _ => none

/-- What the user sees of the end of a task. -/
def Snapshot.closing (s : Snapshot) : List ViewCall :=
  match s.status with
  | .pending | .running => [.hideProgress]
  | .completed => [.hideProgress, .renderResult s.id (s.result.getD .null), .notify .completed]
  | .failed => [.hideProgress, .notify (.failed s.error)]
  | .cancelled => [.hideProgress, .notify .cancelled]

/-- What an event is to an onlooker. -/
structure Scene where
  /-- The job that took a turn. -/
  job : Option Job := none
  calls : List ViewCall := []
  /-- The snapshot whose application the event carried on. -/
  applied : Option Snapshot := none
  /-- Whether the event was an answer to a cancel request. -/
  aside : Bool := false
  /-- Whether the page was left. -/
  left : Bool := false

/-- A snapshot whose last effects are still to come is a terminal one, and these
    are its last effects. -/
def Settling.Prepared : Settling → Prop
  | .clearing s applied rest => applied.isTerminal = true ∧ rest = s.lastEffects
  | _ => True

/-! ### Cores -/

structure Core where
  lifecycle : Lifecycle
  current : Option String
  display : Display
  /-- Whether the user was told that updates of the tracked task are delayed. -/
  warned : Bool
  locked : Bool
  /-- The selector's active subscription. -/
  active : Option String
  queue : List Delivery
  doing : Job → Option Call
  /-- The text stored under the page's key. -/
  found : Option String
  /-- The storage's answers under way. -/
  answer : Job → Option Store.Answer
  /-- Whether an enter or a resume has returned successfully. -/
  entered : Bool
  /-- The tasks whose progress was shown so far. -/
  shown : List String

namespace Core

/-- The stored task id. -/
def stored (c : Core) : Option String := Store.Identity.taskId? c.found

/-- Job `j` goes on to wait at `d`, which asks the storage at once. -/
def wait (c : Core) (j : Job) (d : Call) : Core :=
  { c with
    doing := Function.update c.doing j (some d)
    found := d.leaving c.found
    answer := Function.update c.answer j (d.answered c.found) }

/-- Job `j` has nothing more to do. -/
def ended (c : Core) (j : Job) : Core :=
  { c with
    doing := Function.update c.doing j none
    answer := Function.update c.answer j none }

/-- The tracker follows a task from its beginning. -/
def begin (c : Core) (taskId : String) : Core :=
  { c with
    lifecycle := .tracking
    current := some taskId
    display := .tracking taskId
    warned := false
    active := some taskId
    shown := c.shown ++ [taskId] }

/-- Job `j` takes the lock and reads the stored id, or waits for the lock. -/
def settle (c : Core) (j : Job) (s : Snapshot) (goal : Goal) : Core :=
  if c.locked then c.wait j (.settling (.locking s) goal)
  else { c with locked := true }.wait j (.settling (.reading s) goal)

/-- Job `j` waits after its turn, or returns. -/
def turned (c : Core) (j : Job) : Turn → Core
  | .waiting d => c.wait j d
  | .over result => { c with entered := c.entered || result.isResumption }.ended j

/-- Job `j` is done with its snapshot and gives the lock back. -/
def settled (c : Core) (j : Job) (goal : Goal) : Core :=
  { c with locked := false, entered := c.entered || goal.isResumption }.ended j

section Settle

variable (c : Core) (j : Job) (s : Snapshot) (goal : Goal)

/-- A job begins with a snapshot by taking the lock or by waiting for it. -/
theorem settle_eq : c.settle j s goal = c.wait j (.settling (.locking s) goal) ∨
    c.settle j s goal = { c with locked := true }.wait j (.settling (.reading s) goal) := by
  unfold settle
  split
  · exact .inl rfl
  · exact .inr rfl

@[simp] theorem settle_lifecycle : (c.settle j s goal).lifecycle = c.lifecycle := by
  rcases settle_eq c j s goal with h | h <;> rw [h] <;> rfl

@[simp] theorem settle_current : (c.settle j s goal).current = c.current := by
  rcases settle_eq c j s goal with h | h <;> rw [h] <;> rfl

@[simp] theorem settle_display : (c.settle j s goal).display = c.display := by
  rcases settle_eq c j s goal with h | h <;> rw [h] <;> rfl

@[simp] theorem settle_warned : (c.settle j s goal).warned = c.warned := by
  rcases settle_eq c j s goal with h | h <;> rw [h] <;> rfl

@[simp] theorem settle_queue : (c.settle j s goal).queue = c.queue := by
  rcases settle_eq c j s goal with h | h <;> rw [h] <;> rfl

@[simp] theorem settle_found : (c.settle j s goal).found = c.found := by
  rcases settle_eq c j s goal with h | h <;> rw [h] <;> rfl

@[simp] theorem settle_shown : (c.settle j s goal).shown = c.shown := by
  rcases settle_eq c j s goal with h | h <;> rw [h] <;> rfl

end Settle

/-! ### What a job is at -/

section Doing

variable {b : Core} {i j : Job} {d d' : Call} {s : Snapshot} {goal : Goal}

@[simp] theorem doing_wait : (b.wait j d).doing i = some d' ↔
    i = j ∧ d = d' ∨ i ≠ j ∧ b.doing i = some d' := by
  by_cases h : i = j
  · subst h
    simp [wait]
  · simp [wait, h]

@[simp] theorem doing_ended : (b.ended j).doing i = some d' ↔ i ≠ j ∧ b.doing i = some d' := by
  by_cases h : i = j
  · subst h
    simp [ended]
  · simp [ended, h]

@[simp] theorem doing_settled :
    (b.settled j goal).doing i = some d' ↔ i ≠ j ∧ b.doing i = some d' := doing_ended

theorem doing_settle (h : (b.settle j s goal).doing i = some d') :
    i = j ∧ (d' = .settling (.locking s) goal ∨ d' = .settling (.reading s) goal) ∨
      i ≠ j ∧ b.doing i = some d' := by
  rcases settle_eq b j s goal with heq | heq
  · rw [heq, doing_wait] at h
    exact h.imp (fun ⟨hi, hd⟩ => ⟨hi, .inl hd.symm⟩) id
  · rw [heq, doing_wait] at h
    exact h.imp (fun ⟨hi, hd⟩ => ⟨hi, .inr hd.symm⟩) id

theorem doing_settle_of_ne (h : i ≠ j) : (b.settle j s goal).doing i = b.doing i := by
  rcases settle_eq b j s goal with heq | heq
  · rw [heq]
    exact Function.update_of_ne h ..
  · rw [heq]
    exact Function.update_of_ne h ..

end Doing

/-! ### Conditions of moves -/

/-- Nothing that is still to be applied speaks of the task, and it was never shown. -/
structure Fresh (c : Core) (taskId : String) : Prop where
  ne_empty : taskId ≠ ""
  queue : ∀ d ∈ c.queue, d.taskId ≠ taskId
  doing : ∀ j d, c.doing j = some d → d.named? ≠ some taskId
  current : c.current ≠ some taskId
  shown : taskId ∉ c.shown

/-- The tracker is idle and the stored id is the given one. -/
def Waits (c : Core) (taskId : String) : Prop := c.lifecycle = .idle ∧ c.stored = some taskId

/-- Nobody has taken over or lost a task, and none was begun. -/
structure SameOwner (c c' : Core) : Prop where
  lifecycle : c'.lifecycle = c.lifecycle
  current : c'.current = c.current
  stored : c'.stored = c.stored
  shown : c'.shown = c.shown

/-- A resume that takes its turn changes whose the task is only while the tracker
    is idle and the stored id is the one that was loaded, or is already removed
    by this resume. -/
def Heeds (c : Core) (job : Option Job) (c' : Core) : Prop :=
  ∀ j d taskId, job = some j → c.doing j = some d → d.loaded? = some taskId →
    c.SameOwner c' ∨ c.lifecycle = .idle ∧ (d.isClearing = true ∨ c.stored = some taskId)

/-! ### Moves -/

/-- A page that is left breaks off the removal of an id. -/
def Breaks (c : Core) (scene : Scene) : Prop :=
  scene.left = true ∧ (c.doing .worker).any Call.isClearing = true

/-- What one event does to a core, with its scene. A new call has to be one that
    `admits` allows. -/
inductive Move (admits : Core → Call → Prop) (c : Core) : Scene → Core → Prop
  /-- A channel delivers, or changes only itself. -/
  | deliver {job : Option Job} {ds : List Delivery} (hjob : ∀ j, job = some j → c.doing j = none)
      (hquiet : c.active = none → ds = []) :
      Move admits c { job } { c with queue := c.queue ++ ds }
  | call {k : Nat} {d : Call} (hfree : c.doing (.call k) = none) (hnew : d.isNew)
      (hadmits : admits c d) :
      Move admits c {} { c with doing := Function.update c.doing (.call k) (some d) }
  /-- The worker passes over deliveries, and gives up what it is at. Only a page that
      is left has it give up the removal of an id. -/
  | dismiss {job : Option Job} {left : Bool} {rest : List Delivery}
      (hjob : ∀ j, job = some j → c.doing j = none) (hrest : ∀ d ∈ rest, d ∈ c.queue)
      (hworker : ∀ d, c.doing .worker = some d → ∃ stage, d = .settling stage .applied)
      (hclear : ∀ d, c.doing .worker = some d → d.isClearing = true → left = true) :
      Move admits c { job, left }
        ({ c with
            queue := rest
            locked := c.locked && !(c.doing .worker).any Call.holds }.ended .worker)
  | warn {taskId : String} {n : Nat} {rest : List Delivery}
      (hqueue : c.queue = .stalled taskId n :: rest) (hfree : c.doing .worker = none)
      (hcurrent : c.current = some taskId) (hwarned : c.warned = false) :
      Move admits c { job := some .worker, calls := [.notify .stalled] }
        ({ c with queue := rest, warned := true }.ended .worker)
  | take {source : Source} {s : Snapshot} {rest : List Delivery}
      (hqueue : c.queue = .snapshot source s :: rest) (hfree : c.doing .worker = none) :
      Move admits c { job := some .worker } ({ c with queue := rest }.settle .worker s .applied)
  | apply {j : Job} {s : Snapshot} (hdoing : c.doing j = some (.applying s)) :
      Move admits c { job := some j } (c.settle j s .applied)
  | lock {j : Job} {s : Snapshot} {goal : Goal}
      (hdoing : c.doing j = some (.settling (.locking s) goal)) (hlocked : c.locked = false) :
      Move admits c { job := some j } (c.settle j s goal)
  /-- A snapshot of another task than the one that was stored is ignored. -/
  | pass {j : Job} {s : Snapshot} {goal : Goal} {found : Option String}
      (hdoing : c.doing j = some (.settling (.reading s) goal))
      (hanswer : c.answer j = some (.value found))
      (hother : Store.Identity.taskId? found ≠ some s.id) :
      Move admits c { job := some j, applied := some s } (c.settled j goal)
  | redraw {j : Job} {s : Snapshot} {goal : Goal} {found : Option String}
      (hdoing : c.doing j = some (.settling (.reading s) goal))
      (hanswer : c.answer j = some (.value found))
      (hsame : Store.Identity.taskId? found = some s.id) (hrun : s.isTerminal = false) :
      Move admits c
        { job := some j, calls := [.updateProgress (c.display.following s)], applied := some s }
        ({ c with display := c.display.following s }.settled j goal)
  /-- A terminal snapshot has the stored id removed. -/
  | close {j : Job} {s : Snapshot} {goal : Goal} {found : Option String}
      (hdoing : c.doing j = some (.settling (.reading s) goal))
      (hanswer : c.answer j = some (.value found))
      (hsame : Store.Identity.taskId? found = some s.id) (hend : s.isTerminal = true) :
      Move admits c { job := some j, applied := some s }
        ({ c with display := c.display.following s }.wait j
          (.settling (.clearing s (c.display.apply s (some s.id)) s.lastEffects) goal))
  | finish {j : Job} {s : Snapshot} {applied : Applied} {rest : List Effect} {goal : Goal}
      (hdoing : c.doing j = some (.settling (.clearing s applied rest) goal)) :
      Move admits c { job := some j, calls := s.closing, applied := some s }
        ({ c with lifecycle := .idle, current := none, active := none }.settled j goal)
  /-- A new call that the tracker refuses. -/
  | drop {j : Job} {d : Call} (hdoing : c.doing j = some d) (hnew : d.isNew) :
      Move admits c { job := some j } (c.ended j)
  | load {j : Job} {d : Call} (hdoing : c.doing j = some d) (hd : d = .entering ∨ d = .resuming)
      (hidle : c.lifecycle = .idle) :
      Move admits c { job := some j } (c.wait j .loading)
  | found {j : Job} {found : Option String} {taskId : String} (hdoing : c.doing j = some .loading)
      (hanswer : c.answer j = some (.value found))
      (hfound : Store.Identity.taskId? found = some taskId) :
      Move admits c { job := some j } (c.wait j (.fetching taskId))
  | nothing {j : Job} {found : Option String} (hdoing : c.doing j = some .loading)
      (hanswer : c.answer j = some (.value found)) (hfound : Store.Identity.taskId? found = none) :
      Move admits c { job := some j } ({ c with entered := true }.ended j)
  /-- A stored task that cannot be fetched is forgotten. -/
  | forget {j : Job} {taskId : String} (hdoing : c.doing j = some (.fetching taskId)) :
      Move admits c { job := some j } (c.wait j (.forgetting taskId))
  | stale {j : Job} {taskId : String} (hdoing : c.doing j = some (.forgetting taskId)) :
      Move admits c { job := some j } ({ c with entered := true }.ended j)
  /-- The stored task has ended. -/
  | conclude {j : Job} {s : Snapshot} (hdoing : c.doing j = some (.fetching s.id))
      (hend : s.isTerminal = true) :
      Move admits c { job := some j }
        ({ c with current := some s.id }.settle j s (.finished s.id s.status))
  | resume {j : Job} {s : Snapshot} (hdoing : c.doing j = some (.fetching s.id))
      (hrun : s.isTerminal = false) :
      Move admits c { job := some j, calls := [.showProgress s.id] }
        ((c.begin s.id).settle j s (.resumed s.id))
  | create {j : Job} {params : Json.Value} (hdoing : c.doing j = some (.starting params))
      (hidle : c.lifecycle = .idle) :
      Move admits c { job := some j } ({ c with lifecycle := .creating }.wait j (.creating params))
  | save {j : Job} {params : Json.Value} {taskId : String}
      (hdoing : c.doing j = some (.creating params)) (hfresh : c.Fresh taskId) :
      Move admits c { job := some j } (c.wait j (.saving taskId))
  | refuse {j : Job} {params : Json.Value} {cause : String}
      (hdoing : c.doing j = some (.creating params)) :
      Move admits c { job := some j, calls := [.notify (.notStarted cause)] }
        ({ c with lifecycle := .idle }.ended j)
  | track {j : Job} {taskId : String} (hdoing : c.doing j = some (.saving taskId)) :
      Move admits c { job := some j, calls := [.showProgress taskId] } ((c.begin taskId).ended j)
  | release {j : Job} {taskId : String} (hdoing : c.doing j = some .cancelling)
      (hlocked : c.locked = false) (htracking : c.lifecycle = .tracking)
      (hcurrent : c.current = some taskId) :
      Move admits c { job := some j, calls := [.hideProgress] }
        ({ c with
            lifecycle := .idle, current := none, display := {}, active := none
            locked := true }.wait j (.erasing taskId))
  | erase {j : Job} {taskId : String} (hdoing : c.doing j = some (.erasing taskId)) :
      Move admits c { job := some j } ({ c with locked := false }.wait j (.withdrawing taskId none))
  | withdraw {j : Job} {d : Call} {calls : List ViewCall} (hdoing : c.doing j = some d)
      (hd : d.isWithdrawing) (hcalls : ∀ call ∈ calls, ∃ notice, call = .notify notice) :
      Move admits c { job := some j, calls, aside := true } (c.ended j)

/-! ### Moves of a job with a snapshot -/

namespace Move

variable {admits : Core → Call → Prop} {c c' : Core} {scene : Scene} {j : Job} {s : Snapshot}
  {goal : Goal}

theorem of_locking (h : Move admits c scene c') (hjob : scene.job = some j)
    (hdoing : c.doing j = some (.settling (.locking s) goal)) : c' = c.settle j s goal := by
  cases h with
  | lock hdoing' _ =>
    cases hjob
    rw [hdoing] at hdoing'
    cases hdoing'
    rfl
  | _ => grind [Call.isNew, Call.isWithdrawing]

theorem of_reading (h : Move admits c scene c') (hjob : scene.job = some j)
    (hdoing : c.doing j = some (.settling (.reading s) goal)) :
    ∃ found, c.answer j = some (.value found) ∧
      (Store.Identity.taskId? found ≠ some s.id ∧ scene.calls = [] ∧ c' = c.settled j goal ∨
        Store.Identity.taskId? found = some s.id ∧
          (s.isTerminal = false ∧ scene.calls = [.updateProgress (c.display.following s)] ∧
              c' = { c with display := c.display.following s }.settled j goal ∨
            s.isTerminal = true ∧ scene.calls = [] ∧
              c' = { c with display := c.display.following s }.wait j
                (.settling (.clearing s (c.display.apply s (some s.id)) s.lastEffects) goal))) := by
  cases h with
  | pass hdoing' hanswer hother =>
    cases hjob
    rw [hdoing] at hdoing'
    cases hdoing'
    exact ⟨_, hanswer, .inl ⟨hother, rfl, rfl⟩⟩
  | redraw hdoing' hanswer hsame hrun =>
    cases hjob
    rw [hdoing] at hdoing'
    cases hdoing'
    exact ⟨_, hanswer, .inr ⟨hsame, .inl ⟨hrun, rfl, rfl⟩⟩⟩
  | close hdoing' hanswer hsame hend =>
    cases hjob
    rw [hdoing] at hdoing'
    cases hdoing'
    exact ⟨_, hanswer, .inr ⟨hsame, .inr ⟨hend, rfl, rfl⟩⟩⟩
  | _ => grind [Call.isNew, Call.isWithdrawing]

theorem of_clearing {applied : Applied} {rest : List Effect} (h : Move admits c scene c')
    (hjob : scene.job = some j)
    (hdoing : c.doing j = some (.settling (.clearing s applied rest) goal)) :
    scene.calls = s.closing ∧
      c' = { c with lifecycle := .idle, current := none, active := none }.settled j goal := by
  cases h with
  | finish hdoing' =>
    cases hjob
    rw [hdoing] at hdoing'
    cases hdoing'
    exact ⟨rfl, rfl⟩
  | _ => grind [Call.isNew, Call.isWithdrawing]

/-- Nobody holds the lock once a removal is broken off. -/
theorem locked_of_breaks (h : Move admits c scene c') (hbreaks : c.Breaks scene) :
    c'.locked = false := by
  obtain ⟨hleft, hclears⟩ := hbreaks
  cases h with
  | dismiss =>
    have hholds : (c.doing .worker).any Call.holds = true := by
      cases hd : c.doing .worker with
      | none =>
        rw [hd] at hclears
        cases hclears
      | some d =>
        rw [hd] at hclears
        exact Call.holds_of_isClearing hclears
    simp [ended, hholds]
  | _ => cases hleft

end Move

end Core

end TaskTracking
