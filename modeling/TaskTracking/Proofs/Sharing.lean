import Mathlib.Algebra.Order.BigOperators.Group.List
import Mathlib.Algebra.Order.Ring.Nat
import Mathlib.Data.List.Basic
import Mathlib.Data.List.Induction
import TaskTracking.Proofs.Interruption
import TaskTracking.Store.Identity

/-! # A state file that pages share

  Several pages keep their task ids in one state file, through one backend. Their calls
  overlap: a call waits for the backend's lock, its operation goes through its stages,
  and the call gives the lock back. Other calls may come between any two of these events,
  and whoever waits may be the next to get the lock. Whatever happens, the files and the
  turns are those of the operations one after another in the order of the lock
  (`Shared.ordered_of_reaches`), and every call comes to its end
  (`Shared.Ordered.goesOn`, `Shared.length_history_le`).
-/

namespace TaskTracking.Store

open StateFile

/-! ### Calls of identity stores -/

/-- What a page wants of its identity store. -/
inductive Errand where
  | load
  | save (taskId : String)
  | clear
deriving DecidableEq

namespace Identity

/-- What the store asks of its backend. -/
def request (i : Identity) : Errand → Request
  | .load => i.load
  | .save taskId => i.save taskId
  | .clear => i.clear

/-- What the store makes of the answer: an empty text is no task id. -/
def heard : Answer → Answer
  | .value found => .value (taskId? found)
  | answer => answer

end Identity

namespace StateFile

/-- An operation with what it has asked for. -/
def turn (path : String) (files : Files) (o : Operation) : Files × (Request × Stage) :=
  ((operate path files o).1, o.request, (operate path files o).2)

/-- Nothing is broken off by the end of the program. -/
theorem operate_eq_undergoAll (path : String) (files : Files) (request : Request)
    (incidents : List Incident) :
    operate path files { request, incidents } = undergoAll path files { request, incidents } := by
  have hpart (f : Files) (stage : Stage) : part path f stage none = f := by
    cases stage <;> rfl
  unfold operate
  dsimp only
  rw [hpart]

/-- An operation goes on from where it is. -/
theorem operate_append (path : String) (files : Files) (request : Request)
    (before after : List Incident) :
    operate path files { request, incidents := before ++ after } =
      after.foldl (undergo path) (operate path files { request, incidents := before }) := by
  rw [operate_eq_undergoAll, operate_eq_undergoAll]
  unfold undergoAll
  rw [List.foldl_append]

end StateFile

namespace Shared

/-- How far a call is. -/
inductive Position where
  /-- It waits for the lock. -/
  | waiting
  /-- It has the lock, and its operation is at a stage. -/
  | inside (stage : Stage)
  /-- It has given the lock back. -/
  | returned (result : Except StorageFailure Answer)

/-- A call of an identity store. -/
structure Call where
  store : Identity
  errand : Errand
  position : Position := .waiting

namespace Call

def request (c : Call) : Request := c.store.request c.errand

/-- The stage of its operation, once that has begun. -/
def stage? (c : Call) : Option Stage :=
  match c.position with
  | .waiting => none
  | .inside stage => some stage
  | .returned result => some (.finished result)

/-- What the page gets. -/
def result? (c : Call) : Option (Except StorageFailure Answer) :=
  match c.position with
  | .returned result => some (result.map Identity.heard)
  | _ => none

/-- The page has its result. -/
def IsOver (c : Call) : Prop := ∃ result, c.position = .returned result

end Call

/-- Something that happens to a shared backend. -/
inductive Event where
  /-- A store is called, and the call waits for the lock. -/
  | called (store : Identity) (errand : Errand)
  /-- The lock is free, and call `n` gets it. -/
  | enters (n : Nat)
  /-- The operation of call `n` goes through one stage. -/
  | proceeds (n : Nat) (incident : Incident)
  /-- Call `n` is over and gives the lock back. -/
  | leaves (n : Nat)

/-- The call that gets the lock. -/
def Event.entered? : Event → Option Nat
  | .enters n => some n
  | _ => none

/-- What comes of a stage of call `n`. -/
def Event.incident? (n : Nat) : Event → Option Incident
  | .proceeds m incident => if m = n then some incident else none
  | _ => none

end Shared

/-- One backend on a state file, which any number of identity stores share. -/
structure Shared where
  path : String
  files : Files
  /-- Whether a call has the lock. -/
  locked : Bool := false
  /-- All calls, the oldest first. -/
  calls : List Shared.Call := []
  /-- What has happened, the oldest first. -/
  history : List Shared.Event := []

namespace Shared

/-- A backend that nobody has called yet. -/
def opened (path : String) (files : Files) : Shared := { path, files }

/-! ### Steps -/

/-- The backend after call `n` has got to another position. -/
def move (s : Shared) (n : Nat) (position : Position) : Shared :=
  { s with calls := s.calls.modify n fun call => { call with position } }

/-- What comes of an event; none if it cannot happen now. -/
def next? (s : Shared) : Event → Option Shared
  | .called store errand => some { s with calls := s.calls ++ [{ store, errand }] }
  | .enters n =>
    s.calls[n]?.bind fun call =>
      match call.position with
      | .waiting =>
        if s.locked then none
        else some { s.move n (.inside (.reading call.request)) with locked := true }
      | _ => none
  | .proceeds n incident =>
    s.calls[n]?.bind fun call =>
      match call.position with
      | .inside stage =>
        if stagesLeft stage = 0 then none
        else
          let turn := undergo s.path (s.files, stage) incident
          some { s.move n (.inside turn.2) with files := turn.1 }
      | _ => none
  | .leaves n =>
    s.calls[n]?.bind fun call =>
      match call.position with
      | .inside (.finished result) => some { s.move n (.returned result) with locked := false }
      | _ => none

/-- The backend after an event, which is kept in its history. -/
def step (s : Shared) (event : Event) : Option Shared :=
  (s.next? event).map fun t => { t with history := s.history ++ [event] }

/-- The backends that come of `s₀`. -/
inductive Reaches (s₀ : Shared) : Shared → Prop where
  | refl : Reaches s₀ s₀
  | step : ∀ {s s'} e, Reaches s₀ s → s.step e = some s' → Reaches s₀ s'

/-- Events one after another, as long as they can happen. -/
def play (es : List Event) (s : Shared) : Option Shared := es.foldlM step s

/-- Whatever is played is reached. -/
theorem reaches_of_play {es : List Event} {s₀ s : Shared} (h : play es s₀ = some s) :
    Reaches s₀ s := by
  -- From the last event, as histories grow at their end.
  induction es using List.reverseRecOn generalizing s with
  | nil =>
    have hs : s₀ = s := Option.some.inj h
    exact hs ▸ .refl
  | append_singleton es e ih =>
    rw [play, List.foldlM_append] at h
    obtain ⟨s₁, h₁, hlast⟩ := Option.bind_eq_some_iff.mp h
    rw [List.foldlM_cons] at hlast
    obtain ⟨s₂, h₂, hend⟩ := Option.bind_eq_some_iff.mp hlast
    have hs : s₂ = s := Option.some.inj hend
    exact .step e (ih h₁) (hs ▸ h₂)

/-! ### The order of the lock -/

/-- The calls in the order in which they got the lock. -/
def order (s : Shared) : List Nat := s.history.filterMap Event.entered?

/-- What has come of the stages of call `n`. -/
def incidents (s : Shared) (n : Nat) : List Incident := s.history.filterMap (Event.incident? n)

/-- What call `n` has asked for. -/
def request? (s : Shared) (n : Nat) : Option Request := s.calls[n]?.map Call.request

/-- The operation of call `n`, as far as it has gone. -/
def operation? (s : Shared) (n : Nat) : Option Operation :=
  (s.request? n).map fun request => { request, incidents := s.incidents n }

/-- What call `n` has asked for, and the stage that its operation is at. -/
def turn? (s : Shared) (n : Nat) : Option (Request × Stage) :=
  s.calls[n]?.bind fun call => call.stage?.map (call.request, ·)

/-- The operations in the order of the lock. -/
def operations (s : Shared) : List Operation := s.order.filterMap s.operation?

/-- The turns in the order of the lock. -/
def turns (s : Shared) : List (Request × Stage) := s.order.filterMap s.turn?

variable {s s' : Shared} {n m : Nat} {call : Call}

/-! ### What an event does -/

theorem step_eq_some {e : Event} (h : s.step e = some s') :
    ∃ t, s.next? e = some t ∧ s' = { t with history := s.history ++ [e] } := by
  obtain ⟨t, ht, rfl⟩ := Option.map_eq_some_iff.mp h
  exact ⟨t, ht, rfl⟩

theorem enters_spec (h : s.next? (.enters n) = some s') :
    ∃ call, s.calls[n]? = some call ∧ call.position = .waiting ∧ s.locked = false ∧
      s' = { s.move n (.inside (.reading call.request)) with locked := true } := by
  obtain ⟨call, hcall, hrest⟩ := Option.bind_eq_some_iff.mp h
  split at hrest
  · next hwaiting =>
    split at hrest
    · cases hrest
    · next hfree =>
      exact ⟨call, hcall, hwaiting, by simpa using hfree, (Option.some.inj hrest).symm⟩
  · cases hrest

theorem proceeds_spec {incident : Incident} (h : s.next? (.proceeds n incident) = some s') :
    ∃ call stage, s.calls[n]? = some call ∧ call.position = .inside stage ∧
      stagesLeft stage ≠ 0 ∧
      s' = { s.move n (.inside (undergo s.path (s.files, stage) incident).2) with
        files := (undergo s.path (s.files, stage) incident).1 } := by
  obtain ⟨call, hcall, hrest⟩ := Option.bind_eq_some_iff.mp h
  split at hrest
  · next stage hinside =>
    split at hrest
    · cases hrest
    · next hleft => exact ⟨call, stage, hcall, hinside, hleft, (Option.some.inj hrest).symm⟩
  · cases hrest

theorem leaves_spec (h : s.next? (.leaves n) = some s') :
    ∃ call result, s.calls[n]? = some call ∧ call.position = .inside (.finished result) ∧
      s' = { s.move n (.returned result) with locked := false } := by
  obtain ⟨call, hcall, hrest⟩ := Option.bind_eq_some_iff.mp h
  split at hrest
  · next result hinside => exact ⟨call, result, hcall, hinside, (Option.some.inj hrest).symm⟩
  · cases hrest

section Move

variable {position : Position}

theorem calls_move_self (hcall : s.calls[n]? = some call) (position : Position) :
    (s.move n position).calls[n]? = some { call with position } := by
  unfold move
  rw [List.getElem?_modify_eq, hcall]
  rfl

theorem calls_move_ne (hne : m ≠ n) (position : Position) :
    (s.move n position).calls[m]? = s.calls[m]? := by
  unfold move
  rw [List.getElem?_modify_ne _ _ hne.symm]

theorem request?_move (s : Shared) (n : Nat) (position : Position) (m : Nat) :
    (s.move n position).request? m = s.request? m := by
  unfold request?
  by_cases h : m = n
  · subst h
    cases hcall : s.calls[m]? with
    | none =>
      rw [move, List.getElem?_modify_eq, hcall]
      rfl
    | some call =>
      rw [calls_move_self hcall]
      rfl
  · rw [calls_move_ne h]

end Move

/-! ### One after another -/

/-- Call `n` waits no more. -/
def HasEntered (s : Shared) (n : Nat) : Prop :=
  ∃ call, s.calls[n]? = some call ∧ call.position ≠ .waiting

/-- The operation of call `n` is at a stage. -/
def IsInside (s : Shared) (n : Nat) (stage : Stage) : Prop :=
  ∃ call, s.calls[n]? = some call ∧ call.position = .inside stage

/-- **Invariant.** The files and the turns are those of the operations one after another, the last
    of which may not be over yet. -/
structure Ordered (files : Files) (s : Shared) : Prop where
  /-- Each call gets the lock once. -/
  nodup : s.order.Nodup
  entered : ∀ n, n ∈ s.order ↔ s.HasEntered n
  fresh : ∀ n, n ∉ s.order → s.incidents n = []
  serial : serve (turn s.path) files s.operations = (s.files, s.turns)
  /-- Who is inside has the lock, and nobody has got it since. -/
  inside : ∀ n stage, s.IsInside n stage → s.locked = true ∧ s.order.getLast? = some n
  /-- Who has the lock is inside. -/
  held : s.locked = true → ∃ n stage, s.IsInside n stage

theorem ordered_opened (path : String) (files : Files) : Ordered files (opened path files) where
  nodup := List.nodup_nil
  entered n := by
    constructor
    · intro h
      cases h
    · rintro ⟨call, hcall, -⟩
      cases hcall
  fresh _ _ := rfl
  serial := rfl
  inside n stage h := by
    obtain ⟨call, hcall, -⟩ := h
    cases hcall
  held h := by cases h

/-! ### The invariant is kept -/

section Note

variable {e : Event}

theorem order_note (h : s'.history = s.history ++ [e]) :
    s'.order = s.order ++ e.entered?.toList := by
  unfold order
  rw [h, List.filterMap_append]
  cases he : e.entered? <;> simp [he]

theorem incidents_note (h : s'.history = s.history ++ [e]) (n : Nat) :
    s'.incidents n = s.incidents n ++ (e.incident? n).toList := by
  unfold incidents
  rw [h, List.filterMap_append]
  cases he : e.incident? n <;> simp [he]

end Note

/-- An operation is asked for and has come as far as its incidents say. -/
theorem operation?_congr (hrequest : s'.request? n = s.request? n)
    (hincidents : s'.incidents n = s.incidents n) : s'.operation? n = s.operation? n := by
  unfold operation?
  rw [hrequest, hincidents]

theorem turn?_congr (h : s'.calls[n]? = s.calls[n]?) : s'.turn? n = s.turn? n := by
  unfold turn?
  rw [h]

section FilterMap

variable {β : Type} {f g : Nat → Option β}

theorem filterMap_order (horder : s'.order = s.order) (h : ∀ n ∈ s.order, f n = g n) :
    s'.order.filterMap f = s.order.filterMap g := by
  rw [horder]
  exact List.filterMap_congr h

theorem filterMap_order_concat {before : List Nat} {b : β} (horder : s.order = before ++ [n])
    (hlast : f n = some b) (h : ∀ m ∈ before, f m = g m) :
    s.order.filterMap f = before.filterMap g ++ [b] := by
  rw [horder, List.filterMap_append, List.filterMap_cons_some hlast, List.filterMap_nil,
    List.filterMap_congr h]

end FilterMap

/-- Only the event of a call itself tells of an incident of its. -/
theorem incident?_of_ne {e : Event} (h : e.incident? m ≠ none) :
    ∃ incident, e = .proceeds m incident := by
  cases e with
  | proceeds n incident =>
    by_cases hsame : n = m
    · exact ⟨incident, by rw [hsame]⟩
    · exact absurd (if_neg hsame) h
  | called | enters | leaves => exact absurd rfl h

/-- Call `n` has got to another position, and nothing else happened to the calls. -/
structure Moved (s : Shared) (n : Nat) (position : Position) (e : Event) (s' : Shared) : Prop where
  path : s'.path = s.path
  calls : s'.calls = (s.move n position).calls
  history : s'.history = s.history ++ [e]
  about : ∀ m incident, e = .proceeds m incident → m = n

section Moved

variable {position : Position} {e : Event}

theorem Moved.hasEntered (h : Moved s n position e s') (hcall : s.calls[n]? = some call)
    (hposition : position ≠ .waiting) : s'.HasEntered m ↔ m = n ∨ s.HasEntered m := by
  unfold HasEntered
  rw [h.calls]
  by_cases hm : m = n
  · subst hm
    rw [calls_move_self hcall]
    simp [hposition]
  · rw [calls_move_ne hm]
    simp [hm]

theorem Moved.isInside_ne (h : Moved s n position e s') (hne : m ≠ n) {stage : Stage} :
    s'.IsInside m stage ↔ s.IsInside m stage := by
  unfold IsInside
  rw [h.calls, calls_move_ne hne]

theorem Moved.isInside_self (h : Moved s n position e s') (hcall : s.calls[n]? = some call)
    {stage : Stage} : s'.IsInside n stage ↔ position = .inside stage := by
  unfold IsInside
  rw [h.calls, calls_move_self hcall]
  simp

theorem Moved.request? (h : Moved s n position e s') (m : Nat) :
    s'.request? m = s.request? m := by
  rw [← request?_move s n position m]
  unfold Shared.request?
  rw [h.calls]

theorem Moved.incidents_ne (h : Moved s n position e s') (hne : m ≠ n) :
    s'.incidents m = s.incidents m := by
  have hnone : e.incident? m = none := by
    by_contra hsome
    obtain ⟨incident, he⟩ := incident?_of_ne hsome
    exact hne (h.about m incident he)
  rw [incidents_note h.history, hnone]
  exact List.append_nil _

theorem Moved.operation?_ne (h : Moved s n position e s') (hne : m ≠ n) :
    s'.operation? m = s.operation? m := operation?_congr (h.request? m) (h.incidents_ne hne)

theorem Moved.turn?_ne (h : Moved s n position e s') (hne : m ≠ n) : s'.turn? m = s.turn? m := by
  apply turn?_congr
  rw [h.calls, calls_move_ne hne]

theorem Moved.turn?_self (h : Moved s n position e s') (hcall : s.calls[n]? = some call) :
    s'.turn? n = ({ call with position } : Call).stage?.map (call.request, ·) := by
  unfold turn?
  rw [h.calls, calls_move_self hcall]
  rfl

end Moved

section Ordered

variable {files : Files}

/-- A new call waits, and the others are where they were. -/
theorem Ordered.called {store : Identity} {errand : Errand} (h : Ordered files s)
    (hpath : s'.path = s.path) (hfiles : s'.files = s.files) (hlocked : s'.locked = s.locked)
    (hcalls : s'.calls = s.calls ++ [({ store, errand } : Call)])
    (hhistory : s'.history = s.history ++ [.called store errand]) : Ordered files s' := by
  have horder : s'.order = s.order := (order_note hhistory).trans (List.append_nil _)
  have hincidents (n : Nat) : s'.incidents n = s.incidents n :=
    (incidents_note hhistory n).trans (List.append_nil _)
  -- The new call waits, so whoever has entered is an old one.
  have hold (n : Nat) (hn : s.HasEntered n) : s'.calls[n]? = s.calls[n]? := by
    obtain ⟨call, hcall, -⟩ := hn
    rw [hcalls]
    exact List.getElem?_append_left (List.getElem?_eq_some_iff.mp hcall).1
  have hnew (n : Nat) (call : Call) (hcall : s'.calls[n]? = some call)
      (hposition : call.position ≠ .waiting) : s.calls[n]? = some call := by
    rw [hcalls, List.getElem?_append] at hcall
    split at hcall
    · exact hcall
    · obtain ⟨_, hlast⟩ := List.getElem?_eq_some_iff.mp hcall
      obtain rfl : { store, errand } = call := by simpa using hlast
      exact absurd rfl hposition
  have hoperations : s'.operations = s.operations := by
    apply filterMap_order horder
    intro n hn
    apply operation?_congr _ (hincidents n)
    unfold Shared.request?
    rw [hold n ((h.entered n).mp hn)]
  have hturns : s'.turns = s.turns :=
    filterMap_order horder fun n hn => turn?_congr (hold n ((h.entered n).mp hn))
  constructor
  · rw [horder]
    exact h.nodup
  · intro n
    rw [horder, h.entered]
    constructor
    · rintro hn
      obtain ⟨call, hcall, hposition⟩ := hn
      exact ⟨call, (hold n ⟨call, hcall, hposition⟩).trans hcall, hposition⟩
    · rintro ⟨call, hcall, hposition⟩
      exact ⟨call, hnew n call hcall hposition, hposition⟩
  · intro n hn
    rw [horder] at hn
    rw [hincidents, h.fresh n hn]
  · rw [hpath, hfiles, hoperations, hturns, h.serial]
  · rintro n stage ⟨call, hcall, hinside⟩
    rw [hlocked, horder]
    exact h.inside n stage ⟨call, hnew n call hcall (by simp [hinside]), hinside⟩
  · intro hheld
    rw [hlocked] at hheld
    obtain ⟨n, stage, call, hcall, hinside⟩ := h.held hheld
    exact ⟨n, stage, call, (hold n ⟨call, hcall, by simp [hinside]⟩).trans hcall, hinside⟩

/-- Who gets the lock is the last to have got it, and its operation is the next. -/
theorem Ordered.enters (h : Ordered files s) (hcall : s.calls[n]? = some call)
    (hwaiting : call.position = .waiting) (hfree : s.locked = false)
    (hmoved : Moved s n (.inside (.reading call.request)) (.enters n) s')
    (hfiles : s'.files = s.files) (hlocked : s'.locked = true) : Ordered files s' := by
  have horder : s'.order = s.order ++ [n] := order_note hmoved.history
  have hnew : n ∉ s.order := by
    rw [h.entered]
    rintro ⟨call', hcall', hposition⟩
    obtain rfl : call = call' := Option.some.inj (hcall.symm.trans hcall')
    exact hposition hwaiting
  have hne (m : Nat) (hm : m ∈ s.order) : m ≠ n := fun heq => hnew (heq ▸ hm)
  have hincidents : s'.incidents n = [] := by
    rw [incidents_note hmoved.history, h.fresh n hnew]
    rfl
  -- The lock is free, so nobody else is inside, before or after.
  have hnobody (m : Nat) (stage : Stage) : ¬ s.IsInside m stage := by
    intro hm
    have hheld := (h.inside m stage hm).1
    rw [hfree] at hheld
    cases hheld
  have hoperations :
      s'.operations = s.operations ++ [{ request := call.request, incidents := [] }] := by
    have hlast : s'.operation? n = some { request := call.request, incidents := [] } := by
      unfold operation?
      rw [hmoved.request?, hincidents, Shared.request?, hcall]
      rfl
    exact filterMap_order_concat horder hlast fun m hm => hmoved.operation?_ne (hne m hm)
  have hturns : s'.turns = s.turns ++ [(call.request, .reading call.request)] :=
    filterMap_order_concat horder (hmoved.turn?_self hcall) fun m hm => hmoved.turn?_ne (hne m hm)
  constructor
  · rw [horder]
    exact List.nodup_append.mpr ⟨h.nodup, by simp, by simpa using hne⟩
  · intro m
    rw [horder, hmoved.hasEntered hcall (by simp), ← h.entered, List.mem_append,
      List.mem_singleton, or_comm]
  · intro m hm
    rw [horder, List.mem_append, List.mem_singleton, not_or] at hm
    rw [hmoved.incidents_ne hm.2, h.fresh m hm.1]
  · rw [hmoved.path, hoperations, hturns, serve_append, h.serial, hfiles]
    simp [serve, turn, operate, undergoAll, part]
  · intro m stage hm
    rw [horder]
    by_cases hmn : m = n
    · subst hmn
      exact ⟨hlocked, List.getLast?_concat⟩
    · exact absurd ((hmoved.isInside_ne hmn).mp hm) (hnobody m stage)
  · intro _
    exact ⟨n, _, (hmoved.isInside_self hcall).mpr rfl⟩

/-- Whoever is inside has got the lock before. -/
theorem Ordered.entered_of_moved {position : Position} {e : Event} {stage : Stage}
    (h : Ordered files s) (hcall : s.calls[n]? = some call)
    (hinside : call.position = .inside stage) (hmoved : Moved s n position e s')
    (hposition : position ≠ .waiting) (horder : s'.order = s.order) (m : Nat) :
    m ∈ s'.order ↔ s'.HasEntered m := by
  rw [horder, hmoved.hasEntered hcall hposition, h.entered]
  constructor
  · exact .inr
  · rintro (rfl | hm)
    · exact ⟨call, hcall, by simp [hinside]⟩
    · exact hm

/-- The serial run goes through one stage more of its last operation, where the shared run
    does: both differ in that operation only. -/
theorem Ordered.serial_of_proceeds {stage : Stage} {incident : Incident} (h : Ordered files s)
    (hcall : s.calls[n]? = some call) (hinside : call.position = .inside stage)
    (hmoved : Moved s n (.inside (undergo s.path (s.files, stage) incident).2)
      (.proceeds n incident) s')
    (hlast : s.order.getLast? = some n) (horder : s'.order = s.order) :
    serve (turn s.path) files s'.operations =
      ((undergo s.path (s.files, stage) incident).1, s'.turns) := by
  obtain ⟨before, hbefore⟩ := List.getLast?_eq_some_iff.mp hlast
  have hne (m : Nat) (hm : m ∈ before) : m ≠ n := by
    have hnodup := h.nodup
    rw [hbefore, List.nodup_append] at hnodup
    exact hnodup.2.2 m hm n (List.mem_singleton_self n)
  have hincidents : s'.incidents n = s.incidents n ++ [incident] := by
    rw [incidents_note hmoved.history]
    simp [Event.incident?]
  have hoperation : s.operation? n =
      some { request := call.request, incidents := s.incidents n } := by
    unfold operation? Shared.request?
    rw [hcall]
    rfl
  have hoperation' : s'.operation? n =
      some { request := call.request, incidents := s.incidents n ++ [incident] } := by
    unfold operation?
    rw [hmoved.request?, hincidents, Shared.request?, hcall]
    rfl
  have hturn : s.turn? n = some (call.request, stage) := by
    unfold turn? Call.stage?
    rw [hcall]
    simp [hinside]
  -- What was served before the last operation stays as it is.
  have hserial := h.serial
  rw [operations, filterMap_order_concat hbefore hoperation fun _ _ => rfl, turns,
    filterMap_order_concat hbefore hturn fun _ _ => rfl, serve_append] at hserial
  obtain ⟨hleft, hturns⟩ := Prod.mk.inj hserial
  obtain ⟨hearlier, hlatest⟩ := List.append_inj' hturns rfl
  have hoperate : operate s.path (serve (turn s.path) files (before.filterMap s.operation?)).1
      { request := call.request, incidents := s.incidents n } = (s.files, stage) :=
    Prod.ext hleft (Prod.mk.inj (List.singleton_inj.mp hlatest)).2
  have hoperations' : s'.operations = before.filterMap s.operation? ++
      [{ request := call.request, incidents := s.incidents n ++ [incident] }] :=
    filterMap_order_concat (horder.trans hbefore) hoperation' fun m hm =>
      hmoved.operation?_ne (hne m hm)
  have hturns' : s'.turns = before.filterMap s.turn? ++
      [(call.request, (undergo s.path (s.files, stage) incident).2)] :=
    filterMap_order_concat (horder.trans hbefore) (hmoved.turn?_self hcall) fun m hm =>
      hmoved.turn?_ne (hne m hm)
  rw [hoperations', hturns', serve_append, hearlier]
  simp only [serve, turn, operate_append, hoperate, List.foldl_cons, List.foldl_nil]

/-- The last operation goes through one stage more, and none after it has begun. -/
theorem Ordered.proceeds {stage : Stage} {incident : Incident} (h : Ordered files s)
    (hcall : s.calls[n]? = some call) (hinside : call.position = .inside stage)
    (hmoved : Moved s n (.inside (undergo s.path (s.files, stage) incident).2)
      (.proceeds n incident) s')
    (hfiles : s'.files = (undergo s.path (s.files, stage) incident).1)
    (hlocked : s'.locked = s.locked) : Ordered files s' := by
  have horder : s'.order = s.order := (order_note hmoved.history).trans (List.append_nil _)
  -- The call has the lock, so it is the last to have got it.
  obtain ⟨hheld, hlast⟩ := h.inside n stage ⟨call, hcall, hinside⟩
  constructor
  · rw [horder]
    exact h.nodup
  · exact h.entered_of_moved hcall hinside hmoved (by simp) horder
  · intro m hm
    rw [horder] at hm
    have hmn : m ≠ n := by
      rintro rfl
      exact hm (List.mem_of_getLast? hlast)
    rw [hmoved.incidents_ne hmn, h.fresh m hm]
  · rw [hmoved.path, hfiles]
    exact h.serial_of_proceeds hcall hinside hmoved hlast horder
  · intro m stage' hm
    rw [hlocked, horder]
    by_cases hmn : m = n
    · exact ⟨hheld, hmn ▸ hlast⟩
    · exact h.inside m stage' ((hmoved.isInside_ne hmn).mp hm)
  · intro _
    exact ⟨n, _, (hmoved.isInside_self hcall).mpr rfl⟩

/-- A call that gives the lock back leaves everything as it is. -/
theorem Ordered.leaves {result : Except StorageFailure Answer} (h : Ordered files s)
    (hcall : s.calls[n]? = some call) (hinside : call.position = .inside (.finished result))
    (hmoved : Moved s n (.returned result) (.leaves n) s') (hfiles : s'.files = s.files)
    (hlocked : s'.locked = false) : Ordered files s' := by
  have horder : s'.order = s.order := (order_note hmoved.history).trans (List.append_nil _)
  have hincidents (m : Nat) : s'.incidents m = s.incidents m :=
    (incidents_note hmoved.history m).trans (List.append_nil _)
  have hlast := (h.inside n _ ⟨call, hcall, hinside⟩).2
  have hoperations : s'.operations = s.operations :=
    filterMap_order horder fun m _ => operation?_congr (hmoved.request? m) (hincidents m)
  have hturns : s'.turns = s.turns := by
    apply filterMap_order horder
    intro m _
    by_cases hmn : m = n
    · subst hmn
      rw [hmoved.turn?_self hcall, turn?, hcall]
      simp [Call.stage?, hinside]
    · exact hmoved.turn?_ne hmn
  -- Whoever had the lock was the last to get it, so nobody is inside now.
  constructor
  · rw [horder]
    exact h.nodup
  · exact h.entered_of_moved hcall hinside hmoved (by simp) horder
  · intro m hm
    rw [horder] at hm
    rw [hincidents, h.fresh m hm]
  · rw [hmoved.path, hfiles, hoperations, hturns, h.serial]
  · intro m stage hm
    by_cases hmn : m = n
    · subst hmn
      cases (hmoved.isInside_self hcall).mp hm
    · have hother := (h.inside m stage ((hmoved.isInside_ne hmn).mp hm)).2
      exact absurd (Option.some.inj (hother.symm.trans hlast)) hmn
  · intro hheld
    rw [hlocked] at hheld
    cases hheld

theorem Ordered.step {e : Event} (h : Ordered files s) (hstep : s.step e = some s') :
    Ordered files s' := by
  obtain ⟨t, hnext, rfl⟩ := step_eq_some hstep
  cases e with
  | called store errand =>
    obtain rfl := Option.some.inj hnext
    exact h.called rfl rfl rfl rfl rfl
  | enters n =>
    obtain ⟨call, hcall, hwaiting, hfree, rfl⟩ := enters_spec hnext
    exact h.enters hcall hwaiting hfree ⟨rfl, rfl, rfl, nofun⟩ rfl rfl
  | proceeds n incident =>
    obtain ⟨call, stage, hcall, hinside, -, rfl⟩ := proceeds_spec hnext
    have habout (m : Nat) (i : Incident) (he : Event.proceeds n incident = .proceeds m i) :
        m = n := (Event.proceeds.inj he).1.symm
    exact h.proceeds hcall hinside ⟨rfl, rfl, rfl, habout⟩ rfl rfl
  | leaves n =>
    obtain ⟨call, result, hcall, hinside, rfl⟩ := leaves_spec hnext
    exact h.leaves hcall hinside ⟨rfl, rfl, rfl, nofun⟩ rfl rfl

theorem ordered_of_reaches {path : String} (h : Reaches (opened path files) s) :
    Ordered files s := by
  induction h with
  | refl => exact ordered_opened path files
  | step e _ hstep ih => exact ih.step hstep

/-- No two calls are inside at once. -/
theorem Ordered.alone {stage stage' : Stage} (h : Ordered files s) (hn : s.IsInside n stage)
    (hm : s.IsInside m stage') : n = m := by
  have hlast := (h.inside n stage hn).2
  rw [(h.inside m stage' hm).2] at hlast
  exact (Option.some.inj hlast).symm

end Ordered

/-! ### Nobody waits for ever -/

/-- So many events lie behind a call at least. -/
def Position.behind : Position → Nat
  | .waiting => 1
  | .inside stage => 6 - stagesLeft stage
  | .returned _ => 7

theorem Position.behind_le (position : Position) : position.behind ≤ 7 := by
  cases position with
  | waiting => exact Nat.le_of_ble_eq_true rfl
  | inside stage => exact (Nat.sub_le 6 _).trans (Nat.le_succ 6)
  | returned result => exact Nat.le_refl 7

theorem stagesLeft_undergo (path : String) (turn : Files × Stage) (incident : Incident) :
    stagesLeft (undergo path turn incident).2 ≤ stagesLeft turn.2 - 1 := by
  obtain ⟨files, stage⟩ := turn
  cases incident with
  | passes => exact stagesLeft_step path files stage
  | fails error extent =>
    cases stage with
    | reading request =>
      unfold undergo
      dsimp only
      split
      · exact stagesLeft_step path files (.reading request)
      · exact Nat.zero_le _
    | preparing | writing | moving | finished => exact Nat.zero_le _

/-- One summand has changed. -/
theorem sum_map_modify {α : Type} {l : List α} {n : Nat} {a : α} (h : l[n]? = some a) (f : α → α)
    (g : α → Nat) : ((l.modify n f).map g).sum + g a = (l.map g).sum + g (f a) := by
  induction l generalizing n with
  | nil => cases h
  | cons b l ih =>
    cases n with
    | zero =>
      obtain rfl : b = a := Option.some.inj h
      simp only [List.modify_zero_cons, List.map_cons, List.sum_cons]
      omega
    | succ n =>
      have hrest := ih h
      simp only [List.modify_succ_cons, List.map_cons, List.sum_cons]
      omega

/-- So many events lie behind all calls at least. -/
def behind (s : Shared) : Nat := (s.calls.map (·.position.behind)).sum

theorem behind_move (hcall : s.calls[n]? = some call) (position : Position) :
    (s.move n position).behind + call.position.behind = s.behind + position.behind :=
  sum_map_modify hcall _ _

theorem behind_le (s : Shared) : s.behind ≤ 7 * s.calls.length := by
  have hall : ∀ k ∈ s.calls.map (·.position.behind), k ≤ 7 := by
    intro k hk
    obtain ⟨call, -, rfl⟩ := List.mem_map.mp hk
    exact call.position.behind_le
  have hsum : s.behind ≤ (s.calls.map (·.position.behind)).length * 7 :=
    List.sum_le_card_nsmul _ 7 hall
  rwa [List.length_map, Nat.mul_comm] at hsum

/-- Each event brings its call a step nearer to the end. -/
theorem behind_step {e : Event} (hstep : s.step e = some s') : s.behind < s'.behind := by
  obtain ⟨t, hnext, rfl⟩ := step_eq_some hstep
  show s.behind < t.behind
  cases e with
  | called store errand =>
    obtain rfl := Option.some.inj hnext
    simp [behind, Position.behind]
  | enters n =>
    obtain ⟨call, hcall, hwaiting, -, rfl⟩ := enters_spec hnext
    have hmove := behind_move hcall (.inside (.reading call.request))
    rw [hwaiting] at hmove
    simp only [Position.behind, stagesLeft] at hmove
    show s.behind < (s.move n _).behind
    omega
  | proceeds n incident =>
    obtain ⟨call, stage, hcall, hinside, hleft, rfl⟩ := proceeds_spec hnext
    have hmove := behind_move hcall (.inside (undergo s.path (s.files, stage) incident).2)
    have hless := stagesLeft_undergo s.path (s.files, stage) incident
    have hmost : stagesLeft stage ≤ 4 := by
      cases stage <;> simp [stagesLeft]
    rw [hinside] at hmove
    simp only [Position.behind] at hmove hless
    show s.behind < (s.move n _).behind
    omega
  | leaves n =>
    obtain ⟨call, result, hcall, hinside, rfl⟩ := leaves_spec hnext
    have hmove := behind_move hcall (.returned result)
    rw [hinside] at hmove
    simp only [Position.behind, stagesLeft] at hmove
    show s.behind < (s.move n _).behind
    omega

/-- No more than seven events come of a call. -/
theorem length_history_le {path : String} {files : Files} (h : Reaches (opened path files) s) :
    s.history.length ≤ 7 * s.calls.length := by
  have hbehind : s.history.length ≤ s.behind := by
    induction h with
    | refl => exact Nat.zero_le _
    | step e _ hstep ih =>
      have hless := behind_step hstep
      obtain ⟨t, -, rfl⟩ := step_eq_some hstep
      show (_ ++ [e]).length ≤ _
      rw [List.length_append, List.length_singleton]
      omega
  exact hbehind.trans (behind_le s)

/-- As long as a call is not over, one of the calls can go on. -/
theorem Ordered.goesOn {files : Files} (h : Ordered files s) (hcall : call ∈ s.calls)
    (hopen : ¬ call.IsOver) :
    ∃ e, (∀ store errand, e ≠ .called store errand) ∧ (s.step e).isSome := by
  by_cases hlocked : s.locked = true
  · -- Whoever has the lock goes on.
    obtain ⟨n, stage, holder, hholder, hinside⟩ := h.held hlocked
    cases stage with
    | finished result => exact ⟨.leaves n, nofun, by simp [Shared.step, next?, hholder, hinside]⟩
    | reading | preparing | writing | moving =>
      exact ⟨.proceeds n .passes, nofun, by simp [Shared.step, next?, hholder, hinside, stagesLeft]⟩
  · -- The lock is free, so the call is waiting for it.
    obtain ⟨n, hn⟩ := List.mem_iff_getElem?.mp hcall
    cases hposition : call.position with
    | waiting => exact ⟨.enters n, nofun, by simp [Shared.step, next?, hn, hposition, hlocked]⟩
    | inside stage => exact absurd (h.inside n stage ⟨call, hn, hposition⟩).1 hlocked
    | returned result => exact absurd ⟨result, hposition⟩ hopen

end Shared

end TaskTracking.Store
