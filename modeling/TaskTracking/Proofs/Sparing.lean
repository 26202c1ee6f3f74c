import TaskTracking.Proofs.Exclusion
import TaskTracking.Proofs.Resumption

/-! # What becomes of a stored id

  An id that is not stored is not stored again, unless the server gives it to a
  new task (`Session.not_stored_step`). An id that is stored stays so, while the
  storage works, exactly as long as every event spares it
  (`Session.stored_along_iff`). Calls may overlap in any way.
-/

namespace TaskTracking

namespace Session

/-! ### Conditions -/

/-- The server gives no new task that id. -/
def Unclaimed (taskId : String) (_ : Session) : Event → Prop
  | .answered _ (.created (.ok created)) => created ≠ taskId
  | _ => True

instance (taskId : String) (s : Session) (e : Event) : Decidable (s.Unclaimed taskId e) := by
  -- These instances are evaluated; `cases` would leave rewritings in them.
  induction e using Event.casesOn with
  | answered job reply =>
    induction reply using Reply.casesOn with
    | created result =>
      induction result using Except.casesOn with
      | ok created => exact inferInstanceAs (Decidable (created ≠ taskId))
      | error => exact instDecidableTrue
    | _ => exact instDecidableTrue
  | _ => exact instDecidableTrue

/-- The storage is not disturbed. -/
def Undisturbed (_ : Session) : Event → Prop
  | .disturbed _ => False
  | _ => True

instance (s : Session) (e : Event) : Decidable (s.Undisturbed e) := by
  induction e using Event.casesOn with
  | disturbed => exact instDecidableFalse
  | _ => exact instDecidableTrue

theorem Fair.undisturbed {s : Session} {e : Event} (h : s.Fair e) : s.Undisturbed e := by
  cases e with
  | disturbed => exact h
  | _ => trivial

/-- The event does not end the task that is stored: no terminal snapshot of it is read, and
    it is not taken back. -/
def Lasts (s : Session) : Event → Prop
  | .stored job =>
    match s.doing job with
    | some (.settling (.reading snapshot) _) =>
      s.told job = some snapshot.id → snapshot.isTerminal = false
    | _ => True
  | .turn job =>
    match s.doing job with
    | some .cancelling => s.tracker.lifecycle = .tracking → s.tracker.current = none
    | _ => True
  | _ => True

/-- The event leaves the stored id as it is: it does not end its task, no resume goes
    without a status, and no new task is created. -/
def Spares (s : Session) (e : Event) : Prop :=
  s.Lasts e ∧
    match e with
    | .answered (.call _) (.status (.error _)) | .answered _ (.created (.ok _)) => False
    | _ => True

instance (s : Session) (e : Event) : Decidable (s.Lasts e) := by
  induction e using Event.casesOn with
  | stored job =>
    dsimp only [Lasts]
    generalize s.doing job = d
    induction d using Option.casesOn with
    | none => exact instDecidableTrue
    | some d =>
      induction d using Call.casesOn with
      | settling stage goal => induction stage using Settling.casesOn <;> exact inferInstance
      | _ => exact instDecidableTrue
  | turn job =>
    dsimp only [Lasts]
    generalize s.doing job = d
    induction d using Option.casesOn with
    | none => exact instDecidableTrue
    | some d => induction d using Call.casesOn <;> exact inferInstance
  | _ => exact instDecidableTrue

instance (s : Session) (e : Event) : Decidable (s.Spares e) := by
  refine @instDecidableAnd _ _ _ ?_
  induction e using Event.casesOn with
  | answered job reply =>
    induction reply using Reply.casesOn with
    | status result | created result =>
      induction job using Job.casesOn <;> induction result using Except.casesOn <;>
        exact inferInstance
    | _ => induction job using Job.casesOn <;> exact instDecidableTrue
  | _ => exact instDecidableTrue

/-! ### An id that is not stored -/

section Steps

variable {s s' : Session} {e : Event} {j : Job} {taskId : String}

/-- A job that stores no id of the task does not bring it back. -/
theorem stored_of_turned {next : Option Call} (hturned : s.Turned j next s')
    (hsaves : next ≠ some (.saving taskId)) (h : s.stored ≠ some taskId) :
    s'.stored ≠ some taskId := by
  change Store.Identity.taskId? s'.found ≠ some taskId
  rcases found_of_turned hturned with hfound | ⟨hfound, _⟩
  · rw [hfound]
    cases next with
    | none => exact h
    | some d =>
      cases d with
      -- Another id may be stored, but not this one.
      | saving x =>
        intro hsame
        have hx : some x = some taskId := (Option.filter_eq_some_iff.mp hsame).1
        cases hx
        exact hsaves rfl
      | settling stage goal =>
        cases stage with
        | clearing => exact nofun
        | _ => exact h
      | forgetting | erasing => exact nofun
      | _ => exact h
  · rw [hfound]
    exact h

theorem Still.stored_eq (h : s.Still s') : s'.stored = s.stored := by
  unfold stored
  rw [h.identity, h.entries]

/-- Whatever the storage does, an id that is not stored does not come back. -/
theorem not_stored_step (h : s.Guarded) (hunclaimed : s.Unclaimed taskId e)
    (hstep : s.step e = some s') (hnot : s.stored ≠ some taskId) : s'.stored ≠ some taskId := by
  cases h.changes hstep with
  | @turned j next _ hturned hcauses =>
    refine stored_of_turned hturned ?_ hnot
    intro hnext
    have hcreated : e = .answered j (.created (.ok taskId)) := hcauses _ hnext
    subst hcreated
    exact hunclaimed rfl
  | still hstill => exact hstill.stored_eq ▸ hnot

/-! ### An id that is stored -/

theorem after_faults (b : Session) (turn : Tracker × List Output) :
    (b.after e turn).storage.faults = b.storage.faults := by
  -- Outputs are performed one by one, and a request does not mend the storage.
  have hfold : ∀ (outputs : List Output) (b : Session),
      (outputs.foldl perform b).storage.faults = b.storage.faults := by
    intro outputs
    induction outputs with
    | nil => exact fun _ => rfl
    | cons o outputs ih =>
      intro b
      rw [List.foldl_cons, ih]
      cases o with
      | ask job ask =>
        cases ask with
        | store request =>
          change (b.storage.answer request).2.faults = b.storage.faults
          unfold Scenario.Storage.answer
          split <;> rfl
        | _ => rfl
      | _ => rfl
  exact hfold turn.2 (b.note e turn)

theorem faults_of_step (hworks : s.Undisturbed e) (hstep : s.step e = some s') :
    s'.storage.faults = s.storage.faults := by
  cases happens_of_step hstep with
  | channel _ hbeside _ => rw [after_faults, hbeside.storage]
  | disturbed => exact hworks.elim
  | call | worker | called | left => exact after_faults _ _

/-- A call that cancels the tracked task takes the lock, which nobody holds. -/
theorem released (hd : s.doing j = some .cancelling)
    (htracking : s.tracker.lifecycle = .tracking) (hcurrent : s.tracker.current = some taskId)
    (hstep : s.step (.turn j) = some s') :
    s.tracker.locked = false ∧ s.Turned j (some (.erasing taskId)) s' := by
  obtain ⟨k, rfl⟩ := eq_call_of_doing hd (by rintro _ ⟨⟩)
  obtain ⟨t, calls, turn, htakes, hturned⟩ := turned_of_step hd rfl hstep
  cases htakes with
  | run hrun =>
    simp only [Tracker.runCall] at hrun
    split at hrun
    · cases hrun
    · next hlocked =>
      simp only [Tracker.release, htracking, hcurrent, ↓reduceIte, Option.some.injEq] at hrun
      cases hrun
      exact ⟨Bool.of_not_eq_true hlocked, hturned⟩

/-- Only a call takes the id of a new task. -/
theorem eq_call_of_created {result : Except TransportFailure String}
    (hstep : s.step (.answered j (.created result)) = some s') : ∃ k, j = .call k := by
  simp only [step, Reply.isServers, ↓reduceIte] at hstep
  obtain ⟨_, hreply, _⟩ := Option.map_eq_some_iff.mp hstep
  rcases Tracker.job_of_reply rfl hreply with hcall | ⟨_, _, _, hstatus⟩
  · exact hcall
  · cases hstatus

/-- A call goes on with what the task server answers. -/
theorem callTurn_of_answered {k : Nat} {reply : Reply}
    (hstep : s.step (.answered (.call k) reply) = some s') :
    ∃ d t calls turn, s.doing (.call k) = some d ∧
      s.tracker.CallTurn d (some reply) (t, calls, turn) ∧ s.Turned (.call k) turn.next s' := by
  cases happens_of_step hstep with
  | @call _ _ d _ hjob hd _ =>
    cases hjob
    obtain ⟨t, calls, turn, htakes, hturned⟩ := turned_of_step hd rfl hstep
    obtain ⟨_, hbrings, hturn⟩ := htakes.callTurn
    cases hbrings
    exact ⟨d, t, calls, turn, hd, hturn, hturned⟩
  | worker hjob => cases hjob
  | channel hjob => cases hjob _ rfl

/-- Where an event ends the stored task, its job goes on to remove the id. -/
theorem turned_of_not_lasts (h : s.Guarded) (hstep : s.step e = some s') (hlasts : ¬ s.Lasts e) :
    ∃ j d, s.Turned j (some d) s' ∧ ∀ found, d.leaving found = none := by
  unfold Lasts at hlasts
  split at hlasts
  · next job =>
    split at hlasts
    · next snapshot goal hd =>
      rw [Classical.not_imp] at hlasts
      obtain ⟨htold, hend⟩ := hlasts
      obtain ⟨answer, _, _, _, hanswer, happlies, _, hturned, _⟩ := applies_of_stored h hd hstep
      -- A terminal snapshot that has read its own id goes on to remove it, in no other case.
      cases happlies with
      | failed =>
        unfold told pending at htold
        rw [hanswer] at htold
        cases htold
      | ignored hother => exact absurd (told_of_value hanswer ▸ htold) hother
      | redrawn _ hrun => exact absurd hrun hend
      | closed => exact ⟨job, _, hturned, fun _ => rfl⟩
    · exact absurd trivial hlasts
  · next job =>
    split at hlasts
    · next hd =>
      rw [Classical.not_imp] at hlasts
      obtain ⟨htracking, hcurrent⟩ := hlasts
      obtain ⟨taskId, hcurrent⟩ := Option.ne_none_iff_exists'.mp hcurrent
      exact ⟨job, _, (released hd htracking hcurrent hstep).2, fun _ => rfl⟩
    · exact absurd trivial hlasts
  · exact absurd trivial hlasts

/-- Where an event does not spare the stored id, its job goes on to remove or replace it. -/
theorem turned_of_not_spares (h : s.Guarded) (hstep : s.step e = some s') (hspares : ¬ s.Spares e) :
    ∃ j d, s.Turned j (some d) s' ∧ ((∀ found, d.leaving found = none) ∨
      ∃ x, d = .saving x ∧ e = .answered j (.created (.ok x))) := by
  by_cases hlasts : s.Lasts e
  · have hloses := fun hother => hspares ⟨hlasts, hother⟩
    split at hloses
    · next k failure =>
      obtain ⟨d, _, _, _, _, hturn, hturned⟩ := callTurn_of_answered hstep
      cases hturn with
      | forget => exact ⟨_, _, hturned, .inl fun _ => rfl⟩
    · next job x =>
      obtain ⟨k, rfl⟩ := eq_call_of_created hstep
      obtain ⟨d, _, _, _, _, hturn, hturned⟩ := callTurn_of_answered hstep
      cases hturn with
      | save => exact ⟨_, _, hturned, .inr ⟨x, rfl, rfl⟩⟩
    · exact absurd trivial hloses
  · obtain ⟨j, d, hturned, hleaves⟩ := turned_of_not_lasts h hstep hlasts
    exact ⟨j, d, hturned, .inl hleaves⟩

/-- While the storage works, an event that spares a stored id keeps it. -/
theorem stored_of_spares (h : s.Guarded) (hworks : s.storage.faults = {}) (hspares : s.Spares e)
    (hstep : s.step e = some s') : s'.stored = s.stored := by
  obtain ⟨hlasts, hother⟩ := hspares
  cases h.changes hstep with
  | still hstill => exact hstill.stored_eq
  | @turned j next _ hturned hcauses =>
    -- Each call that stores or removes an id was come to for a reason that is not spared.
    have hkeeps : next.elim s.found (Call.leaving s.found) = s.found := by
      cases next with
      | none => rfl
      | some d =>
        have hcause := hcauses d rfl
        cases d with
        | saving x =>
          change e = _ at hcause
          subst hcause
          obtain ⟨k, rfl⟩ := eq_call_of_created hstep
          exact hother.elim
        | forgetting x =>
          obtain ⟨⟨failure, rfl⟩, hd⟩ := hcause
          obtain ⟨k, rfl⟩ := eq_call_of_doing hd (by rintro _ ⟨⟩)
          exact hother.elim
        | erasing x =>
          obtain ⟨rfl, hd, htracking, hcurrent⟩ := hcause
          simp only [Lasts, hd] at hlasts
          rw [hlasts htracking] at hcurrent
          cases hcurrent
        | settling stage goal =>
          cases stage with
          | clearing snapshot applied rest =>
            obtain ⟨rfl, hd, hend, htold⟩ := hcause
            simp only [Lasts, hd] at hlasts
            rw [hlasts htold] at hend
            cases hend
          | _ => rfl
        | _ => rfl
    change Store.Identity.taskId? s'.found = Store.Identity.taskId? s.found
    rw [hturned.found hworks, hkeeps]

/-- **While the storage works, an event keeps a stored id just if it spares it.** -/
theorem stored_iff_spares (h : s.Guarded) (hworks : s.storage.faults = {})
    (hunclaimed : s.Unclaimed taskId e) (hstep : s.step e = some s')
    (hstored : s.stored = some taskId) : s'.stored = some taskId ↔ s.Spares e := by
  refine ⟨fun hstored' => ?_,
    fun hspares => (stored_of_spares h hworks hspares hstep).trans hstored⟩
  by_contra hspares
  -- The id was removed, or replaced by that of a new task, which is another.
  obtain ⟨j, d, hturned, hleaves⟩ := turned_of_not_spares h hstep hspares
  change Store.Identity.taskId? s'.found = some taskId at hstored'
  rw [hturned.found hworks] at hstored'
  rcases hleaves with hnone | ⟨x, rfl, rfl⟩
  · change Store.Identity.taskId? (d.leaving s.found) = _ at hstored'
    rw [hnone] at hstored'
    cases hstored'
  · have hx : some x = some taskId := (Option.filter_eq_some_iff.mp hstored').1
    cases hx
    exact hunclaimed rfl

end Steps

/-! ### Runs -/

section Runs

variable {s s' : Session} {es : List Event} {taskId : String}

theorem not_stored_of_play (h : s.Guarded) (hnot : s.stored ≠ some taskId)
    (hrun : play (fun s e => s.Undisturbed e ∧ s.Unclaimed taskId e) es s = some s') :
    s'.stored ≠ some taskId := by
  induction es generalizing s with
  | nil =>
    rw [play, Option.some.injEq] at hrun
    exact hrun ▸ hnot
  | cons e es ih =>
    obtain ⟨⟨_, hunclaimed⟩, s₁, hstep, hrest⟩ := play_cons_iff.mp hrun
    exact ih (h.step hstep) (not_stored_step h hunclaimed hstep hnot) hrest

/-- **A stored id stays stored just if every event spares it.** -/
theorem stored_along_iff (h : s.Guarded) (hworks : s.storage.faults = {})
    (hstored : s.stored = some taskId)
    (hrun : play (fun s e => s.Undisturbed e ∧ s.Unclaimed taskId e) es s = some s') :
    s'.stored = some taskId ↔ Along Spares es s := by
  induction es generalizing s with
  | nil =>
    rw [play, Option.some.injEq] at hrun
    exact iff_of_true (hrun ▸ hstored) trivial
  | cons e es ih =>
    obtain ⟨⟨hundisturbed, hunclaimed⟩, s₁, hstep, hrest⟩ := play_cons_iff.mp hrun
    have hiff := stored_iff_spares h hworks hunclaimed hstep hstored
    simp only [Along, hstep, Option.mem_some_iff, forall_eq']
    by_cases hspares : s.Spares e
    · have hworks₁ := (faults_of_step hundisturbed hstep).trans hworks
      rw [ih (h.step hstep) hworks₁ (hiff.mpr hspares) hrest]
      exact (and_iff_right hspares).symm
    · -- What is lost here does not come back in the rest of the run.
      have hlost := not_stored_of_play (h.step hstep) (mt hiff.mp hspares) hrest
      exact iff_of_false hlost fun hall => hspares hall.1

end Runs

end Session

end TaskTracking
