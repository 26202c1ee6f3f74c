import TaskTracking.Proofs.Handling

/-! # Snapshots that come again

  Push and poll can both tell of a task, so a snapshot can come several times. A
  snapshot that was handled has nothing more to say (`Session.heed_heed`): one of a
  task that goes on only redraws what is shown, and one that ended its task has taken
  the stored id away, so the next is no longer heeded.

  So a run with repeated snapshots ends as the run without them
  (`Session.ends_alike_of_repeats`). The snapshots are handled at once there: were an
  id stored between the reading of the stored id and the effects, then a copy could
  count where the first did not.
-/

namespace TaskTracking

namespace Session

/-! ### Runs in which snapshots are handled at once -/

/-- A snapshot that comes to a job. -/
inductive Arrival where
  /-- The snapshot is the next delivery for the worker. -/
  | delivered (source : Source) (snapshot : Snapshot)
  /-- The page applies the snapshot by a call. -/
  | applied (ticket : Nat) (snapshot : Snapshot)

def Arrival.job : Arrival → Job
  | .delivered .. => .worker
  | .applied ticket _ => .call ticket

def Arrival.snapshot : Arrival → Snapshot
  | .delivered _ x | .applied _ x => x

/-- The session with a snapshot as the next delivery. -/
def present (s : Session) (source : Source) (x : Snapshot) : Session :=
  { s with
    tracker :=
      { s.tracker with
        inbox := { s.tracker.inbox with queue := .snapshot source x :: s.tracker.inbox.queue } } }

/-- The job begins with the snapshot; none if it has another thing to do. -/
def Arrival.begin : Arrival → Session → Option Session
  | .delivered source x, s =>
    match s.tracker.worker with
    | .listening => (s.present source x).step (.turn .worker)
    | _ => none
  | .applied ticket x, s =>
    (s.step (.called ticket (.applying x))).bind (·.step (.turn (.call ticket)))

/-- The job handles the snapshot, and nothing else happens; none if it has to wait for the lock
    first. -/
def Arrival.run (a : Arrival) (s : Session) : Option Session :=
  (a.begin s).bind fun s => (s.step (.stored a.job)).bind (finish a.job)

/-- Something that is done in a session. -/
inductive Deed where
  /-- A snapshot comes, and is handled at once. -/
  | arrived (arrival : Arrival)
  /-- Any event; so what else the jobs do can be done in any order. -/
  | other (event : Event)

def Deed.run : Deed → Session → Option Session
  | .arrived a, s => a.run s
  | .other e, s => s.step e

/-- Deeds done one after another; none if one of them cannot be done. -/
def runAll : List Deed → Session → Option Session
  | [], s => some s
  | d :: ds, s => (d.run s).bind (runAll ds)

theorem runAll_append (ds ds' : List Deed) (s : Session) :
    runAll (ds ++ ds') s = (runAll ds s).bind (runAll ds') := by
  induction ds generalizing s with
  | nil => rfl
  | cons d ds ih =>
    show (d.run s).bind (runAll (ds ++ ds')) = ((d.run s).bind (runAll ds)).bind (runAll ds')
    rw [Option.bind_assoc, funext ih]

theorem timeless_begin (a : Arrival) : Timeless a.begin := by
  cases a with
  | delivered source x =>
    intro s s' h
    simp only [Arrival.begin] at h
    split at h
    · next hworker =>
      obtain ⟨added, hadded, hpast⟩ := timeless_step (.turn .worker) _ _ h
      refine ⟨added, hadded, ?_⟩
      intro past
      have hbegins : (Arrival.delivered source x).begin (s.withHistory past) =
          ((s.present source x).withHistory past).step (.turn .worker) := by
        have hworker' : (s.withHistory past).tracker.worker = .listening := hworker
        simp only [Arrival.begin, hworker']
        rfl
      exact hbegins.trans (hpast past)
    · cases h
  | applied ticket x => exact (timeless_step _).bind (timeless_step _)

theorem timeless_run (d : Deed) : Timeless d.run := by
  cases d with
  | arrived a => exact (timeless_begin a).bind ((timeless_step _).bind (timeless_finish _))
  | other e => exact timeless_step e

theorem timeless_runAll (ds : List Deed) : Timeless (runAll ds) := by
  induction ds with
  | nil => exact timeless_some
  | cons d ds ih => exact (timeless_run d).bind ih

/-! ### A snapshot that is handled -/

section Arrivals

variable {s s' : Session} {x : Snapshot} {job : Job} {a : Arrival}

/-- A job that takes the lock in its turn asks for the stored id. -/
theorem leads_turn (hworks : s.storage.faults = {}) {t : Tracker}
    (hrun : t.run s.now job = some (s.tracker.lock.seat (.reading x) job,
      [.ask job (.store s.tracker.identity.load)])) :
    Leads (·.step (.turn job)) { s with tracker := t } (s.begun x job) [] := by
  have hstep : ({ s with tracker := t } : Session).step (.turn job) =
      some ((({ s with tracker := t } : Session).forget job).after (.turn job)
        (s.tracker.lock.seat (.reading x) job,
          [] ++ [Output.ask job (.store s.tracker.identity.load)])) := by
    show (t.run s.now job).map _ = _
    rw [hrun]
    rfl
  rw [after_of_request _ _ (by simp), show (({ s with tracker := t } : Session).forget
    job).storage.answer s.tracker.identity.load = _ from answer_of_works hworks _] at hstep
  exact ⟨_, hstep, rfl⟩

theorem run_present (hfree : s.tracker.Free .worker) (source : Source) (x : Snapshot) :
    (s.present source x).tracker.run s.now .worker =
      some (s.tracker.lock.seat (.reading x) .worker,
        [.ask .worker (.store s.tracker.identity.load)]) := by
  have hworker : s.tracker.worker = .listening := hfree.vacant
  simp only [Tracker.run, Tracker.runWorker, present, hworker, hfree.stays rfl, Bool.false_eq_true,
    ↓reduceIte, Tracker.settle, hfree.unlocked]
  rfl

/-- The page applies a snapshot by a call under a ticket that is not in use. -/
theorem step_applying {k : Nat} (hvacant : s.tracker.calls.lookup k = none) (x : Snapshot) :
    s.step (.called k (.applying x)) =
      some (({ s with tracker := s.tracker.call k (.applying x) } : Session).withHistory
        (s.history ++
          [s.added (.called k (.applying x)) (s.tracker.call k (.applying x), [])])) := by
  have hnone : s.doing (.call k) = none := hvacant
  rw [← after_of_silent s _ (by simp)]
  simp only [step, hnone, Call.isNew, Option.isNone_none, Bool.and_self, ↓reduceIte]

theorem vacant_of_called {k : Nat} {d : Call} (hcalled : s.step (.called k d) = some s') :
    s.tracker.calls.lookup k = none := by
  by_contra hbusy
  have hnone : (s.doing (.call k)).isNone = false :=
    Option.isNone_eq_false_iff.mpr (Option.isSome_iff_ne_none.mpr hbusy)
  simp only [step, hnone, Bool.and_false, Bool.false_eq_true, ↓reduceIte] at hcalled
  cases hcalled

/-- A job that is free takes the lock for a snapshot that comes. -/
theorem leads_begin (hworks : s.storage.faults = {}) (hfree : s.tracker.Free a.job) :
    Leads a.begin s (s.begun a.snapshot a.job) [] := by
  cases a with
  | delivered source x =>
    obtain ⟨added, hstep, hviewed⟩ := leads_turn hworks (run_present hfree source x)
    refine ⟨added, ?_, hviewed⟩
    simp only [Arrival.begin, show s.tracker.worker = .listening from hfree.vacant]
    exact hstep
  | applied k x =>
    have hvacant : s.tracker.calls.lookup k = none := hfree.vacant
    have hcalled : Leads (·.step (.called k (.applying x))) s
        { s with tracker := s.tracker.call k (.applying x) } [] :=
      ⟨_, step_applying hvacant x, rfl⟩
    have hsettle : s.tracker.settle x = (s.tracker.lock, .reading x) :=
      if_neg (Bool.eq_false_iff.mp hfree.unlocked)
    have hrun := Tracker.run_applying hvacant x s.now
    rw [hsettle] at hrun
    exact hcalled.bind (timeless_step _) (leads_turn hworks hrun)

theorem leads_arrival (hworks : s.storage.faults = {}) (hfree : s.tracker.Free a.job) :
    Leads a.run s ((s.heed a.snapshot).forget a.job) (s.notices a.snapshot) :=
  (leads_begin hworks hfree).bind ((timeless_step _).bind (timeless_finish _))
    (leads_begun hworks hfree a.snapshot)

/-- A job that has asked for nothing in its turn gets no answer. -/
theorem unanswered_of_silent {t : Tracker} (hstep : s.step (.turn job) = some s')
    (hrun : s.tracker.run s.now job = some (t, [])) : s'.step (.stored job) = none := by
  have hafter : s.step (.turn job) = some ((s.forget job).after (.turn job) (t, [])) := by
    show (s.tracker.run s.now job).map _ = _
    rw [hrun, Option.map_some]
  obtain rfl := Option.some.inj (hstep.symm.trans hafter)
  show ((s.answers.filter (·.1 ≠ job)).lookup job).bind _ = none
  rw [lookup_filter_self]
  rfl

/-- A job that has begun with a snapshot and has got the answer has had to ask. -/
theorem not_silent_of_run (h : a.run s = some s') :
    ∃ s₁, a.begin s = some s₁ ∧ s₁.step (.stored a.job) ≠ none := by
  obtain ⟨s₁, hbegin, hrest⟩ := Option.bind_eq_some_iff.mp h
  obtain ⟨s₂, hstored, _⟩ := Option.bind_eq_some_iff.mp hrest
  exact ⟨s₁, hbegin, by rw [hstored]; exact nofun⟩

/-- Only a worker that was free has handled a delivery at once. -/
theorem free_of_delivered {source : Source}
    (h : (Arrival.delivered source x).run s = some s') : s.tracker.Free .worker := by
  obtain ⟨s₁, hbegin, hanswered⟩ := not_silent_of_run h
  simp only [Arrival.begin] at hbegin
  split at hbegin
  · next hworker =>
    have hasks : ∀ t, (s.present source x).tracker.run s.now .worker ≠ some (t, []) :=
      fun t hrun => hanswered (unanswered_of_silent hbegin hrun)
    have hstays : s.tracker.selector.left = false := by
      by_contra hleft
      apply hasks { (s.present source x).tracker with worker := .ended, inbox := .closed }
      simp only [Tracker.run, Tracker.runWorker, present, hworker, Bool.of_not_eq_false hleft,
        ↓reduceIte]
      rfl
    have hunlocked : s.tracker.locked = false := by
      by_contra hlocked
      apply hasks { s.tracker with worker := .settling (.locking x) }
      simp only [Tracker.run, Tracker.runWorker, present, hworker, hstays, Bool.false_eq_true,
        ↓reduceIte, Tracker.settle, Bool.of_not_eq_false hlocked]
      rfl
    exact ⟨hworker, hunlocked, fun _ => hstays⟩
  · cases hbegin

/-- A call can always begin with a snapshot; only with the lock it has handled it at once. -/
theorem free_of_applied {k : Nat} (h : (Arrival.applied k x).run s = some s') :
    s.tracker.Free (.call k) := by
  obtain ⟨s₁, hbegin, hanswered⟩ := not_silent_of_run h
  obtain ⟨s₀, hcalled, hturn⟩ := Option.bind_eq_some_iff.mp hbegin
  have hvacant := vacant_of_called hcalled
  obtain rfl := Option.some.inj ((step_applying hvacant x).symm.trans hcalled)
  have hunlocked : s.tracker.locked = false := by
    by_contra hlocked
    have hrun : (s.tracker.call k (.applying x)).run s.now (.call k) =
        some (s.tracker.seat (.locking x) (.call k), []) := by
      rw [Tracker.run_applying hvacant, Tracker.settle, if_pos (Bool.of_not_eq_false hlocked)]
      rfl
    exact hanswered (unanswered_of_silent hturn hrun)
  exact ⟨hvacant, hunlocked, nofun⟩

/-- Only a job that was free has handled a snapshot at once. -/
theorem free_of_run (h : a.run s = some s') : s.tracker.Free a.job := by
  cases a with
  | delivered source x => exact free_of_delivered h
  | applied k x => exact free_of_applied h

/-! ### What was heeded -/

theorem heed_faults (s : Session) (x : Snapshot) (job : Job) :
    ((s.heed x).forget job).storage.faults = s.storage.faults := by
  unfold heed
  split
  · split <;> rfl
  · rfl

theorem free_heed (h : s.tracker.Free job) (x : Snapshot) :
    ((s.heed x).forget job).tracker.Free job := by
  unfold heed
  split
  · split
    · exact ⟨by cases job <;> exact h.vacant, h.unlocked, h.stays⟩
    · exact ⟨by cases job <;> exact h.vacant, h.unlocked, h.stays⟩
  · exact h

theorem stored_close (s : Session) (x : Snapshot) : (s.close x).stored = none := by
  have hnone : (s.storage.entries.erase s.tracker.identity.key).get? s.tracker.identity.key =
      none := Store.Entries.get?_erase ..
  show Store.Identity.taskId? _ = none
  exact congrArg Store.Identity.taskId? hnone

/-- **A snapshot that was heeded changes nothing more**, and at most redraws what is shown. -/
theorem heed_heed (s : Session) (x : Snapshot) :
    (s.heed x).heed x = s.heed x ∧
      ((s.heed x).notices x = [] ∨
        ∃ d, s.notices x = [.updateProgress d] ∧ (s.heed x).notices x = s.notices x) := by
  -- The copy counts only if the first did and has left the stored id.
  by_cases hsame : s.stored = some x.id
  · cases hend : x.isTerminal with
    | false =>
      obtain ⟨hheed, hnotices⟩ := heed_of_running hsame hend
      have hstill : (s.redraw x).stored = some x.id := hsame
      obtain ⟨hagain, hnotices'⟩ := heed_of_running hstill hend
      have hshown : (s.redraw x).tracker.display.following x = s.tracker.display.following x :=
        Display.following_following hend s.tracker.display
      have hredrawn : (s.redraw x).redraw x = s.redraw x := by
        show ({ s with tracker := { s.tracker with display := _ } } : Session) = _
        rw [hshown]
        rfl
      refine ⟨by rw [hheed, hagain, hredrawn], .inr ⟨_, hnotices, ?_⟩⟩
      rw [hheed, hnotices, hnotices', hshown]
    | true =>
      have hother : (s.heed x).stored ≠ some x.id := by
        rw [(heed_of_terminal hsame hend).1, stored_close]
        exact nofun
      exact ⟨(heed_of_other hother).1, .inl (heed_of_other hother).2⟩
  · have hother : (s.heed x).stored ≠ some x.id := by
      rw [(heed_of_other hsame).1]
      exact hsame
    exact ⟨(heed_of_other hother).1, .inl (heed_of_other hother).2⟩

theorem forget_forget (s : Session) (job : Job) : (s.forget job).forget job = s.forget job := by
  unfold forget
  simp only [List.filter_filter, Bool.and_self]

theorem heed_forget (s : Session) (x : Snapshot) (job : Job) :
    (s.forget job).heed x = (s.heed x).forget job := by
  by_cases hsame : s.stored = some x.id
  · cases hend : x.isTerminal with
    | false =>
      rw [(heed_of_running (s := s.forget job) hsame hend).1, (heed_of_running hsame hend).1]
      rfl
    | true =>
      rw [(heed_of_terminal (s := s.forget job) hsame hend).1, (heed_of_terminal hsame hend).1]
      rfl
  · rw [(heed_of_other (s := s.forget job) hsame).1, (heed_of_other hsame).1]

/-- What comes again, for the same job, leaves the session as it is but for its past. -/
theorem leads_again {c : Arrival} (hworks : s.storage.faults = {}) (hfree : s.tracker.Free a.job)
    (hjob : c.job = a.job) (hsnapshot : c.snapshot = a.snapshot) :
    Leads c.run ((s.heed a.snapshot).forget a.job) ((s.heed a.snapshot).forget a.job)
      ((s.heed a.snapshot).notices a.snapshot) := by
  have hworks' := (heed_faults s a.snapshot a.job).trans hworks
  have hagain := leads_arrival (a := c) hworks' (hjob ▸ free_heed hfree a.snapshot)
  rw [hjob, hsnapshot, heed_forget, (heed_heed s a.snapshot).1, forget_forget] at hagain
  exact hagain

end Arrivals

/-! ### Repetitions -/

/-- The second list is the first with snapshots repeated: each copy comes at once after the first
    and to the same job, by whichever channel. -/
inductive Repeats : List Deed → List Deed → Prop where
  | nil : Repeats [] []
  | other (e : Event) {ds ds' : List Deed} : Repeats ds ds' →
      Repeats (.other e :: ds) (.other e :: ds')
  | arrived (a : Arrival) (copies : List Arrival) {ds ds' : List Deed}
      (hcopies : ∀ c ∈ copies, c.job = a.job ∧ c.snapshot = a.snapshot) : Repeats ds ds' →
      Repeats (.arrived a :: ds) (.arrived a :: copies.map .arrived ++ ds')

/-- The second list of calls is the first with redraws repeated, each at once after the first. -/
inductive Redrawn : List ViewCall → List ViewCall → Prop where
  | nil : Redrawn [] []
  | cons (call : ViewCall) {calls calls' : List ViewCall} : Redrawn calls calls' →
      Redrawn (call :: calls) (call :: calls')
  | again {d : Display} {calls calls' : List ViewCall} :
      Redrawn (.updateProgress d :: calls) calls' →
      Redrawn (.updateProgress d :: calls) (.updateProgress d :: calls')

theorem Redrawn.refl (calls : List ViewCall) : Redrawn calls calls := by
  induction calls with
  | nil => exact .nil
  | cons call calls ih => exact .cons call ih

theorem Redrawn.append {calls calls' more more' : List ViewCall} (h : Redrawn calls calls')
    (hmore : Redrawn more more') : Redrawn (calls ++ more) (calls' ++ more') := by
  induction h with
  | nil => exact hmore
  | cons call _ ih => exact .cons call ih
  | again _ ih => exact .again ih

/-- However often what is shown is drawn again. -/
theorem Redrawn.replicate (d : Display) (n : Nat) :
    Redrawn [.updateProgress d] (.updateProgress d :: List.replicate n (.updateProgress d)) := by
  induction n with
  | zero => exact .refl _
  | succ n ih => exact .again ih

/-- Whether a call renders a result or notifies the user. -/
def announces : ViewCall → Bool
  | .renderResult .. | .notify _ => true
  | _ => false

theorem Redrawn.announced {calls calls' : List ViewCall} (h : Redrawn calls calls') :
    calls'.filter announces = calls.filter announces := by
  induction h with
  | nil => rfl
  | cons call _ ih => rw [List.filter_cons, List.filter_cons, ih]
  | again _ ih => exact ih

section Runs

variable {s₀ s s' : Session} {a : Arrival} {copies : List Arrival} {ds ds' : List Deed}

theorem leads_copies (hworks : s.storage.faults = {}) (hfree : s.tracker.Free a.job)
    (hcopies : ∀ c ∈ copies, c.job = a.job ∧ c.snapshot = a.snapshot) :
    Leads (runAll (copies.map .arrived)) ((s.heed a.snapshot).forget a.job)
      ((s.heed a.snapshot).forget a.job)
      (List.replicate copies.length ((s.heed a.snapshot).notices a.snapshot)).flatten := by
  induction copies with
  | nil => exact leads_some _
  | cons c copies ih =>
    obtain ⟨hjob, hsnapshot⟩ := hcopies c (by simp)
    have hagain := leads_again hworks hfree hjob hsnapshot
    have hrest := ih fun c hc => hcopies c (by simp [hc])
    exact hagain.bind (timeless_runAll _) hrest

/-- What the copies show is what the first has shown, if they show anything. -/
theorem redrawn_copies (s : Session) (x : Snapshot) (n : Nat) :
    Redrawn (s.notices x)
      (s.notices x ++ (List.replicate n ((s.heed x).notices x)).flatten) := by
  rcases (heed_heed s x).2 with hnothing | ⟨d, hfirst, hagain⟩
  · rw [hnothing]
    simpa using Redrawn.refl (s.notices x)
  · rw [hagain, hfirst]
    simpa using Redrawn.replicate d n

theorem faults_of_run {d : Deed} (hundisturbed : ∀ faults, d ≠ .other (.disturbed faults))
    (hworks : s.storage.faults = {}) (hrun : d.run s = some s') : s'.storage.faults = {} := by
  cases d with
  | arrived a =>
    obtain ⟨added, hleads, _⟩ := leads_arrival hworks (free_of_run hrun)
    obtain rfl := Option.some.inj (hrun.symm.trans hleads)
    exact (heed_faults s a.snapshot a.job).trans hworks
  | other e =>
    have hstays : s.Undisturbed e := by
      cases e with
      | disturbed faults => exact hundisturbed faults rfl
      | _ => trivial
    exact (faults_of_step hstays hrun).trans hworks

/-- Only the past tells the sessions apart, and of it the second shows redraws repeated. -/
def Alike (s₀ s s' : Session) : Prop :=
  ∃ added added', s.history = s₀.history ++ added ∧
    s' = s.withHistory (s₀.history ++ added') ∧ Redrawn (viewed added) (viewed added')

theorem Alike.refl (s : Session) : Alike s s s :=
  ⟨[], [], (List.append_nil _).symm, by rw [List.append_nil]; rfl, .nil⟩

/-- What ends alike after a deed does so too with more in the past, if that only redraws what the
    deed has shown. -/
theorem Alike.after {s₁ : Session} {f : Session → Option Session} (hf : Timeless f)
    {first extra : List Record} (hfirst : s₁.history = s₀.history ++ first)
    (hextra : Redrawn (viewed first) (viewed first ++ viewed extra)) (hrun : f s₁ = some s')
    (h : Alike s₁ s s') :
    ∃ s'', f (s₁.withHistory (s₁.history ++ extra)) = some s'' ∧ Alike s₀ s s'' := by
  obtain ⟨added, added', hadded, rfl, hredrawn⟩ := h
  obtain ⟨more, hmore, hpast⟩ := hf _ _ hrun
  have hsame : added' = more := List.append_cancel_left hmore
  subst hsame
  refine ⟨_, hpast (s₁.history ++ extra), first ++ added, first ++ extra ++ added', ?_, ?_, ?_⟩
  · rw [hadded, hfirst, List.append_assoc]
  · rw [hfirst]
    simp only [withHistory, List.append_assoc]
  · rw [viewed_append, viewed_append, viewed_append]
    exact hextra.append hredrawn

/-- A run with repeated snapshots goes through if the one without them does, and ends alike. -/
theorem alike_of_repeats (hworks : s₀.storage.faults = {})
    (hundisturbed : ∀ faults, Deed.other (.disturbed faults) ∉ ds)
    (hrun : runAll ds s₀ = some s) (hrepeats : Repeats ds ds') :
    ∃ s', runAll ds' s₀ = some s' ∧ Alike s₀ s s' := by
  induction hrepeats generalizing s₀ with
  | nil =>
    obtain rfl := Option.some.inj hrun
    exact ⟨s₀, rfl, .refl s₀⟩
  | @other e ds ds' _ ih =>
    obtain ⟨s₁, hfirst, hrest⟩ := Option.bind_eq_some_iff.mp hrun
    have hworks₁ : s₁.storage.faults = {} := by
      refine faults_of_run ?_ hworks hfirst
      intro faults hdisturbs
      exact hundisturbed faults (by simp [hdisturbs])
    obtain ⟨s', hrun', halike⟩ :=
      ih hworks₁ (fun faults hmem => hundisturbed faults (by simp [hmem])) hrest
    obtain ⟨first, hhistory, _⟩ := timeless_run _ _ _ hfirst
    have hredraws : Redrawn (viewed first) (viewed first ++ viewed []) := by
      simpa [viewed] using Redrawn.refl (viewed first)
    obtain ⟨s'', hrun'', halike'⟩ := halike.after (timeless_runAll ds') hhistory hredraws hrun'
    refine ⟨s'', ?_, halike'⟩
    show ((Deed.other e).run s₀).bind (runAll ds') = some s''
    rw [hfirst, Option.bind_some]
    rw [List.append_nil] at hrun''
    exact hrun''
  | @arrived a copies ds ds' hcopies _ ih =>
    obtain ⟨s₁, hfirst, hrest⟩ := Option.bind_eq_some_iff.mp hrun
    have hworks₁ : s₁.storage.faults = {} := faults_of_run (by rintro faults ⟨⟩) hworks hfirst
    obtain ⟨s', hrun', halike⟩ :=
      ih hworks₁ (fun faults hmem => hundisturbed faults (by simp [hmem])) hrest
    -- The copies leave the session that the first has led to as it is.
    have hfree : s₀.tracker.Free a.job := free_of_run hfirst
    obtain ⟨first, hleads, hviewed⟩ := leads_arrival hworks hfree
    obtain rfl := Option.some.inj (hfirst.symm.trans hleads)
    obtain ⟨extra, hcopied, hviewed'⟩ := (leads_copies hworks hfree hcopies).from
      (timeless_runAll _) (s₀.history ++ first)
    have hredraws : Redrawn (viewed first) (viewed first ++ viewed extra) := by
      rw [hviewed, hviewed']
      exact redrawn_copies s₀ a.snapshot copies.length
    obtain ⟨s'', hrun'', halike'⟩ : ∃ s'', runAll ds' _ = some s'' ∧ Alike s₀ s s'' :=
      halike.after (timeless_runAll ds') rfl hredraws hrun'
    refine ⟨s'', ?_, halike'⟩
    show ((Deed.arrived a).run s₀).bind (runAll (copies.map .arrived ++ ds')) = some s''
    rw [hfirst, Option.bind_some, runAll_append, hcopied, Option.bind_some]
    exact hrun''

/-- **Snapshots that come again do no harm.** Whatever else happens in between, a run in which
    snapshots are repeated ends in the same session as the run without the copies: the same
    display, stored id, current task, lifecycle and subscriptions, and all the rest. Only its past
    is another, and there the view was told the same, but for redraws that come again at once. -/
theorem ends_alike_of_repeats (hworks : s₀.storage.faults = {})
    (hundisturbed : ∀ faults, Deed.other (.disturbed faults) ∉ ds)
    (hrun : runAll ds s₀ = some s) (hrepeats : Repeats ds ds') :
    ∃ s', runAll ds' s₀ = some s' ∧ s' = s.withHistory s'.history ∧
      Redrawn (viewed s.history) (viewed s'.history) ∧
      (viewed s'.history).filter announces = (viewed s.history).filter announces := by
  obtain ⟨s', hrun', added, added', hadded, rfl, hredrawn⟩ :=
    alike_of_repeats hworks hundisturbed hrun hrepeats
  have hall : Redrawn (viewed s.history) (viewed (s₀.history ++ added')) := by
    rw [hadded, viewed_append, viewed_append]
    exact (Redrawn.refl _).append hredrawn
  exact ⟨_, hrun', rfl, hall, hall.announced⟩

end Runs

/-- The page is entered, and its task goes on and ends; another task is told of in between. -/
def once : List Deed :=
  [.other (.called 0 .entering), .other (.turn (.call 0)),
    .arrived (.delivered .push { id := "task", status := .running }),
    .arrived (.delivered .push { id := "other", status := .running }),
    .arrived (.applied 1 { id := "task", status := .completed })]

/-- The same, with most of it told several times. -/
def manifold : List Deed :=
  [.other (.called 0 .entering), .other (.turn (.call 0)),
    .arrived (.delivered .push { id := "task", status := .running }),
    .arrived (.delivered .poll { id := "task", status := .running }),
    .arrived (.delivered .poll { id := "task", status := .running }),
    .arrived (.delivered .push { id := "other", status := .running }),
    .arrived (.applied 1 { id := "task", status := .completed }),
    .arrived (.applied 1 { id := "task", status := .completed })]

theorem repeats_manifold : Repeats once manifold := by
  refine .other _ (.other _ ?_)
  refine .arrived _ [.delivered .poll _, .delivered .poll _] ?_ ?_
  · simp [Arrival.job, Arrival.snapshot]
  refine .arrived _ [] (by simp) ?_
  refine .arrived _ [.applied 1 _] ?_ .nil
  simp [Arrival.job, Arrival.snapshot]

/-- The task's end is shown and told once; the display is drawn three times, and not once. -/
theorem ends_alike_manifold : ∃ s s', runAll once (polling "task") = some s ∧
    runAll manifold (polling "task") = some s' ∧ s' = s.withHistory s'.history ∧
    (viewed s.history).length = 4 ∧ (viewed s'.history).length = 6 ∧
    (viewed s'.history).filter announces = (viewed s.history).filter announces := by
  have honce : ((runAll once (polling "task")).map fun s =>
      (viewed s.history).length) = some 4 := by
    decide
  have hmanifold : ((runAll manifold (polling "task")).map fun s =>
      (viewed s.history).length) = some 6 := by
    decide
  obtain ⟨s, hs, hlength⟩ := Option.map_eq_some_iff.mp honce
  obtain ⟨s', hs', hsame, -, hannounced⟩ :=
    ends_alike_of_repeats rfl (by simp [once]) hs repeats_manifold
  rw [hs', Option.map_some, Option.some.injEq] at hmanifold
  exact ⟨s, s', hs, hs', hsame, hlength, hmanifold, hannounced⟩

end Session

end TaskTracking
