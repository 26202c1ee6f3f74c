import TaskTracking.Proofs.Conditions

/-! # What the storage does

  A request to the storage is performed as soon as a turn puts it out, and its
  answer is then under way to the job that asked. A storage that has always worked
  is honest, and stays so (`Session.Honest.after`).
-/

namespace TaskTracking

/-! ### Entries by key -/

section Lookup

variable {κ β : Type} [DecidableEq κ] [BEq κ] [LawfulBEq κ] {k k' : κ}

theorem lookup_cons_eq (a : κ) (b : β) (l : List (κ × β)) :
    ((a, b) :: l).lookup k = if k = a then some b else l.lookup k := by
  rw [List.lookup_cons]
  by_cases h : k = a
  · simp [h]
  · rw [if_neg h, beq_eq_false_iff_ne.mpr h]

theorem lookup_filter_self (l : List (κ × β)) : (l.filter (·.1 ≠ k)).lookup k = none := by
  rw [List.lookup_eq_none_iff]
  intro p hp
  have hne : p.1 ≠ k := by simpa using (List.mem_filter.mp hp).2
  exact bne_iff_ne.mpr hne.symm

theorem lookup_filter_ne (h : k' ≠ k) (l : List (κ × β)) :
    (l.filter (·.1 ≠ k)).lookup k' = l.lookup k' := by
  induction l with
  | nil => rfl
  | cons p l ih =>
    obtain ⟨a, b⟩ := p
    by_cases ha : a = k
    · subst ha
      rw [List.filter_cons_of_neg (by simp), ih, lookup_cons_eq, if_neg h]
    · rw [List.filter_cons_of_pos (by simpa using ha), lookup_cons_eq, lookup_cons_eq, ih]

/-- The entries after those of one key have changed. -/
theorem lookup_replace (l : List (κ × β)) (v : β) :
    (l.map fun p => if p.1 = k then (k, v) else p).lookup k' =
      if k' = k then (l.lookup k).map fun _ => v else l.lookup k' := by
  induction l with
  | nil => simp
  | cons p l ih =>
    obtain ⟨a, b⟩ := p
    rw [List.map_cons]
    by_cases ha : a = k
    · subst ha
      rw [if_pos rfl, lookup_cons_eq, lookup_cons_eq, lookup_cons_eq, ih]
      by_cases hk : k' = a
      · simp [hk]
      · simp [hk]
    · rw [if_neg ha, lookup_cons_eq, lookup_cons_eq, lookup_cons_eq, ih, if_neg (Ne.symm ha)]
      by_cases hk : k' = a
      · rw [if_pos hk, if_pos hk, if_neg (by rw [hk]; exact ha)]
      · rw [if_neg hk, if_neg hk]

end Lookup

/-! ### An entry at the end -/

section Last

variable {κ β : Type} [DecidableEq κ] [BEq κ] [LawfulBEq κ] {k : κ} {l : List (κ × β)}

omit [DecidableEq κ] in
theorem ne_of_lookup_eq_none (h : l.lookup k = none) {p : κ × β} (hp : p ∈ l) : p.1 ≠ k := by
  have hne : (k != p.1) = true := List.lookup_eq_none_iff.mp h p hp
  exact (bne_iff_ne.mp hne).symm

theorem filter_of_lookup_eq_none (h : l.lookup k = none) : l.filter (·.1 ≠ k) = l := by
  rw [List.filter_eq_self]
  intro p hp
  simpa using ne_of_lookup_eq_none h hp

omit [DecidableEq κ] in
theorem lookup_concat (h : l.lookup k = none) (b : β) : (l ++ [(k, b)]).lookup k = some b := by
  simp [List.lookup_append, h]

theorem filter_concat (h : l.lookup k = none) (b : β) :
    (l ++ [(k, b)]).filter (·.1 ≠ k) = l := by
  rw [List.filter_append, filter_of_lookup_eq_none h]
  simp

theorem replace_concat (h : l.lookup k = none) (b b' : β) :
    ((l ++ [(k, b)]).map fun p => if p.1 = k then (k, b') else p) = l ++ [(k, b')] := by
  have hothers : (l.map fun p => if p.1 = k then (k, b') else p) = l.map id :=
    List.map_congr_left fun p hp => if_neg (ne_of_lookup_eq_none h hp)
  rw [List.map_append, hothers, List.map_id]
  simp

end Last

/-! ### The storage -/

/-- The key that a request is about. -/
def Store.Request.key : Request → String
  | .get key | .put key _ | .delete key => key

namespace Store.Entries

theorem lookup_place (key value : String) (l : List (String × String)) :
    (place key value l).lookup key = some value := by
  induction l with
  | nil => simp [place]
  | cons p l ih =>
    unfold place
    split
    · simp
    · split
      · simp
      · next hne _ =>
        rw [lookup_cons_eq, if_neg hne, ih]

@[simp] theorem get?_put (e : Entries) (key value : String) :
    (e.put key value).get? key = some value := lookup_place key value e.toList

@[simp] theorem get?_erase (e : Entries) (key : String) : (e.erase key).get? key = none :=
  lookup_filter_self e.toList

variable {key key' : String}

theorem lookup_place_ne (h : key' ≠ key) (value : String) (l : List (String × String)) :
    (place key value l).lookup key' = l.lookup key' := by
  induction l with
  | nil => rw [place, lookup_cons_eq, if_neg h]
  | cons p l ih =>
    obtain ⟨k, v⟩ := p
    unfold place
    by_cases hk : key = k
    · subst hk
      rw [if_pos rfl, lookup_cons_eq, lookup_cons_eq, if_neg h, if_neg h]
    · rw [if_neg hk]
      split
      · rw [lookup_cons_eq, if_neg h]
      · rw [lookup_cons_eq, lookup_cons_eq, ih]

/-- What is kept under one key is left alone by a request for another. -/
theorem get?_answer_ne (e : Entries) {request : Request} (h : request.key ≠ key) :
    (e.answer request).1.get? key = e.get? key := by
  cases request with
  | get => rfl
  | put k value => exact lookup_place_ne (Ne.symm h) value e.toList
  | delete k => exact lookup_filter_ne (Ne.symm h) e.toList

/-- What a request is answered and leaves under its key depends on that key only. -/
theorem answer_eq_of_get? {e e' : Entries} {request : Request}
    (h : e'.get? request.key = e.get? request.key) :
    (e'.answer request).2 = (e.answer request).2 ∧
      (e'.answer request).1.get? request.key = (e.answer request).1.get? request.key := by
  cases request with
  | get k => exact ⟨congrArg Answer.value h, h⟩
  | put k value =>
    refine ⟨rfl, ?_⟩
    show (e'.put k value).get? k = (e.put k value).get? k
    rw [get?_put, get?_put]
  | delete k =>
    have hcontains : e'.contains k = e.contains k := congrArg Option.isSome h
    refine ⟨congrArg Answer.removed hcontains, ?_⟩
    show (e'.erase k).get? k = (e.erase k).get? k
    rw [get?_erase, get?_erase]

end Store.Entries

namespace Session

/-- The storage works, and has always worked, for the jobs that use it. -/
structure Honest (s : Session) : Prop where
  faults : s.storage.faults = {}
  answers : ∀ p ∈ s.answers, p.1.usesStorage ∧ ∃ answer, p.2 = .ok answer

theorem answer_of_works {s : Session} (hworks : s.storage.faults = {}) (request : Store.Request) :
    s.storage.answer request =
      (.ok (s.storage.entries.answer request).2,
        { s.storage with entries := (s.storage.entries.answer request).1 }) := by
  have hnone : s.storage.faults.of request = none := by
    rw [hworks]
    cases request <;> rfl
  unfold Scenario.Storage.answer
  rw [hnone]

theorem Honest.answer {s : Session} (h : s.Honest) (request : Store.Request) :
    s.storage.answer request =
      (.ok (s.storage.entries.answer request).2,
        { s.storage with entries := (s.storage.entries.answer request).1 }) :=
  answer_of_works h.faults request

theorem Honest.pending {s : Session} (h : s.Honest) {job : Job}
    {answer : Except StorageFailure Store.Answer} (hl : s.answers.lookup job = some answer) :
    ∃ a, answer = .ok a ∧ s.pending job = some a := by
  obtain ⟨l₁, l₂, hl', _⟩ := List.lookup_eq_some_iff.mp hl
  obtain ⟨_, a, ha⟩ := h.answers (job, answer) (by simp [hl'])
  refine ⟨a, ha, ?_⟩
  simp only at ha
  simp [Session.pending, hl, ha, Except.toOption]

/-- The storage has no answers for any other job. -/
theorem Honest.forget_eq {s : Session} (h : s.Honest) {job : Job}
    (hjob : job.usesStorage = false) : s.forget job = s := by
  have hall : s.answers.filter (·.1 ≠ job) = s.answers := by
    rw [List.filter_eq_self]
    intro p hp
    have huses := (h.answers p hp).1
    exact decide_eq_true fun heq => by simp [heq, hjob] at huses
  unfold Session.forget
  rw [hall]

theorem Honest.forget {s : Session} (h : s.Honest) (job : Job) : (s.forget job).Honest where
  faults := h.faults
  answers := fun p hp => h.answers p (List.mem_filter.mp hp).1

/-! ### Outputs -/

/-- Whether an output asks the storage. -/
def isRequest : Output → Bool
  | .ask _ (.store _) => true
  | _ => false

theorem perform_of_quiet {o : Output} (h : isRequest o = false) (s : Session) :
    s.perform o = s := by
  unfold perform
  split
  · simp [isRequest] at h
  · rfl

theorem foldl_perform_of_quiet {outputs : List Output} (h : ∀ o ∈ outputs, isRequest o = false)
    (s : Session) : outputs.foldl perform s = s := by
  induction outputs with
  | nil => rfl
  | cons o outputs ih =>
    rw [List.foldl_cons, perform_of_quiet (h o (by simp))]
    exact ih fun o ho => h o (by simp [ho])

theorem viewCalls_map (calls : List ViewCall) (outputs : List Output) :
    viewCalls (calls.map .view ++ outputs) = calls ++ viewCalls outputs := by
  induction calls with
  | nil => rfl
  | cons call calls ih =>
    show call :: viewCalls (calls.map .view ++ outputs) = _
    rw [ih, List.cons_append]

@[simp] theorem viewCalls_asking (job : Job) (ask : Option Ask) :
    viewCalls (Tracker.asking job ask) = [] := by
  cases ask <;> rfl

@[simp] theorem perform_history (s : Session) (o : Output) : (s.perform o).history = s.history := by
  unfold perform
  split <;> rfl

theorem foldl_perform_history (outputs : List Output) (s : Session) :
    (outputs.foldl perform s).history = s.history := by
  induction outputs generalizing s with
  | nil => rfl
  | cons o outputs ih => rw [List.foldl_cons, ih, perform_history]

@[simp] theorem perform_tracker (s : Session) (o : Output) :
    (s.perform o).tracker = s.tracker := by
  unfold perform
  split <;> rfl

@[simp] theorem after_tracker (s : Session) (e : Event) (turn : Tracker × List Output) :
    (s.after e turn).tracker = turn.1 := by
  have hfold : ∀ (outputs : List Output) (b : Session),
      (outputs.foldl perform b).tracker = b.tracker := by
    intro outputs
    induction outputs with
    | nil => exact fun _ => rfl
    | cons o outputs ih => exact fun b => by rw [List.foldl_cons, ih, perform_tracker]
  exact hfold turn.2 (s.note e turn)

/-- An event adds its scene. -/
theorem scenes_after (s : Session) (e : Event) (turn : Tracker × List Output) :
    (s.after e turn).scenes =
      s.scenes ++
        [{ job := e.job?, calls := viewCalls turn.2, applied := s.applied? e
           aside := e.isAside, left := e.isLeft }] := by
  unfold after scenes
  rw [foldl_perform_history]
  simp [note, Record.scene]

theorem shown_after (s : Session) (e : Event) (turn : Tracker × List Output) :
    (s.after e turn).shown = s.shown ++ (viewCalls turn.2).filterMap ViewCall.shown? := by
  unfold shown
  rw [scenes_after, List.flatMap_append]
  simp

theorem shown_after_ne {s : Session} {e : Event} {turn : Tracker × List Output}
    (h : (viewCalls turn.2).filterMap ViewCall.shown? ≠ []) : (s.after e turn).shown ≠ s.shown := by
  rw [shown_after]
  exact fun heq => h (List.append_right_eq_self.mp heq)

/-! ### The storage in a turn -/

theorem usesStorage_of_doing {t : Tracker} {job : Job} {d : Call} (h : t.doing job = some d) :
    job.usesStorage := by
  cases job with
  | worker | call => rfl
  | _ => exact absurd h (by simp [Tracker.doing])

theorem isRequest_views {calls : List ViewCall} :
    ∀ o ∈ calls.map Output.view, isRequest o = false := by
  intro o ho
  obtain ⟨_, _, rfl⟩ := List.mem_map.mp ho
  rfl

theorem isRequest_returned {calls : List ViewCall} {k : Nat} {result : Outcome.Result} :
    ∀ o ∈ calls.map Output.view ++ [.returned k result], isRequest o = false := by
  intro o ho
  simp only [List.mem_append, List.mem_map, List.mem_singleton] at ho
  rcases ho with ⟨_, _, rfl⟩ | rfl <;> rfl

/-- A turn asks the storage for the job whose turn it is. -/
theorem job_of_asking {calls : List ViewCall} {j job : Job} {ask : Option Ask}
    {request : Store.Request}
    (h : Output.ask j (.store request) ∈ calls.map .view ++ Tracker.asking job ask) : j = job := by
  rcases List.mem_append.mp h with hview | hask
  · cases isRequest_views _ hview
  · cases ask with
    | none => simp [Tracker.asking] at hask
    | some a =>
      cases List.mem_singleton.mp hask
      rfl

theorem Honest.perform {s : Session} (h : s.Honest) {o : Output}
    (huses : ∀ job request, o = .ask job (.store request) → job.usesStorage) :
    (s.perform o).Honest := by
  cases hrequest : isRequest o with
  | false => rwa [perform_of_quiet hrequest]
  | true =>
    unfold isRequest at hrequest
    split at hrequest
    · next job request =>
      unfold Session.perform
      simp only [h.answer]
      refine ⟨h.faults, fun p hp => ?_⟩
      rcases List.mem_append.mp hp with hp | hp
      · exact h.answers p hp
      · rw [List.mem_singleton.mp hp]
        exact ⟨huses job request rfl, _, rfl⟩
    · cases hrequest

/-- A storage that was honest before a turn is so after it. -/
theorem Honest.after {s : Session} (h : s.Honest) (e : Event) {turn : Tracker × List Output}
    (huses : ∀ job request, .ask job (.store request) ∈ turn.2 → job.usesStorage) :
    (s.after e turn).Honest := by
  have hfold : ∀ (outputs : List Output) (b : Session), b.Honest →
      (∀ job request, .ask job (.store request) ∈ outputs → job.usesStorage) →
      (outputs.foldl Session.perform b).Honest := by
    intro outputs
    induction outputs with
    | nil => exact fun _ hb _ => hb
    | cons o outputs ih =>
      intro b hb hjobs
      refine ih _ (hb.perform ?_) fun job request ho => hjobs job request (.tail _ ho)
      rintro job request rfl
      exact hjobs job request (.head _)
  exact hfold turn.2 (s.note e turn) ⟨h.faults, h.answers⟩ huses

theorem entered_after (s : Session) (e : Event) (turn : Tracker × List Output) :
    (s.after e turn).entered = (s.entered || turn.2.any isResumption) := by
  unfold Session.after entered
  rw [foldl_perform_history]
  simp [note]

/-- A turn that asks nothing of the storage. -/
theorem after_of_quiet {s : Session} (h : s.Honest) {t : Tracker}
    (hid : t.identity = s.tracker.identity) (e : Event) {outputs : List Output}
    (hquiet : ∀ o ∈ outputs, isRequest o = false) :
    (s.after e (t, outputs)).Honest ∧ (s.after e (t, outputs)).core =
      t.core s.found s.pending (s.entered || outputs.any isResumption)
        (s.shown ++ (viewCalls outputs).filterMap ViewCall.shown?) := by
  have hafter : s.after e (t, outputs) = s.note e (t, outputs) := foldl_perform_of_quiet hquiet _
  refine ⟨h.after e fun job request ho => ?_, ?_⟩
  · cases hquiet _ ho
  · unfold core
    rw [after_tracker, entered_after, shown_after, hafter]
    unfold Session.found
    simp only [note, hid]
    rfl

end Session

end TaskTracking
