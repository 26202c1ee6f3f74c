import TaskTracking.Proofs.Story
import TaskTracking.Proofs.Visit

/-! # Entering a page again

  A page that has started a task is left at any moment, and a new tracker enters it
  with the same storage. -/

namespace TaskTracking

namespace Session

/-! ### The law -/

/-- No task is stored any more, its end was made known once, and whoever entered again
    found nothing. -/
structure Parted (s : Session) (first : Resumption) (views : List ViewCall) : Prop where
  lifecycle : s.tracker.lifecycle = .idle
  stored : s.stored = none
  results : ∃ n, s.account.results =
    .ok (.resumption first) :: List.replicate n (.ok (.resumption .nothing))
  views : s.account.views = views

/-- What has come of the status that was answered. -/
def Concluded (s : Session) (taskId : String) : Except TransportFailure Snapshot → Prop
  | .error _ => s.Parted (.stale taskId) []
  | .ok snapshot =>
    if snapshot.isTerminal then
      s.Parted (.finished taskId snapshot.status) (snapshot.withId taskId).closing
    else s.Resumed taskId snapshot

/-- The events of call `k`, if the server answers it this status. -/
def Own (k : Nat) (status : Except TransportFailure Snapshot) (e : Event) : Prop :=
  e = .turn (.call k) ∨ e = .stored (.call k) ∨ e = .answered (.call k) (.status status)

/-- Call `k` can return in `n` events of its own. -/
def Returns (s : Session) (k : Nat) (status : Except TransportFailure Snapshot) (n : Nat) : Prop :=
  ∃ es s', es.length ≤ n ∧ (∀ e ∈ es, Own k status e) ∧ play Visits es s = some s' ∧
    s'.doing (.call k) = none

/-- A page that visits the task. -/
structure Visited (s : Session) (taskId : String) : Prop where
  /-- Before an enter has returned, the server was asked for nothing but the status. -/
  asks : s.account.results = [] → s.account.asked = [] ∨ s.account.asked = [.status taskId]
  /-- When one has returned, it was asked once, and its answer has decided the rest. -/
  concluded : s.account.results ≠ [] → s.account.asked = [.status taskId] ∧
    ∃ status, s.account.fetched = [status] ∧ s.Concluded taskId status
  /-- An enter can always return, whatever the server answers. -/
  returns : ∀ k, (s.doing (.call k)).isSome → ∀ status, s.Returns k status 5

/-- Whatever happens while the page is entered, it visits the task. -/
def Resumes (s₀ : Session) (taskId : String) : Prop :=
  ∀ s, Reaches Visits s₀ s → s.Visited taskId

/-! ### Stages of a visit -/

/-- What an enter returns that ends the task, and what it shows, by the status. -/
inductive Parts (taskId : String) :
    Except TransportFailure Snapshot → Resumption → List ViewCall → Prop where
  | stale (failure : TransportFailure) : Parts taskId (.error failure) (.stale taskId) []
  | finished {snapshot : Snapshot} (hend : snapshot.isTerminal = true) :
      Parts taskId (.ok snapshot) (.finished taskId snapshot.status)
        (snapshot.withId taskId).closing

/-- What the enter under way is at, what was stored before, and the account. -/
inductive Visit (taskId : String) : Option Call → Option String → Account → Prop where
  | opened : Visit taskId none (some taskId) {}
  | entering : Visit taskId (some .entering) (some taskId) {}
  | loading : Visit taskId (some .loading) (some taskId) {}
  | fetching : Visit taskId (some (.fetching taskId)) (some taskId) { asked := [.status taskId] }
  | forgetting (failure : TransportFailure) :
      Visit taskId (some (.forgetting taskId)) (some taskId)
        { asked := [.status taskId], fetched := [.error failure] }
  | reading {snapshot : Snapshot} (hend : snapshot.isTerminal = true) :
      Visit taskId (some (.settling (.reading (snapshot.withId taskId))
        (.finished taskId snapshot.status))) (some taskId)
        { asked := [.status taskId], fetched := [.ok snapshot] }
  | clearing {snapshot : Snapshot} {applied : Applied} (hend : snapshot.isTerminal = true)
      (happlied : applied.isTerminal = true) :
      Visit taskId (some (.settling
        (.clearing (snapshot.withId taskId) applied (snapshot.withId taskId).lastEffects)
        (.finished taskId snapshot.status))) (some taskId)
        { asked := [.status taskId], fetched := [.ok snapshot] }
  /-- The task has ended; it may be that someone enters again. -/
  | parted {call : Option Call} {status : Except TransportFailure Snapshot} {first : Resumption}
      {views : List ViewCall} (n : Nat)
      (hcall : call = none ∨ call = some .entering ∨ call = some .loading)
      (hparts : Parts taskId status first views) :
      Visit taskId call none
        { asked := [.status taskId]
          fetched := [status]
          results := .ok (.resumption first) :: List.replicate n (.ok (.resumption .nothing))
          views }

/-- How far a visit has come. -/
inductive Stage (taskId : String) (s : Session) : Prop where
  | calm {k : Nat} {call : Option Call} {before : Option String} {a : Account}
      (hcalm : s.Calm k call before) (haccount : s.account = a)
      (hvisit : Visit taskId call before a)
  | showing {k : Nat} {snapshot : Snapshot} (hrun : snapshot.isTerminal = false)
      (hshowing : s.Showing taskId k snapshot)
  | resumed {snapshot : Snapshot} (hrun : snapshot.isTerminal = false)
      (hresumed : s.Resumed taskId snapshot) (hasked : s.account.asked = [.status taskId])
      (hfetched : s.account.fetched = [.ok snapshot]) (hdone : ∀ k, s.doing (.call k) = none)

section Stages

variable {s s' : Session} {e : Event} {k : Nat} {d : Call} {taskId : String}
  {call : Option Call} {before : Option String} {a : Account}

/-- A call waits for one kind of event. -/
theorem event_of_takes {r : Tracker × List ViewCall × Turn} (htakes : s.Takes k d e r) :
    match d with
    | .entering => e = .turn (.call k)
    | .fetching _ => ∃ status, e = .answered (.call k) (.status status)
    | .loading | .forgetting _ | .settling (.reading _) _ | .settling (.clearing ..) _ =>
      e = .stored (.call k)
    | _ => True := by
  obtain ⟨_, hbrings, hturn⟩ := htakes.callTurn
  cases hturn with
  | enter =>
    cases hbrings
    rfl
  | refuse hnew =>
    cases hbrings
    cases d <;> first | rfl | trivial
  | nothing | found | stale => exact hbrings.of_store.1
  | fail hd => rcases hd with rfl | ⟨_, rfl⟩ <;> exact hbrings.of_store.1
  | conclude | track | forget =>
    cases hbrings
    exact ⟨_, rfl⟩
  | @settle stage =>
    cases stage with
    | locking => trivial
    | _ => exact hbrings.of_store.1
  | _ => trivial

/-- A new enter of a calm page. -/
theorem Calm.enter (h : s.Calm k none before) (i : Nat)
    (hstep : s.step (.called i .entering) = some s') :
    s'.Calm i (some .entering) before ∧ s'.account = s.account := by
  simp only [step] at hstep
  split at hstep
  · next hcond =>
    cases hstep
    have hfree := Option.isNone_iff_eq_none.mp ((Bool.and_eq_true ..).mp hcond).2
    have hquiet : ∀ o ∈ ([] : List Output), isRequest o = false := fun o ho => by cases ho
    refine ⟨⟨?_, ?_, ?_, ?_, ?_, ?_, fun j => ?_⟩, ?_⟩
    · rw [after_tracker]
      exact h.idle
    · rw [after_tracker]
      exact h.silent
    · rw [after_tracker]
      exact h.empty
    · rw [after_tracker]
      exact h.locked
    · rw [doing_called hfree, h.doing, Function.update_eq_self_iff.mpr rfl]
    · rw [after_quiet s hquiet]
      exact h.found
    · rw [after_quiet s hquiet]
      refine (h.answer j).trans ?_
      split <;> split <;> rfl
    · rw [account_after]
      exact add_channels _ rfl fun o ho => by cases ho
  · cases hstep

theorem taskId?_of_ne (h : taskId ≠ "") : Store.Identity.taskId? (some taskId) = some taskId := by
  simp [Store.Identity.taskId?, h]

/-- The enter under way takes its turn. -/
theorem Visit.turn (hcalm : s.Calm k (some d) before) (haccount : s.account = a)
    (hvisit : Visit taskId (some d) before a) (hne : taskId ≠ "")
    (hworks : s.storage.faults = {}) (hjob : e.job? = some (.call k))
    (hstep : s.step e = some s') : Stage taskId s' := by
  have hd := hcalm.at
  obtain ⟨_, _, _, htakes, _⟩ := takes_of_step hd hjob hstep
  have hevent := event_of_takes htakes
  have hsame := taskId?_of_ne hne
  -- The event is the one that the stage waits for, so the step is the one told in `Calm`.
  cases hvisit with
  | entering =>
    obtain rfl : e = .turn (.call k) := hevent
    obtain ⟨s₁, hstep₁, hcalm₁, haccount₁⟩ := hcalm.load hworks
    cases hstep.symm.trans hstep₁
    exact .calm hcalm₁ (haccount₁.trans haccount) .loading
  | loading =>
    obtain rfl : e = .stored (.call k) := hevent
    obtain ⟨s₁, hstep₁, hlooked⟩ := hcalm.look hworks
    rw [hsame] at hlooked
    obtain ⟨hcalm₁, haccount₁⟩ := hlooked
    cases hstep.symm.trans hstep₁
    rw [haccount] at haccount₁
    exact .calm hcalm₁ haccount₁ .fetching
  | fetching =>
    obtain ⟨status, rfl⟩ : ∃ status, e = .answered (.call k) (.status status) := hevent
    cases status with
    | error failure =>
      obtain ⟨s₁, hstep₁, hcalm₁, haccount₁⟩ := hcalm.forget hworks failure
      cases hstep.symm.trans hstep₁
      rw [haccount] at haccount₁
      exact .calm hcalm₁ haccount₁ (.forgetting failure)
    | ok snapshot =>
      cases hend : snapshot.isTerminal with
      | true =>
        obtain ⟨s₁, hstep₁, hcalm₁, haccount₁⟩ := hcalm.conclude hworks hend
        cases hstep.symm.trans hstep₁
        rw [haccount] at haccount₁
        exact .calm hcalm₁ haccount₁ (.reading hend)
      | false =>
        obtain ⟨s₁, hstep₁, hshowing⟩ := hcalm.show hworks rfl haccount hend
        cases hstep.symm.trans hstep₁
        exact .showing hend hshowing
  | forgetting failure =>
    obtain rfl : e = .stored (.call k) := hevent
    obtain ⟨s₁, hstep₁, hcalm₁, haccount₁⟩ := hcalm.stale hworks
    cases hstep.symm.trans hstep₁
    rw [haccount] at haccount₁
    exact .calm hcalm₁ haccount₁ (.parted 0 (.inl rfl) (.stale failure))
  | reading hend =>
    obtain rfl : e = .stored (.call k) := hevent
    obtain ⟨s₁, hstep₁, hcalm₁, haccount₁⟩ := hcalm.close hworks hend hsame
    cases hstep.symm.trans hstep₁
    exact .calm hcalm₁ (haccount₁.trans haccount) (.clearing hend (Display.isTerminal_apply hend))
  | clearing hend happlied =>
    obtain rfl : e = .stored (.call k) := hevent
    obtain ⟨s₁, hstep₁, hcalm₁, haccount₁⟩ := hcalm.finish hworks happlied
    cases hstep.symm.trans hstep₁
    rw [haccount] at haccount₁
    exact .calm hcalm₁ haccount₁ (.parted 0 (.inl rfl) (.finished hend))
  | parted n hcall hparts =>
    rcases hcall with hnone | hentering | hloading
    · cases hnone
    · cases hentering
      obtain rfl : e = .turn (.call k) := hevent
      obtain ⟨s₁, hstep₁, hcalm₁, haccount₁⟩ := hcalm.load hworks
      cases hstep.symm.trans hstep₁
      exact .calm hcalm₁ (haccount₁.trans haccount) (.parted n (.inr (.inr rfl)) hparts)
    · cases hloading
      obtain rfl : e = .stored (.call k) := hevent
      obtain ⟨s₁, hstep₁, hcalm₁, haccount₁⟩ := hcalm.look hworks
      cases hstep.symm.trans hstep₁
      rw [haccount] at haccount₁
      refine .calm hcalm₁ (haccount₁.trans ?_) (.parted (n + 1) (.inl rfl) hparts)
      simp [List.replicate_succ']

/-- **Each event of a visit is one of its enter's turns, begins an enter, or changes
    nothing of it.** -/
theorem Stage.step (h : Stage taskId s) (hne : taskId ≠ "") (hlone : s.Lone)
    (hguarded : s.Guarded) (hvisits : s.Visits e) (hstep : s.step e = some s') :
    Stage taskId s' := by
  have hworks := hlone.orderly.honest.faults
  cases h with
  | @calm k call before a hcalm haccount hvisit =>
    -- The enter under way goes on, or a new one is begun, or the page stays calm.
    by_cases hown : e.job? = some (.call k)
    · cases call with
      | none =>
        -- Without a call nobody has that turn.
        have hnone : s.doing (.call k) = none := by
          rw [hcalm.doing, Function.update_self]
        cases happens_of_step hstep with
        | call hjob hd =>
          cases hown.symm.trans hjob
          cases hnone.symm.trans hd
        | worker hjob => cases hown.symm.trans hjob
        | channel hjob => cases hjob _ hown
        | called | left | disturbed => cases hown
      | some d => exact hvisit.turn hcalm haccount hne hworks hown hstep
    · by_cases hcalled : ∃ i d, e = .called i d
      · obtain ⟨i, d, rfl⟩ := hcalled
        obtain ⟨_, _, honly⟩ := hvisits
        cases d with
        | entering =>
          have hcall : call = none := by
            cases call with
            | none => rfl
            | some d =>
              have hd : s.tracker.calls.lookup k = some d := hcalm.at
              rw [show s.tracker.calls = [] from honly] at hd
              cases hd
          subst hcall
          obtain ⟨hcalm', haccount'⟩ := hcalm.enter i hstep
          cases hvisit with
          | opened => exact .calm hcalm' (haccount'.trans haccount) .entering
          | parted n _ hparts =>
            exact .calm hcalm' (haccount'.trans haccount) (.parted n (.inr (.inl rfl)) hparts)
        | _ => exact honly.elim
      · obtain ⟨hcalm', haccount'⟩ := hcalm.others hlone hvisits hstep hown
          fun i d he => hcalled ⟨i, d, he⟩
        exact .calm hcalm' (haccount'.trans haccount) hvisit
  | @showing k snapshot hrun hshowing =>
    by_cases hown : e.job? = some (.call k)
    · obtain ⟨_, _, _, htakes, _⟩ := takes_of_step hshowing.doing hown hstep
      obtain rfl : e = .stored (.call k) := event_of_takes htakes
      obtain ⟨s₁, hstep₁, hresumed, hasked, hfetched, hdone⟩ := hshowing.resume hworks hne hrun
      cases hstep.symm.trans hstep₁
      exact .resumed hrun hresumed hasked hfetched hdone
    · exact .showing hrun (hshowing.others hlone hguarded hvisits hstep hown)
  | resumed _ hresumed =>
    -- The visit is over once the task is resumed.
    have hgone := hvisits.2.1
    unfold Account.hasResumed at hgone
    rw [hresumed.results] at hgone
    cases hgone

/-! ### What a stage tells -/

theorem Parts.parted {status : Except TransportFailure Snapshot} {first : Resumption}
    {views : List ViewCall} (h : Parts taskId status first views) (hparted : s.Parted first views) :
    s.Concluded taskId status := by
  cases h with
  | stale failure => exact hparted
  | finished hend =>
    unfold Concluded
    dsimp only
    rw [if_pos hend]
    exact hparted

theorem Stage.asks (h : Stage taskId s) (hnone : s.account.results = []) :
    s.account.asked = [] ∨ s.account.asked = [.status taskId] := by
  cases h with
  | calm _ haccount hvisit =>
    rw [haccount] at hnone ⊢
    cases hvisit with
    | opened | entering | loading => exact .inl rfl
    | parted => cases hnone
    | _ => exact .inr rfl
  | showing _ hshowing =>
    obtain ⟨n, haccount⟩ := hshowing.account
    rw [haccount]
    exact .inr rfl
  | resumed _ hresumed =>
    rw [hresumed.results] at hnone
    cases hnone

theorem Stage.concluded (h : Stage taskId s) (hsome : s.account.results ≠ []) :
    s.account.asked = [.status taskId] ∧
      ∃ status, s.account.fetched = [status] ∧ s.Concluded taskId status := by
  cases h with
  | @calm _ call _ _ hcalm haccount hvisit =>
    cases hvisit with
    | @parted _ status first views n hcall hparts =>
      have hstored : s.stored = none := by
        change Store.Identity.taskId? s.found = none
        rw [hcalm.found]
        rcases hcall with rfl | rfl | rfl <;> rfl
      rw [haccount]
      exact ⟨rfl, status, rfl,
        hparts.parted ⟨hcalm.idle, hstored, ⟨n, by rw [haccount]⟩, by rw [haccount]⟩⟩
    | _ =>
      rw [haccount] at hsome
      exact absurd rfl hsome
  | showing _ hshowing =>
    obtain ⟨n, haccount⟩ := hshowing.account
    rw [haccount] at hsome
    exact absurd rfl hsome
  | @resumed snapshot hrun hresumed hasked hfetched =>
    refine ⟨hasked, .ok snapshot, hfetched, ?_⟩
    unfold Concluded
    dsimp only
    rw [if_neg (by simp [hrun])]
    exact hresumed

/-! ### Every enter can return -/

theorem Own.undisturbed {status : Except TransportFailure Snapshot} (h : Own k status e) :
    s.Undisturbed e := by
  rcases h with rfl | rfl | rfl <;> trivial

namespace Returns

variable {status : Except TransportFailure Snapshot} {n m : Nat}

theorem done (h : s.doing (.call k) = none) : s.Returns k status 0 :=
  ⟨[], s, Nat.le_refl _, fun _ he => absurd he List.not_mem_nil, rfl, h⟩

theorem next (h : s'.Returns k status n) (hown : Own k status e)
    (hgone : s.account.hasResumed = false) (hstep : s.step e = some s') :
    s.Returns k status (n + 1) := by
  obtain ⟨es, s₂, hlength, hall, hrun, hdone⟩ := h
  have hvisits : s.Visits e := by
    rcases hown with rfl | rfl | rfl <;> exact ⟨trivial, hgone, trivial⟩
  refine ⟨e :: es, s₂, Nat.succ_le_succ hlength, ?_, ?_, hdone⟩
  · intro e' he'
    rcases List.mem_cons.mp he' with rfl | he'
    · exact hown
    · exact hall e' he'
  · exact play_cons_iff.mpr ⟨hvisits, s', hstep, hrun⟩

theorem mono (h : s.Returns k status n) (hle : n ≤ m) : s.Returns k status m := by
  obtain ⟨es, s', hlength, hrest⟩ := h
  exact ⟨es, s', Nat.le_trans hlength hle, hrest⟩

end Returns

section Returns

variable {status : Except TransportFailure Snapshot} {snapshot : Snapshot}

theorem Calm.over (h : s.Calm k none before) : s.doing (.call k) = none := by
  rw [h.doing, Function.update_self]

theorem returns_clearing {applied : Applied} {goal : Goal}
    (h : s.Calm k (some (.settling (.clearing snapshot applied snapshot.lastEffects) goal)) before)
    (hworks : s.storage.faults = {}) (hgone : s.account.hasResumed = false)
    (happlied : applied.isTerminal = true) : s.Returns k status 1 := by
  obtain ⟨s₁, hstep, hcalm, _⟩ := h.finish hworks happlied
  exact .next (.done hcalm.over) (.inr (.inl rfl)) hgone hstep

theorem returns_reading {goal : Goal}
    (h : s.Calm k (some (.settling (.reading snapshot) goal)) before)
    (hworks : s.storage.faults = {}) (hgone : s.account.hasResumed = false)
    (hend : snapshot.isTerminal = true)
    (hbefore : Store.Identity.taskId? before = some snapshot.id) : s.Returns k status 2 := by
  obtain ⟨s₁, hstep, hcalm, haccount⟩ := h.close hworks hend hbefore
  have hown : Own k status (.stored (.call k)) := .inr (.inl rfl)
  have hworks₁ := (faults_of_step hown.undisturbed hstep).trans hworks
  exact .next (returns_clearing hcalm hworks₁ (haccount ▸ hgone) (Display.isTerminal_apply hend))
    hown hgone hstep

theorem returns_forgetting (h : s.Calm k (some (.forgetting taskId)) before)
    (hworks : s.storage.faults = {}) (hgone : s.account.hasResumed = false) :
    s.Returns k status 1 := by
  obtain ⟨s₁, hstep, hcalm, _⟩ := h.stale hworks
  exact .next (.done hcalm.over) (.inr (.inl rfl)) hgone hstep

theorem returns_showing (h : s.Showing taskId k snapshot) (hworks : s.storage.faults = {})
    (hne : taskId ≠ "") (hrun : snapshot.isTerminal = false) : s.Returns k status 1 := by
  obtain ⟨s₁, hstep, _, _, _, hdone⟩ := h.resume hworks hne hrun
  obtain ⟨n, haccount⟩ := h.account
  exact .next (.done (hdone k)) (.inr (.inl rfl)) (by rw [haccount]; rfl) hstep

theorem returns_fetching (h : s.Calm k (some (.fetching taskId)) (some taskId))
    (hworks : s.storage.faults = {}) (haccount : s.account = { asked := [.status taskId] })
    (hne : taskId ≠ "") : s.Returns k status 3 := by
  have hgone : s.account.hasResumed = false := by rw [haccount]; rfl
  have hown : Own k status (.answered (.call k) (.status status)) := .inr (.inr rfl)
  cases status with
  | error failure =>
    obtain ⟨s₁, hstep, hcalm, haccount₁⟩ := h.forget hworks failure
    have hworks₁ := (faults_of_step hown.undisturbed hstep).trans hworks
    rw [haccount] at haccount₁
    exact (Returns.next (returns_forgetting hcalm hworks₁ (by rw [haccount₁]; rfl)) hown hgone
      hstep).mono (by omega)
  | ok snapshot =>
    cases hend : snapshot.isTerminal with
    | true =>
      obtain ⟨s₁, hstep, hcalm, haccount₁⟩ := h.conclude hworks hend
      have hworks₁ := (faults_of_step hown.undisturbed hstep).trans hworks
      rw [haccount] at haccount₁
      exact .next (returns_reading hcalm hworks₁ (by rw [haccount₁]; rfl) hend
        (taskId?_of_ne hne)) hown hgone hstep
    | false =>
      obtain ⟨s₁, hstep, hshowing⟩ := h.show hworks rfl haccount hend
      have hworks₁ := (faults_of_step hown.undisturbed hstep).trans hworks
      exact (Returns.next (returns_showing hshowing hworks₁ hne hend) hown hgone hstep).mono
        (by omega)

theorem returns_loading (h : s.Calm k (some .loading) before) (hworks : s.storage.faults = {})
    (hgone : s.account.hasResumed = false)
    (hbefore : before = none ∨ before = some taskId ∧ s.account = {}) (hne : taskId ≠ "") :
    s.Returns k status 4 := by
  obtain ⟨s₁, hstep, hlooked⟩ := h.look hworks
  have hown : Own k status (.stored (.call k)) := .inr (.inl rfl)
  rcases hbefore with rfl | ⟨rfl, haccount⟩
  · obtain ⟨hcalm, _⟩ := hlooked
    exact (Returns.next (.done hcalm.over) hown hgone hstep).mono (by omega)
  · rw [taskId?_of_ne hne] at hlooked
    obtain ⟨hcalm, haccount₁⟩ := hlooked
    have hworks₁ := (faults_of_step hown.undisturbed hstep).trans hworks
    rw [haccount] at haccount₁
    exact .next (returns_fetching hcalm hworks₁ haccount₁ hne) hown hgone hstep

theorem returns_entering (h : s.Calm k (some .entering) before) (hworks : s.storage.faults = {})
    (hgone : s.account.hasResumed = false)
    (hbefore : before = none ∨ before = some taskId ∧ s.account = {}) (hne : taskId ≠ "") :
    s.Returns k status 5 := by
  obtain ⟨s₁, hstep, hcalm, haccount⟩ := h.load hworks
  have hown : Own k status (.turn (.call k)) := .inl rfl
  have hworks₁ := (faults_of_step hown.undisturbed hstep).trans hworks
  exact .next (returns_loading hcalm hworks₁ (haccount ▸ hgone) (haccount ▸ hbefore) hne) hown
    hgone hstep

theorem Visit.not_resumed (h : Visit taskId call before a) : a.hasResumed = false := by
  cases h with
  | parted n hcall hparts => cases hparts <;> simp [Account.hasResumed]
  | _ => rfl

/-- An enter can always return. -/
theorem Stage.returns (h : Stage taskId s) (hne : taskId ≠ "") (hworks : s.storage.faults = {})
    (hd : (s.doing (.call k)).isSome) : s.Returns k status 5 := by
  -- The call under way is the enter, which has five turns at most before it.
  cases h with
  | @calm i call before a hcalm haccount hvisit =>
    have hgone : s.account.hasResumed = false := by
      rw [haccount]
      exact hvisit.not_resumed
    obtain rfl : k = i := by
      by_contra hi
      rw [hcalm.free (by simpa using hi)] at hd
      cases hd
    cases hvisit with
    | opened =>
      rw [hcalm.over] at hd
      cases hd
    | entering => exact returns_entering hcalm hworks hgone (.inr ⟨rfl, haccount⟩) hne
    | loading =>
      exact (returns_loading hcalm hworks hgone (.inr ⟨rfl, haccount⟩) hne).mono (by omega)
    | fetching => exact (returns_fetching hcalm hworks haccount hne).mono (by omega)
    | forgetting => exact (returns_forgetting hcalm hworks hgone).mono (by omega)
    | reading hend =>
      exact (returns_reading hcalm hworks hgone hend (taskId?_of_ne hne)).mono (by omega)
    | clearing hend happlied =>
      exact (returns_clearing hcalm hworks hgone happlied).mono (by omega)
    | parted n hcall =>
      rcases hcall with rfl | rfl | rfl
      · rw [hcalm.over] at hd
        cases hd
      · exact returns_entering hcalm hworks hgone (.inl rfl) hne
      · exact (returns_loading hcalm hworks hgone (.inl rfl) hne).mono (by omega)
  | @showing i snapshot hrun hshowing =>
    obtain rfl : k = i := by
      by_contra hi
      rw [hshowing.alone k hi] at hd
      cases hd
    exact (returns_showing hshowing hworks hne hrun).mono (by omega)
  | resumed _ _ _ _ hdone =>
    rw [hdone k] at hd
    cases hd

end Returns

end Stages

/-! ### The next page -/

section Pages

variable {config : Config} {t u : Tracker} {s s₀ s₁ : Session} {taskId : String} {k : Nat}
  {es : List Event}

theorem visited_of_reaches {entries : Store.Entries} (hconfig : Tracker.ofConfig config = .ok u)
    (hstored : (opened u entries).stored = some taskId)
    (hrun : Reaches Visits (opened u entries) s) : s.Visited taskId := by
  obtain ⟨hfound, hkept⟩ := Option.filter_eq_some_iff.mp hstored
  have hne : taskId ≠ "" := by simpa using hkept
  have hstage : Stage taskId s ∧ s.Lone ∧ s.Guarded := by
    -- Along the visit, with what each of its events needs of the session.
    induction hrun with
    | refl =>
      have hcalm := calm_opened hconfig entries 0
      rw [show (opened u entries).found = some taskId from hfound] at hcalm
      exact ⟨.calm hcalm rfl .opened, lone_opened hconfig entries, guarded_opened hconfig entries⟩
    | step e _ hvisits hstep ih =>
      obtain ⟨hstage, hlone, hguarded⟩ := ih
      exact ⟨hstage.step hne hlone hguarded hvisits hstep, hlone.step hvisits.apart hstep,
        hguarded.step hstep⟩
  obtain ⟨hstage, hlone, _⟩ := hstage
  exact ⟨hstage.asks, hstage.concluded,
    fun k hd status => hstage.returns hne hlone.orderly.honest.faults hd⟩

/-- **A new page resumes a task just if its id is stored.** -/
theorem resumes_iff_stored (hconfig : Tracker.ofConfig config = .ok u) (entries : Store.Entries) :
    (opened u entries).Resumes taskId ↔ (opened u entries).stored = some taskId := by
  refine ⟨fun hresumes => ?_, fun hstored s hrun => visited_of_reaches hconfig hstored hrun⟩
  -- An enter up to the answer of the storage shows which task it is after.
  have hcalls : u.calls = [] := by
    obtain ⟨_, _, rfl⟩ := Tracker.ofConfig_eq_ok hconfig
    rfl
  have hcalm := calm_opened hconfig entries 0
  obtain ⟨s₁, hstep₁⟩ : ∃ s₁, (opened u entries).step (.called 0 .entering) = some s₁ :=
    ⟨_, if_pos (by rw [hcalm.over]; rfl)⟩
  obtain ⟨hcalm₁, haccount₁⟩ := hcalm.enter 0 hstep₁
  have hworks₁ : s₁.storage.faults = {} := faults_of_step (e := .called 0 .entering) trivial hstep₁
  obtain ⟨s₂, hstep₂, hcalm₂, haccount₂⟩ := hcalm₁.load hworks₁
  have hworks₂ : s₂.storage.faults = {} :=
    (faults_of_step (e := .turn (.call 0)) trivial hstep₂).trans hworks₁
  obtain ⟨s₃, hstep₃, hlooked⟩ := hcalm₂.look hworks₂
  rw [haccount₂, haccount₁] at hlooked
  -- On the way there nothing was resumed, as the account is still empty.
  have hgone : ∀ s : Session, s.account = (opened u entries).account →
      s.account.hasResumed = false := by
    intro s haccount
    rw [haccount]
    rfl
  have hrun : Reaches Visits (opened u entries) s₃ :=
    ((Reaches.refl.step (.called 0 .entering) ⟨trivial, rfl, hcalls⟩ hstep₁).step
      (.turn (.call 0)) ⟨trivial, hgone s₁ haccount₁, trivial⟩ hstep₂).step
      (.stored (.call 0)) ⟨trivial, hgone s₂ (haccount₂.trans haccount₁), trivial⟩ hstep₃
  have hvisited := hresumes s₃ hrun
  change Store.Identity.taskId? (opened u entries).found = some taskId
  cases hstored : Store.Identity.taskId? (opened u entries).found with
  | none =>
    rw [hstored] at hlooked
    obtain ⟨_, haccount⟩ := hlooked
    have hasked := (hvisited.concluded (by rw [haccount]; simp)).1
    rw [haccount] at hasked
    cases hasked
  | some x =>
    rw [hstored] at hlooked
    obtain ⟨_, haccount⟩ := hlooked
    have hasked := hvisited.asks (by rw [haccount]; rfl)
    rw [haccount] at hasked
    rcases hasked with hnone | hsame
    · cases hnone
    · cases hsame
      rfl

theorem identity_of_reaches {allowed : Session → Event → Prop} (h : s₀.Guarded)
    (hrun : Reaches allowed s₀ s) : s.Guarded ∧ s.tracker.identity = s₀.tracker.identity := by
  induction hrun with
  | refl => exact ⟨h, rfl⟩
  | step e _ _ hstep ih =>
    obtain ⟨hguarded, hsame⟩ := ih
    refine ⟨hguarded.step hstep, Eq.trans ?_ hsame⟩
    cases hguarded.changes hstep with
    | turned _ hturned => exact hturned.identity
    | still hstill => exact hstill.identity

theorem faults_of_reaches (hrun : Reaches Undisturbed s₀ s) :
    s.storage.faults = s₀.storage.faults := by
  induction hrun with
  | refl => rfl
  | step e _ hworks hstep ih => exact (faults_of_step hworks hstep).trans ih

end Pages

end Session

/-! ### Without overlapping calls -/

/-- A start that has stored an id goes on to show its task. -/
theorem Core.Move.saving_keep {admits : Core → Call → Prop} {c c' : Core} {scene : Scene} {i : Job}
    {x : String} (h : Core.Move admits c scene c') (hd : c.doing i = some (.saving x)) :
    c'.doing i = some (.saving x) ∨ c'.shown = c.shown ++ [x] := by
  cases h with
  | @track j y hdoing =>
    by_cases hi : i = j
    · subst hi
      cases hd.symm.trans hdoing
      exact .inr rfl
    · exact .inl (doing_ended.mpr ⟨hi, hd⟩)
  | call hfree => grind [Function.update_apply]
  | deliver => exact .inl hd
  | @take _ _ _ hqueue hfree =>
    left
    rw [doing_settle_of_ne (by rintro rfl; rw [hfree] at hd; cases hd)]
    exact hd
  | @apply j _ hdoing | @lock j _ _ hdoing | @conclude j _ hdoing | @resume j _ hdoing =>
    have hne : i ≠ j := by
      rintro rfl
      cases hd.symm.trans hdoing
    rw [doing_settle_of_ne hne]
    exact .inl hd
  | _ =>
    simp only [doing_wait, doing_ended, doing_settled]
    grind [Call.isNew, Call.isWithdrawing]

namespace Session

/-- The id is stored for a task of this page. -/
structure Begun (s : Session) (taskId : String) : Prop where
  stored : s.stored = some taskId
  here : (∃ j, s.doing j = some (.saving taskId)) ∨ s.shown ≠ []

section Begun

variable {s s' : Session} {e : Event} {taskId : String} {es : List Event}

theorem Begun.phase {φ : Phase} (h : s.Begun taskId) (hφ : s.core.Sound φ) :
    φ = .saving taskId ∨ φ = .tracking taskId := by
  -- A dormant id belongs to a page that has shown no task and has no start under way.
  rcases h.here with ⟨j, hd⟩ | hshown
  · exact .inl (hφ.fits j _ hd)
  · have hstored : φ.stored = some taskId := hφ.looks.stored.symm.trans h.stored
    cases φ with
    | dormant x => exact absurd (hφ.looks.dormant x rfl).2.2.1 hshown
    | saving x =>
      cases hstored
      exact .inl rfl
    | tracking x =>
      cases hstored
      exact .inr rfl
    | _ => cases hstored

/-- For a task of this page only its end does not spare its id. -/
theorem Begun.spares_iff (h : s.Begun taskId) (hlone : s.Lone) (hstep : s.step e = some s') :
    s.Spares e ↔ s.Lasts e := by
  refine ⟨And.left, fun hlasts => ⟨hlasts, ?_⟩⟩
  obtain ⟨φ, hφ⟩ := hlone.orderly.phase
  have hphase := h.phase hφ
  split
  · next k failure =>
    -- A resume would have found the id of an earlier page.
    obtain ⟨d, _, _, _, hd, hturn, _⟩ := callTurn_of_answered hstep
    cases hturn with
    | @forget x =>
      have hdormant : φ = .dormant x := hφ.waits (hlone.solo.attends (.call k) _ hd)
      rcases hphase with rfl | rfl <;> cases hdormant
  · next job x =>
    -- There would be two starts.
    obtain ⟨k, rfl⟩ := eq_call_of_created hstep
    obtain ⟨d, _, _, _, hd, hturn, _⟩ := callTurn_of_answered hstep
    cases hturn with
    | @save params =>
      have hstarts : (s.core.doing (.call k)).any Call.starts = true := by
        rw [show s.core.doing (.call k) = some (.creating params) from hd]
        rfl
      have hcreating : s.core.lifecycle = .creating := by
        simpa using hφ.start.eq_true hstarts
      rcases hphase with rfl | rfl
      · obtain ⟨j, hj⟩ := hφ.saver taskId rfl
        have hne : j ≠ .call k := by
          rintro rfl
          cases hj.symm.trans hd
        have hother := hφ.start.other hstarts hne
        rw [hj] at hother
        cases hother
      · cases hcreating.symm.trans (hφ.looks.tracked taskId rfl).1
  · trivial

theorem Begun.step (h : s.Begun taskId) (hlone : s.Lone) (hguarded : s.Guarded)
    (hapart : s.Apart e) (hlasts : s.Lasts e) (hstep : s.step e = some s') : s'.Begun taskId := by
  have hspares := (h.spares_iff hlone hstep).mpr hlasts
  obtain ⟨scene, hmoves⟩ := hlone.moves hapart hstep
  have hstored := stored_of_spares hguarded hlone.orderly.honest.faults hspares hstep
  refine ⟨hstored.trans h.stored, ?_⟩
  change _ ∨ s'.core.shown ≠ []
  -- The start goes on to show its task, and what is shown is not taken back.
  rcases h.here with ⟨j, hd⟩ | hshown
  · rcases hmoves.move.saving_keep hd with hd' | hbegun
    · exact .inl ⟨j, hd'⟩
    · rw [hbegun]
      simp
  · rcases hmoves.move.shown_of with hsame | ⟨_, _, hmore, _⟩
    · rw [hsame]
      exact .inr hshown
    · rw [hmore]
      simp

/-- **Without overlapping resumes only its end keeps a task from being resumed.** -/
theorem Begun.along_iff (h : s.Begun taskId) (hlone : s.Lone) (hguarded : s.Guarded)
    (hrun : play Apart es s = some s') : Along Spares es s ↔ Along Lasts es s := by
  -- As long as the task lasts it is one of this page, which is all that sparing it needs.
  refine along_congr (I := fun s => s.Begun taskId ∧ s.Lone ∧ s.Guarded) ?_ ?_
    ⟨h, hlone, hguarded⟩ hrun
  · rintro s e s' ⟨h, hlone, hguarded⟩ _ hstep
    exact h.spares_iff hlone hstep
  · rintro s e s' ⟨h, hlone, hguarded⟩ hapart hlasts hstep
    exact ⟨h.step hlone hguarded hapart hlasts hstep, hlone.step hapart hstep,
      hguarded.step hstep⟩

end Begun

section Pages

variable {config : Config} {t u : Tracker} {s s₀ s₁ : Session} {taskId : String} {k : Nat}
  {es : List Event}

/-- A start stores the id that it is given at once. -/
theorem begins_of_created (hworks : s₀.storage.faults = {})
    (hcreated : s₀.step (.answered (.call k) (.created (.ok taskId))) = some s₁) :
    s₁.tracker.identity = s₀.tracker.identity ∧ s₁.found = some taskId ∧
      s₁.doing (.call k) = some (.saving taskId) := by
  obtain ⟨d, _, _, turn, _, hturn, hturned⟩ := callTurn_of_answered hcreated
  cases hturn with
  | save =>
    refine ⟨hturned.identity, hturned.found hworks, ?_⟩
    rw [hturned.doing]
    exact Function.update_self ..

/-- **A task that was started is resumed after any reload**, at any moment, by a page with
    the same key, just if its id is not empty and every event so far has spared it. If no
    resume overlaps another call, only the end of the task does not spare it. -/
theorem resumes_iff {config' : Config} (hconfig : Tracker.ofConfig config = .ok t)
    (hconfig' : Tracker.ofConfig config' = .ok u) (hpage : u.identity = t.identity)
    {entries : Store.Entries} (hrun : Reaches Undisturbed (opened t entries) s₀)
    (hcreated : s₀.step (.answered (.call k) (.created (.ok taskId))) = some s₁)
    (hlater : play (fun s e => s.Undisturbed e ∧ s.Unclaimed taskId e) es s₁ = some s) :
    ((opened u s.storage.entries).Resumes taskId ↔ taskId ≠ "" ∧ Along Spares es s₁) ∧
      (Reaches Apart (opened t entries) s₀ →
        s₀.Apart (.answered (.call k) (.created (.ok taskId))) → play Apart es s₁ = some s →
        ((opened u s.storage.entries).Resumes taskId ↔ Along Lasts es s₁)) := by
  obtain ⟨h₀, hid₀⟩ := identity_of_reaches (guarded_opened hconfig entries) hrun
  have h₁ := h₀.step hcreated
  obtain ⟨_, hid⟩ := identity_of_reaches h₁ (reaches_of_play hlater)
  have hworks₀ : s₀.storage.faults = {} := faults_of_reaches hrun
  have hworks₁ := (faults_of_step (e := .answered (.call k) (.created (.ok taskId))) trivial
    hcreated).trans hworks₀
  obtain ⟨hid₁, hfound, hsaving⟩ := begins_of_created hworks₀ hcreated
  have hresumes : (opened u s.storage.entries).Resumes taskId ↔ s.stored = some taskId := by
    have hstored : (opened u s.storage.entries).stored = s.stored := by
      unfold stored
      rw [hid, hid₁, hid₀]
      exact congrArg (fun i => Store.Identity.taskId? (s.storage.entries.get? i.key)) hpage
    rw [resumes_iff_stored hconfig', hstored]
  have hspared : s.stored = some taskId ↔ taskId ≠ "" ∧ Along Spares es s₁ := by
    by_cases hne : taskId = ""
    · -- An empty text is stored, but counts as no id.
      have hnot : s₁.stored ≠ some taskId := by
        change Store.Identity.taskId? s₁.found ≠ some taskId
        rw [hfound, hne]
        simp [Store.Identity.taskId?]
      exact iff_of_false (not_stored_of_play h₁ hnot hlater) fun h => h.1 hne
    · have hkept : s₁.stored = some taskId := by
        change Store.Identity.taskId? s₁.found = some taskId
        rw [hfound, taskId?_of_ne hne]
      exact (stored_along_iff h₁ hworks₁ hkept hlater).trans (and_iff_right hne).symm
  refine ⟨hresumes.trans hspared, fun hreach hapart hplay => ?_⟩
  have hne : taskId ≠ "" := hapart.1.1
  have hkept : s₁.stored = some taskId := by
    change Store.Identity.taskId? s₁.found = some taskId
    rw [hfound, taskId?_of_ne hne]
  have hlone := (lone_of_reaches hconfig hreach).step hapart hcreated
  have hbegun : s₁.Begun taskId := ⟨hkept, .inl ⟨.call k, hsaving⟩⟩
  rw [hresumes, hspared, hbegun.along_iff hlone h₁ hplay, and_iff_right hne]

end Pages

/-- A page that is left once its start has stored the id is resumed. -/
theorem resumes_left : ∃ s₀ s₁ s,
    play Apart [.called 0 (.starting .null), .turn (.call 0)] (polling "") = some s₀ ∧
      s₀.step (.answered (.call 0) (.created (.ok "task"))) = some s₁ ∧
      play (fun s e => s.Apart e ∧ s.Unclaimed "task" e) [.stored (.call 0), .left] s₁ = some s ∧
      Along Spares [.stored (.call 0), .left] s₁ ∧
      (opened (polling "").tracker s.storage.entries).Resumes "task" := by
  have hplayed : (play Apart [.called 0 (.starting .null), .turn (.call 0)] (polling "")).any
      fun s₀ => decide (s₀.Apart (.answered (.call 0) (.created (.ok "task")))) &&
        (s₀.step (.answered (.call 0) (.created (.ok "task")))).any fun s₁ =>
          decide (Along Lasts [.stored (.call 0), .left] s₁) &&
            (play (fun s e => s.Apart e ∧ s.Unclaimed "task" e)
              [.stored (.call 0), .left] s₁).isSome := by
    decide
  obtain ⟨s₀, hs₀, hplayed⟩ := (Option.any_eq_true ..).mp hplayed
  obtain ⟨hapart, hplayed⟩ := (Bool.and_eq_true ..).mp hplayed
  obtain ⟨s₁, hs₁, hplayed⟩ := (Option.any_eq_true ..).mp hplayed
  obtain ⟨hlasts, hplayed⟩ := (Bool.and_eq_true ..).mp hplayed
  obtain ⟨s, hs⟩ := Option.isSome_iff_exists.mp hplayed
  have hconfig : Tracker.ofConfig pollingPage = .ok (polling "").tracker := rfl
  have hreach := reaches_of_play hs₀
  have hlaw := resumes_iff hconfig hconfig rfl (hreach.mono fun _ _ h => Fair.undisturbed h.1) hs₁
    (play_mono (fun _ _ h => ⟨Fair.undisturbed h.1.1, h.2⟩) hs)
  have hresumes := (hlaw.2 hreach (of_decide_eq_true hapart)
    (play_mono (fun _ _ h => h.1) hs)).mpr (of_decide_eq_true hlasts)
  exact ⟨s₀, s₁, s, hs₀, hs₁, hs, (hlaw.1.mp hresumes).2, hresumes⟩

/-- A task whose id the server gives as an empty text is tracked, and not resumed. -/
theorem not_resumes_unnamed : ∃ s s',
    play Undisturbed [.called 0 (.starting .null), .turn (.call 0),
      .answered (.call 0) (.created (.ok "")), .stored (.call 0)] (polling "") = some s ∧
    s.tracker.lifecycle = .tracking ∧ s.tracker.current = some "" ∧
    s.account.results.map Outcome.Result.started? = [some ""] ∧
    play Visits [.called 0 .entering, .turn (.call 0), .stored (.call 0)]
      (opened (polling "").tracker s.storage.entries) = some s' ∧
    s'.account.results.map Outcome.Result.resumption? = [some .nothing] ∧
    s'.account.asked.length = 0 ∧
    ¬ (opened (polling "").tracker s.storage.entries).Resumes "" := by
  have hplayed : (play Undisturbed [.called 0 (.starting .null), .turn (.call 0),
      .answered (.call 0) (.created (.ok "")), .stored (.call 0)] (polling "")).any fun s =>
      decide (s.tracker.lifecycle = .tracking ∧ s.tracker.current = some "" ∧
        s.account.results.map Outcome.Result.started? = [some ""]) &&
        (play Visits [.called 0 .entering, .turn (.call 0), .stored (.call 0)]
          (opened (polling "").tracker s.storage.entries)).any fun s' =>
            decide (s'.account.results.map Outcome.Result.resumption? = [some .nothing] ∧
              s'.account.asked.length = 0) := by
    decide
  obtain ⟨s, hs, hplayed⟩ := (Option.any_eq_true ..).mp hplayed
  obtain ⟨hstarted, hplayed⟩ := (Bool.and_eq_true ..).mp hplayed
  obtain ⟨htracking, hcurrent, hstarted⟩ := of_decide_eq_true hstarted
  obtain ⟨s', hs', hentered⟩ := (Option.any_eq_true ..).mp hplayed
  obtain ⟨hnothing, hasked⟩ := of_decide_eq_true hentered
  refine ⟨s, s', hs, htracking, hcurrent, hstarted, hs', hnothing, hasked, fun hresumes => ?_⟩
  have hreturned : s'.account.results ≠ [] := by
    intro hnone
    rw [hnone] at hnothing
    cases hnothing
  have hasked' := ((hresumes s' (reaches_of_play hs')).concluded hreturned).1
  rw [hasked'] at hasked
  cases hasked

end Session

end TaskTracking
