import TaskTracking.Proofs.Orderly
import TaskTracking.Proofs.Solitude

/-! # Coherence at rest

  The lifecycle, the current task, the display, the stored id, the selector, the
  push channel and the poll channel each say what is tracked. They change at
  different moments, but when the session rests they agree, unless the page was
  left while the id of its task was being removed (`Session.coherent_iff`).
-/

namespace TaskTracking

namespace Session

/-! ### Runs without overlapping resumes -/

/-- The event is fair, a snapshot that it has applied is due, and a resume that it
    begins or meets is alone. -/
def Apart (s : Session) (e : Event) : Prop := s.Fair e ∧ s.Due e ∧ s.Alone e

instance (s : Session) (e : Event) : Decidable (s.Apart e) := by
  unfold Apart
  infer_instance

theorem alone_core {s : Session} {k : Nat} {d : Call} (h : s.Alone (.called k d)) :
    s.core.Alone d := by
  unfold Core.Alone
  simp only [Alone] at h
  split at h
  · next hresumes =>
    rw [if_pos hresumes]
    intro i d' hd'
    have honly := h i (mem_jobs_of_doing hd')
    rw [show s.doing i = some d' from hd'] at honly
    exact honly
  · next hresumes =>
    rw [if_neg hresumes]
    refine h.imp id fun hnone i d' hd' => ?_
    have hnot := hnone i (mem_jobs_of_doing hd')
    rw [show s.doing i = some d' from hd'] at hnot
    simpa using hnot

/-- **Invariant.** The session is orderly, and its resumes are alone. -/
structure Lone (s : Session) : Prop where
  orderly : s.Orderly
  solo : s.core.Solo

theorem lone_opened {config : Config} {t : Tracker} (h : Tracker.ofConfig config = .ok t)
    (entries : Store.Entries) : (opened t entries).Lone := by
  have hnone : ∀ j d, (opened t entries).core.doing j ≠ some d := by
    intro j d hd
    rw [show (opened t entries).core.doing j = none from doing_opened h j] at hd
    cases hd
  refine ⟨orderly_opened h entries, fun j d hd => absurd hd (hnone j d),
    fun j d hd => absurd hd (hnone j d), fun _ => .inl ?_⟩
  unfold Tracker.ofConfig at h
  split at h
  · cases h
  · cases h
    rfl

/-- What a page in such a run may call. -/
theorem admits_of_apart {s : Session} {k : Nat} {d : Call} (h : s.Apart (.called k d)) :
    s.core.MayCall d :=
  ⟨admits_of_due h.2.1, alone_core h.2.2⟩

namespace Lone

variable {s s' : Session} {e : Event}

theorem moves (h : s.Lone) (hapart : s.Apart e) (hstep : s.step e = some s') :
    ∃ scene, Moves Core.MayCall s scene s' :=
  h.orderly.moves hapart.1 (fun _ _ hcall => admits_of_apart (hcall ▸ hapart)) hstep

theorem step (h : s.Lone) (hapart : s.Apart e) (hstep : s.step e = some s') : s'.Lone := by
  obtain ⟨φ, hφ⟩ := h.orderly.phase
  obtain ⟨scene, hmoves⟩ := h.moves hapart hstep
  exact ⟨h.orderly.step hapart.1 hapart.2.1 hstep (h.solo.heeds _),
    Core.solo_move (fun _ _ hadm => hadm.2) h.solo hφ hmoves.move⟩

end Lone

theorem lone_of_reaches {config : Config} {t : Tracker} (hconfig : Tracker.ofConfig config = .ok t)
    {entries : Store.Entries} {s : Session} (h : Reaches Apart (opened t entries) s) : s.Lone := by
  induction h with
  | refl => exact lone_opened hconfig entries
  | step e _ hapart hstep ih => exact ih.step hapart hstep

/-! ### Jobs at rest -/

section Rest

variable {s : Session} {j : Job} {d : Call}

/-- Nobody waits for the storage. -/
theorem asks_of_atRest (h : s.Orderly) (hrest : s.AtRest) (hd : s.doing j = some d) :
    d.asks = false := by
  obtain ⟨φ, hφ⟩ := h.phase
  have hasked := hφ.asked j
  have hnone : s.pending j = none := by
    unfold pending
    rw [hrest.1]
    rfl
  rw [show s.core.answer j = none from hnone, show s.core.doing j = some d from hd] at hasked
  exact hasked.symm

/-- Nobody holds the lock. -/
theorem locked_of_atRest (h : s.Orderly) (hrest : s.AtRest) : s.tracker.locked = false := by
  obtain ⟨φ, hφ⟩ := h.phase
  cases hlocked : s.tracker.locked with
  | false => rfl
  | true =>
    have hlock := hφ.lock
    rw [show s.core.locked = true from hlocked] at hlock
    obtain ⟨j, d, hd, hholds⟩ := hlock.exists_of_true
    have hasks := Call.asks_of_holds hholds
    rw [asks_of_atRest h hrest hd] at hasks
    cases hasks

/-- No snapshot is being applied: who waits for the lock could take it. -/
theorem not_settling_of_atRest (h : s.Orderly) (hrest : s.AtRest) (stage : Settling) (goal : Goal) :
    s.doing j ≠ some (.settling stage goal) := by
  intro hd
  have hasks := asks_of_atRest h hrest hd
  have hlocked := locked_of_atRest h hrest
  -- At every other stage it waits for the storage, which has nothing to answer.
  cases stage with
  | locking snapshot =>
    have hrun := hrest.2 j
    cases j with
    | worker =>
      change s.tracker.worker.doing = some _ at hd
      cases hw : s.tracker.worker with
      | settling stage' =>
        rw [hw] at hd
        cases hd
        simp [Tracker.run, Tracker.runWorker, hw, Tracker.settleRun, hlocked] at hrun
      | _ =>
        rw [hw] at hd
        cases hd
    | call k =>
      simp [Tracker.run, show s.tracker.calls.lookup k = _ from hd, Tracker.runCall,
        Tracker.settleRun, hlocked] at hrun
    | _ => cases hd
  | _ => cases hasks

/-- The stored id is an earlier page's, nobody's, or that of the tracked task, unless
    the tracking is stranded. -/
theorem phase_of_atRest (h : s.Orderly) (hrest : s.AtRest) {φ : Phase} (hφ : s.core.Sound φ)
    (hstranded : φ.isStranded = false) :
    (∃ x, φ = .dormant x) ∨ φ = .free ∨ ∃ x, φ = .tracking x := by
  cases φ with
  | dormant x => exact .inl ⟨x, rfl⟩
  | free => exact .inr (.inl rfl)
  | tracking x => exact .inr (.inr ⟨x, rfl⟩)
  | saving x =>
    obtain ⟨j, hd⟩ := hφ.saver x rfl
    cases asks_of_atRest h hrest hd
  | closing x =>
    obtain ⟨j, d, hd, hclears⟩ := hφ.closer x rfl
    have hasks := Call.asks_of_holds (Call.holds_of_isClearing hclears)
    rw [asks_of_atRest h hrest hd] at hasks
    cases hasks
  | stranded x => cases hstranded

end Rest

/-! ### Stranded tracking -/

/-- A page that was left has broken off the removal of its task's id, and the tracker
    has gone on tracking since then. -/
inductive Stranded (s₀ : Session) : Session → Prop where
  | left : ∀ {s s'}, Reaches Apart s₀ s → ¬ s.Unbroken .left → s.step .left = some s' →
      Stranded s₀ s'
  | later : ∀ {s s'} e, Stranded s₀ s → s.Apart e → s.step e = some s' →
      s'.tracker.lifecycle = .tracking → Stranded s₀ s'

section Stranded

variable {config : Config} {t : Tracker} {entries : Store.Entries} {s : Session}

/-- Any page may be left. -/
theorem apart_left (s : Session) : s.Apart .left := ⟨trivial, trivial, trivial⟩

/-- Whatever is reached is in a phase, and in a stranded one only as `Stranded` says. -/
theorem phase_of_reaches (hconfig : Tracker.ofConfig config = .ok t)
    (hrun : Reaches Apart (opened t entries) s) :
    ∃ φ, s.core.Sound φ ∧ (φ.isStranded = true → Stranded (opened t entries) s) := by
  induction hrun with
  | refl =>
    obtain ⟨φ, hφ, hstill⟩ := phase_opened hconfig entries
    refine ⟨φ, hφ, fun hstranded => ?_⟩
    rw [hstill] at hstranded
    cases hstranded
  | step e hreach hapart hstep ih =>
    obtain ⟨φ, hφ, hwhen⟩ := ih
    have hlone := lone_of_reaches hconfig hreach
    obtain ⟨ψ, hψ, hiff⟩ :=
      hlone.orderly.leads hapart.1 hapart.2.1 hstep (hlone.solo.heeds _) hφ
    refine ⟨ψ, hψ, fun hstranded => ?_⟩
    rcases hiff.mp hstranded with hbreaks | ⟨hbefore, htracking⟩
    · obtain rfl := eq_left_of_not_unbroken hbreaks
      exact .left hreach hbreaks hstep
    · exact .later e (hwhen hbefore) hapart hstep htracking

/-- A stranded tracking is in a stranded phase. -/
theorem phase_of_stranded (hconfig : Tracker.ofConfig config = .ok t)
    (h : Stranded (opened t entries) s) :
    s.Lone ∧ ∃ φ, s.core.Sound φ ∧ φ.isStranded = true := by
  induction h with
  | left hreach hbreaks hstep =>
    have hlone := lone_of_reaches hconfig hreach
    obtain ⟨φ, hφ⟩ := hlone.orderly.phase
    obtain ⟨ψ, hψ, hiff⟩ := hlone.orderly.leads (apart_left _).1 (apart_left _).2.1 hstep
      (hlone.solo.heeds _) hφ
    exact ⟨hlone.step (apart_left _) hstep, ψ, hψ, hiff.mpr (.inl hbreaks)⟩
  | later e _ hapart hstep htracking ih =>
    obtain ⟨hlone, φ, hφ, hbefore⟩ := ih
    obtain ⟨ψ, hψ, hiff⟩ :=
      hlone.orderly.leads hapart.1 hapart.2.1 hstep (hlone.solo.heeds _) hφ
    exact ⟨hlone.step hapart hstep, ψ, hψ, hiff.mpr (.inr ⟨hbefore, htracking⟩)⟩

/-- What is stranded is tracked without being stored. -/
theorem unstored_of_stranded (hconfig : Tracker.ofConfig config = .ok t)
    (h : Stranded (opened t entries) s) :
    s.tracker.lifecycle = .tracking ∧ s.stored = none := by
  obtain ⟨_, φ, hφ, hstranded⟩ := phase_of_stranded hconfig h
  cases φ with
  | stranded x => exact ⟨(hφ.looks.tracked x rfl).1, hφ.looks.stored⟩
  | _ => cases hstranded

end Stranded

/-! ### Coherence -/

/-- The parts of the tracker agree. -/
structure Coherent (s : Session) : Prop where
  /-- A tracked task is current, stored, subscribed to and shown. -/
  tracking : s.tracker.lifecycle = .tracking → ∃ taskId,
    s.tracker.current = some taskId ∧ s.stored = some taskId ∧
      s.tracker.selector.active = some taskId ∧
      (∀ push ∈ s.tracker.selector.push, push.active = some taskId) ∧
      s.tracker.display.taskId = some taskId ∧ s.tracker.display.visible = true
  /-- Before a task is tracked there is nothing of one. -/
  untracked : s.tracker.lifecycle = .idle ∨ s.tracker.lifecycle = .creating →
    s.tracker.current = none ∧ s.stored = none ∧ s.tracker.selector.active = none ∧
      (∀ push ∈ s.tracker.selector.push, push.active = none) ∧
      s.tracker.selector.poll.isRunning = false ∧ s.tracker.display.visible = false
  /-- What is polled is the current task. -/
  polled : ∀ l ∈ s.tracker.selector.poll.loops, l.isLive = true → s.tracker.current = some l.taskId
  /-- No task is left finished and uncleared. -/
  settled : s.tracker.lifecycle ≠ .done

theorem coherent_of_lone {s : Session} (h : s.Lone) (hrest : s.AtRest) (hentered : s.entered)
    {φ : Phase} (hφ : s.core.Sound φ) (hstranded : φ.isStranded = false) : s.Coherent := by
  have hselector := h.orderly.selector
  rcases phase_of_atRest h.orderly hrest hφ hstranded with ⟨x, rfl⟩ | rfl | ⟨x, rfl⟩
  · -- an earlier page's task is out of the way once this page is entered
    have hfalse := (hφ.looks.dormant x rfl).2.1
    rw [show s.core.entered = true from hentered] at hfalse
    cases hfalse
  · obtain ⟨htracking, hdone, hactive⟩ := hφ.looks.untracked rfl
    have hsubscribed : s.tracker.selector.active = none := hactive
    have hcurrent : s.tracker.current = none := by
      rcases h.solo.vacant htracking with hnone | ⟨j, d, hd, hfinishing⟩
      · exact hnone
      · cases d with
        | settling stage goal => exact absurd hd (not_settling_of_atRest h.orderly hrest stage goal)
        | _ => cases hfinishing
    refine ⟨fun hlife => absurd hlife htracking, fun _ => ⟨hcurrent, hφ.looks.stored, hactive,
      fun push hpush => (hselector.subscribed push hpush).trans hactive,
      hselector.isRunning_eq_false hactive, hφ.looks.visible⟩, fun l hl hlive => ?_, hdone⟩
    rw [hselector.active_of_isLive hl hlive] at hsubscribed
    cases hsubscribed
  · obtain ⟨htracking, hcurrent, hactive, htask⟩ := hφ.looks.tracked x rfl
    have hlife : s.tracker.lifecycle = .tracking := htracking
    refine ⟨fun _ => ⟨x, hcurrent, hφ.looks.stored, hactive,
      fun push hpush => (hselector.subscribed push hpush).trans hactive, htask, hφ.looks.visible⟩,
      fun hidle => ?_, fun l hl hlive => ?_, ?_⟩
    · rw [hlife] at hidle
      rcases hidle with hidle | hidle <;> cases hidle
    · rw [← hselector.active_of_isLive hl hlive]
      exact hcurrent.trans hactive.symm
    · rw [hlife]
      nofun

/-- A tracker that tracks what is not stored is not coherent. -/
theorem not_coherent_of_unstored {s : Session} (htracking : s.tracker.lifecycle = .tracking)
    (hnone : s.stored = none) : ¬ s.Coherent := by
  intro hcoherent
  obtain ⟨taskId, _, hstored, _⟩ := hcoherent.tracking htracking
  rw [hnone] at hstored
  cases hstored

/-- **Coherence.** Whatever the order of events, if no enter or resume overlaps
    another call and what is applied is due, the parts of an entered tracker agree
    when the session rests, just when no leave has stranded what is tracked. -/
theorem coherent_iff {config : Config} {t : Tracker}
    (hconfig : Tracker.ofConfig config = .ok t) {entries : Store.Entries} {s : Session}
    (hrun : Reaches Apart (opened t entries) s) (hrest : s.AtRest) (hentered : s.entered) :
    s.Coherent ↔ ¬ Stranded (opened t entries) s := by
  constructor
  · intro hcoherent hstranded
    obtain ⟨htracking, hnone⟩ := unstored_of_stranded hconfig hstranded
    exact not_coherent_of_unstored htracking hnone hcoherent
  · intro hnot
    obtain ⟨φ, hφ, hwhen⟩ := phase_of_reaches hconfig hrun
    have hstill : φ.isStranded = false := by
      rw [← Bool.not_eq_true]
      exact mt hwhen hnot
    exact coherent_of_lone (lone_of_reaches hconfig hrun) hrest hentered hφ hstill

/-- A page is entered, forgets an old task that cannot be fetched, and starts a new
    one, which is polled. -/
def restarted : List Event :=
  [.called 0 .entering, .turn (.call 0), .stored (.call 0),
    .answered (.call 0) (.status (.error .timeout)), .stored (.call 0),
    .called 1 (.starting .null), .turn (.call 1), .answered (.call 1) (.created (.ok "new")),
    .stored (.call 1), .turn (.loop 0)]

/-- The new task ends, and the page is left while its id is removed. -/
def deserted : List Event :=
  restarted ++
    [.elapsed 2000, .turn (.loop 0), .turn (.request 0),
      .answered (.request 0) (.status (.ok { id := "new", status := .completed })),
      .turn .worker, .stored .worker, .left, .turn (.loop 0)]

/-- The new task is tracked coherently, until the page is left. -/
theorem coherent_restarted_not_deserted :
    (∃ s, play Apart restarted (polling "old") = some s ∧
      s.tracker.lifecycle = .tracking ∧ s.Coherent) ∧
    ∃ s, play Apart deserted (polling "old") = some s ∧
      s.tracker.lifecycle = .tracking ∧ Stranded (polling "old") s := by
  have hconfig : Tracker.ofConfig pollingPage = .ok (polling "old").tracker := rfl
  have hrestarted : (play Apart restarted (polling "old")).any fun s =>
      decide (s.tracker.lifecycle = .tracking ∧ s.AtRest ∧ s.entered ∧ s.stored ≠ none) := by
    decide
  have hdeserted : (play Apart deserted (polling "old")).any fun s =>
      decide (s.tracker.lifecycle = .tracking ∧ s.AtRest ∧ s.entered ∧ s.stored = none) := by
    decide
  obtain ⟨s, hs, hholds⟩ := (Option.any_eq_true ..).mp hrestarted
  obtain ⟨s', hs', hholds'⟩ := (Option.any_eq_true ..).mp hdeserted
  obtain ⟨htracking, hrest, hentered, hsome⟩ := of_decide_eq_true hholds
  obtain ⟨htracking', hrest', hentered', hnone⟩ := of_decide_eq_true hholds'
  refine ⟨⟨s, hs, htracking, ?_⟩, s', hs', htracking', ?_⟩
  · refine (coherent_iff hconfig (reaches_of_play hs) hrest hentered).mpr fun hstranded => ?_
    exact hsome (unstored_of_stranded hconfig hstranded).2
  · by_contra hnot
    have hcoherent := (coherent_iff hconfig (reaches_of_play hs') hrest' hentered').mpr hnot
    exact not_coherent_of_unstored htracking' hnone hcoherent

/-- A page applies the end of an old task while it fetches that, and is told that the
    task is running. -/
def revived : List Event :=
  [.called 0 .entering, .turn (.call 0), .stored (.call 0),
    .called 1 (.applying { id := "old", status := .completed }), .turn (.call 1),
    .stored (.call 1), .stored (.call 1),
    .answered (.call 0) (.status (.ok { id := "old", status := .running })), .stored (.call 0),
    .turn (.loop 0)]

/-- A page applies the end of a new task while its id is being stored. -/
def outrun : List Event :=
  [.called 0 .entering, .turn (.call 0), .stored (.call 0),
    .called 1 (.starting .null), .turn (.call 1), .answered (.call 1) (.created (.ok "new")),
    .called 2 (.applying { id := "new", status := .completed }), .turn (.call 2),
    .stored (.call 2), .stored (.call 2), .stored (.call 1), .turn (.loop 0)]

/-- Both pages track at rest a task that has ended, whose id is not stored. -/
theorem not_coherent_undue :
    (∃ s, play (fun s e => s.Fair e ∧ s.Alone e) revived (polling "old") = some s ∧
      s.AtRest ∧ s.entered ∧ s.stored = none ∧ ¬ s.Coherent) ∧
    ∃ s, play (fun s e => s.Fair e ∧ s.Alone e) outrun (polling "") = some s ∧
      s.AtRest ∧ s.entered ∧ s.stored = none ∧ ¬ s.Coherent := by
  have hrevived : (play (fun s e => s.Fair e ∧ s.Alone e) revived (polling "old")).any fun s =>
      decide (s.AtRest ∧ s.entered ∧ s.stored = none ∧ s.tracker.lifecycle = .tracking) := by
    decide
  have houtrun : (play (fun s e => s.Fair e ∧ s.Alone e) outrun (polling "")).any fun s =>
      decide (s.AtRest ∧ s.entered ∧ s.stored = none ∧ s.tracker.lifecycle = .tracking) := by
    decide
  obtain ⟨s, hs, hholds⟩ := (Option.any_eq_true ..).mp hrevived
  obtain ⟨s', hs', hholds'⟩ := (Option.any_eq_true ..).mp houtrun
  obtain ⟨hrest, hentered, hnone, htracking⟩ := of_decide_eq_true hholds
  obtain ⟨hrest', hentered', hnone', htracking'⟩ := of_decide_eq_true hholds'
  exact ⟨⟨s, hs, hrest, hentered, hnone, not_coherent_of_unstored htracking hnone⟩,
    s', hs', hrest', hentered', hnone', not_coherent_of_unstored htracking' hnone'⟩

end Session

end TaskTracking
