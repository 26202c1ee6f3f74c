import TaskTracking.Proofs.Ownership
import TaskTracking.Proofs.Simulation
import TaskTracking.Proofs.Wiring

/-! # Orderly sessions

  A session is orderly if its storage was always honest, its selector is sound,
  and its core is in one of the phases. A session opens orderly, and every event
  of a fair session in which resumes heed the owner keeps it so.
-/

namespace TaskTracking

namespace Session

/-- **Invariant.** -/
structure Orderly (s : Session) : Prop where
  honest : s.Honest
  selector : s.tracker.selector.Sound
  phase : ∃ φ, s.core.Sound φ

/-- A resume that takes its turn changes whose the task is only while the tracker
    is idle and the stored id is the one that was loaded, or is already removed
    by this resume. -/
def Heeds (s : Session) (e : Event) (s' : Session) : Prop := s.core.Heeds e.job? s'.core

/-! ### The beginning -/

theorem doing_opened {config : Config} {t : Tracker} (h : Tracker.ofConfig config = .ok t)
    (job : Job) : t.doing job = none := by
  unfold Tracker.ofConfig at h
  split at h
  · cases h
  · cases h
    cases job <;> rfl

theorem selector_opened {config : Config} {t : Tracker} (h : Tracker.ofConfig config = .ok t) :
    t.selector.Sound := by
  unfold Tracker.ofConfig at h
  split at h
  · cases h
  · next c _ =>
    cases h
    refine ⟨?_, nofun, nofun⟩
    intro push hpush
    obtain ⟨p, _, rfl⟩ := Option.map_eq_some_iff.mp hpush
    rfl

/-- A session opens with an earlier page's id or with none. -/
theorem phase_opened {config : Config} {t : Tracker} (h : Tracker.ofConfig config = .ok t)
    (entries : Store.Entries) :
    ∃ φ, (opened t entries).core.Sound φ ∧ φ.isStranded = false := by
  have hdoing : (opened t entries).core.doing = fun _ => none := by
    funext job
    exact doing_opened h job
  have hnobody : ∀ P : Call → Bool, Sole P (opened t entries).core.doing false := by
    intro P
    rw [hdoing]
    exact ⟨none, rfl, fun _ => rfl⟩
  have hfields : t.lifecycle = .idle ∧ t.current = none ∧ t.locked = false ∧
      t.selector.active = none ∧ t.inbox.queue = [] ∧ t.display.visible = false := by
    unfold Tracker.ofConfig at h
    split at h
    · cases h
    · cases h
      exact ⟨rfl, rfl, rfl, rfl, rfl, rfl⟩
  obtain ⟨hidle, hcurrent, hlocked, hactive, hqueue, hvisible⟩ := hfields
  -- What the storage holds decides the phase, and nothing else of the core depends on it.
  have hsound : ∀ φ : Phase, (opened t entries).core.stored = φ.stored → φ.task = none →
      (∀ x, φ ≠ .saving x) → (opened t entries).core.Sound φ := by
    intro φ hstored huntracked hsaving
    refine ⟨⟨hstored, fun _ => ?_, fun x hx => ?_, ?_,
      fun x _ => ⟨hqueue, rfl, rfl, fun y hy => ?_⟩, fun x hx => absurd hx (hsaving x)⟩, ?_, ?_,
      fun j => ?_, fun j d hd => ?_, fun x hx => absurd hx (hsaving x), fun x hx => ?_⟩
    · exact ⟨by rw [show (opened t entries).core.lifecycle = _ from hidle]; nofun,
        by rw [show (opened t entries).core.lifecycle = _ from hidle]; nofun, hactive⟩
    · rw [huntracked] at hx
      cases hx
    · rw [show (opened t entries).core.display.visible = false from hvisible]
      cases φ with
      | tracking x => cases huntracked
      | _ => rfl
    · rw [show (opened t entries).core.current = none from hcurrent] at hy
      cases hy
    · rw [show (opened t entries).core.locked = false from hlocked]
      exact hnobody _
    · rw [show (opened t entries).core.lifecycle = .idle from hidle]
      exact hnobody _
    · rw [hdoing]
      rfl
    · rw [hdoing] at hd
      cases hd
    · rw [hx] at huntracked
      cases huntracked
  cases hstored : (opened t entries).core.stored with
  | none => exact ⟨.free, hsound _ hstored rfl (by rintro x ⟨⟩), rfl⟩
  | some x => exact ⟨.dormant x, hsound _ hstored rfl (by rintro y ⟨⟩), rfl⟩

/-- **A session opens orderly**, whatever an earlier page has stored. -/
theorem orderly_opened {config : Config} {t : Tracker} (h : Tracker.ofConfig config = .ok t)
    (entries : Store.Entries) : (opened t entries).Orderly := by
  obtain ⟨φ, hφ, _⟩ := phase_opened h entries
  exact ⟨⟨rfl, by rintro p ⟨⟩⟩, selector_opened h, φ, hφ⟩

/-! ### Steps -/

/-- An event adds its scene to the past ones. -/
theorem scenes_of_step {s s' : Session} {e : Event} (h : s.step e = some s') :
    ∃ calls, s'.scenes = s.scenes ++
      [{ job := e.job?, calls, applied := s.applied? e, aside := e.isAside
         left := e.isLeft }] := by
  cases happens_of_step h with
  | @call _ k d r => exact ⟨_, scenes_after (s.forget (.call k)) e _⟩
  | worker => exact ⟨_, scenes_after (s.forget .worker) e _⟩
  -- What is beside the tracker is not told by a scene.
  | @channel _ b selector inbox outputs _ hbeside =>
    have hscenes := scenes_after b e ({ s.tracker with selector, inbox }, outputs)
    have hpast : b.scenes = s.scenes := by
      unfold scenes
      rw [hbeside.history]
    have happlied : b.applied? e = s.applied? e := by
      cases e with
      | stored job => rw [applied?, applied?, doing, doing, hbeside.tracker]
      | _ => rfl
    rw [hpast, happlied] at hscenes
    exact ⟨_, hscenes⟩
  | @called k d => exact ⟨_, scenes_after s (.called k d) _⟩
  | left => exact ⟨_, scenes_after (s.forget .worker) .left _⟩
  | disturbed faults =>
    exact ⟨_, scenes_after { s with storage := { s.storage with faults } } (.disturbed faults) _⟩

/-- The scene of a move is that of its event. -/
theorem Moves.scene_eq {admits : Core → Call → Prop} {s s' : Session} {e : Event} {scene : Scene}
    (h : Moves admits s scene s') (hstep : s.step e = some s') :
    scene.job = e.job? ∧ scene.applied = s.applied? e ∧ scene.aside = e.isAside ∧
      scene.left = e.isLeft := by
  obtain ⟨calls, hscenes⟩ := scenes_of_step hstep
  have heq := List.append_cancel_left (h.scenes.symm.trans hscenes)
  cases heq
  exact ⟨rfl, rfl, rfl, rfl⟩

/-- What is due does not come between a page and a task that it does not track yet. -/
theorem admits_of_due {s : Session} {k : Nat} {d : Call} (h : s.Due (.called k d)) :
    s.core.Admits d := by
  rintro snapshot rfl
  obtain ⟨hknown, hsaved⟩ : s.MayApply snapshot := h
  refine ⟨hknown, fun j d hd hsaving => hsaved j (mem_jobs_of_doing hd) ?_⟩
  rw [show s.doing j = some d from hd]
  exact hsaving

/-- Only a leave breaks off a removal. -/
theorem eq_left_of_not_unbroken {s : Session} {e : Event} (h : ¬ s.Unbroken e) : e = .left := by
  cases e with
  | left => rfl
  | _ => exact absurd trivial h

/-- It does so where the worker removes an id. -/
theorem breaks_iff {s : Session} {e : Event} {scene : Scene} (hleft : scene.left = e.isLeft) :
    s.core.Breaks scene ↔ ¬ s.Unbroken e := by
  unfold Core.Breaks
  rw [hleft]
  cases e with
  | left =>
    unfold Unbroken
    rw [Bool.not_eq_false]
    exact ⟨fun hbreaks => hbreaks.2, fun hclears => ⟨rfl, hclears⟩⟩
  | _ => exact iff_of_false (by rintro ⟨⟨⟩, _⟩) (not_not_intro trivial)

namespace Orderly

variable {s s' : Session} {e : Event}

/-- What applies a terminal snapshot was prepared when the snapshot was read. -/
theorem prepared (h : s.Orderly) : s.Prepared := by
  obtain ⟨φ, hφ⟩ := h.phase
  intro j stage goal hd
  obtain ⟨_, _, hsettles⟩ := hφ.fits j _ hd
  cases stage with
  | clearing snapshot applied rest => exact ⟨hsettles.2.2.1, hsettles.2.2.2.1⟩
  | _ => trivial

/-- Every event of an orderly session that is fair is a move of its core. -/
theorem moves (h : s.Orderly) {admits : Core → Call → Prop} (hfair : s.Fair e)
    (hadmits : ∀ k d, e = .called k d → admits s.core d) (hstep : s.step e = some s') :
    ∃ scene, Moves admits s scene s' :=
  moves_of_step h.honest h.selector h.prepared hfair hadmits hstep

/-- What was called is due, so every event of a fair session is a move of its core. -/
theorem moves_of_due (h : s.Orderly) (hfair : s.Fair e) (hdue : s.Due e)
    (hstep : s.step e = some s') : ∃ scene, Moves Core.Admits s scene s' :=
  h.moves hfair (fun _ _ hcall => admits_of_due (hcall ▸ hdue)) hstep

/-- The phase after an event. A leave that breaks off a removal has the tracking
    stranded, for as long as it goes on. -/
theorem leads (h : s.Orderly) (hfair : s.Fair e) (hdue : s.Due e) (hstep : s.step e = some s')
    (hheeds : s.Heeds e s') {φ : Phase} (hφ : s.core.Sound φ) :
    ∃ ψ, s'.core.Sound ψ ∧ (ψ.isStranded = true ↔
      ¬ s.Unbroken e ∨ φ.isStranded = true ∧ s'.tracker.lifecycle = .tracking) := by
  obtain ⟨scene, hmoves⟩ := h.moves_of_due hfair hdue hstep
  obtain ⟨hjob, _, _, hleft⟩ := hmoves.scene_eq hstep
  have hheeds' : s.core.Heeds scene.job s'.core := hjob ▸ hheeds
  obtain ⟨ψ, hleads⟩ := Core.sound_move (fun _ _ hadm => hadm) hφ hmoves.move hheeds'
  exact ⟨ψ, hleads.sound, hleads.stranded.trans (or_congr_left (breaks_iff hleft))⟩

/-- **A fair event with a call that is due, after which no resume has changed whose
    the task is, unless it may, keeps a session orderly.** -/
theorem step (h : s.Orderly) (hfair : s.Fair e) (hdue : s.Due e) (hstep : s.step e = some s')
    (hheeds : s.Heeds e s') : s'.Orderly := by
  obtain ⟨φ, hφ⟩ := h.phase
  obtain ⟨scene, hmoves⟩ := h.moves_of_due hfair hdue hstep
  obtain ⟨ψ, hψ, _⟩ := h.leads hfair hdue hstep hheeds hφ
  exact ⟨hmoves.honest, sound_of_step h.selector hstep fun hne =>
    hφ.active_of_shown hmoves.move ((hmoves.scene_eq hstep).1 ▸ hheeds) hne, ψ, hψ⟩

end Orderly

end Session

end TaskTracking
