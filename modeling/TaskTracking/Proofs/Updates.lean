import Mathlib.Algebra.Order.BigOperators.Group.List
import TaskTracking.Proofs.Sharing

/-! # Updates of a shared state file

  Pages that share a state file get what they would get one after another in the order of
  the lock (`Shared.one_by_one_of_reaches`). The order of the turns is that of
  Proofs.Sharing; what is added here is what the turns leave: a change that was answered
  for stands in the file until the next change under its key, whatever other pages do.
-/

namespace TaskTracking.Store

open Files

namespace StateFile

variable {path key : String} {files f g : Files} {kept : Option String}

/-! ### What an operation leaves -/

theorem read_of_contents? {place : List String} {bytes : List UInt8}
    (hplace : f.resolve path = .ok place) (h : f.contents? place = some bytes) :
    f.read path = .ok bytes := by
  unfold contents? at h
  split at h
  · next found hfile =>
    rw [← Option.some.inj h]
    exact read_eq_ok hplace hfile
  · cases h

theorem Spares.read {bytes : List UInt8} (h : Spares path f g) (hread : f.read path = .ok bytes) :
    g.read path = .ok bytes := by
  obtain ⟨place, hplace, -⟩ := Json.bind_eq_ok_iff.mp hread
  have hplace' := resolve_of_keeps h.keeps hplace
  exact read_of_contents? hplace' ((h.state hplace').trans (contents?_of_read hread hplace))

/-- The entries in the file are those that its bytes tell. -/
theorem load_congr (h : g.read path = f.read path) : load path g = load path f := by
  unfold load
  rw [h]

/-- An operation leaves the state file alone, or it has changed it and has the answer. -/
theorem operate_cases (path : String) (files : Files) (o : Operation) :
    (Spares path files (operate path files o).1 ∧
      ∀ answer, (operate path files o).2 = .finished (.ok answer) →
        ∃ e, load path files = .ok e ∧ answer = (e.answer o.request).2 ∧
          (e.answer o.request).1 = e) ∨
    ∃ e, load path files = .ok e ∧
      (operate path files o).2 = .finished (.ok (e.answer o.request).2) ∧
      (operate path files o).1.read path = .ok (e.answer o.request).1.fileBytes := by
  have hstands := stands_undergoAll path files o
  unfold operate
  dsimp only
  generalize undergoAll path files o = s at hstands ⊢
  have hpart := Spares.part path s.1 s.2 o.extent
  cases hstands with
  | reading | preparing => exact .inl ⟨hpart, nofun⟩
  | writing f e hload hspares | moving f e hload hspares | failed f failure hspares =>
    exact .inl ⟨hspares.trans hpart, nofun⟩
  | unchanged e hload hsame =>
    refine .inl ⟨hpart, ?_⟩
    intro answer hanswer
    exact ⟨e, hload, (Except.ok.inj (Stage.finished.inj hanswer)).symm, hsame⟩
  | changed f e hload hkeeps hread => exact .inr ⟨e, hload, rfl, hpart.read hread⟩

/-- Whatever is answered is the answer of the entries in the file. -/
theorem answer_of_operate {o : Operation} {answer : Answer}
    (h : (operate path files o).2 = .finished (.ok answer)) :
    ∃ e, load path files = .ok e ∧ answer = (e.answer o.request).2 := by
  rcases operate_cases path files o with ⟨-, hanswers⟩ | ⟨e, hload, hstage, -⟩
  · obtain ⟨e, hload, hanswer, -⟩ := hanswers answer h
    exact ⟨e, hload, hanswer⟩
  · exact ⟨e, hload, Except.ok.inj (Stage.finished.inj (h.symm.trans hstage))⟩

/-! ### Changes under a key -/

/-- What a turn has changed under a key, once that is answered for. -/
def change? (key : String) : Request × Stage → Option (Option String)
  | (.put k value, .finished (.ok _)) => if k = key then some (some value) else none
  | (.delete k, .finished (.ok (.removed true))) => if k = key then some none else none
  | _ => none

/-- What the last of the changes under a key has left there. -/
def lastChange? (key : String) (turns : List (Request × Stage)) : Option (Option String) :=
  (turns.filterMap (change? key)).getLast?

theorem lastChange?_concat (key : String) (turns : List (Request × Stage))
    (turn : Request × Stage) :
    lastChange? key (turns ++ [turn]) = (change? key turn).or (lastChange? key turns) := by
  unfold lastChange?
  rw [List.filterMap_append]
  cases hturn : change? key turn with
  | none => simp [hturn]
  | some kept => simp [hturn]

/-- Only an answer tells of a change. -/
theorem finished_of_change? {turn : Request × Stage} (h : change? key turn = some kept) :
    ∃ answer, turn.2 = .finished (.ok answer) := by
  unfold change? at h
  split at h
  · exact ⟨_, rfl⟩
  · exact ⟨_, rfl⟩
  · cases h

/-- A key has after a request what has been changed there, or else what it had. -/
theorem get?_answer (e : Entries) (request : Request) (key : String) :
    (e.answer request).1.get? key =
      (change? key (request, .finished (.ok (e.answer request).2))).getD (e.get? key) := by
  cases request with
  | get k => rfl
  | put k value =>
    show (e.put k value).get? key = (if k = key then some (some value) else none).getD _
    rw [Entries.get?_put_eq]
    by_cases hk : k = key
    · rw [hk, Function.update_self, if_pos rfl]
      rfl
    · rw [Function.update_of_ne (Ne.symm hk), if_neg hk]
      rfl
  | delete k =>
    have hanswer : e.answer (.delete k) = (e.erase k, .removed (e.contains k)) := rfl
    rw [hanswer]
    cases hfound : e.contains k with
    | false =>
      rw [Entries.erase_of_not_contains hfound]
      rfl
    | true =>
      show (e.erase k).get? key = (if k = key then some none else none).getD _
      rw [Entries.get?_erase_eq]
      by_cases hk : k = key
      · rw [hk, Function.update_self, if_pos rfl]
        rfl
      · rw [Function.update_of_ne (Ne.symm hk), if_neg hk]
        rfl

/-- What is removed was there. -/
theorem get?_of_change {e : Entries} {request : Request}
    (h : change? key (request, .finished (.ok (e.answer request).2)) = some none) :
    e.get? key ≠ none := by
  intro hget
  cases request with
  | get k => cases h
  | put k value =>
    have hput : (if k = key then some (some value) else none) = some none := h
    split at hput
    · cases hput
    · cases hput
  | delete k =>
    have hanswer : e.answer (.delete k) = (e.erase k, .removed (e.contains k)) := rfl
    rw [hanswer] at h
    cases hfound : e.contains k with
    | false =>
      rw [hfound] at h
      cases h
    | true =>
      rw [hfound] at h
      have hdelete : (if k = key then some (none : Option String) else none) = some none := h
      split at hdelete
      · next hk =>
        rw [Entries.contains, hk, hget] at hfound
        cases hfound
      · cases hdelete

/-! ### What the state file holds -/

/-- There is a state file, and this is kept in it under the key. -/
def Holds (path : String) (files : Files) (key : String) (kept : Option String) : Prop :=
  ∃ bytes e, files.read path = .ok bytes ∧ load path files = .ok e ∧ e.get? key = kept

theorem Holds.spares (h : Holds path f key kept) (hspares : Spares path f g) :
    Holds path g key kept := by
  obtain ⟨bytes, e, hread, hload, hkept⟩ := h
  have hread' := hspares.read hread
  exact ⟨bytes, e, hread', (load_congr (hread'.trans hread.symm)).trans hload, hkept⟩

/-- Nothing is kept without a file. -/
theorem read_of_get? {e : Entries} (hload : load path files = .ok e) (h : e.get? key ≠ none) :
    ∃ bytes, files.read path = .ok bytes := by
  cases hread : files.read path with
  | ok bytes => exact ⟨bytes, rfl⟩
  | error error =>
    unfold load at hload
    rw [hread] at hload
    dsimp only at hload
    split at hload
    · obtain rfl := Except.ok.inj hload
      exact absurd rfl h
    · cases hload

/-- What an operation has changed is in the file. -/
theorem holds_of_change {o : Operation} (h : change? key (turn path files o).2 = some kept) :
    Holds path (turn path files o).1 key kept := by
  rcases operate_cases path files o with ⟨hspares, hanswers⟩ | ⟨e, hload, hstage, hread⟩
  · -- The change has made no difference, so there was something under the key.
    obtain ⟨answer, hanswer⟩ := finished_of_change? h
    obtain ⟨e, hload, rfl, hsame⟩ := hanswers answer hanswer
    have hchange : change? key (o.request, .finished (.ok (e.answer o.request).2)) = some kept := by
      rw [← h]
      exact congrArg (fun stage => change? key (o.request, stage)) hanswer.symm
    have hkept := get?_answer e o.request key
    rw [hchange, hsame] at hkept
    have hsome : e.get? key ≠ none := by
      intro hnone
      have hremoved : kept = none := hkept.symm.trans hnone
      rw [hremoved] at hchange
      exact get?_of_change hchange hnone
    obtain ⟨bytes, hread⟩ := read_of_get? hload hsome
    exact Holds.spares ⟨bytes, e, hread, hload, hkept⟩ hspares
  · have hsorted := (sorted_of_load hload).answer o.request
    refine ⟨_, _, hread, load_of_read hsorted hread, ?_⟩
    rw [get?_answer, ← hstage]
    exact congrArg (Option.getD · _) h

/-- What an operation has not changed is in the file as before. -/
theorem Holds.turn {o : Operation} (h : Holds path files key kept)
    (hnone : change? key (turn path files o).2 = none) :
    Holds path (turn path files o).1 key kept := by
  rcases operate_cases path files o with ⟨hspares, -⟩ | ⟨e, hload, hstage, hread⟩
  · exact h.spares hspares
  · obtain ⟨-, e', -, hload', hkept⟩ := h
    obtain rfl : e = e' := Except.ok.inj (hload.symm.trans hload')
    have hsorted := (sorted_of_load hload).answer o.request
    refine ⟨_, _, hread, load_of_read hsorted hread, ?_⟩
    rw [get?_answer, ← hstage, ← hkept]
    exact congrArg (Option.getD · _) hnone

/-- Whoever asks about a key is answered by what is kept there. -/
theorem Holds.answer {o : Operation} {answer : Answer} (h : Holds path files o.request.key kept)
    (hanswer : (operate path files o).2 = .finished (.ok answer)) :
    answer = (Plain.answer (fun _ => kept) o.request).2 := by
  obtain ⟨e, hload, rfl⟩ := answer_of_operate hanswer
  obtain ⟨-, e', -, hload', hkept⟩ := h
  obtain rfl : e = e' := Except.ok.inj (hload.symm.trans hload')
  cases hrequest : o.request with
  | get k =>
    rw [hrequest] at hkept
    exact congrArg Answer.value hkept
  | put k value => rfl
  | delete k =>
    rw [hrequest] at hkept
    exact congrArg (fun found => Answer.removed found.isSome) hkept

/-! ### Operations one after another -/

/-- The last change under each key is in the file. -/
theorem holds_of_serve (operations : List Operation)
    (h : lastChange? key (serve (turn path) files operations).2 = some kept) :
    Holds path (serve (turn path) files operations).1 key kept := by
  -- From the last operation, as the changes before it may be overridden.
  induction operations using List.reverseRecOn generalizing kept with
  | nil => cases h
  | append_singleton operations o ih =>
    rw [serve_append] at h ⊢
    dsimp only [serve] at h ⊢
    rw [lastChange?_concat] at h
    cases hchange : change? key (turn path (serve (turn path) files operations).1 o).2 with
    | some kept' =>
      rw [hchange] at h
      obtain rfl : kept' = kept := Option.some.inj h
      exact holds_of_change hchange
    | none =>
      rw [hchange] at h
      exact (ih h).turn hchange

end StateFile

/-- What is served in the middle is served after what comes before. -/
theorem serve_eq_append {σ ρ α : Type} {answer : σ → ρ → σ × α} {s : σ} {requests : List ρ}
    {before after : List α} {found : α}
    (h : (serve answer s requests).2 = before ++ found :: after) :
    ∃ earlier request later, requests = earlier ++ request :: later ∧
      (serve answer s earlier).2 = before ∧
      (answer (serve answer s earlier).1 request).2 = found := by
  induction before generalizing s requests with
  | nil =>
    cases requests with
    | nil => cases h
    | cons request later => exact ⟨[], request, later, rfl, rfl, (List.cons.inj h).1⟩
  | cons first before ih =>
    cases requests with
    | nil => cases h
    | cons request requests =>
      obtain ⟨hfirst, hrest⟩ := List.cons.inj h
      obtain ⟨earlier, middle, later, rfl, hbefore, hfound⟩ := ih hrest
      refine ⟨request :: earlier, middle, later, rfl, ?_, hfound⟩
      rw [serve_cons, hfirst, hbefore]

namespace StateFile

variable {path : String} {files : Files}

/-- An answer tells of the last change under its key. -/
theorem answer_of_serve {operations : List Operation} {before after : List (Request × Stage)}
    {request : Request} {answer : Answer} {kept : Option String}
    (h : (serve (turn path) files operations).2 =
      before ++ (request, .finished (.ok answer)) :: after)
    (hlast : lastChange? request.key before = some kept) :
    answer = (Plain.answer (fun _ => kept) request).2 := by
  obtain ⟨earlier, o, later, -, hbefore, hturn⟩ := serve_eq_append h
  obtain ⟨rfl, hanswer⟩ := Prod.mk.inj hturn
  rw [← hbefore] at hlast
  exact (holds_of_serve earlier hlast).answer hanswer

/-! ### Undisturbed operations -/

/-- An operation that is over stays as it is. -/
theorem foldl_undergo_finished (path : String) (files : Files)
    (result : Except StorageFailure Answer) (incidents : List Incident) :
    incidents.foldl (undergo path) (files, .finished result) = (files, .finished result) := by
  induction incidents with
  | nil => rfl
  | cons incident incidents ih =>
    have hstays : undergo path (files, .finished result) incident = (files, .finished result) := by
      cases incident <;> rfl
    rw [List.foldl_cons, hstays, ih]

/-- An operation that has come to its end with no stage broken off is what the backend does. -/
theorem operate_of_passes {o : Operation} {result : Except StorageFailure Answer}
    (hextent : o.extent = none) (hpasses : ∀ incident ∈ o.incidents, incident = .passes)
    (hover : (operate path files o).2 = .finished result) :
    operate path files o =
      ((answer path files o.request).1, .finished (answer path files o.request).2) := by
  obtain ⟨request, incidents, extent⟩ := o
  obtain rfl : extent = none := hextent
  have hends : operate path files { request, incidents } =
      ((operate path files { request, incidents }).1, .finished result) := by
    rw [← hover]
  have hsame : incidents = List.replicate incidents.length .passes :=
    List.eq_replicate_of_mem hpasses
  -- It is over after these stages and four more, which are four stages and these.
  have hcomm : incidents ++ List.replicate 4 Incident.passes =
      List.replicate 4 Incident.passes ++ incidents := by
    rw [hsame, List.replicate_append_replicate, List.replicate_append_replicate, Nat.add_comm]
  have hmore := operate_append path files request incidents (List.replicate 4 .passes)
  rw [hends, foldl_undergo_finished, ← hends, hcomm, operate_append] at hmore
  rw [← hmore]
  show incidents.foldl (undergo path) (operate path files (undisturbed request)) = _
  rw [operate_undisturbed, foldl_undergo_finished]

/-- Operations that have come to their ends with no stage broken off are what the backend does. -/
theorem serve_of_passes {operations : List Operation}
    (hpasses : ∀ o ∈ operations, o.extent = none ∧ ∀ incident ∈ o.incidents, incident = .passes)
    (hover : ∀ t ∈ (serve (turn path) files operations).2, ∃ result, t.2 = .finished result) :
    (serve (turn path) files operations).1 =
        (serve (answer path) files (operations.map (·.request))).1 ∧
      (serve (turn path) files operations).2.map Prod.snd =
        (serve (answer path) files (operations.map (·.request))).2.map .finished := by
  induction operations generalizing files with
  | nil => exact ⟨rfl, rfl⟩
  | cons o operations ih =>
    rw [serve_cons] at hover
    obtain ⟨hextent, hfirst⟩ := hpasses o List.mem_cons_self
    obtain ⟨result, hresult⟩ := hover _ List.mem_cons_self
    have hoperate := operate_of_passes hextent hfirst hresult
    have hlater : ∀ t ∈ (serve (turn path) (turn path files o).1 operations).2,
        ∃ result, t.2 = .finished result := fun t ht => hover t (List.mem_cons_of_mem _ ht)
    obtain ⟨hleft, hstages⟩ := ih (fun o' ho' => hpasses o' (List.mem_cons_of_mem _ ho')) hlater
    rw [List.map_cons, serve_cons, serve_cons, List.map_cons, List.map_cons, hleft, hstages]
    unfold turn
    rw [hoperate]
    exact ⟨rfl, rfl⟩

end StateFile

open StateFile

namespace Shared

variable {s : Shared} {files : Files} {n : Nat} {call : Call}

/-! ### All pages together -/

/-- No stage of any operation has been broken off. -/
def Undisturbed (s : Shared) : Prop :=
  ∀ n incident, .proceeds n incident ∈ s.history → incident = .passes

/-- What call `n` gets. -/
def result? (s : Shared) (n : Nat) : Option (Except StorageFailure Answer) :=
  s.calls[n]?.bind Call.result?

/-- The requests in the order of the lock. -/
def requests (s : Shared) : List Request := s.order.filterMap s.request?

/-- What a page gets of a turn that is over. -/
def heard? : Stage → Option (Except StorageFailure Answer)
  | .finished result => some (result.map Identity.heard)
  | _ => none

theorem operations_request (s : Shared) : s.operations.map (·.request) = s.requests := by
  unfold operations requests
  rw [List.map_filterMap]
  apply List.filterMap_congr
  intro n _
  unfold operation?
  cases s.request? n <;> rfl

theorem incidents_of_undisturbed (h : s.Undisturbed) (n : Nat) :
    ∀ incident ∈ s.incidents n, incident = .passes := by
  intro incident hmem
  obtain ⟨e, he, hincident⟩ := List.mem_filterMap.mp hmem
  obtain ⟨i, rfl⟩ := incident?_of_ne (by rw [hincident]; exact Option.some_ne_none _)
  have hi : (if n = n then some i else none) = some incident := hincident
  rw [if_pos rfl] at hi
  exact h n incident (Option.some.inj hi ▸ he)

theorem passes_of_undisturbed (h : s.Undisturbed) :
    ∀ o ∈ s.operations, o.extent = none ∧ ∀ incident ∈ o.incidents, incident = .passes := by
  intro o ho
  obtain ⟨n, -, hn⟩ := List.mem_filterMap.mp ho
  obtain ⟨request, -, rfl⟩ := Option.map_eq_some_iff.mp hn
  exact ⟨rfl, incidents_of_undisturbed h n⟩

/-- A call that is over has had its turn, and its page has got what came of that. -/
theorem turn?_of_isOver (hcall : s.calls[n]? = some call) (hover : call.IsOver) :
    ∃ result, s.turn? n = some (call.request, .finished result) ∧
      s.result? n = heard? (.finished result) := by
  obtain ⟨result, hposition⟩ := hover
  refine ⟨result, ?_, ?_⟩
  · unfold turn? Call.stage?
    rw [hcall]
    simp [hposition]
  · unfold result? Call.result?
    rw [hcall]
    simp [hposition, heard?]

section Settled

theorem exists_of_mem_order (h : Ordered files s) (hn : n ∈ s.order) :
    ∃ call, s.calls[n]? = some call := by
  obtain ⟨call, hcall, -⟩ := (h.entered n).mp hn
  exact ⟨call, hcall⟩

theorem finished_of_settled (h : Ordered files s) (hover : ∀ call ∈ s.calls, call.IsOver) :
    ∀ t ∈ s.turns, ∃ result, t.2 = .finished result := by
  intro t ht
  obtain ⟨n, hn, hturn⟩ := List.mem_filterMap.mp ht
  obtain ⟨call, hcall⟩ := exists_of_mem_order h hn
  obtain ⟨result, hturn', -⟩ := turn?_of_isOver hcall (hover call (List.mem_of_getElem? hcall))
  obtain rfl := Option.some.inj (hturn.symm.trans hturn')
  exact ⟨result, rfl⟩

theorem results_of_settled (h : Ordered files s) (hover : ∀ call ∈ s.calls, call.IsOver) :
    s.order.map s.result? = s.turns.map fun t => heard? t.2 := by
  have hall (order : List Nat) (horder : ∀ n ∈ order, n ∈ s.order) :
      order.map s.result? = (order.filterMap s.turn?).map fun t => heard? t.2 := by
    induction order with
    | nil => rfl
    | cons n order ih =>
      obtain ⟨call, hcall⟩ := exists_of_mem_order h (horder n List.mem_cons_self)
      obtain ⟨result, hturn, hresult⟩ :=
        turn?_of_isOver hcall (hover call (List.mem_of_getElem? hcall))
      rw [List.map_cons, List.filterMap_cons_some hturn, List.map_cons, hresult,
        ih fun m hm => horder m (List.mem_cons_of_mem n hm)]
  exact hall s.order fun _ hn => hn

/-- In the end every call has had the lock, once. -/
theorem perm_of_settled (h : Ordered files s) (hover : ∀ call ∈ s.calls, call.IsOver) :
    s.order.Perm (List.range s.calls.length) := by
  rw [List.perm_ext_iff_of_nodup h.nodup List.nodup_range]
  intro n
  rw [List.mem_range]
  constructor
  · intro hn
    obtain ⟨call, hcall⟩ := exists_of_mem_order h hn
    exact (List.getElem?_eq_some_iff.mp hcall).1
  · intro hn
    have hcall := List.getElem?_eq_getElem hn
    obtain ⟨result, hposition⟩ := hover _ (List.getElem_mem hn)
    exact (h.entered n).mpr ⟨_, hcall, by simp [hposition]⟩

end Settled

theorem path_of_reaches {path : String} (h : Reaches (opened path files) s) : s.path = path := by
  induction h with
  | refl => rfl
  | step e _ hstep ih =>
    obtain ⟨t, hnext, rfl⟩ := step_eq_some hstep
    rw [← ih]
    cases e with
    | called store errand =>
      obtain rfl := Option.some.inj hnext
      rfl
    | enters n =>
      obtain ⟨call, -, -, -, rfl⟩ := enters_spec hnext
      rfl
    | proceeds n incident =>
      obtain ⟨call, stage, -, -, -, rfl⟩ := proceeds_spec hnext
      rfl
    | leaves n =>
      obtain ⟨call, result, -, -, rfl⟩ := leaves_spec hnext
      rfl

/-- The pages get what they would get one after another in the order of the lock, and the state
    file is as it would be then. -/
structure OneByOne (path : String) (files : Files) (s : Shared) : Prop where
  stays : s.path = path
  /-- Whoever waits no more has got the lock once. -/
  nodup : s.order.Nodup
  entered : ∀ n, n ∈ s.order ↔ s.HasEntered n
  /-- No two calls are inside at once. -/
  alone : ∀ n m stage stage', s.IsInside n stage → s.IsInside m stage' → n = m
  /-- At every moment the files, and how far each operation has come, are those of the operations
      one after another, whatever has come of their stages. -/
  serial : serve (turn path) files s.operations = (s.files, s.turns)
  /-- In the end every page has got what came of its turn. -/
  settled : (∀ call ∈ s.calls, call.IsOver) →
    s.order.Perm (List.range s.calls.length) ∧
      s.order.map s.result? = s.turns.map fun t => heard? t.2
  /-- If no stage has been broken off, that is what the backend answers to the requests one after
      another, and the files are what it leaves. -/
  undisturbed : (∀ call ∈ s.calls, call.IsOver) → s.Undisturbed →
    s.files = (serve (answer path) files s.requests).1 ∧
      s.order.map s.result? =
        (serve (answer path) files s.requests).2.map fun result =>
          some (result.map Identity.heard)
  /-- What a page has changed is in the file until the next change under its key, however far the
      operations of others are, and whatever has come of them. -/
  kept : ∀ key found, lastChange? key s.turns = some found →
    ∃ e, load path s.files = .ok e ∧ e.get? key = found
  /-- Whoever asks for it later is answered by it. -/
  told : ∀ before request answer after found,
    s.turns = before ++ (request, .finished (.ok answer)) :: after →
      lastChange? request.key before = some found →
        answer = (Plain.answer (fun _ => found) request).2
  /-- As long as a call is not over, one of the calls can go on. -/
  goesOn : (∃ call ∈ s.calls, ¬ call.IsOver) →
    ∃ e, (∀ store errand, e ≠ .called store errand) ∧ (s.step e).isSome
  /-- And no more than seven events come of a call. -/
  bounded : s.history.length ≤ 7 * s.calls.length

/-- However the calls of pages on one state file overlap, they come to what they come to one after
    another, in the order in which they get the lock, and none undoes what another has done. -/
theorem one_by_one_of_reaches {path : String} {files : Files} {s : Shared}
    (h : Reaches (opened path files) s) : OneByOne path files s := by
  have hordered := ordered_of_reaches h
  obtain rfl := path_of_reaches h
  have hserial := hordered.serial
  have hleft : (serve (turn s.path) files s.operations).1 = s.files := by rw [hserial]
  have hturns : (serve (turn s.path) files s.operations).2 = s.turns := by rw [hserial]
  constructor
  · rfl
  · exact hordered.nodup
  · exact hordered.entered
  · intro n m stage stage' hn hm
    exact hordered.alone hn hm
  · exact hserial
  · intro hover
    exact ⟨perm_of_settled hordered hover, results_of_settled hordered hover⟩
  · intro hover hundisturbed
    have hfinished := finished_of_settled hordered hover
    rw [← hturns] at hfinished
    obtain ⟨hfiles, hstages⟩ := serve_of_passes (passes_of_undisturbed hundisturbed) hfinished
    rw [operations_request] at hfiles hstages
    refine ⟨hleft.symm.trans hfiles, ?_⟩
    calc s.order.map s.result?
        = (s.turns.map Prod.snd).map heard? := by
          rw [results_of_settled hordered hover, List.map_map]
          rfl
      _ = ((serve (answer s.path) files s.requests).2.map .finished).map heard? := by
          rw [← hturns, hstages]
      _ = _ := List.map_map
  · intro key found hlast
    rw [← hturns] at hlast
    obtain ⟨-, e, -, hload, hfound⟩ := holds_of_serve s.operations hlast
    rw [hleft] at hload
    exact ⟨e, hload, hfound⟩
  · intro before request answer after found hmiddle hlast
    exact answer_of_serve (hturns.trans hmiddle) hlast
  · rintro ⟨call, hcall, hopen⟩
    exact hordered.goesOn hcall hopen
  · exact length_history_le h

/-- Calls of two pages that overlap. One of the saves fails for want of space. -/
def crossing : List Event :=
  let a : Identity := ⟨"a"⟩
  let b : Identity := ⟨"b"⟩
  [.called a (.save "1"), .called b (.save "2"), .enters 1, .proceeds 1 .passes,
    .called a .load, .proceeds 1 .passes, .called b .clear, .proceeds 1 .passes,
    .proceeds 1 .passes, .leaves 1, .enters 0, .proceeds 0 .passes, .called a (.save "3"),
    .proceeds 0 .passes, .proceeds 0 .passes, .proceeds 0 .passes, .leaves 0,
    .enters 3, .proceeds 3 .passes, .proceeds 3 .passes, .proceeds 3 .passes,
    .proceeds 3 .passes, .leaves 3, .enters 4, .proceeds 4 .passes, .proceeds 4 .passes,
    .proceeds 4 (.fails ⟨28⟩ (some 3)), .leaves 4, .enters 2, .proceeds 2 .passes,
    .leaves 2]

/-- What one page has cleared stays so, and the other has what it has saved last. -/
theorem one_by_one_of_reaches_crossing :
    ∃ s ∈ play crossing (opened "state.json" {}),
      Reaches (opened "state.json" {}) s ∧ OneByOne "state.json" {} s ∧
      s.order = [1, 0, 3, 4, 2] ∧
      s.order.map (fun n => (s.result? n).map (·.mapError StorageFailure.text)) =
        [some (.ok .written), some (.ok .written), some (.ok (.removed true)),
          some (.error "storage I/O error on 'state.json': No space left on device (os error 28)"),
          some (.ok (.value (some "1")))] ∧
      lastChange? "a" s.turns = some (some "1") ∧ lastChange? "b" s.turns = some none ∧
      (load s.path s.files).toOption = some (Entries.mk [("a", "1")]) := by
  have hreached {P : Shared → Prop} (h : ∃ s ∈ play crossing (opened "state.json" {}), P s) :
      ∃ s ∈ play crossing (opened "state.json" {}),
        Reaches (opened "state.json" {}) s ∧ OneByOne "state.json" {} s ∧ P s := by
    obtain ⟨s, hplay, hs⟩ := h
    have hreaches := reaches_of_play (Option.mem_def.mp hplay)
    exact ⟨s, hplay, hreaches, one_by_one_of_reaches hreaches, hs⟩
  -- The rest is computed.
  apply hreached
  decide +kernel

end Shared

end TaskTracking.Store
