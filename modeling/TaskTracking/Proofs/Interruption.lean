import TaskTracking.Proofs.Places

/-! # Interrupted operations on the state file

  An operation can come to an end at each of its stages: the file system reports an
  error, or the program itself is gone. Some of the work of the stage may be done by
  then. `whole_of_operate` says what is left: the state file with its old bytes or
  with the new ones, and whatever else is left does not matter to later operations.
-/

namespace TaskTracking.Store.StateFile

open Files

/-! ### Interruptions -/

/-- What can come of a stage. -/
inductive Incident where
  | passes
  /-- The file system reports an error, with the work done as far as `extent` says. -/
  | fails (error : SystemError) (extent : Option Nat)

/-- What a stage leaves that is broken off: so many of the directories, or so many bytes of the
    second file. Without an extent it has not been begun. -/
def part (path : String) (files : Files) : Stage → Option Nat → Files
  | .preparing _ _, some n => (files.makeWay (origin path) ((way path).take n)).toOption.getD files
  | .writing entries _, some n =>
    (files.write (besides path) (entries.fileBytes.take n)).toOption.getD files
  | _, _ => files

/-- A stage with what comes of it. That there is no file is no failure of the reading. -/
def undergo (path : String) (s : Files × Stage) : Incident → Files × Stage
  | .passes => step path s.1 s.2
  | .fails error extent =>
    match s.2 with
    | .reading _ =>
      if error = .notFound then step path s.1 s.2
      else (s.1, .finished (.error (.io path error.text)))
    | .finished _ => s
    | _ => (part path s.1 s.2 extent, .finished (.error (.io path error.text)))

/-- An operation that comes to its end or is broken off. -/
structure Operation where
  request : Request
  incidents : List Incident
  /-- How far the stage has got in which the program ends. -/
  extent : Option Nat := none

/-- The stages of an operation, as many as there are incidents. -/
def undergoAll (path : String) (files : Files) (o : Operation) : Files × Stage :=
  o.incidents.foldl (undergo path) (files, .reading o.request)

/-- What an operation leaves, and how far it has come. -/
def operate (path : String) (files : Files) (o : Operation) : Files × Stage :=
  let s := undergoAll path files o
  (part path s.1 s.2 o.extent, s.2)

/-- What is left of an operation, whatever has come of its stages. -/
structure Whole (path : String) (files : Files) (o : Operation) (left : Files) (stage : Stage) :
    Prop where
  /-- The path leads where it has led. -/
  stays : ∀ place, files.resolve path = .ok place → left.resolve path = .ok place
  /-- The state file has its old bytes, or those of all the new entries. -/
  either : ∀ place, left.resolve path = .ok place →
    left.contents? place = files.contents? place ∨
      ∃ e, load path files = .ok e ∧
        left.contents? place = some (e.answer o.request).1.fileBytes ∧
        load path left = .ok (e.answer o.request).1
  /-- After an error it has its old bytes. -/
  failed : ∀ failure, stage = .finished (.error failure) → ∀ place,
    left.resolve path = .ok place → left.contents? place = files.contents? place
  /-- After an answer it has the new ones, if the request has changed something. -/
  done : ∀ answer, stage = .finished (.ok answer) → ∃ e, load path files = .ok e ∧
    answer = (e.answer o.request).2 ∧ load path left = .ok (e.answer o.request).1
  /-- A second file that is left makes no difference to what comes after. -/
  leftover : ∀ place bytes, left.resolve (besides path) = .ok place →
    left.at? place = some (.file bytes) → ∀ later : List Operation,
      (serve (operate path) left later).2 = (serve (operate path) (left.clear place) later).2

/-! ### Nothing else is touched -/

variable {path : String} {files : Files}

/-- No file has changed, but for the second one. -/
structure Spares (path : String) (f g : Files) : Prop where
  keeps : f.Keeps g
  contents : ∀ place, g.contents? place = f.contents? place ∨ g.resolve (besides path) = .ok place

namespace Spares

variable {f g k : Files}

theorem refl (path : String) (f : Files) : Spares path f f := ⟨.refl f, fun _ => .inl rfl⟩

theorem trans (h : Spares path f g) (h' : Spares path g k) : Spares path f k := by
  refine ⟨h.keeps.trans h'.keeps, ?_⟩
  intro place
  rcases h'.contents place with hsame' | hbesides'
  · rcases h.contents place with hsame | hbesides
    · exact .inl (hsame'.trans hsame)
    · exact .inr (resolve_of_keeps h'.keeps hbesides)
  · exact .inr hbesides'

theorem makeWay {place names : List String} (h : f.makeWay place names = .ok g) :
    Spares path f g := by
  obtain ⟨hkeeps, hcontents⟩ := makeWay_spec h
  exact ⟨hkeeps, fun other => .inl (hcontents other)⟩

theorem write {bytes : List UInt8} (h : f.write (besides path) bytes = .ok g) :
    Spares path f g := by
  obtain ⟨place, hplace, hfree, rfl⟩ := write_eq_ok h
  have hkeeps := (sameDirectories_set hfree bytes).keeps
  refine ⟨hkeeps, ?_⟩
  intro other
  by_cases hsame : other = place
  · rw [hsame]
    exact .inr (resolve_of_keeps hkeeps hplace)
  · exact .inl (contents?_congr (at?_set_ne hsame f _))

theorem part (path : String) (f : Files) (stage : Stage) (extent : Option Nat) :
    Spares path f (part path f stage extent) := by
  unfold StateFile.part
  split
  · next n =>
    cases hway : f.makeWay (origin path) ((way path).take n) with
    | error e => exact refl path f
    | ok g => exact makeWay hway
  · next entries _ n =>
    cases hwrite : f.write (besides path) (entries.fileBytes.take n) with
    | error e => exact refl path f
    | ok g => exact write hwrite
  · exact refl path f

/-- The state file is never in the place of the second one. -/
theorem state (h : Spares path f g) {place : List String} (hplace : g.resolve path = .ok place) :
    g.contents? place = f.contents? place := by
  rcases h.contents place with hsame | hbesides
  · exact hsame
  · have hpath : path ≠ "" := by
      rintro rfl
      cases hplace
    obtain ⟨⟨goal, hgoal, hne⟩, -⟩ := resolve_of_besides hpath hbesides
    rw [hgoal] at hplace
    exact absurd (Except.ok.inj hplace) hne

end Spares

/-! ### One stage after another -/

/-- **Invariant.** How an operation stands at each of its stages. -/
inductive Stands (path : String) (files : Files) (request : Request) : Files × Stage → Prop
  | reading : Stands path files request (files, .reading request)
  | preparing (e : Entries) (hload : load path files = .ok e) :
      Stands path files request
        (files, .preparing (e.answer request).1 (e.answer request).2)
  | writing (f : Files) (e : Entries) (hload : load path files = .ok e)
      (hspares : Spares path files f) :
      Stands path files request (f, .writing (e.answer request).1 (e.answer request).2)
  /-- The second file is complete. -/
  | moving (f : Files) (e : Entries) (hload : load path files = .ok e)
      (hspares : Spares path files f) (place : List String)
      (hplace : f.resolve (besides path) = .ok place)
      (hfile : f.at? place = some (.file (e.answer request).1.fileBytes)) :
      Stands path files request (f, .moving (e.answer request).2)
  /-- There was nothing to change. -/
  | unchanged (e : Entries) (hload : load path files = .ok e)
      (hsame : (e.answer request).1 = e) :
      Stands path files request (files, .finished (.ok (e.answer request).2))
  | changed (f : Files) (e : Entries) (hload : load path files = .ok e)
      (hkeeps : files.Keeps f) (hread : f.read path = .ok (e.answer request).1.fileBytes) :
      Stands path files request (f, .finished (.ok (e.answer request).2))
  | failed (f : Files) (failure : StorageFailure) (hspares : Spares path files f) :
      Stands path files request (f, .finished (.error failure))

section Stages

variable {request : Request} {f g : Files}

theorem stands_reading (path : String) (files : Files) (request : Request) :
    Stands path files request (step path files (.reading request)) := by
  unfold step
  cases hload : load path files with
  | error failure => exact .failed _ _ (.refl path files)
  | ok e =>
    dsimp only
    rcases decide_cases request e with ⟨hdecide, hsame⟩ | hdecide
    · rw [hdecide]
      exact .unchanged e hload hsame
    · rw [hdecide]
      exact .preparing e hload

theorem stands_preparing {e : Entries} (hload : load path files = .ok e) :
    Stands path files request
      (step path files (.preparing (e.answer request).1 (e.answer request).2)) := by
  unfold step
  cases hparents : files.makeParents path with
  | error error => exact .failed _ _ (.refl path files)
  | ok f => exact .writing f e hload (.makeWay hparents)

theorem stands_writing {e : Entries} (hload : load path files = .ok e)
    (hspares : Spares path files f) :
    Stands path files request
      (step path f (.writing (e.answer request).1 (e.answer request).2)) := by
  show Stands path files request (proceed path f (.moving (e.answer request).2)
    (f.write (besides path) (e.answer request).1.fileBytes))
  cases hwrite : f.write (besides path) (e.answer request).1.fileBytes with
  | error error => exact .failed _ _ hspares
  | ok g =>
    have hall := hspares.trans (.write hwrite)
    obtain ⟨place, hplace, hfree, rfl⟩ := write_eq_ok hwrite
    have hkept := resolve_of_keeps
      (sameDirectories_set hfree (e.answer request).1.fileBytes).keeps hplace
    exact .moving _ e hload hall place hkept (at?_set_self hfree _)

theorem stands_moving {e : Entries} (hload : load path files = .ok e)
    (hspares : Spares path files f) {place : List String}
    (hplace : f.resolve (besides path) = .ok place)
    (hfile : f.at? place = some (.file (e.answer request).1.fileBytes)) :
    Stands path files request (step path f (.moving (e.answer request).2)) := by
  unfold step
  cases hrename : f.rename (besides path) path with
  | error error => exact .failed _ _ hspares
  | ok g =>
    obtain ⟨hsame, hread⟩ := read_of_rename hrename hplace hfile
    exact .changed g e hload (hspares.keeps.trans hsame.keeps) hread

theorem Stands.undergo {s : Files × Stage} (h : Stands path files request s)
    (incident : Incident) : Stands path files request (undergo path s incident) := by
  cases incident with
  | passes =>
    cases h with
    | reading => exact stands_reading path files request
    | preparing e hload => exact stands_preparing hload
    | writing f e hload hspares => exact stands_writing hload hspares
    | moving f e hload hspares place hplace hfile => exact stands_moving hload hspares hplace hfile
    | unchanged e hload hsame => exact .unchanged e hload hsame
    | changed f e hload hkeeps hread => exact .changed f e hload hkeeps hread
    | failed f failure hspares => exact .failed f failure hspares
  | fails error extent =>
    cases h with
    | reading =>
      unfold StateFile.undergo
      dsimp only
      split
      · exact stands_reading path files request
      · exact .failed _ _ (.refl path files)
    | preparing e hload => exact .failed _ _ (.part path files _ extent)
    | writing f e hload hspares => exact .failed _ _ (hspares.trans (.part path f _ extent))
    | moving f e hload hspares => exact .failed _ _ (hspares.trans (.part path f _ extent))
    | unchanged e hload hsame => exact .unchanged e hload hsame
    | changed f e hload hkeeps hread => exact .changed f e hload hkeeps hread
    | failed f failure hspares => exact .failed f failure hspares

/-- Until the second file has taken the place of the first, no other file has changed. -/
theorem Stands.spares_or_changed {s : Files × Stage} (h : Stands path files request s) :
    Spares path files s.1 ∨ ∃ e, load path files = .ok e ∧ files.Keeps s.1 ∧
      s.1.read path = .ok (e.answer request).1.fileBytes ∧
      s.2 = .finished (.ok (e.answer request).2) := by
  cases h with
  | reading | preparing | unchanged => exact .inl (.refl path files)
  | writing f e hload hspares | moving f e hload hspares | failed f failure hspares =>
    exact .inl hspares
  | changed f e hload hkeeps hread => exact .inr ⟨e, hload, hkeeps, hread, rfl⟩

theorem stands_undergoAll (path : String) (files : Files) (o : Operation) :
    Stands path files o.request (undergoAll path files o) := by
  have hall (s : Files × Stage) (h : Stands path files o.request s) :
      Stands path files o.request (o.incidents.foldl (undergo path) s) := by
    induction o.incidents generalizing s with
    | nil => exact h
    | cons incident incidents ih => exact ih _ (h.undergo incident)
  exact hall _ .reading

end Stages

/-! ### What is left of the second file -/

/-- Two trees that differ in the place of the second file at most. -/
structure Alike (path : String) (place : List String) (f g : Files) : Prop where
  besides : f.resolve (besides path) = .ok place
  same : ∀ other, other ≠ place → g.at? other = f.at? other
  left : f.at? place ≠ some .directory
  right : g.at? place ≠ some .directory

namespace Alike

variable {place : List String} {f g : Files}

theorem sameDirectories (h : Alike path place f g) : f.SameDirectories g := by
  intro other
  by_cases heq : other = place
  · rw [heq]
    exact ⟨fun hdir => absurd hdir h.left, fun hdir => absurd hdir h.right⟩
  · rw [h.same other heq]

theorem symm (h : Alike path place f g) : Alike path place g f where
  besides := resolve_of_keeps h.sameDirectories.keeps h.besides
  same other hne := (h.same other hne).symm
  left := h.right
  right := h.left

/-- The path leads to one place in both, or to none. -/
theorem resolve (h : Alike path place f g) :
    (f.resolve path = .error .notFound ∧ g.resolve path = .error .notFound) ∨
      ∃ goal, f.resolve path = .ok goal ∧ g.resolve path = .ok goal ∧ goal ≠ place := by
  by_cases hpath : path = ""
  · subst hpath
    exact .inl ⟨rfl, rfl⟩
  · obtain ⟨⟨goal, hgoal, hne⟩, -⟩ := resolve_of_besides hpath h.besides
    exact .inr ⟨goal, hgoal, resolve_of_keeps h.sameDirectories.keeps hgoal, hne⟩

theorem load (h : Alike path place f g) : StateFile.load path g = StateFile.load path f := by
  have hread : g.read path = f.read path := by
    unfold Files.read
    rcases h.resolve with ⟨hf, hg⟩ | ⟨goal, hf, hg, hne⟩
    · rw [hf, hg]
      rfl
    · rw [hf, hg]
      dsimp only [bind, Except.bind]
      rw [h.same goal hne]
  unfold StateFile.load
  rw [hread]

/-- No directory is missing. -/
theorem makeWay (h : Alike path place f g) (n : Nat) :
    f.makeWay (origin path) ((way path).take n) = .ok f := by
  by_cases hpath : path = ""
  · subst hpath
    have hway : way "" = [] := by decide
    rw [hway, List.take_nil, Files.makeWay]
  · exact (resolve_of_besides hpath h.besides).2 n

theorem makeParents (h : Alike path place f g) : f.makeParents path = .ok f := by
  have hall := h.makeWay (way path).length
  rwa [List.take_length] at hall

theorem write (h : Alike path place f g) (bytes : List UInt8) :
    f.write (StateFile.besides path) bytes = .ok (f.set place (.file bytes)) := by
  unfold Files.write
  rw [h.besides]
  dsimp only [bind, Except.bind]
  split
  · next hdir => exact absurd hdir h.left
  · rfl

/-- What is written makes them the same. -/
theorem set (h : Alike path place f g) (bytes : List UInt8) :
    Alike path place (f.set place (.file bytes)) (g.set place (.file bytes)) ∧
      (g.set place (.file bytes)).at? place = (f.set place (.file bytes)).at? place := by
  have hleft := at?_set_self h.left (.file bytes)
  have hright := at?_set_self h.right (.file bytes)
  refine ⟨⟨?_, ?_, ?_, ?_⟩, hright.trans hleft.symm⟩
  · exact resolve_of_keeps (sameDirectories_set h.left bytes).keeps h.besides
  · intro other hne
    rw [at?_set_ne hne, at?_set_ne hne, h.same other hne]
  · rw [hleft]
    simp
  · rw [hright]
    simp

theorem moved (h : Alike path place f g) {goal : List String} (bytes : List UInt8)
    (hne : goal ≠ place) (hfree : f.at? goal ≠ some .directory) :
    Alike path place ((f.clear place).set goal (.file bytes))
      ((g.clear place).set goal (.file bytes)) := by
  have hleft : (f.clear place).at? goal ≠ some .directory := by rwa [at?_clear_ne hne]
  have hright : (g.clear place).at? goal ≠ some .directory := by
    rwa [at?_clear_ne hne, h.same goal hne]
  have hkeeps := (sameDirectories_clear h.left).trans (sameDirectories_set hleft bytes)
  refine ⟨resolve_of_keeps hkeeps.keeps h.besides, ?_, ?_, ?_⟩
  · intro other hother
    by_cases hgoal : other = goal
    · rw [hgoal, at?_set_self hleft, at?_set_self hright]
    · rw [at?_set_ne hgoal, at?_set_ne hgoal, at?_clear_ne hother, at?_clear_ne hother,
        h.same other hother]
  · rw [at?_set_ne hne.symm, at?_clear_self h.left]
    simp
  · rw [at?_set_ne hne.symm, at?_clear_self h.right]
    simp

/-- If the second files are the same, moving them comes to the same. -/
theorem rename (h : Alike path place f g) (hsame : g.at? place = f.at? place) :
    (∃ e, f.rename (StateFile.besides path) path = .error e ∧
      g.rename (StateFile.besides path) path = .error e) ∨
    ∃ f' g', f.rename (StateFile.besides path) path = .ok f' ∧
      g.rename (StateFile.besides path) path = .ok g' ∧ Alike path place f' g' := by
  unfold Files.rename
  rw [h.besides, h.symm.besides]
  rcases h.resolve with ⟨hf, hg⟩ | ⟨goal, hf, hg, hne⟩
  · rw [hf, hg]
    exact .inl ⟨_, rfl, rfl⟩
  · rw [hf, hg]
    dsimp only [bind, Except.bind]
    rw [hsame, h.same goal hne]
    cases hfile : f.at? place with
    | none => exact .inl ⟨_, rfl, rfl⟩
    | some node =>
      cases node with
      | directory => exact absurd hfile h.left
      | file bytes =>
        cases hgoal : f.at? goal with
        | none => exact .inr ⟨_, _, rfl, rfl, h.moved bytes hne (by simp [hgoal])⟩
        | some node' =>
          cases node' with
          | directory => exact .inl ⟨_, rfl, rfl⟩
          | file old => exact .inr ⟨_, _, rfl, rfl, h.moved bytes hne (by simp [hgoal])⟩

theorem part (h : Alike path place f g) (stage : Stage) (extent : Option Nat) :
    Alike path place (part path f stage extent) (part path g stage extent) := by
  unfold StateFile.part
  split
  · next n =>
    rw [h.makeWay n, h.symm.makeWay n]
    exact h
  · next entries _ n =>
    rw [h.write, h.symm.write]
    exact (h.set _).1
  · exact h

end Alike

/-- Two operations that stand at the same stage, on trees alike. A second file that was written is
    the same. -/
structure Matches (path : String) (place : List String) (s t : Files × Stage) : Prop where
  stage : t.2 = s.2
  alike : Alike path place s.1 t.1
  moving : ∀ answer, s.2 = .moving answer → t.1.at? place = s.1.at? place

section Matches

variable {place : List String} {f g : Files}

theorem matches_reading (h : Alike path place f g) (request : Request) :
    Matches path place (f, .reading request) (g, .reading request) := ⟨rfl, h, nofun⟩

theorem matches_finished (h : Alike path place f g) (result : Except StorageFailure Answer) :
    Matches path place (f, .finished result) (g, .finished result) := ⟨rfl, h, nofun⟩

theorem matches_step (h : Alike path place f g) {stage : Stage}
    (hmoving : ∀ answer, stage = .moving answer → g.at? place = f.at? place) :
    Matches path place (step path f stage) (step path g stage) := by
  -- Only the last stage reads the second file, which by then is the same on both sides.
  cases stage with
  | reading request =>
    unfold step
    rw [h.load]
    cases hload : load path f with
    | error failure => exact matches_finished h _
    | ok e =>
      dsimp only
      rcases decide_cases request e with ⟨hdecide, -⟩ | hdecide
      · rw [hdecide]
        exact matches_finished h _
      · rw [hdecide]
        exact ⟨rfl, h, nofun⟩
  | preparing entries answer =>
    unfold step
    rw [h.makeParents, h.symm.makeParents]
    exact ⟨rfl, h, nofun⟩
  | writing entries answer =>
    dsimp only [step]
    rw [h.write, h.symm.write]
    obtain ⟨halike, hsame⟩ := h.set entries.fileBytes
    exact ⟨rfl, halike, fun _ _ => hsame⟩
  | moving answer =>
    unfold step
    rcases h.rename (hmoving answer rfl) with ⟨e, hf, hg⟩ | ⟨f', g', hf, hg, halike⟩
    · rw [hf, hg]
      exact matches_finished h _
    · rw [hf, hg]
      exact matches_finished halike _
  | finished result => exact matches_finished h result

theorem Matches.undergo {s t : Files × Stage} (h : Matches path place s t) (incident : Incident) :
    Matches path place (undergo path s incident) (undergo path t incident) := by
  obtain ⟨f, stage⟩ := s
  obtain ⟨g, stage'⟩ := t
  obtain ⟨hstage, halike, hmoving⟩ := h
  obtain rfl : stage' = stage := hstage
  cases incident with
  | passes => exact matches_step halike hmoving
  | fails error extent =>
    have hpart := halike.part stage' extent
    cases stage' with
    | reading request =>
      unfold StateFile.undergo
      dsimp only
      split
      · exact matches_step halike nofun
      · exact matches_finished halike _
    | preparing entries answer | writing entries answer | moving answer =>
      exact matches_finished hpart _
    | finished result => exact matches_finished halike result

theorem matches_undergoAll (h : Alike path place f g) (o : Operation) :
    Matches path place (undergoAll path f o) (undergoAll path g o) := by
  have hall (s t : Files × Stage) (hst : Matches path place s t) :
      Matches path place (o.incidents.foldl (undergo path) s)
        (o.incidents.foldl (undergo path) t) := by
    induction o.incidents generalizing s t with
    | nil => exact hst
    | cons incident incidents ih => exact ih _ _ (hst.undergo incident)
  exact hall _ _ (matches_reading h o.request)

theorem operate_alike (h : Alike path place f g) (o : Operation) :
    (operate path g o).2 = (operate path f o).2 ∧
      Alike path place (operate path f o).1 (operate path g o).1 := by
  obtain ⟨hstage, halike, -⟩ := matches_undergoAll h o
  refine ⟨hstage, ?_⟩
  show Alike path place (part path _ _ _) (part path _ (undergoAll path g o).2 _)
  rw [hstage]
  exact halike.part _ _

theorem serve_alike (h : Alike path place f g) (later : List Operation) :
    (serve (operate path) g later).2 = (serve (operate path) f later).2 := by
  induction later generalizing f g with
  | nil => rfl
  | cons o later ih =>
    obtain ⟨hstage, halike⟩ := operate_alike h o
    rw [serve_cons, serve_cons, hstage, ih halike]

end Matches

/-! ### Undisturbed operations -/

/-- An operation with nothing that comes between. -/
def undisturbed (request : Request) : Operation where
  request := request
  incidents := List.replicate 4 .passes

/-- So many stages are left at most. -/
def stagesLeft : Stage → Nat
  | .reading _ => 4
  | .preparing _ _ => 3
  | .writing _ _ => 2
  | .moving _ => 1
  | .finished _ => 0

theorem stagesLeft_proceed (path : String) (files : Files) (next : Stage)
    (result : Except SystemError Files) :
    stagesLeft (proceed path files next result).2 ≤ stagesLeft next := by
  cases result with
  | error e => exact Nat.zero_le _
  | ok f => exact Nat.le_refl _

theorem stagesLeft_step (path : String) (files : Files) (stage : Stage) :
    stagesLeft (step path files stage).2 ≤ stagesLeft stage - 1 := by
  cases stage with
  | reading request =>
    unfold step
    cases load path files with
    | error failure => exact Nat.zero_le _
    | ok e =>
      dsimp only
      rcases decide_cases request e with ⟨hdecide, -⟩ | hdecide
      · rw [hdecide]
        exact Nat.zero_le _
      · rw [hdecide]
        exact Nat.le_refl _
  | preparing entries answer => exact stagesLeft_proceed ..
  | writing entries answer => exact stagesLeft_proceed ..
  | moving answer => exact stagesLeft_proceed ..
  | finished result => exact Nat.le_refl _

/-- Four stages are enough. -/
theorem stagesLeft_undisturbed (path : String) (files : Files) (request : Request) :
    stagesLeft (undergoAll path files (undisturbed request)).2 = 0 := by
  let run (s : Files × Stage) := step path s.1 s.2
  have hrun (s : Files × Stage) : stagesLeft (run s).2 ≤ stagesLeft s.2 - 1 :=
    stagesLeft_step path s.1 s.2
  have h₁ := hrun (files, .reading request)
  have h₂ := hrun (run (files, .reading request))
  have h₃ := hrun (run (run (files, .reading request)))
  have h₄ := hrun (run (run (run (files, .reading request))))
  have hfirst : stagesLeft (files, Stage.reading request).2 = 4 := rfl
  show stagesLeft (run (run (run (run (files, .reading request))))).2 = 0
  omega

theorem answer_of_finished {request : Request} {f : Files} {result : Except StorageFailure Answer}
    (h : undergoAll path files (undisturbed request) = (f, .finished result)) :
    answer path files request = (f, result) := by
  unfold answer
  dsimp only
  split
  · next g found hall =>
    obtain ⟨rfl, hstage⟩ := Prod.mk.inj (h.symm.trans hall)
    rw [Stage.finished.inj hstage]
  · next g stage hnot hall =>
    obtain ⟨rfl, hstage⟩ := Prod.mk.inj (h.symm.trans hall)
    exact absurd hstage.symm (hnot result)

/-- An operation that nothing comes between is what the backend does. -/
theorem operate_undisturbed (path : String) (files : Files) (request : Request) :
    operate path files (undisturbed request) =
      ((answer path files request).1, .finished (answer path files request).2) := by
  have hnone := stagesLeft_undisturbed path files request
  unfold operate
  dsimp only
  rcases hall : undergoAll path files (undisturbed request) with ⟨f, stage⟩
  rw [hall] at hnone
  cases stage with
  | finished result =>
    rw [answer_of_finished hall]
    rfl
  | reading | preparing | writing | moving => cases hnone

/-! ### Every operation -/

theorem contents?_of_read {f : Files} {place : List String} {bytes : List UInt8}
    (hread : f.read path = .ok bytes) (hplace : f.resolve path = .ok place) :
    f.contents? place = some bytes := by
  obtain ⟨goal, hgoal, hrest⟩ := Json.bind_eq_ok_iff.mp hread
  rw [hgoal] at hplace
  obtain rfl := Except.ok.inj hplace
  split at hrest
  · cases hrest
  · cases hrest
  · next found hfile => rw [contents?_of_file hfile, Except.ok.inj hrest]

/-- A tree and the tree without the second file. -/
theorem alike_clear {f : Files} {place : List String} {bytes : List UInt8}
    (hplace : f.resolve (besides path) = .ok place) (hfile : f.at? place = some (.file bytes)) :
    Alike path place f (f.clear place) := by
  have hfree : f.at? place ≠ some .directory := by simp [hfile]
  refine ⟨hplace, fun other hne => at?_clear_ne hne f, hfree, ?_⟩
  rw [at?_clear_self hfree]
  simp

/-- An operation is all or nothing, whatever has come of its stages, and whatever was in the
    files. -/
theorem whole_of_operate (path : String) (files : Files) (o : Operation) :
    Whole path files o (operate path files o).1 (operate path files o).2 := by
  have hstands := stands_undergoAll path files o
  unfold operate
  dsimp only
  generalize undergoAll path files o = s at hstands ⊢
  have hpart := Spares.part path s.1 s.2 o.extent
  constructor
  · intro place hplace
    rcases hstands.spares_or_changed with hspares | ⟨e, -, hkeeps, -⟩
    · exact resolve_of_keeps (hspares.trans hpart).keeps hplace
    · exact resolve_of_keeps (hkeeps.trans hpart.keeps) hplace
  · intro place hplace
    rcases hstands.spares_or_changed with hspares | ⟨e, hload, hkeeps, hread, hstage⟩
    · exact .inl ((hspares.trans hpart).state hplace)
    · rw [hstage] at hplace ⊢
      exact .inr ⟨e, hload, contents?_of_read hread hplace,
        load_of_read ((sorted_of_load hload).answer o.request) hread⟩
  · intro failure hstage place hplace
    cases hstands with
    | failed f failure' hspares => exact (hspares.trans hpart).state hplace
    | reading | preparing | writing | moving | unchanged | changed => cases hstage
  · intro answer hstage
    cases hstands with
    | unchanged e hload hsame =>
      refine ⟨e, hload, (Except.ok.inj (Stage.finished.inj hstage)).symm, ?_⟩
      rw [hsame]
      exact hload
    | changed f e hload hkeeps hread =>
      exact ⟨e, hload, (Except.ok.inj (Stage.finished.inj hstage)).symm,
        load_of_read ((sorted_of_load hload).answer o.request) hread⟩
    | reading | preparing | writing | moving | failed => cases hstage
  · intro place bytes hplace hfile later
    exact (serve_alike (alike_clear hplace hfile) later).symm

/-- A state file with one entry. -/
def oneEntry : Files :=
  ⟨[(["work", "state.json"], .file (Entries.mk [("a", "1")]).fileBytes)]⟩

/-- The program ends after three bytes of the second file. -/
def torn : Operation where
  request := .put "b" "2"
  incidents := [.passes, .passes]
  extent := some 3

/-- The state file has its entry then, and the next operation takes both files as they are. -/
theorem whole_of_operate_torn :
    Whole "state.json" oneEntry torn (operate "state.json" oneEntry torn).1
        (operate "state.json" oneEntry torn).2 ∧
      (operate "state.json" oneEntry torn).1.contents? ["work", "state.json"] =
        some (Entries.mk [("a", "1")]).fileBytes ∧
      ((operate "state.json" oneEntry torn).1.contents? ["work", "state.json.tmp"]).map
        List.length = some 3 ∧
      load "state.json" (answer "state.json" (operate "state.json" oneEntry torn).1
        (.put "b" "2")).1 = .ok (Entries.mk [("a", "1"), ("b", "2")]) := by
  refine ⟨whole_of_operate _ _ _, ?_, ?_, ?_⟩
  · rfl
  · rfl
  · rfl

end TaskTracking.Store.StateFile
