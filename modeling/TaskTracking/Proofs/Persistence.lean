import TaskTracking.Proofs.Entries
import TaskTracking.Proofs.Storage

/-! # Entries that outlive their backend

  A backend on a state file knows the file's path and nothing else, so what it
  was told has to be found in the file. `Store.StateFile.load_of_answer` is the
  step: an operation that the file system lets through answers as the entries
  of the file do, and leaves the entries that the request leads to. By it, any
  number of backends on one path together answer as one plain map does
  (`Store.StateFile.serve_eq_plain`).
-/

namespace TaskTracking

/-! ### Files -/

namespace Files

/-- The same places are directories. -/
def SameDirectories (f g : Files) : Prop :=
  ∀ place, f.at? place = some .directory ↔ g.at? place = some .directory

/-- What is a directory stays one. -/
def Keeps (f g : Files) : Prop :=
  ∀ place, f.at? place = some .directory → g.at? place = some .directory

theorem at?_of_top {place : List String} (h : place = [] ∨ place = workingDirectory) (f : Files) :
    f.at? place = some .directory := if_pos h

theorem at?_of_not_top {place : List String} (h : ¬ (place = [] ∨ place = workingDirectory))
    (f : Files) : f.at? place = f.nodes.lookup place := if_neg h

/-- What is no directory is not at the top. -/
theorem not_top {f : Files} {place : List String} (h : f.at? place ≠ some .directory) :
    ¬ (place = [] ∨ place = workingDirectory) := fun htop => h (at?_of_top htop f)

theorem at?_set_self {f : Files} {place : List String} (h : f.at? place ≠ some .directory)
    (node : FileNode) : (f.set place node).at? place = some node := by
  rw [at?_of_not_top (not_top h)]
  show ((place, node) :: _).lookup place = some node
  rw [lookup_cons_eq, if_pos rfl]

theorem at?_set_ne {place other : List String} (h : other ≠ place) (f : Files) (node : FileNode) :
    (f.set place node).at? other = f.at? other := by
  by_cases htop : other = [] ∨ other = workingDirectory
  · rw [at?_of_top htop, at?_of_top htop]
  · rw [at?_of_not_top htop, at?_of_not_top htop]
    show ((place, node) :: f.nodes.filter (·.1 ≠ place)).lookup other = _
    rw [lookup_cons_eq, if_neg h, lookup_filter_ne h]

theorem at?_clear_ne {place other : List String} (h : other ≠ place) (f : Files) :
    (f.clear place).at? other = f.at? other := by
  by_cases htop : other = [] ∨ other = workingDirectory
  · rw [at?_of_top htop, at?_of_top htop]
  · rw [at?_of_not_top htop, at?_of_not_top htop]
    exact lookup_filter_ne h f.nodes

theorem at?_clear_self {f : Files} {place : List String} (h : f.at? place ≠ some .directory) :
    (f.clear place).at? place = none := by
  rw [at?_of_not_top (not_top h)]
  exact lookup_filter_self f.nodes

theorem SameDirectories.keeps {f g : Files} (h : f.SameDirectories g) : f.Keeps g :=
  fun place => (h place).mp

theorem SameDirectories.trans {f g k : Files} (h : f.SameDirectories g)
    (h' : g.SameDirectories k) : f.SameDirectories k := fun place => (h place).trans (h' place)

theorem sameDirectories_set {f : Files} {place : List String}
    (h : f.at? place ≠ some .directory) (bytes : List UInt8) :
    f.SameDirectories (f.set place (.file bytes)) := by
  intro other
  by_cases heq : other = place
  · rw [heq, at?_set_self h]
    simp [h]
  · rw [at?_set_ne heq]

theorem sameDirectories_clear {f : Files} {place : List String}
    (h : f.at? place ≠ some .directory) : f.SameDirectories (f.clear place) := by
  intro other
  by_cases heq : other = place
  · rw [heq, at?_clear_self h]
    simp [h]
  · rw [at?_clear_ne heq]

/-- A path leads where it has led, as long as the directories on its way are there. -/
theorem follow_of_keeps {f g : Files} (h : f.Keeps g) {names place goal : List String}
    (hok : f.follow place names = .ok goal) : g.follow place names = .ok goal := by
  induction names generalizing place with
  | nil => exact hok
  | cons name rest ih =>
    unfold follow at hok ⊢
    cases hnode : f.at? place with
    | none => simp [hnode] at hok
    | some node =>
      cases node with
      | file bytes => simp [hnode] at hok
      | directory =>
        -- A name is looked up in a directory, which is one on both sides.
        rw [hnode] at hok
        rw [h place hnode]
        dsimp only at hok ⊢
        split at hok
        · cases hok
        · next hshort =>
          rw [if_neg hshort]
          split at hok
          · next hdot =>
            rw [if_pos hdot]
            exact ih hok
          · next hdot =>
            rw [if_neg hdot]
            split at hok
            · next hup =>
              rw [if_pos hup]
              exact ih hok
            · next hup =>
              rw [if_neg hup]
              exact ih hok

theorem resolve_of_keeps {f g : Files} (h : f.Keeps g) {path : String} {goal : List String}
    (hok : f.resolve path = .ok goal) : g.resolve path = .ok goal := by
  unfold resolve at hok ⊢
  split at hok
  · cases hok
  · next hsome =>
    rw [if_neg hsome]
    exact follow_of_keeps h hok

theorem write_eq_ok {f g : Files} {path : String} {bytes : List UInt8}
    (h : f.write path bytes = .ok g) :
    ∃ place, f.resolve path = .ok place ∧ f.at? place ≠ some .directory ∧
      g = f.set place (.file bytes) := by
  obtain ⟨place, hplace, hrest⟩ := Json.bind_eq_ok_iff.mp h
  refine ⟨place, hplace, ?_⟩
  split at hrest
  · cases hrest
  · next hnot => exact ⟨fun hdir => hnot hdir, (Except.ok.inj hrest).symm⟩

theorem rename_eq_ok {f g : Files} {source target : String} (h : f.rename source target = .ok g) :
    ∃ start goal bytes, f.resolve source = .ok start ∧ f.resolve target = .ok goal ∧
      f.at? start = some (.file bytes) ∧ f.at? goal ≠ some .directory ∧
      g = (f.clear start).set goal (.file bytes) := by
  obtain ⟨start, hstart, hrest⟩ := Json.bind_eq_ok_iff.mp h
  obtain ⟨goal, hgoal, hrest⟩ := Json.bind_eq_ok_iff.mp hrest
  split at hrest
  · cases hrest
  · next bytes hfile hnot =>
    exact ⟨start, goal, bytes, hstart, hgoal, hfile, fun hdir => hnot hdir,
      (Except.ok.inj hrest).symm⟩
  · cases hrest

theorem read_eq_ok {f : Files} {path : String} {place : List String} {bytes : List UInt8}
    (hplace : f.resolve path = .ok place) (hfile : f.at? place = some (.file bytes)) :
    f.read path = .ok bytes := by
  refine Json.bind_eq_ok_iff.mpr ⟨place, hplace, ?_⟩
  rw [hfile]

/-- A file that was moved over another is read there. -/
theorem read_of_rename {f g : Files} {source target : String} {place : List String}
    {bytes : List UInt8} (hrename : f.rename source target = .ok g)
    (hplace : f.resolve source = .ok place) (hfile : f.at? place = some (.file bytes)) :
    f.SameDirectories g ∧ g.read target = .ok bytes := by
  obtain ⟨start, goal, moved, hstart, hgoal, hmoved, hfree, rfl⟩ := rename_eq_ok hrename
  have hwhere : start = place := Except.ok.inj (hstart.symm.trans hplace)
  subst hwhere
  have hbytes : moved = bytes := FileNode.file.inj (Option.some.inj (hmoved.symm.trans hfile))
  subst hbytes
  -- No stage changes the directories, so the path leads where it led before.
  have hnot : f.at? start ≠ some .directory := by simp [hfile]
  have hcleared := sameDirectories_clear hnot
  have hgoalfree : (f.clear start).at? goal ≠ some .directory :=
    fun hdir => hfree ((hcleared goal).mpr hdir)
  have hall := hcleared.trans (sameDirectories_set hgoalfree moved)
  exact ⟨hall, read_eq_ok (resolve_of_keeps hall.keeps hgoal) (at?_set_self hgoalfree _)⟩

/-- A file that was written besides another and moved over it is read there. -/
theorem read_of_write_of_rename {f g k : Files} {besides path : String} {bytes : List UInt8}
    (hwrite : f.write besides bytes = .ok g) (hrename : g.rename besides path = .ok k) :
    k.read path = .ok bytes := by
  obtain ⟨place, hplace, hnot, rfl⟩ := write_eq_ok hwrite
  have hsame := resolve_of_keeps (sameDirectories_set hnot bytes).keeps hplace
  exact (read_of_rename hrename hsame (at?_set_self hnot _)).2

end Files

namespace Store

/-! ### A plain map -/

/-- What is kept under each key, with nothing said of how it is kept. -/
abbrev Plain : Type := String → Option String

namespace Plain

/-- Nothing is kept. -/
def empty : Plain := fun _ => none

/-- What each request means for a plain map. -/
def answer (map : Plain) : Request → Plain × Answer
  | .get key => (map, .value (map key))
  | .put key value => (Function.update map key (some value), .written)
  | .delete key => (Function.update map key none, .removed (map key).isSome)

end Plain

namespace Entries

theorem get?_put_eq (e : Entries) (key value : String) :
    (e.put key value).get? = Function.update e.get? key (some value) := by
  funext other
  by_cases h : other = key
  · rw [h, get?_put, Function.update_self]
  · rw [Function.update_of_ne h]
    exact lookup_place_ne h value e.toList

theorem get?_erase_eq (e : Entries) (key : String) :
    (e.erase key).get? = Function.update e.get? key none := by
  funext other
  by_cases h : other = key
  · rw [h, get?_erase, Function.update_self]
  · rw [Function.update_of_ne h]
    exact lookup_filter_ne h e.toList

/-- Entries in order answer as the plain map that they stand for. -/
theorem plain_answer (e : Entries) (request : Request) :
    Plain.answer e.get? request = ((e.answer request).1.get?, (e.answer request).2) := by
  cases request with
  | get key => rfl
  | put key value =>
    show (Function.update e.get? key (some value), Answer.written) = _
    rw [← get?_put_eq]
    rfl
  | delete key =>
    show (Function.update e.get? key none, Answer.removed (e.contains key)) = _
    rw [← get?_erase_eq]
    rfl

/-- Nothing changes where there is nothing to remove. -/
theorem erase_of_not_contains {e : Entries} {key : String} (h : e.contains key = false) :
    e.erase key = e := by
  have hnone : e.toList.lookup key = none := by
    have hget : e.get? key = none := by simpa [contains] using h
    exact hget
  rw [List.lookup_eq_none_iff] at hnone
  have hall : e.toList.filter (·.1 ≠ key) = e.toList := by
    rw [List.filter_eq_self]
    intro p hp
    exact decide_eq_true (bne_iff_ne.mp (hnone p hp)).symm
  exact congrArg Entries.mk hall

end Entries

/-! ### One request after another -/

/-- The answers to requests that come one after another, and what is left after them. -/
def serve {σ ρ α : Type} (answer : σ → ρ → σ × α) (s : σ) : List ρ → σ × List α
  | [] => (s, [])
  | request :: rest =>
    let turn := answer s request
    let later := serve answer turn.1 rest
    (later.1, turn.2 :: later.2)

section Serve

variable {σ ρ α : Type} {answer : σ → ρ → σ × α}

theorem serve_cons (s : σ) (request : ρ) (rest : List ρ) :
    serve answer s (request :: rest) =
      ((serve answer (answer s request).1 rest).1,
        (answer s request).2 :: (serve answer (answer s request).1 rest).2) := rfl

theorem serve_append (s : σ) (before after : List ρ) :
    serve answer s (before ++ after) =
      ((serve answer (serve answer s before).1 after).1,
        (serve answer s before).2 ++ (serve answer (serve answer s before).1 after).2) := by
  induction before generalizing s with
  | nil => rfl
  | cons request before ih => rw [List.cons_append, serve_cons, serve_cons, ih, List.cons_append]

/-- Requests in groups are answered as the same requests in one row. -/
theorem serve_serve (answer : σ → ρ → σ × α) (s : σ) (groups : List (List ρ)) :
    (serve (serve answer) s groups).1 = (serve answer s groups.flatten).1 ∧
      (serve (serve answer) s groups).2.flatten = (serve answer s groups.flatten).2 := by
  induction groups generalizing s with
  | nil => exact ⟨rfl, rfl⟩
  | cons group groups ih =>
    obtain ⟨hleft, hanswers⟩ := ih (serve answer s group).1
    rw [List.flatten_cons, serve_append, serve_cons, List.flatten_cons, hanswers]
    exact ⟨hleft, rfl⟩

end Serve

/-! ### The state file -/

namespace StateFile

variable {path : String} {files : Files} {request : Request}

theorem load_of_read {e : Entries} (hsorted : e.Sorted) (h : files.read path = .ok e.fileBytes) :
    load path files = .ok e := by
  have hread := Entries.ofFileBytes_fileBytes hsorted
  unfold load
  rw [h]
  dsimp only
  rw [hread]
  rfl

/-- Whatever is read is in order. -/
theorem sorted_of_load {e : Entries} (h : load path files = .ok e) : e.Sorted := by
  unfold load at h
  split at h
  · next bytes _ =>
    cases hbytes : Entries.ofFileBytes bytes with
    | error fault =>
      rw [hbytes] at h
      cases h
    | ok e' =>
      rw [hbytes] at h
      obtain rfl := Except.ok.inj h
      exact Entries.sorted_of_ofFileBytes hbytes
  · split at h
    · obtain rfl := Except.ok.inj h
      exact Entries.sorted_empty
    · cases h

/-- Whether the file system refused a part of the work. -/
def refused : Except StorageFailure Answer → Bool
  | .error (.io _ _) => true
  | _ => false

/-- An operation from the stage after the reading on. -/
def finish (path : String) (files : Files) (stage : Stage) :
    Files × Except StorageFailure Answer :=
  let run (s : Files × Stage) := step path s.1 s.2
  match run (run (run (files, stage))) with
  | (files, .finished result) => (files, result)
  | (files, _) => (files, .error (.backend "unfinished"))

theorem answer_eq_finish {e : Entries} (h : load path files = .ok e) :
    StateFile.answer path files request = finish path files (StateFile.decide request e) := by
  have hstep : step path files (.reading request) = (files, StateFile.decide request e) := by
    unfold step
    rw [h]
  have hrest : StateFile.answer path files request =
      finish path (step path files (.reading request)).1 (step path files (.reading request)).2 :=
    rfl
  rw [hrest, hstep]

/-- New entries are in the file once they are answered for. -/
theorem finish_preparing (next : Entries) (answered : Answer) :
    refused (finish path files (.preparing next answered)).2 ∨
      (finish path files (.preparing next answered)).2 = .ok answered ∧
        (finish path files (.preparing next answered)).1.read path = .ok next.fileBytes := by
  -- Each of the three stages is refused or leads to the next one.
  unfold finish
  dsimp only [step]
  cases hparents : files.makeParents path with
  | error e => exact .inl rfl
  | ok prepared =>
    dsimp only [proceed, step]
    cases hwrite : prepared.write (besides path) next.fileBytes with
    | error e => exact .inl rfl
    | ok written =>
      dsimp only [proceed, step]
      cases hrename : written.rename (besides path) path with
      | error e => exact .inl rfl
      | ok moved => exact .inr ⟨rfl, Files.read_of_write_of_rename hwrite hrename⟩

/-- A request that changes nothing is finished; what another leads to is written. -/
theorem decide_cases (request : Request) (e : Entries) :
    (StateFile.decide request e = .finished (.ok (e.answer request).2) ∧
        (e.answer request).1 = e) ∨
      StateFile.decide request e = .preparing (e.answer request).1 (e.answer request).2 := by
  cases request with
  | get key => exact .inl ⟨rfl, rfl⟩
  | put key value => exact .inr rfl
  | delete key =>
    have hanswer : e.answer (.delete key) = (e.erase key, .removed (e.contains key)) := rfl
    unfold StateFile.decide
    rw [hanswer]
    cases hfound : e.contains key with
    | false => exact .inl ⟨rfl, Entries.erase_of_not_contains hfound⟩
    | true => exact .inr rfl

/-- What an operation does with the entries of the file, and answers, is what the request
    does with them, unless the file system refuses a part of the work. -/
theorem load_of_answer {e : Entries} (hload : load path files = .ok e) (hsorted : e.Sorted)
    (hserved : refused (StateFile.answer path files request).2 = false) :
    (StateFile.answer path files request).2 = .ok (e.answer request).2 ∧
      load path (StateFile.answer path files request).1 = .ok (e.answer request).1 := by
  rw [answer_eq_finish hload] at hserved ⊢
  rcases decide_cases request e with ⟨hdecide, hsame⟩ | hdecide
  · rw [hdecide, hsame]
    exact ⟨rfl, hload⟩
  · rw [hdecide] at hserved ⊢
    obtain ⟨hanswer, hread⟩ := (finish_preparing _ _).resolve_left (Bool.eq_false_iff.mp hserved)
    exact ⟨hanswer, load_of_read (hsorted.answer request) hread⟩

/-- What one backend does with the file, from its opening on: the path is all that it starts
    with. -/
def opened (path : String) (files : Files) (requests : List Request) :
    Files × List (Except StorageFailure Answer) := serve (StateFile.answer path) files requests

/-- A run of operations answers as the entries of the file do, and leaves what these
    become. -/
theorem load_of_serve {e : Entries} (hload : load path files = .ok e) (hsorted : e.Sorted)
    {requests : List Request}
    (hserved : ∀ result ∈ (serve (StateFile.answer path) files requests).2,
      refused result = false) :
    (serve (StateFile.answer path) files requests).2 =
        (serve Entries.answer e requests).2.map .ok ∧
      load path (serve (StateFile.answer path) files requests).1 =
        .ok (serve Entries.answer e requests).1 := by
  induction requests generalizing files e with
  | nil => exact ⟨rfl, hload⟩
  | cons request requests ih =>
    rw [serve_cons] at hserved
    obtain ⟨hanswer, hnext⟩ := load_of_answer hload hsorted (hserved _ List.mem_cons_self)
    obtain ⟨hanswers, hlast⟩ := ih hnext (hsorted.answer request)
      fun result hmem => hserved result (List.mem_cons_of_mem _ hmem)
    rw [serve_cons, serve_cons, hanswer, hanswers, List.map_cons]
    exact ⟨rfl, hlast⟩

end StateFile

theorem Entries.plain_serve (e : Entries) (requests : List Request) :
    serve Plain.answer e.get? requests =
      ((serve Entries.answer e requests).1.get?, (serve Entries.answer e requests).2) := by
  induction requests generalizing e with
  | nil => rfl
  | cons request requests ih => rw [serve_cons, serve_cons, Entries.plain_answer, ih]

theorem StateFile.load_of_notFound {path : String} {files : Files}
    (h : files.read path = .error .notFound) : load path files = .ok {} := by
  unfold load
  rw [h]
  rfl

/-- Backends that are opened on one path one after another, where there is no file yet,
    answer as one plain map answers the same requests, and the file has what the map has, as
    long as the file system refuses nothing. -/
theorem StateFile.serve_eq_plain {path : String} {files : Files}
    (hfile : files.read path = .error .notFound) (lives : List (List Request))
    (hserved : ∀ results ∈ (serve (opened path) files lives).2, ∀ result ∈ results,
      refused result = false) :
    (serve (opened path) files lives).2.flatten =
        (serve Plain.answer Plain.empty lives.flatten).2.map .ok ∧
      ∃ e, load path (serve (opened path) files lives).1 = .ok e ∧
        e.get? = (serve Plain.answer Plain.empty lives.flatten).1 := by
  -- A backend starts with nothing but the path, so it does not matter where one life ends.
  have hplain := Entries.plain_serve {} lives.flatten
  obtain ⟨hleft, hanswers⟩ := serve_serve (StateFile.answer path) files lives
  have hall : ∀ result ∈ (serve (StateFile.answer path) files lives.flatten).2,
      refused result = false := by
    intro result hmem
    rw [← hanswers] at hmem
    obtain ⟨results, hresults, hresult⟩ := List.mem_flatten.mp hmem
    exact hserved results hresults result hresult
  obtain ⟨hresults, hload⟩ := load_of_serve (load_of_notFound hfile) Entries.sorted_empty hall
  have hempty : (({} : Entries).get?) = Plain.empty := rfl
  rw [hempty] at hplain
  rw [hplain]
  refine ⟨?_, _, ?_, rfl⟩
  · rw [← hresults]
    exact hanswers
  · rw [← hload]
    exact congrArg (load path) hleft

/-- Three backends on a file in a directory that is not there yet. -/
def threeOpenings : List (List Request) :=
  [[.put "" "\"\\\n\u0001", .put "😀" ""], [.get "", .delete "task", .delete "😀"],
    [.get "😀", .get ""]]

theorem StateFile.serve_eq_plain_threeOpenings :
    Files.read {} "state/tasks.json" = .error .notFound ∧
      (∀ results ∈ (serve (opened "state/tasks.json") {} threeOpenings).2, ∀ result ∈ results,
        refused result = false) ∧
      (serve (opened "state/tasks.json") {} threeOpenings).2.flatten =
          [.ok .written, .ok .written, .ok (.value (some "\"\\\n\u0001")), .ok (.removed false),
            .ok (.removed true), .ok (.value none), .ok (.value (some "\"\\\n\u0001"))] ∧
      ∃ e, load "state/tasks.json" (serve (opened "state/tasks.json") {} threeOpenings).1 = .ok e ∧
        e.get? = (serve Plain.answer Plain.empty threeOpenings.flatten).1 := by
  have hfile : Files.read {} "state/tasks.json" = .error .notFound := rfl
  have hserved : ∀ results ∈ (serve (opened "state/tasks.json") {} threeOpenings).2,
      ∀ result ∈ results, refused result = false := by decide +kernel
  obtain ⟨hanswers, hkept⟩ := serve_eq_plain hfile threeOpenings hserved
  exact ⟨hfile, hserved, hanswers, hkept⟩

end Store

end TaskTracking
