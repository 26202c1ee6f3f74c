import TaskTracking.Proofs.Persistence

/-! # Places of the state file

  The state file and the file that is written besides it lie in one directory, under
  names that differ, however the path is spelled. So wherever the second file can be
  written, nothing is missing on the way to the first, and neither is ever in the
  other's place.
-/

namespace TaskTracking

namespace Files

/-! ### Contents -/

/-- The bytes of the file at a place. -/
def contents? (f : Files) (place : List String) : Option (List UInt8) :=
  match f.at? place with
  | some (.file bytes) => some bytes
  | _ => none

theorem contents?_of_file {f : Files} {place : List String} {bytes : List UInt8}
    (h : f.at? place = some (.file bytes)) : f.contents? place = some bytes := by
  rw [contents?, h]

theorem contents?_congr {f g : Files} {place : List String} (h : g.at? place = f.at? place) :
    g.contents? place = f.contents? place := by
  rw [contents?, contents?, h]

theorem Keeps.refl (f : Files) : f.Keeps f := fun _ h => h

theorem Keeps.trans {f g k : Files} (h : f.Keeps g) (h' : g.Keeps k) : f.Keeps k :=
  fun place hdir => h' place (h place hdir)

/-! ### Following names -/

section Follow

variable {f : Files} {place goal : List String}

theorem follow_cons {name : String} {rest : List String}
    (h : f.follow place (name :: rest) = .ok goal) :
    f.at? place = some .directory ∧ name.utf8ByteSize ≤ 255 ∧
      f.follow (if name = "." then place else if name = ".." then place.dropLast
        else place ++ [name]) rest = .ok goal := by
  unfold follow at h
  split at h
  · cases h
  · cases h
  · next hdir =>
    split at h
    · cases h
    · next hshort =>
      refine ⟨hdir, Nat.le_of_not_lt hshort, ?_⟩
      by_cases hdot : name = "."
      · rwa [if_pos hdot] at h ⊢
      · by_cases hup : name = ".."
        · rwa [if_neg hdot, if_pos hup] at h ⊢
        · rwa [if_neg hdot, if_neg hup] at h ⊢

theorem follow_cons_of_directory {name : String} {rest : List String}
    (hdir : f.at? place = some .directory) (hshort : name.utf8ByteSize ≤ 255) :
    f.follow place (name :: rest) =
      f.follow (if name = "." then place else if name = ".." then place.dropLast
        else place ++ [name]) rest := by
  rw [follow, hdir]
  dsimp only
  rw [if_neg (Nat.not_lt.mpr hshort)]
  by_cases hdot : name = "."
  · rw [if_pos hdot, if_pos hdot]
  · by_cases hup : name = ".."
    · rw [if_neg hdot, if_pos hup, if_neg hdot, if_pos hup]
    · rw [if_neg hdot, if_neg hup, if_neg hdot, if_neg hup]

/-- To follow names is to follow the first ones, and then the others. -/
theorem follow_append {names rest : List String} :
    f.follow place (names ++ rest) = .ok goal ↔
      ∃ middle, f.follow place names = .ok middle ∧ f.follow middle rest = .ok goal := by
  induction names generalizing place with
  | nil => simp [follow]
  | cons name names ih =>
    constructor
    · intro h
      obtain ⟨hdir, hshort, hrest⟩ := follow_cons h
      rw [follow_cons_of_directory hdir hshort]
      exact ih.mp hrest
    · rintro ⟨middle, hmiddle, hrest⟩
      obtain ⟨hdir, hshort, hnames⟩ := follow_cons hmiddle
      rw [List.cons_append, follow_cons_of_directory hdir hshort]
      exact ih.mpr ⟨middle, hnames, hrest⟩

/-- The way to a directory begins with one. -/
theorem directory_of_follow {names : List String} (h : f.follow place names = .ok goal)
    (hgoal : f.at? goal = some .directory) : f.at? place = some .directory := by
  cases names with
  | nil =>
    have hsame : place = goal := Except.ok.inj h
    rw [hsame, hgoal]
  | cons name rest => exact (follow_cons h).1

/-- No directory is missing on the way to a directory. -/
theorem makeWay_of_follow {names : List String} (h : f.follow place names = .ok goal)
    (hgoal : f.at? goal = some .directory) (n : Nat) :
    f.makeWay place ((names.filter (· ≠ ".")).take n) = .ok f := by
  induction names generalizing place n with
  | nil => rw [List.filter_nil, List.take_nil, makeWay]
  | cons name rest ih =>
    obtain ⟨hdir, hshort, hrest⟩ := follow_cons h
    by_cases hdot : name = "."
    · rw [List.filter_cons_of_neg (by simp [hdot])]
      rw [if_pos hdot] at hrest
      exact ih hrest n
    · rw [List.filter_cons_of_pos (by simp [hdot])]
      rw [if_neg hdot] at hrest
      cases n with
      | zero => rfl
      | succ n =>
        rw [List.take_succ_cons, makeWay, if_neg (Nat.not_lt.mpr hshort), if_neg hdot]
        by_cases hup : name = ".."
        · rw [if_pos hup] at hrest ⊢
          exact ih hrest n
        · rw [if_neg hup] at hrest ⊢
          dsimp only
          rw [directory_of_follow hrest hgoal]
          exact ih hrest n

end Follow

/-- Directories that are made are new, and nothing else changes. -/
theorem makeWay_spec {f g : Files} {place names : List String}
    (h : f.makeWay place names = .ok g) :
    f.Keeps g ∧ ∀ other, g.contents? other = f.contents? other := by
  induction names generalizing f place with
  | nil =>
    obtain rfl := Except.ok.inj h
    exact ⟨.refl _, fun _ => rfl⟩
  | cons name rest ih =>
    -- Of all the branches only the one that makes a directory changes the files.
    unfold makeWay at h
    split at h
    · cases h
    · split at h
      · exact ih h
      · split at h
        · exact ih h
        · dsimp only at h
          split at h
          · next hnone =>
            obtain ⟨hkeeps, hcontents⟩ := ih h
            have hfree : f.at? (place ++ [name]) ≠ some .directory := by simp [hnone]
            refine ⟨Keeps.trans ?_ hkeeps, ?_⟩
            · intro other hdir
              have hne : other ≠ place ++ [name] := by
                rintro rfl
                exact hfree hdir
              rw [at?_set_ne hne, hdir]
            · intro other
              rw [hcontents other]
              by_cases hsame : other = place ++ [name]
              · rw [hsame, contents?, contents?, at?_set_self hfree, hnone]
              · exact contents?_congr (at?_set_ne hsame f _)
          · exact ih h
          · cases h

/-! ### The names of a path -/

theorem splitOn_append {separator : Char} {ending : List Char} (h : separator ∉ ending)
    (chars : List Char) :
    ∃ initial last, chars.splitOn separator = initial ++ [last] ∧
      (chars ++ ending).splitOn separator = initial ++ [last ++ ending] := by
  have hending : ending.splitOn separator = [ending] :=
    List.splitOnP_eq_singleton fun c hc => by
      have hne : c ≠ separator := fun heq => h (heq ▸ hc)
      simpa using hne
  induction chars with
  | nil => exact ⟨[], [], rfl, hending⟩
  | cons c chars ih =>
    obtain ⟨initial, last, hchars, hall⟩ := ih
    unfold List.splitOn at hchars hall ⊢
    rw [List.cons_append, List.splitOnP_cons_eq_if_modifyHead,
      List.splitOnP_cons_eq_if_modifyHead, hchars, hall]
    by_cases hc : c == separator
    · rw [if_pos hc, if_pos hc]
      exact ⟨[] :: initial, last, rfl, rfl⟩
    · rw [if_neg hc, if_neg hc]
      cases initial with
      | nil => exact ⟨[], c :: last, rfl, rfl⟩
      | cons first initial => exact ⟨(c :: first) :: initial, last, rfl, rfl⟩

end Files

namespace Store.StateFile

open Files

theorem origin_besides {path : String} (h : path ≠ "") : origin (besides path) = origin path := by
  unfold origin besides
  rw [String.toList_append]
  cases hchars : path.toList with
  | nil => exact absurd (String.toList_eq_nil_iff.mp hchars) h
  | cons c chars => rfl

/-- The names of the two paths are the same, but for the last one. -/
theorem names_besides (path : String) :
    ∃ initial last, names (besides path) = initial ++ [last ++ ".tmp"] ∧
      (names path = initial ++ [last] ∨ names path = initial ++ ["."] ∨
        names path = [] ∧ initial = []) := by
  obtain ⟨parts, last, hpath, hbesides⟩ :=
    splitOn_append (show '/' ∉ ".tmp".toList by decide) path.toList
  have hsome : String.ofList last ++ ".tmp" ≠ "" := by
    intro hnil
    have hlength := congrArg (fun s => s.toList.length) hnil
    simp at hlength
  refine ⟨(parts.map String.ofList).filter (· ≠ ""), String.ofList last, ?_, ?_⟩
  · unfold names besides
    rw [String.toList_append, hbesides]
    simp [hsome]
  · unfold names
    rw [hpath, List.map_append]
    dsimp only
    rw [List.filter_append]
    by_cases hempty : String.ofList last = ""
    · cases hinitial : (parts.map String.ofList).filter (· ≠ "") with
      | nil => simp [hempty]
      | cons name rest => simp [hempty]
    · simp [hempty]

/-- The names that directories are made for. -/
def way (path : String) : List String := ((names path).filter (· ≠ ".")).dropLast

variable {path : String} {files : Files} {place : List String}

theorem names_tmp_ne (last : String) : last ++ ".tmp" ≠ "." ∧ last ++ ".tmp" ≠ ".." ∧
    last ≠ last ++ ".tmp" := by
  have hlength (other : String) (h : last ++ ".tmp" = other) :
      last.toList.length + 4 = other.toList.length := by
    rw [← h, String.toList_append, List.length_append]
    rfl
  refine ⟨fun h => ?_, fun h => ?_, fun h => ?_⟩
  · have hone := hlength _ h
    simp at hone
  · have htwo := hlength _ h
    simp at htwo
  · have hsame := hlength _ h.symm
    omega

theorem way_eq_take {initial : List String} {last : String}
    (h : names path = initial ++ [last] ∨ names path = initial ++ ["."] ∨
      names path = [] ∧ initial = []) :
    ∃ k, way path = (initial.filter (· ≠ ".")).take k := by
  have hdots (name : String) :
      ∃ k, ((initial ++ [name]).filter (· ≠ ".")).dropLast =
        (initial.filter (· ≠ ".")).take k := by
    rw [List.filter_append]
    by_cases hdot : name = "."
    · refine ⟨(initial.filter (· ≠ ".")).length - 1, ?_⟩
      rw [hdot, List.filter_cons_of_neg (by simp), List.filter_nil, List.append_nil,
        List.dropLast_eq_take]
    · exact ⟨(initial.filter (· ≠ ".")).length, by simp [hdot]⟩
  unfold way
  rcases h with h | h | ⟨h, rfl⟩
  · rw [h]
    exact hdots last
  · rw [h]
    exact hdots "."
  · rw [h]
    exact ⟨0, rfl⟩

/-- Where the second file can be written there is a directory, and the first one is in it. -/
theorem resolve_of_besides (hpath : path ≠ "")
    (h : files.resolve (besides path) = .ok place) :
    (∃ goal, files.resolve path = .ok goal ∧ goal ≠ place) ∧
      ∀ n, files.makeWay (origin path) ((way path).take n) = .ok files := by
  have hbesides : besides path ≠ "" := by
    intro hnil
    exact hpath (String.append_eq_empty_iff.mp hnil).1
  obtain ⟨initial, last, hnames, hcases⟩ := names_besides path
  obtain ⟨hdot, hup, hlast⟩ := names_tmp_ne last
  rw [resolve, if_neg hbesides, hnames, origin_besides hpath, follow_append] at h
  obtain ⟨parent, hparent, hlastly⟩ := h
  obtain ⟨hdir, hshort, hplace⟩ := follow_cons hlastly
  rw [if_neg hdot, if_neg hup] at hplace
  obtain rfl : parent ++ [last ++ ".tmp"] = place := Except.ok.inj hplace
  have habove : parent ≠ parent ++ [last ++ ".tmp"] := by simp
  constructor
  · -- The first path has a last name, ends in a slash, or has no names at all.
    rw [resolve, if_neg hpath]
    rcases hcases with hsame | hsame | ⟨hsame, rfl⟩
    · have hshort' : last.utf8ByteSize ≤ 255 := by
        rw [String.utf8ByteSize_append] at hshort
        omega
      rw [hsame]
      refine ⟨_, follow_append.mpr ⟨parent, hparent, follow_cons_of_directory hdir hshort'⟩, ?_⟩
      by_cases hlastdot : last = "."
      · rw [if_pos hlastdot]
        exact habove
      · rw [if_neg hlastdot]
        by_cases hlastup : last = ".."
        · rw [if_pos hlastup]
          intro heq
          have hlength := congrArg List.length heq
          simp at hlength
        · rw [if_neg hlastup]
          intro heq
          exact hlast (List.singleton_inj.mp (List.append_cancel_left heq))
    · rw [hsame]
      exact ⟨parent, follow_append.mpr
        ⟨parent, hparent, follow_cons_of_directory hdir (by decide)⟩, habove⟩
    · rw [hsame]
      exact ⟨parent, hparent, habove⟩
  · intro n
    obtain ⟨k, hway⟩ := way_eq_take hcases
    rw [hway, List.take_take]
    exact makeWay_of_follow hparent hdir _

end Store.StateFile

end TaskTracking
