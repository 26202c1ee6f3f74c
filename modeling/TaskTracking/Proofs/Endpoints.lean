import Mathlib.Data.List.TakeDrop
import Mathlib.Data.List.TakeWhile
import TaskTracking.Proofs.Numerals
import TaskTracking.Proofs.Segments
import TaskTracking.Rest

/-! # Where requests go

  Every operation has an endpoint, at the segments `Operation.arrival` below
  the base (`Rest.endpoint_eq`). For a task these are `tasks`, the task's
  encoded id and, to cancel it, `cancel`; but the ids `.` and `..` are special
  as segments, so they are not what is arrived at.

  As a path is determined by its text (`Url.Path.segments_of_text`), two
  requests go to one place only if they arrive at the same segments. From this
  it is decided for all pairs of ids which of them share a place, and for each
  id whether it leads out of the tasks (`Rest.endpoints_one_segment_iff`).
-/

namespace TaskTracking

open Json (bind_eq_ok_iff)

namespace Url

/-! ### The path of a URL that was read -/

theorem scheme_of_file {text : List Char} {u : Url} (h : file text = .ok u) :
    u.scheme = "file" := by
  unfold file at h
  dsimp only at h
  split at h
  · split at h
    · obtain ⟨⟨host, rest⟩, -, h⟩ := bind_eq_ok_iff.mp h
      cases h
      rfl
    · cases h
      rfl
  · cases h
    rfl

theorem of_withAuthority {scheme : String} {text : List Char} {u : Url}
    (h : withAuthority scheme text = .ok u) :
    u.scheme = scheme ∧ (isSpecial scheme = true →
      ∃ path, u.path = .segments (resolve false [] (writtenSegments true path))) := by
  unfold withAuthority at h
  obtain ⟨⟨authority, rest⟩, -, h⟩ := bind_eq_ok_iff.mp h
  cases h
  refine ⟨rfl, ?_⟩
  intro hspecial
  simp only [hspecial, Bool.not_true, Bool.and_false, Bool.false_eq_true, if_false]
  exact ⟨_, rfl⟩

theorem scheme_of_other {scheme : String} {text : List Char} {u : Url}
    (h : other scheme text = .ok u) : u.scheme = scheme := by
  unfold other at h
  split at h
  · exact (of_withAuthority h).1
  · cases h
    rfl

theorem path_of_parse {text : String} {u : Url} (h : parse text = .ok u)
    (hspecial : isSpecial u.scheme = true) (hfile : u.scheme ≠ "file") :
    ∃ path, u.path = .segments (resolve false [] (writtenSegments true path)) := by
  unfold parse at h
  split at h
  · cases h
  · next scheme rest hsplit =>
    split at h
    · exact absurd (scheme_of_file h) hfile
    · split at h
      · next hscheme => exact (of_withAuthority h).2 hscheme
      · next hscheme =>
        rw [scheme_of_other h] at hspecial
        exact absurd hspecial hscheme

theorem isSlash_of_mem_written {path part : List Char} (hpart : part ∈ writtenSegments true path)
    {c : Char} (hc : c ∈ part) : isSlash true c = false := by
  unfold writtenSegments at hpart
  split at hpart
  · exact not_separator_of_mem_splitAll hpart hc
  · rw [List.mem_singleton.mp hpart] at hc
    exact absurd hc List.not_mem_nil

/-- No segment of a path holds a slash. -/
def Divided (segments : List String) : Prop := ∀ s ∈ segments, '/' ∉ s.toList

theorem Divided.cons {s : String} {segments : List String} (h : Divided segments)
    (hs : '/' ∉ s.toList) : Divided (s :: segments) :=
  List.forall_mem_cons.mpr ⟨hs, h⟩

theorem divided_resolve (path : List Char) :
    Divided (resolve false [] (writtenSegments true path)) := by
  intro s hs hslash
  obtain ⟨walked, hwalked, rfl⟩ := List.mem_map.mp hs
  rw [String.toList_ofList] at hslash
  rcases mem_walk hwalked with h | h | h
  · exact absurd h List.not_mem_nil
  · obtain ⟨part, hpart, rfl⟩ := List.mem_map.mp h
    rcases Percent.mem_encode hslash with ⟨hmem, -, -⟩ | hmark | hplain
    · exact absurd (isSlash_of_mem_written hpart hmem) (by decide)
    · exact absurd hmark (by decide)
    · exact absurd hplain (by decide)
  · rw [h] at hslash
    exact absurd hslash List.not_mem_nil

/-! ### The text of a path -/

/-- The text, with a slash appended if it does not end in one. -/
def slashed (text : String) : String :=
  if text.toList.getLast? = some '/' then text else text ++ "/"

namespace Path

theorem text_append (l l' : List String) :
    (segments (l ++ l')).text = (segments l).text ++ (segments l').text := by
  show String.join ((l ++ l').map ("/" ++ ·)) = _
  rw [List.map_append, String.join_append]
  rfl

theorem text_cons (s : String) (l : List String) :
    (segments (s :: l)).text = "/" ++ s ++ (segments l).text := by
  show String.join (("/" ++ s) :: l.map ("/" ++ ·)) = _
  rw [String.join_cons]
  rfl

/-- Dividing the text gives the segments, behind the empty part before the first slash. -/
theorem splitAll_text {l : List String} (h : Divided l) :
    splitAll (· = '/') (segments l).text.toList = [] :: l.map String.toList := by
  induction l with
  | nil => rfl
  | cons s l ih =>
    obtain ⟨hs, hl⟩ := List.forall_mem_cons.mp h
    have hplain : ∀ c ∈ s.toList, decide (c = '/') = false := by
      intro c hc
      exact decide_eq_false fun heq => hs (heq ▸ hc)
    have hrest : splitAll (· = '/') (s.toList ++ (segments l).text.toList) =
        s.toList :: l.map String.toList := by
      cases l with
      | nil =>
        show splitAll _ (s.toList ++ []) = _
        rw [List.append_nil]
        exact splitAll_of_plain hplain
      | cons s' l =>
        have hl := ih hl
        rw [text_cons, String.append_assoc, String.toList_append] at hl ⊢
        change splitAll _ ('/' :: _) = _ at hl
        rw [splitAll, if_pos (decide_eq_true rfl)] at hl
        show splitAll _ (s.toList ++ '/' :: _) = _
        rw [splitAll_append hplain (decide_eq_true rfl), (List.cons.inj hl).2]
    rw [text_cons, String.append_assoc, String.toList_append, String.toList_append]
    show splitAll _ ('/' :: (s.toList ++ _)) = _
    rw [splitAll, if_pos (decide_eq_true rfl), hrest]
    rfl

/-- A path is determined by its text. -/
theorem segments_of_text {l l' : List String} (hl : Divided l) (hl' : Divided l')
    (h : (segments l).text = (segments l').text) : l = l' := by
  have hparts := splitAll_text hl
  rw [h, splitAll_text hl'] at hparts
  exact List.map_inj_right (fun _ _ => String.toList_inj.mp) |>.mp (List.cons.inj hparts).2.symm

/-- The directory of a divided path: its text ends in the slash that is appended if need be. -/
theorem asDirectory_eq {l : List String} (h : Divided l) :
    ∃ directory, Divided directory ∧ (segments l).asDirectory = .segments (directory ++ [""]) ∧
      (segments (directory ++ [""])).text = slashed (segments l).text := by
  have hone : (segments [""]).text = "/" := rfl
  unfold asDirectory isDirectory slashed
  rcases List.eq_nil_or_concat l with rfl | ⟨before, last, rfl⟩
  · exact ⟨[], h, rfl, rfl⟩
  · rw [List.concat_eq_append] at h ⊢
    have hbefore : Divided before := fun s hs => h s (List.mem_append_left _ hs)
    simp only [List.getLast?_append, List.getLast?_singleton, Option.some_or, Option.some.injEq,
      decide_eq_true_eq]
    by_cases hempty : last = ""
    · subst hempty
      refine ⟨before, hbefore, if_pos rfl, (if_pos ?_).symm⟩
      rw [text_append, hone, String.toList_append]
      exact List.getLast?_concat
    · refine ⟨before ++ [last], h, if_neg hempty, ?_⟩
      rw [text_append, hone, if_neg]
      -- The text ends in the last character of the last segment, which is not empty.
      intro hslash
      have hlast : '/' ∉ last.toList := h last (List.mem_append_right _ List.mem_cons_self)
      have htext : (segments [last]).text = "/" ++ last :=
        (text_cons last []).trans String.append_empty
      rcases List.eq_nil_or_concat last.toList with hnil | ⟨front, c, hconcat⟩
      · exact hempty (String.toList_eq_nil_iff.mp hnil)
      · rw [text_append, htext, String.toList_append, String.toList_append, hconcat,
          List.concat_eq_append, ← List.append_assoc, ← List.append_assoc, List.getLast?_concat,
          Option.some.injEq] at hslash
        rw [hconcat, hslash, List.concat_eq_append] at hlast
        exact hlast (List.mem_append_right _ List.mem_cons_self)

end Path

end Url

namespace Rest

open Url

/-! ### Where operations arrive -/

namespace Operation

/-- The segments of the operation's path below the base, as they are written. -/
def steps : Operation → List String
  | .create _ => ["tasks"]
  | .status taskId => ["tasks", segment taskId]
  | .cancel taskId => ["tasks", segment taskId, "cancel"]

/-- What follows a special segment; at the end of a path it leaves an empty one. -/
def closed (rest : List String) : List String := if rest.isEmpty then [""] else rest

/-- Where the steps along `tasks`, a task's id and what follows lead to. The id `..` takes
    the step to `tasks` back and the id `.` is none. -/
def taskArrival (taskId : String) (rest : List String) : List String :=
  if taskId = ".." then closed rest
  else if taskId = "." then "tasks" :: closed rest
  else "tasks" :: segment taskId :: rest

/-- The segments below the base at which the operation arrives. -/
def arrival : Operation → List String
  | .create _ => ["tasks"]
  | .status taskId => taskArrival taskId []
  | .cancel taskId => taskArrival taskId ["cancel"]

/-! ### The steps -/

/-- Nothing in a segment ends it. -/
theorem not_ends_of_mem_segment {taskId : String} {c : Char}
    (h : c ∈ (segment taskId).toList) : endsAuthority true c = false := by
  unfold segment at h
  rw [String.toList_ofList] at h
  have hmarks : ∀ m ∈ ['/', '\\', '?', '#'], Percent.segment m = true :=
    List.all_eq_true.mp (by decide)
  cases hends : endsAuthority true c with
  | false => rfl
  | true =>
    have hc : c ∈ ['/', '\\', '?', '#'] := by
      simpa [endsAuthority, isSlash, or_assoc] using hends
    rcases Percent.mem_encode_segment h with rfl | hplain
    · exact absurd hc (by decide)
    · rw [hmarks c hc] at hplain
      cases hplain

theorem not_slash_of_mem_segment {taskId : String} {c : Char}
    (h : c ∈ (segment taskId).toList) : isSlash true c = false := by
  have hends := not_ends_of_mem_segment h
  unfold endsAuthority at hends
  simp only [Bool.or_eq_false_iff] at hends
  exact hends.1.1

theorem mem_reference {op : Operation} {c : Char} (h : c ∈ op.reference.toList) :
    c = '/' ∨ c = '%' ∨ Percent.segment c = false := by
  have hfixed : ∀ c ∈ "tasks/".toList ++ "/cancel".toList,
      c = '/' ∨ c = '%' ∨ Percent.segment c = false := by
    simp [Percent.segment]
  have hsegment : ∀ taskId : String, ∀ c ∈ (segment taskId).toList,
      c = '/' ∨ c = '%' ∨ Percent.segment c = false := by
    intro taskId c hc
    rw [segment, String.toList_ofList] at hc
    exact .inr (Percent.mem_encode_segment hc)
  cases op with
  | create params =>
    have hsub : "tasks".toList ⊆ "tasks/".toList ++ "/cancel".toList := by decide
    exact hfixed c (hsub h)
  | status taskId =>
    rw [reference, String.toList_append] at h
    rcases List.mem_append.mp h with h | h
    · exact hfixed c (List.mem_append_left _ h)
    · exact hsegment taskId c h
  | cancel taskId =>
    rw [reference, String.toList_append, String.toList_append] at h
    rcases List.mem_append.mp h with h | h
    · rcases List.mem_append.mp h with h | h
      · exact hfixed c (List.mem_append_left _ h)
      · exact hsegment taskId c h
    · exact hfixed c (List.mem_append_right _ h)

/-- **What is joined to the base is a relative path**: whatever the id, the reference has no
    scheme of its own, no query and no fragment. -/
theorem reference_relative (op : Operation) (special : Bool) :
    splitScheme op.reference.toList = none ∧
      splitTail special op.reference.toList = (op.reference.toList, none, none) := by
  have hother : ∀ m ∈ [':', '?', '#'], m ∉ op.reference.toList := by
    intro m hm hmem
    have hmark : m ≠ '/' ∧ m ≠ '%' ∧ Percent.segment m = true := by
      simp only [List.mem_cons, List.not_mem_nil, or_false] at hm
      rcases hm with rfl | rfl | rfl <;> decide
    rcases mem_reference hmem with h | h | h
    · exact hmark.1 h
    · exact hmark.2.1 h
    · rw [hmark.2.2] at h
      cases h
  have hall : ∀ c ∈ op.reference.toList, (!(decide (c = '?') || decide (c = '#'))) = true := by
    intro c hc
    have hquery : c ≠ '?' := fun heq => hother '?' (by simp) (heq ▸ hc)
    have hfragment : c ≠ '#' := fun heq => hother '#' (by simp) (heq ▸ hc)
    simp [hquery, hfragment]
  constructor
  · unfold splitScheme
    split
    · next c name rest hspan =>
      -- A scheme would end in a colon of the reference.
      rw [List.span_eq_takeWhile_dropWhile, Prod.mk.injEq] at hspan
      have hcolon : ':' ∈ op.reference.toList := by
        apply (List.dropWhile_sublist isSchemeChar).subset
        rw [hspan.2]
        exact List.mem_cons_self
      exact absurd hcolon (hother ':' (by simp))
    · rfl
  · unfold splitTail
    dsimp only
    rw [List.takeWhile_eq_self_iff.mpr hall, List.dropWhile_eq_nil_iff.mpr hall]

/-- A reference is divided into its steps: a task's id is one of them, whatever it holds. -/
theorem splitAll_reference (op : Operation) :
    splitAll (isSlash true) op.reference.toList = op.steps.map String.toList := by
  have htasks : ∀ c ∈ "tasks".toList, isSlash true c = false := by simp [isSlash]
  have hcancel : ∀ c ∈ "cancel".toList, isSlash true c = false := by simp [isSlash]
  have hslash : isSlash true '/' = true := by decide
  have hbefore : "tasks/".toList = "tasks".toList ++ ['/'] := by decide
  have hafter : "/cancel".toList = '/' :: "cancel".toList := by decide
  cases op with
  | create params => exact splitAll_of_plain htasks
  | status taskId =>
    rw [reference, String.toList_append, hbefore, List.append_assoc, List.singleton_append,
      splitAll_append htasks hslash, splitAll_of_plain fun _ => not_slash_of_mem_segment]
    rfl
  | cancel taskId =>
    rw [reference, String.toList_append, String.toList_append, hbefore, hafter, List.append_assoc,
      List.append_assoc, List.singleton_append, splitAll_append htasks hslash,
      splitAll_append (fun _ => not_slash_of_mem_segment) hslash, splitAll_of_plain hcancel]
    rfl

theorem isAbove_segment {taskId : String} :
    isAbove (segment taskId).toList = true ↔ taskId = ".." := by
  rw [segment, String.toList_ofList, Percent.isAbove_encode, ← String.toList_inj]
  rfl

theorem isHere_segment {taskId : String} :
    isHere (segment taskId).toList = true ↔ taskId = "." := by
  rw [segment, String.toList_ofList, Percent.isHere_encode, ← String.toList_inj]
  rfl

/-- Nothing of a step is encoded again. -/
theorem encode_of_mem_steps {op : Operation} {s : String} (h : s ∈ op.steps) :
    Percent.encode Percent.path s.toList = s.toList := by
  have htasks : Percent.encode Percent.path "tasks".toList = "tasks".toList := by decide
  have hcancel : Percent.encode Percent.path "cancel".toList = "cancel".toList := by decide
  have hall : s = "tasks" ∨ (∃ taskId, s = segment taskId) ∨ s = "cancel" := by
    cases op with
    | create params => exact .inl (List.mem_singleton.mp h)
    | status taskId =>
      simp only [steps, List.mem_cons, List.not_mem_nil, or_false] at h
      exact h.imp_right fun h => .inl ⟨taskId, h⟩
    | cancel taskId =>
      simp only [steps, List.mem_cons, List.not_mem_nil, or_false] at h
      exact h.imp_right fun h => h.imp_left fun h => ⟨taskId, h⟩
  rcases hall with rfl | ⟨taskId, rfl⟩ | rfl
  · exact htasks
  · rw [segment, String.toList_ofList]
    exact Percent.encode_path_segment _
  · exact hcancel

/-! ### Following the steps -/

/-- After `tasks` and a task's id, the walk goes on along what is left. -/
theorem walk_task (passed : List (List Char)) (taskId : String) {rest : List String}
    (hrest : ∀ s ∈ rest, Named s.toList) :
    walk false passed ("tasks".toList :: (segment taskId).toList :: rest.map String.toList) =
      passed.reverse ++ (taskArrival taskId rest).map String.toList := by
  have htasks : Named "tasks".toList := by decide
  have hall : ∀ passed, walk false passed (rest.map String.toList) =
      passed.reverse ++ rest.map String.toList := by
    refine walk_of_all_named ?_
    intro s hs
    obtain ⟨r, hr, rfl⟩ := List.mem_map.mp hs
    exact hrest r hr
  have hclosed : ∀ passed : List (List Char),
      walk false (if (rest.map String.toList).isEmpty then [] :: passed else passed)
        (rest.map String.toList) =
      passed.reverse ++ (closed rest).map String.toList := by
    intro passed
    cases rest with
    | nil => exact List.reverse_cons
    | cons s rest => exact hall passed
  -- The segment is special just if the id is, as no dot of an id is encoded.
  rw [walk_of_named htasks]
  unfold taskArrival
  by_cases habove : taskId = ".."
  · rw [walk_of_above (isAbove_segment.mpr habove), if_pos habove, hclosed]
  · have habove' : isAbove (segment taskId).toList = false := by
      rw [← Bool.not_eq_true, isAbove_segment]
      exact habove
    rw [if_neg habove]
    by_cases hhere : taskId = "."
    · rw [walk_of_here habove' (isHere_segment.mpr hhere), if_pos hhere, hclosed,
        List.reverse_cons, List.append_assoc]
      rfl
    · have hhere' : isHere (segment taskId).toList = false := by
        rw [← Bool.not_eq_true, isHere_segment]
        exact hhere
      rw [walk_of_named ⟨habove', hhere'⟩, if_neg hhere, hall, List.reverse_cons,
        List.reverse_cons, List.append_assoc, List.append_assoc]
      rfl

/-- Followed from a directory, a reference arrives at its segments below it. -/
theorem resolve_reference (directory : List String) (op : Operation) :
    resolve false directory (splitAll (isSlash true) op.reference.toList) =
      directory ++ op.arrival := by
  have htasks : Named "tasks".toList := by decide
  have hcancel : Named "cancel".toList := by decide
  rw [splitAll_reference]
  refine resolve_of_walk (fun _ => encode_of_mem_steps) ?_
  rw [List.map_append]
  generalize hpassed : (directory.map String.toList).reverse = passed
  have hdirectory : directory.map String.toList = passed.reverse := by
    rw [← hpassed, List.reverse_reverse]
  rw [hdirectory]
  cases op with
  | create params =>
    exact walk_of_all_named (List.forall_mem_singleton.mpr htasks) passed
  | status taskId =>
    exact walk_task passed taskId (List.forall_mem_nil _)
  | cancel taskId =>
    exact walk_task passed taskId (List.forall_mem_singleton.mpr hcancel)

/-! ### Arrivals -/

theorem taskArrival_of_plain {taskId : String} (h : taskId ≠ "." ∧ taskId ≠ "..")
    (rest : List String) : taskArrival taskId rest = "tasks" :: segment taskId :: rest := by
  unfold taskArrival
  rw [if_neg h.2, if_neg h.1]

theorem taskArrival_cases (taskId : String) (rest : List String) :
    (taskId = ".." ∧ taskArrival taskId rest = closed rest) ∨
    (taskId = "." ∧ taskArrival taskId rest = "tasks" :: closed rest) ∨
    ((taskId ≠ "." ∧ taskId ≠ "..") ∧
      taskArrival taskId rest = "tasks" :: segment taskId :: rest) := by
  by_cases habove : taskId = ".."
  · exact .inl ⟨habove, if_pos habove⟩
  · by_cases hhere : taskId = "."
    · refine .inr (.inl ⟨hhere, ?_⟩)
      unfold taskArrival
      rw [if_neg habove, if_pos hhere]
    · exact .inr (.inr ⟨⟨hhere, habove⟩, taskArrival_of_plain ⟨hhere, habove⟩ rest⟩)

theorem divided_taskArrival (taskId : String) {rest : List String} (hrest : Divided rest) :
    Divided (taskArrival taskId rest) := by
  have hclosed : Divided (closed rest) := by
    unfold closed
    split
    · exact List.forall_mem_singleton.mpr (by decide)
    · exact hrest
  have hsegment : '/' ∉ (segment taskId).toList := by
    intro hslash
    exact absurd (not_slash_of_mem_segment hslash) (by decide)
  unfold taskArrival
  split
  · exact hclosed
  · split
    · exact hclosed.cons (by decide)
    · exact (hrest.cons hsegment).cons (by decide)

theorem divided_arrival (op : Operation) : Divided op.arrival := by
  have hcancel : Divided ["cancel"] := List.forall_mem_singleton.mpr (by decide)
  cases op with
  | create params => exact List.forall_mem_singleton.mpr (by decide)
  | status taskId => exact divided_taskArrival taskId (List.forall_mem_nil _)
  | cancel taskId => exact divided_taskArrival taskId hcancel

theorem segment_inj {taskId taskId' : String} :
    segment taskId = segment taskId' ↔ taskId = taskId' := by
  constructor
  · intro h
    exact String.toList_inj.mp (Percent.encode_injective (by decide) (String.ofList_injective h))
  · intro h
    rw [h]

theorem segment_empty : segment "" = "" := by decide

theorem segment_cancel : segment "cancel" = "cancel" := by decide

theorem segment_eq_empty_iff {taskId : String} : segment taskId = "" ↔ taskId = "" := by
  have hinj : segment taskId = segment "" ↔ taskId = "" := segment_inj
  rwa [segment_empty] at hinj

theorem segment_eq_cancel_iff {taskId : String} :
    segment taskId = "cancel" ↔ taskId = "cancel" := by
  have hinj : segment taskId = segment "cancel" ↔ taskId = "cancel" := segment_inj
  rwa [segment_cancel] at hinj

/-! ### Shared arrivals

  An id of each kind arrives at a level of its own, the id `..` highest, so only
  ids of one kind are left to compare. At the end of a path `.` is as deep as
  an id that is no special one. -/

/-- With a step behind the id no two ids arrive at the same segments. -/
theorem taskArrival_inj {taskId taskId' s : String} :
    taskArrival taskId [s] = taskArrival taskId' [s] ↔ taskId = taskId' := by
  constructor
  · intro heq
    rcases taskArrival_cases taskId [s] with ⟨hid, h⟩ | ⟨hid, h⟩ | ⟨-, h⟩ <;>
      rcases taskArrival_cases taskId' [s] with ⟨hid', h'⟩ | ⟨hid', h'⟩ | ⟨-, h'⟩ <;>
      simp_all [closed, segment_inj]
  · intro heq
    rw [heq]

/-- At the end of a path the id `.` leaves the empty segment that the empty id is. -/
theorem taskArrival_nil_inj {taskId taskId' : String} :
    taskArrival taskId [] = taskArrival taskId' [] ↔
      taskId = taskId' ∨ (taskId = "" ∧ taskId' = ".") ∨ (taskId = "." ∧ taskId' = "") := by
  constructor
  · intro heq
    rcases taskArrival_cases taskId [] with ⟨hid, h⟩ | ⟨hid, h⟩ | ⟨-, h⟩ <;>
      rcases taskArrival_cases taskId' [] with ⟨hid', h'⟩ | ⟨hid', h'⟩ | ⟨-, h'⟩ <;>
      simp_all [closed, segment_inj, segment_eq_empty_iff]
  · rintro (rfl | ⟨rfl, rfl⟩ | ⟨rfl, rfl⟩)
    · rfl
    · decide
    · decide

/-- The status of a task and the cancellation of another one arrive at the same segments for
    one pair of ids only. -/
theorem taskArrival_nil_eq_cancel {taskId taskId' : String} :
    taskArrival taskId [] = taskArrival taskId' ["cancel"] ↔
      taskId = "cancel" ∧ taskId' = "." := by
  constructor
  · intro heq
    rcases taskArrival_cases taskId [] with ⟨hid, h⟩ | ⟨hid, h⟩ | ⟨-, h⟩ <;>
      rcases taskArrival_cases taskId' ["cancel"] with ⟨hid', h'⟩ | ⟨hid', h'⟩ | ⟨-, h'⟩ <;>
      simp_all [closed, segment_eq_cancel_iff]
  · rintro ⟨rfl, rfl⟩
    decide

end Operation

/-! ### Places -/

/-- What a request for the operation asks for: the path of its URL, and a query if there is one. -/
def place (u : Url) (op : Operation) : Except TransportFailure String :=
  (endpoint u op).map target

/-- The requests to `u` go below the directory. -/
structure Based (u : Url) (directory : List String) : Prop where
  special : isSpecial u.scheme = true
  noFile : u.scheme ≠ "file"
  divided : Divided directory
  path : (base u).path = .segments (directory ++ [""])
  text : (Path.segments (directory ++ [""])).text = slashed u.path.text

theorem based_of_parse {text : String} {u : Url} (hparse : parse text = .ok u)
    (hscheme : u.scheme = "http" ∨ u.scheme = "https") : ∃ directory, Based u directory := by
  have hspecial : isSpecial u.scheme = true := by
    rcases hscheme with h | h
    · rw [h]
      decide
    · rw [h]
      decide
  have hfile : u.scheme ≠ "file" := by
    rcases hscheme with h | h
    · rw [h]
      decide
    · rw [h]
      decide
  obtain ⟨written, hpath⟩ := path_of_parse hparse hspecial hfile
  obtain ⟨directory, hdivided, hbase, htext⟩ := Path.asDirectory_eq (divided_resolve written)
  rw [← hpath] at hbase htext
  exact ⟨directory, hspecial, hfile, hdivided, hbase, htext⟩

section Based

variable {u : Url} {directory : List String}

/-- An operation's endpoint is the base's server, at the operation's arrival below the base. -/
theorem endpoint_eq (h : Based u directory) (op : Operation) :
    endpoint u op = .ok
      { u with path := .segments (directory ++ op.arrival), query := none, fragment := none } := by
  have hspecial : isSpecial (base u).scheme = true := h.special
  have hfile : decide ((base u).scheme = "file") = false := decide_eq_false h.noFile
  unfold endpoint join
  rw [h.path]
  dsimp only
  rw [hspecial, hfile, List.dropLast_concat, op.resolve_reference]
  rfl

theorem place_eq (h : Based u directory) (op : Operation) :
    place u op = .ok (Path.segments (directory ++ op.arrival)).text := by
  unfold place
  rw [endpoint_eq h]
  rfl

/-- The text of a place begins with the base's path. -/
theorem place_of_arrival (h : Based u directory) {op : Operation} {s : String} {l : List String}
    (harrival : op.arrival = s :: l) :
    place u op = .ok (slashed u.path.text ++ s ++ (Path.segments l).text) := by
  have hbase : slashed u.path.text = (Path.segments directory).text ++ "/" := by
    rw [← h.text, Path.text_append]
    rfl
  rw [place_eq h, harrival, Path.text_append, Path.text_cons, hbase]
  simp only [String.append_assoc]

/-- Two operations have one place only if they arrive at the same segments. -/
theorem place_eq_iff (h : Based u directory) {op op' : Operation} :
    place u op = place u op' ↔ op.arrival = op'.arrival := by
  have hdivided : ∀ op : Operation, Divided (directory ++ op.arrival) :=
    fun op => List.forall_mem_append.mpr ⟨h.divided, op.divided_arrival⟩
  constructor
  · intro heq
    rw [place_eq h, place_eq h] at heq
    have hlists := Path.segments_of_text (hdivided op) (hdivided op') (Except.ok.inj heq)
    exact List.append_cancel_left hlists
  · intro heq
    rw [place_eq h, place_eq h, heq]

end Based

/-! ### Tasks below the base -/

/-- Both requests about the task go to a single segment below the base's `tasks/` that
    decodes to the id, the one to cancel it to `cancel` below that. -/
def OneSegment (u : Url) (taskId : String) : Prop :=
  ∃ segment : String,
    (∀ c ∈ segment.toList, endsAuthority true c = false) ∧
    Percent.decode segment.toList = Utf8.encode taskId.toList ∧
    place u (.status taskId) = .ok (slashed u.path.text ++ "tasks/" ++ segment) ∧
    place u (.cancel taskId) = .ok (slashed u.path.text ++ "tasks/" ++ segment ++ "/cancel")

/-- The request goes to something below the base's `tasks/`. -/
def BelowTasks (u : Url) (op : Operation) : Prop :=
  ∃ rest, place u op = .ok (slashed u.path.text ++ "tasks/" ++ rest)

section Tasks

open Operation

variable {u : Url} {directory : List String} {taskId taskId' : String}

theorem place_of_tasks (h : Based u directory) {op : Operation} {s : String} {l : List String}
    (harrival : op.arrival = "tasks" :: s :: l) :
    place u op = .ok (slashed u.path.text ++ "tasks/" ++ s ++ (Path.segments l).text) := by
  have htasks : "tasks/" = "tasks" ++ "/" := rfl
  rw [place_of_arrival h harrival, Path.text_cons, htasks]
  simp only [String.append_assoc]

theorem oneSegment_of_plain (h : Based u directory) (hplain : taskId ≠ "." ∧ taskId ≠ "..") :
    OneSegment u taskId := by
  have hstatus : (status taskId).arrival = ["tasks", segment taskId] :=
    taskArrival_of_plain hplain []
  have hcancel : (cancel taskId).arrival = ["tasks", segment taskId, "cancel"] :=
    taskArrival_of_plain hplain ["cancel"]
  refine ⟨segment taskId, fun _ => not_ends_of_mem_segment, ?_, ?_, place_of_tasks h hcancel⟩
  · rw [Operation.segment, String.toList_ofList]
    exact Percent.decode_encode (by decide) _
  · rw [place_of_tasks h hstatus]
    exact congrArg Except.ok String.append_empty

theorem belowTasks_of_tasks (h : Based u directory) {op : Operation} {s : String} {l : List String}
    (harrival : op.arrival = "tasks" :: s :: l) : BelowTasks u op := by
  refine ⟨s ++ (Path.segments l).text, ?_⟩
  rw [place_of_tasks h harrival, ← String.append_assoc]

theorem not_belowTasks_of_arrival (h : Based u directory) {op : Operation} {s : String}
    (harrival : op.arrival = [s]) (hs : ∀ rest, s ≠ "tasks/" ++ rest) : ¬ BelowTasks u op := by
  rintro ⟨rest, hplace⟩
  have htext : (Path.segments []).text = "" := rfl
  rw [place_of_arrival h harrival, htext, String.append_empty, String.append_assoc] at hplace
  exact hs rest ((String.append_right_inj _).mp (Except.ok.inj hplace))

theorem belowTasks_status_iff (h : Based u directory) :
    BelowTasks u (.status taskId) ↔ taskId ≠ ".." := by
  rcases taskArrival_cases taskId [] with ⟨hid, harrival⟩ | ⟨hid, harrival⟩ | ⟨hplain, harrival⟩
  · have hs : ∀ rest, "" ≠ "tasks/" ++ rest := by
      intro rest heq
      simp at heq
    exact iff_of_false (not_belowTasks_of_arrival h harrival hs) (not_not_intro hid)
  · refine iff_of_true (belowTasks_of_tasks h harrival) ?_
    rw [hid]
    decide
  · exact iff_of_true (belowTasks_of_tasks h harrival) hplain.2

theorem belowTasks_cancel_iff (h : Based u directory) :
    BelowTasks u (.cancel taskId) ↔ taskId ≠ ".." := by
  rcases taskArrival_cases taskId ["cancel"] with
    ⟨hid, harrival⟩ | ⟨hid, harrival⟩ | ⟨hplain, harrival⟩
  · have hs : ∀ rest, "cancel" ≠ "tasks/" ++ rest := by
      intro rest heq
      rw [← String.toList_inj, String.toList_append] at heq
      simp at heq
    exact iff_of_false (not_belowTasks_of_arrival h harrival hs) (not_not_intro hid)
  · refine iff_of_true (belowTasks_of_tasks h harrival) ?_
    rw [hid]
    decide
  · exact iff_of_true (belowTasks_of_tasks h harrival) hplain.2

theorem oneSegment_iff (h : Based u directory) :
    OneSegment u taskId ↔ taskId ≠ "." ∧ taskId ≠ ".." := by
  constructor
  · rintro ⟨segment, -, hdecode, hstatus, -⟩
    refine ⟨?_, (belowTasks_status_iff h).mp ⟨segment, hstatus⟩⟩
    rintro rfl
    -- The status of `.` is asked for at the empty segment.
    have harrival : (status ".").arrival = ["tasks", ""] := by decide
    have htext : (Path.segments []).text = "" := rfl
    rw [place_of_tasks h harrival, htext, String.append_empty, Except.ok.injEq,
      String.append_right_inj] at hstatus
    rw [← hstatus] at hdecode
    exact absurd hdecode (by decide)
  · exact oneSegment_of_plain h

end Tasks

/-- The base of the examples. -/
def localApi : Url :=
  { scheme := "http"
    authority := some { host := "localhost", port := some 8000 }
    path := .segments ["api"] }

set_option maxRecDepth 4000 in
theorem parse_localApi : parse "http://localhost:8000/api" = .ok localApi := rfl

/-- **A task's id is one segment of its endpoints, unless it is `.` or `..`.** Every
    operation has an endpoint, on the base's server. The requests about a task go to a
    single segment below the base's `tasks/` that decodes to the task's id, and to `cancel`
    below it. Only of the two special ids, `.` has the empty id's status and, to cancel it,
    the place of another task's status, and `..` leads out of the tasks. No other two ids
    share a place. -/
theorem endpoints_one_segment_iff {text : String} {u : Url} (hparse : parse text = .ok u)
    (hscheme : u.scheme = "http" ∨ u.scheme = "https") :
    (∀ op, ∃ path, endpoint u op = .ok { u with path, query := none, fragment := none }) ∧
    (∀ taskId, OneSegment u taskId ↔ taskId ≠ "." ∧ taskId ≠ "..") ∧
    (∀ taskId taskId', place u (.status taskId) = place u (.status taskId') ↔
      taskId = taskId' ∨ (taskId = "" ∧ taskId' = ".") ∨ (taskId = "." ∧ taskId' = "")) ∧
    (∀ taskId taskId', place u (.cancel taskId) = place u (.cancel taskId') ↔
      taskId = taskId') ∧
    (∀ taskId taskId', place u (.status taskId) = place u (.cancel taskId') ↔
      taskId = "cancel" ∧ taskId' = ".") ∧
    ∀ taskId, (BelowTasks u (.status taskId) ↔ taskId ≠ "..") ∧
      (BelowTasks u (.cancel taskId) ↔ taskId ≠ "..") := by
  obtain ⟨directory, h⟩ := based_of_parse hparse hscheme
  refine ⟨fun op => ⟨_, endpoint_eq h op⟩, fun taskId => oneSegment_iff h, ?_, ?_, ?_, ?_⟩
  · intro taskId taskId'
    exact (place_eq_iff h).trans Operation.taskArrival_nil_inj
  · intro taskId taskId'
    exact (place_eq_iff h).trans Operation.taskArrival_inj
  · intro taskId taskId'
    exact (place_eq_iff h).trans Operation.taskArrival_nil_eq_cancel
  · intro taskId
    exact ⟨belowTasks_status_iff h, belowTasks_cancel_iff h⟩

/-- An id that looks like an encoded special segment is none. -/
theorem endpoints_one_segment_dots :
    parse "http://localhost:8000/api" = .ok localApi ∧ localApi.scheme = "http" ∧
      OneSegment localApi "%2e%2E" := by
  obtain ⟨-, hsegment, -⟩ := endpoints_one_segment_iff parse_localApi (.inl rfl)
  exact ⟨parse_localApi, rfl, (hsegment "%2e%2E").mpr (by decide)⟩

/-- The status of the id `..` is asked for at the base itself, outside its tasks. -/
theorem not_one_segment_above :
    parse "http://localhost:8000/api" = .ok localApi ∧ localApi.scheme = "http" ∧
      ¬ OneSegment localApi ".." ∧ ¬ BelowTasks localApi (.status "..") ∧
      place localApi (.status "..") = .ok "/api/" := by
  obtain ⟨directory, h⟩ := based_of_parse parse_localApi (.inl rfl)
  refine ⟨parse_localApi, rfl, ?_, ?_, by rfl⟩
  · rw [oneSegment_iff h]
    decide
  · rw [belowTasks_status_iff h]
    decide

end Rest

end TaskTracking
