import TaskTracking.Proofs.Envelopes
import TaskTracking.Proofs.Insertion

/-! # Nulls for missing fields

  A server may leave a field of a task out or send `null` for it. Every field
  but the status has a default for the first case, and `null` makes the same of
  it, at any place in the object or in the progress that it holds, whether the
  task is read from a text or was kept. The id alone takes no `null`
  (`Snapshot.read_nullAdded`).
-/

namespace TaskTracking

/-! ### Fields of a task -/

open Json

theorem Progress.apart_shape : Progress.shape.Apart where
  names := by decide
  filled := by
    intro f hf g hg hne depth d fill hread s
    simp only [shape, List.mem_cons, List.not_mem_nil, or_false] at hf hg
    -- Each field is a component of its own, so any two of them can be told apart by `rfl`.
    rcases hf with rfl | rfl | rfl | rfl <;>
      obtain ⟨v, -, rfl⟩ := Decoder.map_eq_ok_iff.mp hread <;>
      rcases hg with rfl | rfl | rfl | rfl <;>
      first | exact absurd rfl hne | rfl
  commute := by
    intro f hf g hg hne depth d d' fill fill' hread hread' s
    simp only [shape, List.mem_cons, List.not_mem_nil, or_false] at hf hg
    rcases hf with rfl | rfl | rfl | rfl <;>
      obtain ⟨v, -, rfl⟩ := Decoder.map_eq_ok_iff.mp hread <;>
      rcases hg with rfl | rfl | rfl | rfl <;> first
        | exact absurd rfl hne
        | obtain ⟨w, -, rfl⟩ := Decoder.map_eq_ok_iff.mp hread'
          rfl
  absent := by
    intro f hf
    simp only [shape, List.mem_cons, List.not_mem_nil, or_false] at hf
    rcases hf with rfl | rfl | rfl | rfl <;> exact .inr rfl

theorem Snapshot.apart_shape : Snapshot.shape.Apart where
  names := by decide
  filled := by
    intro f hf g hg hne depth d fill hread s
    simp only [shape, List.mem_cons, List.not_mem_nil, or_false] at hf hg
    rcases hf with rfl | rfl | rfl | rfl | rfl | rfl | rfl <;>
      obtain ⟨v, -, rfl⟩ := Decoder.map_eq_ok_iff.mp hread <;>
      rcases hg with rfl | rfl | rfl | rfl | rfl | rfl | rfl <;>
      first | exact absurd rfl hne | rfl
  commute := by
    intro f hf g hg hne depth d d' fill fill' hread hread' s
    simp only [shape, List.mem_cons, List.not_mem_nil, or_false] at hf hg
    rcases hf with rfl | rfl | rfl | rfl | rfl | rfl | rfl <;>
      obtain ⟨v, -, rfl⟩ := Decoder.map_eq_ok_iff.mp hread <;>
      rcases hg with rfl | rfl | rfl | rfl | rfl | rfl | rfl <;> first
        | exact absurd rfl hne
        | obtain ⟨w, -, rfl⟩ := Decoder.map_eq_ok_iff.mp hread'
          rfl
  absent := by
    intro f hf
    simp only [shape, List.mem_cons, List.not_mem_nil, or_false] at hf
    -- The status alone has no default.
    rcases hf with rfl | rfl | rfl | rfl | rfl | rfl | rfl <;>
      first | exact .inr rfl | exact .inl rfl

theorem Progress.lenient {f : RecordField Partial} (hf : f ∈ shape.fields) :
    shape.Lenient Partial.finish f := by
  simp only [shape, List.mem_cons, List.not_mem_nil, or_false] at hf
  rcases hf with rfl | rfl | rfl | rfl <;> constructor <;> first
    | rfl
    | intro depth
      refine ⟨_, rfl, fun p hp => ?_⟩
      simp_all [Partial.finish]

theorem Progress.name_ne_id {f : RecordField Partial} (hf : f ∈ shape.fields) : f.name ≠ "id" := by
  simp only [shape, List.mem_cons, List.not_mem_nil, or_false] at hf
  rcases hf with rfl | rfl | rfl | rfl <;> decide

theorem Snapshot.lenient {f : RecordField Partial} (hf : f ∈ shape.fields) (hid : f.name ≠ "id")
    (hstatus : f.name ≠ "status") : shape.Lenient Partial.finish f := by
  simp only [shape, List.mem_cons, List.not_mem_nil, or_false] at hf
  rcases hf with rfl | rfl | rfl | rfl | rfl | rfl | rfl
  · exact absurd rfl hid
  · exact absurd rfl hstatus
  all_goals
    refine ⟨rfl, rfl, fun depth => ⟨_, rfl, fun s hs => ?_⟩⟩
    simp_all [Partial.finish, timestampText, Value.merged]

namespace Snapshot

/-- The second object is the first with `null` put in somewhere for a field that the first
    has none of: a field of the task other than its status, or one of the progress that it
    holds. -/
inductive NullAdded (field : String) : Draft → Draft → Prop
  | task (key : String) (before after : List (Option String × Draft)) {ending : Option Break}
      (hkey : shape.fieldName key = some field) (hstatus : field ≠ "status")
      (hlacks : shape.Lacks field (before ++ after)) :
      NullAdded field (.object (before ++ after) ending)
        (.object (before ++ (some key, .null) :: after) ending)
  | progress (key : String) (before after first rest : List (Option String × Draft))
      {ending inner : Option Break} (hkey : Progress.shape.fieldName key = some field)
      (hlacks : Progress.shape.Lacks field (before ++ after)) :
      NullAdded field
        (.object (first ++ (some "progress", .object (before ++ after) inner) :: rest) ending)
        (.object (first ++ (some "progress",
          .object (before ++ (some key, .null) :: after) inner) :: rest) ending)

/-- The refusal of `null` for an id. -/
def nullRefused : Refusal := .mismatch (.wrongType .null "a string")

theorem strict {f : RecordField Partial} (hf : f ∈ shape.fields) (hid : f.name = "id") :
    f.filled shape.empty = false ∧ ∀ depth, f.decoder.ofDraft depth .null = .error nullRefused := by
  simp only [shape, List.mem_cons, List.not_mem_nil, or_false] at hf
  rcases hf with rfl | rfl | rfl | rfl | rfl | rfl | rfl
  · exact ⟨rfl, fun _ => rfl⟩
  all_goals exact absurd hid (by decide)

theorem ofDraft_nullAdded {depth : Nat} {field : String} {d d' : Draft} {s : Snapshot}
    (h : NullAdded field d d') (hread : decoder.ofDraft depth d = .ok s) :
    decoder.ofDraft depth d' = if field = "id" then .error nullRefused else .ok s := by
  cases h with
  | task key before after hkey hstatus hlacks =>
    obtain ⟨f, hfind, rfl⟩ := Option.map_eq_some_iff.mp hkey
    have hf := (Shape.mem_fields_of_find hfind).1
    by_cases hid : f.name = "id"
    · obtain ⟨p, hp, -⟩ := Decoder.map_eq_ok_iff.mp hread
      obtain ⟨hempty, hnull⟩ := strict hf hid
      have hrefused := apart_shape.ofDraft_insert_refused hfind hempty hlacks (hnull _) hp
      show Except.map _ (shape.ofDraft depth _) = _
      rw [if_pos hid, hrefused]
      rfl
    · rw [if_neg hid]
      exact (lenient hf hid hstatus).ofDraft_insert apart_shape hfind hlacks hread
  | progress key before after first rest hkey hlacks =>
    obtain ⟨f, hfind, rfl⟩ := Option.map_eq_some_iff.mp hkey
    have hf := (Shape.mem_fields_of_find hfind).1
    rw [if_neg (Progress.name_ne_id hf)]
    obtain ⟨p, hp, rfl⟩ := Decoder.map_eq_ok_iff.mp hread
    apply Decoder.map_eq_ok_iff.mpr
    refine ⟨p, Shape.ofDraft_replace rfl ?_ hp, rfl⟩
    -- The progress is the same with the `null` in it, and so is what it fills in.
    intro fill hfill
    obtain ⟨q, hq, rfl⟩ := Decoder.map_eq_ok_iff.mp hfill
    rw [Decoder.orDefault_object] at hq
    apply Decoder.ofDraft_map_of
    rw [Decoder.orDefault_object]
    exact (Progress.lenient hf).ofDraft_insert Progress.apart_shape hfind hlacks hq

/-- A `null` for a field that a task has none of makes no difference, unless it is for the
    id, which is then refused. -/
theorem runText_nullAdded {text text' field : String} {s : Snapshot}
    (hread : decoder.runText text = .ok s)
    (hadded : NullAdded field (Draft.ofString text).draft (Draft.ofString text').draft)
    (htrailing : (Draft.ofString text').trailing = (Draft.ofString text).trailing) :
    decoder.runText text' = if field = "id" then .error nullRefused else .ok s := by
  obtain ⟨s', hdraft, hend⟩ := bind_eq_ok_iff.mp hread
  have hwhole : (Draft.ofString text).trailing = false ∧ s' = s := by
    cases htrail : (Draft.ofString text).trailing <;> simp_all
  obtain ⟨hwhole, rfl⟩ := hwhole
  unfold Decoder.runText Decoder.run
  rw [ofDraft_nullAdded hadded hdraft, htrailing, hwhole]
  by_cases hid : field = "id"
  · rw [if_pos hid]
    rfl
  · rw [if_neg hid]
    rfl

end Snapshot

/-! ### A kept task -/

/-- An object with one key that holds an empty object, with `null` in the place of that. -/
def Json.Draft.unboxed : Draft → Draft
  | .object [(some name, .object [] none)] none => .object [(some name, .null)] none
  | d => d

theorem Json.Value.draft_unboxed (v : Value) : v.unboxed.draft = v.draft.unboxed := by
  cases v with
  | object fields =>
    match fields with
    | [] => rfl
    | [(name, w)] =>
      cases w with
      | object inner => cases inner <;> rfl
      | _ => rfl
    | f :: g :: rest =>
      simp [Value.unboxed, Draft.unboxed, Value.draft, Value.fieldDrafts]
  | _ => rfl

namespace Snapshot

/-- An entry of a task with its status unboxed. -/
def unboxedEntry (e : Option String × Draft) : Option String × Draft :=
  if e.1 = some "status" then (e.1, e.2.unboxed) else e

/-- An object with its status unboxed. -/
def unboxedDraft : Draft → Draft
  | .object entries ending => .object (entries.map unboxedEntry) ending
  | d => d

theorem draft_unboxed {v : Value} {entries : List (Option String × Draft)} {ending : Option Break}
    (h : v.draft = .object entries ending) : (unboxed v).draft = unboxedDraft v.draft := by
  cases v with
  | object fields =>
    have hentry (f : String × Value) : (some f.1, (statusUnboxed f.1 f.2).draft) =
        unboxedEntry (some f.1, f.2.draft) := by
      by_cases hstatus : f.1 = "status"
      · simp [unboxedEntry, statusUnboxed, hstatus, Value.draft_unboxed]
      · simp [unboxedEntry, statusUnboxed, hstatus]
    unfold unboxed Shape.changed unboxedDraft
    simp [Value.draft, Value.fieldDrafts_eq, hentry]
  | _ => cases h

theorem unboxedDraft_append (before after : List (Option String × Draft)) (ending : Option Break) :
    unboxedDraft (.object (before ++ after) ending) =
      .object (before.map unboxedEntry ++ after.map unboxedEntry) ending := by
  unfold unboxedDraft
  simp

theorem NullAdded.unboxed {field : String} {d d' : Draft} (h : NullAdded field d d') :
    NullAdded field (unboxedDraft d) (unboxedDraft d') := by
  have hkeys (e : Option String × Draft) : (unboxedEntry e).1 = e.1 := by
    unfold unboxedEntry
    split <;> rfl
  cases h with
  | task key before after hkey hstatus hlacks =>
    have hnull : unboxedEntry (some key, .null) = (some key, .null) := by
      unfold unboxedEntry Draft.unboxed
      split <;> rfl
    rw [unboxedDraft_append, unboxedDraft_append, List.map_cons, hnull]
    apply NullAdded.task key _ _ hkey hstatus
    rw [← List.map_append]
    intro e he
    obtain ⟨e', he', rfl⟩ := List.mem_map.mp he
    rw [hkeys]
    exact hlacks e' he'
  | progress key before after first rest hkey hlacks =>
    rw [unboxedDraft_append, unboxedDraft_append, List.map_cons, List.map_cons]
    exact .progress key before after _ _ hkey hlacks

theorem NullAdded.object {field : String} {d d' : Draft} (h : NullAdded field d d') :
    (∃ entries ending, d = .object entries ending) ∧
      ∃ entries ending, d' = .object entries ending := by
  cases h <;> exact ⟨⟨_, _, rfl⟩, _, _, rfl⟩

/-- A kept task with a `null` added is read alike. -/
theorem ofValue_nullAdded {field : String} {v v' : Value} {s : Snapshot}
    (hread : decoder.ofValue v = .ok s) (h : NullAdded field v.draft v'.draft) :
    (decoder.ofValue v').toOption = if field = "id" then none else some s := by
  obtain ⟨⟨entries, ending, hv⟩, entries', ending', hv'⟩ := h.object
  have hunboxed : NullAdded field (unboxed v).draft (unboxed v').draft := by
    rw [draft_unboxed hv, draft_unboxed hv']
    exact h.unboxed
  -- At that depth neither value is nested too deeply for a text.
  have hagree := agrees_decoder (max v.nesting v'.nesting) v (Nat.le_max_left _ _)
  have hagree' := agrees_decoder (max v.nesting v'.nesting) v' (Nat.le_max_right _ _)
  rw [← hagree', ofDraft_nullAdded hunboxed (hagree.eq_ok_iff.mpr hread)]
  split <;> rfl

/-- A `null` for a field that a task has none of makes no difference, unless it is for the
    id, which is then refused. -/
theorem read_nullAdded (field : String) :
    (∀ text text' s, decoder.runText text = .ok s →
        NullAdded field (Draft.ofString text).draft (Draft.ofString text').draft →
        (Draft.ofString text').trailing = (Draft.ofString text).trailing →
        decoder.runText text' = if field = "id" then .error nullRefused else .ok s) ∧
      ∀ v v' s, decoder.ofValue v = .ok s → NullAdded field v.draft v'.draft →
        (decoder.ofValue v').toOption = if field = "id" then none else some s := by
  constructor
  · intro text text' s hread hadded htrailing
    exact runText_nullAdded hread hadded htrailing
  · intro v v' s hread hadded
    exact ofValue_nullAdded hread hadded

/-! ### Tasks with nulls -/

/-- A task with no more than its status and a message. -/
def sparse : Value :=
  .object [("status", .string "running"), ("progress", .object [("message", .string "half")])]

/-- The same with `null` for the total of its progress. -/
def padded : Value :=
  .object [("status", .string "running"),
    ("progress", .object [("total", .null), ("message", .string "half")])]

theorem nullAdded_padded : NullAdded "total" sparse.draft padded.draft :=
  .progress "total" [] [(some "message", .string (some "half"))]
    [(some "status", .string (some "running"))] [] rfl (by decide)

theorem read_nullAdded_padded :
    decoder.runText padded.compact = .ok { status := .running, progress := { message := "half" } } ∧
      (decoder.ofValue padded).toOption =
        some { status := .running, progress := { message := "half" } } := by
  have hsparse : Reads sparse.compact sparse := by
    apply reads_compact
    simp [sparse, Value.numbers, Value.fieldNumbers]
  have hpadded : Reads padded.compact padded := by
    apply reads_compact
    simp [padded, Value.numbers, Value.fieldNumbers]
  obtain ⟨htexts, hvalues⟩ := read_nullAdded "total"
  constructor
  · apply htexts sparse.compact padded.compact _ (Decoder.runText_of_reads hsparse rfl)
    · rw [hsparse, hpadded]
      exact nullAdded_padded
    · rw [hsparse, hpadded]
  · exact hvalues sparse padded _ rfl nullAdded_padded

/-- A task with no more than its status. -/
def bare : Value := .object [("status", .string "running")]

/-- The same with `null` for its id. -/
def nameless : Value := .object [("id", .null), ("status", .string "running")]

/-- Not every `null` is read as a missing field. -/
theorem not_read_nullAdded_nameless :
    ¬ ∀ field text text' s, decoder.runText text = .ok s →
      NullAdded field (Draft.ofString text).draft (Draft.ofString text').draft →
      (Draft.ofString text').trailing = (Draft.ofString text).trailing →
      decoder.runText text' = .ok s := by
  have hbare : Reads bare.compact bare := by
    apply reads_compact
    simp [bare, Value.numbers, Value.fieldNumbers]
  have hnameless : Reads nameless.compact nameless := by
    apply reads_compact
    simp [nameless, Value.numbers, Value.fieldNumbers]
  have hadded : NullAdded "id" bare.draft nameless.draft :=
    .task "id" [] [(some "status", .string (some "running"))] rfl (by decide) (by decide)
  intro hall
  have h := hall "id" bare.compact nameless.compact { status := .running }
    (Decoder.runText_of_reads hbare rfl)
  rw [hbare, hnameless] at h
  cases (Decoder.runText_eq_ok_iff hnameless).mp (h hadded rfl)

end Snapshot

end TaskTracking
