import TaskTracking.Message
import TaskTracking.Proofs.Records

/-! # Read, written and read again

  Whatever is read from a text, however leniently it is written, is written as
  a text from which the same is read (`Form.read_write`).

  - What reading makes of a text is regular: counters have 64 bits, a
    percentage is finite, a result has one entry for each key and is never
    null (`Progress.regular_of_ofDraft`, `Snapshot.regular_of_ofDraft`).
  - What is regular is read back field by field
    (`Progress.ofDraft_toJson`, `Snapshot.ofDraft_toJson`).

  Reading a float is not exact, so that a float is read back from its own text
  is presupposed, for the floats that occur.
-/

namespace TaskTracking

open Json

/-! ### What a text can make -/

namespace Progress

/-- The counters have 64 bits, and the percentage is a finite number. -/
structure Regular (p : Progress) : Prop where
  current_lt : p.current < 1 <<< 64
  total_lt : p.total < 1 <<< 64
  isFinite : p.percentage.isFinite = true

/-- The same of what is read so far. -/
structure Partial.Regular (p : Partial) : Prop where
  current_lt : ∀ n ∈ p.current, n < 1 <<< 64
  total_lt : ∀ n ∈ p.total, n < 1 <<< 64
  isFinite : ∀ x ∈ p.percentage, x.isFinite = true

theorem natural_lt {depth : Nat} {d : Draft} {n : Nat}
    (h : (Decoder.natural.orDefault 0).ofDraft depth d = .ok n) : n < 1 <<< 64 := by
  rcases Decoder.of_orDefault h with rfl | h
  · decide
  · exact Decoder.of_natural h

theorem keeps_regular (depth : Nat) : shape.Keeps depth Partial.Regular where
  empty := ⟨by simp [shape], by simp [shape], by simp [shape]⟩
  fill := by
    intro f hf d hd fill h p hp
    simp only [shape, List.mem_cons, List.not_mem_nil, or_false] at hf
    rcases hf with rfl | rfl | rfl | rfl
    · obtain ⟨n, hn, rfl⟩ := Decoder.map_eq_ok_iff.mp h
      exact { hp with current_lt := by simpa using natural_lt hn }
    · obtain ⟨n, hn, rfl⟩ := Decoder.map_eq_ok_iff.mp h
      exact { hp with total_lt := by simpa using natural_lt hn }
    · obtain ⟨x, hx, rfl⟩ := Decoder.map_eq_ok_iff.mp h
      refine { hp with isFinite := ?_ }
      rcases Decoder.of_orDefault hx with rfl | hx
      · simp [Binary64.zero, Binary64.isFinite, Binary64.infinite]
      · simpa using Decoder.of_binary64 hd hx
    · obtain ⟨m, hm, rfl⟩ := Decoder.map_eq_ok_iff.mp h
      exact { hp with }
  absent := by
    intro f hf default habsent p hp
    simp only [shape, List.mem_cons, List.not_mem_nil, or_false] at hf
    rcases hf with rfl | rfl | rfl | rfl <;> cases habsent <;> exact hp

theorem Partial.Regular.finish {p : Partial} (h : p.Regular) : p.finish.Regular where
  current_lt := by
    show p.current.getD 0 < 1 <<< 64
    cases hcurrent : p.current with
    | none => decide
    | some n => exact h.current_lt n hcurrent
  total_lt := by
    show p.total.getD 0 < 1 <<< 64
    cases htotal : p.total with
    | none => decide
    | some n => exact h.total_lt n htotal
  isFinite := by
    show (p.percentage.getD .zero).isFinite = true
    cases hpercentage : p.percentage with
    | none => rfl
    | some x => exact h.isFinite x hpercentage

theorem regular_of_ofDraft {depth : Nat} {d : Draft} {p : Progress} (hd : d.Sound)
    (h : decoder.ofDraft (depth + 1) d = .ok p) : p.Regular := by
  obtain ⟨s, hs, rfl⟩ := Decoder.map_eq_ok_iff.mp h
  exact ((keeps_regular depth).ofDraft hd hs).finish

theorem ofDraft_natural {n : Nat} (h : n < 1 <<< 64) (depth : Nat) :
    (Decoder.natural.orDefault 0).ofDraft depth (.number (some (.integer n))) = .ok n := by
  have hrange : 0 ≤ (n : Int) ∧ (n : Int).toNat < 1 <<< 64 := by omega
  show Except.map _ (Except.map _ (Decoder.naturalOf 64 (.integer n))) = _
  unfold Decoder.naturalOf
  dsimp only
  rw [if_pos hrange]
  rfl

/-- A progress that a text can make is read back from what is written for it. -/
theorem ofDraft_toJson {p : Progress} (h : p.Regular) (depth : Nat) :
    decoder.ofDraft (depth + 1) p.toJson.draft = .ok p := by
  have hcurrent := ofDraft_natural h.current_lt depth
  have htotal := ofDraft_natural h.total_lt depth
  have hfloat : floatValue p.percentage = .number (.float p.percentage) := if_pos h.isFinite
  have hentries : shape.entriesOfDraft depth {} (Value.fieldDrafts [
      ("current", .number (.integer p.current)), ("total", .number (.integer p.total)),
      ("percentage", .number (.float p.percentage)), ("message", .string p.message)]) =
      .ok { current := some p.current, total := some p.total, percentage := some p.percentage
            message := some p.message } := by
    unfold Value.fieldDrafts
    rw [Shape.entriesOfDraft_cons _ rfl rfl (Decoder.ofDraft_map_of hcurrent _)]
    unfold Value.fieldDrafts
    rw [Shape.entriesOfDraft_cons _ rfl rfl (Decoder.ofDraft_map_of htotal _)]
    unfold Value.fieldDrafts
    rw [Shape.entriesOfDraft_cons _ rfl rfl (Decoder.ofDraft_map_of rfl _)]
    unfold Value.fieldDrafts
    rw [Shape.entriesOfDraft_cons _ rfl rfl (Decoder.ofDraft_map_of rfl _)]
    rfl
  -- A finite percentage is written as a number, so no entry is `null`.
  unfold toJson decoder Shape.decoder
  dsimp only
  rw [hfloat, Value.draft, Shape.ofDraft, if_neg (Nat.succ_ne_zero depth)]
  apply Decoder.map_eq_ok_iff.mpr
  refine ⟨_, bind_eq_ok_iff.mpr ⟨_, hentries, rfl⟩, rfl⟩

theorem Regular.inRange_of_mem_numbers {p : Progress} (h : p.Regular) {n : Number}
    (hn : n ∈ p.toJson.numbers) : n.InRange := by
  have hfloat : floatValue p.percentage = .number (.float p.percentage) := if_pos h.isFinite
  have hcurrent : p.current < 18446744073709551616 := h.current_lt
  have htotal : p.total < 18446744073709551616 := h.total_lt
  simp only [toJson, hfloat, Value.numbers, Value.fieldNumbers, List.mem_append,
    List.mem_singleton, List.append_nil] at hn
  rcases hn with rfl | rfl | rfl
  · exact Number.inRange_integer_iff.mpr ⟨by omega, by omega⟩
  · exact Number.inRange_integer_iff.mpr ⟨by omega, by omega⟩
  · exact h.isFinite

end Progress

/-- What reading makes of a result: one entry for each key, numbers in range, never null. -/
structure Kept (depth : Nat) (v : Value) : Prop where
  merged : v.merged = v
  ne_null : v ≠ .null
  nesting_le : v.nesting ≤ depth
  inRange : ∀ n ∈ v.numbers, n.InRange

theorem kept_of_any {depth : Nat} {d : Draft} {v : Value} (hd : d.Sound)
    (h : Decoder.any.optional.ofDraft depth d = .ok (some v)) : Kept depth v := by
  obtain ⟨hnull, hread⟩ := Decoder.of_optional h
  obtain ⟨w, rfl, hnesting, rfl⟩ := Decoder.ofDraft_any_eq_ok_iff.mp hread
  refine ⟨Value.merged_merged w, ?_, Nat.le_trans (Value.nesting_merged w) hnesting, ?_⟩
  · -- Merging makes nothing `null` that was not.
    intro hmerged
    cases w with
    | null => exact hnull rfl
    | _ => cases hmerged
  · intro n hn
    apply hd
    rw [Draft.numbers_draft]
    exact Value.numbers_merged hn

theorem Kept.ofDraft {depth : Nat} {v : Value} (h : Kept depth v) :
    Decoder.any.optional.ofDraft depth v.draft = .ok (some v) := by
  have hnull : v.draft ≠ .null := by
    intro hdraft
    cases v with
    | null => exact h.ne_null rfl
    | _ => cases hdraft
  rw [Decoder.optional_of_ne_null _ _ hnull]
  apply Decoder.map_eq_ok_iff.mpr
  exact ⟨v, Decoder.ofDraft_any_eq_ok_iff.mpr ⟨v, rfl, h.nesting_le, h.merged⟩, rfl⟩

namespace Snapshot

/-- The progress and the result are such that reading can make them. -/
structure Regular (depth : Nat) (s : Snapshot) : Prop where
  progress : s.progress.Regular
  result : ∀ v ∈ s.result, Kept depth v

/-- The same of what is read so far. -/
structure Partial.Regular (depth : Nat) (s : Partial) : Prop where
  progress : ∀ p ∈ s.progress, p.Regular
  result : ∀ r ∈ s.result, ∀ v ∈ r, Kept depth v

theorem regular_default : ({} : Progress).Regular := ⟨by decide, by decide, rfl⟩

theorem keeps_regular (depth : Nat) : shape.Keeps (depth + 1) (Partial.Regular (depth + 1)) where
  empty := ⟨by simp [shape], by simp [shape]⟩
  fill := by
    intro f hf d hd fill h s hs
    simp only [shape, List.mem_cons, List.not_mem_nil, or_false] at hf
    rcases hf with rfl | rfl | rfl | rfl | rfl | rfl | rfl
    · obtain ⟨id, -, rfl⟩ := Decoder.map_eq_ok_iff.mp h
      exact { hs with }
    · obtain ⟨status, -, rfl⟩ := Decoder.map_eq_ok_iff.mp h
      exact { hs with }
    · obtain ⟨p, hp, rfl⟩ := Decoder.map_eq_ok_iff.mp h
      -- The progress is the default one, or it was read.
      refine { hs with progress := ?_ }
      intro q hq
      cases hq
      rcases Decoder.of_orDefault hp with rfl | hp
      · exact regular_default
      · exact Progress.regular_of_ofDraft hd hp
    · obtain ⟨r, hr, rfl⟩ := Decoder.map_eq_ok_iff.mp h
      refine { hs with result := ?_ }
      intro r' hr' v hv
      cases hr'
      cases hv
      exact kept_of_any hd hr
    · obtain ⟨e, -, rfl⟩ := Decoder.map_eq_ok_iff.mp h
      exact { hs with }
    · obtain ⟨e, -, rfl⟩ := Decoder.map_eq_ok_iff.mp h
      exact { hs with }
    · obtain ⟨e, -, rfl⟩ := Decoder.map_eq_ok_iff.mp h
      exact { hs with }
  absent := by
    intro f hf default habsent s hs
    simp only [shape, List.mem_cons, List.not_mem_nil, or_false] at hf
    rcases hf with rfl | rfl | rfl | rfl | rfl | rfl | rfl <;> cases habsent <;> exact hs

theorem Partial.Regular.finish {depth : Nat} {s : Partial} (h : s.Regular depth) :
    s.finish.Regular depth where
  progress := by
    show (s.progress.getD {}).Regular
    cases hprogress : s.progress with
    | none => exact regular_default
    | some p => exact h.progress p hprogress
  result := by
    intro v hv
    have hresult : s.result = some (some v) := Option.join_eq_some_iff.mp hv
    exact h.result (some v) hresult v rfl

theorem regular_of_ofDraft {depth : Nat} {d : Draft} {s : Snapshot} (hd : d.Sound)
    (h : decoder.ofDraft (depth + 2) d = .ok s) : s.Regular (depth + 1) := by
  obtain ⟨p, hp, rfl⟩ := Decoder.map_eq_ok_iff.mp h
  exact ((keeps_regular depth).ofDraft hd hp).finish

section Optional

variable {key : String} {f : RecordField Partial} {s : Partial} {depth : Nat}

/-- An entry that may be left out is read back, as nothing if it is left out. -/
theorem entriesOfDraft_optional {v : Option Value} {fill : Value → Partial → Partial}
    (s' : Partial) (fields : List (String × Value)) (hfind : shape.find key = some f)
    (hnew : f.filled s = false)
    (hread : ∀ w ∈ v, f.decoder.ofDraft depth w.draft = .ok (fill w))
    (hfill : v.elim s (fill · s) = s') :
    shape.entriesOfDraft depth s (Value.fieldDrafts (optionalEntry key v ++ fields)) =
      shape.entriesOfDraft depth s' (Value.fieldDrafts fields) := by
  subst hfill
  cases v with
  | none => rfl
  | some w => exact Shape.entriesOfDraft_cons _ hfind hnew (hread w rfl)

theorem entriesOfDraft_optionalText {t : Option String} {fill : String → Partial → Partial}
    (s' : Partial) (fields : List (String × Value)) (hfind : shape.find key = some f)
    (hnew : f.filled s = false)
    (hread : ∀ t, f.decoder.ofDraft depth (.string (some t)) = .ok (fill t))
    (hfill : t.elim s (fill · s) = s') :
    shape.entriesOfDraft depth s
        (Value.fieldDrafts (optionalEntry key (t.map .string) ++ fields)) =
      shape.entriesOfDraft depth s' (Value.fieldDrafts fields) := by
  subst hfill
  cases t with
  | none => rfl
  | some t => exact Shape.entriesOfDraft_cons _ hfind hnew (hread t)

end Optional

theorem ofDraft_status (status : Status) (depth : Nat) :
    Status.decoder.ofDraft depth (.string (some status.name)) = .ok status := by
  cases status with
  | _ => rfl

/-- The entries that are written for a snapshot. -/
def entries (s : Snapshot) : List (String × Value) :=
  ("id", .string s.id) :: ("status", .string s.status.name) :: ("progress", s.progress.toJson) ::
    (optionalEntry "result" s.result ++ (optionalEntry "error" (s.error.map .string) ++
      (optionalEntry "created_at" (s.createdAt.map .string) ++
        (optionalEntry "updated_at" (s.updatedAt.map .string) ++ []))))

theorem toJson_eq (s : Snapshot) : s.toJson = .object s.entries := by
  simp [toJson, entries]

theorem entriesOfDraft_entries {s : Snapshot} {depth : Nat} (h : s.Regular (depth + 1)) :
    shape.entriesOfDraft (depth + 1) {} (Value.fieldDrafts s.entries) =
      .ok { id := some s.id, status := some s.status, progress := some s.progress
            result := s.result.map some, error := s.error.map some
            createdAt := s.createdAt.map some, updatedAt := s.updatedAt.map some } := by
  have hprogress : (Progress.decoder.orDefault {}).ofDraft (depth + 1) s.progress.toJson.draft =
      .ok s.progress := by
    apply Decoder.map_eq_ok_iff.mpr
    refine ⟨some s.progress, ?_, rfl⟩
    exact Decoder.map_eq_ok_iff.mpr ⟨_, Progress.ofDraft_toJson h.progress depth, rfl⟩
  have hstatus := ofDraft_status s.status (depth + 1)
  unfold entries
  rw [Value.fieldDrafts, Shape.entriesOfDraft_cons _ rfl rfl (Decoder.ofDraft_map_of rfl _)]
  rw [Value.fieldDrafts, Shape.entriesOfDraft_cons _ rfl rfl (Decoder.ofDraft_map_of hstatus _)]
  rw [Value.fieldDrafts, Shape.entriesOfDraft_cons _ rfl rfl (Decoder.ofDraft_map_of hprogress _)]
  -- Each of the other entries is there or left out.
  let read : Partial := { id := some s.id, status := some s.status, progress := some s.progress }
  rw [entriesOfDraft_optional { read with result := s.result.map some } _ rfl rfl
    (fun v hv => Decoder.ofDraft_map_of (h.result v hv).ofDraft _) (by cases s.result <;> rfl)]
  rw [entriesOfDraft_optionalText
    { read with result := s.result.map some, error := s.error.map some } _ rfl rfl
    (fun t => rfl) (by cases s.error <;> rfl)]
  rw [entriesOfDraft_optionalText
    { read with
      result := s.result.map some, error := s.error.map some
      createdAt := s.createdAt.map some } _ rfl rfl
    (fun t => rfl) (by cases s.createdAt <;> rfl)]
  rw [entriesOfDraft_optionalText
    { read with
      result := s.result.map some, error := s.error.map some
      createdAt := s.createdAt.map some, updatedAt := s.updatedAt.map some } _ rfl rfl
    (fun t => rfl) (by cases s.updatedAt <;> rfl)]
  rfl

theorem join_map_some {α : Type} (o : Option α) : (o.map some).join = o := by
  cases o with
  | none => rfl
  | some a => rfl

/-- A snapshot that a text can make is read back from what is written for it. -/
theorem ofDraft_toJson {s : Snapshot} {depth : Nat} (h : s.Regular (depth + 1)) :
    decoder.ofDraft (depth + 2) s.toJson.draft = .ok s := by
  unfold decoder Shape.decoder
  dsimp only
  rw [toJson_eq, Value.draft, Shape.ofDraft, if_neg (Nat.succ_ne_zero (depth + 1))]
  apply Decoder.map_eq_ok_iff.mpr
  refine ⟨_, bind_eq_ok_iff.mpr ⟨_, entriesOfDraft_entries h, Shape.complete_eq_ok ?_⟩, ?_⟩
  · simp [shape]
  · simp [Partial.finish, join_map_some]

theorem numbers_optionalText (key : String) (t : Option String) :
    Value.fieldNumbers (optionalEntry key (t.map .string)) = [] := by
  cases t with
  | none => rfl
  | some t => rfl

/-- The numbers of a snapshot that a text can make are in range. -/
theorem Regular.inRange_of_mem_numbers {s : Snapshot} {depth : Nat} (h : s.Regular depth)
    {n : Number}
    (hn : n ∈ s.toJson.numbers) : n.InRange := by
  rw [toJson_eq] at hn
  -- All other entries are texts.
  have hcases : n ∈ s.progress.toJson.numbers ∨ ∃ v ∈ s.result, n ∈ v.numbers := by
    unfold entries at hn
    rw [Value.numbers, Value.fieldNumbers, Value.fieldNumbers, Value.fieldNumbers,
      Value.fieldNumbers_append, Value.fieldNumbers_append, Value.fieldNumbers_append,
      Value.fieldNumbers_append, numbers_optionalText, numbers_optionalText,
      numbers_optionalText] at hn
    simp only [Value.numbers, Value.fieldNumbers, List.nil_append, List.append_nil] at hn
    rcases List.mem_append.mp hn with hn | hn
    · exact .inl hn
    · cases hresult : s.result with
      | none =>
        rw [hresult] at hn
        cases hn
      | some v =>
        rw [hresult] at hn
        refine .inr ⟨v, rfl, ?_⟩
        simpa [optionalEntry, Value.fieldNumbers] using hn
  rcases hcases with hn | ⟨v, hv, hn⟩
  · exact h.progress.inRange_of_mem_numbers hn
  · exact (h.result v hv).inRange n hn

end Snapshot

/-! ### Written and read again -/

/-- What is read from texts and written as one. -/
inductive Form where
  | snapshot
  | progress
  | created
  | cancelAnswer
  | clientMessage

namespace Form

/-- What a text of the form holds. -/
def Content : Form → Type
  | .snapshot => Snapshot
  | .progress => Progress
  | .created => Created
  | .cancelAnswer => CancelAnswer
  | .clientMessage => ClientMessage

/-- Reads a text of the form. -/
def read : (form : Form) → String → Outcome form.Content
  | .snapshot => Snapshot.decoder.runText
  | .progress => Progress.decoder.runText
  | .created => Created.decoder.runText
  | .cancelAnswer => CancelAnswer.decoder.runText
  | .clientMessage => ClientMessage.decode

def toJson : (form : Form) → form.Content → Value
  | .snapshot => Snapshot.toJson
  | .progress => Progress.toJson
  | .created => Created.toJson
  | .cancelAnswer => CancelAnswer.toJson
  | .clientMessage => ClientMessage.toJson

/-- The text that is written. -/
def write (form : Form) (a : form.Content) : String := (form.toJson a).compact

theorem inRange_of_read {form : Form} {text : String} {a : form.Content}
    (h : form.read text = .ok a) : ∀ n ∈ (form.toJson a).numbers, n.InRange := by
  have hsound := Draft.sound_ofString text
  cases form with
  | snapshot =>
    intro n hn
    have hregular := Snapshot.regular_of_ofDraft hsound (Decoder.ofDraft_of_runText h)
    exact hregular.inRange_of_mem_numbers hn
  | progress =>
    intro n hn
    have hregular := Progress.regular_of_ofDraft hsound (Decoder.ofDraft_of_runText h)
    exact hregular.inRange_of_mem_numbers hn
  | created =>
    intro n hn
    cases hn
  | cancelAnswer =>
    intro n hn
    cases hn
  | clientMessage =>
    intro n hn
    cases a
    cases hn

/-- What was read is read again from every text that holds what is written for it. -/
theorem read_of_reads {form : Form} {text written : String} {a : form.Content}
    (h : form.read text = .ok a) (hwritten : Reads written (form.toJson a)) :
    form.read written = .ok a := by
  have hsound := Draft.sound_ofString text
  cases form with
  | snapshot =>
    have hregular := Snapshot.regular_of_ofDraft hsound (Decoder.ofDraft_of_runText h)
    exact Decoder.runText_of_reads hwritten (Snapshot.ofDraft_toJson hregular)
  | progress =>
    have hregular := Progress.regular_of_ofDraft hsound (Decoder.ofDraft_of_runText h)
    exact Decoder.runText_of_reads hwritten (Progress.ofDraft_toJson hregular _)
  | created => exact Decoder.runText_of_reads hwritten rfl
  | cancelAnswer => exact Decoder.runText_of_reads hwritten rfl
  | clientMessage =>
    cases a with
    | subscribe taskId =>
      show ClientMessage.decode written = _
      unfold ClientMessage.decode
      rw [hwritten]
      rfl

/-- What was read from a text is read again from the text that is written for it. The floats
    in it, if there are any, must be read back from their own texts. -/
theorem read_write {form : Form} {text : String} {a : form.Content} (h : form.read text = .ok a)
    (hfloats : ∀ x, .float x ∈ (form.toJson a).numbers → (Number.float x).Readable) :
    form.read (form.write a) = .ok a := by
  apply read_of_reads h
  apply reads_compact
  intro n hn
  cases n with
  | integer i => exact Number.readable_integer (inRange_of_read h _ hn)
  | float x => exact hfloats x hn

/-! ### A lenient text -/

/-- A snapshot written leniently: the id under its other name, the status as an object, the
    progress as an array, a key twice in the result, a number for a timestamp, a field of no
    interest. -/
def lenient : Value :=
  .object [
    ("task_id", .string "T\n1"), ("status", .object [("running", .null)]),
    ("progress", .array [.number (.integer 3), .null, .number (.integer 40)]),
    ("result", .object [("b", .null), ("a", .array [.null]), ("b", .object [])]),
    ("error", .null), ("created_at", .number (.integer 1700000000)), ("owner", .array [.bool true])]

/-- The forty percent of `lenient`. -/
def forty : Binary64 := { negative := false, magnitude := 0x4044000000000000 }

def lenientSnapshot : Snapshot where
  id := "T\n1"
  status := .running
  progress := { current := 3, percentage := forty }
  result := some (.object [("b", .object []), ("a", .array [.null])])
  createdAt := some "1700000000"

theorem reads_lenient : Reads lenient.compact lenient := by
  have hrange : ∀ n ∈ lenient.numbers, n.InRange := by decide
  have hintegers : ∀ x, Number.float x ∉ lenient.numbers := by
    simp [lenient, Value.numbers, Value.fieldNumbers, Value.itemNumbers]
  apply reads_compact
  intro n hn
  cases n with
  | integer i => exact Number.readable_integer (hrange _ hn)
  | float x => exact absurd hn (hintegers x)

theorem read_lenient : Form.snapshot.read lenient.compact = .ok lenientSnapshot :=
  Decoder.runText_of_reads reads_lenient rfl

theorem readable_forty : (Number.float forty).Readable := by
  have htext : (Number.float forty).text = "40.0".toList := by decide +kernel
  refine ⟨{ negative := false, whole := [4, 0], fraction := some [0], exponent := none }, ?_, ?_⟩
  · rw [htext]
    rfl
  · decide +kernel

theorem read_write_lenient :
    Form.snapshot.read lenient.compact = .ok lenientSnapshot ∧
      Form.snapshot.read (Form.snapshot.write lenientSnapshot) = .ok lenientSnapshot := by
  refine ⟨read_lenient, read_write read_lenient ?_⟩
  intro x hx
  have hnumbers : (Form.snapshot.toJson lenientSnapshot).numbers =
      [.integer 3, .integer 0, .float forty] := rfl
  rw [hnumbers] at hx
  have hforty : x = forty := by simpa using hx
  rw [hforty]
  exact readable_forty

end Form
end TaskTracking
