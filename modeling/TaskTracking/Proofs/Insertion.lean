import Mathlib.Data.List.Nodup
import TaskTracking.Proofs.Records

/-! # Entries put into an object

  Reading an object goes through its entries one after the other. Where the
  fields of a record do not get in each other's way (`Shape.Apart`), an entry
  for a field that the object has none of is read as if it came last, wherever
  it was put (`Shape.Apart.ofDraft_insert`). So a `null` makes no difference for
  a field in which it stands for nothing (`Shape.Lenient.ofDraft_insert`).
-/

namespace TaskTracking

namespace Json.Shape

variable {σ : Type} {shape : Shape σ} {depth : Nat}

/-! ### Entries of a record -/

/-- The name of the field that a key stands for. -/
def fieldName (shape : Shape σ) (key : String) : Option String :=
  (shape.find key).map RecordField.name

/-- No entry is for the field of that name. -/
def Lacks (shape : Shape σ) (name : String) (entries : List (Option String × Draft)) : Prop :=
  ∀ e ∈ entries, e.1.bind shape.fieldName ≠ some name

instance (shape : Shape σ) (name : String) (entries : List (Option String × Draft)) :
    Decidable (shape.Lacks name entries) :=
  inferInstanceAs (Decidable (∀ e ∈ entries, e.1.bind shape.fieldName ≠ some name))

/-- Entries are read one after the other. -/
theorem entriesOfDraft_append (s : σ) (before after : List (Option String × Draft)) :
    shape.entriesOfDraft depth s (before ++ after) =
      (shape.entriesOfDraft depth s before).bind fun s' =>
        shape.entriesOfDraft depth s' after := by
  induction before generalizing s with
  | nil => rfl
  | cons e before ih =>
    obtain ⟨key, d⟩ := e
    cases key with
    | none => rfl
    | some key =>
      rw [List.cons_append, entriesOfDraft, entriesOfDraft]
      cases shape.find key with
      | none =>
        cases d.skip with
        | some fault => rfl
        | none => exact ih s
      | some f =>
        by_cases hfilled : f.filled s = true
        · simp [hfilled, Except.bind]
        · cases hread : f.decoder.ofDraft depth d with
          | error e => simp [hfilled, hread, Except.bind]
          | ok fill => simp [hfilled, hread, ih (fill s)]

/-- An entry of a field that is read was read by the field. -/
theorem entriesOfDraft_cons_eq_ok_iff {key : String} {f : RecordField σ} {s s' : σ} {d : Draft}
    {rest : List (Option String × Draft)} (hfind : shape.find key = some f) :
    shape.entriesOfDraft depth s ((some key, d) :: rest) = .ok s' ↔
      f.filled s = false ∧ ∃ fill, f.decoder.ofDraft depth d = .ok fill ∧
        shape.entriesOfDraft depth (fill s) rest = .ok s' := by
  rw [entriesOfDraft]
  by_cases hfilled : f.filled s = true
  · simp [hfind, hfilled]
  · cases hread : f.decoder.ofDraft depth d with
    | error e => simp [hfind, hfilled, hread]
    | ok fill => simp [hfind, hfilled, hread]

theorem ofDraft_object_eq_ok_iff {entries : List (Option String × Draft)} {ending : Option Break}
    {s : σ} :
    shape.ofDraft depth (.object entries ending) = .ok s ↔
      depth ≠ 0 ∧ ∃ s', shape.entriesOfDraft (depth - 1) shape.empty entries = .ok s' ∧
        orFault (Draft.close ending) = .ok () ∧ complete shape.fields s' = .ok s := by
  rw [ofDraft]
  by_cases hdepth : depth = 0
  · simp [hdepth, bind, Except.bind]
  · rw [if_neg hdepth]
    constructor
    · intro h
      obtain ⟨s', hentries, h⟩ := bind_eq_ok_iff.mp h
      obtain ⟨⟨⟩, hclose, hcomplete⟩ := bind_eq_ok_iff.mp h
      exact ⟨hdepth, s', hentries, hclose, hcomplete⟩
    · intro h
      obtain ⟨-, s', hentries, hclose, hcomplete⟩ := h
      exact bind_eq_ok_iff.mpr ⟨s', hentries, bind_eq_ok_iff.mpr ⟨(), hclose, hcomplete⟩⟩

/-! ### Fields kept apart -/

/-- What one field is read into touches no other field, and a field that may be missing is
    then left as it is. -/
structure Apart (shape : Shape σ) : Prop where
  names : (shape.fields.map RecordField.name).Nodup
  filled : ∀ f ∈ shape.fields, ∀ g ∈ shape.fields, f.name ≠ g.name → ∀ depth d fill,
    f.decoder.ofDraft depth d = .ok fill → ∀ s, g.filled (fill s) = g.filled s
  commute : ∀ f ∈ shape.fields, ∀ g ∈ shape.fields, f.name ≠ g.name → ∀ depth d d' fill fill',
    f.decoder.ofDraft depth d = .ok fill → g.decoder.ofDraft depth d' = .ok fill' →
      ∀ s, fill' (fill s) = fill (fill' s)
  absent : ∀ f ∈ shape.fields, f.absent = none ∨ f.absent = RecordField.mayBeAbsent

/-- A completed record is the partial one, and what it lacks may be missing. -/
theorem complete_eq_ok_iff {fields : List (RecordField σ)} {s s' : σ}
    (h : ∀ f ∈ fields, f.absent = none ∨ f.absent = RecordField.mayBeAbsent) :
    complete fields s = .ok s' ↔
      s' = s ∧ ∀ f ∈ fields, f.filled s = true ∨ f.absent = RecordField.mayBeAbsent := by
  constructor
  · intro hcomplete
    induction fields with
    | nil =>
      cases hcomplete
      exact ⟨rfl, by simp⟩
    | cons f rest ih =>
      have hrest := ih fun g hg => h g (List.mem_cons_of_mem f hg)
      rw [complete] at hcomplete
      by_cases hfilled : f.filled s = true
      · obtain ⟨hsame, hall⟩ := hrest (by simpa [hfilled] using hcomplete)
        exact ⟨hsame, List.forall_mem_cons.mpr ⟨.inl hfilled, hall⟩⟩
      · rcases h f List.mem_cons_self with habsent | habsent
        · simp [hfilled, habsent] at hcomplete
        · rw [if_neg hfilled, habsent] at hcomplete
          obtain ⟨hsame, hall⟩ := hrest hcomplete
          exact ⟨hsame, List.forall_mem_cons.mpr ⟨.inr habsent, hall⟩⟩
  · intro hall
    obtain ⟨rfl, hall⟩ := hall
    exact complete_eq_ok hall

namespace Apart

variable {key : String} {f : RecordField σ} {fill : σ → σ} {s s' : σ} {d : Draft}
  {before after : List (Option String × Draft)} {ending : Option Break}

/-- An entry that is not for the field is read the same whether the field was filled or not. -/
theorem entry_of_lacks (h : shape.Apart) (hf : f ∈ shape.fields) {e : Option String × Draft}
    (hother : e.1.bind shape.fieldName ≠ some f.name)
    (hread : shape.entriesOfDraft depth s (e :: after) = .ok s') :
    ∃ other : σ → σ, f.filled (other s) = f.filled s ∧
      shape.entriesOfDraft depth (other s) after = .ok s' ∧
      ∀ d fill, f.decoder.ofDraft depth d = .ok fill →
        shape.entriesOfDraft depth (fill s) (e :: after) =
          shape.entriesOfDraft depth (fill (other s)) after := by
  obtain ⟨key, d⟩ := e
  cases key with
  | none => cases hread
  | some key =>
    cases hfind : shape.find key with
    | none =>
      cases hskip : d.skip with
      | some fault => simp [entriesOfDraft, hfind, hskip] at hread
      | none =>
        have hskipped (s : σ) : shape.entriesOfDraft depth s ((some key, d) :: after) =
            shape.entriesOfDraft depth s after := by
          rw [entriesOfDraft]
          simp [hfind, hskip]
        exact ⟨id, rfl, by rw [← hread, hskipped]; rfl, fun _ fill _ => hskipped (fill s)⟩
    | some g =>
      have hg := (mem_fields_of_find hfind).1
      have hne : f.name ≠ g.name := by simpa [fieldName, hfind, eq_comm] using hother
      obtain ⟨hnew, other, hother, hrest⟩ := (entriesOfDraft_cons_eq_ok_iff hfind).mp hread
      refine ⟨other, h.filled g hg f hf hne.symm _ _ _ hother s, hrest, ?_⟩
      intro d' fill hfill
      have hnew' : g.filled (fill s) = false := by rw [h.filled f hf g hg hne _ _ _ hfill, hnew]
      rw [entriesOfDraft_cons after hfind hnew' hother,
        h.commute f hf g hg hne _ _ _ _ _ hfill hother]

theorem filled_of_lacks (h : shape.Apart) (hf : f ∈ shape.fields)
    (hlacks : shape.Lacks f.name before) (hread : shape.entriesOfDraft depth s before = .ok s') :
    f.filled s' = f.filled s := by
  induction before generalizing s with
  | nil =>
    cases hread
    rfl
  | cons e rest ih =>
    obtain ⟨hother, hrest⟩ := List.forall_mem_cons.mp hlacks
    obtain ⟨other, hsame, hread, -⟩ := h.entry_of_lacks hf hother hread
    rw [ih hrest hread, hsame]

/-- What was filled in for a field stays beside what further entries bring. -/
theorem entriesOfDraft_fill (h : shape.Apart) (hf : f ∈ shape.fields)
    (hfill : f.decoder.ofDraft depth d = .ok fill) (hlacks : shape.Lacks f.name after)
    (hread : shape.entriesOfDraft depth s after = .ok s') :
    shape.entriesOfDraft depth (fill s) after = .ok (fill s') := by
  induction after generalizing s with
  | nil =>
    cases hread
    rfl
  | cons e rest ih =>
    obtain ⟨hother, hrest⟩ := List.forall_mem_cons.mp hlacks
    obtain ⟨other, -, hread, hfilled⟩ := h.entry_of_lacks hf hother hread
    rw [hfilled d fill hfill]
    exact ih hrest hread

/-- Where an object has no entry for a field, one is read as if it came last. -/
theorem ofDraft_insert (h : shape.Apart) (hfind : shape.find key = some f)
    (hempty : f.filled shape.empty = false) (habsent : f.absent = RecordField.mayBeAbsent)
    (hlacks : shape.Lacks f.name (before ++ after))
    (hfill : f.decoder.ofDraft (depth - 1) d = .ok fill)
    (hread : shape.ofDraft depth (.object (before ++ after) ending) = .ok s) :
    shape.ofDraft depth (.object (before ++ (some key, d) :: after) ending) = .ok (fill s) ∧
      f.filled s = false := by
  obtain ⟨hdepth, s₁, hentries, hclose, hcomplete⟩ := ofDraft_object_eq_ok_iff.mp hread
  obtain ⟨rfl, hall⟩ := (complete_eq_ok_iff h.absent).mp hcomplete
  have hf := (mem_fields_of_find hfind).1
  have hbefore : shape.Lacks f.name before := fun e he => hlacks e (List.mem_append_left _ he)
  have hafter : shape.Lacks f.name after := fun e he => hlacks e (List.mem_append_right _ he)
  rw [entriesOfDraft_append] at hentries
  obtain ⟨s₂, hfirst, hrest⟩ := bind_eq_ok_iff.mp hentries
  have hnew : f.filled s₂ = false := by rw [h.filled_of_lacks hf hbefore hfirst, hempty]
  have hlater := h.entriesOfDraft_fill hf hfill hafter hrest
  constructor
  · apply ofDraft_object_eq_ok_iff.mpr
    refine ⟨hdepth, fill s, ?_, hclose, ?_⟩
    · rw [entriesOfDraft_append, hfirst]
      exact (entriesOfDraft_cons_eq_ok_iff hfind).mpr ⟨hnew, fill, hfill, hlater⟩
    · apply (complete_eq_ok_iff h.absent).mpr
      refine ⟨rfl, fun g hg => ?_⟩
      by_cases hname : f.name = g.name
      · rw [← List.inj_on_of_nodup_map h.names hf hg hname]
        exact .inr habsent
      · rw [h.filled f hf g hg hname _ _ _ hfill]
        exact hall g hg
  · rw [h.filled_of_lacks hf hafter hrest, hnew]

/-- An entry that its field does not take is refused as the field refuses it. -/
theorem ofDraft_insert_refused (h : shape.Apart) {e : Refusal} (hfind : shape.find key = some f)
    (hempty : f.filled shape.empty = false) (hlacks : shape.Lacks f.name (before ++ after))
    (hrefused : f.decoder.ofDraft (depth - 1) d = .error e)
    (hread : shape.ofDraft depth (.object (before ++ after) ending) = .ok s) :
    shape.ofDraft depth (.object (before ++ (some key, d) :: after) ending) = .error e := by
  obtain ⟨hdepth, s₁, hentries, -, -⟩ := ofDraft_object_eq_ok_iff.mp hread
  have hf := (mem_fields_of_find hfind).1
  have hbefore : shape.Lacks f.name before := fun e he => hlacks e (List.mem_append_left _ he)
  rw [entriesOfDraft_append] at hentries
  obtain ⟨s₂, hfirst, -⟩ := bind_eq_ok_iff.mp hentries
  have hnew : f.filled s₂ = false := by rw [h.filled_of_lacks hf hbefore hfirst, hempty]
  have hentries' : shape.entriesOfDraft (depth - 1) shape.empty
      (before ++ (some key, d) :: after) = .error e := by
    rw [entriesOfDraft_append, hfirst]
    simp [Except.bind, entriesOfDraft, hfind, hnew, hrefused]
  rw [ofDraft, if_neg hdepth]
  show (shape.entriesOfDraft (depth - 1) shape.empty _ >>= _) = _
  rw [hentries']
  rfl

end Apart

/-- An entry may stand in the place of another that its field reads the same. -/
theorem ofDraft_replace {key : String} {f : RecordField σ} {d d' : Draft} {s : σ}
    {before after : List (Option String × Draft)} {ending : Option Break}
    (hfind : shape.find key = some f)
    (hsame : ∀ fill, f.decoder.ofDraft (depth - 1) d = .ok fill →
      f.decoder.ofDraft (depth - 1) d' = .ok fill)
    (hread : shape.ofDraft depth (.object (before ++ (some key, d) :: after) ending) = .ok s) :
    shape.ofDraft depth (.object (before ++ (some key, d') :: after) ending) = .ok s := by
  obtain ⟨hdepth, s₁, hentries, hcomplete⟩ := ofDraft_object_eq_ok_iff.mp hread
  rw [entriesOfDraft_append] at hentries
  obtain ⟨s₂, hfirst, hrest⟩ := bind_eq_ok_iff.mp hentries
  obtain ⟨hnew, fill, hfill, hlater⟩ := (entriesOfDraft_cons_eq_ok_iff hfind).mp hrest
  apply ofDraft_object_eq_ok_iff.mpr
  refine ⟨hdepth, s₁, ?_, hcomplete⟩
  rw [entriesOfDraft_append, hfirst]
  exact (entriesOfDraft_cons_eq_ok_iff hfind).mpr ⟨hnew, fill, hsame fill hfill, hlater⟩

/-- The field is not required, and `null` in it makes what a missing one makes. -/
structure Lenient {α : Type} (shape : Shape σ) (finish : σ → α) (f : RecordField σ) : Prop where
  empty : f.filled shape.empty = false
  absent : f.absent = RecordField.mayBeAbsent
  null : ∀ depth, ∃ fill, f.decoder.ofDraft depth .null = .ok fill ∧
    ∀ s, f.filled s = false → finish (fill s) = finish s

/-- A `null` put into an object makes no difference for such a field. -/
theorem Lenient.ofDraft_insert {α : Type} {finish : σ → α} {key : String} {f : RecordField σ}
    {before after : List (Option String × Draft)} {ending : Option Break} {a : α}
    (h : Lenient shape finish f) (hapart : shape.Apart) (hfind : shape.find key = some f)
    (hlacks : shape.Lacks f.name (before ++ after))
    (hread : (shape.decoder finish).ofDraft depth (.object (before ++ after) ending) = .ok a) :
    (shape.decoder finish).ofDraft depth (.object (before ++ (some key, .null) :: after) ending) =
      .ok a := by
  obtain ⟨s, hs, rfl⟩ := Decoder.map_eq_ok_iff.mp hread
  obtain ⟨fill, hfill, hfinish⟩ := h.null (depth - 1)
  obtain ⟨hinsert, hnew⟩ := hapart.ofDraft_insert hfind h.empty h.absent hlacks hfill hs
  exact Decoder.map_eq_ok_iff.mpr ⟨fill s, hinsert, hfinish s hnew⟩

end Json.Shape

theorem Json.Decoder.orDefault_object {α : Type} (d : Decoder α) (default : α) (depth : Nat)
    (fields : List (Option String × Draft)) (ending : Option Break) :
    (d.orDefault default).ofDraft depth (.object fields ending) =
      d.ofDraft depth (.object fields ending) := by
  show Except.map _ (Except.map some (d.ofDraft depth (.object fields ending))) = _
  cases d.ofDraft depth (.object fields ending) with
  | error e => rfl
  | ok a => rfl

end TaskTracking
