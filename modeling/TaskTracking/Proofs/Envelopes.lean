import TaskTracking.Message
import TaskTracking.Proofs.Records

/-! # Push frames and the data they carry

  A push frame is kept as a value until its kind is known, and only then is
  its task read; the same task alone is read straight from its text. When do
  the two ways agree?

  - An object with one entry under `type` is kept without that entry, and a
    task update is read as its data are, in whatever order the entries stand
    (`Envelope.decode_update`).
  - A kept snapshot is read as one in a text (`Snapshot.agrees_decoder`) but
    for one case: in a kept status an empty object passes for `null`, in a
    text it does not.
  - So frame and data are read alike exactly outside that case
    (`read_alike_iff`).
-/

namespace TaskTracking

open Json

/-! ### One entry of an object -/

section Entry

variable {before after : List (String × Value)} {key : String} {v : Value}

theorem not_mem_of_nodup (h : ((before ++ (key, v) :: after).map Prod.fst).Nodup) :
    key ∉ before.map Prod.fst ∧ key ∉ after.map Prod.fst := by
  rw [List.map_append, List.map_cons, List.nodup_append, List.nodup_cons] at h
  obtain ⟨-, ⟨hafter, -⟩, hdisjoint⟩ := h
  refine ⟨?_, hafter⟩
  intro hbefore
  exact hdisjoint key hbefore key List.mem_cons_self rfl

theorem nodup_of_nodup_cons (h : ((before ++ (key, v) :: after).map Prod.fst).Nodup) :
    ((before ++ after).map Prod.fst).Nodup := by
  apply List.Nodup.sublist _ h
  rw [List.map_append, List.map_append, List.map_cons]
  exact List.Sublist.append_left (List.sublist_cons_self _ _) _

/-- Entries under other keys remain when one is taken out. -/
theorem mem_of_mem_ne {f : String × Value} (h : f ∈ before ++ (key, v) :: after)
    (hne : f.1 ≠ key) : f ∈ before ++ after := by
  rcases List.mem_append.mp h with h | h
  · exact List.mem_append_left _ h
  · rcases List.mem_cons.mp h with rfl | h
    · exact absurd rfl hne
    · exact List.mem_append_right _ h

end Entry

/-! ### What is kept until the kind is known -/

namespace Json.Tagged

variable {τ : Type} {key : String} (tags : String → Outcome τ) {depth : Nat}

/-- Entries under other keys are kept as they are. -/
theorem entries_append (tag : Option τ) (kept fields : List (String × Value))
    (rest : List (Option String × Draft)) (hkey : key ∉ fields.map Prod.fst)
    (hnesting : ∀ f ∈ fields, f.2.nesting ≤ depth) :
    entries key tags depth tag kept (fields.map (fun f => (some f.1, f.2.draft)) ++ rest) =
      entries key tags depth tag (fields.reverse ++ kept) rest := by
  induction fields generalizing kept with
  | nil => rfl
  | cons f fields ih =>
    rw [List.map_cons, List.mem_cons, not_or] at hkey
    have hhead := Draft.keep_draft f.2 (hnesting f List.mem_cons_self)
    have htail := ih (f :: kept) hkey.2 fun g hg => hnesting g (List.mem_cons_of_mem f hg)
    rw [List.map_cons, List.cons_append, entries.eq_def]
    dsimp only
    rw [if_neg (Ne.symm hkey.1), hhead]
    dsimp only
    rw [htail, List.reverse_cons, List.append_assoc, List.singleton_append]

variable {before after : List (String × Value)} {name : String} {t : τ}

theorem entries_eq (hnodup : ((before ++ (key, .string name) :: after).map Prod.fst).Nodup)
    (hnesting : ∀ f ∈ before ++ (key, .string name) :: after, f.2.nesting ≤ depth)
    (ht : tags name = .ok t) :
    entries key tags depth none []
        ((before ++ (key, .string name) :: after).map fun f => (some f.1, f.2.draft)) =
      .ok (some t, before ++ after) := by
  obtain ⟨hbefore, hafter⟩ := not_mem_of_nodup hnodup
  have hhead : ∀ f ∈ before, f.2.nesting ≤ depth :=
    fun f hf => hnesting f (List.mem_append_left _ hf)
  have htail : ∀ f ∈ after, f.2.nesting ≤ depth :=
    fun f hf => hnesting f (List.mem_append_right _ (List.mem_cons_of_mem _ hf))
  have hrest := entries_append tags (some t) before.reverse after [] hafter htail
  rw [List.append_nil] at hrest
  -- The entries before the key, the key itself, and those after it.
  rw [List.map_append, entries_append tags none [] before _ hbefore hhead, List.append_nil,
    List.map_cons, entries.eq_def]
  dsimp only
  rw [if_pos rfl, Value.draft, tagOfDraft, ht]
  dsimp only
  rw [hrest, entries, List.reverse_append, List.reverse_reverse, List.reverse_reverse]

/-- An object with one entry under the key is kept without that entry. -/
theorem ofDraft_object (expected : String)
    (hnodup : ((before ++ (key, .string name) :: after).map Prod.fst).Nodup)
    (hnesting : ∀ f ∈ before ++ (key, .string name) :: after, f.2.nesting ≤ depth)
    (ht : tags name = .ok t) :
    ofDraft expected key tags (depth + 1)
        (Value.object (before ++ (key, .string name) :: after)).draft =
      .ok { tag := t, content := .object (before ++ after) } := by
  rw [Value.draft, Value.fieldDrafts_eq, ofDraft, if_neg (Nat.succ_ne_zero depth),
    Nat.add_sub_cancel, entries_eq tags hnodup hnesting ht]
  rfl

end Json.Tagged

/-! ### A task update -/

namespace ServerMessage

theorem find_other {fields : List (String × Value)} (hid : "task_id" ∉ fields.map Prod.fst)
    (hdata : "data" ∉ fields.map Prod.fst) : ∀ f ∈ fields, updateShape.find f.1 = none := by
  intro f hf
  have hmem : f.1 ∈ fields.map Prod.fst := List.mem_map_of_mem hf
  have hneId : "task_id" ≠ f.1 := fun h => hid (h ▸ hmem)
  have hneData : "data" ≠ f.1 := fun h => hdata (h ▸ hmem)
  simp [updateShape, Shape.find, hneId, hneData]

theorem entriesOfValue_data (taskId : Option String) (d : Value) (rest : List (String × Value)) :
    updateShape.entriesOfValue { taskId } (("data", d) :: rest) =
      (Snapshot.decoder.ofValue d).bind fun s =>
        updateShape.entriesOfValue { taskId, data := some s } rest := by
  rw [Shape.entriesOfValue_cons d rest rfl rfl]
  show ((Snapshot.decoder.ofValue d).map _).bind _ = _
  cases Snapshot.decoder.ofValue d with
  | error e => rfl
  | ok s => rfl

/-- The entries of a task update, whatever their order and whatever else there is. -/
theorem entriesOfValue_update {fields : List (String × Value)} {t : String} {d : Value}
    (hnodup : (fields.map Prod.fst).Nodup) (hid : ("task_id", .string t) ∈ fields)
    (hdata : ("data", d) ∈ fields) :
    updateShape.entriesOfValue {} fields =
      (Snapshot.decoder.ofValue d).bind fun s => .ok { taskId := some t, data := some s } := by
  obtain ⟨before, after, rfl⟩ := List.append_of_mem hid
  obtain ⟨hbefore, hafter⟩ := not_mem_of_nodup hnodup
  have hne : "data" ≠ "task_id" := by decide
  rcases List.mem_append.mp (mem_of_mem_ne hdata hne) with hdata | hdata
  · -- The data stand before the id.
    obtain ⟨front, middle, rfl⟩ := List.append_of_mem hdata
    rw [List.append_assoc, List.cons_append] at hnodup
    obtain ⟨hfront, hrest⟩ := not_mem_of_nodup hnodup
    rw [List.map_append, List.map_cons, List.mem_append, List.mem_cons, not_or, not_or] at hbefore
    rw [List.map_append, List.map_cons, List.mem_append, List.mem_cons, not_or, not_or] at hrest
    rw [List.append_assoc, Shape.entriesOfValue_append _ (find_other hbefore.1 hfront),
      List.cons_append, entriesOfValue_data]
    congr 1
    funext s
    rw [Shape.entriesOfValue_append _ (find_other hbefore.2.2 hrest.1),
      Shape.entriesOfValue_cons _ _ rfl rfl, ← List.append_nil after]
    exact Shape.entriesOfValue_append [] (find_other hafter hrest.2.2)
  · -- The id stands before the data.
    obtain ⟨middle, back, rfl⟩ := List.append_of_mem hdata
    rw [← List.cons_append, ← List.append_assoc] at hnodup
    obtain ⟨hfront, hback⟩ := not_mem_of_nodup hnodup
    rw [List.map_append, List.map_cons, List.mem_append, List.mem_cons, not_or, not_or] at hafter
    rw [List.map_append, List.map_cons, List.mem_append, List.mem_cons, not_or, not_or] at hfront
    rw [Shape.entriesOfValue_append _ (find_other hbefore hfront.1),
      Shape.entriesOfValue_cons _ _ rfl rfl]
    show updateShape.entriesOfValue { taskId := some t } _ = _
    rw [Shape.entriesOfValue_append _ (find_other hafter.1 hfront.2.2), entriesOfValue_data]
    congr 1
    funext s
    rw [← List.append_nil back]
    exact Shape.entriesOfValue_append [] (find_other hafter.2.2 hback)

/-- A kept task update is read as its data is. -/
theorem ofValue_update {fields : List (String × Value)} {t : String} {d : Value}
    (hnodup : (fields.map Prod.fst).Nodup) (hid : ("task_id", .string t) ∈ fields)
    (hdata : ("data", d) ∈ fields) :
    (updateShape.ofValue (.object fields)).map Partial.finish =
      (Snapshot.decoder.ofValue d).map (.taskUpdate t) := by
  rw [Shape.ofValue]
  show Except.map _ (Except.bind (updateShape.entriesOfValue {} fields) _) = _
  rw [entriesOfValue_update hnodup hid hdata]
  cases Snapshot.decoder.ofValue d with
  | error e => rfl
  | ok s => rfl

end ServerMessage

/-! ### A snapshot in a text and a kept one -/

/-- An object with one key that holds an empty object, with `null` in the place of that. -/
def Json.Value.unboxed : Value → Value
  | .object [(name, .object [])] => .object [(name, .null)]
  | v => v

theorem Json.Value.unboxed_or (v : Value) :
    (∃ name, v = .object [(name, .object [])] ∧ v.unboxed = .object [(name, .null)]) ∨
      v.unboxed = v := by
  unfold unboxed
  split
  · next name => exact .inl ⟨name, rfl, rfl⟩
  · exact .inr rfl

namespace Json.Decoder

variable {α : Type} (choices : List (String × α))

theorem ofDraft_choice {depth : Nat} (hdepth : depth ≠ 0) (name : String) (content : Draft)
    (more : List (Option String × Draft)) :
    (choice choices).ofDraft depth (.object ((some name, content) :: more) none) =
      (pick choices name).bind fun a =>
        match content with
        | .null => orFault ((closeChoice more none).map fun _ => a)
        | other => .error (other.refuse "unit") := by
  show (if depth = 0 then _ else _) = _
  rw [if_neg hdepth]
  rfl

/-- A choice is read from a text as from a kept value, but for the empty object that passes
    for `null` in a kept value. -/
theorem agrees_choice : (choice choices).AgreesVia Value.unboxed := by
  intro depth v h
  rcases v.unboxed_or with ⟨name, rfl, hunboxed⟩ | hunboxed
  · have hdepth : depth ≠ 0 := by
      rintro rfl
      cases h
    -- The text has `null` where the kept value has the empty object.
    rw [hunboxed]
    show Agree ((choice choices).ofDraft depth (.object [(some name, .null)] none)) _
    rw [ofDraft_choice choices hdepth]
    exact .refl _
  · rw [hunboxed]
    cases v with
    | string name => exact .refl _
    | null => exact .errors _ _
    | bool b => exact .errors _ _
    | number n => exact .errors _ _
    | array items => exact .errors _ _
    | object fields =>
      have hdepth : depth ≠ 0 := by
        rintro rfl
        cases h
      rw [Value.draft, Value.fieldDrafts_eq]
      cases fields with
      | nil =>
        show Agree (if depth = 0 then _ else _) _
        rw [if_neg hdepth]
        exact .errors _ _
      | cons f rest =>
        obtain ⟨name, content⟩ := f
        rw [List.map_cons, ofDraft_choice choices hdepth]
        cases rest with
        | nil =>
          show Agree ((pick choices name).bind _) ((pick choices name).bind _)
          refine Agree.bind (.refl _) fun a => ?_
          -- An empty object was boxed, and any other content is refused both ways.
          cases content with
          | null => exact .refl _
          | object entries =>
            cases entries with
            | nil => cases hunboxed
            | cons g entries => exact .errors _ _
          | _ => exact .errors _ _
        | cons g rest =>
          -- A second entry is one too many, whatever the first one is.
          show Agree _ (.error _)
          cases pick choices name with
          | error e => exact .errors _ _
          | ok a =>
            cases content with
            | null => exact .errors _ _
            | _ => exact .errors _ _

end Json.Decoder

theorem Json.Shape.changed_id {σ : Type} (shape : Shape σ) (v : Value) :
    shape.changed (fun _ => id) v = v := by
  have hitems : ∀ (fields : List (RecordField σ)) (items : List Value),
      Shape.changeItems (fun _ => id) fields items = items := by
    intro fields
    induction fields with
    | nil =>
      intro items
      rfl
    | cons f fields ih =>
      intro items
      cases items with
      | nil => rfl
      | cons v items =>
        rw [Shape.changeItems, ih]
        rfl
  cases v with
  | array items => rw [Shape.changed, hitems]
  | object fields => simp [Shape.changed]
  | _ => rfl

theorem Progress.agrees_decoder : Progress.decoder.AgreesVia id := by
  have hfields : Progress.shape.FieldsAgree fun _ => id := by
    intro f hf key hkey
    simp only [shape, List.mem_cons, List.not_mem_nil, or_false] at hf
    rcases hf with rfl | rfl | rfl | rfl
    · exact Decoder.agrees_map (Decoder.agrees_orDefault (Decoder.agrees_naturalOfBits 64) 0) _
    · exact Decoder.agrees_map (Decoder.agrees_orDefault (Decoder.agrees_naturalOfBits 64) 0) _
    · exact Decoder.agrees_map (Decoder.agrees_orDefault Decoder.agrees_binary64 .zero) _
    · exact Decoder.agrees_map (Decoder.agrees_orDefault (Decoder.agrees_textAs _) "") _
  intro depth v hv
  have h := Shape.agrees_decoder hfields Partial.finish depth v hv
  rw [Shape.changed_id] at h
  exact h

namespace Snapshot

/-- What is changed of a kept snapshot for it to be read alike from a text: the status. -/
def statusUnboxed (key : String) : Value → Value :=
  if key = "status" then Value.unboxed else fun v => v

/-- The snapshot with its status unboxed. -/
def unboxed : Value → Value := shape.changed statusUnboxed

theorem fieldsAgree_statusUnboxed : shape.FieldsAgree statusUnboxed := by
  intro f hf key hkey
  simp only [shape, List.mem_cons, List.not_mem_nil, or_false] at hf
  have hother : key ≠ "status" → statusUnboxed key = fun v => v := fun h => if_neg h
  rcases hf with rfl | rfl | rfl | rfl | rfl | rfl | rfl
  · rw [hother (by rcases hkey with rfl | hkey <;> simp_all)]
    exact Decoder.agrees_map (Decoder.agrees_textAs _) _
  · have hstatus : key = "status" := by simpa [eq_comm] using hkey
    rw [hstatus]
    exact Decoder.agrees_map (Decoder.agrees_choice _) _
  · rw [hother (by simp_all [eq_comm])]
    exact Decoder.agrees_map (Decoder.agrees_orDefault Progress.agrees_decoder {}) _
  · rw [hother (by simp_all [eq_comm])]
    exact Decoder.agrees_map (Decoder.agrees_optional Decoder.agrees_any) _
  · rw [hother (by simp_all [eq_comm])]
    exact Decoder.agrees_map (Decoder.agrees_optional (Decoder.agrees_textAs _)) _
  · rw [hother (by simp_all [eq_comm])]
    exact Decoder.agrees_map Decoder.agrees_any _
  · rw [hother (by simp_all [eq_comm])]
    exact Decoder.agrees_map Decoder.agrees_any _

/-- A kept snapshot is read as one in a text with its status unboxed. -/
theorem agrees_decoder : decoder.AgreesVia unboxed :=
  Shape.agrees_decoder fieldsAgree_statusUnboxed Partial.finish

/-- No status that is read from a text is boxed. -/
theorem unboxed_of_ofDraft_status {depth : Nat} {v : Value} {status : Status}
    (h : Status.decoder.ofDraft depth v.draft = .ok status) : v.unboxed = v := by
  rcases v.unboxed_or with ⟨name, rfl, -⟩ | hunboxed
  · have hdepth : depth ≠ 0 := by
      rintro rfl
      cases h
    have hread := Decoder.ofDraft_choice Status.table hdepth name (.object [] none) []
    rw [Status.decoder] at h
    obtain ⟨a, -, hcontent⟩ := bind_eq_ok_iff.mp (hread.symm.trans h)
    cases hcontent
  · exact hunboxed

theorem spares_statusUnboxed : shape.Spares statusUnboxed where
  field := by
    intro f hf key hkey depth v fill h
    by_cases hstatus : key = "status"
    · simp only [shape, List.mem_cons, List.not_mem_nil, or_false] at hf
      rcases hf with rfl | rfl | rfl | rfl | rfl | rfl | rfl
      · simp_all
      · obtain ⟨status, hread, -⟩ := Decoder.map_eq_ok_iff.mp h
        rw [hstatus]
        exact unboxed_of_ofDraft_status hread
      all_goals simp_all
    · unfold statusUnboxed
      rw [if_neg hstatus]
  other := by
    intro key hfind v
    unfold statusUnboxed
    split
    · next hstatus =>
      rw [hstatus] at hfind
      cases hfind
    · rfl

/-- No text with a boxed status is read. -/
theorem unboxed_of_ofDraft {depth : Nat} {d : Value} {s : Snapshot}
    (h : decoder.ofDraft depth d.draft = .ok s) : unboxed d = d := by
  obtain ⟨p, hp, -⟩ := Decoder.map_eq_ok_iff.mp h
  exact spares_statusUnboxed.of_ofDraft hp

end Snapshot

/-! ### Push frames and answers -/

/-- A push frame of the kind: an object with distinct keys that is not nested too deeply. -/
structure Envelope (frame kind : String) (fields : List (String × Value)) : Prop where
  reads : Reads frame (.object fields)
  nodup : (fields.map Prod.fst).Nodup
  nesting : ∀ f ∈ fields, f.2.nesting ≤ 126
  kind : ("type", .string kind) ∈ fields

namespace Envelope

open ServerMessage

variable {frame kind : String} {fields : List (String × Value)}

/-- A frame is read off the entries besides its kind. -/
theorem decode_eq (h : Envelope frame kind fields) {before after : List (String × Value)}
    (hfields : fields = before ++ ("type", .string kind) :: after) :
    ServerMessage.decode frame =
      if kind = "task_update" then
        (updateShape.ofValue (.object (before ++ after))).map Partial.finish
      else .ok .other := by
  subst hfields
  have htagged := Tagged.ofDraft_object kindNamed "internally tagged enum ServerMessage" h.nodup
    h.nesting rfl
  unfold ServerMessage.decode ServerMessage.ofDraft
  rw [h.reads]
  show Except.bind (Except.bind (Tagged.ofDraft _ "type" kindNamed (126 + 1) _) _) _ = _
  rw [htagged]
  by_cases hkind : kind = "task_update"
  · rw [if_pos hkind, if_pos hkind]
    show Except.bind ((updateShape.ofValue _).map Partial.finish) _ = _
    cases updateShape.ofValue (.object (before ++ after)) with
    | error e => rfl
    | ok s => rfl
  · rw [if_neg hkind, if_neg hkind]
    rfl

theorem decode_other (h : Envelope frame kind fields) (hkind : kind ≠ "task_update") :
    ServerMessage.decode frame = .ok .other := by
  obtain ⟨before, after, hfields⟩ := List.append_of_mem h.kind
  rw [h.decode_eq hfields, if_neg hkind]

theorem decode_update (h : Envelope frame "task_update" fields) {taskId : String} {d : Value}
    (hid : ("task_id", .string taskId) ∈ fields) (hdata : ("data", d) ∈ fields) :
    ServerMessage.decode frame = (Snapshot.decoder.ofValue d).map (.taskUpdate taskId) := by
  obtain ⟨before, after, hfields⟩ := List.append_of_mem h.kind
  have hid' : ("task_id", Value.string taskId) ∈ before ++ after :=
    mem_of_mem_ne (hfields ▸ hid) (show "task_id" ≠ "type" by decide)
  have hdata' : ("data", d) ∈ before ++ after :=
    mem_of_mem_ne (hfields ▸ hdata) (show "data" ≠ "type" by decide)
  rw [h.decode_eq hfields, if_pos rfl,
    ofValue_update (nodup_of_nodup_cons (hfields ▸ h.nodup)) hid' hdata']

end Envelope

/-- The frame is read exactly if the text alone is read as a snapshot, and then gives that
    snapshot under the id of the frame. -/
def ReadAlike (frame text taskId : String) : Prop :=
  (∀ m, ServerMessage.decode frame = .ok m →
    ∃ s, Snapshot.decoder.runText text = .ok s ∧
      m.taskUpdate? = some (taskId, s.withId taskId)) ∧
  (∀ s, Snapshot.decoder.runText text = .ok s →
    ∃ m, ServerMessage.decode frame = .ok m ∧ m.taskUpdate? = some (taskId, s.withId taskId))

/-- The value is read as a snapshot. -/
def Snapshot.Decodes (d : Value) : Prop :=
  ∃ s, decoder.ofDraft Draft.depthLimit d.draft = .ok s

/-- A frame of a task update is read as its data would be read alone with the status
    unboxed. So the frame and the data alone are read alike exactly if the status is not
    boxed, or if the data are no snapshot even without the box. A frame of another kind
    tells nothing. -/
theorem read_alike_iff {frame kind : String} {fields : List (String × Value)}
    (h : Envelope frame kind fields) :
    if kind = "task_update" then
      ∀ taskId d text, ("task_id", .string taskId) ∈ fields → ("data", d) ∈ fields →
        Reads text d →
          (∀ m, ServerMessage.decode frame = .ok m ↔
            ∃ s, Snapshot.decoder.ofDraft Draft.depthLimit (Snapshot.unboxed d).draft = .ok s ∧
              m = .taskUpdate taskId s) ∧
          (ReadAlike frame text taskId ↔
            Snapshot.unboxed d = d ∨ ¬ Snapshot.Decodes (Snapshot.unboxed d))
    else ∃ m, ServerMessage.decode frame = .ok m ∧ m.taskUpdate? = none := by
  split
  · next hkind =>
    subst hkind
    intro taskId d text hid hdata htext
    have hframe := h.decode_update hid hdata
    have hagree := Snapshot.agrees_decoder Draft.depthLimit d
      (Nat.le_succ_of_le (h.nesting ("data", d) hdata))
    have hdecode : ∀ m, ServerMessage.decode frame = .ok m ↔
        ∃ s, Snapshot.decoder.ofDraft Draft.depthLimit (Snapshot.unboxed d).draft = .ok s ∧
          m = .taskUpdate taskId s := by
      intro m
      rw [hframe, Decoder.map_eq_ok_iff]
      simp only [hagree.eq_ok_iff, eq_comm]
    refine ⟨hdecode, ?_⟩
    constructor
    · intro halike
      by_cases hunboxed : Snapshot.unboxed d = d
      · exact .inl hunboxed
      · -- No text with a boxed status is read, so the frame must not be either.
        refine .inr ?_
        rintro ⟨s, hs⟩
        obtain ⟨s', hs', -⟩ := halike.1 _ ((hdecode _).mpr ⟨s, hs, rfl⟩)
        exact hunboxed (Snapshot.unboxed_of_ofDraft ((Decoder.runText_eq_ok_iff htext).mp hs'))
    · intro hd
      constructor
      · intro m hm
        obtain ⟨s, hs, rfl⟩ := (hdecode m).mp hm
        rcases hd with hd | hd
        · rw [hd] at hs
          exact ⟨s, Decoder.runText_of_reads htext hs, rfl⟩
        · exact absurd ⟨s, hs⟩ hd
      · intro s hs
        have hread := (Decoder.runText_eq_ok_iff htext).mp hs
        have hunboxed := Snapshot.unboxed_of_ofDraft hread
        rw [hunboxed] at hdecode
        exact ⟨_, (hdecode _).mpr ⟨s, hread, rfl⟩, rfl⟩
  · next hkind => exact ⟨.other, h.decode_other hkind, rfl⟩

/-! ### Two frames -/

/-- The entries of a frame that tells of `T1`, the data first and an entry of no interest last. -/
def envelopeOf (d : Value) : List (String × Value) :=
  [("data", d), ("task_id", .string "T1"), ("type", .string "task_update"), ("seq", .array [.null])]

theorem envelope_envelopeOf {d : Value} (hnesting : d.nesting ≤ 126) (hnumbers : d.numbers = []) :
    Envelope (Value.object (envelopeOf d)).compact "task_update" (envelopeOf d) where
  reads := by
    apply reads_compact
    intro n hn
    simp [envelopeOf, Value.numbers, Value.fieldNumbers, Value.itemNumbers, hnumbers] at hn
  nodup := by
    simp [envelopeOf]
  nesting := by
    intro f hf
    simp only [envelopeOf, List.mem_cons, List.not_mem_nil, or_false] at hf
    rcases hf with rfl | rfl | rfl | rfl
    · exact hnesting
    · exact Nat.zero_le _
    · exact Nat.zero_le _
    · simp [Value.nesting, Value.itemNesting]
  kind := by simp [envelopeOf]

/-- Data with the status as an object, an array for the progress and a null error. -/
def plainData : Value :=
  .object [("status", .object [("running", .null)]), ("progress", .array [.null]),
    ("error", .null)]

theorem read_alike_plain :
    Snapshot.Decodes plainData ∧
      Envelope (Value.object (envelopeOf plainData)).compact "task_update" (envelopeOf plainData) ∧
      ReadAlike (Value.object (envelopeOf plainData)).compact plainData.compact "T1" := by
  have henvelope := envelope_envelopeOf (d := plainData) (by decide) rfl
  have hreads : Reads plainData.compact plainData := by
    apply reads_compact
    simp [plainData, Value.numbers, Value.fieldNumbers, Value.itemNumbers]
  have h := read_alike_iff henvelope
  rw [if_pos rfl] at h
  exact ⟨⟨_, rfl⟩, henvelope, (h "T1" plainData plainData.compact (by simp [envelopeOf])
    (by simp [envelopeOf]) hreads).2.mpr (.inl rfl)⟩

/-- Data with an empty object in the place of the `null`. -/
def boxedData : Value := .object [("status", .object [("running", .object [])])]

/-- The frame is read, and the data alone are not. -/
theorem not_read_alike_boxed :
    Envelope (Value.object (envelopeOf boxedData)).compact "task_update" (envelopeOf boxedData) ∧
      Reads boxedData.compact boxedData ∧
      ¬ ReadAlike (Value.object (envelopeOf boxedData)).compact boxedData.compact "T1" := by
  have henvelope := envelope_envelopeOf (d := boxedData) (by decide) rfl
  have hreads : Reads boxedData.compact boxedData := by
    apply reads_compact
    simp [boxedData, Value.numbers, Value.fieldNumbers]
  refine ⟨henvelope, hreads, ?_⟩
  intro halike
  have hframe : ServerMessage.decode (Value.object (envelopeOf boxedData)).compact =
      .ok (.taskUpdate "T1" { status := .running }) :=
    henvelope.decode_update (d := boxedData) (by simp [envelopeOf]) (by simp [envelopeOf])
  obtain ⟨s, hs, -⟩ := halike.1 _ hframe
  cases (Decoder.runText_eq_ok_iff hreads).mp hs

end TaskTracking
