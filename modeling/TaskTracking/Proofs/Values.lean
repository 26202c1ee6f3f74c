import TaskTracking.Proofs.Numerals

/-! # Values and their drafts

  The draft of a value is what a text shows that holds the value.

  - A draft is kept exactly if it is the draft of a value that is not nested
    too deeply (`Draft.keep_eq_ok_iff`), and such a draft is skipped without
    objection (`Draft.skip_draft`).
  - Merging the entries of equal keys is done once and for all
    (`Value.merged_merged`), adds no numbers and no depth.
-/

namespace TaskTracking.Json

namespace Value

/-- A property of all values, by what they are made of. -/
@[elab_as_elim, induction_eliminator]
theorem induction {motive : Value → Prop} (null : motive .null) (bool : ∀ b, motive (.bool b))
    (number : ∀ n, motive (.number n)) (string : ∀ s, motive (.string s))
    (array : ∀ items, (∀ v ∈ items, motive v) → motive (.array items))
    (object : ∀ fields, (∀ f ∈ fields, motive f.2) → motive (.object fields)) (v : Value) :
    motive v :=
  @Value.rec motive (fun items => ∀ v ∈ items, motive v) (fun fields => ∀ f ∈ fields, motive f.2)
    (fun f => motive f.2) null bool number string array object (by simp)
    (fun v items hv hitems => by simpa using ⟨hv, hitems⟩) (by simp)
    (fun f fields hf hfields => by
      intro g hg
      rcases List.mem_cons.mp hg with rfl | hg
      · exact hf
      · exact hfields g hg)
    (fun _ _ hv => hv) v

/-! ### The draft of a value -/

mutual

/-- The draft that a value has in a text. -/
def draft : Value → Draft
  | .null => .null
  | .bool b => .bool b
  | .number n => .number (some n)
  | .string s => .string (some s)
  | .array items => .array (itemDrafts items) none
  | .object fields => .object (fieldDrafts fields) none

def itemDrafts : List Value → List Draft
  | [] => []
  | v :: rest => v.draft :: itemDrafts rest

def fieldDrafts : List (String × Value) → List (Option String × Draft)
  | [] => []
  | (k, v) :: rest => (some k, v.draft) :: fieldDrafts rest

end

mutual

/-- The numbers in a value. -/
def numbers : Value → List Number
  | .number n => [n]
  | .array items => itemNumbers items
  | .object fields => fieldNumbers fields
  | .null | .bool _ | .string _ => []

def itemNumbers : List Value → List Number
  | [] => []
  | v :: rest => v.numbers ++ itemNumbers rest

def fieldNumbers : List (String × Value) → List Number
  | [] => []
  | (_, v) :: rest => v.numbers ++ fieldNumbers rest

end

mutual

/-- How many arrays and objects stand in one another. -/
def nesting : Value → Nat
  | .array items => itemNesting items + 1
  | .object fields => fieldNesting fields + 1
  | .null | .bool _ | .number _ | .string _ => 0

def itemNesting : List Value → Nat
  | [] => 0
  | v :: rest => max v.nesting (itemNesting rest)

def fieldNesting : List (String × Value) → Nat
  | [] => 0
  | (_, v) :: rest => max v.nesting (fieldNesting rest)

end

theorem itemDrafts_eq (items : List Value) : itemDrafts items = items.map draft := by
  induction items with
  | nil => rfl
  | cons v rest ih => rw [itemDrafts, ih, List.map_cons]

theorem fieldDrafts_eq (fields : List (String × Value)) :
    fieldDrafts fields = fields.map fun f => (some f.1, f.2.draft) := by
  induction fields with
  | nil => rfl
  | cons f rest ih => rw [fieldDrafts, ih, List.map_cons]

theorem itemNumbers_eq (items : List Value) : itemNumbers items = items.flatMap numbers := by
  induction items with
  | nil => rfl
  | cons v rest ih => rw [itemNumbers, ih, List.flatMap_cons]

theorem fieldNumbers_eq (fields : List (String × Value)) :
    fieldNumbers fields = fields.flatMap fun f => f.2.numbers := by
  induction fields with
  | nil => rfl
  | cons f rest ih => rw [fieldNumbers, ih, List.flatMap_cons]

theorem fieldNumbers_append (fields more : List (String × Value)) :
    fieldNumbers (fields ++ more) = fieldNumbers fields ++ fieldNumbers more := by
  rw [fieldNumbers_eq, fieldNumbers_eq, fieldNumbers_eq, List.flatMap_append]

theorem itemNesting_le_iff {items : List Value} {n : Nat} :
    itemNesting items ≤ n ↔ ∀ v ∈ items, v.nesting ≤ n := by
  induction items with
  | nil => simp [itemNesting]
  | cons v rest ih => rw [itemNesting, Nat.max_le, ih, List.forall_mem_cons]

theorem fieldNesting_le_iff {fields : List (String × Value)} {n : Nat} :
    fieldNesting fields ≤ n ↔ ∀ f ∈ fields, f.2.nesting ≤ n := by
  induction fields with
  | nil => simp [fieldNesting]
  | cons f rest ih => rw [fieldNesting, Nat.max_le, ih, List.forall_mem_cons]

end Value

/-! ### Keeping and skipping -/

namespace Draft

theorem keepItems_map (depth : Nat) (items : List Value)
    (h : ∀ v ∈ items, keep depth v.draft = .ok v) :
    keepItems depth (items.map Value.draft) = .ok items := by
  induction items with
  | nil => rfl
  | cons v rest ih =>
    have hhead := h v (by simp)
    have htail := ih fun w hw => h w (by simp [hw])
    rw [List.map_cons, keepItems, hhead, htail]
    rfl

theorem keepFields_map (depth : Nat) (fields : List (String × Value))
    (h : ∀ f ∈ fields, keep depth f.2.draft = .ok f.2) :
    keepFields depth (fields.map fun f => (some f.1, f.2.draft)) = .ok fields := by
  induction fields with
  | nil => rfl
  | cons f rest ih =>
    have hhead := h f (by simp)
    have htail := ih fun g hg => h g (by simp [hg])
    rw [List.map_cons, keepFields, hhead, htail]
    rfl

/-- A value that is not too deep is kept as it is. -/
theorem keep_draft (v : Value) {depth : Nat} (h : v.nesting ≤ depth) :
    keep depth v.draft = .ok v := by
  induction v generalizing depth with
  | null => rfl
  | bool => rfl
  | number => rfl
  | string => rfl
  | array items ih =>
    rw [Value.nesting] at h
    have hitems := Value.itemNesting_le_iff.mp (Nat.le_sub_of_add_le h)
    have hkeep := keepItems_map (depth - 1) items fun v hv => ih v hv (hitems v hv)
    rw [Value.draft, Value.itemDrafts_eq, keep, if_neg (by omega), hkeep]
    rfl
  | object fields ih =>
    rw [Value.nesting] at h
    have hfields := Value.fieldNesting_le_iff.mp (Nat.le_sub_of_add_le h)
    have hkeep := keepFields_map (depth - 1) fields fun f hf => ih f hf (hfields f hf)
    rw [Value.draft, Value.fieldDrafts_eq, keep, if_neg (by omega), hkeep]
    rfl

mutual

/-- What is kept was the draft of a value. -/
theorem eq_draft_of_keep : ∀ {depth : Nat} {d : Draft} {v : Value}, keep depth d = .ok v →
    d = v.draft ∧ v.nesting ≤ depth
  | _, .missing, _, h | _, .stray, _, h | _, .torn _, _, h | _, .tornString _, _, h
  | _, .number none, _, h | _, .string none, _, h => by
    unfold keep at h
    cases h
  | _, .nameless first, _, h => by
    cases first <;> simp [keep] at h
  | _, .null, _, h | _, .bool _, _, h | _, .number (some _), _, h | _, .string (some _), _, h => by
    unfold keep at h
    cases h
    exact ⟨rfl, Nat.zero_le _⟩
  | depth, .array items ending, _, h => by
    unfold keep at h
    split at h
    · cases h
    · next hdepth =>
      obtain ⟨values, hitems, h⟩ := bind_eq_ok_iff.mp h
      obtain ⟨⟨⟩, hclose, h⟩ := bind_eq_ok_iff.mp h
      cases h
      -- An array that breaks off is not kept.
      cases ending with
      | some place => cases hclose
      | none =>
        obtain ⟨rfl, hnesting⟩ := eq_drafts_of_keepItems hitems
        have hle := Value.itemNesting_le_iff.mpr hnesting
        rw [Value.draft, Value.itemDrafts_eq, Value.nesting]
        exact ⟨rfl, by omega⟩
  | depth, .object fields ending, _, h => by
    unfold keep at h
    split at h
    · cases h
    · next hdepth =>
      obtain ⟨entries, hfields, h⟩ := bind_eq_ok_iff.mp h
      obtain ⟨⟨⟩, hclose, h⟩ := bind_eq_ok_iff.mp h
      cases h
      cases ending with
      | some place => cases hclose
      | none =>
        obtain ⟨rfl, hnesting⟩ := eq_drafts_of_keepFields hfields
        have hle := Value.fieldNesting_le_iff.mpr hnesting
        rw [Value.draft, Value.fieldDrafts_eq, Value.nesting]
        exact ⟨rfl, by omega⟩

theorem eq_drafts_of_keepItems : ∀ {depth : Nat} {ds : List Draft} {items : List Value},
    keepItems depth ds = .ok items →
      ds = items.map Value.draft ∧ ∀ v ∈ items, v.nesting ≤ depth
  | _, [], _, h => by
    unfold keepItems at h
    cases h
    exact ⟨rfl, by simp⟩
  | _, d :: ds, _, h => by
    unfold keepItems at h
    obtain ⟨v, hv, h⟩ := bind_eq_ok_iff.mp h
    obtain ⟨rest, hrest, h⟩ := bind_eq_ok_iff.mp h
    cases h
    obtain ⟨rfl, hhead⟩ := eq_draft_of_keep hv
    obtain ⟨rfl, htail⟩ := eq_drafts_of_keepItems hrest
    exact ⟨rfl, List.forall_mem_cons.mpr ⟨hhead, htail⟩⟩

theorem eq_drafts_of_keepFields :
    ∀ {depth : Nat} {ds : List (Option String × Draft)} {fields : List (String × Value)},
      keepFields depth ds = .ok fields →
        ds = fields.map (fun f => (some f.1, f.2.draft)) ∧ ∀ f ∈ fields, f.2.nesting ≤ depth
  | _, [], _, h => by
    unfold keepFields at h
    cases h
    exact ⟨rfl, by simp⟩
  | _, (none, _) :: _, _, h => by
    unfold keepFields at h
    cases h
  | _, (some k, d) :: ds, _, h => by
    unfold keepFields at h
    obtain ⟨v, hv, h⟩ := bind_eq_ok_iff.mp h
    obtain ⟨rest, hrest, h⟩ := bind_eq_ok_iff.mp h
    cases h
    obtain ⟨rfl, hhead⟩ := eq_draft_of_keep hv
    obtain ⟨rfl, htail⟩ := eq_drafts_of_keepFields hrest
    exact ⟨rfl, List.forall_mem_cons.mpr ⟨hhead, htail⟩⟩

end

/-- A draft is kept exactly if it is that of a value which is not too deep. -/
theorem keep_eq_ok_iff {depth : Nat} {d : Draft} {v : Value} :
    keep depth d = .ok v ↔ d = v.draft ∧ v.nesting ≤ depth := by
  constructor
  · exact eq_draft_of_keep
  · rintro ⟨rfl, h⟩
    exact keep_draft v h

theorem skip_draft (v : Value) : skip v.draft = none := by
  induction v with
  | null => rfl
  | bool => rfl
  | number => rfl
  | string => rfl
  | array items ih =>
    rw [Value.draft, Value.itemDrafts_eq, skip]
    induction items with
    | nil => rfl
    | cons v rest ihrest =>
      have hv := ih v (by simp)
      have hrest := ihrest fun w hw => ih w (by simp [hw])
      rw [List.map_cons, skipItems, hv]
      exact hrest
  | object fields ih =>
    rw [Value.draft, Value.fieldDrafts_eq, skip]
    induction fields with
    | nil => rfl
    | cons f rest ihrest =>
      have hf := ih f (by simp)
      have hrest := ihrest fun g hg => ih g (by simp [hg])
      rw [List.map_cons, skipFields, hf]
      exact hrest

end Draft

/-! ### One entry for each key -/

namespace Value

theorem mergedItems_eq (items : List Value) : mergedItems items = items.map merged := by
  induction items with
  | nil => rfl
  | cons v rest ih => rw [mergedItems, ih, List.map_cons]

theorem setField_of_not_mem {k : String} {v : Value} {fields : List (String × Value)}
    (h : k ∉ fields.map Prod.fst) : setField k v fields = fields ++ [(k, v)] := by
  induction fields with
  | nil => rfl
  | cons f rest ih =>
    rw [List.map_cons, List.mem_cons, not_or] at h
    rw [setField, if_neg (Ne.symm h.1), ih h.2, List.cons_append]

theorem keys_setField (k : String) (v : Value) (fields : List (String × Value)) :
    (setField k v fields).map Prod.fst =
      if k ∈ fields.map Prod.fst then fields.map Prod.fst else fields.map Prod.fst ++ [k] := by
  induction fields with
  | nil => rfl
  | cons f rest ih =>
    rw [setField]
    by_cases hk : f.1 = k
    · simp [hk]
    · have hne : ¬ k = f.1 := Ne.symm hk
      rw [if_neg hk, List.map_cons, ih]
      by_cases hmem : k ∈ rest.map Prod.fst
      · simp [hmem]
      · simp [hmem, hne]

theorem mem_setField {k : String} {v : Value} {fields : List (String × Value)}
    {f : String × Value} (h : f ∈ setField k v fields) : f ∈ fields ∨ f.2 = v := by
  induction fields with
  | nil =>
    rw [setField, List.mem_singleton] at h
    exact .inr (congrArg Prod.snd h)
  | cons g rest ih =>
    rw [setField] at h
    split at h
    · rcases List.mem_cons.mp h with rfl | h
      · exact .inr rfl
      · exact .inl (List.mem_cons_of_mem g h)
    · rcases List.mem_cons.mp h with rfl | h
      · exact .inl List.mem_cons_self
      · rcases ih h with h | h
        · exact .inl (List.mem_cons_of_mem g h)
        · exact .inr h

theorem nodup_mergedFields {seen : List (String × Value)} (fields : List (String × Value))
    (h : (seen.map Prod.fst).Nodup) : ((mergedFields seen fields).map Prod.fst).Nodup := by
  induction fields generalizing seen with
  | nil => exact h
  | cons f rest ih =>
    rw [mergedFields]
    apply ih
    rw [keys_setField]
    split
    · exact h
    · next hmem =>
      rw [List.nodup_append]
      refine ⟨h, by simp, ?_⟩
      intro a ha b hb
      rw [List.mem_singleton.mp hb]
      rintro rfl
      exact hmem ha

theorem mem_mergedFields {seen fields : List (String × Value)} {f : String × Value}
    (h : f ∈ mergedFields seen fields) : f ∈ seen ∨ ∃ g ∈ fields, f.2 = g.2.merged := by
  induction fields generalizing seen with
  | nil => exact .inl h
  | cons g rest ih =>
    rw [mergedFields] at h
    rcases ih h with h | ⟨g', hg', hf⟩
    · rcases mem_setField h with h | h
      · exact .inl h
      · exact .inr ⟨g, List.mem_cons_self, h⟩
    · exact .inr ⟨g', List.mem_cons_of_mem g hg', hf⟩

/-- Entries with one value for each key stay as they are. -/
theorem mergedFields_of_nodup {seen fields : List (String × Value)}
    (hnodup : ((seen ++ fields).map Prod.fst).Nodup) (h : ∀ f ∈ fields, f.2.merged = f.2) :
    mergedFields seen fields = seen ++ fields := by
  induction fields generalizing seen with
  | nil => rw [mergedFields, List.append_nil]
  | cons f rest ih =>
    -- A key that is not there yet goes to the end.
    have hsplit : seen ++ f :: rest = seen ++ [f] ++ rest := by simp
    have hnew : f.1 ∉ seen.map Prod.fst := by
      rw [List.map_append, List.nodup_append] at hnodup
      intro hmem
      exact hnodup.2.2 f.1 hmem f.1 (by simp) rfl
    rw [hsplit] at hnodup
    rw [mergedFields, h f List.mem_cons_self, setField_of_not_mem hnew, hsplit]
    exact ih hnodup fun g hg => h g (List.mem_cons_of_mem f hg)

/-- A value whose keys are merged has nothing left to merge. -/
theorem merged_merged (v : Value) : v.merged.merged = v.merged := by
  induction v with
  | null => rfl
  | bool => rfl
  | number => rfl
  | string => rfl
  | array items ih =>
    rw [merged, merged, mergedItems_eq, mergedItems_eq, List.map_map]
    exact congrArg Value.array (List.map_congr_left ih)
  | object fields ih =>
    have hnodup : ((mergedFields [] fields).map Prod.fst).Nodup :=
      nodup_mergedFields fields List.nodup_nil
    -- Each key is there once, and every value comes from one that was merged.
    rw [merged, merged, mergedFields_of_nodup hnodup, List.nil_append]
    intro f hf
    rcases mem_mergedFields hf with hf | ⟨g, hg, hf⟩
    · cases hf
    · rw [hf, ih g hg]

theorem numbers_merged {v : Value} {n : Number} (h : n ∈ v.merged.numbers) : n ∈ v.numbers := by
  induction v with
  | null => exact h
  | bool => exact h
  | number => exact h
  | string => exact h
  | array items ih =>
    rw [merged, numbers, mergedItems_eq, itemNumbers_eq, List.flatMap_map] at h
    rw [numbers, itemNumbers_eq]
    obtain ⟨v, hv, h⟩ := List.mem_flatMap.mp h
    exact List.mem_flatMap.mpr ⟨v, hv, ih v hv h⟩
  | object fields ih =>
    rw [merged, numbers, fieldNumbers_eq] at h
    rw [numbers, fieldNumbers_eq]
    obtain ⟨f, hf, h⟩ := List.mem_flatMap.mp h
    rcases mem_mergedFields hf with hf | ⟨g, hg, heq⟩
    · cases hf
    · rw [heq] at h
      exact List.mem_flatMap.mpr ⟨g, hg, ih g hg h⟩

theorem nesting_merged (v : Value) : v.merged.nesting ≤ v.nesting := by
  induction v with
  | null => exact Nat.le_refl _
  | bool => exact Nat.le_refl _
  | number => exact Nat.le_refl _
  | string => exact Nat.le_refl _
  | array items ih =>
    rw [merged, nesting, nesting, mergedItems_eq]
    apply Nat.succ_le_succ
    rw [itemNesting_le_iff, List.forall_mem_map]
    intro v hv
    have hle := itemNesting_le_iff.mp (Nat.le_refl _) v hv
    exact Nat.le_trans (ih v hv) hle
  | object fields ih =>
    rw [merged, nesting, nesting]
    apply Nat.succ_le_succ
    rw [fieldNesting_le_iff]
    intro f hf
    rcases mem_mergedFields hf with hf | ⟨g, hg, heq⟩
    · cases hf
    · have hle := fieldNesting_le_iff.mp (Nat.le_refl _) g hg
      rw [heq]
      exact Nat.le_trans (ih g hg) hle

end Value

end TaskTracking.Json
