import TaskTracking.Proofs.Finiteness
import TaskTracking.Proofs.Scanning

/-! # What a text can hold

  Every number that a text shows is in range, wherever in the text it stands
  (`Draft.sound_ofString`): the scan looks at each numeral once, and takes no
  number that is out of range. The induction follows the scan.
-/

namespace TaskTracking.Json

namespace Draft

/-! ### Numbers of a text -/

mutual

/-- The numbers that a draft shows. -/
def numbers : Draft → List Number
  | .number (some n) => [n]
  | .array items _ => itemNumbers items
  | .object fields _ => fieldNumbers fields
  | _ => []

def itemNumbers : List Draft → List Number
  | [] => []
  | d :: rest => d.numbers ++ itemNumbers rest

def fieldNumbers : List (Option String × Draft) → List Number
  | [] => []
  | (_, d) :: rest => d.numbers ++ fieldNumbers rest

end

theorem itemNumbers_eq (items : List Draft) : itemNumbers items = items.flatMap numbers := by
  induction items with
  | nil => rfl
  | cons d rest ih => rw [itemNumbers, ih, List.flatMap_cons]

theorem fieldNumbers_eq (fields : List (Option String × Draft)) :
    fieldNumbers fields = fields.flatMap fun f => f.2.numbers := by
  induction fields with
  | nil => rfl
  | cons f rest ih => rw [fieldNumbers, ih, List.flatMap_cons]

theorem numbers_draft (v : Value) : v.draft.numbers = v.numbers := by
  induction v with
  | null => rfl
  | bool => rfl
  | number => rfl
  | string => rfl
  | array items ih =>
    rw [Value.draft, numbers, Value.numbers, itemNumbers_eq, Value.itemDrafts_eq,
      Value.itemNumbers_eq, List.flatMap_map, List.flatMap_def,
      List.flatMap_def]
    exact congrArg List.flatten (List.map_congr_left ih)
  | object fields ih =>
    rw [Value.draft, numbers, Value.numbers, fieldNumbers_eq, Value.fieldDrafts_eq,
      Value.fieldNumbers_eq, List.flatMap_map, List.flatMap_def,
      List.flatMap_def]
    exact congrArg List.flatten (List.map_congr_left ih)

/-- All numbers that a draft shows are in range. -/
def Sound (d : Draft) : Prop := ∀ n ∈ d.numbers, n.InRange

theorem sound_of_numbers_eq_nil {d : Draft} (h : d.numbers = []) : d.Sound := by
  intro n hn
  rw [h] at hn
  cases hn

theorem sound_array_iff {items : List Draft} {ending : Option Break} :
    (Draft.array items ending).Sound ↔ ∀ d ∈ items, d.Sound := by
  unfold Sound
  rw [numbers, itemNumbers_eq]
  simp only [List.mem_flatMap]
  exact ⟨fun h d hd n hn => h n ⟨d, hd, hn⟩, fun h n ⟨d, hd, hn⟩ => h d hd n hn⟩

theorem sound_object_iff {fields : List (Option String × Draft)} {ending : Option Break} :
    (Draft.object fields ending).Sound ↔ ∀ f ∈ fields, f.2.Sound := by
  unfold Sound
  rw [numbers, fieldNumbers_eq]
  simp only [List.mem_flatMap]
  exact ⟨fun h f hf n hn => h n ⟨f, hf, hn⟩, fun h n ⟨f, hf, hn⟩ => h f hf n hn⟩

theorem sound_scanWord {letters : List Char} {found : Draft} {text : List Item}
    (h : found.numbers = []) : (scanWord letters found text).1.Sound := by
  unfold scanWord
  split
  · exact sound_of_numbers_eq_nil h
  · exact sound_of_numbers_eq_nil rfl

theorem sound_scanString (text : List Item) : (scanString text).1.Sound := by
  unfold scanString
  split
  · exact sound_of_numbers_eq_nil rfl
  · exact sound_of_numbers_eq_nil rfl

theorem sound_scanNumber (text : List Item) : (scanNumber text).1.Sound := by
  unfold scanNumber
  split
  · next n rest hnumeral =>
    intro m hm
    cases hvalue : n.number? with
    | none =>
      rw [hvalue] at hm
      cases hm
    | some k =>
      rw [hvalue] at hm
      rw [List.mem_singleton.mp hm]
      exact Numeral.number?_inRange hvalue
  · exact sound_of_numbers_eq_nil rfl

mutual

theorem sound_scanValue : ∀ (fuel : Nat) (text : List Item), (scanValue fuel text).1.Sound
  | 0, _ => sound_of_numbers_eq_nil rfl
  | fuel + 1, text => by
    rw [scanValue]
    split
    · exact sound_of_numbers_eq_nil rfl
    · exact sound_of_numbers_eq_nil rfl
    · next c rest hspace =>
      split_ifs
      · exact sound_scanString rest
      · exact sound_array_iff.mpr (sound_scanItems fuel true rest)
      · split
        · split_ifs
          · exact sound_object_iff.mpr (sound_scanFields fuel true rest)
          · exact sound_of_numbers_eq_nil rfl
        · exact sound_of_numbers_eq_nil rfl
      · exact sound_scanWord rfl
      · exact sound_scanWord rfl
      · exact sound_scanWord rfl
      · exact sound_scanNumber _
      · exact sound_of_numbers_eq_nil rfl

theorem sound_scanItems : ∀ (fuel : Nat) (first : Bool) (text : List Item),
    ∀ d ∈ (scanItems fuel first text).1, d.Sound
  | 0, _, _ => by
    intro d hd
    cases hd
  | fuel + 1, first, text => by
    rw [scanItems]
    split
    · simp
    · next c rest hspace =>
      -- Where the item begins does not matter.
      generalize (if first then c :: rest else rest) = place
      have hitem := sound_scanValue fuel place
      split
      · simp
      · split
        · split
          · next item after hscan =>
            rw [hscan] at hitem
            exact List.forall_mem_cons.mpr ⟨hitem, sound_scanItems fuel false after⟩
          · next item hscan =>
            rw [hscan] at hitem
            simpa using hitem
        · simp

theorem sound_scanFields : ∀ (fuel : Nat) (first : Bool) (text : List Item),
    ∀ f ∈ (scanFields fuel first text).1, f.2.Sound
  | 0, _, _ => by
    intro f hf
    cases hf
  | fuel + 1, first, text => by
    -- What breaks an entry off has no numbers; only the scanned value may have some.
    have hmissing : Draft.missing.Sound := sound_of_numbers_eq_nil rfl
    have hstray : Draft.stray.Sound := sound_of_numbers_eq_nil rfl
    rw [scanFields]
    split
    · simp
    · next c rest hspace =>
      generalize (if first then c :: rest else rest) = place
      split
      · simp
      · split
        · split
          · simp
          · split
            · split
              · simp
              · split
                · simpa using hmissing
                · next colon value hcolon =>
                  have hitem := sound_scanValue fuel value
                  split
                  · split
                    · next item after hscan =>
                      rw [hscan] at hitem
                      exact List.forall_mem_cons.mpr ⟨hitem, sound_scanFields fuel false after⟩
                    · next item hscan =>
                      rw [hscan] at hitem
                      simpa using hitem
                  · simpa using hstray
            · simp
        · simp

end

/-- All numbers that a text shows are in range. -/
theorem sound_ofString (text : String) : (ofString text).draft.Sound := by
  unfold ofString document
  split
  · next d rest hscan =>
    have h := sound_scanValue (2 * (text.toList.map some).length + 2) (text.toList.map some)
    rw [hscan] at h
    exact h
  · next d hscan =>
    have h := sound_scanValue (2 * (text.toList.map some).length + 2) (text.toList.map some)
    rw [hscan] at h
    exact h

end Draft

end TaskTracking.Json
