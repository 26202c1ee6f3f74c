import TaskTracking.Proofs.Scanning
import TaskTracking.Proofs.Utf8
import TaskTracking.Store.StateFile

/-! # The text of the state file

  Entries are kept in the order of their keys (`Entries.Sorted.answer`), and
  entries in that order are read back from the text that is written for them
  (`Entries.ofFileBytes_fileBytes`), whatever the keys and the texts are.
-/

namespace TaskTracking

/-! ### The order of the keys -/

namespace Store.Entries

/-- The keys stand in their order, each key once. -/
def Sorted (e : Entries) : Prop := e.toList.Pairwise (·.1 < ·.1)

theorem mem_place {key value : String} {l : List (String × String)} {p : String × String}
    (h : p ∈ place key value l) : p = (key, value) ∨ p ∈ l := by
  induction l with
  | nil => exact .inl (List.mem_singleton.mp h)
  | cons q l ih =>
    unfold place at h
    split at h
    · rcases List.mem_cons.mp h with h | h
      · exact .inl h
      · exact .inr (List.mem_cons_of_mem q h)
    · split at h
      · exact List.mem_cons.mp h
      · rcases List.mem_cons.mp h with h | h
        · exact .inr (h ▸ List.mem_cons_self)
        · rcases ih h with h | h
          · exact .inl h
          · exact .inr (List.mem_cons_of_mem q h)

theorem Sorted.place {key value : String} {l : List (String × String)}
    (h : l.Pairwise (·.1 < ·.1)) : (Entries.place key value l).Pairwise (·.1 < ·.1) := by
  induction l with
  | nil => exact List.pairwise_singleton _ _
  | cons p l ih =>
    rw [List.pairwise_cons] at h
    obtain ⟨hhead, htail⟩ := h
    unfold Entries.place
    split
    · next heq =>
      rw [heq, List.pairwise_cons]
      exact ⟨hhead, htail⟩
    · next hne =>
      split
      · next hlt =>
        rw [List.pairwise_cons, List.pairwise_cons]
        refine ⟨?_, hhead, htail⟩
        intro q hq
        rcases List.mem_cons.mp hq with rfl | hq
        · exact hlt
        · exact String.lt_trans hlt (hhead q hq)
      · next hle =>
        rw [List.pairwise_cons]
        refine ⟨?_, ih htail⟩
        intro q hq
        rcases mem_place hq with rfl | hq
        · -- Keys are ordered linearly, so what is neither the same nor before comes after.
          by_cases hgt : p.1 < key
          · exact hgt
          · exact absurd (String.le_antisymm hgt hle) hne
        · exact hhead q hq

theorem sorted_empty : ({} : Entries).Sorted := List.Pairwise.nil

theorem Sorted.answer {e : Entries} (h : e.Sorted) (request : Request) :
    (e.answer request).1.Sorted := by
  cases request with
  | get key => exact h
  | put key value => exact Sorted.place h
  | delete key => exact List.Pairwise.filter _ h

theorem sorted_ofList (l : List (String × String)) : (ofList l).Sorted := by
  have hall (e : Entries) (h : e.Sorted) : (l.foldl (fun e p => e.put p.1 p.2) e).Sorted := by
    induction l generalizing e with
    | nil => exact h
    | cons p l ih => exact ih _ (h.answer (.put p.1 p.2))
  exact hall _ sorted_empty

/-- A key after all others goes to the end. -/
theorem place_of_lt {key value : String} {l : List (String × String)} (h : ∀ p ∈ l, p.1 < key) :
    place key value l = l ++ [(key, value)] := by
  induction l with
  | nil => rfl
  | cons p l ih =>
    have hp := h p List.mem_cons_self
    have hne : key ≠ p.1 := by
      rintro rfl
      exact String.lt_irrefl _ hp
    have hnot : ¬ key < p.1 := fun hlt => String.lt_irrefl _ (String.lt_trans hlt hp)
    unfold place
    rw [if_neg hne, if_neg hnot, ih fun q hq => h q (List.mem_cons_of_mem p hq), List.cons_append]

theorem foldl_put {l : List (String × String)} {e : Entries}
    (h : (e.toList ++ l).Pairwise (·.1 < ·.1)) :
    l.foldl (fun e (p : String × String) => e.put p.1 p.2) e = ⟨e.toList ++ l⟩ := by
  induction l generalizing e with
  | nil => rw [List.foldl_nil, List.append_nil]
  | cons p l ih =>
    have hbefore : ∀ q ∈ e.toList, q.1 < p.1 :=
      fun q hq => (List.pairwise_append.mp h).2.2 q hq p List.mem_cons_self
    have hput : e.put p.1 p.2 = ⟨e.toList ++ [p]⟩ := congrArg Entries.mk (place_of_lt hbefore)
    have hsplit : e.toList ++ p :: l = e.toList ++ [p] ++ l := by simp
    rw [hsplit] at h ⊢
    rw [List.foldl_cons, hput]
    exact ih h

/-- Entries in the order of their keys are made of their list again. -/
theorem ofList_toList {e : Entries} (h : e.Sorted) : ofList e.toList = e :=
  foldl_put (e := {}) h

end Store.Entries

/-! ### The lines -/

namespace Json

/-- One entry on its line, behind what separates it from the one before. -/
def entryLine (p : String × String) : List Char :=
  ' ' :: ' ' :: (stringText p.1 ++ ':' :: ' ' :: stringText p.2)

/-- The lines after the first one. -/
def lineTail (entries : List (String × String)) : List Char :=
  entries.flatMap fun p => ',' :: '\n' :: entryLine p

theorem entryLines_cons (p : String × String) (rest : List (String × String)) :
    entryLines (p :: rest) = entryLine p ++ (lineTail rest ++ ['\n']) := by
  induction rest generalizing p with
  | nil => simp [entryLines, entryLine, lineTail]
  | cons q rest ih =>
    rw [entryLines, ih q]
    · simp [entryLine, lineTail]
    · simp

namespace Draft

/-- The drafts of the entries. -/
def textDrafts (entries : List (String × String)) : List (Option String × Draft) :=
  entries.map fun p => (some p.1, .string (some p.2))

theorem scanValue_text (fuel : Nat) (s : String) (rest : List Item) :
    scanValue (fuel + 1) (some ' ' :: some '"' :: (quotedTail s ++ rest)) =
      (.string (some s), some rest) := by
  have hspace : skipSpace (some ' ' :: some '"' :: (quotedTail s ++ rest)) =
      some '"' :: (quotedTail s ++ rest) := rfl
  rw [scanValue_string hspace, scanString, stringScan_quotedTail]

theorem scanFields_lines (entries : List (String × String)) (fuel : Nat)
    (hfuel : entries.length + 1 < fuel) :
    scanFields fuel false ((lineTail entries ++ ['\n', '\x7d']).map some) =
      (textDrafts entries, none, some []) := by
  induction entries generalizing fuel with
  | nil =>
    obtain ⟨fuel, rfl⟩ := Nat.exists_eq_succ_of_ne_zero (n := fuel) (by omega)
    exact scanFields_close rfl
  | cons p entries ih =>
    rw [List.length_cons] at hfuel
    -- One step for the entry, and one for its value.
    obtain ⟨fuel, rfl⟩ := Nat.exists_eq_add_of_le' (m := 2) (n := fuel) (by omega)
    have hrest := ih (fuel + 1) (by omega)
    have hitem := scanValue_text fuel p.2 ((lineTail entries ++ ['\n', '\x7d']).map some)
    have htext : (lineTail (p :: entries) ++ ['\n', '\x7d']).map some =
        some ',' :: some '\n' :: some ' ' :: some ' ' :: some '"' :: (quotedTail p.1 ++
          some ':' :: some ' ' :: some '"' :: (quotedTail p.2 ++
            (lineTail entries ++ ['\n', '\x7d']).map some)) := by
      simp [lineTail, entryLine, map_stringText]
    rw [htext, scanFields_next rfl rfl (stringScan_quotedTail p.1 _) rfl hitem, hrest]
    rfl

theorem length_le_lineTail (entries : List (String × String)) :
    entries.length ≤ (lineTail entries).length := by
  induction entries with
  | nil => exact Nat.zero_le _
  | cons p entries ih =>
    have hcons : lineTail (p :: entries) = ',' :: '\n' :: entryLine p ++ lineTail entries :=
      List.flatMap_cons
    rw [hcons, List.length_append, List.length_cons, List.length_cons]
    omega

/-- The draft of the indented text of some entries. -/
theorem document_indentedEntries (entries : List (String × String)) :
    document ((indentedEntries entries).map some) =
      { draft := .object (textDrafts entries) none, trailing := false } := by
  cases entries with
  | nil => rfl
  | cons p entries =>
    have htext : (indentedEntries (p :: entries)).map some =
        some '\x7b' :: some '\n' :: some ' ' :: some ' ' :: some '"' :: (quotedTail p.1 ++
          some ':' :: some ' ' :: some '"' :: (quotedTail p.2 ++
            (lineTail entries ++ ['\n', '\x7d']).map some)) := by
      simp [indentedEntries, entryLines_cons, entryLine, map_stringText]
    have hlength := length_le_lineTail entries
    have hlong : entries.length + 7 ≤ ((indentedEntries (p :: entries)).map some).length := by
      rw [htext]
      simp only [List.length_cons, List.length_append, List.length_map, List.length_nil]
      omega
    obtain ⟨fuel, hfuel⟩ : ∃ fuel,
        2 * ((indentedEntries (p :: entries)).map some).length + 2 = fuel + 1 + 1 + 1 :=
      Nat.exists_eq_add_of_le' (m := 3) (by omega)
    have hrest := scanFields_lines entries (fuel + 1) (by omega)
    have hitem := scanValue_text fuel p.2 ((lineTail entries ++ ['\n', '\x7d']).map some)
    unfold document
    rw [hfuel, htext, scanValue_object rfl rfl (.inl rfl),
      scanFields_first rfl (stringScan_quotedTail p.1 _) (skipSpace_cons _ rfl) hitem, hrest]
    rfl

end Draft

theorem textEntries_textDrafts (entries : List (String × String)) {depth : Nat}
    (hdepth : depth ≠ 0) :
    textEntries depth (.object (Draft.textDrafts entries) none) = .ok entries := by
  unfold textEntries
  dsimp only
  rw [if_neg hdepth]
  refine bind_eq_ok_iff.mpr ⟨entries, ?_, rfl⟩
  unfold Draft.textDrafts
  induction entries with
  | nil => rfl
  | cons p entries ih =>
    rw [List.map_cons, List.mapM_cons, ih]
    rfl

end Json

namespace Store.Entries

theorem fileBytes_ne_nil (e : Entries) : e.fileBytes ≠ [] := by
  intro h
  have hdecode := Utf8.decode_encode (Json.indentedEntries e.toList)
  rw [show Utf8.encode _ = [] from h] at hdecode
  obtain ⟨c, tail, hcons⟩ : ∃ c tail, Json.indentedEntries e.toList = c :: tail := by
    unfold Json.indentedEntries
    split
    · exact ⟨_, _, rfl⟩
    · exact ⟨_, _, rfl⟩
  rw [hcons] at hdecode
  cases hdecode

/-- Entries are read back from their text. -/
theorem ofFileBytes_fileBytes {e : Entries} (h : e.Sorted) : ofFileBytes e.fileBytes = .ok e := by
  have hdocument := Json.Draft.document_indentedEntries e.toList
  have hentries : Json.textEntries Json.Draft.depthLimit
      (.object (Json.Draft.textDrafts e.toList) none) = .ok e.toList :=
    Json.textEntries_textDrafts e.toList (by decide)
  -- An empty file would stand for no entries, but every text that is written has a bracket.
  have hsome : e.fileBytes.isEmpty = false := by
    rw [List.isEmpty_eq_false_iff]
    exact fileBytes_ne_nil e
  unfold ofFileBytes
  rw [hsome]
  unfold fileBytes
  rw [Utf8.decode_encode, hdocument]
  dsimp only
  rw [hentries]
  show Except.ok (ofList e.toList) = _
  rw [ofList_toList h]

theorem sorted_of_ofFileBytes {bytes : List UInt8} {e : Entries} (h : ofFileBytes bytes = .ok e) :
    e.Sorted := by
  unfold ofFileBytes at h
  split at h
  · obtain rfl := Except.ok.inj h
    exact sorted_empty
  · obtain ⟨l, -, hrest⟩ := Json.bind_eq_ok_iff.mp h
    dsimp only at hrest
    split at hrest
    · cases hrest
    · obtain rfl := Except.ok.inj hrest
      exact sorted_ofList l

end Store.Entries

end TaskTracking
