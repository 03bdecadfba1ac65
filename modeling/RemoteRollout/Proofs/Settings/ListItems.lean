import RemoteRollout.Settings

/-!
# Lists in variables

A list is given as one text, its items between commas. `Settings.Lists` says which texts list some
items: there may be white space around each of them, and pieces with nothing else. Such a text is read
as just these items (`listItems_of_lists`), if each of them is one: not empty, without a comma, and
without white space at its ends. Single words are items.
-/

namespace RemoteRollout

namespace Text

/-- The characters are all white space. -/
def Blanks (cs : List Char) : Prop := ∀ c ∈ cs, isBlank c = true

-- The instance is named because the search may find one that goes through all characters.
instance (cs : List Char) : Decidable (Blanks cs) := List.decidableBAll (isBlank · = true) cs

/-- One word: not empty, and without commas and white space. -/
structure Word (s : String) : Prop where
  nonempty : s ≠ ""
  solid : ∀ c ∈ s.toList, c ≠ ',' ∧ isBlank c = false

instance (s : String) : Decidable (Word s) :=
  have : Decidable (∀ c ∈ s.toList, c ≠ ',' ∧ isBlank c = false) := List.decidableBAll _ _
  decidable_of_iff (s ≠ "" ∧ ∀ c ∈ s.toList, c ≠ ',' ∧ isBlank c = false)
    ⟨fun h => ⟨h.1, h.2⟩, fun h => ⟨h.nonempty, h.solid⟩⟩

/-- An item of a list: not empty, without commas, and without white space at its two ends. -/
structure Item (s : String) : Prop where
  nonempty : s ≠ ""
  comma_not_mem : ',' ∉ s.toList
  head : ∀ c ∈ s.toList.head?, isBlank c = false
  last : ∀ c ∈ s.toList.getLast?, isBlank c = false

instance (s : String) : Decidable (Item s) :=
  have (o : Option Char) : Decidable (∀ c ∈ o, isBlank c = false) := Option.decidableForallMem o
  decidable_of_iff (s ≠ "" ∧ ',' ∉ s.toList ∧ (∀ c ∈ s.toList.head?, isBlank c = false) ∧
      ∀ c ∈ s.toList.getLast?, isBlank c = false)
    ⟨fun h => ⟨h.1, h.2.1, h.2.2.1, h.2.2.2⟩,
      fun h => ⟨h.nonempty, h.comma_not_mem, h.head, h.last⟩⟩

theorem Word.item {s : String} (h : Word s) : Item s where
  nonempty := h.nonempty
  comma_not_mem hc := (h.solid ',' hc).1 rfl
  head c hc := (h.solid c (List.mem_of_mem_head? hc)).2
  last c hc := (h.solid c (List.mem_of_getLast? hc)).2

theorem dropWhile_of_head {p : Char → Bool} {cs : List Char} (h : ∀ c ∈ cs.head?, p c = false) :
    cs.dropWhile p = cs := by
  cases cs with
  | nil => rfl
  | cons c cs => rw [List.dropWhile_cons_of_neg (by simp [h c rfl])]

/-- White space is trimmed up to the first and from the last character that is none. -/
theorem trimmed_padded {front cs back : List Char} (hfront : Blanks front) (hback : Blanks back)
    (hhead : ∀ c ∈ cs.head?, isBlank c = false) (hlast : ∀ c ∈ cs.getLast?, isBlank c = false) :
    trimmed (front ++ cs ++ back) = cs := by
  unfold trimmed
  cases cs with
  | nil =>
    have hall : ∀ c ∈ front ++ [] ++ back, isBlank c = true := by
      intro c hc
      simp only [List.append_nil, List.mem_append] at hc
      exact hc.elim (hfront c) (hback c)
    rw [← List.append_nil (front ++ [] ++ back), List.dropWhile_append_of_pos hall]
    rfl
  | cons c cs =>
    have hstart : (front ++ (c :: cs) ++ back).dropWhile isBlank = (c :: cs) ++ back := by
      rw [List.append_assoc, List.dropWhile_append_of_pos hfront]
      exact dropWhile_of_head hhead
    have hblank : ∀ c ∈ back.reverse, isBlank c = true :=
      fun c hc => hback c (List.mem_reverse.1 hc)
    rw [hstart, List.reverse_append, List.dropWhile_append_of_pos hblank, dropWhile_of_head,
      List.reverse_reverse]
    rw [List.head?_reverse]
    exact hlast

theorem trimmed_blanks {cs : List Char} (h : Blanks cs) : trimmed cs = [] := by
  have hnil : Blanks [] := by simp [Blanks]
  have hnone : ∀ c ∈ ([] : List Char).head?, isBlank c = false := by simp
  simpa using trimmed_padded h hnil hnone hnone

theorem comma_not_mem_of_blanks {cs : List Char} (h : Blanks cs) : ',' ∉ cs :=
  fun hc => absurd (h ',' hc) (by decide)

end Text

namespace Settings

open Text (Blanks Item pieces joined)

/-- The pieces hold these items, with white space around them; a piece of white space holds none. -/
inductive Padded : List String → List (List Char) → Prop where
  | nil : Padded [] []
  | blank {items : List String} {ps : List (List Char)} {blanks : List Char} (h : Blanks blanks)
      (hs : Padded items ps) : Padded items (blanks :: ps)
  | item {s : String} {items : List String} {ps : List (List Char)} {front back : List Char}
      (hfront : Blanks front) (hback : Blanks back) (hs : Padded items ps) :
      Padded (s :: items) ((front ++ s.toList ++ back) :: ps)

/-- The text lists these items between commas. -/
def Lists (text : String) (items : List String) : Prop :=
  ∃ ps, Padded items ps ∧ text.toList = joined ',' ps

variable {items : List String} {ps : List (List Char)}

/-- No piece holds a comma. -/
theorem Padded.comma_not_mem (h : Padded items ps) (hitems : ∀ s ∈ items, Item s) :
    ∀ p ∈ ps, ',' ∉ p := by
  induction h with
  | nil =>
    intro p hp
    cases hp
  | blank hblanks _ ih =>
    intro p hp
    rcases List.mem_cons.1 hp with rfl | hp
    · exact Text.comma_not_mem_of_blanks hblanks
    · exact ih hitems p hp
  | @item s _ _ _ _ hfront hback _ ih =>
    intro p hp
    rcases List.mem_cons.1 hp with rfl | hp
    · have hitem := hitems s List.mem_cons_self
      simp only [List.mem_append, not_or]
      exact ⟨⟨Text.comma_not_mem_of_blanks hfront, hitem.comma_not_mem⟩,
        Text.comma_not_mem_of_blanks hback⟩
    · exact ih (fun s hs => hitems s (List.mem_cons_of_mem _ hs)) p hp

/-- Trimming the pieces leaves the items, and nothing of the other pieces. -/
theorem Padded.trimmed_eq (h : Padded items ps) (hitems : ∀ s ∈ items, Item s) :
    ((ps.map Text.trimmed).filter (!·.isEmpty)).map String.ofList = items := by
  induction h with
  | nil => rfl
  | blank hblanks _ ih =>
    rw [List.map_cons, Text.trimmed_blanks hblanks]
    exact ih hitems
  | @item s _ _ _ _ hfront hback _ ih =>
    have hitem := hitems s List.mem_cons_self
    have hne : s.toList.isEmpty = false := by simpa using hitem.nonempty
    rw [List.map_cons, Text.trimmed_padded hfront hback hitem.head hitem.last,
      List.filter_cons_of_pos (by simp [hne]), List.map_cons, String.ofList_toList,
      ih fun s hs => hitems s (List.mem_cons_of_mem _ hs)]

/-- A text that lists items is read as these items. -/
theorem listItems_of_lists {text : String} (h : Lists text items) (hitems : ∀ s ∈ items, Item s) :
    listItems text = items := by
  obtain ⟨ps, hps, htext⟩ := h
  unfold listItems
  rw [htext]
  cases ps with
  | nil =>
    cases hps
    rfl
  | cons p rest =>
    rw [Text.pieces_joined (List.cons_ne_nil p rest) (hps.comma_not_mem hitems)]
    exact hps.trimmed_eq hitems

end Settings

end RemoteRollout
