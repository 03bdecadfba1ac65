import RemoteRollout.Proofs.Settings.Layers
import RemoteRollout.Proofs.Settings.ListItems

/-!
# Lists read and written

What is read from the text of a list are items, and the text lists them (`item_of_mem_listItems`,
`lists_listItems`); there are no other items that it lists. Items joined by commas are a text that
lists them. So reading a list and joining its items are inverse to each other, on all lists of items.
-/

namespace RemoteRollout

namespace Text

/-- The white space in front is what `dropWhile` takes away, and nothing of it is left. -/
theorem exists_blanks_front (cs : List Char) :
    ∃ front, Blanks front ∧ cs = front ++ cs.dropWhile isBlank ∧
      ∀ c ∈ (cs.dropWhile isBlank).head?, isBlank c = false := by
  refine ⟨cs.takeWhile isBlank, ?_, List.takeWhile_append_dropWhile.symm, ?_⟩
  · intro c hc
    exact List.all_eq_true.1 List.all_takeWhile c hc
  · intro c hc
    have hnot := List.head?_dropWhile_not isBlank cs
    rw [Option.mem_def.1 hc] at hnot
    exact hnot

/-- A text is its trimmed text between white space, and that has none at its ends. -/
theorem exists_trimmed (cs : List Char) :
    ∃ front back, Blanks front ∧ Blanks back ∧ cs = front ++ trimmed cs ++ back ∧
      (∀ c ∈ (trimmed cs).head?, isBlank c = false) ∧
      ∀ c ∈ (trimmed cs).getLast?, isBlank c = false := by
  obtain ⟨front, hfront, hcs, hhead⟩ := exists_blanks_front cs
  obtain ⟨back, hback, hrest, hlast⟩ := exists_blanks_front (cs.dropWhile isBlank).reverse
  have hbody : cs.dropWhile isBlank = trimmed cs ++ back.reverse := by
    rw [trimmed, ← List.reverse_append, ← hrest, List.reverse_reverse]
  refine ⟨front, back.reverse, hfront, fun c hc => hback c (List.mem_reverse.1 hc), ?_, ?_, ?_⟩
  · rw [List.append_assoc, ← hbody]
    exact hcs
  · intro c hc
    refine hhead c ?_
    rw [hbody, List.head?_append, Option.mem_def.1 hc]
    rfl
  · rw [trimmed, List.getLast?_reverse]
    exact hlast

end Text

namespace Settings

open Text (Item pieces joined trimmed)

/-- The items in these pieces. -/
def itemsIn (ps : List (List Char)) : List String :=
  ((ps.map trimmed).filter (!·.isEmpty)).map String.ofList

theorem itemsIn_cons_of_blank {p : List Char} (h : trimmed p = []) (ps : List (List Char)) :
    itemsIn (p :: ps) = itemsIn ps := by
  simp [itemsIn, h]

theorem itemsIn_cons_of_item {p : List Char} (h : trimmed p ≠ []) (ps : List (List Char)) :
    itemsIn (p :: ps) = String.ofList (trimmed p) :: itemsIn ps := by
  simp [itemsIn, h]

/-- The pieces hold the items that are read from them. -/
theorem padded_itemsIn (ps : List (List Char)) : Padded (itemsIn ps) ps := by
  induction ps with
  | nil => exact .nil
  | cons p ps ih =>
    obtain ⟨front, back, hfront, hback, hp, -, -⟩ := Text.exists_trimmed p
    by_cases hempty : trimmed p = []
    · rw [itemsIn_cons_of_blank hempty]
      refine .blank (fun c hc => ?_) ih
      rw [hp, hempty, List.append_nil] at hc
      exact (List.mem_append.1 hc).elim (hfront c) (hback c)
    · rw [itemsIn_cons_of_item hempty]
      have hpadded : Padded (String.ofList (trimmed p) :: itemsIn ps)
          ((front ++ (String.ofList (trimmed p)).toList ++ back) :: ps) := .item hfront hback ih
      rwa [String.toList_ofList, ← hp] at hpadded

theorem item_of_mem_itemsIn {ps : List (List Char)} (hps : ∀ p ∈ ps, ',' ∉ p) {s : String}
    (h : s ∈ itemsIn ps) : Item s := by
  simp only [itemsIn, List.mem_map, List.mem_filter] at h
  obtain ⟨_, ⟨⟨p, hp, rfl⟩, hne⟩, rfl⟩ := h
  obtain ⟨front, back, -, -, hcs, hhead, hlast⟩ := Text.exists_trimmed p
  refine ⟨fun hs => ?_, fun hc => hps p hp ?_, ?_, ?_⟩
  · rw [String.ofList_eq_empty_iff] at hs
    simp [hs] at hne
  · rw [String.toList_ofList] at hc
    rw [hcs]
    exact List.mem_append_left _ (List.mem_append_right _ hc)
  · rwa [String.toList_ofList]
  · rwa [String.toList_ofList]

/-! ## Reading -/

theorem item_of_mem_listItems {text s : String} (h : s ∈ listItems text) : Item s :=
  item_of_mem_itemsIn (fun _ => Text.not_mem_of_mem_pieces) h

theorem lists_listItems (text : String) : Lists text (listItems text) :=
  ⟨pieces ',' text.toList, padded_itemsIn _, (Text.joined_pieces ',' text.toList).symm⟩

/-! ## Writing -/

/-- Items joined by commas. -/
def listText (items : List String) : String := String.ofList (joined ',' (items.map String.toList))

theorem padded_map_toList (items : List String) : Padded items (items.map String.toList) := by
  induction items with
  | nil => exact .nil
  | cons s items ih =>
    have hpadded : Padded (s :: items) (([] ++ s.toList ++ []) :: items.map String.toList) :=
      .item (by simp [Text.Blanks]) (by simp [Text.Blanks]) ih
    rwa [List.nil_append, List.append_nil] at hpadded

theorem lists_listText (items : List String) : Lists (listText items) items :=
  ⟨items.map String.toList, padded_map_toList items, String.toList_ofList⟩

theorem listItems_listText {items : List String} (h : ∀ s ∈ items, Item s) :
    listItems (listText items) = items :=
  listItems_of_lists (lists_listText items) h

/-! ## The canary clusters -/

/-- An environment that holds nothing but a list of canary clusters. -/
def listing (ids : List String) (name : String) : Option String :=
  if name = Setting.canaryClusters.variableName then some (listText ids) else none

theorem canaryClusters_withVariables {s : Settings} {lookup : String → Option String} {text : String}
    (h : lookup Setting.canaryClusters.variableName = some text) :
    (s.withVariables lookup).canary.canaryClusters = listItems text := by
  have hvalue := Setting.canaryClusters.value_withVariables s lookup
  rwa [h] at hvalue

/-- A list of canary clusters that is there already changes nothing. -/
theorem withVariables_listing {s : Settings} (h : ∀ id ∈ s.canary.canaryClusters, Item id) :
    s.withVariables (listing s.canary.canaryClusters) = s := by
  refine eq_of_values fun x => ?_
  by_cases hx : x = .canaryClusters
  · subst hx
    exact (canaryClusters_withVariables (if_pos rfl)).trans (listItems_listText h)
  · have hnone : listing s.canary.canaryClusters x.variableName = none :=
      if_neg fun hname => hx (Setting.variableName_inj hname)
    rw [x.value_withVariables, hnone]
    rfl

/-- **Lists of clusters are read as they are written.** The canary clusters that a variable sets are
items, and its text lists just these: they are its pieces in their order, without the white space around
them and without the pieces of white space alone. Items joined by commas come back as they were. So the
list that has been read, joined again and applied once more, changes no setting. -/
theorem canary_list_read_back :
    (∀ (s : Settings) (lookup : String → Option String) (text : String),
      lookup Setting.canaryClusters.variableName = some text →
      (∀ id ∈ (s.withVariables lookup).canary.canaryClusters, Item id) ∧
        Lists text (s.withVariables lookup).canary.canaryClusters ∧
        (∀ ids, (∀ id ∈ ids, Item id) → Lists text ids →
          (s.withVariables lookup).canary.canaryClusters = ids) ∧
        (s.withVariables lookup).withVariables
          (listing (s.withVariables lookup).canary.canaryClusters) = s.withVariables lookup) ∧
    ∀ (s : Settings) (lookup : String → Option String) (ids : List String),
      (∀ id ∈ ids, Item id) →
      lookup Setting.canaryClusters.variableName = some (listText ids) →
      (s.withVariables lookup).canary.canaryClusters = ids := by
  refine ⟨?read, ?written⟩
  case read =>
    intro s lookup text htext
    have hlist : (s.withVariables lookup).canary.canaryClusters = listItems text :=
      canaryClusters_withVariables htext
    have hitems : ∀ id ∈ (s.withVariables lookup).canary.canaryClusters, Item id := by
      rw [hlist]
      exact fun id => item_of_mem_listItems
    refine ⟨hitems, ?_, fun ids hids hlists => ?_, withVariables_listing hitems⟩
    · rw [hlist]
      exact lists_listItems text
    · rw [hlist]
      exact listItems_of_lists hlists hids
  case written =>
    intro s lookup ids hids htext
    rw [canaryClusters_withVariables htext]
    exact listItems_listText hids

/-- A list with white space of several kinds around its items and inside of them, a repeated item, and
pieces without any. -/
def spacedList (name : String) : Option String :=
  if name = Setting.canaryClusters.variableName then some " a b ,,\u3000c\t, \u00a0,a b," else none

theorem canary_list_read_back_spacedList :
    (spacedList Setting.canaryClusters.variableName = some " a b ,,\u3000c\t, \u00a0,a b," ∧
      (({} : Settings).withVariables spacedList).canary.canaryClusters = ["a b", "c", "a b"] ∧
      (({} : Settings).withVariables spacedList).withVariables (listing ["a b", "c", "a b"]) =
        ({} : Settings).withVariables spacedList) ∧
    listText ["a b", "c", "a b"] = "a b,c,a b" ∧
      (({} : Settings).withVariables (listing ["a b", "c", "a b"])).canary.canaryClusters =
        ["a b", "c", "a b"] := by
  have hitems : ∀ id ∈ ["a b", "c", "a b"], Item id := by decide
  have hlists : Lists " a b ,,\u3000c\t, \u00a0,a b," ["a b", "c", "a b"] := by
    refine ⟨[[' '] ++ "a b".toList ++ [' '], [], ['\u3000'] ++ "c".toList ++ ['\t'], [' ', '\u00a0'],
      [] ++ "a b".toList ++ [], []], ?_, by decide⟩
    refine .item (by decide) (by decide) (.blank (by decide) ?_)
    refine .item (by decide) (by decide) (.blank (by decide) ?_)
    exact .item (by decide) (by decide) (.blank (by decide) .nil)
  obtain ⟨-, -, hread, hagain⟩ :=
    canary_list_read_back.1 {} spacedList " a b ,,\u3000c\t, \u00a0,a b," (by decide)
  rw [hread _ hitems hlists] at hagain
  exact ⟨⟨by decide, hread _ hitems hlists, hagain⟩, by decide,
    canary_list_read_back.2 {} (listing _) _ hitems (if_pos rfl)⟩

end Settings

end RemoteRollout
