import Mathlib.Tactic.SplitIfs
import RemoteRollout.Proofs.Json.Source

/-!
# Printed trees

Both printers write documents of the grammar, with the members of objects as they stand in the tree:
the escapes of a string stand for its characters, and what is put between the values is white space.
-/

namespace RemoteRollout.Json

/-! ## Strings -/

/-- A character is written as one piece, which stands for it. -/
theorem exists_piece (c : Char) :
    ∃ p : Piece, p.Spelled (escapedChar c) ∧
      ∀ ps, Piece.charsAfter? none (p :: ps) = (Piece.charsAfter? none ps).map (c :: ·) := by
  have hletter : ∀ {l c : Char}, (l, c) ∈ Piece.letters → ∃ p : Piece, p.Spelled ['\\', l] ∧
      ∀ ps, Piece.charsAfter? none (p :: ps) = (Piece.charsAfter? none ps).map (c :: ·) :=
    fun h => ⟨.char _, .letter h, fun _ => rfl⟩
  -- Quotes, backslashes and some control characters have a letter; the other control characters are
  -- written as code units, and what remains stands for itself.
  unfold escapedChar
  split_ifs with hquote hslash hb hf hn hr ht hcontrol
  · rw [hquote]
    exact hletter (by decide)
  · rw [hslash]
    exact hletter (by decide)
  · rw [hb]
    exact hletter (by decide)
  · rw [hf]
    exact hletter (by decide)
  · rw [hn]
    exact hletter (by decide)
  · rw [hr]
    exact hletter (by decide)
  · rw [ht]
    exact hletter (by decide)
  · have hdigit : ∀ m < 16, Text.hexValue? (Nat.digitChar m) = some m := by decide
    have hzero : Text.hexValue? '0' = some 0 := by decide
    have hvalue : ((0 * 16 + 0) * 16 + c.toNat / 16) * 16 + c.toNat % 16 = c.toNat := by omega
    refine ⟨.unit c.toNat, ?_, fun ps => ?_⟩
    · have hspelled := Piece.Spelled.unit hzero hzero (hdigit (c.toNat / 16) (by omega))
        (hdigit (c.toNat % 16) (by omega))
      rwa [hvalue] at hspelled
    · have hlow : isLowSurrogate c.toNat = false := by
        simp only [isLowSurrogate, Bool.and_eq_false_iff, decide_eq_false_iff_not]
        omega
      have hhigh : isHighSurrogate c.toNat = false := by
        simp only [isHighSurrogate, Bool.and_eq_false_iff, decide_eq_false_iff_not]
        omega
      rw [Piece.charsAfter?, hlow, hhigh, Char.ofNat_toNat]
      rfl
  · exact ⟨.char c, .plain (Nat.le_of_not_lt hcontrol) hquote hslash, fun _ => rfl⟩

theorem quoted_stringText (s : String) : Quoted (some s) (stringText s) := by
  have hpieces : ∀ cs : List Char, ∃ ps, Piece.AllSpelled ps (cs.flatMap escapedChar) ∧
      Piece.charsAfter? none ps = some cs := by
    intro cs
    induction cs with
    | nil => exact ⟨[], .nil, rfl⟩
    | cons c cs ih =>
      obtain ⟨p, hp, hchars⟩ := exists_piece c
      obtain ⟨ps, hps, hrest⟩ := ih
      exact ⟨p :: ps, .cons hp hps, by rw [hchars, hrest]; rfl⟩
  obtain ⟨ps, hps, hchars⟩ := hpieces s.toList
  have htext : Piece.text? ps = some s := by
    rw [Piece.text?, hchars]
    exact congrArg some String.ofList_toList
  rw [← htext]
  exact .intro hps

/-- No control character stands in the text of a string, so that it lies on one line. -/
theorem le_toNat_of_mem_stringText {s : String} {c : Char} (h : c ∈ stringText s) :
    0x20 ≤ c.toNat := by
  have hdigit : ∀ m < 16, 0x20 ≤ (Nat.digitChar m).toNat := by decide
  have hescaped : ∀ d : Char, ∀ c ∈ escapedChar d, 0x20 ≤ c.toNat := by
    intro d
    unfold escapedChar
    split_ifs with _ _ _ _ _ _ _ hcontrol
    iterate 7 simp
    · have hhigh := hdigit (d.toNat / 16) (by omega)
      have hlow := hdigit (d.toNat % 16) (by omega)
      simp [hhigh, hlow]
    · simpa using hcontrol
  rw [stringText, List.mem_append, List.mem_cons, List.mem_flatMap] at h
  rcases h with (rfl | ⟨d, _, hd⟩) | h
  · decide
  · exact hescaped d c hd
  · rw [List.mem_singleton.1 h]
    decide

/-! ## White space -/

theorem blank_nil : Blank [] := by
  intro c hc
  cases hc

theorem blank_space : Blank [' '] := by
  intro c hc
  exact .inl (List.mem_singleton.1 hc)

theorem blank_lineStart (level : Nat) : Blank (lineStart level) := by
  intro c hc
  rcases List.mem_cons.1 hc with rfl | hc
  · exact .inr (.inl rfl)
  · exact .inl (List.eq_of_mem_replicate hc)

/-! ## Trees -/

theorem Written.of_eq {p : Part} {cs ds : List Char} (h : Written p cs) (e : cs = ds) :
    Written p ds := e ▸ h

theorem written_member {k : String} {t : Tree} {ws cs : List Char} (hws : Blank ws)
    (h : Written (.value t.source) cs) :
    Written (.member (some k, t.source)) (stringText k ++ ':' :: (ws ++ cs)) :=
  (Written.pair (quoted_stringText k) blank_nil hws h).of_eq (by simp)

mutual

theorem written_tree (t : Tree) (h : t.NumbersFit) :
    Written (.value t.source) t.compact ∧ ∀ level, Written (.value t.source) (t.prettyAt level) := by
  cases t with
  | null => exact ⟨.null, fun _ => .null⟩
  | bool b => exact ⟨.bool b, fun _ => .bool b⟩
  | number n =>
    cases h with
    | number h => exact ⟨.number h, fun _ => .number h⟩
  | string s => exact ⟨.string (quoted_stringText s), fun _ => .string (quoted_stringText s)⟩
  | list ts =>
    cases h with
    | list h =>
      cases ts with
      | nil => exact ⟨.emptyList blank_nil, fun _ => .emptyList blank_nil⟩
      | cons t ts =>
        obtain ⟨hcompact, hpretty⟩ := written_tree t (h t List.mem_cons_self)
        obtain ⟨hcompacts, hprettys⟩ := written_items ts fun t ht => h t (List.mem_cons_of_mem _ ht)
        constructor
        · exact (Written.list blank_nil hcompact hcompacts).of_eq (by simp [Tree.compact])
        · intro level
          exact (Written.list (blank_lineStart (level + 1)) (hpretty (level + 1))
            (hprettys level)).of_eq (by simp [Tree.prettyAt])
  | object ms =>
    cases h with
    | object h =>
      cases ms with
      | nil => exact ⟨.emptyObject blank_nil, fun _ => .emptyObject blank_nil⟩
      | cons m ms =>
        obtain ⟨hcompact, hpretty⟩ := written_tree m.2 (h m List.mem_cons_self)
        obtain ⟨hcompacts, hprettys⟩ := written_members ms fun m hm => h m (List.mem_cons_of_mem _ hm)
        constructor
        · exact (Written.object blank_nil (written_member blank_nil hcompact) hcompacts).of_eq
            (by simp [Tree.compact])
        · intro level
          exact (Written.object (blank_lineStart (level + 1))
            (written_member blank_space (hpretty (level + 1))) (hprettys level)).of_eq
            (by simp [Tree.prettyAt])

theorem written_items (ts : List Tree) (h : ∀ t ∈ ts, t.NumbersFit) :
    Written (.items (Tree.sources ts)) (Tree.compactItems ts) ∧
      ∀ level, Written (.items (Tree.sources ts)) (Tree.prettyItems level ts) := by
  cases ts with
  | nil => exact ⟨.endOfList blank_nil, fun level => .endOfList (blank_lineStart level)⟩
  | cons t ts =>
    obtain ⟨hcompact, hpretty⟩ := written_tree t (h t List.mem_cons_self)
    obtain ⟨hcompacts, hprettys⟩ := written_items ts fun t ht => h t (List.mem_cons_of_mem _ ht)
    constructor
    · exact (Written.item blank_nil blank_nil hcompact hcompacts).of_eq
        (by simp [Tree.compactItems])
    · intro level
      exact (Written.item blank_nil (blank_lineStart (level + 1)) (hpretty (level + 1))
        (hprettys level)).of_eq (by simp [Tree.prettyItems])

theorem written_members (ms : Members) (h : ∀ m ∈ ms, m.2.NumbersFit) :
    Written (.members (Tree.sourceMembers ms)) (Tree.compactMembers ms) ∧
      ∀ level, Written (.members (Tree.sourceMembers ms)) (Tree.prettyMembers level ms) := by
  cases ms with
  | nil => exact ⟨.endOfObject blank_nil, fun level => .endOfObject (blank_lineStart level)⟩
  | cons m ms =>
    obtain ⟨hcompact, hpretty⟩ := written_tree m.2 (h m List.mem_cons_self)
    obtain ⟨hcompacts, hprettys⟩ := written_members ms fun m hm => h m (List.mem_cons_of_mem _ hm)
    constructor
    · exact (Written.member blank_nil blank_nil (written_member blank_nil hcompact) hcompacts).of_eq
        (by simp [Tree.compactMembers])
    · intro level
      exact (Written.member blank_nil (blank_lineStart (level + 1))
        (written_member blank_space (hpretty (level + 1))) (hprettys level)).of_eq
        (by simp [Tree.prettyMembers])

end

variable {t : Tree}

theorem Source.Document.of_written {t : Source} {cs : List Char} (h : Written (.value t) cs) :
    t.Document cs := by
  have hdocument := Source.Document.intro blank_nil h blank_nil
  rwa [List.nil_append, List.append_nil] at hdocument

theorem document_compact (h : t.NumbersFit) : t.source.Document t.compact :=
  .of_written (written_tree t h).1

theorem document_pretty (h : t.NumbersFit) : t.source.Document t.pretty :=
  .of_written ((written_tree t h).2 0)

end RemoteRollout.Json
