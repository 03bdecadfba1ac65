import RemoteRollout.Yaml.Spot

/-!
# Places of a text

What is known of the places of a text that is laid out from some mark on: they only go forward, and a
text without line ends stays in its line, where every byte counts. A text of visible characters and line
feeds is read to its end as it stands (`spots_eq`).
-/

namespace RemoteRollout.Yaml

open Text.Utf8 (width)

/-- How many bytes a text takes. -/
def byteCount : List Char → Nat
  | [] => 0
  | c :: cs => width c + byteCount cs

/-- The place after a text. -/
def Mark.past (m : Mark) (cs : List Char) : Mark := cs.foldl Mark.after m

namespace Mark

variable {m : Mark} {c : Char} {cs : List Char}

@[simp]
theorem past_nil (m : Mark) : m.past [] = m := rfl

@[simp]
theorem past_cons (m : Mark) (c : Char) (cs : List Char) : m.past (c :: cs) = (m.after c).past cs := rfl

theorem past_append (m : Mark) (cs ds : List Char) : m.past (cs ++ ds) = (m.past cs).past ds :=
  List.foldl_append

theorem after_of_not_isBreak (h : isBreak c = false) :
    m.after c = ⟨m.line, m.column + 1, m.offset + width c⟩ := by
  simp [after, h]

/-- In a line every character takes one column and all of its bytes. -/
theorem past_of_not_isBreak (h : ∀ c ∈ cs, isBreak c = false) :
    m.past cs = ⟨m.line, m.column + cs.length, m.offset + byteCount cs⟩ := by
  induction cs generalizing m with
  | nil => rfl
  | cons c cs ih =>
    rw [past_cons, after_of_not_isBreak (h c List.mem_cons_self),
      ih fun d hd => h d (List.mem_cons_of_mem c hd)]
    simp only [List.length_cons, byteCount, mk.injEq, true_and]
    omega

/-- The second place is not before the first. -/
def UpTo (m n : Mark) : Prop := m.line < n.line ∨ m.line = n.line ∧ m.offset ≤ n.offset

theorem UpTo.refl (m : Mark) : m.UpTo m := .inr ⟨rfl, Nat.le_refl _⟩

theorem UpTo.trans {m n o : Mark} (h : m.UpTo n) (h' : n.UpTo o) : m.UpTo o := by
  unfold UpTo at *
  omega

theorem UpTo.line_le {m n : Mark} (h : m.UpTo n) : m.line ≤ n.line := by
  unfold UpTo at h
  omega

theorem upTo_after (m : Mark) (c : Char) : m.UpTo (m.after c) := by
  unfold after
  split
  · exact .inl (Nat.lt_succ_self _)
  · exact .inr ⟨rfl, Nat.le_add_right _ _⟩

theorem upTo_past (m : Mark) (cs : List Char) : m.UpTo (m.past cs) := by
  induction cs generalizing m with
  | nil => exact .refl m
  | cons c cs ih => exact (upTo_after m c).trans (ih _)

end Mark

/-! ## Spots of a text -/

section Spots

variable {m : Mark} {c : Char}

@[simp]
theorem spotsFrom_cons (m : Mark) (c : Char) (cs : List Char) :
    spotsFrom m (c :: cs) = ⟨c, m⟩ :: spotsFrom (m.after c) cs := rfl

@[simp]
theorem markOf_spotsFrom (m : Mark) (cs : List Char) : markOf (spotsFrom m cs) = m := by
  cases cs <;> rfl

@[simp]
theorem length_spotsFrom (m : Mark) (cs : List Char) : (spotsFrom m cs).length = cs.length + 1 := by
  induction cs generalizing m with
  | nil => rfl
  | cons c cs ih => rw [spotsFrom_cons, List.length_cons, ih, List.length_cons]

@[simp]
theorem charAt_zero_cons (s : Spot) (rest : List Spot) : charAt 0 (s :: rest) = s.char := rfl

@[simp]
theorem markOf_cons (s : Spot) (rest : List Spot) : markOf (s :: rest) = s.mark := rfl

/-- A mark of a document begins with a dash or a point at the start of a line. -/
theorem isDocumentMark_eq_false (h : m.column ≠ 0 ∨ c ≠ '-' ∧ c ≠ '.') (rest : List Spot) :
    isDocumentMark (⟨c, m⟩ :: rest) = false := by
  unfold isDocumentMark isTriple
  rcases h with h | ⟨h, h'⟩
  · simp [h]
  · simp [h, h']

end Spots

/-! ## Visible characters -/

/-- The character may stand in a text, and neither ends a line nor is part of a line end. -/
def isVisible (c : Char) : Bool :=
  isAllowed c && decide (0x20 ≤ c.toNat) && !isBreak c && c != '\u0085'

theorem isVisible_iff {c : Char} : isVisible c = true ↔
    isAllowed c = true ∧ 0x20 ≤ c.toNat ∧ isBreak c = false ∧ c ≠ '\u0085' := by
  simp [isVisible, and_assoc]

/-- All characters of a text are visible or line feeds. -/
def Readable (cs : List Char) : Prop := ∀ c ∈ cs, c = '\n' ∨ isVisible c = true

theorem readable_append_iff {cs ds : List Char} :
    Readable (cs ++ ds) ↔ Readable cs ∧ Readable ds := List.forall_mem_append

theorem readable_cons_iff {c : Char} {cs : List Char} :
    Readable (c :: cs) ↔ (c = '\n' ∨ isVisible c = true) ∧ Readable cs := List.forall_mem_cons

theorem Readable.isAllowed {cs : List Char} (h : Readable cs) : ∀ c ∈ cs, isAllowed c = true := by
  intro c hc
  rcases h c hc with rfl | hvisible
  · decide
  · exact (isVisible_iff.1 hvisible).1

theorem normalized_cons {c : Char} (hreturn : c ≠ '\r') (hnext : c ≠ '\u0085') (cs : List Char) :
    normalized (c :: cs) = c :: normalized cs := by
  rw [normalized]
  · simp [hreturn, hnext]
  · rintro rest rfl -
    exact hreturn rfl

theorem Readable.normalized_eq {cs : List Char} (h : Readable cs) : normalized cs = cs := by
  induction cs with
  | nil => rfl
  | cons c cs ih =>
    rw [readable_cons_iff] at h
    have hends : c ≠ '\r' ∧ c ≠ '\u0085' := by
      rcases h.1 with rfl | hvisible
      · decide
      · obtain ⟨-, hle, -, hnext⟩ := isVisible_iff.1 hvisible
        refine ⟨?_, hnext⟩
        rintro rfl
        exact absurd hle (by decide)
    rw [normalized_cons hends.1 hends.2, ih h.2]

/-! ## Blocks -/

theorem width_le (c : Char) : width c ≤ 4 := by
  simp only [width]
  split
  · decide
  · split
    · decide
    · split <;> decide

theorem splitBlock_append (room : Nat) (cs : List Char) :
    (splitBlock room cs).1 ++ (splitBlock room cs).2 = cs := by
  induction cs generalizing room with
  | nil => rfl
  | cons c cs ih =>
    rw [splitBlock]
    split
    · exact congrArg (c :: ·) (ih _)
    · rfl

/-- A block holds at least one character. -/
theorem length_splitBlock_lt (c : Char) (cs : List Char) :
    (splitBlock blockSize (c :: cs)).2.length < (c :: cs).length := by
  have hroom : width c ≤ blockSize := Nat.le_trans (width_le c) (by decide)
  have hrest := congrArg List.length (splitBlock_append (blockSize - width c) cs)
  rw [List.length_append] at hrest
  rw [splitBlock, if_pos hroom, List.length_cons]
  show (splitBlock (blockSize - width c) cs).2.length < _
  omega

/-- A text without characters that are not allowed is read as a whole. -/
theorem readable_eq {cs : List Char} (h : ∀ c ∈ cs, isAllowed c = true) {fuel : Nat}
    (hfuel : cs.length < fuel) : readable fuel cs = (cs, true) := by
  induction fuel generalizing cs with
  | zero => exact absurd hfuel (Nat.not_lt_zero _)
  | succ fuel ih =>
    have hsplit := splitBlock_append blockSize cs
    have hblock : (splitBlock blockSize cs).1.all isAllowed = true := by
      rw [List.all_eq_true]
      intro c hc
      exact h c (hsplit ▸ List.mem_append_left _ hc)
    rw [readable]
    simp only [hblock, Bool.not_true, Bool.false_eq_true, if_false]
    split
    · next hempty =>
      rw [List.isEmpty_iff.1 hempty, List.append_nil] at hsplit
      rw [hsplit]
    · next hempty =>
      have hshorter : (splitBlock blockSize cs).2.length < fuel := by
        cases cs with
        | nil => exact absurd rfl hempty
        | cons c cs => exact Nat.lt_of_lt_of_le (length_splitBlock_lt c cs) (Nat.le_of_lt_succ hfuel)
      rw [ih (fun c hc => h c (hsplit ▸ List.mem_append_right _ hc)) hshorter]
      exact congrArg (·, true) hsplit

/-- A text of visible characters and line feeds is read as it stands. -/
theorem spots_eq {cs : List Char} (h : Readable cs) : spots cs = (spotsFrom {} cs, true) := by
  rw [spots, readable_eq h.isAllowed (Nat.lt_succ_self _)]
  exact congrArg (spotsFrom {} ·, true) h.normalized_eq

end RemoteRollout.Yaml
