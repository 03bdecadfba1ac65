/-!
# Pieces of a text

A text cut at a separator character, and put together again. The two are inverse:
`joined_pieces` says that cutting loses nothing, `pieces_joined` that pieces without the
separator come back as they were.
-/

namespace RemoteRollout.Text

/-- The pieces between the separators: always one more than there are separators. -/
def pieces (sep : Char) : List Char → List (List Char)
  | [] => [[]]
  | c :: rest =>
    if c = sep then [] :: pieces sep rest
    else
      match pieces sep rest with
      | [] => [[c]]
      | p :: ps => (c :: p) :: ps

/-- The pieces with one separator between neighbours. -/
def joined (sep : Char) : List (List Char) → List Char
  | [] => []
  | [p] => p
  | p :: q :: ps => p ++ sep :: joined sep (q :: ps)

theorem pieces_ne_nil (sep : Char) (cs : List Char) : pieces sep cs ≠ [] := by
  cases cs with
  | nil => simp [pieces]
  | cons c rest =>
    rw [pieces]
    split
    · simp
    · split <;> simp

theorem joined_cons (sep : Char) (p : List Char) {ps : List (List Char)} (h : ps ≠ []) :
    joined sep (p :: ps) = p ++ sep :: joined sep ps := by
  cases ps with
  | nil => exact absurd rfl h
  | cons q qs => rfl

/-- Cutting loses nothing. -/
theorem joined_pieces (sep : Char) (cs : List Char) : joined sep (pieces sep cs) = cs := by
  induction cs with
  | nil => rfl
  | cons c rest ih =>
    rw [pieces]
    split
    · next h => rw [joined_cons _ _ (pieces_ne_nil sep rest), ih, h]; rfl
    · split
      · next h => exact absurd h (pieces_ne_nil sep rest)
      · next p ps h =>
        rw [h] at ih
        cases ps with
        | nil => simpa [joined] using ih
        | cons q qs => simpa [joined] using ih

/-- No piece holds the separator. -/
theorem not_mem_of_mem_pieces {sep : Char} {cs p : List Char} (h : p ∈ pieces sep cs) :
    sep ∉ p := by
  induction cs generalizing p with
  | nil => simp_all [pieces]
  | cons c rest ih =>
    rw [pieces] at h
    split at h
    · rcases List.mem_cons.1 h with rfl | h
      · simp
      · exact ih h
    · next hc =>
      split at h
      · next hp => exact absurd hp (pieces_ne_nil sep rest)
      · next q qs hq =>
        rcases List.mem_cons.1 h with rfl | h
        · have := @ih q (by simp [hq])
          simp only [List.mem_cons, not_or]
          exact ⟨fun e => hc e.symm, this⟩
        · exact ih (by simp [hq, h])

theorem pieces_of_not_mem {sep : Char} {p : List Char} (h : sep ∉ p) :
    pieces sep p = [p] := by
  induction p with
  | nil => rfl
  | cons c rest ih =>
    simp only [List.mem_cons, not_or] at h
    rw [pieces, if_neg (fun e => h.1 e.symm), ih h.2]

/-- A separator parts the pieces before it from those after it. -/
theorem pieces_append (sep : Char) (front rest : List Char) :
    pieces sep (front ++ sep :: rest) = pieces sep front ++ pieces sep rest := by
  induction front with
  | nil => simp [pieces]
  | cons c cs ih =>
    rw [List.cons_append, pieces, pieces, ih]
    by_cases hc : c = sep
    · rw [if_pos hc, if_pos hc, List.cons_append]
    · rw [if_neg hc, if_neg hc]
      cases hcs : pieces sep cs with
      | nil => exact absurd hcs (pieces_ne_nil sep cs)
      | cons p ps => rfl

/-- Pieces that each end with a separator come back as they were, and an empty one after them. -/
theorem pieces_ended {sep : Char} {ps : List (List Char)} (h : ∀ p ∈ ps, sep ∉ p) :
    pieces sep (ps.flatMap (· ++ [sep])) = ps ++ [[]] := by
  induction ps with
  | nil => rfl
  | cons p rest ih =>
    have hrest := ih fun q hq => h q (List.mem_cons_of_mem p hq)
    rw [List.flatMap_cons, List.append_assoc, List.singleton_append, pieces_append,
      pieces_of_not_mem (h p List.mem_cons_self), hrest]
    rfl

/-- Pieces without the separator come back as they were. -/
theorem pieces_joined {sep : Char} {ps : List (List Char)} (hne : ps ≠ [])
    (h : ∀ p ∈ ps, sep ∉ p) : pieces sep (joined sep ps) = ps := by
  induction ps with
  | nil => exact absurd rfl hne
  | cons p rest ih =>
    cases rest with
    | nil => exact pieces_of_not_mem (h p (by simp))
    | cons q qs =>
      have hrest := ih (by simp) fun x hx => h x (by simp [hx])
      rw [joined, pieces_append, pieces_of_not_mem (h p (by simp)), hrest]
      rfl

end RemoteRollout.Text
