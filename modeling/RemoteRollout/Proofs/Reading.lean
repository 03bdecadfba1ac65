import Mathlib.Data.List.TakeWhile
import RemoteRollout.Text.Pieces

/-!
# Reading texts

What the readers of texts rest on. A chain of readers succeeds if each of them does
(`bind_eq_ok_iff`); a run of one class is cut off where something outside of the class follows
(`takeWhile_append_of_ends`); a joined text has the characters of its pieces and the separator; and
a number is never written with a leading zero (`toDigits_ne_zero_cons`).
-/

namespace RemoteRollout

theorem bind_eq_ok_iff {ε α β : Type} {x : Except ε α} {f : α → Except ε β} {b : β} :
    x >>= f = .ok b ↔ ∃ a, x = .ok a ∧ f a = .ok b := by
  cases x with
  | error e => simp [bind, Except.bind]
  | ok a => simp [bind, Except.bind]

/-! ## Runs -/

section Runs

variable {α : Type} {p : α → Bool} {run rest : List α}

/-- A run is taken up to where its class ends. -/
theorem takeWhile_append_of_ends (hrun : ∀ a ∈ run, p a = true)
    (hrest : ∀ a ∈ rest.head?, p a = false) : (run ++ rest).takeWhile p = run := by
  rw [List.takeWhile_append_of_pos hrun]
  cases rest with
  | nil => exact List.append_nil run
  | cons a as =>
    rw [List.takeWhile_cons_of_neg (by simp [hrest a rfl])]
    exact List.append_nil run

/-- What follows a run is left. -/
theorem dropWhile_append_of_ends (hrun : ∀ a ∈ run, p a = true)
    (hrest : ∀ a ∈ rest.head?, p a = false) : (run ++ rest).dropWhile p = rest := by
  rw [List.dropWhile_append_of_pos hrun]
  cases rest with
  | nil => rfl
  | cons a as => rw [List.dropWhile_cons_of_neg (by simp [hrest a rfl])]

end Runs

/-! ## Joined texts -/

theorem Text.mem_joined_of_mem {sep c : Char} {p : List Char} {ps : List (List Char)} (hp : p ∈ ps)
    (hc : c ∈ p) : c ∈ joined sep ps := by
  induction ps with
  | nil => cases hp
  | cons q qs ih =>
    cases qs with
    | nil =>
      cases List.mem_singleton.1 hp
      exact hc
    | cons r rs =>
      rw [joined, List.mem_append]
      rcases List.mem_cons.1 hp with rfl | hp
      · exact .inl hc
      · exact .inr (List.mem_cons_of_mem sep (ih hp))

/-- A joined text has no characters but those of its pieces and the separator. -/
theorem Text.mem_of_mem_joined {sep c : Char} {ps : List (List Char)} (h : c ∈ joined sep ps) :
    c = sep ∨ ∃ p ∈ ps, c ∈ p := by
  induction ps with
  | nil => cases h
  | cons q qs ih =>
    cases qs with
    | nil => exact .inr ⟨q, List.mem_singleton_self q, h⟩
    | cons r rs =>
      rw [joined, List.mem_append, List.mem_cons] at h
      rcases h with h | h | h
      · exact .inr ⟨q, List.mem_cons_self, h⟩
      · exact .inl h
      · rcases ih h with h | ⟨p, hp, hc⟩
        · exact .inl h
        · exact .inr ⟨p, List.mem_cons_of_mem q hp, hc⟩

/-! ## Digits -/

theorem isDigit_of_mem_toDigits {n : Nat} : ∀ c ∈ Nat.toDigits 10 n, c.isDigit = true :=
  fun _ hc => Nat.isDigit_of_mem_toDigits (by decide) (by decide) hc

/-- The digits of a number begin with a zero only if it is zero. -/
theorem head_toDigits_ne_zero {n : Nat} (h : 0 < n) : (Nat.toDigits 10 n).head? ≠ some '0' := by
  induction n using Nat.strongRecOn with
  | ind n ih =>
    by_cases hn : n < 10
    · rw [Nat.toDigits_of_lt_base hn]
      have hsmall : ∀ m < 10, 0 < m → Nat.digitChar m ≠ '0' := by decide
      simpa using hsmall n hn h
    · have hfront := ih (n / 10) (by omega) (by omega)
      rw [Nat.toDigits_of_base_le (by decide) (Nat.le_of_not_lt hn)]
      cases hds : Nat.toDigits 10 (n / 10) with
      | nil => exact absurd hds Nat.toDigits_ne_nil
      | cons c cs =>
        rw [hds] at hfront
        exact hfront

/-- Among several digits the first one is not zero. -/
theorem toDigits_ne_zero_cons (n : Nat) (d : Char) (ds : List Char) :
    Nat.toDigits 10 n ≠ '0' :: d :: ds := by
  intro h
  rcases Nat.eq_zero_or_pos n with rfl | hpos
  · cases congrArg List.length h
  · exact head_toDigits_ne_zero hpos (congrArg List.head? h)

end RemoteRollout
