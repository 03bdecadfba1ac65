import Mathlib.Tactic.SplitIfs
import RemoteRollout.Json.Printer
import RemoteRollout.Proofs.Yaml.Spots
import RemoteRollout.Yaml.Plain
import RemoteRollout.Yaml.Quoted

/-!
# Scalars of a printed text

A string that is written between double quotes as `JSON` is read as this string between double quotes
(`quotedText_stringText`), if the characters that are written as they are can be seen: every other one
is written as an escape, and these escapes mean the same in both formats. A word without quotes is read
up to the punctuation behind it (`plainText_word`).
-/

namespace RemoteRollout.Yaml

open Json (escapedChar stringText)

/-! ## Escapes -/

/-- The character is written as an escape, or can be seen. -/
def isLegible (c : Char) : Bool := decide (c.toNat < 0x20) || isVisible c

/-- The characters of `ASCII` are legible, but for `DEL`. -/
theorem isLegible_of_lt {c : Char} (h : c.toNat < 0x7F) : isLegible c = true := by
  by_cases hcontrol : c.toNat < 0x20
  · simp [isLegible, hcontrol]
  · have hne : ∀ d : Char, d.toNat < 0x20 ∨ 0x7F ≤ d.toNat → c ≠ d := by
      rintro d hd rfl
      omega
    have hrange : 0x20 ≤ c.toNat ∧ c.toNat ≤ 0x7E := by omega
    simp [isLegible, isVisible, isAllowed, isBreak, hrange, hne]

/-- The forms in which a character is written between double quotes. -/
inductive Escaped : Char → List Char → Prop where
  | letter {c l : Char} (hvalue : escapeValue? l = some c) (hbreak : isBreak l = false)
      (hvisible : isVisible l = true) : Escaped c ['\\', l]
  | digits {c : Char} (h : c.toNat < 0x20) :
      Escaped c ['\\', 'u', '0', '0', Nat.digitChar (c.toNat / 16), Nat.digitChar (c.toNat % 16)]
  | itself {c : Char} (hvisible : isVisible c = true) (hquote : c ≠ '"') (hslash : c ≠ '\\') :
      Escaped c [c]

theorem escaped_escapedChar {c : Char} (h : isLegible c = true) : Escaped c (escapedChar c) := by
  unfold escapedChar
  split_ifs with hquote hslash hb hf hn hr ht hcontrol
  · rw [hquote]
    exact .letter (by decide) (by decide) (by decide)
  · rw [hslash]
    exact .letter (by decide) (by decide) (by decide)
  · rw [hb]
    exact .letter (by decide) (by decide) (by decide)
  · rw [hf]
    exact .letter (by decide) (by decide) (by decide)
  · rw [hn]
    exact .letter (by decide) (by decide) (by decide)
  · rw [hr]
    exact .letter (by decide) (by decide) (by decide)
  · rw [ht]
    exact .letter (by decide) (by decide) (by decide)
  · exact .digits hcontrol
  · refine .itself ?_ hquote hslash
    simpa [isLegible, hcontrol] using h

/-- Whatever is written can be seen, so that it stays in its line. -/
theorem Escaped.isVisible {c : Char} {cs : List Char} (h : Escaped c cs) :
    ∀ d ∈ cs, isVisible d = true := by
  cases h with
  | letter _ _ hvisible => simpa using ⟨by decide, hvisible⟩
  | digits hcontrol =>
    have hdigit : ∀ n < 16, Yaml.isVisible (Nat.digitChar n) = true := by decide
    have hhigh := hdigit (c.toNat / 16) (by omega)
    have hlow := hdigit (c.toNat % 16) (by omega)
    simpa [hhigh, hlow] using (by decide)
  | itself hvisible => simpa using hvisible

theorem isBreak_of_isVisible {c : Char} (h : isVisible c = true) : isBreak c = false :=
  (isVisible_iff.1 h).2.2.1

/-! ## Between double quotes -/

section Quoted

variable {m : Mark} {fold : Fold} {c l : Char} {rest : List Spot}

theorem quotedText_itself (hcolumn : m.column ≠ 0) (hvisible : isVisible c = true) (hspace : c ≠ ' ')
    (hquote : c ≠ '"') (hslash : c ≠ '\\') :
    quotedText .double .text fold (⟨c, m⟩ :: rest) =
      prepend (fold.text ++ [c]) (quotedText .double .text {} rest) := by
  have hle := (isVisible_iff.1 hvisible).2.1
  have hend : isEnd c = false := by
    refine beq_eq_false_iff_ne.2 ?_
    rintro rfl
    exact absurd hle (by decide)
  have htab : c ≠ '\t' := by
    rintro rfl
    exact absurd hle (by decide)
  rw [quotedText]
  simp [hend, isSpace, hspace, htab, isBreak_of_isVisible hvisible, isDocumentMark_eq_false (.inl hcolumn),
    Quotes.char, hquote, hslash]

theorem quotedText_backslash (hcolumn : m.column ≠ 0) :
    quotedText .double .text fold (⟨'\\', m⟩ :: rest) =
      prepend fold.text (quotedText .double .escape {} rest) := by
  rw [quotedText]
  simp [isEnd, endChar, isSpace, isBreak, isDocumentMark_eq_false (.inl hcolumn), Quotes.char]

theorem quotedText_quote (hcolumn : m.column ≠ 0) :
    quotedText .double .text fold (⟨'"', m⟩ :: rest) = some (fold.text, rest) := by
  rw [quotedText]
  simp [isEnd, endChar, isSpace, isBreak, isDocumentMark_eq_false (.inl hcolumn), Quotes.char]

theorem quotedText_letter (hvalue : escapeValue? l = some c) (hbreak : isBreak l = false) :
    quotedText .double .escape fold (⟨l, m⟩ :: rest) =
      prepend [c] (quotedText .double .text {} rest) := by
  rw [quotedText]
  simp [hvalue, hbreak]

/-- The code of a control character has two digits behind two zeros. -/
theorem quotedText_digits (h : c.toNat < 0x20) (rest : List Char) :
    quotedText .double .escape fold (spotsFrom m
        ('u' :: '0' :: '0' :: Nat.digitChar (c.toNat / 16) :: Nat.digitChar (c.toNat % 16) :: rest)) =
      prepend [c] (quotedText .double .text {} (spotsFrom (m.past
        ['u', '0', '0', Nat.digitChar (c.toNat / 16), Nat.digitChar (c.toNat % 16)]) rest)) := by
  have hdigit : ∀ n < 16, Text.hexValue? (Nat.digitChar n) = some n := by decide
  have hhigh := hdigit (c.toNat / 16) (by omega)
  have hlow := hdigit (c.toNat % 16) (by omega)
  have hzero : Text.hexValue? '0' = some 0 := by decide
  have hvalue : c.toNat / 16 * 16 + c.toNat % 16 = c.toNat := by omega
  have hchar : charOfCode? c.toNat = some c := by
    rw [charOfCode?, if_neg (by omega), Char.ofNat_toNat]
  simp [quotedText, isBreak, escapeValue?, hexLength?, hzero, hhigh, hlow, hvalue, hchar]

theorem quotedText_space :
    quotedText .double .text fold (⟨' ', m⟩ :: rest) =
      quotedText .double .text (fold.addSpace ' ') rest := by
  rw [quotedText]
  simp [isEnd, endChar, isSpace]

/-- The text is read after spaces that have been read before it. -/
theorem quotedText_escaped {cs : List Char} (h : ∀ c ∈ cs, isLegible c = true) (rest : List Char)
    (spaces : List Char) (hcolumn : m.column ≠ 0) :
    quotedText .double .text { spaces } (spotsFrom m (cs.flatMap escapedChar ++ '"' :: rest)) =
      some (spaces ++ cs, spotsFrom (m.past (cs.flatMap escapedChar ++ ['"'])) rest) := by
  induction cs generalizing m spaces with
  | nil =>
    rw [List.append_nil]
    exact quotedText_quote hcolumn
  | cons c cs ih =>
    have hcs := fun d hd => h d (List.mem_cons_of_mem c hd)
    have hescaped := escaped_escapedChar (h c List.mem_cons_self)
    -- Whatever stands for the character stays in its line, so that no mark of a document begins behind it.
    have hnext : (m.past (escapedChar c)).column ≠ 0 := by
      rw [Mark.past_of_not_isBreak fun d hd => isBreak_of_isVisible (hescaped.isVisible d hd)]
      exact Nat.ne_of_gt (Nat.add_pos_left (Nat.pos_of_ne_zero hcolumn) _)
    have hrest := ih hcs [] hnext
    rw [List.flatMap_cons, List.append_assoc, List.append_assoc, Mark.past_append]
    generalize htext : escapedChar c = text at hescaped hnext hrest ⊢
    cases hescaped with
    | letter hvalue hbreak =>
      simp only [List.cons_append, List.nil_append, spotsFrom_cons]
      rw [quotedText_backslash hcolumn, quotedText_letter hvalue hbreak]
      simp only [Mark.past_cons, Mark.past_nil] at hrest
      rw [hrest]
      simp [prepend, Fold.text]
    | digits hcontrol =>
      simp only [List.cons_append, List.nil_append]
      rw [spotsFrom_cons, quotedText_backslash hcolumn, quotedText_digits hcontrol]
      simp only [Mark.past_cons, Mark.past_nil] at hrest ⊢
      rw [hrest]
      simp [prepend, Fold.text]
    | itself hvisible hquote hslash =>
      simp only [List.cons_append, List.nil_append, spotsFrom_cons]
      simp only [Mark.past_cons, Mark.past_nil] at hrest ⊢
      by_cases hspace : c = ' '
      · subst hspace
        have hspaces := ih hcs (spaces ++ [' ']) hnext
        rw [quotedText_space]
        simpa [Fold.addSpace] using hspaces
      · rw [quotedText_itself hcolumn hvisible hspace hquote hslash, hrest]
        simp [prepend, Fold.text]

/-- **A written string is read as it was**, up to its closing quote. -/
theorem quotedText_stringText {s : String} (h : ∀ c ∈ s.toList, isLegible c = true) (rest : List Char) :
    quotedText .double .text {} ((spotsFrom m (stringText s ++ rest)).drop 1) =
      some (s.toList, spotsFrom (m.past (stringText s)) rest) := by
  have hcolumn : (m.after '"').column ≠ 0 := by
    rw [Mark.after_of_not_isBreak (by decide)]
    exact Nat.succ_ne_zero _
  have hquoted := quotedText_escaped h rest [] hcolumn
  rw [List.nil_append] at hquoted
  simpa [stringText] using hquoted

end Quoted

theorem isVisible_of_mem_stringText {s : String} (h : ∀ c ∈ s.toList, isLegible c = true) {d : Char}
    (hd : d ∈ stringText s) : isVisible d = true := by
  rw [stringText, List.mem_append, List.mem_cons, List.mem_flatMap, List.mem_singleton] at hd
  obtain (rfl | ⟨c, hc, hd⟩) | rfl := hd
  · decide
  · exact (escaped_escapedChar (h c hc)).isVisible d hd
  · decide

/-! ## Words -/

/-- A space or a line feed. -/
def isWhite (c : Char) : Bool := c == ' ' || c == '\n'

/-- The characters are spaces and line feeds. -/
def White (cs : List Char) : Prop := ∀ c ∈ cs, isWhite c = true

theorem isWhite_iff {c : Char} : isWhite c = true ↔ c = ' ' ∨ c = '\n' := by
  simp [isWhite]

theorem white_cons_iff {c : Char} {cs : List Char} :
    White (c :: cs) ↔ isWhite c = true ∧ White cs := List.forall_mem_cons

section Words

variable {m : Mark} {indent : Nat} {fold : Fold} {w ws : List Char} {d : Char}

theorem plainText_punctuation (h : isFlowIndicator d = true) (rest : List Spot) :
    plainText true indent fold (⟨d, m⟩ :: rest) = some ⟨[], fold.broken, ⟨d, m⟩ :: rest⟩ := by
  simp only [isFlowIndicator, Bool.or_eq_true, beq_iff_eq] at h
  have hmark : isDocumentMark (⟨d, m⟩ :: rest) = false := by
    refine isDocumentMark_eq_false (.inr ?_) rest
    obtain (((rfl | rfl) | rfl) | rfl) | rfl := h
    all_goals decide
  rw [plainText]
  obtain (((rfl | rfl) | rfl) | rfl) | rfl := h
  all_goals simp [isEnd, endChar, isSpace, isBreak, isFlowIndicator, hmark]

/-- White space before punctuation does not count. -/
theorem plainText_white (hws : White ws) (h : isFlowIndicator d = true) (rest : List Char) :
    ∃ broken, plainText true indent fold (spotsFrom m (ws ++ d :: rest)) =
      some ⟨[], broken, spotsFrom (m.past ws) (d :: rest)⟩ := by
  induction ws generalizing m fold with
  | nil => exact ⟨fold.broken, plainText_punctuation h _⟩
  | cons c ws ih =>
    obtain ⟨hc, hrest⟩ := white_cons_iff.1 hws
    rw [List.cons_append, spotsFrom_cons, Mark.past_cons, plainText]
    rcases isWhite_iff.1 hc with rfl | rfl
    · simpa [isEnd, endChar, isSpace] using ih hrest
    · simpa [isEnd, endChar, isSpace, isBreak] using ih hrest

theorem ne_of_isAlpha {c d : Char} (hc : c.isAlpha = true) (hd : d.isAlpha = false) : c ≠ d := by
  rintro rfl
  exact absurd hc (by simp [hd])

/-- A letter goes on with the word. -/
theorem plainText_letter {c : Char} (hc : c.isAlpha = true) (rest : List Spot) :
    plainText true indent {} (⟨c, m⟩ :: rest) =
      PlainText.prepend [c] (plainText true indent {} rest) := by
  rw [plainText]
  simp [isEnd, endChar, isSpace, isBreak, Fold.isEmpty, isFlowIndicator, Fold.text, ne_of_isAlpha hc]

/-- **A word is read up to the punctuation behind it**, and the white space between them. -/
theorem plainText_word (indent : Nat) (hw : ∀ c ∈ w, c.isAlpha = true) (hws : White ws)
    (h : isFlowIndicator d = true) (rest : List Char) :
    ∃ broken, plainText true indent {} (spotsFrom m (w ++ ws ++ d :: rest)) =
      some ⟨w, broken, spotsFrom (m.past (w ++ ws)) (d :: rest)⟩ := by
  induction w generalizing m with
  | nil => exact plainText_white hws h rest
  | cons c w ih =>
    obtain ⟨broken, hbroken⟩ := ih (m := m.after c) fun d hd => hw d (List.mem_cons_of_mem c hd)
    refine ⟨broken, ?_⟩
    rw [List.cons_append, List.cons_append, spotsFrom_cons, plainText_letter (hw c List.mem_cons_self),
      hbroken]
    rfl

end Words

end RemoteRollout.Yaml
