import Mathlib.Tactic.SplitIfs
import RemoteRollout.Text.Utf8

/-!
# What reads as text

The converse of `decode_encode`: a run of bytes that reads as a text consists of the bytes of that
text (`eq_encode_of_text?`), since a sequence that reads as a character is how the character is
written. Apart from that, no character begins with a byte that goes on with another one
(`continuation?_of_encodeChar_eq_cons`).
-/

namespace RemoteRollout.Text.Utf8

/-! ## Sequences -/

theorem continuation?_eq_some_iff {b : UInt8} {y : Nat} :
    continuation? b = some y ↔ y < 0x40 ∧ b.toNat = 0x80 + y := by
  unfold continuation?
  split_ifs with h
  · rw [Option.some.injEq]
    omega
  · simp only [false_iff]
    omega

private theorem ofNat_eq {n : Nat} {b : UInt8} (h : b.toNat = n) : UInt8.ofNat n = b := by
  rw [← h, UInt8.ofNat_toNat]

theorem toNat_ofNat {n : Nat} (h : n < 0xD800 ∨ 0xDFFF < n ∧ n < 0x110000) :
    (Char.ofNat n).toNat = n := by
  have hvalid : n.isValidChar := h
  rw [Char.ofNat, dif_pos hvalid]
  rfl

variable {a b c d : UInt8} {rest : List UInt8} {n more : Nat}

theorem encodeChar_of_ascii_byte (h : a.toNat < 0x80) : encodeChar (Char.ofNat a.toNat) = [a] := by
  rw [encodeChar, toNat_ofNat (by omega), if_pos h, UInt8.ofNat_toNat]

theorem encodeChar_of_pair? (h : pair? a b = some n) : encodeChar (Char.ofNat n) = [a, b] := by
  unfold pair? at h
  split_ifs at h with ha
  obtain ⟨y, hy, rfl⟩ := Option.map_eq_some_iff.1 h
  obtain ⟨hlt, hb⟩ := continuation?_eq_some_iff.1 hy
  rw [encodeChar, toNat_ofNat (by omega), if_neg (by omega), if_pos (by omega),
    ofNat_eq (b := a) (by omega), ofNat_eq (b := b) (by omega)]

theorem encodeChar_of_triple? (h : triple? a b c = some n) :
    encodeChar (Char.ofNat n) = [a, b, c] := by
  unfold triple? at h
  split_ifs at h with ha
  split at h
  · next y z hy hz =>
    obtain ⟨hlty, hb⟩ := continuation?_eq_some_iff.1 hy
    obtain ⟨hltz, hc⟩ := continuation?_eq_some_iff.1 hz
    dsimp only at h
    split_ifs at h with hrange
    cases h
    rw [encodeChar, toNat_ofNat (by omega), if_neg (by omega), if_neg (by omega), if_pos (by omega),
      ofNat_eq (b := a) (by omega), ofNat_eq (b := b) (by omega), ofNat_eq (b := c) (by omega)]
  · cases h

theorem encodeChar_of_quadruple? (h : quadruple? a b c d = some n) :
    encodeChar (Char.ofNat n) = [a, b, c, d] := by
  unfold quadruple? at h
  split_ifs at h with ha
  split at h
  · next y z w hy hz hw =>
    obtain ⟨hlty, hb⟩ := continuation?_eq_some_iff.1 hy
    obtain ⟨hltz, hc⟩ := continuation?_eq_some_iff.1 hz
    obtain ⟨hltw, hd⟩ := continuation?_eq_some_iff.1 hw
    dsimp only at h
    split_ifs at h with hrange
    cases h
    rw [encodeChar, toNat_ofNat (by omega), if_neg (by omega), if_neg (by omega), if_neg (by omega),
      ofNat_eq (b := a) (by omega), ofNat_eq (b := b) (by omega), ofNat_eq (b := c) (by omega),
      ofNat_eq (b := d) (by omega)]
  · cases h

/-- A sequence that reads as a character is how the character is written. -/
theorem encodeChar_append_drop (h : sequence? a rest = some (n, more)) :
    encodeChar (Char.ofNat n) ++ rest.drop more = a :: rest := by
  unfold sequence? at h
  split at h
  · next ha =>
    cases h
    rw [encodeChar_of_ascii_byte ha]
    rfl
  · split at h
    · cases h
    · split at h
      · next hpair =>
        cases h
        rw [encodeChar_of_pair? hpair]
        rfl
      · split at h
        · cases h
        · split at h
          · next htriple =>
            cases h
            rw [encodeChar_of_triple? htriple]
            rfl
          · split at h
            · cases h
            · obtain ⟨m, hquadruple, hm⟩ := Option.map_eq_some_iff.1 h
              cases hm
              rw [encodeChar_of_quadruple? hquadruple]
              rfl

/-! ## Texts -/

theorem decodeFrom_eq_decode_drop (skip : Nat) (bytes : List UInt8) :
    decodeFrom skip bytes = decode (bytes.drop skip) := by
  induction bytes generalizing skip with
  | nil => cases skip <;> rfl
  | cons b rest ih =>
    cases skip with
    | zero => rfl
    | succ skip => exact ih skip

theorem decode_cons (a : UInt8) (rest : List UInt8) :
    decode (a :: rest) =
      match sequence? a rest with
      | some (n, more) => .char (Char.ofNat n) :: decode (rest.drop more)
      | none => .stray a :: decode rest := by
  rw [decode, decodeFrom]
  cases sequence? a rest with
  | none => rfl
  | some found =>
    dsimp only
    rw [decodeFrom_eq_decode_drop]

/-- What reads as characters throughout is how they are written. -/
theorem eq_encode_of_decode {cs : List Char} {bytes : List UInt8}
    (h : decode bytes = cs.map .char) : bytes = encode cs := by
  induction cs generalizing bytes with
  | nil =>
    cases bytes with
    | nil => rfl
    | cons a rest =>
      rw [decode_cons] at h
      split at h
      · cases h
      · cases h
  | cons c cs ih =>
    cases bytes with
    | nil => cases h
    | cons a rest =>
      rw [decode_cons] at h
      split at h
      · next n more hsequence =>
        obtain ⟨hchar, hrest⟩ := List.cons.inj h
        cases hchar
        rw [← encodeChar_append_drop hsequence, ih hrest]
        rfl
      · cases h

/-- The bytes that read as a text are those of the text. -/
theorem eq_encode_of_text? {bytes : List UInt8} {cs : List Char} (h : text? bytes = some cs) :
    bytes = encode cs := by
  refine eq_encode_of_decode ?_
  rw [text?] at h
  generalize decode bytes = symbols at h ⊢
  induction symbols generalizing cs with
  | nil =>
    cases h
    rfl
  | cons s symbols ih =>
    cases s with
    | stray b => cases h
    | char c =>
      simp only [List.mapM_cons, Option.pure_def, Option.bind_eq_bind, Option.bind_some,
        Option.bind_eq_some_iff, Option.some.injEq] at h
      obtain ⟨cs, hsymbols, rfl⟩ := h
      rw [ih hsymbols, List.map_cons]

/-! ## First bytes -/

/-- A character is told by its first byte from the rest of another one: only the bytes after the
first are continuation bytes. -/
theorem continuation?_of_encodeChar_eq_cons {ch : Char} (h : encodeChar ch = a :: rest) :
    continuation? a = none ∧ ∀ b ∈ rest, (continuation? b).isSome = true := by
  have hv : ch.toNat < 0xD800 ∨ 0xDFFF < ch.toNat ∧ ch.toNat < 0x110000 := ch.valid
  have hfirst : ∀ m, m < 0x80 ∨ 0xC0 ≤ m → m < 0x100 → continuation? (UInt8.ofNat m) = none := by
    intro m hm hbyte
    rw [continuation?, UInt8.toNat_ofNat', Nat.mod_eq_of_lt hbyte, if_neg (by omega)]
  have hnext : ∀ m, (continuation? (UInt8.ofNat (0x80 + m % 64))).isSome = true := by
    intro m
    rw [Option.isSome_iff_exists]
    refine ⟨m % 64, continuation?_eq_some_iff.2 ⟨Nat.mod_lt _ (by decide), ?_⟩⟩
    rw [UInt8.toNat_ofNat', Nat.mod_eq_of_lt (by omega)]
  simp only [encodeChar] at h
  generalize ch.toNat = n at h hv
  split_ifs at h
  all_goals
    cases h
    refine ⟨hfirst _ (by omega) (by omega), ?_⟩
    simp only [List.forall_mem_cons, List.not_mem_nil, false_implies, implies_true, hnext, and_self]

end RemoteRollout.Text.Utf8
