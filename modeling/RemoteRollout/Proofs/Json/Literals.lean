import Mathlib.Tactic.SplitIfs
import RemoteRollout.Json.NumberText
import RemoteRollout.Proofs.Json.Source
import RemoteRollout.Proofs.Reading

/-!
# Reading literals

The scanners of strings and of numbers, against the grammar. A string literal ends where the grammar
says, for one who skips it too, and its value is that of its pieces; a whole number that fits 64 bits
is read back from its digits.
-/

namespace RemoteRollout.Json

open Text.Utf8 (encode encodeChar)

/-! ## Bytes -/

theorem encode_append (cs ds : List Char) : encode (cs ++ ds) = encode cs ++ encode ds :=
  List.flatMap_append

theorem encode_cons (c : Char) (cs : List Char) : encode (c :: cs) = encodeChar c ++ encode cs := rfl

theorem encodeChar_ne_nil (c : Char) : encodeChar c ≠ [] := by
  unfold encodeChar
  dsimp only
  split_ifs
  all_goals exact List.cons_ne_nil _ _

theorem toNat_toUInt8 {c : Char} (h : c.toNat < 0x80) : c.toUInt8.toNat = c.toNat := by
  show c.val.toUInt8.toNat = c.toNat
  rw [UInt32.toNat_toUInt8]
  exact Nat.mod_eq_of_lt (Nat.lt_trans h (by decide))

theorem encodeChar_of_ascii {c : Char} (h : c.toNat < 0x80) : encodeChar c = [c.toUInt8] := by
  have hbyte : UInt8.ofNat c.toNat = c.toUInt8 := by
    rw [← UInt8.toNat_inj, toNat_toUInt8 h, UInt8.toNat_ofNat']
    omega
  simp only [encodeChar, if_pos h, hbyte]

theorem encode_ascii_cons {c : Char} (h : c.toNat < 0x80) (cs : List Char) :
    encode (c :: cs) = c.toUInt8 :: encode cs := by
  rw [encode_cons, encodeChar_of_ascii h]
  rfl

/-- The bytes of a character outside of `ASCII` are all outside of it. -/
theorem le_toNat_of_mem_encodeChar {c : Char} (h : 0x80 ≤ c.toNat) :
    ∀ b ∈ encodeChar c, 0x80 ≤ b.toNat := by
  have hv : c.toNat < 0xD800 ∨ 0xDFFF < c.toNat ∧ c.toNat < 0x110000 := c.valid
  intro b hb
  simp only [encodeChar] at hb
  generalize c.toNat = n at h hv hb
  have hbyte : ∀ m, 0x80 ≤ m → m < 0x100 → 0x80 ≤ (UInt8.ofNat m).toNat := by
    intro m hlow hhigh
    rw [UInt8.toNat_ofNat', Nat.mod_eq_of_lt hhigh]
    exact hlow
  split_ifs at hb with h1 h2 h3
  · omega
  · simp only [List.mem_cons, List.not_mem_nil, or_false] at hb
    rcases hb with rfl | rfl
    all_goals exact hbyte _ (by omega) (by omega)
  · simp only [List.mem_cons, List.not_mem_nil, or_false] at hb
    rcases hb with rfl | rfl | rfl
    all_goals exact hbyte _ (by omega) (by omega)
  · simp only [List.mem_cons, List.not_mem_nil, or_false] at hb
    rcases hb with rfl | rfl | rfl | rfl
    all_goals exact hbyte _ (by omega) (by omega)

/-- Characters of `ASCII` are told apart by their bytes. -/
theorem toUInt8_inj {c d : Char} (hc : c.toNat < 0x80) (hd : d.toNat < 0x80)
    (h : c.toUInt8 = d.toUInt8) : c = d := by
  have hnat : c.toUInt8.toNat = d.toUInt8.toNat := by rw [h]
  rw [toNat_toUInt8 hc, toNat_toUInt8 hd] at hnat
  exact Char.toNat_inj.1 hnat

/-! ## Strings -/

section Strings

variable {reading : Reading} {rest : List UInt8}

/-- A byte that stands for itself inside of a string. -/
def IsPlain (b : UInt8) : Prop := 0x20 ≤ b.toNat ∧ b ≠ '"'.toUInt8 ∧ b ≠ '\\'.toUInt8

theorem isPlain_of_mem_encodeChar {c : Char} (hcontrol : 0x20 ≤ c.toNat) (hquote : c ≠ '"')
    (hslash : c ≠ '\\') : ∀ b ∈ encodeChar c, IsPlain b := by
  intro b hb
  by_cases hc : c.toNat < 0x80
  · rw [encodeChar_of_ascii hc, List.mem_singleton] at hb
    subst hb
    refine ⟨by rwa [toNat_toUInt8 hc], fun h => hquote ?_, fun h => hslash ?_⟩
    · exact toUInt8_inj hc (by decide) h
    · exact toUInt8_inj hc (by decide) h
  · have hbyte := le_toNat_of_mem_encodeChar (Nat.le_of_not_lt hc) b hb
    refine ⟨by omega, ?_, ?_⟩
    · rintro rfl
      exact absurd hbyte (by decide)
    · rintro rfl
      exact absurd hbyte (by decide)

theorem stringBody_plain {l : List UInt8} (h : ∀ b ∈ l, IsPlain b) :
    stringBody reading (.text none) (l ++ rest) =
      (stringBody reading (.text none) rest).map fun r => (l ++ r.1, r.2) := by
  induction l with
  | nil =>
    rw [List.nil_append]
    cases stringBody reading (.text none) rest <;> rfl
  | cons b bs ih =>
    obtain ⟨hcontrol, hquote, hslash⟩ := h b List.mem_cons_self
    rw [List.cons_append, stringBody, if_neg hslash, if_neg (by simp), if_neg hquote,
      if_neg (by omega), ih fun b hb => h b (List.mem_cons_of_mem _ hb)]
    cases stringBody reading (.text none) rest <;> rfl

/-- A letter behind a backslash stands for one byte. -/
theorem unescaped?_of_mem_letters {l c : Char} (h : (l, c) ∈ Piece.letters) :
    encodeChar l = [l.toUInt8] ∧ l.toUInt8 ≠ 'u'.toUInt8 ∧
      unescaped? l.toUInt8 = some c.toUInt8 ∧ encodeChar c = [c.toUInt8] := by
  simp only [Piece.letters, List.mem_cons, Prod.mk.injEq, List.not_mem_nil, or_false] at h
  rcases h with ⟨rfl, rfl⟩ | ⟨rfl, rfl⟩ | ⟨rfl, rfl⟩ | ⟨rfl, rfl⟩ | ⟨rfl, rfl⟩ | ⟨rfl, rfl⟩ |
    ⟨rfl, rfl⟩ | ⟨rfl, rfl⟩
  all_goals decide

theorem encode_letter_append {l c : Char} (h : (l, c) ∈ Piece.letters) :
    encode ['\\', l] ++ rest = '\\'.toUInt8 :: l.toUInt8 :: rest := by
  rw [encode_cons, encode_cons, (unescaped?_of_mem_letters h).1]
  rfl

theorem stringBody_letter {l c : Char} (h : (l, c) ∈ Piece.letters) :
    stringBody reading (.text none) (encode ['\\', l] ++ rest) =
      (stringBody reading (.text none) rest).map fun r => (encodeChar c ++ r.1, r.2) := by
  obtain ⟨-, hu, hletter, hc⟩ := unescaped?_of_mem_letters h
  rw [encode_letter_append h, stringBody, if_pos rfl, stringBody, if_neg hu, if_neg (by simp),
    hletter, hc]
  rfl

theorem stringBody_letter_after_high {l c : Char} (h : (l, c) ∈ Piece.letters) (high : Nat) :
    ∃ fault, stringBody reading (.text (some high)) (encode ['\\', l] ++ rest) = .error fault := by
  obtain ⟨-, hu, -, -⟩ := unescaped?_of_mem_letters h
  rw [encode_letter_append h, stringBody, if_pos rfl, stringBody, if_neg hu, if_pos (by simp)]
  exact ⟨_, rfl⟩

theorem stringBody_plain_after_high {b : UInt8} (h : IsPlain b) (high : Nat) (bs : List UInt8) :
    ∃ fault, stringBody reading (.text (some high)) (b :: bs) = .error fault := by
  rw [stringBody, if_neg h.2.2, if_pos (by simp)]
  exact ⟨_, rfl⟩

theorem hexValue?_toUInt8 {d : Char} {v : Nat} (h : Text.hexValue? d = some v) :
    encodeChar d = [d.toUInt8] ∧ hexValue? d.toUInt8 = some v := by
  have hascii : d.toNat < 0x80 := by
    unfold Text.hexValue? at h
    dsimp only at h
    split_ifs at h
    all_goals omega
  refine ⟨encodeChar_of_ascii hascii, ?_⟩
  rw [hexValue?, toNat_toUInt8 hascii]
  exact h

/-- A digit of an escape before the last one. -/
theorem stringBody_digit {b : UInt8} {v : Nat} (h : hexValue? b = some v) (high : Option Nat)
    {count : Nat} (hcount : count < 3) (value : Nat) :
    stringBody reading (.hex high count (some value)) (b :: rest) =
      stringBody reading (.hex high (count + 1) (some (value * 16 + v))) rest := by
  rw [stringBody, if_pos hcount, h, Option.bind_some, Option.map_some]

/-- The code unit of an escape with these digits. -/
theorem stringBody_unit {d₁ d₂ d₃ d₄ : Char} {v₁ v₂ v₃ v₄ : Nat}
    (h₁ : Text.hexValue? d₁ = some v₁) (h₂ : Text.hexValue? d₂ = some v₂)
    (h₃ : Text.hexValue? d₃ = some v₃) (h₄ : Text.hexValue? d₄ = some v₄) (high : Option Nat) :
    stringBody reading (.text high) (encode ['\\', 'u', d₁, d₂, d₃, d₄] ++ rest) =
      if reading = .loose then stringBody reading (.text none) rest
      else
        match codeUnit high (((v₁ * 16 + v₂) * 16 + v₃) * 16 + v₄) with
        | .error cause => .error ⟨cause, rest⟩
        | .ok (bytes, high) =>
          (stringBody reading (.text high) rest).map fun r => (bytes ++ r.1, r.2) := by
  obtain ⟨e₁, h₁⟩ := hexValue?_toUInt8 h₁
  obtain ⟨e₂, h₂⟩ := hexValue?_toUInt8 h₂
  obtain ⟨e₃, h₃⟩ := hexValue?_toUInt8 h₃
  obtain ⟨e₄, h₄⟩ := hexValue?_toUInt8 h₄
  have hbytes : encode ['\\', 'u', d₁, d₂, d₃, d₄] ++ rest =
      '\\'.toUInt8 :: 'u'.toUInt8 :: d₁.toUInt8 :: d₂.toUInt8 :: d₃.toUInt8 :: d₄.toUInt8 :: rest := by
    simp only [encode_cons, e₁, e₂, e₃, e₄]
    rfl
  rw [hbytes, stringBody, if_pos rfl, stringBody, if_pos rfl, stringBody_digit h₁ high (by omega),
    stringBody_digit h₂ high (by omega), stringBody_digit h₃ high (by omega), Nat.zero_mul,
    Nat.zero_add v₁, stringBody, h₄]
  exact if_neg (by omega)

/-- A literal that is skipped ends where the grammar says. -/
theorem stringBody_loose {ps : List Piece} {cs : List Char} (h : Piece.AllSpelled ps cs)
    (rest : List UInt8) :
    ∃ bytes, stringBody .loose (.text none) (encode cs ++ '"'.toUInt8 :: rest) = .ok (bytes, rest) := by
  induction h with
  | nil => exact ⟨[], rfl⟩
  | @cons p ps cs more h hs ih =>
    obtain ⟨bytes, hbytes⟩ := ih
    rw [encode_append, List.append_assoc]
    cases h with
    | plain hcontrol hquote hslash =>
      have hplain := isPlain_of_mem_encodeChar hcontrol hquote hslash
      rw [encode_cons, show encode [] = [] from rfl, List.append_nil, stringBody_plain hplain, hbytes]
      exact ⟨_, rfl⟩
    | letter hl =>
      rw [stringBody_letter hl, hbytes]
      exact ⟨_, rfl⟩
    | unit h₁ h₂ h₃ h₄ =>
      rw [stringBody_unit h₁ h₂ h₃ h₄, if_pos rfl]
      exact ⟨bytes, hbytes⟩

theorem toOption_map {ε α β : Type} (x : Except ε α) (f : α → β) :
    (x.map f).toOption = x.toOption.map f := by
  cases x with
  | error e => rfl
  | ok a => rfl

theorem toOption_of_error {ε α : Type} {x : Except ε α} (h : ∃ e, x = .error e) :
    x.toOption = none := by
  obtain ⟨e, rfl⟩ := h
  rfl

/-- A literal that is read stands for what its pieces stand for. -/
theorem toOption_stringBody {ps : List Piece} {cs : List Char} (h : Piece.AllSpelled ps cs)
    (rest : List UInt8) (high : Option Nat) :
    (stringBody .strict (.text high) (encode cs ++ '"'.toUInt8 :: rest)).toOption =
      (Piece.charsAfter? high ps).map fun vs => (encode vs, rest) := by
  -- By induction on the pieces for any state: only a code unit can leave half of a pair behind, and
  -- only another one can complete it.
  induction h generalizing high with
  | nil =>
    cases high with
    | none => rfl
    | some high => rfl
  | @cons p ps cs more h hs ih =>
    rw [encode_append, List.append_assoc]
    cases h with
    | @plain c hcontrol hquote hslash =>
      have hplain := isPlain_of_mem_encodeChar hcontrol hquote hslash
      rw [encode_cons, show encode [] = [] from rfl, List.append_nil]
      cases high with
      | none =>
        rw [stringBody_plain hplain, toOption_map, ih none, Piece.charsAfter?, Option.map_map,
          Option.map_map]
        rfl
      | some high =>
        cases hbytes : encodeChar c with
        | nil => exact absurd hbytes (encodeChar_ne_nil c)
        | cons b bs =>
          rw [hbytes] at hplain
          rw [List.cons_append]
          exact toOption_of_error (stringBody_plain_after_high (hplain b List.mem_cons_self) high _)
    | letter hl =>
      cases high with
      | none =>
        rw [stringBody_letter hl, toOption_map, ih none, Piece.charsAfter?, Option.map_map,
          Option.map_map]
        rfl
      | some high => exact toOption_of_error (stringBody_letter_after_high hl high)
    | unit h₁ h₂ h₃ h₄ =>
      rw [stringBody_unit h₁ h₂ h₃ h₄, if_neg (by simp)]
      generalize ((_ * 16 + _) * 16 + _) * 16 + _ = n
      cases high with
      | none =>
        rw [codeUnit, Piece.charsAfter?]
        by_cases hlow : isLowSurrogate n = true
        · rw [if_pos hlow, if_pos hlow]
          rfl
        · rw [if_neg hlow, if_neg hlow]
          by_cases hhigh : isHighSurrogate n = true
          · rw [if_pos hhigh, if_pos hhigh]
            dsimp only
            rw [toOption_map, ih (some n), Option.map_map]
            rfl
          · rw [if_neg hhigh, if_neg hhigh]
            dsimp only
            rw [toOption_map, ih none, Option.map_map, Option.map_map]
            rfl
      | some high =>
        rw [codeUnit, Piece.charsAfter?]
        by_cases hlow : isLowSurrogate n = true
        · rw [if_pos hlow, if_pos hlow]
          dsimp only
          rw [toOption_map, ih none, Option.map_map, Option.map_map]
          rfl
        · rw [if_neg hlow, if_neg hlow]
          rfl

/-- What was written as bytes is text again. -/
theorem text?_encode (cs : List Char) : Text.Utf8.text? (encode cs) = some cs := by
  rw [Text.Utf8.text?, Text.Utf8.decode_encode]
  induction cs with
  | nil => rfl
  | cons c cs ih => simp [ih]

theorem toOption_stringValue {ps : List Piece} {cs : List Char} (h : Piece.AllSpelled ps cs)
    (rest left : List UInt8) :
    (stringValue (encode cs ++ '"'.toUInt8 :: rest) left).toOption = Piece.text? ps := by
  have hbody := toOption_stringBody h rest none
  unfold stringValue Piece.text?
  cases hresult : stringBody .strict (.text none) (encode cs ++ '"'.toUInt8 :: rest) with
  | error fault =>
    rw [hresult] at hbody
    cases hchars : Piece.charsAfter? none ps with
    | none => rfl
    | some vs =>
      rw [hchars] at hbody
      cases hbody
  | ok r =>
    rw [hresult] at hbody
    cases hchars : Piece.charsAfter? none ps with
    | none =>
      rw [hchars] at hbody
      cases hbody
    | some vs =>
      rw [hchars] at hbody
      cases hbody
      simp only [bind, Except.bind, text?_encode]
      rfl

end Strings

/-! ## Whole numbers -/

section Numbers

variable {rest : List UInt8}

/-- No number goes on with these bytes. -/
def EndsNumber (rest : List UInt8) : Prop :=
  ∀ b ∈ rest.head?, isDigit b = false ∧ b ≠ '.'.toUInt8 ∧ b ≠ 'e'.toUInt8 ∧ b ≠ 'E'.toUInt8

/-- The value of some digits behind a number. -/
def valueAfter (n : Nat) (ds : List UInt8) : Nat := ds.foldl (fun n d => n * 10 + digitValue d) n

theorem le_valueAfter (n : Nat) (ds : List UInt8) : n ≤ valueAfter n ds := by
  induction ds generalizing n with
  | nil => exact Nat.le_refl n
  | cons d ds ih =>
    have hrest := ih (n * 10 + digitValue d)
    show n ≤ valueAfter (n * 10 + digitValue d) ds
    omega

/-- Digits are kept as long as their value stays below the limit. -/
theorem absorb_of_lt {limit n : Nat} {ds : List UInt8} (h : valueAfter n ds < limit) :
    Literal.absorb limit n ds = (valueAfter n ds, []) := by
  induction ds generalizing n with
  | nil => rfl
  | cons d ds ih =>
    have hvalue : valueAfter n (d :: ds) = valueAfter (n * 10 + digitValue d) ds := rfl
    rw [hvalue] at h ⊢
    have hfirst : n * 10 + digitValue d < limit := Nat.lt_of_le_of_lt (le_valueAfter _ ds) h
    rw [Literal.absorb, if_pos hfirst, ih h]

/-- The digits of a number as bytes. -/
def digitBytes (n : Nat) : List UInt8 := encode (Nat.toDigits 10 n)

theorem encode_of_digits {cs : List Char} (h : ∀ c ∈ cs, c.isDigit = true) :
    encode cs = cs.map Char.toUInt8 ∧ (∀ b ∈ encode cs, isDigit b = true) ∧
      ∀ n, valueAfter n (encode cs) = Nat.ofDigitChars 10 cs n := by
  induction cs with
  | nil => exact ⟨rfl, by simp [encode], fun n => rfl⟩
  | cons c cs ih =>
    obtain ⟨hmap, hdigits, hvalue⟩ := ih fun c hc => h c (List.mem_cons_of_mem _ hc)
    have hc : 48 ≤ c.toNat ∧ c.toNat ≤ 57 := Char.isDigit_iff_toNat.1 (h c List.mem_cons_self)
    have hnat : c.toUInt8.toNat = c.toNat := toNat_toUInt8 (by omega)
    have hbyte : isDigit c.toUInt8 = true := by
      simp only [isDigit, hnat, Bool.and_eq_true, decide_eq_true_eq]
      exact hc
    have hcons : encode (c :: cs) = c.toUInt8 :: encode cs := encode_ascii_cons (by omega) cs
    refine ⟨by rw [hcons, hmap]; rfl, ?_, ?_⟩
    · rw [hcons]
      exact List.forall_mem_cons.2 ⟨hbyte, hdigits⟩
    · intro n
      rw [hcons]
      show valueAfter (n * 10 + digitValue c.toUInt8) (encode cs) = _
      rw [hvalue, Nat.ofDigitChars_cons, digitValue, hnat, Nat.mul_comm]
      rfl

theorem isDigit_of_mem_digitBytes {n : Nat} : ∀ b ∈ digitBytes n, isDigit b = true :=
  (encode_of_digits isDigit_of_mem_toDigits).2.1

theorem valueAfter_digitBytes (n : Nat) : valueAfter 0 (digitBytes n) = n := by
  rw [digitBytes, (encode_of_digits isDigit_of_mem_toDigits).2.2, Nat.ofDigitChars_ten_toDigits]

theorem digitBytes_ne_nil (n : Nat) : digitBytes n ≠ [] := by
  intro h
  cases hds : Nat.toDigits 10 n with
  | nil => exact Nat.toDigits_ne_nil hds
  | cons c cs =>
    rw [digitBytes, hds, encode_cons] at h
    exact encodeChar_ne_nil c (List.append_eq_nil_iff.1 h).1

/-- Among several digits the first one is not zero. -/
theorem digitBytes_ne_zero_cons (n : Nat) (e : UInt8) (ds : List UInt8) :
    digitBytes n ≠ '0'.toUInt8 :: e :: ds := by
  -- The scanner stops behind a leading zero, so it matters that no number has one.
  intro h
  rw [digitBytes, (encode_of_digits isDigit_of_mem_toDigits).1] at h
  obtain ⟨c, cs, hds, hc, hcs⟩ := List.map_eq_cons_iff.1 h
  obtain ⟨d, tail, rfl, -⟩ := List.map_eq_cons_iff.1 hcs
  have hdigit : 48 ≤ c.toNat ∧ c.toNat ≤ 57 :=
    Char.isDigit_iff_toNat.1 (isDigit_of_mem_toDigits (n := n) c (by simp [hds]))
  have hzero : c = '0' := toUInt8_inj (by omega) (by decide) hc
  exact toDigits_ne_zero_cons n d tail (hzero ▸ hds)

theorem wholePart_digitBytes (n : Nat) (h : EndsNumber rest) :
    Literal.wholePart (digitBytes n ++ rest) = .ok (digitBytes n, rest) := by
  have hrest : ∀ b ∈ rest.head?, isDigit b = false := fun b hb => (h b hb).1
  have hrun : digitRun (digitBytes n ++ rest) = (digitBytes n, rest) := by
    rw [digitRun, takeWhile_append_of_ends isDigit_of_mem_digitBytes hrest,
      dropWhile_append_of_ends isDigit_of_mem_digitBytes hrest]
  rw [Literal.wholePart, hrun]
  rcases hds : digitBytes n with _ | ⟨d, _ | ⟨e, ds⟩⟩
  · exact absurd hds (digitBytes_ne_nil n)
  · rfl
  · have hzero : d ≠ '0'.toUInt8 := by
      rintro rfl
      exact absurd hds (digitBytes_ne_zero_cons n e ds)
    dsimp only
    rw [if_neg hzero]

/-- Nothing follows a whole number that looks like a fraction or an exponent. -/
theorem scan_digitBytes (negative : Bool) (n : Nat) (h : EndsNumber rest) :
    Literal.scan negative (digitBytes n ++ rest) =
      .ok ({ negative, whole := digitBytes n, fraction := none, exponent := none }, rest) := by
  have hfraction : Literal.fractionPart rest = .ok (none, rest) := by
    cases rest with
    | nil => rfl
    | cons b bs => rw [Literal.fractionPart, if_neg (h b rfl).2.1]
  have hexponent : Literal.exponentPart rest = .ok (none, rest) := by
    cases rest with
    | nil => rfl
    | cons b bs =>
      have hletters : ¬ (b = 'e'.toUInt8 ∨ b = 'E'.toUInt8) := not_or.2 (h b rfl).2.2
      rw [Literal.exponentPart, if_neg hletters]
  simp only [Literal.scan, wholePart_digitBytes n h, bind, Except.bind, hfraction, hexponent]
  rfl

/-- A whole number that fits is its own value. -/
theorem value_digitBytes (n : Nat) (negative : Bool) (rest : List UInt8)
    (hlimit : n < 0x10000000000000000)
    (hnegative : negative = true → 0 < n ∧ n ≤ 0x8000000000000000) :
    Literal.value { negative, whole := digitBytes n, fraction := none, exponent := none } rest =
      .ok (.whole (if negative then -n else n)) := by
  have habsorb : Literal.absorb 0x10000000000000000 0 (digitBytes n) = (n, []) := by
    rw [absorb_of_lt, valueAfter_digitBytes]
    rw [valueAfter_digitBytes]
    exact hlimit
  have hsignificand : Literal.significand
      { negative, whole := digitBytes n, fraction := none, exponent := none } = (n, 0) := by
    simp only [Literal.significand, habsorb]
    rfl
  rw [Literal.value, hsignificand]
  cases negative with
  | false => simp
  | true =>
    have hbound : 0 < n ∧ n ≤ 0x8000000000000000 := hnegative rfl
    simp [hbound]

end Numbers

end RemoteRollout.Json
