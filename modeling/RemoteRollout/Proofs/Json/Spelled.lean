import RemoteRollout.Proofs.Json.Records
import RemoteRollout.Proofs.Utf8

/-!
# Literals that are read

The converse of reading string literals: one whose value is read is spelled as the grammar says
(`exists_quoted`). The bytes of a literal are known to be text only after its escapes are resolved,
while the grammar is one of characters. `Stands` relates both sides byte by byte; where the resolved
bytes are text, those of the literal are too, since an escape never stands for a part of a character.
-/

namespace RemoteRollout.Json

open Text.Utf8 (encode encodeChar continuation?)

/-! ## Bytes -/

/-- How the bytes of a literal, up to its closing quote, stand for other bytes, behind the first half
of a surrogate pair if there is one. -/
inductive Stands : Option Nat → List UInt8 → List UInt8 → List UInt8 → Prop where
  | close {rest : List UInt8} : Stands none ('"'.toUInt8 :: rest) [] rest
  | plain {b : UInt8} {bs bytes rest : List UInt8} (hb : IsPlain b) (h : Stands none bs bytes rest) :
      Stands none (b :: bs) (b :: bytes) rest
  | letter {l c : Char} {bs bytes rest : List UInt8} (hl : (l, c) ∈ Piece.letters)
      (h : Stands none bs bytes rest) :
      Stands none (encode ['\\', l] ++ bs) (encodeChar c ++ bytes) rest
  | unit {d₁ d₂ d₃ d₄ : Char} {v₁ v₂ v₃ v₄ : Nat} {high high' : Option Nat}
      {bs stood bytes rest : List UInt8} (h₁ : Text.hexValue? d₁ = some v₁)
      (h₂ : Text.hexValue? d₂ = some v₂) (h₃ : Text.hexValue? d₃ = some v₃)
      (h₄ : Text.hexValue? d₄ = some v₄)
      (hunit : codeUnit high (((v₁ * 16 + v₂) * 16 + v₃) * 16 + v₄) = .ok (stood, high'))
      (h : Stands high' bs bytes rest) :
      Stands high (encode ['\\', 'u', d₁, d₂, d₃, d₄] ++ bs) (stood ++ bytes) rest

theorem exists_letter_of_unescaped? {b byte : UInt8} (h : unescaped? b = some byte) :
    ∃ l c, (l, c) ∈ Piece.letters ∧ l.toUInt8 = b ∧ encodeChar c = [byte] := by
  unfold unescaped? at h
  split_ifs at h with hself hb hf hn hr ht
  · cases h
    rcases hself with rfl | rfl | rfl
    · exact ⟨'"', '"', by decide, rfl, rfl⟩
    · exact ⟨'\\', '\\', by decide, rfl, rfl⟩
    · exact ⟨'/', '/', by decide, rfl, rfl⟩
  · cases h
    exact ⟨'b', '\x08', by decide, hb.symm, rfl⟩
  · cases h
    exact ⟨'f', '\x0c', by decide, hf.symm, rfl⟩
  · cases h
    exact ⟨'n', '\n', by decide, hn.symm, rfl⟩
  · cases h
    exact ⟨'r', '\r', by decide, hr.symm, rfl⟩
  · cases h
    exact ⟨'t', '\t', by decide, ht.symm, rfl⟩

theorem exists_digit_of_hexValue? {b : UInt8} {v : Nat} (h : hexValue? b = some v) :
    ∃ d, Text.hexValue? d = some v ∧ encodeChar d = [b] := by
  have hascii : b.toNat < 0x80 := by
    unfold hexValue? at h
    dsimp only at h
    split_ifs at h
    all_goals omega
  refine ⟨Char.ofNat b.toNat, ?_, Text.Utf8.encodeChar_of_ascii_byte hascii⟩
  have hnat : (Char.ofNat b.toNat).toNat = b.toNat := Text.Utf8.toNat_ofNat (by omega)
  rw [Text.hexValue?, hnat]
  exact h

/-- The digits of an escape that is read. -/
theorem exists_digits_of_stringBody {high : Option Nat} {bs : List UInt8}
    {r : List UInt8 × List UInt8}
    (h : stringBody .strict (.hex high 0 (some 0)) bs = .ok r) :
    ∃ d₁ d₂ d₃ d₄ v₁ v₂ v₃ v₄ tail, Text.hexValue? d₁ = some v₁ ∧ Text.hexValue? d₂ = some v₂ ∧
      Text.hexValue? d₃ = some v₃ ∧ Text.hexValue? d₄ = some v₄ ∧
      bs = encode [d₁, d₂, d₃, d₄] ++ tail := by
  rcases bs with _ | ⟨b₁, _ | ⟨b₂, _ | ⟨b₃, _ | ⟨b₄, tail⟩⟩⟩⟩
  iterate 4 cases h
  rw [stringBody, if_pos (by omega), stringBody, if_pos (by omega), stringBody, if_pos (by omega),
    stringBody, if_neg (by omega)] at h
  split at h
  · cases h
  · next n hn =>
    simp only [Option.bind_eq_some_iff, Option.map_eq_some_iff, Option.some.injEq] at hn
    obtain ⟨_, ⟨_, ⟨_, ⟨_, rfl, v₁, h₁, rfl⟩, v₂, h₂, rfl⟩, v₃, h₃, rfl⟩, v₄, h₄, rfl⟩ := hn
    obtain ⟨d₁, h₁, e₁⟩ := exists_digit_of_hexValue? h₁
    obtain ⟨d₂, h₂, e₂⟩ := exists_digit_of_hexValue? h₂
    obtain ⟨d₃, h₃, e₃⟩ := exists_digit_of_hexValue? h₃
    obtain ⟨d₄, h₄, e₄⟩ := exists_digit_of_hexValue? h₄
    refine ⟨d₁, d₂, d₃, d₄, v₁, v₂, v₃, v₄, tail, h₁, h₂, h₃, h₄, ?_⟩
    simp only [encode_cons, e₁, e₂, e₃, e₄]
    rfl

section Stands

variable {high : Option Nat} {bs bytes rest : List UInt8}

theorem stands_of_hex (h : stringBody .strict (.hex high 0 (some 0)) bs = .ok (bytes, rest))
    (ih : ∀ high tail bytes, tail.length < bs.length →
      stringBody .strict (.text high) tail = .ok (bytes, rest) → Stands high tail bytes rest) :
    Stands high ('\\'.toUInt8 :: 'u'.toUInt8 :: bs) bytes rest := by
  obtain ⟨d₁, d₂, d₃, d₄, v₁, v₂, v₃, v₄, tail, h₁, h₂, h₃, h₄, rfl⟩ := exists_digits_of_stringBody h
  have hbytes : '\\'.toUInt8 :: 'u'.toUInt8 :: (encode [d₁, d₂, d₃, d₄] ++ tail) =
      encode ['\\', 'u', d₁, d₂, d₃, d₄] ++ tail := rfl
  have htext : stringBody .strict (.text high) (encode ['\\', 'u', d₁, d₂, d₃, d₄] ++ tail) =
      .ok (bytes, rest) := by
    rw [← hbytes, stringBody, if_pos rfl, stringBody, if_pos rfl]
    exact h
  rw [stringBody_unit h₁ h₂ h₃ h₄, if_neg (by simp)] at htext
  split at htext
  · cases htext
  · next stood high' hunit =>
    obtain ⟨⟨bytes, rest⟩, htail, hpair⟩ := map_eq_ok_iff.1 htext
    cases hpair
    rw [hbytes]
    refine .unit h₁ h₂ h₃ h₄ hunit (ih high' tail bytes ?_ htail)
    rw [List.length_append]
    have hdigits : encode [d₁, d₂, d₃, d₄] ≠ [] := by
      simp [encode_cons, encodeChar_ne_nil]
    have hpos := List.length_pos_iff.2 hdigits
    omega

theorem stands_of_escape (h : stringBody .strict (.escape high) bs = .ok (bytes, rest))
    (ih : ∀ high tail bytes, tail.length < bs.length →
      stringBody .strict (.text high) tail = .ok (bytes, rest) → Stands high tail bytes rest) :
    Stands high ('\\'.toUInt8 :: bs) bytes rest := by
  cases bs with
  | nil => cases h
  | cons b tail =>
    rw [stringBody] at h
    split_ifs at h with hu hhigh
    · subst hu
      exact stands_of_hex h fun high more bytes hlt => ih high more bytes (Nat.lt_succ_of_lt hlt)
    · cases Option.not_isSome_iff_eq_none.1 hhigh
      split at h
      · next byte hletter =>
        obtain ⟨l, c, hl, rfl, hc⟩ := exists_letter_of_unescaped? hletter
        obtain ⟨⟨bytes, rest⟩, htail, hpair⟩ := map_eq_ok_iff.1 h
        cases hpair
        have hbytes : encode ['\\', l] = ['\\'.toUInt8, l.toUInt8] := by
          rw [encode_cons, encode_cons, (unescaped?_of_mem_letters hl).1]
          rfl
        have hstands := Stands.letter hl (ih none tail bytes (Nat.lt_succ_self _) htail)
        rwa [hbytes, hc] at hstands
      · cases h

/-- What a strict reading takes stands for what it answers. -/
theorem stands_of_stringBody (h : stringBody .strict (.text high) bs = .ok (bytes, rest)) :
    Stands high bs bytes rest := by
  -- By induction on the length of the literal: an escape takes several bytes at once.
  induction hlength : bs.length using Nat.strongRecOn generalizing high bs bytes with
  | ind n ih =>
    subst hlength
    cases bs with
    | nil => cases h
    | cons b tail =>
      rw [stringBody] at h
      split_ifs at h with hslash hhigh hquote hcontrol
      · subst hslash
        exact stands_of_escape h fun high more bytes hlt hmore =>
          ih more.length (Nat.lt_succ_of_lt hlt) hmore rfl
      · cases Option.not_isSome_iff_eq_none.1 hhigh
        obtain ⟨rfl, rfl⟩ := Prod.mk.inj (Except.ok.inj h)
        rw [hquote]
        exact .close
      · cases Option.not_isSome_iff_eq_none.1 hhigh
        obtain ⟨⟨bytes, rest⟩, htail, hpair⟩ := map_eq_ok_iff.1 h
        cases hpair
        exact .plain ⟨Nat.le_of_not_lt hcontrol, hquote, hslash⟩
          (ih tail.length (Nat.lt_succ_self _) htail rfl)

end Stands

/-! ## Characters -/

/-- What a code unit adds: the first half of a pair, or a character. -/
theorem codeUnit_eq_ok {high high' : Option Nat} {n : Nat} {stood : List UInt8}
    (h : codeUnit high n = .ok (stood, high')) :
    (high = none ∧ stood = [] ∧ high' = some n) ∨ ∃ c, stood = encodeChar c ∧ high' = none := by
  unfold codeUnit at h
  cases high with
  | some h' =>
    dsimp only at h
    split_ifs at h with hlow
    obtain ⟨rfl, rfl⟩ := Prod.mk.inj (Except.ok.inj h)
    exact .inr ⟨_, rfl, rfl⟩
  | none =>
    dsimp only at h
    split_ifs at h with hlow hhigh
    · obtain ⟨rfl, rfl⟩ := Prod.mk.inj (Except.ok.inj h)
      exact .inl ⟨rfl, rfl, rfl⟩
    · obtain ⟨rfl, rfl⟩ := Prod.mk.inj (Except.ok.inj h)
      exact .inr ⟨_, rfl, rfl⟩

/-- Some bytes are the rest of a character. -/
def AllContinue (bs : List UInt8) : Prop := ∀ b ∈ bs, (continuation? b).isSome = true

theorem allContinue_nil : AllContinue [] := nofun

/-- A text that begins with the bytes of a character begins with the character, and not inside of
another one. -/
theorem eq_cons_of_encodeChar_append {c : Char} {bytes begun : List UInt8} {vs : List Char}
    (hbegun : AllContinue begun) (h : encodeChar c ++ bytes = begun ++ encode vs) :
    begun = [] ∧ ∃ more, vs = c :: more ∧ bytes = encode more := by
  cases begun with
  | cons k begun =>
    cases hc : encodeChar c with
    | nil => exact absurd hc (encodeChar_ne_nil c)
    | cons a tail =>
      rw [hc] at h
      obtain ⟨rfl, -⟩ := List.cons.inj h
      have hk := hbegun a List.mem_cons_self
      rw [(Text.Utf8.continuation?_of_encodeChar_eq_cons hc).1] at hk
      cases hk
  | nil =>
    rw [List.nil_append] at h
    have hdecode := congrArg Text.Utf8.decode h
    rw [Text.Utf8.decode_encodeChar_append, Text.Utf8.decode_encode] at hdecode
    cases vs with
    | nil => cases hdecode
    | cons v more =>
      obtain ⟨hchar, -⟩ := List.cons.inj hdecode
      cases hchar
      rw [encode_cons] at h
      exact ⟨rfl, more, rfl, List.append_cancel_left h⟩

theorem spelled_of_isPlain {v : Char} {b : UInt8} {tail : List UInt8} (hb : IsPlain b)
    (hv : encodeChar v = b :: tail) : Piece.Spelled (.char v) [v] := by
  obtain ⟨hcontrol, hquote, hslash⟩ := hb
  refine .plain ?_ ?_ ?_
  · by_contra hlow
    rw [encodeChar_of_ascii (by omega)] at hv
    obtain ⟨rfl, -⟩ := List.cons.inj hv
    rw [toNat_toUInt8 (by omega)] at hcontrol
    exact hlow hcontrol
  · rintro rfl
    exact hquote (List.cons.inj hv).1.symm
  · rintro rfl
    exact hslash (List.cons.inj hv).1.symm

/-- The bytes are spelled as the grammar says, up to the closing quote, behind the rest of a character
that has begun. -/
def SpelledBehind (begun bs rest : List UInt8) : Prop :=
  ∃ ps cs, Piece.AllSpelled ps cs ∧ bs = begun ++ (encode cs ++ '"'.toUInt8 :: rest)

namespace SpelledBehind

variable {begun bs rest : List UInt8}

theorem cons {p : Piece} {cs : List Char} (hp : p.Spelled cs) (h : SpelledBehind [] bs rest) :
    SpelledBehind [] (encode cs ++ bs) rest := by
  obtain ⟨ps, more, hps, rfl⟩ := h
  refine ⟨p :: ps, cs ++ more, .cons hp hps, ?_⟩
  rw [encode_append]
  simp

/-- A byte that goes on with a character. -/
theorem continued (b : UInt8) (h : SpelledBehind begun bs rest) :
    SpelledBehind (b :: begun) (b :: bs) rest := by
  obtain ⟨ps, cs, hps, rfl⟩ := h
  exact ⟨ps, cs, hps, rfl⟩

/-- A byte that begins a character. -/
theorem begins {v : Char} {b : UInt8} (hb : IsPlain b) (hv : encodeChar v = b :: begun)
    (h : SpelledBehind begun bs rest) : SpelledBehind [] (b :: bs) rest := by
  obtain ⟨ps, cs, hps, rfl⟩ := h
  refine ⟨_, _, .cons (spelled_of_isPlain hb hv) hps, ?_⟩
  rw [List.cons_append, encode_cons, hv]
  simp

end SpelledBehind

/-- Where the bytes that a literal stands for are text, behind the rest of a character that has begun,
the literal is text too, behind the same bytes. -/
theorem Stands.spelled {high : Option Nat} {bs bytes rest : List UInt8}
    (h : Stands high bs bytes rest) {begun : List UInt8} {vs : List Char}
    (hbegun : AllContinue begun) (hbytes : bytes = begun ++ encode vs) :
    (high.isSome = true → begun = []) ∧ SpelledBehind begun bs rest := by
  -- By induction on the literal. Only a plain byte can go on with a character; an escape stands for a
  -- whole one, whose first byte cannot.
  induction h generalizing begun vs with
  | close =>
    obtain ⟨rfl, -⟩ := List.append_eq_nil_iff.1 hbytes.symm
    exact ⟨fun _ => rfl, [], [], .nil, rfl⟩
  | @plain b bs bytes rest hb _ ih =>
    refine ⟨nofun, ?_⟩
    cases begun with
    | cons k begun =>
      obtain ⟨rfl, hmore⟩ := List.cons.inj hbytes
      exact (ih (fun b hb => hbegun b (List.mem_cons_of_mem _ hb)) hmore).2.continued b
    | nil =>
      cases vs with
      | nil => cases hbytes
      | cons v more =>
        rw [List.nil_append, encode_cons] at hbytes
        cases hv : encodeChar v with
        | nil => exact absurd hv (encodeChar_ne_nil v)
        | cons a tail =>
          rw [hv] at hbytes
          obtain ⟨rfl, hmore⟩ := List.cons.inj hbytes
          have htail : AllContinue tail := (Text.Utf8.continuation?_of_encodeChar_eq_cons hv).2
          exact (ih htail hmore).2.begins hb hv
  | letter hl _ ih =>
    obtain ⟨rfl, more, -, hbytes⟩ := eq_cons_of_encodeChar_append hbegun hbytes
    exact ⟨fun _ => rfl, (ih allContinue_nil hbytes).2.cons (.letter hl)⟩
  | unit h₁ h₂ h₃ h₄ hunit _ ih =>
    rcases codeUnit_eq_ok hunit with ⟨rfl, rfl, rfl⟩ | ⟨c, rfl, rfl⟩
    · obtain ⟨hpair, hspelled⟩ := ih hbegun hbytes
      cases hpair rfl
      exact ⟨nofun, hspelled.cons (.unit h₁ h₂ h₃ h₄)⟩
    · obtain ⟨rfl, more, -, hbytes⟩ := eq_cons_of_encodeChar_append hbegun hbytes
      exact ⟨fun _ => rfl, (ih allContinue_nil hbytes).2.cons (.unit h₁ h₂ h₃ h₄)⟩

/-- A literal whose value is read is one of the grammar's. -/
theorem exists_quoted {bs skipped rest left : List UInt8} {s : String}
    (hvalue : stringValue bs left = .ok s)
    (hskip : stringBody .loose (.text none) bs = .ok (skipped, rest)) :
    ∃ cs, Quoted (some s) ('"' :: cs ++ ['"']) ∧ bs = encode cs ++ '"'.toUInt8 :: rest := by
  obtain ⟨⟨bytes, rest'⟩, hbody, htext⟩ := bind_eq_ok_iff.1 hvalue
  dsimp only at htext
  split at htext
  · next vs hvs =>
    obtain ⟨-, ps, cs, hps, rfl⟩ := (stands_of_stringBody hbody).spelled allContinue_nil
      (Text.Utf8.eq_encode_of_text? hvs)
    rw [List.nil_append] at hvalue hskip ⊢
    obtain ⟨skipped', hskip'⟩ := stringBody_loose hps rest'
    rw [hskip'] at hskip
    cases hskip
    have hpieces := toOption_stringValue hps rest left
    rw [hvalue] at hpieces
    have hs : some s = Piece.text? ps := hpieces
    rw [hs]
    exact ⟨cs, .intro hps, rfl⟩
  · cases htext

end RemoteRollout.Json
