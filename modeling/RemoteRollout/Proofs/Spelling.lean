import Mathlib.Data.List.Induction
import RemoteRollout.Proofs.Precedence
import RemoteRollout.Proofs.Reading

/-!
# The text of a version

A version has one text, and reading accepts no other: `parse_eq_ok_iff` says that the texts that are
read as a version are just those that well-formed versions are written as. Each part of the reader
has two lemmas for this, one on what it takes from the front of a text, and one on what it makes of
a part that was written there.
-/

namespace RemoteRollout

open Text (joined pieces)

namespace Version

/-! ## Numbers -/

/-- Digits without a leading zero. -/
structure IsNumeral (ds : List Char) : Prop where
  nonempty : ds ≠ []
  digits : ∀ d ∈ ds, d.isDigit = true
  canonical : ∀ d rest, ds ≠ '0' :: d :: rest

theorem isNumeral_toDigits (n : Nat) : IsNumeral (Nat.toDigits 10 n) :=
  ⟨Nat.toDigits_ne_nil, isDigit_of_mem_toDigits, toDigits_ne_zero_cons n⟩

theorem digitsValue_toDigits (n : Nat) : digitsValue (Nat.toDigits 10 n) = n := by
  have hfold : digitsValue (Nat.toDigits 10 n) = Nat.ofDigitChars 10 (Nat.toDigits 10 n) 0 := by
    rw [digitsValue, Nat.ofDigitChars_eq_foldl]
    simp only [Nat.mul_comm]
  rw [hfold, Nat.ofDigitChars_ten_toDigits]

theorem digitsValue_append_singleton (ds : List Char) (d : Char) :
    digitsValue (ds ++ [d]) = 10 * digitsValue ds + (d.toNat - '0'.toNat) := by
  rw [digitsValue, List.foldl_append, Nat.mul_comm]
  rfl

/-- The digit of its value is the digit itself. -/
theorem digitChar_sub_zero {d : Char} (h : d.isDigit = true) :
    d.toNat - '0'.toNat < 10 ∧ Nat.digitChar (d.toNat - '0'.toNat) = d := by
  have hd : 48 ≤ d.toNat ∧ d.toNat ≤ 57 := Char.isDigit_iff_toNat.1 h
  have hzero : '0'.toNat = 48 := rfl
  have hlt : d.toNat - '0'.toNat < 10 := by omega
  refine ⟨hlt, Char.toNat_inj.1 ?_⟩
  rw [Nat.toNat_digitChar_of_lt_ten hlt]
  omega

/-- A numeral is what its value is written as. -/
theorem toDigits_digitsValue {ds : List Char} (h : IsNumeral ds) :
    Nat.toDigits 10 (digitsValue ds) = ds := by
  induction ds using List.reverseRecOn with
  | nil => exact absurd rfl h.nonempty
  | append_singleton front d ih =>
    obtain ⟨hlt, hchar⟩ := digitChar_sub_zero (h.digits d (by simp))
    rw [digitsValue_append_singleton]
    cases front with
    | nil =>
      have hvalue : 10 * digitsValue [] + (d.toNat - '0'.toNat) = d.toNat - '0'.toNat :=
        Nat.zero_add _
      rw [hvalue, Nat.toDigits_of_lt_base hlt, hchar]
      rfl
    | cons c cs =>
      have hfront : IsNumeral (c :: cs) := by
        refine ⟨List.cons_ne_nil c cs, fun x hx => h.digits x (List.mem_append_left _ hx), ?_⟩
        intro x rest heq
        exact h.canonical x (rest ++ [d]) (by rw [heq]; rfl)
      -- The value of the front is not zero, or the front would be a leading zero.
      have hpos : 0 < digitsValue (c :: cs) := by
        refine Nat.pos_of_ne_zero fun hzero => ?_
        have hdigits := ih hfront
        rw [hzero] at hdigits
        exact h.canonical d [] (by rw [← hdigits]; rfl)
      rw [← Nat.toDigits_append_toDigits (by decide) hpos hlt, ih hfront,
        Nat.toDigits_of_lt_base hlt, hchar]

variable {part : Part} {cs rest : List Char} {n : Nat}

theorem eq_append_of_number (h : number part cs = .ok (n, rest)) :
    cs = Nat.toDigits 10 n ++ rest ∧ n ≤ maxNumber := by
  unfold number at h
  dsimp only at h
  have hcs : cs = cs.takeWhile Char.isDigit ++ cs.dropWhile Char.isDigit :=
    List.takeWhile_append_dropWhile.symm
  have hdigits : ∀ d ∈ cs.takeWhile Char.isDigit, d.isDigit = true :=
    fun d hd => List.mem_takeWhile_imp hd
  generalize cs.takeWhile Char.isDigit = ds at h hcs hdigits
  generalize cs.dropWhile Char.isDigit = left at h hcs
  split at h
  · cases left with
    | nil => cases h
    | cons c left => cases h
  · cases h
  · next hnonempty hcanonical =>
    split at h
    · next hle =>
      cases h
      have hnumeral : IsNumeral ds :=
        ⟨hnonempty, hdigits, fun d tail heq => hcanonical d tail heq⟩
      exact ⟨by rw [toDigits_digitsValue hnumeral]; exact hcs, hle⟩
    · cases h

theorem number_append (hn : n ≤ maxNumber) (hrest : ∀ c ∈ rest.head?, c.isDigit = false) :
    number part (Nat.toDigits 10 n ++ rest) = .ok (n, rest) := by
  have hnumeral := isNumeral_toDigits n
  unfold number
  dsimp only
  rw [takeWhile_append_of_ends hnumeral.digits hrest,
    dropWhile_append_of_ends hnumeral.digits hrest]
  split
  · next heq => exact absurd heq hnumeral.nonempty
  · next d tail heq => exact absurd heq (hnumeral.canonical d tail)
  · rw [digitsValue_toDigits, if_pos hn]

theorem eq_cons_of_dot (h : dot part cs = .ok rest) : cs = '.' :: rest := by
  unfold dot at h
  split at h
  · cases h
    rfl
  · cases h
  · cases h

/-! ## Identifiers -/

/-- The text may stand between the dots of a pre-release or of build metadata. -/
structure IsIdentifier (segment : List Char) : Prop where
  nonempty : segment ≠ []
  chars : ∀ c ∈ segment, isIdentifierChar c = true

/-- Valid build metadata: identifiers with dots between them. -/
def IsMetadata (text : List Char) : Prop := ∀ segment ∈ pieces '.' text, IsIdentifier segment

instance (segment : List Char) : Decidable (IsIdentifier segment) :=
  decidable_of_iff (segment ≠ [] ∧ segment.all isIdentifierChar = true)
    ⟨fun h => ⟨h.1, List.all_eq_true.1 h.2⟩, fun h => ⟨h.nonempty, List.all_eq_true.2 h.chars⟩⟩

instance (text : List Char) : Decidable (IsMetadata text) :=
  inferInstanceAs (Decidable (∀ segment ∈ pieces '.' text, IsIdentifier segment))

theorem IsMetadata.ne_nil {text : List Char} (h : IsMetadata text) : text ≠ [] := by
  rintro rfl
  exact (h [] (List.mem_singleton_self _)).nonempty rfl

theorem not_isIdentifierChar_dot : isIdentifierChar '.' = false := by decide

theorem not_isIdentifierChar_plus : isIdentifierChar '+' = false := by decide

theorem IsIdentifier.dot_notMem {segment : List Char} (h : IsIdentifier segment) :
    '.' ∉ segment := by
  intro hmem
  cases not_isIdentifierChar_dot.symm.trans (h.chars '.' hmem)

/-- What ends a list of identifiers. -/
def EndsIdentifiers (rest : List Char) : Prop :=
  ∀ c ∈ rest.head?, (isIdentifierChar c || c == '.') = false

theorem segments_sound {ids : List (List Char)} (h : segments part cs = .ok (ids, rest)) :
    cs = joined '.' ids ++ rest ∧ ids ≠ [] ∧
      ∀ id ∈ ids, IsIdentifier id ∧ segmentFault? part id = none := by
  unfold segments at h
  dsimp only at h
  have hcs : cs = cs.takeWhile (fun c => isIdentifierChar c || c == '.') ++
      cs.dropWhile (fun c => isIdentifierChar c || c == '.') :=
    List.takeWhile_append_dropWhile.symm
  have hrun : ∀ c ∈ cs.takeWhile (fun c => isIdentifierChar c || c == '.'),
      (isIdentifierChar c || c == '.') = true :=
    fun c hc => List.mem_takeWhile_imp (p := fun c => isIdentifierChar c || c == '.') hc
  generalize cs.takeWhile (fun c => isIdentifierChar c || c == '.') = run at h hcs hrun
  generalize cs.dropWhile (fun c => isIdentifierChar c || c == '.') = left at h hcs
  split at h
  · cases h
  · next hsound =>
    cases h
    rw [List.findSome?_eq_none_iff] at hsound
    refine ⟨by rw [Text.joined_pieces]; exact hcs, Text.pieces_ne_nil '.' run, ?_⟩
    intro id hid
    refine ⟨⟨?_, ?_⟩, hsound id hid⟩
    · rintro rfl
      cases hsound [] hid
    · intro c hc
      have hmem : c ∈ run := by
        rw [← Text.joined_pieces '.' run]
        exact Text.mem_joined_of_mem hid hc
      have hdot : c ≠ '.' := by
        rintro rfl
        exact Text.not_mem_of_mem_pieces hid hc
      simpa [hdot] using hrun c hmem

theorem segments_complete {ids : List (List Char)} (hne : ids ≠ [])
    (hids : ∀ id ∈ ids, IsIdentifier id ∧ segmentFault? part id = none)
    (hrest : EndsIdentifiers rest) :
    segments part (joined '.' ids ++ rest) = .ok (ids, rest) := by
  have hrun : ∀ c ∈ joined '.' ids, (isIdentifierChar c || c == '.') = true := by
    intro c hc
    rcases Text.mem_of_mem_joined hc with rfl | ⟨id, hid, hmem⟩
    · rfl
    · rw [(hids id hid).1.chars c hmem, Bool.true_or]
  unfold segments
  dsimp only
  rw [takeWhile_append_of_ends hrun hrest, dropWhile_append_of_ends hrun hrest,
    Text.pieces_joined hne fun id hid => (hids id hid).1.dot_notMem,
    List.findSome?_eq_none_iff.2 fun id hid => (hids id hid).2]

/-! ## Pre-releases -/

/-- The identifier is one that a text can stand for: a word has a character that is no digit. -/
inductive WellFormedIdentifier : Identifier → Prop where
  | number (value : Nat) : WellFormedIdentifier (.number value)
  | word {text : List Char} (h : IsIdentifier text) (hword : text.all Char.isDigit = false) :
      WellFormedIdentifier (.word text)

/-- The pre-release as it is written after the numbers. -/
def preSuffix (pre : List Identifier) : List Char :=
  if pre.isEmpty then [] else '-' :: joined '.' (pre.map Identifier.text)

/-- The build metadata as it is written at the end. -/
def buildSuffix (build : List Char) : List Char := if build.isEmpty then [] else '+' :: build

theorem buildSuffix_of_isMetadata {build : List Char} (h : IsMetadata build) :
    buildSuffix build = '+' :: build := by
  rw [buildSuffix, if_neg (by simpa using h.ne_nil)]

theorem head_buildSuffix {build : List Char} : ∀ c ∈ (buildSuffix build).head?, c = '+' := by
  intro c hc
  cases build with
  | nil => cases hc
  | cons b bs =>
    cases hc
    rfl

theorem identifier_sound {segment : List Char} (h : IsIdentifier segment)
    (hfault : segmentFault? .pre segment = none) :
    WellFormedIdentifier (identifier segment) ∧ (identifier segment).text = segment := by
  unfold identifier
  split
  · next hdigits =>
    refine ⟨.number _, toDigits_digitsValue ⟨h.nonempty, List.all_eq_true.1 hdigits, ?_⟩⟩
    rintro d rest rfl
    rw [segmentFault?, if_pos ⟨rfl, hdigits⟩] at hfault
    cases hfault
  · next hdigits => exact ⟨.word h (Bool.eq_false_iff.2 hdigits), rfl⟩

theorem isIdentifier_toDigits (n : Nat) : IsIdentifier (Nat.toDigits 10 n) := by
  refine ⟨Nat.toDigits_ne_nil, fun c hc => ?_⟩
  simp [isIdentifierChar, Char.isAlphanum, isDigit_of_mem_toDigits c hc]

theorem identifier_complete {id : Identifier} (h : WellFormedIdentifier id) :
    IsIdentifier id.text ∧ segmentFault? .pre id.text = none ∧ identifier id.text = id := by
  cases h with
  | number n =>
    have hdigits : (Nat.toDigits 10 n).all Char.isDigit = true :=
      List.all_eq_true.2 isDigit_of_mem_toDigits
    refine ⟨isIdentifier_toDigits n, ?_, ?_⟩
    · show segmentFault? .pre (Nat.toDigits 10 n) = none
      unfold segmentFault?
      split
      · next heq => exact absurd heq Nat.toDigits_ne_nil
      · next d rest heq => exact absurd heq (toDigits_ne_zero_cons n d rest)
      · rfl
    · show identifier (Nat.toDigits 10 n) = .number n
      rw [identifier, if_pos hdigits, digitsValue_toDigits]
  | @word text h hword =>
    refine ⟨h, ?_, ?_⟩
    · show segmentFault? .pre text = none
      unfold segmentFault?
      split
      · exact absurd rfl h.nonempty
      · rw [if_neg (by simp [hword])]
      · rfl
    · show identifier text = .word text
      rw [identifier, if_neg (by simp [hword])]

theorem preRelease_sound {pre : List Identifier} (h : preRelease cs = .ok (pre, rest)) :
    cs = preSuffix pre ++ rest ∧ ∀ id ∈ pre, WellFormedIdentifier id := by
  unfold preRelease at h
  split at h
  · next tail =>
    cases hids : segments .pre tail with
    | error fault => rw [hids] at h; cases h
    | ok read =>
      obtain ⟨ids, left⟩ := read
      rw [hids] at h
      cases h
      obtain ⟨htail, hne, hsound⟩ := segments_sound hids
      have htexts : (ids.map identifier).map Identifier.text = ids := by
        rw [List.map_map, List.map_congr_left (g := id), List.map_id]
        exact fun id hid => (identifier_sound (hsound id hid).1 (hsound id hid).2).2
      constructor
      · rw [preSuffix, htexts, if_neg (by simpa using hne), List.cons_append, htail]
      · intro id hid
        obtain ⟨segment, hsegment, rfl⟩ := List.mem_map.1 hid
        exact (identifier_sound (hsound segment hsegment).1 (hsound segment hsegment).2).1
  · cases h
    exact ⟨rfl, fun _ h => nomatch h⟩

theorem preRelease_complete {pre : List Identifier} (h : ∀ id ∈ pre, WellFormedIdentifier id)
    (hrest : ∀ c ∈ rest.head?, c = '+') :
    preRelease (preSuffix pre ++ rest) = .ok (pre, rest) := by
  cases pre with
  | nil =>
    show preRelease rest = _
    unfold preRelease
    split
    · cases hrest '-' rfl
    · rfl
  | cons first others =>
    have hids : ∀ text ∈ (first :: others).map Identifier.text,
        IsIdentifier text ∧ segmentFault? .pre text = none := by
      intro text htext
      obtain ⟨id, hid, rfl⟩ := List.mem_map.1 htext
      have hcomplete := identifier_complete (h id hid)
      exact ⟨hcomplete.1, hcomplete.2.1⟩
    have hends : EndsIdentifiers rest := by
      intro c hc
      cases hrest c hc
      decide
    have hread : ((first :: others).map Identifier.text).map identifier = first :: others := by
      rw [List.map_map, List.map_congr_left (g := id), List.map_id]
      exact fun id hid => (identifier_complete (h id hid)).2.2
    show preRelease ('-' :: (joined '.' ((first :: others).map Identifier.text) ++ rest)) = _
    rw [preRelease, segments_complete (by simp) hids hends]
    show Except.ok (((first :: others).map Identifier.text).map identifier, rest) = _
    rw [hread]

/-! ## Build metadata -/

theorem buildMetadata_sound {build : List Char} (h : buildMetadata cs = .ok (build, rest)) :
    cs = buildSuffix build ++ rest ∧ (build = [] ∨ IsMetadata build) := by
  unfold buildMetadata at h
  split at h
  · next tail =>
    cases hids : segments .build tail with
    | error fault => rw [hids] at h; cases h
    | ok read =>
      obtain ⟨ids, left⟩ := read
      rw [hids] at h
      cases h
      obtain ⟨htail, hne, hsound⟩ := segments_sound hids
      have hmetadata : IsMetadata (joined '.' ids) := by
        intro segment hsegment
        rw [Text.pieces_joined hne fun id hid => (hsound id hid).1.dot_notMem] at hsegment
        exact (hsound segment hsegment).1
      refine ⟨?_, .inr hmetadata⟩
      rw [buildSuffix_of_isMetadata hmetadata, List.cons_append, htail]
  · cases h
    exact ⟨rfl, .inl rfl⟩

theorem buildMetadata_complete {build : List Char} (h : build = [] ∨ IsMetadata build) :
    buildMetadata (buildSuffix build) = .ok (build, []) := by
  rcases h with rfl | h
  · rfl
  · have hfaultless : ∀ id ∈ pieces '.' build,
        IsIdentifier id ∧ segmentFault? .build id = none := by
      intro id hid
      refine ⟨h id hid, ?_⟩
      unfold segmentFault?
      split
      · exact absurd rfl (h [] hid).nonempty
      · rfl
      · rfl
    have hread : segments .build (joined '.' (pieces '.' build) ++ []) =
        .ok (pieces '.' build, []) :=
      segments_complete (Text.pieces_ne_nil '.' build) hfaultless (fun c hc => nomatch hc)
    rw [Text.joined_pieces, List.append_nil] at hread
    rw [buildSuffix_of_isMetadata h, buildMetadata, hread]
    show Except.ok (joined '.' (pieces '.' build), []) = _
    rw [Text.joined_pieces]

/-! ## Versions -/

/-- The version is one that a text can spell. -/
structure WellFormed (v : Version) : Prop where
  major : v.major ≤ maxNumber
  minor : v.minor ≤ maxNumber
  patch : v.patch ≤ maxNumber
  pre : ∀ id ∈ v.pre, WellFormedIdentifier id
  build : v.build = [] ∨ IsMetadata v.build

/-- The version as it is written, without its build metadata. -/
def coreChars (v : Version) : List Char :=
  Nat.toDigits 10 v.major ++ '.' :: (Nat.toDigits 10 v.minor ++ '.' ::
    (Nat.toDigits 10 v.patch ++ preSuffix v.pre))

theorem toList_text (v : Version) : v.text.toList = v.coreChars ++ buildSuffix v.build := by
  unfold text coreChars preSuffix buildSuffix preText
  simp [String.toList_append]

theorem ofChars_sound {v : Version} (h : ofChars cs = .ok v) :
    v.WellFormed ∧ cs = v.coreChars ++ buildSuffix v.build := by
  unfold ofChars at h
  split at h
  · cases h
  obtain ⟨⟨major, cs₁⟩, hmajor, h⟩ := bind_eq_ok_iff.1 h
  obtain ⟨cs₂, hdot₁, h⟩ := bind_eq_ok_iff.1 h
  obtain ⟨⟨minor, cs₃⟩, hminor, h⟩ := bind_eq_ok_iff.1 h
  obtain ⟨cs₄, hdot₂, h⟩ := bind_eq_ok_iff.1 h
  obtain ⟨⟨patch, cs₅⟩, hpatch, h⟩ := bind_eq_ok_iff.1 h
  obtain ⟨⟨pre, cs₆⟩, hpre, h⟩ := bind_eq_ok_iff.1 h
  obtain ⟨⟨build, cs₇⟩, hbuild, h⟩ := bind_eq_ok_iff.1 h
  dsimp only at h
  split at h
  · cases h
    obtain ⟨rfl, hmajorMax⟩ := eq_append_of_number hmajor
    obtain rfl := eq_cons_of_dot hdot₁
    obtain ⟨rfl, hminorMax⟩ := eq_append_of_number hminor
    obtain rfl := eq_cons_of_dot hdot₂
    obtain ⟨rfl, hpatchMax⟩ := eq_append_of_number hpatch
    obtain ⟨rfl, hidentifiers⟩ := preRelease_sound hpre
    obtain ⟨rfl, hmetadata⟩ := buildMetadata_sound hbuild
    exact ⟨⟨hmajorMax, hminorMax, hpatchMax, hidentifiers, hmetadata⟩, by simp [coreChars]⟩
  · cases h

theorem ofChars_complete {v : Version} (h : v.WellFormed) :
    ofChars (v.coreChars ++ buildSuffix v.build) = .ok v := by
  have hpoint : ∀ rest : List Char, ∀ c ∈ ('.' :: rest).head?, c.isDigit = false := by
    rintro rest c ⟨⟩
    rfl
  have hsuffixes : ∀ c ∈ (preSuffix v.pre ++ buildSuffix v.build).head?, c.isDigit = false := by
    intro c hc
    rcases hpre : v.pre with _ | ⟨id, ids⟩
    · rw [hpre] at hc
      cases head_buildSuffix c hc
      rfl
    · rw [hpre] at hc
      cases hc
      rfl
  have htext : v.coreChars ++ buildSuffix v.build =
      Nat.toDigits 10 v.major ++ '.' :: (Nat.toDigits 10 v.minor ++ '.' ::
        (Nat.toDigits 10 v.patch ++ (preSuffix v.pre ++ buildSuffix v.build))) := by
    simp [coreChars]
  rw [htext]
  unfold ofChars
  split
  · next hempty => simp at hempty
  · refine bind_eq_ok_iff.2 ⟨_, number_append h.major (hpoint _), ?_⟩
    refine bind_eq_ok_iff.2 ⟨_, rfl, ?_⟩
    refine bind_eq_ok_iff.2 ⟨_, number_append h.minor (hpoint _), ?_⟩
    refine bind_eq_ok_iff.2 ⟨_, rfl, ?_⟩
    refine bind_eq_ok_iff.2 ⟨_, number_append h.patch hsuffixes, ?_⟩
    refine bind_eq_ok_iff.2 ⟨_, preRelease_complete h.pre head_buildSuffix, ?_⟩
    exact bind_eq_ok_iff.2 ⟨_, buildMetadata_complete h.build, rfl⟩

/-- A text is read as a version exactly if it is the one that the version is written as. -/
theorem parse_eq_ok_iff {s : String} {v : Version} :
    parse s = .ok v ↔ v.WellFormed ∧ v.text = s := by
  constructor
  · intro h
    obtain ⟨hv, htext⟩ := ofChars_sound h
    exact ⟨hv, String.toList_injective (v.toList_text.trans htext.symm)⟩
  · rintro ⟨hv, rfl⟩
    rw [parse, toList_text]
    exact ofChars_complete hv

theorem text_of_parse {s : String} {v : Version} (h : parse s = .ok v) : v.text = s :=
  (parse_eq_ok_iff.1 h).2

/-! ## Texts that differ in build metadata -/

/-- The text is this core, alone or with valid build metadata. -/
inductive HasCore (core : List Char) : List Char → Prop where
  | bare : HasCore core core
  | tagged {build : List Char} (h : IsMetadata build) : HasCore core (core ++ '+' :: build)

/-- The texts are the same but for valid build metadata, which either may have. -/
def SameButBuild (s t : String) : Prop :=
  ∃ core : List Char, '+' ∉ core ∧ HasCore core s.toList ∧ HasCore core t.toList

/-- The part of a text before the first plus sign. -/
def untilPlus (cs : List Char) : List Char := cs.takeWhile (· != '+')

theorem untilPlus_append {core tail : List Char} (hcore : '+' ∉ core)
    (htail : ∀ c ∈ tail.head?, c = '+') : untilPlus (core ++ tail) = core := by
  refine takeWhile_append_of_ends ?_ ?_
  · intro c hc
    have hne : c ≠ '+' := fun heq => hcore (heq ▸ hc)
    simpa using hne
  · intro c hc
    simpa using htail c hc

theorem HasCore.untilPlus_eq {core cs : List Char} (h : HasCore core cs) (hcore : '+' ∉ core) :
    untilPlus cs = core := by
  cases h with
  | bare =>
    have hall : untilPlus (core ++ []) = core := untilPlus_append hcore (fun c hc => nomatch hc)
    rwa [List.append_nil] at hall
  | tagged hbuild => exact untilPlus_append hcore (by simp)

theorem IsIdentifier.plus_notMem {segment : List Char} (h : IsIdentifier segment) :
    '+' ∉ segment := by
  intro hmem
  cases not_isIdentifierChar_plus.symm.trans (h.chars '+' hmem)

/-- The first plus sign in the text of a version is that of its build metadata. -/
theorem WellFormed.plus_notMem {v : Version} (h : v.WellFormed) : '+' ∉ v.coreChars := by
  have hnumber : ∀ n, '+' ∉ Nat.toDigits 10 n := fun n => (isIdentifier_toDigits n).plus_notMem
  have hsuffix : '+' ∉ preSuffix v.pre := by
    intro hmem
    unfold preSuffix at hmem
    split at hmem
    · cases hmem
    · rcases List.mem_cons.1 hmem with heq | hmem
      · cases heq
      · rcases Text.mem_of_mem_joined hmem with heq | ⟨text, htext, hplus⟩
        · cases heq
        · obtain ⟨id, hid, rfl⟩ := List.mem_map.1 htext
          exact (identifier_complete (h.pre id hid)).1.plus_notMem hplus
  simp [coreChars, hnumber, hsuffix]

/-- Build metadata neither makes a text a version nor keeps it from being one, and what it adds to
the version is all that it changes. -/
theorem exists_level_of_sameButBuild {s t : String} {v : Version} (h : SameButBuild s t)
    (hs : parse s = .ok v) : ∃ w, parse t = .ok w ∧ v.Level w := by
  obtain ⟨core, hplus, hcore, hcore'⟩ := h
  obtain ⟨hv, rfl⟩ := parse_eq_ok_iff.1 hs
  have heq : v.coreChars = core := by
    rw [← hcore.untilPlus_eq hplus, toList_text,
      untilPlus_append hv.plus_notMem head_buildSuffix]
  subst heq
  generalize htext : t.toList = cs at hcore'
  cases hcore' with
  | bare =>
    refine ⟨{ v with build := [] }, parse_eq_ok_iff.2 ⟨{ hv with build := .inl rfl }, ?_⟩, rfl, rfl,
      rfl, rfl⟩
    refine String.toList_injective ?_
    rw [toList_text, htext]
    exact List.append_nil _
  | @tagged build hbuild =>
    refine ⟨{ v with build }, parse_eq_ok_iff.2 ⟨{ hv with build := .inr hbuild }, ?_⟩, rfl, rfl,
      rfl, rfl⟩
    refine String.toList_injective ?_
    rw [toList_text, htext, buildSuffix_of_isMetadata hbuild]
    rfl

theorem SameButBuild.symm {s t : String} (h : SameButBuild s t) : SameButBuild t s := by
  obtain ⟨core, hplus, hs, ht⟩ := h
  exact ⟨core, hplus, ht, hs⟩

end Version

end RemoteRollout
