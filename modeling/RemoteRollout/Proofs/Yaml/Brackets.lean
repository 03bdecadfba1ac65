import RemoteRollout.Proofs.Yaml.HandingOut
import RemoteRollout.Proofs.Yaml.Scalars

/-!
# Inside of brackets

One token after the other inside of brackets, where indentation does not count: what is scanned, and
where the scanner stands then. White space before a token is passed over, so that a place is known up to
white space (`Scanner.At`). A string with a colon behind it is a key.
-/

namespace RemoteRollout.Yaml

open Json (stringText)

namespace Scanner

/-! ## Possible keys -/

/-- The possible keys inside of so many brackets, none of which has to be one, and none of which begins
behind this line. -/
structure OptionalKeys (depth line : Nat) (keys : List (Option PossibleKey)) : Prop where
  length_eq : keys.length = depth + 1
  optional : ∀ k, some k ∈ keys → k.required = false ∧ k.mark.line ≤ line

namespace OptionalKeys

variable {depth line : Nat} {keys : List (Option PossibleKey)}

theorem mono (h : OptionalKeys depth line keys) {line' : Nat} (hline : line ≤ line') :
    OptionalKeys depth line' keys :=
  ⟨h.length_eq, fun k hk => ⟨(h.optional k hk).1, Nat.le_trans (h.optional k hk).2 hline⟩⟩

/-- The innermost possible key is given up or replaced. -/
theorem replaced (h : OptionalKeys depth line keys) {key : Option PossibleKey}
    (hkey : ∀ k, key = some k → k.required = false ∧ k.mark.line ≤ line) :
    OptionalKeys depth line (key :: keys.tail) := by
  refine ⟨?_, fun k hk => ?_⟩
  · rw [List.length_cons, List.length_tail, h.length_eq]
    rfl
  · rcases List.mem_cons.1 hk with hk | hk
    · exact hkey k hk.symm
    · exact h.optional k (List.mem_of_mem_tail hk)

theorem opened (h : OptionalKeys depth line keys) : OptionalKeys (depth + 1) line (none :: keys) :=
  ⟨congrArg (· + 1) h.length_eq, fun k hk => h.optional k ((List.mem_cons.1 hk).resolve_left (by simp))⟩

theorem closed (h : OptionalKeys (depth + 1) line keys) : OptionalKeys depth line keys.tail := by
  refine ⟨?_, fun k hk => h.optional k (List.mem_of_mem_tail hk)⟩
  rw [List.length_tail, h.length_eq]
  rfl

/-- Outside of brackets there is one possible key at most. -/
theorem tail_eq_nil (h : OptionalKeys 0 line keys) : keys.tail = [] := by
  refine List.eq_nil_of_length_eq_zero ?_
  rw [List.length_tail, h.length_eq]

/-- No key that has to come can be stale. -/
theorem freshKeys (h : OptionalKeys depth line keys) {m : Mark} (hline : line ≤ m.line) :
    ∃ fresh, freshKeys m keys = some fresh ∧ OptionalKeys depth m.line fresh := by
  have hfresh : ∀ keys : List (Option PossibleKey), (∀ k, some k ∈ keys → k.required = false) →
      ∃ fresh, Scanner.freshKeys m keys = some fresh := by
    intro keys hkeys
    induction keys with
    | nil => exact ⟨[], rfl⟩
    | cons key keys ih =>
      obtain ⟨fresh, hfresh⟩ := ih fun k hk => hkeys k (List.mem_cons_of_mem _ hk)
      cases key with
      | none => exact ⟨none :: fresh, by simp [Scanner.freshKeys, hfresh]⟩
      | some k =>
        have hrequired := hkeys k List.mem_cons_self
        by_cases hstale : PossibleKey.isStale k m = true
        · exact ⟨none :: fresh, by simp [Scanner.freshKeys, hstale, hrequired, hfresh]⟩
        · exact ⟨some k :: fresh, by simp [Scanner.freshKeys, hstale, hfresh]⟩
  obtain ⟨fresh, heq⟩ := hfresh keys fun k hk => (h.optional k hk).1
  refine ⟨fresh, heq, (length_freshKeys heq).trans h.length_eq, fun k hk => ?_⟩
  exact (h.mono hline).optional k (mem_keys_of_freshKeys heq hk)

theorem withoutKey {s : Scanner} (h : OptionalKeys depth line s.keys) :
    s.withoutKey = some { s with keys := none :: s.keys.tail } := by
  obtain ⟨spots, whole, queue, taken, blocks, keyAllowed, keys⟩ := s
  cases keys with
  | nil => exact absurd h.length_eq (by simp)
  | cons key keys =>
    cases key with
    | none => rfl
    | some k =>
      have hrequired := (h.optional k List.mem_cons_self).1
      simp [Scanner.withoutKey, hrequired]

end OptionalKeys

/-! ## Places -/

/-- The scanner stands before this text, inside of so many brackets. -/
structure Stands (depth : Nat) (cs : List Char) (s : Scanner) : Prop where
  spots_eq : s.spots = spotsFrom s.mark cs
  whole : s.whole = true
  blocks_eq : s.blocks = []
  keys : OptionalKeys depth s.mark.line s.keys

/-- The scanner stands before this text, up to white space. -/
def At (depth : Nat) (cs : List Char) (s : Scanner) : Prop :=
  ∃ ws, White ws ∧ Stands depth (ws ++ cs.dropWhile isWhite) s

theorem Stands.at {depth : Nat} {cs : List Char} {s : Scanner} (h : Stands depth cs s) :
    At depth cs s := by
  refine ⟨cs.takeWhile isWhite, fun c hc => List.all_eq_true.1 List.all_takeWhile c hc, ?_⟩
  rwa [List.takeWhile_append_dropWhile]

theorem at_white_append_iff {depth : Nat} {ws cs : List Char} {s : Scanner} (hws : White ws) :
    At depth (ws ++ cs) s ↔ At depth cs s := by
  rw [At, At, List.dropWhile_append_of_pos hws]

/-- Tokens of these kinds are scanned from one place to another. -/
structure Scans (kinds : List TokenKind) (s t : Scanner) : Prop where
  fetches : Fetches s t
  kinds_eq : t.queue.map Token.kind = s.queue.map Token.kind ++ kinds

theorem Scans.trans {kinds kinds' : List TokenKind} {s t u : Scanner} (h : Scans kinds s t)
    (h' : Scans kinds' t u) : Scans (kinds ++ kinds') s u :=
  ⟨h.fetches.trans h'.fetches, by rw [h'.kinds_eq, h.kinds_eq, List.append_assoc]⟩

/-! ## Between tokens -/

/-- A token can begin with the character. -/
def isTokenStart (c : Char) : Bool := !isGap c && c != '#' && c != byteOrderMark

theorem isTokenStart_of_isAlpha {c : Char} (h : c.isAlpha = true) : isTokenStart c = true := by
  simp [isTokenStart, isGap, isSpace, isBreakOrEnd, isBreak, isEnd, endChar, byteOrderMark,
    ne_of_isAlpha h]

theorem isWhite_of_isTokenStart {c : Char} (h : isTokenStart c = true) : isWhite c = false := by
  simp only [isTokenStart, isGap, isBreakOrEnd, isBreak, isSpace, Bool.and_eq_true,
    Bool.not_eq_true', Bool.or_eq_false_iff] at h
  simp [isWhite, h]

/-- At the start of a token there is nothing to be passed over. -/
theorem skipToToken_start {c : Char} (hc : isTokenStart c = true) (flow keyAllowed : Bool) (m : Mark)
    (rest : List Char) :
    skipToToken flow keyAllowed false (spotsFrom m (c :: rest)) =
      (keyAllowed, spotsFrom m (c :: rest)) := by
  simp only [isTokenStart, isGap, isBreakOrEnd, isSpace, Bool.and_eq_true, Bool.not_eq_true',
    Bool.or_eq_false_iff, bne_iff_ne, beq_eq_false_iff_ne] at hc
  simp [skipToToken, hc]

/-- Inside of brackets white space before a token is passed over. -/
theorem skipToToken_white {ws : List Char} (hws : White ws) {c : Char} (hc : isTokenStart c = true)
    (keyAllowed : Bool) (m : Mark) (rest : List Char) :
    skipToToken true keyAllowed false (spotsFrom m (ws ++ c :: rest)) =
      (keyAllowed, spotsFrom (m.past ws) (c :: rest)) := by
  induction ws generalizing m with
  | nil => exact skipToToken_start hc true keyAllowed m rest
  | cons d ws ih =>
    obtain ⟨hd, hrest⟩ := white_cons_iff.1 hws
    rw [List.cons_append, spotsFrom_cons, Mark.past_cons, skipToToken]
    rcases isWhite_iff.1 hd with rfl | rfl
    · simpa [isBreak, isEnd, endChar] using ih hrest _
    · simpa [isBreak] using ih hrest _

/-- The second scanner is the first one at its next token, where this text begins. -/
structure Reaches (depth : Nat) (cs : List Char) (s t : Scanner) : Prop where
  stands : Stands depth cs t
  keys_eq : freshKeys t.mark s.keys = some t.keys
  keyAllowed : s.keyAllowed = true → t.keyAllowed = true
  queue_eq : t.queue = s.queue
  taken_eq : t.taken = s.taken
  length_le : t.spots.length ≤ s.spots.length
  placed : s.Placed
  fetch_eq : ∀ u, t.scanToken = some u → u.whole = true → s.fetch = some u

section Reaches

variable {depth : Nat} {c : Char} {cs rest ws : List Char} {s t u : Scanner}

/-- The next token is reached where white space and comments end. -/
theorem Stands.reaches_of_skip (h : Stands depth cs s) {allowed : Bool} {n : Mark}
    (hskip : skipToToken s.inFlow s.keyAllowed false s.spots = (allowed, spotsFrom n rest))
    (hallowed : s.keyAllowed = true → allowed = true) (hupTo : s.mark.UpTo n)
    (hlength : rest.length ≤ cs.length) : ∃ t, Reaches depth rest s t ∧ t.mark = n := by
  obtain ⟨fresh, hfresh, hfreshKeys⟩ := h.keys.freshKeys hupTo.line_le
  let t : Scanner := { s with keyAllowed := allowed, spots := spotsFrom n rest, keys := fresh }
  have hmark : t.mark = n := markOf_spotsFrom n rest
  have hclose : t.closeBlocks = t := by
    simp [closeBlocks, endBlocks, endedBlocks, t, h.blocks_eq]
  have hfetch : s.fetch = t.closeBlocks.scanToken.bind fun u =>
      if u.whole || decide (lookahead < u.spots.length) then some u else none := by
    simp [fetch, hskip, withFreshKeys, mark, hfresh, t]
  refine ⟨t, {
    stands := ⟨by rw [hmark], h.whole, h.blocks_eq, hmark ▸ hfreshKeys⟩
    keys_eq := hmark ▸ hfresh
    keyAllowed := hallowed
    queue_eq := rfl
    taken_eq := rfl
    length_le := by
      rw [h.spots_eq, length_spotsFrom, length_spotsFrom]
      exact Nat.succ_le_succ hlength
    placed := ⟨⟨s.mark, cs, h.spots_eq⟩, fun k hk => (h.keys.optional k hk).2⟩
    fetch_eq := fun u hu hwhole => by simp [hfetch, hclose, hu, hwhole] }, hmark⟩

/-- Inside of brackets the next token is reached behind the white space before it. -/
theorem Stands.reaches (h : Stands (depth + 1) (ws ++ c :: rest) s) (hws : White ws)
    (hc : isTokenStart c = true) :
    ∃ t, Reaches (depth + 1) (c :: rest) s t ∧ t.mark = s.mark.past ws := by
  have hflow : s.inFlow = true := by simp [inFlow, h.keys.length_eq]
  refine h.reaches_of_skip ?_ id (Mark.upTo_past s.mark ws) (by simp)
  rw [hflow, h.spots_eq]
  simpa [mark] using skipToToken_white hws hc s.keyAllowed s.mark rest

theorem At.reaches (h : At (depth + 1) (c :: rest) s) (hc : isTokenStart c = true) :
    ∃ t, Reaches (depth + 1) (c :: rest) s t := by
  obtain ⟨ws, hws, hstands⟩ := h
  rw [List.dropWhile_cons_of_neg (by simp [isWhite_of_isTokenStart hc])] at hstands
  obtain ⟨t, ht, -⟩ := hstands.reaches hws hc
  exact ⟨t, ht⟩

theorem Stands.inFlow (h : Stands (depth + 1) cs t) : t.inFlow = true := by
  simp [Scanner.inFlow, h.keys.length_eq]

theorem Reaches.fetches (h : Reaches depth cs s t) (hscan : t.scanToken = some u)
    (hwhole : u.whole = true) (hspots : u.spots.length < t.spots.length)
    (hqueue : u.queue.length ≤ t.queue.length + 2) : Fetches s u :=
  .step h.placed (h.fetch_eq u hscan hwhole) (Nat.lt_of_lt_of_le hspots h.length_le)
    (h.queue_eq ▸ hqueue) (.refl u)

/-- One more token has been scanned. -/
theorem Reaches.scans {token : Token} (h : Reaches depth cs s t) (hscan : t.scanToken = some u)
    (hwhole : u.whole = true) (hspots : u.spots.length < t.spots.length)
    (hqueue : u.queue = t.queue ++ [token]) : Scans [token.kind] s u := by
  refine ⟨h.fetches hscan hwhole hspots (by simp [hqueue]), ?_⟩
  rw [hqueue, h.queue_eq, List.map_append]
  rfl

/-- A key may begin at a token. -/
theorem Stands.withKeyHere (h : Stands depth cs t) :
    ∃ keys, t.withKeyHere = some { t with keys } ∧ OptionalKeys depth t.mark.line keys ∧
      (t.keyAllowed = true → keys = some ⟨false, t.taken + t.queue.length, t.mark⟩ :: t.keys.tail) := by
  unfold Scanner.withKeyHere
  by_cases hallowed : t.keyAllowed = true
  · rw [if_pos hallowed, h.keys.withoutKey, h.blocks_eq]
    refine ⟨some ⟨false, t.taken + t.queue.length, t.mark⟩ :: t.keys.tail, ?_, h.keys.replaced ?_,
      fun _ => rfl⟩
    · simp
    · rintro k ⟨⟩
      exact ⟨rfl, Nat.le_refl _⟩
  · rw [if_neg hallowed]
    exact ⟨t.keys, rfl, h.keys, fun ht => absurd ht hallowed⟩

/-- Behind a token the scanner stands before the text that is left. -/
theorem Stands.after (h : Stands depth cs t) {depth' : Nat} {taken : List Char}
    (hspots : u.spots = spotsFrom (t.mark.past taken) rest) (hwhole : u.whole = t.whole)
    (hblocks : u.blocks = t.blocks) (hkeys : OptionalKeys depth' t.mark.line u.keys) :
    Stands depth' rest u := by
  have hmark : u.mark = t.mark.past taken := by rw [mark, hspots, markOf_spotsFrom]
  refine ⟨by rw [hmark, hspots], hwhole.trans h.whole, hblocks.trans h.blocks_eq, ?_⟩
  rw [hmark]
  exact hkeys.mono (Mark.upTo_past t.mark taken).line_le

end Reaches

/-! ## Punctuation -/

section Punctuation

variable {depth : Nat} {c : Char} {rest : List Char} {s t : Scanner} {m : Mark} {kind : TokenKind}

theorem scanToken_opening (hspots : t.spots = spotsFrom m (c :: rest))
    (hc : c = '[' ∧ kind = .flowSequenceStart ∨ c = '{' ∧ kind = .flowMappingStart) :
    t.scanToken = t.scanFlowStart kind := by
  obtain ⟨rfl, rfl⟩ | ⟨rfl, rfl⟩ := hc
  · simp [scanToken, hspots, isEnd, endChar, isTriple]
  · simp [scanToken, hspots, isEnd, endChar, isTriple]

theorem scanToken_closing (hspots : t.spots = spotsFrom m (c :: rest))
    (hc : c = ']' ∧ kind = .flowSequenceEnd ∨ c = '}' ∧ kind = .flowMappingEnd) :
    t.scanToken = t.scanFlowEnd kind := by
  obtain ⟨rfl, rfl⟩ | ⟨rfl, rfl⟩ := hc
  · simp [scanToken, hspots, isEnd, endChar, isTriple]
  · simp [scanToken, hspots, isEnd, endChar, isTriple]

theorem scanToken_comma (hspots : t.spots = spotsFrom m (',' :: rest)) :
    t.scanToken = t.scanFlowEntry := by
  simp [scanToken, hspots, isEnd, endChar, isTriple]

theorem scanToken_colon (hspots : t.spots = spotsFrom m (':' :: rest)) (hflow : t.inFlow = true) :
    t.scanToken = t.scanValue := by
  simp [scanToken, hspots, hflow, isEnd, endChar, isTriple]

theorem scanToken_quote (hspots : t.spots = spotsFrom m ('"' :: rest)) :
    t.scanToken = t.scanQuoted .double .doubleQuoted := by
  simp [scanToken, hspots, isEnd, endChar, isTriple]

theorem scanToken_letter (hspots : t.spots = spotsFrom m (c :: rest)) (hc : c.isAlpha = true) :
    t.scanToken = t.scanPlain := by
  simp [scanToken, hspots, isEnd, endChar, isTriple, ne_of_isAlpha hc, beginsPlain, isGap, isSpace,
    isBreakOrEnd, isBreak, isIndicator]

/-- A token of one character, which leaves these possible keys. -/
theorem Reaches.punctuation {keys : List (Option PossibleKey)} {allowed : Bool} {depth' : Nat}
    (h : Reaches depth (c :: rest) s t) (hkeys : OptionalKeys depth' t.mark.line keys)
    (hscan : t.scanToken = some ({ t with keyAllowed := allowed, keys }.pushChars kind 1)) :
    ∃ u, Scans [kind] s u ∧ Stands depth' rest u ∧ u.keyAllowed = allowed := by
  have hrest : t.spots.drop 1 = spotsFrom (t.mark.past [c]) rest := by
    rw [h.stands.spots_eq]
    rfl
  refine ⟨_, h.scans hscan h.stands.whole ?_ rfl, h.stands.after hrest rfl rfl hkeys, rfl⟩
  simp [pushChars, push, h.stands.spots_eq]

/-- An opening bracket; a key may come next. -/
theorem Reaches.opening (h : Reaches depth (c :: rest) s t)
    (hc : c = '[' ∧ kind = .flowSequenceStart ∨ c = '{' ∧ kind = .flowMappingStart) :
    ∃ u, Scans [kind] s u ∧ At (depth + 1) rest u ∧ u.keyAllowed = true := by
  obtain ⟨keys, hkeyHere, hkeys, -⟩ := h.stands.withKeyHere
  have hscan : t.scanToken = some ({ t with keyAllowed := true, keys := none :: keys }.pushChars kind 1) := by
    rw [scanToken_opening h.stands.spots_eq hc]
    simp [scanFlowStart, hkeyHere]
  obtain ⟨u, hu, hstands, hallowed⟩ := h.punctuation hkeys.opened hscan
  exact ⟨u, hu, hstands.at, hallowed⟩

theorem At.opening (h : At (depth + 1) (c :: rest) s)
    (hc : c = '[' ∧ kind = .flowSequenceStart ∨ c = '{' ∧ kind = .flowMappingStart) :
    ∃ u, Scans [kind] s u ∧ At (depth + 2) rest u ∧ u.keyAllowed = true := by
  have hstart : isTokenStart c = true := by
    obtain ⟨rfl, -⟩ | ⟨rfl, -⟩ := hc
    all_goals decide
  obtain ⟨t, ht⟩ := h.reaches hstart
  exact ht.opening hc

/-- A closing bracket. -/
theorem At.closing (h : At (depth + 1) (c :: rest) s)
    (hc : c = ']' ∧ kind = .flowSequenceEnd ∨ c = '}' ∧ kind = .flowMappingEnd) :
    ∃ u, Scans [kind] s u ∧ Stands depth rest u := by
  have hstart : isTokenStart c = true := by
    obtain ⟨rfl, -⟩ | ⟨rfl, -⟩ := hc
    all_goals decide
  obtain ⟨t, ht⟩ := h.reaches hstart
  have hkeys := ht.stands.keys
  have hscan : t.scanToken = some ({ t with keyAllowed := false, keys := t.keys.tail }.pushChars kind 1) := by
    rw [scanToken_closing ht.stands.spots_eq hc]
    simp [scanFlowEnd, hkeys.withoutKey, Scanner.inFlow, hkeys.length_eq]
  obtain ⟨u, hu, hstands, -⟩ := ht.punctuation hkeys.closed hscan
  exact ⟨u, hu, hstands⟩

/-- A comma; a key may come next. -/
theorem At.comma (h : At (depth + 1) (',' :: rest) s) :
    ∃ u, Scans [.flowEntry] s u ∧ At (depth + 1) rest u ∧ u.keyAllowed = true := by
  obtain ⟨t, ht⟩ := h.reaches (by decide)
  have hkeys : OptionalKeys (depth + 1) t.mark.line (none :: t.keys.tail) :=
    ht.stands.keys.replaced fun k hk => nomatch hk
  have hscan : t.scanToken =
      some ({ t with keyAllowed := true, keys := none :: t.keys.tail }.pushChars .flowEntry 1) := by
    rw [scanToken_comma ht.stands.spots_eq]
    simp [scanFlowEntry, ht.stands.keys.withoutKey]
  obtain ⟨u, hu, hstands, hallowed⟩ := ht.punctuation hkeys hscan
  exact ⟨u, hu, hstands.at, hallowed⟩

end Punctuation

/-! ## Scalars -/

section Scalars

variable {depth : Nat} {cs rest w : List Char} {s t : Scanner} {x : String}

/-- What is scanned of a string between double quotes, which may be a key. -/
structure ScansString (depth : Nat) (x : String) (rest : List Char) (m : Mark) (s u : Scanner) :
    Prop where
  fetches : Fetches s u
  stands : Stands depth rest u
  mark_eq : u.mark = m.past (stringText x)
  queue_eq : ∃ token : Token, token.kind = .scalar .doubleQuoted x ∧ u.queue = s.queue ++ [token]
  taken_eq : u.taken = s.taken
  key_eq : s.keyAllowed = true → ∃ keys, u.keys = some ⟨false, s.taken + s.queue.length, m⟩ :: keys

theorem Reaches.scansString (h : Reaches depth (stringText x ++ rest) s t)
    (hx : ∀ c ∈ x.toList, isLegible c = true) : ∃ u, ScansString depth x rest t.mark s u := by
  obtain ⟨keys, hkeyHere, hkeys, hkey⟩ := h.stands.withKeyHere
  have hquoted := quotedText_stringText hx rest (m := t.mark)
  rw [← h.stands.spots_eq, List.drop_one] at hquoted
  have hspots : t.spots =
      spotsFrom t.mark ('"' :: (x.toList.flatMap Json.escapedChar ++ ['"'] ++ rest)) := h.stands.spots_eq
  have hscan : t.scanToken = some ({ t with keyAllowed := false, keys }.push (.scalar .doubleQuoted x)
      (spotsFrom (t.mark.past (stringText x)) rest)) := by
    rw [scanToken_quote hspots]
    simp [scanQuoted, scanKeyStart, hkeyHere, hquoted, String.ofList_toList]
  have hshorter : (spotsFrom (t.mark.past (stringText x)) rest).length < t.spots.length := by
    simp [hspots]
    omega
  refine ⟨_, {
    fetches := h.fetches hscan h.stands.whole hshorter (by simp [push])
    stands := h.stands.after rfl rfl rfl hkeys
    mark_eq := markOf_spotsFrom _ _
    queue_eq := ⟨⟨.scalar .doubleQuoted x, t.mark, t.mark.past (stringText x)⟩, rfl, ?_⟩
    taken_eq := h.taken_eq
    key_eq := fun hallowed => ⟨t.keys.tail, ?_⟩ }⟩
  · simp [push, h.queue_eq, mark]
  · rw [← h.taken_eq, ← h.queue_eq]
    exact hkey (h.keyAllowed hallowed)

/-- A string. -/
theorem At.string (h : At (depth + 1) (stringText x ++ rest) s)
    (hx : ∀ c ∈ x.toList, isLegible c = true) :
    ∃ u, Scans [.scalar .doubleQuoted x] s u ∧ At (depth + 1) rest u := by
  obtain ⟨t, ht⟩ := h.reaches (by decide)
  obtain ⟨u, hu⟩ := ht.scansString hx
  obtain ⟨token, hkind, hqueue⟩ := hu.queue_eq
  refine ⟨u, ⟨hu.fetches, ?_⟩, hu.stands.at⟩
  rw [hqueue, List.map_append, List.map_singleton, hkind]

/-- A colon behind a possible key; the key token comes before the tokens of the key. -/
theorem Reaches.scansValue {before behind : List Token} {k : PossibleKey}
    {keys : List (Option PossibleKey)} (h : Reaches (depth + 1) (':' :: rest) s t)
    (hkeys : t.keys = some k :: keys) (hqueue : s.queue = before ++ behind)
    (hnumber : k.number = s.taken + before.length) :
    ∃ u, Fetches s u ∧ At (depth + 1) rest u ∧ u.queue.map Token.kind =
      before.map Token.kind ++ .key :: behind.map Token.kind ++ [.value] := by
  have hinsert : t.queue.insertIdx (k.number - t.taken) ⟨.key, k.mark, k.mark⟩ =
      before ++ ⟨.key, k.mark, k.mark⟩ :: behind := by
    rw [h.queue_eq, hqueue, h.taken_eq, hnumber, Nat.add_sub_cancel_left,
      insertIdx_append _ _ _ (Nat.le_refl _), Nat.sub_self]
    rfl
  have hkept : OptionalKeys (depth + 1) t.mark.line (none :: keys) := by
    have hreplaced : OptionalKeys (depth + 1) t.mark.line (none :: t.keys.tail) :=
      h.stands.keys.replaced fun k hk => nomatch hk
    rwa [hkeys, List.tail_cons] at hreplaced
  have hflow : 0 < keys.length := by
    have hlength := hkept.length_eq
    rw [List.length_cons] at hlength
    omega
  have hscan : t.scanToken = some (pushChars
      { t with
        keys := none :: keys
        keyAllowed := false
        queue := before ++ ⟨.key, k.mark, k.mark⟩ :: behind } .value 1) := by
    rw [scanToken_colon h.stands.spots_eq h.stands.inFlow, scanValue, hkeys]
    simp [insert, hinsert, openBlock, Scanner.inFlow, hflow]
  have hrest : t.spots.drop 1 = spotsFrom (t.mark.past [':']) rest := by
    rw [h.stands.spots_eq]
    rfl
  refine ⟨_, h.fetches hscan h.stands.whole ?_ ?_, Stands.at (h.stands.after hrest rfl rfl hkept), ?_⟩
  · simp [pushChars, push, h.stands.spots_eq]
  · simp [pushChars, push, h.queue_eq, hqueue]
    omega
  · simp [pushChars, push]

/-- **A string with a colon behind it is a key**, if a key may begin there and the string is not too
long for one. -/
theorem At.key (h : At (depth + 1) (stringText x ++ ':' :: rest) s) (hallowed : s.keyAllowed = true)
    (hx : ∀ c ∈ x.toList, isLegible c = true)
    (hshort : byteCount (stringText x) ≤ maxKeyLength) :
    ∃ v, Scans [.key, .scalar .doubleQuoted x, .value] s v ∧ At (depth + 1) rest v := by
  obtain ⟨t, ht⟩ := h.reaches (by decide)
  obtain ⟨u, hu⟩ := ht.scansString hx
  obtain ⟨token, hkind, hqueue⟩ := hu.queue_eq
  obtain ⟨keys, hkeys⟩ := hu.key_eq hallowed
  have hcolon : Stands (depth + 1) ([] ++ ':' :: rest) u := hu.stands
  obtain ⟨t', ht', hmark⟩ := hcolon.reaches (by simp [White]) (by decide)
  -- The colon stands in the line of the string, so that the string is still a possible key.
  have hline : t'.mark = ⟨t.mark.line, t.mark.column + (stringText x).length,
      t.mark.offset + byteCount (stringText x)⟩ := by
    rw [hmark, hu.mark_eq]
    exact Mark.past_of_not_isBreak fun c hc => isBreak_of_isVisible (isVisible_of_mem_stringText hx hc)
  have hstale : PossibleKey.isStale ⟨false, s.taken + s.queue.length, t.mark⟩ t'.mark = false := by
    simp [PossibleKey.isStale, hline]
    omega
  have hfresh := ht'.keys_eq
  rw [hkeys, Scanner.freshKeys, hstale] at hfresh
  obtain ⟨keys', -, hkeys'⟩ := Option.map_eq_some_iff.1 hfresh
  obtain ⟨v, hfetches, hat, hkinds⟩ := ht'.scansValue hkeys'.symm hqueue (by rw [hu.taken_eq])
  refine ⟨v, ⟨hu.fetches.trans hfetches, ?_⟩, hat⟩
  simp [hkinds, hkind]

/-- A word with white space and punctuation behind it. -/
theorem At.word {ws : List Char} {d : Char} (h : At (depth + 1) (w ++ ws ++ d :: rest) s)
    (hw : ∀ c ∈ w, c.isAlpha = true) (hnil : w ≠ []) (hws : White ws) (hd : isFlowIndicator d = true) :
    ∃ u, Scans [.scalar .plain (String.ofList w)] s u ∧ At (depth + 1) (d :: rest) u := by
  obtain ⟨c, w, rfl⟩ := List.exists_cons_of_ne_nil hnil
  have hc := hw c List.mem_cons_self
  obtain ⟨t, ht⟩ := h.reaches (isTokenStart_of_isAlpha hc)
  obtain ⟨keys, hkeyHere, hkeys, -⟩ := ht.stands.withKeyHere
  obtain ⟨broken, hplain⟩ := plainText_word t.leastColumn (m := t.mark) hw hws hd rest
  rw [show spotsFrom t.mark (c :: w ++ ws ++ d :: rest) = t.spots from ht.stands.spots_eq.symm] at hplain
  have hscan : t.scanToken = some ({ t with keyAllowed := broken, keys }.push
      (.scalar .plain (String.ofList (c :: w))) (spotsFrom (t.mark.past (c :: w ++ ws)) (d :: rest))) := by
    have hflow : Scanner.inFlow { t with keys } = true := by simp [inFlow, hkeys.length_eq]
    have hleast : leastColumn { t with keys } = t.leastColumn := rfl
    rw [scanToken_letter ht.stands.spots_eq hc, scanPlain, hkeyHere]
    simp [hflow, hleast, hplain]
  refine ⟨_, ht.scans hscan ht.stands.whole ?_ rfl, Stands.at (ht.stands.after rfl rfl rfl hkeys)⟩
  simp [push, ht.stands.spots_eq]
  omega

end Scalars

end Scanner

end RemoteRollout.Yaml
