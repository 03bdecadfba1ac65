import RemoteRollout.Json.Printer
import RemoteRollout.Proofs.Yaml.Brackets

/-!
# The tokens of a printed tree

A printed tree is a text of this format too, if it holds no numbers and its keys are not too long. Its
tokens are those that its brackets, strings and truth values ask for, wherever the lines begin
(`kinds_tokens_pretty`).
-/

namespace RemoteRollout.Yaml

open Json (Members Tree boolText lineStart stringText)

/-! ## Trees -/

/-- The string can be read as a key. -/
structure LegibleKey (k : String) : Prop where
  legible : ∀ c ∈ k.toList, isLegible c = true
  short : byteCount (stringText k) ≤ Scanner.maxKeyLength

-- The instance is named because the search may find one that goes through all characters.
instance (k : String) : Decidable (LegibleKey k) :=
  have : Decidable (∀ c ∈ k.toList, isLegible c = true) := List.decidableBAll _ _
  decidable_of_iff ((∀ c ∈ k.toList, isLegible c = true) ∧
      byteCount (stringText k) ≤ Scanner.maxKeyLength)
    ⟨fun h => ⟨h.1, h.2⟩, fun h => ⟨h.1, h.2⟩⟩

/-- The tree can be read where it is printed. -/
inductive Legible : Tree → Prop where
  | bool (b : Bool) : Legible (.bool b)
  | string {s : String} (h : ∀ c ∈ s.toList, isLegible c = true) : Legible (.string s)
  | list {ts : List Tree} (h : ∀ t ∈ ts, Legible t) : Legible (.list ts)
  | object {ms : Members} (hkeys : ∀ m ∈ ms, LegibleKey m.1) (h : ∀ m ∈ ms, Legible m.2) :
      Legible (.object ms)

@[simp]
theorem legible_bool (b : Bool) : Legible (.bool b) := .bool b

@[simp]
theorem legible_string_iff {s : String} :
    Legible (.string s) ↔ ∀ c ∈ s.toList, isLegible c = true :=
  ⟨fun | .string h => h, .string⟩

@[simp]
theorem legible_list_iff {ts : List Tree} : Legible (.list ts) ↔ ∀ t ∈ ts, Legible t :=
  ⟨fun | .list h => h, .list⟩

@[simp]
theorem legible_object_iff {ms : Members} :
    Legible (.object ms) ↔ (∀ m ∈ ms, LegibleKey m.1) ∧ ∀ m ∈ ms, Legible m.2 :=
  ⟨fun | .object hkeys h => ⟨hkeys, h⟩, fun h => .object h.1 h.2⟩

mutual

/-- What the tokens of a printed tree are. -/
def kindsOf : Tree → List TokenKind
  | .null => [.scalar .plain "null"]
  | .bool b => [.scalar .plain (String.ofList (boolText b))]
  | .number n => [.scalar .plain (String.ofList n.text)]
  | .string s => [.scalar .doubleQuoted s]
  | .list [] => [.flowSequenceStart, .flowSequenceEnd]
  | .list (t :: ts) => .flowSequenceStart :: kindsOf t ++ kindsOfItems ts
  | .object [] => [.flowMappingStart, .flowMappingEnd]
  | .object ((k, t) :: ms) =>
    .flowMappingStart :: .key :: .scalar .doubleQuoted k :: .value :: kindsOf t ++ kindsOfMembers ms

/-- What the tokens behind an item of a list are. -/
def kindsOfItems : List Tree → List TokenKind
  | [] => [.flowSequenceEnd]
  | t :: ts => .flowEntry :: kindsOf t ++ kindsOfItems ts

/-- What the tokens behind a member of an object are. -/
def kindsOfMembers : List (String × Tree) → List TokenKind
  | [] => [.flowMappingEnd]
  | (k, t) :: ms =>
    .flowEntry :: .key :: .scalar .doubleQuoted k :: .value :: kindsOf t ++ kindsOfMembers ms

end

/-! ## Characters -/

section Readable

variable {ts : List Tree} {ms : Members}

theorem white_lineStart (level : Nat) : White (lineStart level) := by
  rw [lineStart, white_cons_iff]
  exact ⟨by decide, fun c hc => isWhite_iff.2 (.inl (List.eq_of_mem_replicate hc))⟩

theorem readable_white {ws : List Char} (h : White ws) : Readable ws := by
  intro c hc
  rcases isWhite_iff.1 (h c hc) with rfl | rfl
  · exact .inr (by decide)
  · exact .inl rfl

theorem readable_stringText {s : String} (h : ∀ c ∈ s.toList, isLegible c = true) :
    Readable (stringText s) :=
  fun _ hc => .inr (isVisible_of_mem_stringText h hc)

theorem readable_lineStart (level : Nat) : Readable (lineStart level) :=
  readable_white (white_lineStart level)

/-- Punctuation may stand in a text. -/
theorem readable_of_all {cs : List Char} (h : cs.all isVisible = true) : Readable cs :=
  fun c hc => .inr (List.all_eq_true.1 h c hc)

theorem readable_boolText (b : Bool) : Readable (boolText b) := by
  cases b
  all_goals exact readable_of_all (by decide)

theorem readable_prettyItems (h : ∀ t ∈ ts, ∀ level, Readable (t.prettyAt level)) (level : Nat) :
    Readable (Tree.prettyItems level ts) := by
  induction ts with
  | nil => exact readable_append_iff.2 ⟨readable_lineStart level, readable_of_all (by decide)⟩
  | cons t ts ih =>
    obtain ⟨ht, hts⟩ := List.forall_mem_cons.1 h
    have hcomma : isVisible ',' = true := by decide
    simp [Tree.prettyItems, readable_cons_iff, readable_append_iff, readable_lineStart, ht, ih hts,
      hcomma]

theorem readable_prettyMembers (hkeys : ∀ m ∈ ms, LegibleKey m.1)
    (h : ∀ m ∈ ms, ∀ level, Readable (m.2.prettyAt level)) (level : Nat) :
    Readable (Tree.prettyMembers level ms) := by
  induction ms with
  | nil => exact readable_append_iff.2 ⟨readable_lineStart level, readable_of_all (by decide)⟩
  | cons m ms ih =>
    obtain ⟨hkey, hkeys⟩ := List.forall_mem_cons.1 hkeys
    obtain ⟨hm, hms⟩ := List.forall_mem_cons.1 h
    have hpunctuation : isVisible ',' = true ∧ isVisible ':' = true ∧ isVisible ' ' = true := by decide
    simp [Tree.prettyMembers, readable_cons_iff, readable_append_iff, readable_lineStart,
      readable_stringText hkey.legible, hm, ih hkeys hms, hpunctuation]

theorem Legible.readable_prettyAt {t : Tree} (h : Legible t) (level : Nat) :
    Readable (t.prettyAt level) := by
  have hpunctuation : isVisible '[' = true ∧ isVisible ']' = true ∧ isVisible '{' = true ∧
      isVisible '}' = true ∧ isVisible ':' = true ∧ isVisible ' ' = true := by decide
  induction h generalizing level with
  | bool b => exact readable_boolText b
  | string h => exact readable_stringText h
  | @list ts h ih =>
    cases ts with
    | nil =>
      show Readable ['[', ']']
      exact readable_of_all (by decide)
    | cons t ts =>
      obtain ⟨ht, hts⟩ := List.forall_mem_cons.1 ih
      simp [Tree.prettyAt, readable_cons_iff, readable_append_iff, readable_lineStart, ht,
        readable_prettyItems hts, hpunctuation]
  | @object ms hkeys h ih =>
    cases ms with
    | nil =>
      show Readable ['{', '}']
      exact readable_of_all (by decide)
    | cons m ms =>
      obtain ⟨hkey, hkeys⟩ := List.forall_mem_cons.1 hkeys
      obtain ⟨hm, hms⟩ := List.forall_mem_cons.1 ih
      simp [Tree.prettyAt, readable_cons_iff, readable_append_iff, readable_lineStart,
        readable_stringText hkey.legible, hm, readable_prettyMembers hkeys hms, hpunctuation]

end Readable

/-! ## Tokens -/

/-- Punctuation comes next, behind white space or at once. -/
def Delimited (cs : List Char) : Prop :=
  ∃ ws d rest, White ws ∧ isFlowIndicator d = true ∧ cs = ws ++ d :: rest

theorem delimited_prettyItems (level : Nat) (ts : List Tree) (rest : List Char) :
    Delimited (Tree.prettyItems level ts ++ rest) := by
  cases ts with
  | nil => exact ⟨lineStart level, ']', rest, white_lineStart level, by decide, by simp [Tree.prettyItems]⟩
  | cons t ts => exact ⟨[], ',', _, by simp [White], by decide, rfl⟩

theorem delimited_prettyMembers (level : Nat) (ms : Members) (rest : List Char) :
    Delimited (Tree.prettyMembers level ms ++ rest) := by
  cases ms with
  | nil =>
    exact ⟨lineStart level, '}', rest, white_lineStart level, by decide, by simp [Tree.prettyMembers]⟩
  | cons m ms => exact ⟨[], ',', _, by simp [White], by decide, rfl⟩

namespace Scanner

/-- Inside of brackets the text is scanned as tokens of these kinds, if punctuation follows. -/
def ScannedAs (cs : List Char) (kinds : List TokenKind) : Prop :=
  ∀ depth rest s, Delimited rest → At (depth + 1) (cs ++ rest) s →
    ∃ u, Scans kinds s u ∧ At (depth + 1) rest u

section Trees

variable {depth level : Nat} {rest : List Char} {s : Scanner} {ts : List Tree} {ms : Members}

theorem scans_items (h : ∀ t ∈ ts, ∀ level, ScannedAs (t.prettyAt level) (kindsOf t))
    (hs : At (depth + 1) (Tree.prettyItems level ts ++ rest) s) :
    ∃ u, Scans (kindsOfItems ts) s u ∧ Stands depth rest u := by
  induction ts generalizing s with
  | nil =>
    rw [Tree.prettyItems, List.append_assoc, at_white_append_iff (white_lineStart level)] at hs
    exact hs.closing (.inl ⟨rfl, rfl⟩)
  | cons t ts ih =>
    have htext : Tree.prettyItems level (t :: ts) ++ rest = ',' :: (lineStart (level + 1) ++
        (t.prettyAt (level + 1) ++ (Tree.prettyItems level ts ++ rest))) := by
      simp [Tree.prettyItems]
    rw [htext] at hs
    obtain ⟨ht, hts⟩ := List.forall_mem_cons.1 h
    obtain ⟨u, hcomma, hu, -⟩ := hs.comma
    rw [at_white_append_iff (white_lineStart (level + 1))] at hu
    obtain ⟨v, htokens, hv⟩ := ht _ _ _ _ (delimited_prettyItems level ts rest) hu
    obtain ⟨w, hrest, hw⟩ := ih hts hv
    exact ⟨w, hcomma.trans (htokens.trans hrest), hw⟩

/-- A member in a line of its own, where a key may begin. -/
theorem scans_member {k : String} {t : Tree} (hkey : LegibleKey k)
    (h : ScannedAs (t.prettyAt level) (kindsOf t)) (hrest : Delimited rest)
    (hs : At (depth + 1) (lineStart level ++ stringText k ++ ':' :: ' ' :: t.prettyAt level ++ rest) s)
    (hallowed : s.keyAllowed = true) :
    ∃ u, Scans (.key :: .scalar .doubleQuoted k :: .value :: kindsOf t) s u ∧
      At (depth + 1) rest u := by
  rw [List.append_assoc, List.append_assoc, at_white_append_iff (white_lineStart level)] at hs
  obtain ⟨u, hscans, hu⟩ := At.key hs hallowed hkey.legible hkey.short
  have hspace : White [' '] := by simp [White, isWhite]
  obtain ⟨v, hvalue, hv⟩ := h depth rest u hrest ((at_white_append_iff hspace).1 hu)
  exact ⟨v, hscans.trans hvalue, hv⟩

theorem scans_members (hkeys : ∀ m ∈ ms, LegibleKey m.1)
    (h : ∀ m ∈ ms, ∀ level, ScannedAs (m.2.prettyAt level) (kindsOf m.2))
    (hs : At (depth + 1) (Tree.prettyMembers level ms ++ rest) s) :
    ∃ u, Scans (kindsOfMembers ms) s u ∧ Stands depth rest u := by
  induction ms generalizing s with
  | nil =>
    rw [Tree.prettyMembers, List.append_assoc, at_white_append_iff (white_lineStart level)] at hs
    exact hs.closing (.inr ⟨rfl, rfl⟩)
  | cons m ms ih =>
    obtain ⟨k, t⟩ := m
    have htext : Tree.prettyMembers level ((k, t) :: ms) ++ rest = ',' ::
        (lineStart (level + 1) ++ stringText k ++ ':' :: ' ' :: t.prettyAt (level + 1) ++
          (Tree.prettyMembers level ms ++ rest)) := by
      simp [Tree.prettyMembers]
    rw [htext] at hs
    obtain ⟨hkey, hkeys⟩ := List.forall_mem_cons.1 hkeys
    obtain ⟨hm, hms⟩ := List.forall_mem_cons.1 h
    obtain ⟨u, hcomma, hu, hallowed⟩ := hs.comma
    obtain ⟨v, hmember, hv⟩ :=
      scans_member hkey (hm _) (delimited_prettyMembers level ms rest) hu hallowed
    obtain ⟨w, hrest, hw⟩ := ih hkeys hms hv
    exact ⟨w, hcomma.trans (hmember.trans hrest), hw⟩

/-- An object behind its opening bracket. -/
theorem exists_scans_object (hkeys : ∀ m ∈ ms, LegibleKey m.1)
    (h : ∀ m ∈ ms, ∀ level, ScannedAs (m.2.prettyAt level) (kindsOf m.2)) (level : Nat) :
    ∃ cs kinds, (Tree.object ms).prettyAt level = '{' :: cs ∧
      kindsOf (.object ms) = .flowMappingStart :: kinds ∧
      ∀ depth rest s, At (depth + 1) (cs ++ rest) s → s.keyAllowed = true →
        ∃ u, Scans kinds s u ∧ Stands depth rest u := by
  cases ms with
  | nil => exact ⟨['}'], [.flowMappingEnd], rfl, rfl, fun _ _ _ hs _ => hs.closing (.inr ⟨rfl, rfl⟩)⟩
  | cons m ms =>
    obtain ⟨k, t⟩ := m
    refine ⟨lineStart (level + 1) ++ stringText k ++ ':' :: ' ' :: t.prettyAt (level + 1) ++
      Tree.prettyMembers level ms, _, rfl, rfl, fun depth rest s hs hallowed => ?_⟩
    rw [List.append_assoc] at hs
    obtain ⟨hkey, hkeys⟩ := List.forall_mem_cons.1 hkeys
    obtain ⟨hm, hms⟩ := List.forall_mem_cons.1 h
    obtain ⟨u, hmember, hu⟩ :=
      scans_member hkey (hm _) (delimited_prettyMembers level ms rest) hs hallowed
    obtain ⟨v, hmembers, hv⟩ := scans_members hkeys hms hu
    exact ⟨v, hmember.trans hmembers, hv⟩

theorem scannedAs_bool (b : Bool) : ScannedAs (boolText b) (kindsOf (.bool b)) := by
  rintro depth rest s ⟨ws, d, more, hws, hd, rfl⟩ hs
  rw [← List.append_assoc] at hs
  have hletters : (boolText b).all Char.isAlpha = true ∧ boolText b ≠ [] := by
    cases b
    all_goals decide
  obtain ⟨u, hu, hat⟩ := hs.word (List.all_eq_true.1 hletters.1) hletters.2 hws hd
  exact ⟨u, hu, (at_white_append_iff hws).2 hat⟩

theorem scannedAs_list (h : ∀ t ∈ ts, ∀ level, ScannedAs (t.prettyAt level) (kindsOf t)) (level : Nat) :
    ScannedAs ((Tree.list ts).prettyAt level) (kindsOf (.list ts)) := by
  intro depth rest s _ hs
  cases ts with
  | nil =>
    obtain ⟨u, hopening, hu, -⟩ := At.opening hs (.inl ⟨rfl, rfl⟩)
    obtain ⟨v, hclosing, hv⟩ := hu.closing (.inl ⟨rfl, rfl⟩)
    exact ⟨v, hopening.trans hclosing, hv.at⟩
  | cons t ts =>
    have htext : (Tree.list (t :: ts)).prettyAt level ++ rest = '[' :: (lineStart (level + 1) ++
        (t.prettyAt (level + 1) ++ (Tree.prettyItems level ts ++ rest))) := by
      simp [Tree.prettyAt]
    rw [htext] at hs
    obtain ⟨ht, hts⟩ := List.forall_mem_cons.1 h
    obtain ⟨u, hopening, hu, -⟩ := hs.opening (.inl ⟨rfl, rfl⟩)
    rw [at_white_append_iff (white_lineStart (level + 1))] at hu
    obtain ⟨v, hitem, hv⟩ := ht _ _ _ _ (delimited_prettyItems level ts rest) hu
    obtain ⟨w, hitems, hw⟩ := scans_items hts hv
    exact ⟨w, hopening.trans (hitem.trans hitems), hw.at⟩

theorem scannedAs_object (hkeys : ∀ m ∈ ms, LegibleKey m.1)
    (h : ∀ m ∈ ms, ∀ level, ScannedAs (m.2.prettyAt level) (kindsOf m.2)) (level : Nat) :
    ScannedAs ((Tree.object ms).prettyAt level) (kindsOf (.object ms)) := by
  intro depth rest s _ hs
  obtain ⟨cs, kinds, htext, hkinds, hscans⟩ := exists_scans_object hkeys h level
  rw [htext] at hs
  obtain ⟨u, hopening, hu, hallowed⟩ := At.opening hs (.inr ⟨rfl, rfl⟩)
  obtain ⟨v, hmembers, hv⟩ := hscans _ _ _ hu hallowed
  rw [hkinds]
  exact ⟨v, hopening.trans hmembers, hv.at⟩

theorem scannedAs_prettyAt {t : Tree} (h : Legible t) (level : Nat) :
    ScannedAs (t.prettyAt level) (kindsOf t) := by
  induction h generalizing level with
  | bool b => exact scannedAs_bool b
  | string h => exact fun depth rest s _ hs => hs.string h
  | list h ih => exact scannedAs_list ih level
  | object hkeys h ih => exact scannedAs_object hkeys ih level

end Trees

/-! ## Whole texts -/

/-- A text begins outside of brackets, at its first token. -/
theorem exists_reaches_start {c : Char} (hc : isTokenStart c = true) (rest : List Char) :
    ∃ t, Reaches 0 (c :: rest) { spots := spotsFrom {} (c :: rest) } t := by
  have hstands : Stands 0 (c :: rest) { spots := spotsFrom {} (c :: rest) } :=
    ⟨rfl, rfl, rfl, rfl, by simp⟩
  obtain ⟨t, ht, -⟩ := hstands.reaches_of_skip (skipToToken_start hc false true {} rest) id
    (Mark.UpTo.refl _) (Nat.le_refl _)
  exact ⟨t, ht⟩

/-- At the end of the text all possible keys are given up. -/
theorem scanEnd_eq {t : Scanner} {line : Nat} (hcolumn : t.mark.column = 0) (hblocks : t.blocks = [])
    (hkeys : OptionalKeys 0 line t.keys) :
    t.scanEnd = some (pushChars
      { t with spots := [⟨endChar, t.mark⟩], keyAllowed := false, keys := [none] } .streamEnd 0) := by
  have hclose : closeAllBlocks { t with spots := [⟨endChar, t.mark⟩] } =
      { t with spots := [⟨endChar, t.mark⟩] } := by
    simp [closeAllBlocks, endBlocks, hblocks]
  have hwithout : withoutKey { t with spots := [⟨endChar, t.mark⟩] } =
      some { t with spots := [⟨endChar, t.mark⟩], keys := [none] } := by
    have hnone := OptionalKeys.withoutKey (s := { t with spots := [⟨endChar, t.mark⟩] }) hkeys
    rwa [show t.keys.tail = [] from hkeys.tail_eq_nil] at hnone
  simp [scanEnd, hcolumn, hclose, hwithout]

/-- A line feed outside of brackets, and the end of the text. -/
theorem Stands.scansEnd {s : Scanner} (h : Stands 0 ['\n'] s) :
    ∃ u, Scans [.streamEnd] s u ∧ ∀ k, some k ∉ u.keys := by
  have hflow : s.inFlow = false := by simp [Scanner.inFlow, h.keys.length_eq]
  have hskip : skipToToken s.inFlow s.keyAllowed false s.spots =
      (true, spotsFrom (s.mark.after '\n') []) := by
    rw [hflow, h.spots_eq]
    simp [spotsFrom, skipToToken, isBreak, isEnd, endChar, byteOrderMark]
  obtain ⟨t, ht, hmark⟩ := h.reaches_of_skip hskip (fun _ => rfl) (Mark.upTo_after _ _) (by simp)
  have hcolumn : t.mark.column = 0 := by
    rw [hmark]
    rfl
  have hscan : t.scanToken = t.scanEnd := by
    simp [scanToken, ht.stands.spots_eq, spotsFrom, isEnd]
  rw [scanEnd_eq hcolumn ht.stands.blocks_eq ht.stands.keys] at hscan
  have hshorter : [(⟨endChar, t.mark⟩ : Spot)].length < s.spots.length := by
    rw [h.spots_eq, length_spotsFrom]
    exact Nat.lt_succ_self 1
  refine ⟨_, ⟨.step ht.placed (ht.fetch_eq _ hscan ht.stands.whole) hshorter ?_ (.refl _), ?_⟩, ?_⟩
  · simp [pushChars, push, ht.queue_eq]
  · simp [pushChars, push, ht.queue_eq]
  · simp [pushChars, push]

end Scanner

mutual

/-- Nothing in a tree ends the text. -/
theorem streamEnd_not_mem_kindsOf (t : Tree) : .streamEnd ∉ kindsOf t := by
  match t with
  | .null | .bool _ | .number _ | .string _ | .list [] | .object [] => simp [kindsOf]
  | .list (t :: ts) =>
    simp [kindsOf, streamEnd_not_mem_kindsOf t, streamEnd_not_mem_kindsOfItems ts]
  | .object ((k, t) :: ms) =>
    simp [kindsOf, streamEnd_not_mem_kindsOf t, streamEnd_not_mem_kindsOfMembers ms]

theorem streamEnd_not_mem_kindsOfItems (ts : List Tree) : .streamEnd ∉ kindsOfItems ts := by
  match ts with
  | [] => simp [kindsOfItems]
  | t :: ts => simp [kindsOfItems, streamEnd_not_mem_kindsOf t, streamEnd_not_mem_kindsOfItems ts]

theorem streamEnd_not_mem_kindsOfMembers (ms : Members) : .streamEnd ∉ kindsOfMembers ms := by
  match ms with
  | [] => simp [kindsOfMembers]
  | (k, t) :: ms =>
    simp [kindsOfMembers, streamEnd_not_mem_kindsOf t, streamEnd_not_mem_kindsOfMembers ms]

end

open Scanner in
/-- **The tokens of a printed object** are those that its brackets, strings and truth values ask for. -/
theorem kinds_tokens_pretty {ms : Members} (h : Legible (.object ms)) :
    (tokens ((Tree.object ms).pretty ++ ['\n'])).map Token.kind = kindsOf (.object ms) ++ [.streamEnd] := by
  have hreadable : Readable ((Tree.object ms).pretty ++ ['\n']) :=
    readable_append_iff.2 ⟨h.readable_prettyAt 0, readable_lineStart 0⟩
  obtain ⟨hkeys, hvalues⟩ := legible_object_iff.1 h
  obtain ⟨cs, kinds, htext, hkinds, hscans⟩ :=
    exists_scans_object hkeys (fun m hm => scannedAs_prettyAt (hvalues m hm)) 0
  have hpretty : (Tree.object ms).pretty ++ ['\n'] = '{' :: (cs ++ ['\n']) := by
    rw [Tree.pretty, htext, List.cons_append]
  obtain ⟨r, hr⟩ := exists_reaches_start (c := '{') (by decide) (cs ++ ['\n'])
  obtain ⟨s, hopening, hs, hallowed⟩ := hr.opening (.inr ⟨rfl, rfl⟩)
  obtain ⟨t, hmembers, ht⟩ := hscans _ _ _ hs hallowed
  obtain ⟨v, hend, hkeysEnd⟩ := ht.scansEnd
  obtain ⟨hfetches, hkindsEq⟩ := hopening.trans (hmembers.trans hend)
  have hall : v.queue.map Token.kind = kindsOf (.object ms) ++ [.streamEnd] := by
    rw [hkindsEq, hkinds]
    rfl
  have hfinished : v.Finished := by
    obtain ⟨ts, es, hqueue, hts, hes⟩ := List.map_eq_append_iff.1 hall
    obtain ⟨e, rfl, he⟩ := List.map_eq_singleton_iff.1 hes
    refine ⟨hkeysEnd, ts, e, hqueue, he, fun t ht hkind => ?_⟩
    refine streamEnd_not_mem_kindsOf (.object ms) ?_
    rw [← hts, ← hkind]
    exact List.mem_map_of_mem ht
  rw [← hall, tokens_eq_queue hreadable hfinished]
  rwa [hpretty]

end RemoteRollout.Yaml
