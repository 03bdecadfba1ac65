import RemoteRollout.Proofs.Yaml.Spots
import RemoteRollout.Yaml.TokenStream

/-!
# Handing out tokens

Tokens leave the queue of a scanner while others are still being scanned. That makes no difference to
what is scanned: a token leaves only when nothing can be put before it any more. So the tokens of a text
are those in the queue at the end, if every token stays in the queue (`run_eq_queue`).
-/

namespace RemoteRollout.Yaml.Scanner

/-! ## Tokens put back -/

/-- The scanner with these tokens still in its queue, in front of the others. -/
def putBack (sent : List Token) (s : Scanner) : Scanner :=
  { s with queue := sent ++ s.queue, taken := 0 }

/-- These are the tokens that have been handed out, and no possible key begins with one of them. -/
structure Sent (sent : List Token) (s : Scanner) : Prop where
  taken_eq : s.taken = sent.length
  keys_late : ∀ k, some k ∈ s.keys → sent.length ≤ k.number

theorem Sent.of_keys {sent : List Token} {s t : Scanner} (h : Sent sent s)
    (htaken : t.taken = s.taken) (hkeys : ∀ k, some k ∈ t.keys → some k ∈ s.keys) : Sent sent t :=
  ⟨htaken.trans h.taken_eq, fun k hk => h.keys_late k (hkeys k hk)⟩

/-- Two scans, before which tokens have been handed out or not, either both break off or go on to
scanners that are alike. -/
inductive Alike (sent : List Token) : Option Scanner → Option Scanner → Prop where
  | none : Alike sent none none
  | some {s : Scanner} (h : Sent sent s) : Alike sent (some s) (some (s.putBack sent))

/-- The operation does the same whether tokens have been handed out or are still in the queue. -/
def Forgets (f : Scanner → Option Scanner) : Prop :=
  ∀ sent s, Sent sent s → Alike sent (f s) (f (s.putBack sent))

section Forgets

variable {f g : Scanner → Option Scanner}

/-- An operation that leaves the possible keys and the tokens in the queue as they are. -/
theorem Forgets.of_total {g : Scanner → Scanner}
    (hputBack : ∀ sent s, g (s.putBack sent) = (g s).putBack sent) (htaken : ∀ s, (g s).taken = s.taken)
    (hkeys : ∀ s k, some k ∈ (g s).keys → some k ∈ s.keys) : Forgets fun s => some (g s) := by
  intro sent s h
  show Alike sent _ (some (g (s.putBack sent)))
  rw [hputBack]
  exact .some (h.of_keys (htaken s) (hkeys s))

theorem Forgets.none : Forgets fun _ => none := fun _ _ _ => .none

theorem Alike.bind {sent : List Token} {a b : Option Scanner} (h : Alike sent a b) (hf : Forgets f) :
    Alike sent (a.bind f) (b.bind f) := by
  cases h with
  | none => exact .none
  | some ht => exact hf sent _ ht

theorem Forgets.bind (hf : Forgets f) (hg : Forgets g) : Forgets fun s => (f s).bind g :=
  fun sent s h => (hf sent s h).bind hg

/-- Something is looked up first where tokens do not matter. -/
theorem Forgets.view {β : Type} {v : Scanner → Option β} {g : β → Scanner → Option Scanner}
    (hv : ∀ sent s, v (s.putBack sent) = v s) (hg : ∀ x, Forgets (g x)) :
    Forgets fun s => (v s).bind fun x => g x s := by
  intro sent s h
  show Alike sent ((v s).bind fun x => g x s) ((v (s.putBack sent)).bind fun x => g x (s.putBack sent))
  rw [hv]
  cases v s with
  | none => exact .none
  | some x => exact hg x sent s h

theorem Forgets.ite {p : Scanner → Prop} [DecidablePred p]
    (hp : ∀ sent s, p (s.putBack sent) ↔ p s) (hf : Forgets f) (hg : Forgets g) :
    Forgets fun s => if p s then f s else g s := by
  intro sent s h
  show Alike sent (if p s then f s else g s)
    (if p (s.putBack sent) then f (s.putBack sent) else g (s.putBack sent))
  by_cases hs : p s
  · rw [if_pos hs, if_pos ((hp sent s).2 hs)]
    exact hf sent s h
  · rw [if_neg hs, if_neg (mt (hp sent s).1 hs)]
    exact hg sent s h

end Forgets

/-! ## Keys -/

theorem mem_keys_of_freshKeys {m : Mark} {keys fresh : List (Option PossibleKey)}
    (h : freshKeys m keys = some fresh) {k : PossibleKey} (hk : some k ∈ fresh) : some k ∈ keys := by
  induction keys generalizing fresh with
  | nil =>
    cases h
    cases hk
  | cons key keys ih =>
    have hrest : ∀ {first : Option PossibleKey}, (freshKeys m keys).map (first :: ·) = some fresh →
        some k = first ∨ some k ∈ keys := by
      intro first hfirst
      obtain ⟨rest, hrest, rfl⟩ := Option.map_eq_some_iff.1 hfirst
      exact (List.mem_cons.1 hk).imp_right (ih hrest)
    cases key with
    | none => exact List.mem_cons_of_mem _ ((hrest h).resolve_left (by simp))
    | some key =>
      rw [freshKeys] at h
      split at h
      · split at h
        · cases h
        · exact List.mem_cons_of_mem _ ((hrest h).resolve_left (by simp))
      · exact List.mem_cons.2 (hrest h)

theorem forgets_withFreshKeys : Forgets withFreshKeys := by
  intro sent s h
  show Alike sent ((freshKeys s.mark s.keys).map _) ((freshKeys s.mark s.keys).map _)
  cases hfresh : freshKeys s.mark s.keys with
  | none => exact .none
  | some keys =>
    exact .some (s := { s with keys }) (h.of_keys rfl fun k => mem_keys_of_freshKeys hfresh)

/-- A scanner without a possible key at the innermost level has none that it did not have before. -/
theorem mem_keys_of_none_cons {k : PossibleKey} {key : Option PossibleKey}
    {keys : List (Option PossibleKey)} (h : some k ∈ none :: keys) : some k ∈ key :: keys :=
  List.mem_cons_of_mem _ ((List.mem_cons.1 h).resolve_left (by simp))

theorem forgets_withoutKey : Forgets withoutKey := by
  intro sent s h
  have hputBack : (s.putBack sent).keys = s.keys := rfl
  unfold withoutKey
  rw [hputBack]
  cases hkeys : s.keys with
  | nil => exact .some h
  | cons key keys =>
    cases key with
    | none => exact .some h
    | some key =>
      cases hrequired : key.required with
      | true => simpa [hrequired] using Alike.none
      | false =>
        have hsent : Sent sent { s with keys := none :: keys } := by
          refine h.of_keys rfl fun k hk => ?_
          rw [hkeys]
          exact mem_keys_of_none_cons hk
        simp only [hrequired, Bool.false_eq_true, if_false]
        exact .some hsent

theorem forgets_withKeyHere : Forgets withKeyHere := by
  intro sent s h
  unfold withKeyHere
  by_cases hallowed : s.keyAllowed = true
  · rw [if_pos hallowed, if_pos (show (s.putBack sent).keyAllowed = true from hallowed)]
    -- A key that begins here begins with the next token, which is none of those handed out.
    have hnumber : (s.putBack sent).taken + (s.putBack sent).queue.length = s.taken + s.queue.length := by
      rw [h.taken_eq]
      simp [putBack]
    simp only [hnumber]
    match s.withoutKey, (s.putBack sent).withoutKey, forgets_withoutKey sent s h with
    | _, _, .none => exact .none
    | _, _, .some ht =>
      refine .some ⟨ht.taken_eq, fun k hk => ?_⟩
      rcases List.mem_cons.1 hk with hk | hk
      · cases hk
        rw [h.taken_eq]
        exact Nat.le_add_right _ _
      · exact ht.keys_late k (List.mem_of_mem_tail hk)
  · rw [if_neg hallowed, if_neg (show ¬ (s.putBack sent).keyAllowed = true from hallowed)]
    exact .some h

/-! ## Tokens -/

/-- A token behind the others; what is scanned may depend on the text, and changes no key but those
that are given up. -/
theorem forgets_push {g : Scanner → Scanner} {kind : TokenKind} {rest : Scanner → List Spot}
    (hputBack : ∀ sent s, g (s.putBack sent) = (g s).putBack sent) (htaken : ∀ s, (g s).taken = s.taken)
    (hkeys : ∀ s k, some k ∈ (g s).keys → some k ∈ s.keys)
    (hrest : ∀ sent s, rest (s.putBack sent) = rest s) :
    Forgets fun s => some ((g s).push kind (rest s)) := by
  refine .of_total (fun sent s => ?_) htaken hkeys
  rw [hputBack, hrest]
  simp [putBack, push, mark, List.append_assoc]

theorem forgets_endBlocks (blocks : Scanner → List Nat) (n : Scanner → Nat)
    (hblocks : ∀ sent s, blocks (s.putBack sent) = blocks s) (hn : ∀ sent s, n (s.putBack sent) = n s) :
    Forgets fun s => some (s.endBlocks (blocks s) (n s)) := by
  refine .of_total (fun sent s => ?_) (fun s => ?_) (fun s k => ?_)
  · rw [hblocks, hn]
    unfold endBlocks
    split
    · next hflow => rw [if_pos (show s.inFlow = true from hflow)]
    · next hflow =>
      rw [if_neg (show ¬ s.inFlow = true from hflow)]
      simp [putBack, mark, List.append_assoc]
  · unfold endBlocks
    split <;> rfl
  · unfold endBlocks
    split <;> exact id

theorem forgets_closeBlocks : Forgets fun s => some s.closeBlocks :=
  forgets_endBlocks (fun s => (endedBlocks s.mark.column s.blocks).1)
    (fun s => (endedBlocks s.mark.column s.blocks).2) (fun _ _ => rfl) fun _ _ => rfl

theorem forgets_closeAllBlocks : Forgets fun s => some s.closeAllBlocks :=
  forgets_endBlocks (fun _ => []) (fun s => s.blocks.length) (fun _ _ => rfl) fun _ _ => rfl

theorem insertIdx_append {α : Type} (as bs : List α) (a : α) {n : Nat} (h : as.length ≤ n) :
    (as ++ bs).insertIdx n a = as ++ bs.insertIdx (n - as.length) a := by
  induction as generalizing n with
  | nil => rfl
  | cons b as ih =>
    cases n with
    | zero => exact absurd h (by simp)
    | succ n =>
      rw [List.cons_append, List.insertIdx_succ_cons, ih (Nat.le_of_succ_le_succ h), List.cons_append,
        List.length_cons, Nat.add_sub_add_right]

section Insert

variable {sent : List Token} {s : Scanner} {number : Nat}

/-- What is put before a token that has not been handed out comes behind those that have. -/
theorem Sent.insert_putBack (h : Sent sent s) (hnumber : sent.length ≤ number) (kind : TokenKind)
    (m : Mark) : (s.putBack sent).insert kind number m = (s.insert kind number m).putBack sent := by
  simp [putBack, insert, insertIdx_append _ _ _ hnumber, h.taken_eq]

theorem Sent.openBlock_putBack (h : Sent sent s) (hnumber : sent.length ≤ number) (kind : TokenKind)
    (m : Mark) : (s.putBack sent).openBlock kind number m = (s.openBlock kind number m).putBack sent := by
  have hinsert := h.insert_putBack hnumber kind m
  have hflow : (s.putBack sent).inFlow = s.inFlow := rfl
  have hblocks : (s.putBack sent).blocks = s.blocks := rfl
  simp only [openBlock, hinsert, hflow, hblocks]
  split
  · rfl
  · split <;> split <;> rfl

theorem openBlock_taken (s : Scanner) (kind : TokenKind) (number : Nat) (m : Mark) :
    (s.openBlock kind number m).taken = s.taken := by
  simp only [openBlock]
  split
  · rfl
  · split <;> split <;> rfl

theorem openBlock_keys (s : Scanner) (kind : TokenKind) (number : Nat) (m : Mark) :
    (s.openBlock kind number m).keys = s.keys := by
  simp only [openBlock]
  split
  · rfl
  · split <;> split <;> rfl

theorem Sent.openBlock (h : Sent sent s) (number : Nat) (kind : TokenKind) (m : Mark) :
    Sent sent (s.openBlock kind number m) :=
  h.of_keys (openBlock_taken s kind number m) fun k hk => by rwa [openBlock_keys] at hk

theorem Sent.nextNumber_putBack (h : Sent sent s) : (s.putBack sent).nextNumber = s.nextNumber := by
  simp [nextNumber, putBack, h.taken_eq]

theorem Sent.le_nextNumber (h : Sent sent s) : sent.length ≤ s.nextNumber := by
  rw [nextNumber, h.taken_eq]
  exact Nat.le_add_right _ _

end Insert

/-! ## Scanning one token -/

theorem forgets_endDocument : Forgets fun s => s.closeAllBlocks.withoutKey :=
  forgets_closeAllBlocks.bind forgets_withoutKey

theorem forgets_scanEnd : Forgets scanEnd := by
  intro sent s h
  have hstart : Sent sent { s with
      spots := [⟨endChar, if s.mark.column = 0 then s.mark else ⟨s.mark.line + 1, 0, 0⟩⟩] } :=
    h.of_keys rfl fun _ => id
  exact (forgets_endDocument sent _ hstart).bind
    (forgets_push (fun _ _ => rfl) (fun _ => rfl) (fun _ _ => id) fun _ _ => rfl)

theorem forgets_scanDirective : Forgets scanDirective := by
  refine forgets_endDocument.bind (.view (fun _ _ => rfl) fun x => ?_)
  exact forgets_push (fun _ _ => rfl) (fun _ => rfl) (fun _ _ => id) fun _ _ => rfl

theorem forgets_scanDocumentMark (kind : TokenKind) : Forgets (scanDocumentMark · kind) :=
  forgets_endDocument.bind
    (forgets_push (fun _ _ => rfl) (fun _ => rfl) (fun _ _ => id) fun _ _ => rfl)

theorem forgets_scanFlowStart (kind : TokenKind) : Forgets (scanFlowStart · kind) := by
  refine forgets_withKeyHere.bind
    (forgets_push (fun _ _ => rfl) (fun _ => rfl) (fun s k hk => ?_) fun _ _ => rfl)
  exact (List.mem_cons.1 hk).resolve_left (by simp)

theorem forgets_scanFlowEnd (kind : TokenKind) : Forgets (scanFlowEnd · kind) := by
  refine forgets_withoutKey.bind
    (forgets_push (fun _ _ => rfl) (fun _ => rfl) (fun s k hk => ?_) fun _ _ => rfl)
  revert hk
  show some k ∈ (if s.inFlow then s.keys.tail else s.keys) → _
  split
  · exact List.mem_of_mem_tail
  · exact id

theorem forgets_scanFlowEntry : Forgets scanFlowEntry :=
  forgets_withoutKey.bind
    (forgets_push (fun _ _ => rfl) (fun _ => rfl) (fun _ _ => id) fun _ _ => rfl)

/-- A block may begin before the next token. -/
theorem forgets_openBlock (opening : TokenKind) :
    Forgets fun s => some (s.openBlock opening s.nextNumber s.mark) := by
  intro sent s h
  show Alike sent _ (some ((s.putBack sent).openBlock opening (s.putBack sent).nextNumber s.mark))
  rw [h.nextNumber_putBack, h.openBlock_putBack h.le_nextNumber]
  exact .some (h.openBlock _ opening s.mark)

theorem forgets_scanBlockIndicator (kind opening : TokenKind) (keyAfter : Bool) :
    Forgets (scanBlockIndicator · kind opening keyAfter) := by
  refine .ite (p := fun s => (!s.inFlow && !s.keyAllowed) = true) (fun _ _ => Iff.rfl) .none ?_
  exact ((forgets_openBlock opening).bind forgets_withoutKey).bind
    (forgets_push (fun _ _ => rfl) (fun _ => rfl) (fun _ _ => id) fun _ _ => rfl)

theorem forgets_scanKeyStart (scan : List Spot → Scanned) : Forgets (scanKeyStart · scan) := by
  refine forgets_withKeyHere.bind (.view (fun _ _ => rfl) fun x => ?_)
  exact forgets_push (fun _ _ => rfl) (fun _ => rfl) (fun _ _ => id) fun _ _ => rfl

theorem forgets_scanBlockScalar (style : Style) : Forgets (scanBlockScalar · style) := by
  refine forgets_withoutKey.bind (.view (fun _ _ => rfl) fun x => ?_)
  exact forgets_push (fun _ _ => rfl) (fun _ => rfl) (fun _ _ => id) fun _ _ => rfl

theorem forgets_scanPlain : Forgets scanPlain := by
  refine forgets_withKeyHere.bind (.view (fun _ _ => rfl) fun x => ?_)
  exact forgets_push (fun _ _ => rfl) (fun _ => rfl) (fun _ _ => id) fun _ _ => rfl

theorem forgets_scanValue : Forgets scanValue := by
  -- Without a possible key the value is one of an empty key.
  have hnew : Forgets fun s => if !s.inFlow && !s.keyAllowed then none
      else some ({ s.openBlock .blockMappingStart s.nextNumber s.mark with
        keyAllowed := !(s.openBlock .blockMappingStart s.nextNumber s.mark).inFlow }.pushChars .value 1) := by
    refine .ite (p := fun s => (!s.inFlow && !s.keyAllowed) = true) (fun _ _ => Iff.rfl) .none ?_
    have hpush : Forgets fun s => some ({ s with keyAllowed := !s.inFlow }.push .value (s.spots.drop 1)) :=
      forgets_push (fun _ _ => rfl) (fun _ => rfl) (fun _ _ => id) fun _ _ => rfl
    exact (forgets_openBlock _).bind hpush
  have hvalue : Forgets fun s => some (s.pushChars .value 1) :=
    forgets_push (fun _ _ => rfl) (fun _ => rfl) (fun _ _ => id) fun _ _ => rfl
  intro sent s h
  have hputBack : (s.putBack sent).keys = s.keys := rfl
  unfold scanValue
  rw [hputBack]
  split
  · next k rest hkeys =>
    -- The key token comes before the token that the key begins with, which has not been handed out.
    have hk : sent.length ≤ k.number := h.keys_late k (by simp [hkeys])
    have hrest : Sent sent { s with keys := none :: rest, keyAllowed := false } := by
      refine h.of_keys rfl fun k hk => ?_
      rw [hkeys]
      exact mem_keys_of_none_cons hk
    have hinsert := hrest.insert_putBack hk .key k.mark
    have hinserted : Sent sent
        ({ s with keys := none :: rest, keyAllowed := false }.insert .key k.number k.mark) :=
      hrest.of_keys rfl fun _ => id
    have hopen := hinserted.openBlock_putBack hk .blockMappingStart k.mark
    rw [← hinsert] at hopen
    have halike := hvalue sent _ (hinserted.openBlock k.number .blockMappingStart k.mark)
    rw [← hopen] at halike
    exact halike
  · exact hnew sent s h

theorem forgets_scanToken : Forgets scanToken := by
  refine .ite (fun _ _ => Iff.rfl) forgets_scanEnd ?_
  refine .ite (fun _ _ => Iff.rfl) forgets_scanDirective ?_
  refine .ite (fun _ _ => Iff.rfl) (forgets_scanDocumentMark .documentStart) ?_
  refine .ite (fun _ _ => Iff.rfl) (forgets_scanDocumentMark .documentEnd) ?_
  refine .ite (fun _ _ => Iff.rfl) (forgets_scanFlowStart .flowSequenceStart) ?_
  refine .ite (fun _ _ => Iff.rfl) (forgets_scanFlowStart .flowMappingStart) ?_
  refine .ite (fun _ _ => Iff.rfl) (forgets_scanFlowEnd .flowSequenceEnd) ?_
  refine .ite (fun _ _ => Iff.rfl) (forgets_scanFlowEnd .flowMappingEnd) ?_
  refine .ite (fun _ _ => Iff.rfl) forgets_scanFlowEntry ?_
  refine .ite (fun _ _ => Iff.rfl) (forgets_scanBlockIndicator .blockEntry .blockSequenceStart true) ?_
  refine .ite (fun _ _ => Iff.rfl) (.view (v := fun s => some !s.inFlow) (fun _ _ => rfl) fun keyAfter =>
    forgets_scanBlockIndicator .key .blockMappingStart keyAfter) ?_
  refine .ite (fun _ _ => Iff.rfl) forgets_scanValue ?_
  refine .ite (fun _ _ => Iff.rfl) (forgets_scanKeyStart _) ?_
  refine .ite (fun _ _ => Iff.rfl) (forgets_scanKeyStart _) ?_
  refine .ite (fun _ _ => Iff.rfl) (.view (v := fun s => some s.inFlow) (fun _ _ => rfl) fun flow =>
    forgets_scanKeyStart (tagToken flow)) ?_
  refine .ite (fun _ _ => Iff.rfl) (forgets_scanBlockScalar .literal) ?_
  refine .ite (fun _ _ => Iff.rfl) (forgets_scanBlockScalar .folded) ?_
  refine .ite (fun _ _ => Iff.rfl) (forgets_scanKeyStart _) ?_
  refine .ite (fun _ _ => Iff.rfl) (forgets_scanKeyStart _) ?_
  exact .ite (fun _ _ => Iff.rfl) forgets_scanPlain .none

theorem forgets_fetch : Forgets fetch := by
  have hskip : Forgets fun s => some { s with
      keyAllowed := (skipToToken s.inFlow s.keyAllowed false s.spots).1
      spots := (skipToToken s.inFlow s.keyAllowed false s.spots).2 } :=
    .of_total (fun _ _ => rfl) (fun _ => rfl) fun _ _ => id
  have hknown : Forgets fun s =>
      if s.whole || decide (lookahead < s.spots.length) then some s else none :=
    .ite (p := fun s => (s.whole || decide (lookahead < s.spots.length)) = true) (fun _ _ => Iff.rfl)
      (fun _ _ h => .some h) .none
  exact (hskip.bind forgets_withFreshKeys).bind
    ((forgets_closeBlocks.bind forgets_scanToken).bind hknown)

/-! ## Giving up keys -/

/-- The text is laid out from here on, and no possible key begins in a later line. -/
structure Placed (s : Scanner) : Prop where
  spots_eq : ∃ m cs, s.spots = spotsFrom m cs
  keys_line : ∀ k, some k ∈ s.keys → k.mark.line ≤ s.mark.line

/-- A key that is stale stays so. -/
theorem PossibleKey.isStale_mono {k : PossibleKey} {m n : Mark} (hline : k.mark.line ≤ m.line)
    (hmn : m.UpTo n) (h : PossibleKey.isStale k m = true) : PossibleKey.isStale k n = true := by
  unfold Mark.UpTo at hmn
  simp only [isStale, Bool.or_eq_true, decide_eq_true_eq] at h ⊢
  omega

/-- To give up keys more than once is to give them up at the last time. -/
theorem freshKeys_freshKeys {m n : Mark} (hmn : m.UpTo n) {keys later : List (Option PossibleKey)}
    (hline : ∀ k, some k ∈ keys → k.mark.line ≤ m.line) (h : freshKeys n keys = some later) :
    ∃ fresh, freshKeys m keys = some fresh ∧ freshKeys n fresh = some later := by
  induction keys generalizing later with
  | nil => exact ⟨[], rfl, h⟩
  | cons key keys ih =>
    have hlines := fun k hk => hline k (List.mem_cons_of_mem key hk)
    cases key with
    | none =>
      obtain ⟨rest, hrest, rfl⟩ := Option.map_eq_some_iff.1 h
      obtain ⟨fresh, hfresh, hagain⟩ := ih hlines hrest
      exact ⟨none :: fresh, by simp [freshKeys, hfresh], by simp [freshKeys, hagain]⟩
    | some k =>
      have hmono := PossibleKey.isStale_mono (hline k List.mem_cons_self) hmn
      rw [freshKeys] at h
      by_cases hn : PossibleKey.isStale k n = true
      · rw [if_pos hn] at h
        split at h
        · cases h
        · next hrequired =>
          obtain ⟨rest, hrest, rfl⟩ := Option.map_eq_some_iff.1 h
          obtain ⟨fresh, hfresh, hagain⟩ := ih hlines hrest
          by_cases hm : PossibleKey.isStale k m = true
          · exact ⟨none :: fresh, by simp [freshKeys, hm, hrequired, hfresh],
              by simp [freshKeys, hagain]⟩
          · exact ⟨some k :: fresh, by simp [freshKeys, hm, hfresh],
              by simp [freshKeys, hn, hrequired, hagain]⟩
      · rw [if_neg hn] at h
        obtain ⟨rest, hrest, rfl⟩ := Option.map_eq_some_iff.1 h
        obtain ⟨fresh, hfresh, hagain⟩ := ih hlines hrest
        exact ⟨some k :: fresh, by simp [freshKeys, mt hmono hn, hfresh],
          by simp [freshKeys, hn, hagain]⟩

theorem length_freshKeys {m : Mark} {keys fresh : List (Option PossibleKey)}
    (h : freshKeys m keys = some fresh) : fresh.length = keys.length := by
  induction keys generalizing fresh with
  | nil =>
    cases h
    rfl
  | cons key keys ih =>
    have hrest : ∀ {first : Option PossibleKey}, (freshKeys m keys).map (first :: ·) = some fresh →
        fresh.length = (key :: keys).length := by
      intro first hfirst
      obtain ⟨rest, hrest, rfl⟩ := Option.map_eq_some_iff.1 hfirst
      exact congrArg (· + 1) (ih hrest)
    cases key with
    | none => exact hrest h
    | some k =>
      rw [freshKeys] at h
      split at h
      · split at h
        · cases h
        · exact hrest h
      · exact hrest h

/-- White space and comments only lead onwards. -/
theorem skipToToken_spotsFrom (flow keyAllowed comment : Bool) (m : Mark) (cs : List Char) :
    ∃ n ds, (skipToToken flow keyAllowed comment (spotsFrom m cs)).2 = spotsFrom n ds ∧ m.UpTo n := by
  induction cs generalizing m keyAllowed comment with
  | nil =>
    refine ⟨m, [], ?_, .refl m⟩
    simp [spotsFrom, skipToToken, isBreak, isEnd, endChar, byteOrderMark]
  | cons c cs ih =>
    have hnext : ∀ keyAllowed comment, ∃ n ds,
        (skipToToken flow keyAllowed comment (spotsFrom (m.after c) cs)).2 = spotsFrom n ds ∧ m.UpTo n := by
      intro keyAllowed comment
      obtain ⟨n, ds, heq, hupTo⟩ := ih keyAllowed comment (m.after c)
      exact ⟨n, ds, heq, (Mark.upTo_after m c).trans hupTo⟩
    rw [spotsFrom_cons, skipToToken]
    dsimp only
    split
    · exact hnext _ _
    · split
      · exact hnext _ _
      · split
        · exact hnext _ _
        · split
          · exact hnext _ _
          · split
            · exact hnext _ _
            · exact ⟨m, c :: cs, rfl, .refl m⟩

/-- To give up keys before the next token is scanned makes no difference to the scan. -/
theorem Placed.fetch_withFreshKeys {s t : Scanner} (h : s.Placed) (hfetch : s.fetch = some t) :
    ∃ fresh, freshKeys s.mark s.keys = some fresh ∧ fetch { s with keys := fresh } = some t := by
  obtain ⟨m, cs, hspots⟩ := h.spots_eq
  have hmark : s.mark = m := by rw [mark, hspots, markOf_spotsFrom]
  obtain ⟨n, ds, hskip, hupTo⟩ := skipToToken_spotsFrom s.inFlow s.keyAllowed false m cs
  rw [← hspots] at hskip
  -- The next token is scanned with the keys that are not stale at its own place.
  have hplace : markOf (skipToToken s.inFlow s.keyAllowed false s.spots).2 = n := by
    rw [hskip, markOf_spotsFrom]
  have hkeys : ∃ later, freshKeys n s.keys = some later := by
    cases hlater : freshKeys n s.keys with
    | some later => exact ⟨later, rfl⟩
    | none =>
      have hnone : s.fetch = none := by
        simp [fetch, withFreshKeys, mark, hplace, hlater]
      rw [hnone] at hfetch
      cases hfetch
  obtain ⟨later, hlater⟩ := hkeys
  obtain ⟨fresh, hfresh, hagain⟩ := freshKeys_freshKeys hupTo (hmark ▸ h.keys_line) hlater
  refine ⟨fresh, hmark ▸ hfresh, ?_⟩
  have hflow : inFlow { s with keys := fresh } = s.inFlow := by
    rw [inFlow, inFlow, length_freshKeys hfresh]
  rw [← hfetch]
  simp [fetch, withFreshKeys, mark, hflow, hplace, hlater, hagain]

/-! ## Scanning without handing out -/

/-- Tokens are scanned one after the other and stay in the queue, each of them a part of the text; one
more may have been put before it. -/
inductive Fetches : Scanner → Scanner → Prop where
  | refl (s : Scanner) : Fetches s s
  | step {s t u : Scanner} (hplaced : s.Placed) (hfetch : s.fetch = some t)
      (hspots : t.spots.length < s.spots.length) (hqueue : t.queue.length ≤ s.queue.length + 2)
      (hrest : Fetches t u) : Fetches s u

namespace Fetches

variable {s t u : Scanner} {sent : List Token}

theorem trans (h : Fetches s t) (h' : Fetches t u) : Fetches s u := by
  induction h with
  | refl => exact h'
  | step hplaced hfetch hspots hqueue _ ih => exact .step hplaced hfetch hspots hqueue (ih h')

theorem length_le (h : Fetches s t) :
    t.queue.length + 2 * t.spots.length ≤ s.queue.length + 2 * s.spots.length := by
  induction h with
  | refl => exact Nat.le_refl _
  | step _ _ hspots hqueue _ ih => omega

/-- Tokens that have been handed out stay what they are. -/
theorem exists_putBack (h : Fetches s u) {r : Scanner} (hs : s = r.putBack sent) (hsent : Sent sent r) :
    ∃ r' : Scanner, u = r'.putBack sent := by
  induction h generalizing r with
  | refl => exact ⟨r, hs⟩
  | step _ hfetch _ _ _ ih =>
    have halike := forgets_fetch sent r hsent
    rw [← hs, hfetch] at halike
    generalize r.fetch = fetched at halike
    cases halike with
    | some hsent' => exact ih rfl hsent'

end Fetches

/-- All tokens have been scanned: the last one is the only one that ends the text, and no key can begin
any more. -/
structure Finished (s : Scanner) : Prop where
  keys : ∀ k, some k ∉ s.keys
  queue : ∃ ts e, s.queue = ts ++ [e] ∧ e.kind = .streamEnd ∧ ∀ t ∈ ts, t.kind ≠ .streamEnd

theorem Finished.freshKeys_eq {s : Scanner} (h : s.Finished) (m : Mark) :
    freshKeys m s.keys = some s.keys := by
  have hkeys := h.keys
  generalize s.keys = keys at hkeys
  induction keys with
  | nil => rfl
  | cons key keys ih =>
    cases key with
    | some k => exact absurd List.mem_cons_self (hkeys k)
    | none => simp [freshKeys, ih fun k hk => hkeys k (List.mem_cons_of_mem _ hk)]

namespace Fetches

variable {s v : Scanner} {sent : List Token}

theorem withFreshKeys (h : Fetches s v) (hv : v.Finished) :
    ∃ fresh, freshKeys s.mark s.keys = some fresh ∧ Fetches { s with keys := fresh } v := by
  cases h with
  | refl => exact ⟨s.keys, hv.freshKeys_eq _, .refl s⟩
  | step hplaced hfetch hspots hqueue hrest =>
    obtain ⟨fresh, hfresh, hagain⟩ := hplaced.fetch_withFreshKeys hfetch
    refine ⟨fresh, hfresh, .step ⟨hplaced.spots_eq, fun k hk => ?_⟩ hagain hspots hqueue hrest⟩
    exact hplaced.keys_line k (mem_keys_of_freshKeys hfresh hk)

/-- As long as the last token is not in the queue, there is one more to be scanned. -/
theorem exists_fetch (h : Fetches (s.putBack sent) v) (hsent : Sent sent s)
    (hmore : v ≠ s.putBack sent) :
    ∃ t, s.fetch = some t ∧ Sent sent t ∧ Fetches (t.putBack sent) v ∧
      t.spots.length < s.spots.length := by
  have halike := forgets_fetch sent s hsent
  generalize s.fetch = fetched at halike
  generalize hr : s.putBack sent = r at h halike hmore
  cases h with
  | refl => exact absurd rfl hmore
  | step _ hfetch hspots _ hrest =>
    rw [hfetch] at halike
    subst hr
    cases halike with
    | some ht => exact ⟨_, rfl, ht, hrest, hspots⟩

end Fetches

section Run

variable {s v : Scanner} {sent queue : List Token} {token : Token}

/-- A token with which no key can begin any more may go. -/
theorem Sent.handOut (h : Sent sent s) (hqueue : s.queue = token :: queue)
    (hawaits : ¬ s.awaitsColon = true) :
    Sent (sent ++ [token]) { s with queue, taken := s.taken + 1 } ∧
      putBack (sent ++ [token]) { s with queue, taken := s.taken + 1 } = s.putBack sent := by
  refine ⟨⟨by simp [h.taken_eq], fun k hk => ?_⟩, by simp [putBack, hqueue]⟩
  have hlate := h.keys_late k hk
  have hne : k.number ≠ s.taken := by
    intro hnumber
    exact hawaits (List.any_eq_true.2 ⟨some k, hk, by simp [hnumber]⟩)
  rw [h.taken_eq] at hne
  rw [List.length_append, List.length_singleton]
  omega

theorem exists_key_of_awaitsColon (h : s.awaitsColon = true) : ∃ k, some k ∈ s.keys := by
  obtain ⟨key, hkey, hnumber⟩ := List.any_eq_true.1 h
  cases key with
  | none => cases hnumber
  | some k => exact ⟨k, hkey⟩

theorem Finished.queue_ne (h : v.Finished) (hsent : ∀ t ∈ sent, t.kind ≠ .streamEnd) :
    v.queue ≠ sent := by
  obtain ⟨ts, e, hqueue, hend, -⟩ := h.queue
  rw [hqueue]
  rintro rfl
  exact hsent e (by simp) hend

/-- Nothing follows the end of the text. -/
theorem Finished.eq_nil_of_streamEnd (h : v.Finished) {rest : List Token}
    (hqueue : v.queue = sent ++ token :: rest) (hkind : token.kind = .streamEnd) : rest = [] := by
  obtain ⟨ts, e, hts, -, hkinds⟩ := h.queue
  rw [hqueue] at hts
  rcases List.eq_nil_or_concat rest with rfl | ⟨rest, last, rfl⟩
  · rfl
  · rw [List.concat_eq_append, ← List.cons_append, ← List.append_assoc] at hts
    have hmem : token ∈ ts := by simp [← (List.append_inj' hts rfl).1]
    exact absurd hkind (hkinds token hmem)

/-- **Tokens are handed out as they are scanned**: with those handed out before, they are the tokens in
the queue of a scanner that has kept them all. -/
theorem run_eq_queue (hv : v.Finished) {fuel : Nat} (hsent : Sent sent s)
    (h : Fetches (s.putBack sent) v) (hkinds : ∀ t ∈ sent, t.kind ≠ .streamEnd)
    (hfuel : s.spots.length + v.queue.length ≤ fuel + sent.length) :
    sent ++ run fuel s = v.queue := by
  induction fuel generalizing s sent with
  | zero =>
    obtain ⟨r, rfl⟩ := h.exists_putBack rfl hsent
    have hnil : r.queue = [] := by
      refine List.eq_nil_of_length_eq_zero ?_
      simp only [putBack, List.length_append] at hfuel
      omega
    simp [run, putBack, hnil]
  | succ fuel ih =>
    rw [run]
    cases htokens : s.queue with
    | nil =>
      have hmore : v ≠ s.putBack sent := by
        rintro rfl
        exact hv.queue_ne hkinds (by simp [putBack, htokens])
      obtain ⟨t, hfetch, ht, hrest, hless⟩ := h.exists_fetch hsent hmore
      simpa [hfetch] using ih ht hrest hkinds (by omega)
    | cons token queue =>
      obtain ⟨fresh, hfresh, hfetches⟩ := h.withFreshKeys hv
      have hfresh : freshKeys s.mark s.keys = some fresh := hfresh
      have hfetches : Fetches (putBack sent { s with keys := fresh }) v := hfetches
      have hu : Sent sent { s with keys := fresh } :=
        hsent.of_keys rfl fun k => mem_keys_of_freshKeys hfresh
      simp only [Scanner.withFreshKeys, hfresh, Option.map_some]
      by_cases hawaits : awaitsColon { s with keys := fresh } = true
      · have hmore : v ≠ putBack sent { s with keys := fresh } := by
          rintro rfl
          obtain ⟨k, hk⟩ := exists_key_of_awaitsColon hawaits
          exact hv.keys k hk
        obtain ⟨t, hfetch, ht, hrest, hless⟩ := hfetches.exists_fetch hu hmore
        simpa [hawaits, hfetch] using ih ht hrest hkinds (by simp only at hless; omega)
      · rw [if_neg hawaits]
        obtain ⟨hnext, hputBack⟩ := hu.handOut htokens hawaits
        rw [← hputBack] at hfetches
        by_cases hkind : token.kind = .streamEnd
        · rw [if_pos hkind]
          obtain ⟨r, rfl⟩ := hfetches.exists_putBack rfl hnext
          have hqueue : (r.putBack (sent ++ [token])).queue = sent ++ token :: r.queue := by
            simp [putBack]
          rw [hqueue, hv.eq_nil_of_streamEnd hqueue hkind]
        · rw [if_neg hkind]
          have hkinds' : ∀ t ∈ sent ++ [token], t.kind ≠ .streamEnd := by
            intro t ht
            rcases List.mem_append.1 ht with ht | ht
            · exact hkinds t ht
            · rwa [List.mem_singleton.1 ht]
          have hrest := ih hnext hfetches hkinds' (by
            simp only [List.length_append, List.length_singleton]
            omega)
          rwa [List.append_assoc, List.singleton_append] at hrest

end Run

end Scanner

/-- The tokens of a text are those that a scanner of the whole text has in its queue at the end. -/
theorem tokens_eq_queue {cs : List Char} (hcs : Readable cs) {v : Scanner} (hv : v.Finished)
    (h : Scanner.Fetches { spots := spotsFrom {} cs } v) : tokens cs = v.queue := by
  have hlength := h.length_le
  have hfuel : (spotsFrom {} cs).length + v.queue.length ≤
      8 * (spotsFrom {} cs).length + 8 + ([] : List Token).length := by
    simp only [List.length_nil] at hlength ⊢
    omega
  have hstart : Scanner.Sent [] { spots := spotsFrom {} cs } := ⟨rfl, by simp⟩
  rw [tokens, spots_eq hcs]
  exact Scanner.run_eq_queue hv hstart h (by simp) hfuel

end RemoteRollout.Yaml
