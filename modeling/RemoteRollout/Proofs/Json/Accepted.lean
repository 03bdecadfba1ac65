import RemoteRollout.Proofs.Json.Printing
import RemoteRollout.Proofs.Json.Spelled

/-!
# Accepted texts

The converse of reading what was written: a text that a reader accepts is one of the grammar's texts
of what the reader answers. A reader for which this holds is `Sound`; strings have a sound reader
(`sound_readString`), and lists of what has one (`Sound.list`). So no document is accepted but those
of the values it is read as (`Sound.exists_document`).
-/

namespace RemoteRollout.Json

open Text.Utf8 (encode)

/-! ## White space -/

theorem exists_char_of_isBlank {b : UInt8} (h : isBlank b = true) :
    ∃ c, (c = ' ' ∨ c = '\n' ∨ c = '\t' ∨ c = '\r') ∧ encode [c] = [b] := by
  simp only [isBlank, Bool.or_eq_true, beq_iff_eq] at h
  rcases h with ((rfl | rfl) | rfl) | rfl
  · exact ⟨' ', by simp, rfl⟩
  · exact ⟨'\n', by simp, rfl⟩
  · exact ⟨'\t', by simp, rfl⟩
  · exact ⟨'\r', by simp, rfl⟩

/-- What is passed over is white space. -/
theorem exists_blank (bs : List UInt8) : ∃ ws, Blank ws ∧ bs = encode ws ++ afterBlank bs := by
  induction bs with
  | nil => exact ⟨[], blank_nil, rfl⟩
  | cons b bs ih =>
    by_cases hb : isBlank b = true
    · obtain ⟨ws, hws, hbs⟩ := ih
      obtain ⟨c, hc, hbyte⟩ := exists_char_of_isBlank hb
      refine ⟨c :: ws, List.forall_mem_cons.2 ⟨hc, hws⟩, ?_⟩
      have hskip : afterBlank (b :: bs) = afterBlank bs := List.dropWhile_cons_of_pos hb
      rw [hskip, ← List.singleton_append (x := c), encode_append, hbyte, List.append_assoc, ← hbs]
      rfl
    · exact ⟨[], blank_nil, (afterBlank_cons (Bool.not_eq_true _ ▸ hb) bs).symm⟩

theorem Blank.append {ws ws' : List Char} (h : Blank ws) (h' : Blank ws') : Blank (ws ++ ws') :=
  List.forall_mem_append.2 ⟨h, h'⟩

/-! ## What a node was made of -/

/-- Wherever the scanner made this node, it passed over a text of the source. -/
def WrittenAs (t : Source) (node : Node) : Prop :=
  ∀ fuel bs, scanValue fuel bs = node → ∃ ws cs rest, node.rest? = some rest ∧ Blank ws ∧
    Written (.value t) cs ∧ bs = encode ws ++ (encode cs ++ rest)

/-- A value that ends has a first byte, behind white space. -/
theorem scanValue_eq {fuel : Nat} {bs rest : List UInt8} {node : Node}
    (h : scanValue fuel bs = node) (hrest : node.rest? = some rest) :
    ∃ more ws b tail, Blank ws ∧ bs = encode ws ++ b :: tail ∧
      (if b = '['.toUInt8 then
          .list (b :: tail) (scanItems more true tail).1 (scanItems more true tail).2
        else if b = '{'.toUInt8 then
          .object (b :: tail) (scanMembers more true tail).1 (scanMembers more true tail).2
        else Node.ofScalar b tail) = node := by
  cases fuel with
  | zero =>
    subst h
    cases hrest
  | succ fuel =>
    obtain ⟨ws, hws, hbs⟩ := exists_blank bs
    rw [scanValue] at h
    cases hafter : afterBlank bs with
    | nil =>
      rw [hafter] at h
      subst h
      cases hrest
    | cons b tail =>
      rw [hafter] at hbs h
      exact ⟨fuel, ws, b, tail, hws, hbs, h⟩

/-! ## Values without parts -/

section Scalars

variable {start start' bs rest : List UInt8} {value : Except Fault Scalar}

theorem ofWord_eq_scalar {letters : List Char} {meant : Scalar}
    (h : Node.ofWord start letters meant bs = .scalar start' value rest) : value = .ok meant := by
  unfold Node.ofWord at h
  split at h
  · cases h
    rfl
  · cases h

theorem ofNumber_eq_scalar {negative : Bool}
    (h : Node.ofNumber start negative bs = .scalar start' value rest) :
    ∃ number : Except Fault Number, value = number.map .number := by
  unfold Node.ofNumber at h
  split at h
  · cases h
    exact ⟨_, rfl⟩
  · cases h

theorem ofString_eq_scalar (h : Node.ofString start bs = .scalar start' value rest) :
    value = (stringValue bs rest).map .string ∧
      ∃ skipped, stringBody .loose (.text none) bs = .ok (skipped, rest) := by
  unfold Node.ofString at h
  split at h
  · next skipped rest hskip =>
    cases h
    exact ⟨rfl, skipped, hskip⟩
  · split at h
    · cases h
    · cases h

/-- Only a quote begins a string. -/
theorem ofScalar_eq_string {b : UInt8} {s : String}
    (h : Node.ofScalar b bs = .scalar start (.ok (.string s)) rest) :
    b = '"'.toUInt8 ∧ stringValue bs rest = .ok s ∧
      ∃ skipped, stringBody .loose (.text none) bs = .ok (skipped, rest) := by
  have hnumber : ∀ {negative bytes}, Node.ofNumber (b :: bs) negative bytes ≠
      .scalar start (.ok (.string s)) rest := by
    intro negative bytes h
    obtain ⟨number, hvalue⟩ := ofNumber_eq_scalar h
    obtain ⟨n, -, hn⟩ := map_eq_ok_iff.1 hvalue.symm
    cases hn
  unfold Node.ofScalar at h
  dsimp only at h
  split_ifs at h with hn ht hf hquote hminus hdigit
  · cases ofWord_eq_scalar h
  · cases ofWord_eq_scalar h
  · cases ofWord_eq_scalar h
  · obtain ⟨hvalue, hskip⟩ := ofString_eq_scalar h
    obtain ⟨s', hs', hs⟩ := map_eq_ok_iff.1 hvalue.symm
    cases hs
    exact ⟨hquote, hs', hskip⟩
  · exact absurd h hnumber
  · exact absurd h hnumber

theorem ofScalar_ne_list {b : UInt8} {nodes : List Node} {ending : Ending} :
    Node.ofScalar b bs ≠ .list start nodes ending := by
  have hword : ∀ letters meant, Node.ofWord (b :: bs) letters meant bs ≠
      .list start nodes ending := by
    intro letters meant
    unfold Node.ofWord
    split <;> nofun
  have hstring : Node.ofString (b :: bs) bs ≠ .list start nodes ending := by
    unfold Node.ofString
    split
    · nofun
    · split <;> nofun
  have hnumber : ∀ negative bytes, Node.ofNumber (b :: bs) negative bytes ≠
      .list start nodes ending := by
    intro negative bytes
    unfold Node.ofNumber
    split <;> nofun
  unfold Node.ofScalar
  dsimp only
  split_ifs
  exacts [hword _ _, hword _ _, hword _ _, hstring, hnumber _ _, hnumber _ _, nofun]

/-- A string that is read was written. -/
theorem writtenAs_string {s : String} :
    WrittenAs (.string (some s)) (.scalar start (.ok (.string s)) rest) := by
  intro fuel bs h
  obtain ⟨more, ws, b, tail, hws, rfl, hnode⟩ := scanValue_eq h rfl
  split_ifs at hnode
  obtain ⟨rfl, hvalue, skipped, hskip⟩ := ofScalar_eq_string hnode
  obtain ⟨cs, hquoted, rfl⟩ := exists_quoted hvalue hskip
  refine ⟨ws, _, rest, rfl, hws, .string hquoted, ?_⟩
  rw [List.cons_append, encode_ascii_cons (by decide), encode_append]
  simp only [List.cons_append, List.append_assoc]
  rfl

end Scalars

/-! ## Lists -/

section Lists

variable {bs rest : List UInt8} {nodes : List Node}

theorem scanItem_eq_closed {fuel : Nat} (h : scanItem fuel bs = (nodes, .closed rest)) :
    ∃ fuel' node more others, nodes = node :: others ∧ scanValue fuel' bs = node ∧
      node.rest? = some more ∧ scanItems fuel' false more = (others, .closed rest) := by
  cases fuel with
  | zero => cases h
  | succ fuel =>
    rw [scanItem] at h
    dsimp only at h
    split at h
    · cases h
    · next more hmore =>
      obtain ⟨rfl, hending⟩ := Prod.mk.inj h
      exact ⟨fuel, _, more, _, rfl, rfl, hmore, Prod.ext rfl hending⟩

/-- A list that is closed, from here on: there is nothing more, or an item, behind a comma unless it
is the first. -/
theorem scanItems_eq_closed {fuel : Nat} {first : Bool}
    (h : scanItems fuel first bs = (nodes, .closed rest)) :
    ∃ ws, Blank ws ∧ ((nodes = [] ∧ bs = encode ws ++ ']'.toUInt8 :: rest) ∨
      ∃ fuel' tail, scanItem fuel' tail = (nodes, .closed rest) ∧
        if first then bs = encode ws ++ tail
        else ∃ ws', Blank ws' ∧ bs = encode ws ++ ','.toUInt8 :: (encode ws' ++ tail)) := by
  cases fuel with
  | zero => cases h
  | succ fuel =>
    obtain ⟨ws, hws, hbs⟩ := exists_blank bs
    refine ⟨ws, hws, ?_⟩
    rw [scanItems] at h
    cases hafter : afterBlank bs with
    | nil =>
      rw [hafter] at h
      cases h
    | cons b tail =>
      rw [hafter] at h hbs
      dsimp only at h
      split_ifs at h with hclosing hfirst hcomma
      · cases h
        exact .inl ⟨rfl, hclosing ▸ hbs⟩
      · exact .inr ⟨fuel, b :: tail, h, by rw [if_pos hfirst]; exact hbs⟩
      · obtain ⟨ws', hws', htail⟩ := exists_blank tail
        cases hnext : afterBlank tail with
        | nil =>
          rw [hnext] at h
          cases h
        | cons c more =>
          rw [hnext] at h htail
          dsimp only at h
          split_ifs at h
          · cases h
          · refine .inr ⟨fuel, c :: more, h, ?_⟩
            rw [if_neg hfirst]
            exact ⟨ws', hws', by rw [← htail, ← hcomma]; exact hbs⟩
      · cases h

/-- What follows an item was written, if the further items were. -/
theorem exists_items {ts : List Source} (h : List.Forall₂ WrittenAs ts nodes) {fuel : Nat}
    (hscan : scanItems fuel false bs = (nodes, .closed rest)) :
    ∃ cs, Written (.items ts) cs ∧ bs = encode cs ++ rest := by
  induction h generalizing fuel bs with
  | nil =>
    obtain ⟨ws, hws, ⟨-, rfl⟩ | ⟨fuel, tail, hitem, -⟩⟩ := scanItems_eq_closed hscan
    · refine ⟨_, .endOfList hws, ?_⟩
      rw [encode_append, List.append_assoc]
      rfl
    · obtain ⟨_, _, _, _, hnodes, -⟩ := scanItem_eq_closed hitem
      cases hnodes
  | @cons t node ts nodes ht _ ih =>
    obtain ⟨ws, hws, ⟨hnodes, -⟩ | ⟨fuel, tail, hitem, hbytes⟩⟩ := scanItems_eq_closed hscan
    · cases hnodes
    · obtain ⟨ws', hws', rfl⟩ := hbytes
      obtain ⟨fuel, node, more, others, hnodes, hnode, hmore, hothers⟩ := scanItem_eq_closed hitem
      cases hnodes
      obtain ⟨blank, cs, more', hmore', hblank, hcs, rfl⟩ := ht fuel tail hnode
      cases hmore.symm.trans hmore'
      obtain ⟨further, hfurther, rfl⟩ := ih hothers
      refine ⟨_, .item hws (hws'.append hblank) hcs hfurther, ?_⟩
      simp [encode_append, encode_ascii_cons]

/-- A list whose items were written was written itself. -/
theorem writtenAs_list {ts : List Source} (h : List.Forall₂ WrittenAs ts nodes)
    {start : List UInt8} : WrittenAs (.list ts) (.list start nodes (.closed rest)) := by
  intro fuel bs hscan
  obtain ⟨more, ws, b, tail, hws, rfl, hnode⟩ := scanValue_eq hscan rfl
  split_ifs at hnode with hbracket
  · injection hnode with hstart hnodes hending
    have hitems : scanItems more true tail = (nodes, .closed rest) := Prod.ext hnodes hending
    obtain ⟨ws', hws', ⟨rfl, rfl⟩ | ⟨fuel, tail, hitem, rfl⟩⟩ := scanItems_eq_closed hitems
    · cases h
      refine ⟨ws, _, rest, rfl, hws, .emptyList hws', ?_⟩
      rw [hbracket, encode_append]
      simp [encode_ascii_cons, show encode [] = [] from rfl]
    · obtain ⟨fuel, node, more, others, rfl, hnode, hmore, hothers⟩ := scanItem_eq_closed hitem
      cases h with
      | cons ht hts =>
        obtain ⟨blank, cs, more', hmore', hblank, hcs, rfl⟩ := ht fuel tail hnode
        cases hmore.symm.trans hmore'
        obtain ⟨further, hfurther, rfl⟩ := exists_items hts hothers
        refine ⟨ws, _, rest, rfl, hws, .list (hws'.append hblank) hcs hfurther, ?_⟩
        simp [encode_append, encode_ascii_cons, hbracket]
  · exact absurd hnode ofScalar_ne_list

end Lists

/-! ## Readers -/

/-- What the reader answers was written as this source. -/
def Sound {α : Type} (read : Reader α) (source : α → Source) : Prop :=
  ∀ depth node x, read depth node = .ok x → WrittenAs (source x) node

section Sound

variable {α : Type} {read : Reader α} {source : α → Source}

theorem sound_readString : Sound readString fun s => .string (some s) := by
  intro depth node s h
  unfold readString readStringAs at h
  split at h
  · cases h
    exact writtenAs_string
  · cases h

theorem forall₂_of_readItems {readItem : Node → Except Fault α} {nodes : List Node}
    {ending : Ending} {xs : List α} (h : readItems readItem nodes ending = .ok xs) :
    (∃ rest, ending = .closed rest) ∧ List.Forall₂ (fun x node => readItem node = .ok x) xs nodes := by
  induction nodes generalizing xs with
  | nil =>
    obtain ⟨rest, hending, rfl⟩ := map_eq_ok_iff.1 h
    cases ending with
    | closed rest => exact ⟨⟨rest, rfl⟩, .nil⟩
    | broken => cases hending
  | cons node nodes ih =>
    obtain ⟨x, hx, h⟩ := bind_eq_ok_iff.1 h
    obtain ⟨others, hothers, h⟩ := bind_eq_ok_iff.1 h
    cases h
    exact ⟨(ih hothers).1, .cons hx (ih hothers).2⟩

theorem Sound.list (h : Sound read source) :
    Sound (readList read) fun xs => .list (xs.map source) := by
  intro depth node xs hread
  unfold readList at hread
  split at hread
  · next start items ending =>
    obtain ⟨depth, -, hitems⟩ := bind_eq_ok_iff.1 hread
    obtain ⟨⟨rest, rfl⟩, hall⟩ := forall₂_of_readItems hitems
    refine writtenAs_list ?_
    rw [List.forall₂_map_left_iff]
    exact hall.imp fun x node hx => h depth node x hx
  · cases hread

/-- No document is accepted but those of the value it is read as. -/
theorem Sound.exists_document (h : Sound read source) {bytes : List UInt8} {x : α}
    (hdecode : decode read bytes = .ok x) : ∃ cs, (source x).Document cs ∧ bytes = encode cs := by
  unfold decode at hdecode
  cases hdocument : readDocument read bytes with
  | error fault =>
    rw [hdocument] at hdecode
    cases hdecode
  | ok y =>
    rw [hdocument] at hdecode
    cases hdecode
    obtain ⟨y, hread, hend⟩ := bind_eq_ok_iff.1 hdocument
    obtain ⟨ws, cs, rest, hrest, hws, hcs, hbytes⟩ := h maxDepth (scan bytes) y hread _ bytes rfl
    rw [hrest, Option.getD_some] at hend
    split at hend
    · next hblank =>
      cases hend
      obtain ⟨ws', hws', hmore⟩ := exists_blank rest
      rw [hblank, List.append_nil] at hmore
      refine ⟨ws ++ cs ++ ws', .intro hws hcs hws', ?_⟩
      rw [encode_append, encode_append, List.append_assoc, ← hmore]
      exact hbytes
    · cases hend

end Sound

end RemoteRollout.Json
