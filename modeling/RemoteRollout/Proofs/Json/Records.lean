import RemoteRollout.Proofs.Json.Values

/-!
# Reading records

Readers of typed values, in both directions. `Recovers` says that a value is read wherever a given tree
was written, and `Gives` that a source was read as a value; both go through lists and through records.
What a record has in one of its fields depends on the members of the field's name alone
(`Layout.Slot.read`): the other members, known or not, leave it as it is.
-/

namespace RemoteRollout.Json

open Text.Utf8 (encode)

/-! ## Whole documents -/

/-- A document is read as the node that shows its value. -/
theorem decode_eq_ok_iff {α : Type} {read : Reader α} {t : Source} {cs : List Char} {x : α}
    (h : t.Document cs) :
    decode read (encode cs) = .ok x ↔ read maxDepth (scan (encode cs)) = .ok x := by
  have hend := (scan_document h).2
  unfold decode readDocument
  cases hread : read maxDepth (scan (encode cs)) with
  | error fault => simp [hread, Except.mapError, bind, Except.bind]
  | ok y => simp [hread, hend, Except.mapError, bind, Except.bind, pure, Except.pure]

/-! ## Trees that come back -/

/-- Wherever the tree was written the reader answers the value. -/
def Recovers {α : Type} (read : Reader α) (depth : Nat) (t : Tree) (x : α) : Prop :=
  ∀ node, Shows t.source node → read depth node = .ok x

section Recovers

variable {α β : Type} {read : Reader α} {depth : Nat}

theorem recovers_string (expected s : String) :
    Recovers (readStringAs expected) depth (.string s) s := by
  intro node h
  cases h with
  | string hvalue =>
    rw [eq_ok_of_toOption hvalue]
    rfl

theorem recovers_bool (b : Bool) : Recovers readBool depth (.bool b) b := by
  intro node h
  cases h with
  | bool => rfl

theorem recovers_tree {t : Tree} (h : t.NestsWithin depth) :
    Recovers readTree depth t t.canonical :=
  fun _ hshows => readTree_source t hshows h

theorem Recovers.map {t : Tree} {x : α} (h : Recovers read depth t x) (f : α → β) :
    Recovers (fun depth node => (read depth node).map f) depth t (f x) := by
  intro node hshows
  show (read depth node).map f = _
  rw [h node hshows]
  rfl

theorem recovers_list {trees : List Tree} {xs : List α}
    (h : List.Forall₂ (Recovers read depth) trees xs) :
    Recovers (readList read) (depth + 1) (.list trees) xs := by
  intro node hshows
  cases hshows with
  | @list _ nodes start rest hs =>
    show readItems (read depth) nodes (.closed rest) = .ok xs
    rw [Tree.sources_eq_map] at hs
    induction h generalizing nodes with
    | nil => cases hs with | nil => rfl
    | cons hx hxs ih =>
      cases hs with
      | cons ht hs =>
        rw [readItems, hx _ ht, ih hs]
        rfl

end Recovers

namespace Layout

variable {σ α : Type} {l : Layout σ} {depth : Nat}

/-- The members fill a record field by field, each of them a new one, and in the end nothing is missing
that the record cannot do without. -/
inductive Fills (l : Layout σ) (depth : Nat) : σ → Members → σ → Prop where
  | done {draft : σ} (h : ∀ f ∈ l.fields, f.required = true → f.isSet draft = true) :
      Fills l depth draft [] draft
  | field {draft draft' final : σ} {name : String} {t : Tree} {ms : Members} {f : Field σ}
      (hfind : l.fields.find? (·.name == name) = some f) (hnew : f.isSet draft = false)
      (hread : ∀ node, Shows t.source node → f.read depth node draft = .ok draft')
      (hrest : Fills l depth draft' ms final) : Fills l depth draft ((name, t) :: ms) final

/-- A member from which the value of a field is recovered. -/
theorem Fills.of {name : String} {required : Bool} {get? : σ → Option α} {set : α → σ → σ}
    {read : Reader α} {draft final : σ} {t : Tree} {x : α} {ms : Members}
    (hfind : l.fields.find? (·.name == name) = some (.of name required get? set read))
    (hnew : get? draft = none) (h : Recovers read depth t x)
    (hrest : l.Fills depth (set x draft) ms final) : l.Fills depth draft ((name, t) :: ms) final := by
  refine .field hfind ?_ (fun node hshows => ?_) hrest
  · simp [Field.of, hnew]
  · show (read depth node).map _ = _
    rw [h node hshows]
    rfl

/-- At the end of an object a record is complete if nothing is missing that it cannot do without. -/
theorem readMembers_nil_eq_ok_iff {draft final : σ} {rest : List UInt8} :
    l.readMembers depth draft [] (.closed rest) = .ok final ↔
      (∀ f ∈ l.fields, f.required = true → f.isSet draft = true) ∧ draft = final := by
  have hnone : (l.fields.find? fun f => f.required && !f.isSet draft) = none ↔
      ∀ f ∈ l.fields, f.required = true → f.isSet draft = true := by
    simp
  rw [← hnone]
  simp only [Layout.readMembers, Ending.read, bind, Except.bind]
  cases l.fields.find? fun f => f.required && !f.isSet draft with
  | none => simp [pure, Except.pure]
  | some f => simp [throw, throwThe, MonadExceptOf.throw]

theorem Fills.readMembers {draft final : σ} {ms : Members} (h : l.Fills depth draft ms final)
    {members : List (Key × Node)} {rest : List UInt8}
    (hs : ShowsMembers (Tree.sourceMembers ms) members) :
    l.readMembers depth draft members (.closed rest) = .ok final := by
  induction h generalizing members with
  | done h =>
    cases hs with
    | nil => exact readMembers_nil_eq_ok_iff.2 ⟨h, rfl⟩
  | field hfind hnew hread hrest ih =>
    cases hs with
    | cons hkey ht hs =>
      have hmember := hread _ ht
      simp only [Layout.readMembers, readMember, eq_ok_of_toOption hkey, bind, Except.bind, hfind,
        hnew, hmember, Bool.false_eq_true, if_false]
      exact ih hs

theorem Fills.recovers {final : σ} {ms : Members} (h : l.Fills depth l.blank ms final) :
    Recovers l.read (depth + 1) (.object ms) final := by
  intro node hshows
  cases hshows with
  | object hs => exact h.readMembers hs

end Layout

/-! ## Sources that are read -/

/-- Some node of the source is read as the value. -/
def Gives {α : Type} (read : Reader α) (depth : Nat) (t : Source) (x : α) : Prop :=
  ∃ node, Shows t node ∧ read depth node = .ok x

section Gives

variable {α β : Type} {read : Reader α} {depth : Nat} {t : Source}

theorem Gives.string {expected s : String} (h : Gives (readStringAs expected) depth t s) :
    t = .string (some s) := by
  obtain ⟨node, hshows, hread⟩ := h
  cases hshows with
  | @string value _ _ _ hvalue =>
    cases value with
    | error fault => cases hread
    | ok s' =>
      cases hread
      cases hvalue
      rfl
  | null | bool | number | list | object => cases hread

theorem Gives.bool {b : Bool} (h : Gives readBool depth t b) : t = .bool b := by
  obtain ⟨node, hshows, hread⟩ := h
  cases hshows with
  | bool =>
    cases hread
    rfl
  | @string value => cases value with | error fault | ok s => cases hread
  | null | number | list | object => cases hread

theorem Gives.tree {v : Tree} (h : Gives readTree depth t v) : ReadAs depth t v := by
  obtain ⟨node, hshows, hread⟩ := h
  exact readAs_of_readTree t hshows hread

theorem Gives.map {f : α → β} {y : β}
    (h : Gives (fun depth node => (read depth node).map f) depth t y) :
    ∃ x, Gives read depth t x ∧ f x = y := by
  obtain ⟨node, hshows, hread⟩ := h
  obtain ⟨x, hx, hy⟩ := map_eq_ok_iff.1 hread
  exact ⟨x, ⟨node, hshows, hx⟩, hy⟩

theorem gives_of_readItems {ts : List Source} {nodes : List Node} {xs : List α}
    {rest : List UInt8} (h : ShowsItems ts nodes)
    (hread : readItems (read depth) nodes (.closed rest) = .ok xs) :
    List.Forall₂ (Gives read depth) ts xs := by
  induction nodes generalizing ts xs with
  | nil =>
    cases h
    cases hread
    exact .nil
  | cons node nodes ih =>
    cases h with
    | cons ht hs =>
      obtain ⟨x, hx, hread⟩ := bind_eq_ok_iff.1 hread
      obtain ⟨xs, hxs, hread⟩ := bind_eq_ok_iff.1 hread
      cases hread
      exact .cons ⟨node, ht, hx⟩ (ih hs hxs)

theorem Gives.list {xs : List α} (h : Gives (readList read) depth t xs) :
    ∃ inner ts, depth = inner + 1 ∧ t = .list ts ∧ List.Forall₂ (Gives read inner) ts xs := by
  obtain ⟨node, hshows, hread⟩ := h
  cases hshows with
  | @list ts nodes start rest hs =>
    cases depth with
    | zero => cases hread
    | succ inner => exact ⟨inner, ts, rfl, rfl, gives_of_readItems hs hread⟩
  | @string value => cases value with | error fault | ok s => cases hread
  | null | bool | number | object => cases hread

end Gives

/-- A field holds what its member says, or the default if there is no such member. -/
def Carried {α : Type} (r : Source → α → Prop) (default : α) (member : Option Source) (value : α) :
    Prop :=
  match member with
  | some t => r t value
  | none => value = default

theorem Carried.map {α β : Type} {r : Source → α → Prop} {q : Source → β → Prop} {default value : α}
    {member : Option Source} (h : Carried r default member value) (f : α → β)
    (hq : ∀ t, member = some t → r t value → q t (f value)) :
    Carried q (f default) member (f value) := by
  cases member with
  | none => exact congrArg f h
  | some t => exact hq t rfl h

/-- What is true of the default, and of whatever a member says, is true of the value of a field. -/
theorem Carried.elim {α : Type} {r : Source → α → Prop} {default value : α}
    {member : Option Source} {p : α → Prop} (h : Carried r default member value) (hdefault : p default)
    (hp : ∀ t, member = some t → r t value → p value) : p value := by
  cases member with
  | none =>
    rw [show value = default from h]
    exact hdefault
  | some t => exact hp t rfl h

/-- Reading the field leaves this part of a record as it is. -/
def Field.Keeps {σ α : Type} (f : Field σ) (get? : σ → Option α) : Prop :=
  ∀ depth node draft draft', f.read depth node draft = .ok draft' → get? draft' = get? draft

@[simp]
theorem Field.name_of {σ α : Type} {name : String} {required : Bool} {get? : σ → Option α}
    {set : α → σ → σ} {read : Reader α} : (Field.of name required get? set read).name = name := rfl

@[simp]
theorem Field.keeps_of {σ α β : Type} {name : String} {required : Bool} {get? : σ → Option β}
    {set : β → σ → σ} {read : Reader β} {other? : σ → Option α}
    (h : ∀ v draft, other? (set v draft) = other? draft) :
    (Field.of name required get? set read).Keeps other? := by
  intro depth node draft draft' hread
  obtain ⟨v, -, rfl⟩ := map_eq_ok_iff.1 hread
  exact h v draft

namespace Layout

variable {σ α : Type} {l : Layout σ} {depth : Nat}

/-- The record has a field of this name, of which no other field knows. -/
structure Slot (l : Layout σ) (name : String) (required : Bool) (get? : σ → Option α)
    (read : Reader α) : Prop where
  field : ∃ set, l.fields.find? (·.name == name) = some (.of name required get? set read) ∧
    ∀ v draft, get? (set v draft) = some v
  others : ∀ f ∈ l.fields, f.name = name ∨ f.Keeps get?
  blank : get? l.blank = none

theorem isSet_of_readMembers {draft final : σ} {members : List (Key × Node)} {rest : List UInt8}
    (h : l.readMembers depth draft members (.closed rest) = .ok final) :
    ∀ f ∈ l.fields, f.required = true → f.isSet final = true := by
  induction members generalizing draft with
  | nil =>
    obtain ⟨hset, rfl⟩ := readMembers_nil_eq_ok_iff.1 h
    exact hset
  | cons m members ih =>
    obtain ⟨draft', -, hrest⟩ := bind_eq_ok_iff.1 h
    exact ih hrest

namespace Slot

variable {name : String} {required : Bool} {get? : σ → Option α} {read : Reader α}

/-- What a member does to a slot: if it has another name, nothing; if it has this name, it fills the
slot, which had to be empty. -/
theorem readMember (h : l.Slot name required get? read) {draft draft' : σ} {key : Key} {node : Node}
    {name' : Option String} {t : Source} (hkey : key.text.toOption = name') (ht : Shows t node)
    (hread : l.readMember depth draft key node = .ok draft') :
    name' ≠ some name ∧ get? draft' = get? draft ∨
      name' = some name ∧ get? draft = none ∧ ∃ v, get? draft' = some v ∧ Gives read depth t v := by
  obtain ⟨key', hname, hread⟩ := bind_eq_ok_iff.1 hread
  rw [hname] at hkey
  subst hkey
  -- The name is that of the slot, or that of another field, or of none.
  by_cases hsame : key' = name
  · subst hsame
    obtain ⟨set, hfind, hset⟩ := h.field
    refine .inr ⟨rfl, ?_⟩
    simp only [hfind] at hread
    cases hold : get? draft with
    | some v =>
      simp [Field.of, hold, bind, Except.bind, throw, throwThe, MonadExceptOf.throw] at hread
    | none =>
      have hnew : (Field.of key' required get? set read).isSet draft = false := by
        simp [Field.of, hold]
      rw [hnew] at hread
      obtain ⟨v, hv, rfl⟩ := map_eq_ok_iff.1 hread
      exact ⟨rfl, v, hset v draft, node, ht, hv⟩
  · refine .inl ⟨fun hnames => hsame (Option.some.inj hnames), ?_⟩
    cases hfind : l.fields.find? (·.name == key') with
    | none =>
      simp only [hfind] at hread
      obtain ⟨-, -, hread⟩ := bind_eq_ok_iff.1 hread
      cases hread
      rfl
    | some f =>
      have hmem : f ∈ l.fields := List.mem_of_find?_eq_some hfind
      have hfname : f.name = key' := by simpa using List.find?_some hfind
      have hkeeps := (h.others f hmem).resolve_left (hfname ▸ hsame)
      simp only [hfind] at hread
      by_cases hset : f.isSet draft = true
      · rw [if_pos hset] at hread
        cases hread
      · rw [if_neg hset] at hread
        exact hkeeps depth node draft draft' hread

/-- After all members a slot is as it was, or it has been filled by the member of its name. -/
theorem readMembers (h : l.Slot name required get? read) {draft final : σ} {ms : SourceMembers}
    {members : List (Key × Node)} {rest : List UInt8} (hs : ShowsMembers ms members)
    (hread : l.readMembers depth draft members (.closed rest) = .ok final) :
    SourceMembers.get? name ms = none ∧ get? final = get? draft ∨
      get? draft = none ∧ ∃ t v, SourceMembers.get? name ms = some t ∧ get? final = some v ∧
        Gives read depth t v := by
  induction members generalizing draft ms with
  | nil =>
    cases hs
    obtain ⟨-, rfl⟩ := readMembers_nil_eq_ok_iff.1 hread
    exact .inl ⟨rfl, rfl⟩
  | cons m members ih =>
    obtain ⟨draft', hmember, hrest⟩ := bind_eq_ok_iff.1 hread
    cases hs with
    | @cons name' t key node ms members hkey ht hs =>
      rw [SourceMembers.get?]
      rcases h.readMember hkey ht hmember with ⟨hname, hkept⟩ | ⟨hname, hempty, v, hv, hgives⟩
      · rw [if_neg hname, Option.or_none, ← hkept]
        exact ih hs hrest
      · -- The slot is full now, so no further member has the name.
        rcases ih hs hrest with ⟨hnone, hfinal⟩ | ⟨hnone, -⟩
        · rw [hnone, if_pos hname, hfinal]
          exact .inr ⟨hempty, t, v, rfl, hv, hgives⟩
        · rw [hv] at hnone
          cases hnone

theorem carried (h : l.Slot name required get? read) {ms : SourceMembers} {final : σ}
    (hfinal : Gives l.read (depth + 1) (.object ms) final) (default : α) :
    Carried (Gives read depth) default (SourceMembers.get? name ms)
      ((get? final).getD default) := by
  obtain ⟨node, hshows, hread⟩ := hfinal
  cases hshows with
  | object hs =>
    rcases h.readMembers hs hread with ⟨hnone, hkept⟩ | ⟨-, t, v, ht, hv, hgives⟩
    · rw [hnone, hkept, h.blank]
      rfl
    · rw [ht, hv]
      exact hgives

/-- A record that was read has the member of a field that it cannot do without. -/
theorem given (h : l.Slot name true get? read) {ms : SourceMembers} {final : σ}
    (hfinal : Gives l.read (depth + 1) (.object ms) final) (default : α) :
    ∃ t, SourceMembers.get? name ms = some t ∧ Gives read depth t ((get? final).getD default) := by
  obtain ⟨node, hshows, hread⟩ := hfinal
  cases hshows with
  | object hs =>
    obtain ⟨set, hfind, -⟩ := h.field
    have hset : (get? final).isSome = true :=
      isSet_of_readMembers hread _ (List.mem_of_find?_eq_some hfind) rfl
    rcases h.readMembers hs hread with ⟨hnone, hkept⟩ | ⟨-, t, v, ht, hv, hgives⟩
    · rw [hkept, h.blank] at hset
      cases hset
    · exact ⟨t, ht, by rw [hv]; exact hgives⟩

end Slot

theorem exists_of_gives {t : Source} {final : σ} (hobject : ∃ ms, t = .object ms)
    (h : Gives l.read depth t final) :
    ∃ inner ms, depth = inner + 1 ∧ t = .object ms ∧
      Gives l.read (inner + 1) (.object ms) final := by
  obtain ⟨ms, rfl⟩ := hobject
  obtain ⟨node, hshows, hread⟩ := h
  cases depth with
  | zero =>
    cases hshows
    cases hread
  | succ inner => exact ⟨inner, ms, rfl, rfl, node, hshows, hread⟩

end Layout

end RemoteRollout.Json
