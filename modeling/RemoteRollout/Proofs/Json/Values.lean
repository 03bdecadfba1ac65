import Mathlib.Data.List.Forall2
import RemoteRollout.Json.Decode
import RemoteRollout.Proofs.Json.Members
import RemoteRollout.Proofs.Json.Scanning

/-!
# Reading any value

`SameValue` says what it means that a tree is the value of a source: lists item by item, and an object
with the last member of each name, under keys that ascend by their bytes. Whatever `readTree` answers
is the value of what it was given (`readAs_of_readTree`), and a tree that was written comes back in
canonical form (`readTree_source`).
-/

namespace RemoteRollout.Json

/-! ## Members by name -/

namespace SourceMembers

variable {ms : SourceMembers} {name : String}

theorem get?_append_singleton (m : Option String × Source) :
    get? name (ms ++ [m]) = if m.1 = some name then some m.2 else get? name ms := by
  induction ms with
  | nil => simp [get?]
  | cons n ms ih =>
    rw [List.cons_append, get?, get?, ih]
    split
    · rfl
    · rfl

theorem exists_get? (h : some name ∈ ms.map Prod.fst) : ∃ t, get? name ms = some t := by
  induction ms with
  | nil => cases h
  | cons m ms ih =>
    rw [get?]
    rcases List.mem_cons.1 h with hm | hms
    · cases hrest : get? name ms with
      | none => exact ⟨m.2, by rw [if_pos hm.symm]; rfl⟩
      | some t => exact ⟨t, rfl⟩
    · obtain ⟨t, ht⟩ := ih hms
      exact ⟨t, by rw [ht]; rfl⟩

theorem mem_of_get? {t : Source} (h : get? name ms = some t) : (some name, t) ∈ ms := by
  induction ms with
  | nil => cases h
  | cons m ms ih =>
    rw [get?] at h
    cases hrest : get? name ms with
    | some u =>
      rw [hrest] at h
      cases h
      exact List.mem_cons_of_mem _ (ih hrest)
    | none =>
      rw [hrest, Option.none_or] at h
      split at h
      next hname =>
        cases h
        rw [← hname]
        exact List.mem_cons_self
      next => cases h

end SourceMembers

/-! ## Values -/

/-- The members of an object have the names that occur in a source, and their keys ascend by their
bytes. -/
structure SameKeys (ms : SourceMembers) (vs : Members) : Prop where
  ascending : vs.Pairwise fun m n => KeyBefore m.1 n.1
  names : ∀ key, key ∈ ms.map Prod.fst ↔ ∃ name ∈ vs.map Prod.fst, key = some name

/-- The tree is the value of the source. Of members with one name it is the last that counts. -/
inductive SameValue : Source → Tree → Prop where
  | null : SameValue .null .null
  | bool (b : Bool) : SameValue (.bool b) (.bool b)
  | number (n : Number) : SameValue (.number n) (.number n)
  | string (s : String) : SameValue (.string (some s)) (.string s)
  | list {ts : List Source} {vs : List Tree} (h : List.Forall₂ SameValue ts vs) :
      SameValue (.list ts) (.list vs)
  | object {ms : SourceMembers} {vs : Members} (hkeys : SameKeys ms vs)
      (h : ∀ m ∈ vs, ∀ t, SourceMembers.get? m.1 ms = some t → SameValue t m.2) :
      SameValue (.object ms) (.object vs)

namespace SameKeys

variable {ms : SourceMembers} {vs : Members}

theorem nil : SameKeys [] [] := ⟨.nil, by simp⟩

theorem members_ascending (h : SameKeys ms vs) : vs.Ascending :=
  h.ascending.imp fun hmn => (keyOrder_eq_lt_iff _ _).2 hmn

theorem exists_get? (h : SameKeys ms vs) {m : String × Tree} (hm : m ∈ vs) :
    ∃ t, SourceMembers.get? m.1 ms = some t :=
  SourceMembers.exists_get? ((h.names _).2 ⟨m.1, List.mem_map_of_mem hm, rfl⟩)

theorem insert (h : SameKeys ms vs) (name : String) (t : Source) (v : Tree) :
    SameKeys (ms ++ [(some name, t)]) (vs.insert name v) where
  ascending := h.members_ascending.insert.imp fun hmn => (keyOrder_eq_lt_iff _ _).1 hmn
  names key := by
    have hkeys := Members.mem_keys_insert h.members_ascending name v
    rw [List.map_append, List.mem_append, h.names]
    constructor
    · rintro (⟨k, hk, rfl⟩ | hkey)
      · exact ⟨k, (hkeys k).2 (.inr hk), rfl⟩
      · exact ⟨name, (hkeys name).2 (.inl rfl), List.mem_singleton.1 hkey⟩
    · rintro ⟨k, hk, rfl⟩
      rcases (hkeys k).1 hk with rfl | hk
      · exact .inr (List.mem_singleton.2 rfl)
      · exact .inl ⟨k, hk, rfl⟩

end SameKeys

/-! ## From the text to the tree -/

theorem map_eq_ok_iff {ε α β : Type} {x : Except ε α} {f : α → β} {b : β} :
    x.map f = .ok b ↔ ∃ a, x = .ok a ∧ f a = b := by
  cases x with
  | error e => simp [Except.map]
  | ok a => simp [Except.map]

theorem eq_ok_of_toOption {ε α : Type} {x : Except ε α} {a : α} (h : x.toOption = some a) :
    x = .ok a := by
  cases x with
  | error e => cases h
  | ok b => exact congrArg Except.ok (Option.some.inj h)

theorem forall_of_forall₂ {α β : Type} {r : α → β → Prop} {p : β → Prop} {as : List α}
    {bs : List β} (h : List.Forall₂ r as bs) (hr : ∀ a b, r a b → p b) : ∀ b ∈ bs, p b := by
  induction h with
  | nil => simp
  | cons hab _ ih => exact List.forall_mem_cons.2 ⟨hr _ _ hab, ih⟩

/-- What it means that a tree was read from a source, with so many levels left. -/
structure ReadAs (depth : Nat) (t : Source) (v : Tree) : Prop where
  same : SameValue t v
  canonical : v.Canonical
  fit : v.NumbersFit
  nests : v.NestsWithin depth

/-- The members read so far are those of a source. -/
structure ReadMembersAs (depth : Nat) (ms : SourceMembers) (vs : Members) : Prop where
  keys : SameKeys ms vs
  values : ∀ m ∈ vs, ∀ t, SourceMembers.get? m.1 ms = some t → ReadAs depth t m.2

variable {depth : Nat}

theorem readAs_list {ts : List Source} {vs : List Tree} (h : List.Forall₂ (ReadAs depth) ts vs) :
    ReadAs (depth + 1) (.list ts) (.list vs) := by
  constructor
  case same => exact .list (h.imp fun _ _ htv => htv.same)
  case canonical => exact .list (forall_of_forall₂ h fun _ _ htv => htv.canonical)
  case fit => exact .list (forall_of_forall₂ h fun _ _ htv => htv.fit)
  case nests => exact .list (forall_of_forall₂ h fun _ _ htv => htv.nests)

theorem readAs_object {ms : SourceMembers} {vs : Members} (h : ReadMembersAs depth ms vs) :
    ReadAs (depth + 1) (.object ms) (.object vs) := by
  have hmem : ∀ m ∈ vs, ∃ t, ReadAs depth t m.2 := by
    intro m hm
    obtain ⟨t, ht⟩ := h.keys.exists_get? hm
    exact ⟨t, h.values m hm t ht⟩
  constructor
  case same => exact .object h.keys fun m hm t ht => (h.values m hm t ht).same
  case canonical =>
    exact .object h.keys.members_ascending fun m hm =>
      (hmem m hm).elim fun _ hread => hread.canonical
  case fit => exact .object fun m hm => (hmem m hm).elim fun _ hread => hread.fit
  case nests => exact .object fun m hm => (hmem m hm).elim fun _ hread => hread.nests

/-- A further member takes the place of an earlier one of its name. -/
theorem ReadMembersAs.insert {ms : SourceMembers} {vs : Members} (h : ReadMembersAs depth ms vs)
    (name : String) {t : Source} {v : Tree} (ht : ReadAs depth t v) :
    ReadMembersAs depth (ms ++ [(some name, t)]) (vs.insert name v) where
  keys := h.keys.insert name t v
  values m hm u hu := by
    rw [SourceMembers.get?_append_singleton] at hu
    rcases (Members.mem_insert h.keys.members_ascending name v m).1 hm with rfl | ⟨hm, hne⟩
    · rw [if_pos rfl] at hu
      cases hu
      exact ht
    · rw [if_neg (by simpa using hne.symm)] at hu
      exact h.values m hm u hu

mutual

/-- What `readTree` answers is the value of what it was given. -/
theorem readAs_of_readTree (t : Source) {depth : Nat} {node : Node} {v : Tree} (h : Shows t node)
    (hread : readTree depth node = .ok v) : ReadAs depth t v := by
  cases t with
  | null =>
    cases h with
    | null =>
      cases hread
      exact ⟨.null, .null, .null, .null⟩
  | bool b =>
    cases h with
    | bool =>
      cases hread
      exact ⟨.bool b, .bool b, .bool b, .bool b⟩
  | number n =>
    cases h with
    | number hn =>
      cases hread
      exact ⟨.number n, .number n, .number hn, .number n⟩
  | string s =>
    cases h with
    | @string value _ _ _ hvalue =>
      cases value with
      | error fault => cases hread
      | ok s' =>
        cases hread
        cases hvalue
        exact ⟨.string s', .string s', .string s', .string s'⟩
  | list ts =>
    cases h with
    | list hs =>
      cases depth with
      | zero => cases hread
      | succ depth =>
        obtain ⟨vs, hvs, rfl⟩ := map_eq_ok_iff.1 hread
        exact readAs_list (readAs_of_readTrees ts hs hvs)
  | object ms =>
    cases h with
    | object hs =>
      cases depth with
      | zero => cases hread
      | succ depth =>
        obtain ⟨vs, hvs, rfl⟩ := map_eq_ok_iff.1 hread
        have hempty : ReadMembersAs depth [] [] := ⟨.nil, by simp⟩
        exact readAs_object (readMembersAs_of_readMembers ms hempty hs hvs)

theorem readAs_of_readTrees (ts : List Source) {depth : Nat} {nodes : List Node} {vs : List Tree}
    {rest : List UInt8} (h : ShowsItems ts nodes)
    (hread : readTrees depth nodes (.closed rest) = .ok vs) :
    List.Forall₂ (ReadAs depth) ts vs := by
  cases h with
  | nil =>
    cases hread
    exact .nil
  | cons ht hs =>
    obtain ⟨v, hv, hread⟩ := bind_eq_ok_iff.1 hread
    obtain ⟨vs, hvs, hread⟩ := bind_eq_ok_iff.1 hread
    cases hread
    exact .cons (readAs_of_readTree _ ht hv) (readAs_of_readTrees _ hs hvs)

theorem readMembersAs_of_readMembers (ms : SourceMembers) {depth : Nat} {seen : SourceMembers}
    {before after : Members} {members : List (Key × Node)} {rest : List UInt8}
    (hbefore : ReadMembersAs depth seen before) (h : ShowsMembers ms members)
    (hread : readMembers depth before members (.closed rest) = .ok after) :
    ReadMembersAs depth (seen ++ ms) after := by
  cases h with
  | nil =>
    cases hread
    rwa [List.append_nil]
  | @cons name t key node ms members hkey ht hs =>
    obtain ⟨name', hname, hread⟩ := bind_eq_ok_iff.1 hread
    obtain ⟨v, hv, hread⟩ := bind_eq_ok_iff.1 hread
    rw [hname] at hkey
    cases hkey
    -- The members that came before are those of the sources seen so far; this one joins them.
    have hstep := hbefore.insert name' (readAs_of_readTree t ht hv)
    have hall := readMembersAs_of_readMembers ms hstep hs hread
    rwa [List.append_assoc] at hall

end

/-! ## From the tree to the text and back -/

mutual

/-- A tree that was written is read in canonical form. -/
theorem readTree_source (t : Tree) {depth : Nat} {node : Node} (h : Shows t.source node)
    (hdepth : t.NestsWithin depth) : readTree depth node = .ok t.canonical := by
  cases t with
  | null => cases h with | null => rfl
  | bool b => cases h with | bool => rfl
  | number n => cases h with | number => rfl
  | string s =>
    cases h with
    | string hvalue =>
      rw [eq_ok_of_toOption hvalue]
      rfl
  | list ts =>
    cases h with
    | list hs =>
      cases hdepth with
      | list hdepth =>
        simp only [readTree, descend, readTrees_source ts hs hdepth]
        rfl
  | object ms =>
    cases h with
    | object hs =>
      cases hdepth with
      | object hdepth =>
        simp only [readTree, descend, readMembers_source ms hs hdepth]
        rfl

theorem readTrees_source (ts : List Tree) {depth : Nat} {nodes : List Node} {rest : List UInt8}
    (h : ShowsItems (Tree.sources ts) nodes) (hdepth : ∀ t ∈ ts, t.NestsWithin depth) :
    readTrees depth nodes (.closed rest) = .ok (Tree.canonicals ts) := by
  cases ts with
  | nil => cases h with | nil => rfl
  | cons t ts =>
    obtain ⟨hfirst, hothers⟩ := List.forall_mem_cons.1 hdepth
    cases h with
    | cons ht hs =>
      rw [readTrees, readTree_source t ht hfirst, readTrees_source ts hs hothers]
      rfl

theorem readMembers_source (ms : Members) {depth : Nat} {before : Members}
    {members : List (Key × Node)} {rest : List UInt8}
    (h : ShowsMembers (Tree.sourceMembers ms) members)
    (hdepth : ∀ m ∈ ms, m.2.NestsWithin depth) :
    readMembers depth before members (.closed rest) =
      .ok ((Tree.canonicalMembers ms).foldl (fun acc m => acc.insert m.1 m.2) before) := by
  cases ms with
  | nil => cases h with | nil => rfl
  | cons m ms =>
    obtain ⟨hfirst, hothers⟩ := List.forall_mem_cons.1 hdepth
    cases h with
    | cons hkey ht hs =>
      -- Reading inserts one member at a time, as the fold does.
      rw [readMembers, eq_ok_of_toOption hkey, readTree_source m.2 ht hfirst]
      exact readMembers_source ms hs hothers

end

end RemoteRollout.Json
