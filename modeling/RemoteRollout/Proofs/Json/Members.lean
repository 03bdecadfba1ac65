import Mathlib.Tactic.SplitIfs
import RemoteRollout.Proofs.Json.Literals
import RemoteRollout.Proofs.Precedence

/-!
# Members in order

The keys of a canonical object ascend in the order of their bytes: that of characters and that of
their `UTF-8` are one. `Members.insert` keeps the keys in order and each of them once, so that members
which are inserted one after the other become the canonical ones (`Tree.canonical`).
-/

namespace RemoteRollout.Json

open Text.Utf8 (encode encodeChar)

/-! ## Keys -/

instance : Std.OrientedCmp keyOrder where
  eq_swap := Std.OrientedOrd.eq_swap

instance : Std.TransCmp keyOrder where
  isLE_trans := Std.TransOrd.isLE_trans

instance : Std.LawfulEqCmp keyOrder where
  compare_self := Std.ReflOrd.compare_self
  eq_of_compare h := String.toList_injective (Std.LawfulEqOrd.eq_of_compare h)

/-- A key comes before another in the order of their bytes. -/
def KeyBefore (a b : String) : Prop := encode a.toList < encode b.toList

/-- Of two characters the one with the lower code has the lower bytes. -/
theorem encodeChar_append_lt {c d : Char} (h : c.toNat < d.toNat) (bs ds : List UInt8) :
    encodeChar c ++ bs < encodeChar d ++ ds := by
  have hv : d.toNat < 0xD800 ∨ 0xDFFF < d.toNat ∧ d.toNat < 0x110000 := d.valid
  unfold encodeChar
  dsimp only
  generalize c.toNat = n at *
  generalize d.toNat = m at *
  -- A longer sequence begins with a greater byte, and sequences of one length are digits to base 64.
  split_ifs
  all_goals
    simp (disch := omega) only [List.cons_append, List.nil_append, List.cons_lt_cons_iff,
      UInt8.lt_iff_toNat_lt, ← UInt8.toNat_inj, UInt8.toNat_ofNat', Nat.mod_eq_of_lt]
    omega

theorem encode_lt_of_compare {as bs : List Char} (h : List.compareLex compare as bs = .lt) :
    encode as < encode bs := by
  induction as generalizing bs with
  | nil =>
    cases bs with
    | nil => cases h
    | cons b bs =>
      rw [encode_cons]
      cases hbytes : encodeChar b with
      | nil => exact absurd hbytes (encodeChar_ne_nil b)
      | cons d ds => exact List.nil_lt_cons d _
  | cons a as ih =>
    cases bs with
    | nil => cases h
    | cons b bs =>
      rw [List.compareLex_cons_cons, Ordering.then_eq_lt, Std.LawfulEqCmp.compare_eq_iff_eq] at h
      rw [encode_cons, encode_cons]
      rcases h with hfirst | ⟨rfl, hrest⟩
      · exact encodeChar_append_lt ((compare_char_eq_lt_iff a b).1 hfirst) _ _
      · exact List.append_left_lt (ih hrest)

/-- The order of keys is that of their bytes. -/
theorem keyOrder_eq_lt_iff (a b : String) : keyOrder a b = .lt ↔ KeyBefore a b := by
  constructor
  · exact encode_lt_of_compare
  · intro h
    cases horder : keyOrder a b with
    | lt => rfl
    | eq =>
      rw [Std.LawfulEqCmp.eq_of_compare horder] at h
      exact absurd h (List.lt_irrefl _)
    | gt =>
      have hswap : KeyBefore b a := encode_lt_of_compare (Std.OrientedCmp.lt_of_gt horder)
      exact absurd hswap (List.lt_asymm h)

/-! ## Insertion -/

namespace Members

variable {key : String} {value : Tree} {ms : Members}

theorem forall_mem_insert {p : String × Tree → Prop} (hms : ∀ m ∈ ms, p m) (hnew : p (key, value)) :
    ∀ m ∈ ms.insert key value, p m := by
  induction ms with
  | nil => simpa [insert] using hnew
  | cons m rest ih =>
    obtain ⟨hm, hrest⟩ := List.forall_mem_cons.1 hms
    rw [insert]
    cases keyOrder key m.1 with
    | lt => exact List.forall_mem_cons.2 ⟨hnew, hms⟩
    | eq => exact List.forall_mem_cons.2 ⟨hnew, hrest⟩
    | gt => exact List.forall_mem_cons.2 ⟨hm, ih hrest⟩

theorem Ascending.insert (h : ms.Ascending) : (ms.insert key value).Ascending := by
  induction ms with
  | nil => exact List.pairwise_singleton _ _
  | cons m rest ih =>
    obtain ⟨hfirst, hrest⟩ := List.pairwise_cons.1 h
    rw [Members.insert]
    cases horder : keyOrder key m.1 with
    | lt =>
      refine List.pairwise_cons.2 ⟨List.forall_mem_cons.2 ⟨horder, fun n hn => ?_⟩, h⟩
      exact Std.TransCmp.lt_trans horder (hfirst n hn)
    | eq =>
      rw [Std.LawfulEqCmp.eq_of_compare horder]
      exact List.pairwise_cons.2 ⟨hfirst, hrest⟩
    | gt =>
      exact List.pairwise_cons.2
        ⟨forall_mem_insert hfirst (Std.OrientedCmp.lt_of_gt horder), ih hrest⟩

/-- After an insertion there are the new member and those under other keys. -/
theorem mem_insert (h : ms.Ascending) (key : String) (value : Tree) (m : String × Tree) :
    m ∈ ms.insert key value ↔ m = (key, value) ∨ m ∈ ms ∧ m.1 ≠ key := by
  -- The order is needed: behind the place of the key there is no other member with it.
  induction ms with
  | nil => simp [insert]
  | cons n rest ih =>
    obtain ⟨hfirst, hrest⟩ := List.pairwise_cons.1 h
    have hne : ∀ {a b : String}, keyOrder a b = .lt → b ≠ a := by
      rintro a b hab rfl
      have hself : keyOrder b b = .eq := Std.ReflCmp.compare_self
      rw [hself] at hab
      cases hab
    rw [insert]
    cases horder : keyOrder key n.1 with
    | lt =>
      have hkeys : ∀ m ∈ n :: rest, m.1 ≠ key :=
        List.forall_mem_cons.2 ⟨hne horder, fun m hm =>
          hne (Std.TransCmp.lt_trans horder (hfirst m hm))⟩
      rw [List.mem_cons]
      exact or_congr_right ⟨fun hm => ⟨hm, hkeys m hm⟩, And.left⟩
    | eq =>
      have hkey : key = n.1 := Std.LawfulEqCmp.eq_of_compare horder
      have hkeys : ∀ m ∈ rest, m.1 ≠ key := fun m hm => hkey ▸ hne (hfirst m hm)
      rw [List.mem_cons, List.mem_cons]
      refine or_congr_right ⟨fun hm => ⟨.inr hm, hkeys m hm⟩, ?_⟩
      rintro ⟨rfl | hm, hm'⟩
      · exact absurd hkey.symm hm'
      · exact hm
    | gt =>
      have hn : n.1 ≠ key := (hne (Std.OrientedCmp.lt_of_gt horder)).symm
      rw [List.mem_cons, ih hrest, List.mem_cons]
      constructor
      · rintro (rfl | rfl | ⟨hm, hm'⟩)
        · exact .inr ⟨.inl rfl, hn⟩
        · exact .inl rfl
        · exact .inr ⟨.inr hm, hm'⟩
      · rintro (rfl | ⟨rfl | hm, hm'⟩)
        · exact .inr (.inl rfl)
        · exact .inl rfl
        · exact .inr (.inr ⟨hm, hm'⟩)

theorem mem_keys_insert (h : ms.Ascending) (key : String) (value : Tree) (k : String) :
    k ∈ (ms.insert key value).map Prod.fst ↔ k = key ∨ k ∈ ms.map Prod.fst := by
  simp only [List.mem_map, mem_insert h]
  constructor
  · rintro ⟨m, rfl | ⟨hm, -⟩, rfl⟩
    · exact .inl rfl
    · exact .inr ⟨m, hm, rfl⟩
  · intro hk
    by_cases hkey : k = key
    · exact ⟨(key, value), .inl rfl, hkey.symm⟩
    · obtain ⟨m, hm, rfl⟩ := hk.resolve_left hkey
      exact ⟨m, .inr ⟨hm, hkey⟩, rfl⟩

/-- A member with the greatest key comes last. -/
theorem insert_eq_append (h : ∀ m ∈ ms, keyOrder m.1 key = .lt) :
    ms.insert key value = ms ++ [(key, value)] := by
  induction ms with
  | nil => rfl
  | cons m rest ih =>
    obtain ⟨hm, hrest⟩ := List.forall_mem_cons.1 h
    rw [insert, Std.OrientedCmp.gt_of_lt hm]
    exact congrArg (m :: ·) (ih hrest)

/-- Members in order are inserted as they are. -/
theorem foldl_insert_eq_append {before : Members} (h : Ascending (before ++ ms)) :
    ms.foldl (fun acc m => acc.insert m.1 m.2) before = before ++ ms := by
  induction ms generalizing before with
  | nil => rw [List.foldl_nil, List.append_nil]
  | cons m rest ih =>
    have hlast : ∀ n ∈ before, keyOrder n.1 m.1 = .lt := fun n hn =>
      (List.pairwise_append.1 h).2.2 n hn m List.mem_cons_self
    have hsplit : before ++ m :: rest = before ++ [m] ++ rest := by simp
    rw [hsplit] at h ⊢
    rw [List.foldl_cons, insert_eq_append hlast, ih h]

theorem Ascending.canonical_eq (h : ms.Ascending) : ms.canonical = ms :=
  foldl_insert_eq_append (show Ascending ([] ++ ms) from h)

end Members

/-! ## Canonical trees -/

mutual

/-- The tree with the members of all its objects in canonical form. -/
def Tree.canonical : Tree → Tree
  | .null => .null
  | .bool b => .bool b
  | .number n => .number n
  | .string s => .string s
  | .list ts => .list (Tree.canonicals ts)
  | .object ms => .object (Members.canonical (Tree.canonicalMembers ms))

/-- The items of a list in canonical form. -/
def Tree.canonicals : List Tree → List Tree
  | [] => []
  | t :: ts => t.canonical :: Tree.canonicals ts

/-- The members of an object, with their values in canonical form. -/
def Tree.canonicalMembers : Members → Members
  | [] => []
  | (k, t) :: ms => (k, t.canonical) :: Tree.canonicalMembers ms

end

@[simp]
theorem Tree.canonical_bool_eq (b : Bool) : (bool b).canonical = .bool b := rfl

@[simp]
theorem Tree.canonical_string_eq (s : String) : (string s).canonical = .string s := rfl

@[simp]
theorem Tree.canonical_list_eq (ts : List Tree) : (list ts).canonical = .list (ts.map canonical) := by
  have hmap : ∀ ts, Tree.canonicals ts = ts.map canonical := by
    intro ts
    induction ts with
    | nil => rfl
    | cons t ts ih => rw [canonicals, ih, List.map_cons]
  rw [canonical, hmap]

theorem Tree.canonical_object_eq (ms : Members) :
    (object ms).canonical = .object (Members.canonical (ms.map fun m => (m.1, m.2.canonical))) := by
  have hmap : ∀ ms, Tree.canonicalMembers ms = ms.map fun m => (m.1, m.2.canonical) := by
    intro ms
    induction ms with
    | nil => rfl
    | cons m ms ih => rw [canonicalMembers, ih, List.map_cons]
  rw [canonical, hmap]

mutual

theorem Tree.Canonical.canonical_eq {t : Tree} (h : t.Canonical) : t.canonical = t := by
  cases h with
  | null => rfl
  | bool b => rfl
  | number n => rfl
  | string s => rfl
  | @list ts h => rw [Tree.canonical, Tree.canonicals_of_canonical h]
  | @object ms hkeys h =>
    rw [Tree.canonical, Tree.canonicalMembers_of_canonical h, hkeys.canonical_eq]

theorem Tree.canonicals_of_canonical {ts : List Tree} (h : ∀ t ∈ ts, t.Canonical) :
    Tree.canonicals ts = ts := by
  cases ts with
  | nil => rfl
  | cons t ts =>
    obtain ⟨ht, hts⟩ := List.forall_mem_cons.1 h
    rw [Tree.canonicals, ht.canonical_eq, Tree.canonicals_of_canonical hts]

theorem Tree.canonicalMembers_of_canonical {ms : Members} (h : ∀ m ∈ ms, m.2.Canonical) :
    Tree.canonicalMembers ms = ms := by
  cases ms with
  | nil => rfl
  | cons m ms =>
    obtain ⟨hm, hms⟩ := List.forall_mem_cons.1 h
    rw [Tree.canonicalMembers, hm.canonical_eq, Tree.canonicalMembers_of_canonical hms]

end

end RemoteRollout.Json
