import RemoteRollout.Proofs.Json.Records

/-!
# Shapes

What a typed reader accepts. A `Shape` says which trees fit, and between which of them it makes no
difference: of the members of an object only those that are named for a field matter, and their order
does not (`Shape.alike_of_perm`). `Reads` says of a reader that it accepts exactly the trees that fit,
wherever they are written, and that it reads the same from trees that are alike.
-/

namespace RemoteRollout.Json

open Text.Utf8 (encode)

/-- What holds of one list holds of the other, item by item. -/
theorem forall_iff_of_forall₂ {α β : Type} {r : α → β → Prop} {p : α → Prop} {q : β → Prop}
    {as : List α} {bs : List β} (h : List.Forall₂ r as bs) (hr : ∀ a b, r a b → (p a ↔ q b)) :
    (∀ a ∈ as, p a) ↔ ∀ b ∈ bs, q b := by
  induction h with
  | nil => simp
  | cons hab _ ih => rw [List.forall_mem_cons, List.forall_mem_cons, hr _ _ hab, ih]

/-! ## Shapes -/

/-- A shape: the trees that fit it, and those between which it makes no difference. -/
structure Shape where
  Fits : Tree → Prop
  Alike : Tree → Tree → Prop
  refl : ∀ t, Alike t t
  fits_iff : ∀ {t t'}, Alike t t' → (Fits t ↔ Fits t')

/-- The values of the members with this name, in order. -/
def Members.named (name : String) (ms : Members) : List Tree :=
  ms.filterMap fun m => if m.1 = name then some m.2 else none

/-- A field of a record. -/
structure FieldShape where
  name : String
  required : Bool
  shape : Shape

/-- There is at most one value of the field, and it fits; a field that is required has one. -/
def FieldShape.Admits (f : FieldShape) : List Tree → Prop
  | [] => f.required = false
  | [t] => f.shape.Fits t
  | _ :: _ :: _ => False

namespace Shape

/-- Trees that fit if they have this property, all of them different. -/
def plain (p : Tree → Prop) : Shape where
  Fits := p
  Alike := Eq
  refl _ := rfl
  fits_iff h := by rw [h]

def string : Shape := plain fun t => ∃ s, t = .string s

def bool : Shape := plain fun t => ∃ b, t = .bool b

def any : Shape := plain fun _ => True

/-- Lists are alike if their items are. -/
def ListAlike (s : Shape) : Tree → Tree → Prop
  | .list ts, .list ts' => List.Forall₂ s.Alike ts ts'
  | t, t' => t = t'

/-- All items of a list fit. -/
def ListFits (s : Shape) : Tree → Prop
  | .list ts => ∀ t ∈ ts, s.Fits t
  | _ => False

/-- The items of a list fit the fields in order. Fields that are left over must not be required, and
no items may be left over. -/
def FitInOrder : List FieldShape → List Tree → Prop
  | [], ts => ts = []
  | f :: fs, [] => f.required = false ∧ FitInOrder fs []
  | f :: fs, t :: ts => f.shape.Fits t ∧ FitInOrder fs ts

/-- As many items, alike where they stand for a field. -/
def AlikeInOrder : List FieldShape → List Tree → List Tree → Prop
  | [], ts, ts' => ts.length = ts'.length
  | _ :: fs, [], [] => AlikeInOrder fs [] []
  | f :: fs, t :: ts, t' :: ts' => f.shape.Alike t t' ∧ AlikeInOrder fs ts ts'
  | _ :: _, _, _ => False

/-- The values are alike, in some order. -/
def SameValues (s : Shape) (ts ts' : List Tree) : Prop :=
  ∃ us, ts.Perm us ∧ List.Forall₂ s.Alike us ts'

/-- A record is an object with the fields as its members, whatever other members it has, or a list with
the fields as its items. -/
def RecordFits (fs : List FieldShape) : Tree → Prop
  | .object ms => ∀ f ∈ fs, f.Admits (Members.named f.name ms)
  | .list ts => FitInOrder fs ts
  | _ => False

/-- Objects are alike if they have the same values of each field, and lists if their items are alike. -/
def RecordAlike (fs : List FieldShape) : Tree → Tree → Prop
  | .object ms, .object ms' =>
    ∀ f ∈ fs, f.shape.SameValues (Members.named f.name ms) (Members.named f.name ms')
  | .list ts, .list ts' => AlikeInOrder fs ts ts'
  | t, t' => t = t'

variable {s : Shape} {f : FieldShape} {fs : List FieldShape} {ts ts' : List Tree}

theorem forall₂_alike_refl (s : Shape) (ts : List Tree) : List.Forall₂ s.Alike ts ts :=
  List.forall₂_same.2 fun t _ => s.refl t

theorem sameValues_of_perm (s : Shape) (h : ts.Perm ts') : s.SameValues ts ts' :=
  ⟨ts', h, s.forall₂_alike_refl ts'⟩

/-- Of as many values on both sides, single ones are alike. -/
theorem SameValues.cases (h : s.SameValues ts ts') :
    ts = [] ∧ ts' = [] ∨ (∃ t t', ts = [t] ∧ ts' = [t'] ∧ s.Alike t t') ∨
      2 ≤ ts.length ∧ 2 ≤ ts'.length := by
  obtain ⟨us, hperm, halike⟩ := h
  have hlength := hperm.length_eq.trans halike.length_eq
  match ts with
  | [] => exact .inl ⟨rfl, List.length_eq_zero_iff.1 hlength.symm⟩
  | [t] =>
    cases hperm.singleton_eq
    cases halike with
    | cons ht hnil =>
      cases hnil
      exact .inr (.inl ⟨t, _, rfl, rfl, ht⟩)
  | t :: u :: ts =>
    have htwo : 2 ≤ (t :: u :: ts).length := by simp
    exact .inr (.inr ⟨htwo, hlength ▸ htwo⟩)

theorem not_admits_of_two (h : 2 ≤ ts.length) : ¬ f.Admits ts := by
  match ts with
  | [] | [_] => simp at h
  | _ :: _ :: _ => exact id

theorem admits_iff (h : f.shape.SameValues ts ts') : f.Admits ts ↔ f.Admits ts' := by
  rcases h.cases with ⟨rfl, rfl⟩ | ⟨t, t', rfl, rfl, ht⟩ | ⟨htwo, htwo'⟩
  · exact Iff.rfl
  · exact f.shape.fits_iff ht
  · exact iff_of_false (not_admits_of_two htwo) (not_admits_of_two htwo')

theorem alikeInOrder_refl (fs : List FieldShape) (ts : List Tree) : AlikeInOrder fs ts ts := by
  induction fs generalizing ts with
  | nil => exact rfl
  | cons f fs ih =>
    cases ts with
    | nil => exact ih []
    | cons t ts => exact ⟨f.shape.refl t, ih ts⟩

theorem fitInOrder_iff (h : AlikeInOrder fs ts ts') : FitInOrder fs ts ↔ FitInOrder fs ts' := by
  induction fs generalizing ts ts' with
  | nil =>
    have hlength : ts.length = ts'.length := h
    rw [FitInOrder, FitInOrder, ← List.length_eq_zero_iff, hlength, List.length_eq_zero_iff]
  | cons f fs ih =>
    cases ts with
    | nil =>
      cases ts' with
      | nil => exact Iff.rfl
      | cons => exact h.elim
    | cons t ts =>
      cases ts' with
      | nil => exact h.elim
      | cons t' ts' => exact and_congr (f.shape.fits_iff h.1) (ih h.2)

/-- Lists whose items all have this shape. -/
def list (s : Shape) : Shape where
  Fits := s.ListFits
  Alike := s.ListAlike
  refl t := by
    cases t with
    | list ts => exact s.forall₂_alike_refl ts
    | _ => rfl
  fits_iff {t t'} h := by
    unfold ListAlike at h
    split at h
    · exact forall_iff_of_forall₂ h fun _ _ ht => s.fits_iff ht
    · rw [h]

/-- Records with these fields. -/
def record (fs : List FieldShape) : Shape where
  Fits := RecordFits fs
  Alike := RecordAlike fs
  refl t := by
    cases t with
    | object ms => exact fun f _ => f.shape.sameValues_of_perm (.refl _)
    | list ts => exact alikeInOrder_refl fs ts
    | _ => rfl
  fits_iff {t t'} h := by
    unfold RecordAlike at h
    split at h
    · exact forall₂_congr fun f hf => admits_iff (h f hf)
    · exact fitInOrder_iff h
    · rw [h]

/-- The order of the members does not matter. -/
theorem alike_of_perm (fs : List FieldShape) {ms ms' : Members} (h : ms.Perm ms') :
    (record fs).Alike (.object ms) (.object ms') :=
  fun f _ => f.shape.sameValues_of_perm (h.filterMap _)

end Shape

/-! ## Readers -/

/-- The node of a tree that does not nest too deep. -/
structure Appears (depth : Nat) (t : Tree) (node : Node) : Prop where
  shows : Shows t.source node
  nests : t.NestsWithin depth

/-- The reader accepts exactly the trees of this shape, and reads the same from trees that are alike. -/
structure Reads {α : Type} (read : Reader α) (s : Shape) : Prop where
  accepts : ∀ {depth t node}, Appears depth t node → ((∃ x, read depth node = .ok x) ↔ s.Fits t)
  agrees : ∀ {depth t t' node node'}, Appears depth t node → Appears depth t' node' →
    s.Alike t t' → (read depth node).toOption = (read depth node').toOption

section Results

variable {ε α β : Type} {x y : Except ε α}

theorem toOption_eq_iff : x.toOption = y.toOption ↔ ∀ a, x = .ok a ↔ y = .ok a := by
  constructor
  · intro h a
    constructor
    · intro hx
      rw [hx] at h
      exact eq_ok_of_toOption h.symm
    · intro hy
      rw [hy] at h
      exact eq_ok_of_toOption h
  · intro h
    cases x with
    | ok a => rw [(h a).1 rfl]
    | error e =>
      cases y with
      | ok a => cases (h a).2 rfl
      | error e' => rfl

/-- Results are the same if both or none are there, and there are no two of them. -/
theorem toOption_eq_of_unique (hexists : (∃ a, x = .ok a) ↔ ∃ a, y = .ok a)
    (hunique : ∀ a b, x = .ok a → y = .ok b → a = b) : x.toOption = y.toOption := by
  refine toOption_eq_iff.2 fun a => ⟨fun hx => ?_, fun hy => ?_⟩
  · obtain ⟨b, hy⟩ := hexists.1 ⟨a, hx⟩
    rw [hy, hunique a b hx hy]
  · obtain ⟨b, hx⟩ := hexists.2 ⟨a, hy⟩
    rw [hx, hunique b a hx hy]

theorem toOption_map_congr (f : α → β) (h : x.toOption = y.toOption) :
    (x.map f).toOption = (y.map f).toOption := by
  simp only [toOption_eq_iff, map_eq_ok_iff] at h ⊢
  exact fun b => exists_congr fun a => and_congr_left' (h a)

theorem toOption_bind_congr {f g : α → Except ε β} (h : x.toOption = y.toOption)
    (hfg : ∀ a, (f a).toOption = (g a).toOption) : (x >>= f).toOption = (y >>= g).toOption := by
  simp only [toOption_eq_iff, bind_eq_ok_iff] at h hfg ⊢
  exact fun b => exists_congr fun a => and_congr (h a) (hfg a b)

theorem not_exists_of_toOption (h : x.toOption = none) : ¬ ∃ a, x = .ok a := by
  rintro ⟨a, rfl⟩
  cases h

theorem exists_map_eq_ok_iff (f : α → β) : (∃ b, x.map f = .ok b) ↔ ∃ a, x = .ok a := by
  simp only [map_eq_ok_iff]
  exact ⟨fun ⟨_, a, ha, _⟩ => ⟨a, ha⟩, fun ⟨a, ha⟩ => ⟨f a, a, ha, rfl⟩⟩

theorem exists_bind_eq_ok_iff (f : α → Except ε β) :
    (∃ b, x >>= f = .ok b) ↔ ∃ a, x = .ok a ∧ ∃ b, f a = .ok b := by
  simp only [bind_eq_ok_iff]
  exact ⟨fun ⟨b, a, ha, hb⟩ => ⟨a, ha, b, hb⟩, fun ⟨a, ha, b, hb⟩ => ⟨b, a, ha, hb⟩⟩

end Results

namespace Reads

variable {α β : Type} {read : Reader α} {s : Shape} {depth : Nat}

theorem map (h : Reads read s) (f : α → β) :
    Reads (fun depth node => (read depth node).map f) s where
  accepts ht := (exists_map_eq_ok_iff f).trans (h.accepts ht)
  agrees ht ht' halike := toOption_map_congr f (h.agrees ht ht' halike)

/-- A reader of plain values has the shape of those that come back. -/
theorem of_recovers {p : Tree → Prop}
    (hfits : ∀ depth t, p t → t.NestsWithin depth → ∃ x, Recovers read depth t x)
    (honly : ∀ depth t x, Gives read depth t.source x → p t) : Reads read (.plain p) where
  accepts {depth t node} ht := by
    constructor
    · rintro ⟨x, hx⟩
      exact honly depth t x ⟨node, ht.shows, hx⟩
    · intro hp
      obtain ⟨x, hx⟩ := hfits depth t hp ht.nests
      exact ⟨x, hx node ht.shows⟩
  agrees {depth t t' node node'} ht ht' halike := by
    cases halike
    by_cases hp : p t
    · obtain ⟨x, hx⟩ := hfits depth t hp ht.nests
      rw [hx node ht.shows, hx node' ht'.shows]
    · have hnone : ∀ {n x}, Shows t.source n → read depth n ≠ .ok x :=
        fun hshows hx => hp (honly depth t _ ⟨_, hshows, hx⟩)
      exact toOption_eq_iff.2 fun x =>
        iff_of_false (hnone ht.shows) (hnone ht'.shows)

theorem string (expected : String) : Reads (readStringAs expected) .string := by
  refine of_recovers ?_ ?_
  · rintro depth t ⟨s, rfl⟩ _
    exact ⟨s, recovers_string expected s⟩
  · intro depth t s h
    have hsource := h.string
    cases t with
    | string s' => exact ⟨s', rfl⟩
    | null | bool | number | list | object => cases hsource

theorem bool : Reads readBool .bool := by
  refine of_recovers ?_ ?_
  · rintro depth t ⟨b, rfl⟩ _
    exact ⟨b, recovers_bool b⟩
  · intro depth t b h
    have hsource := h.bool
    cases t with
    | bool b' => exact ⟨b', rfl⟩
    | null | string | number | list | object => cases hsource

theorem any : Reads readTree .any :=
  of_recovers (fun _ t _ hnest => ⟨t.canonical, recovers_tree hnest⟩) fun _ _ _ _ => trivial

/-! ## Lists -/

theorem exists_readItems_iff (h : Reads read s) {ts : List Tree} {nodes : List Node}
    {rest : List UInt8} (hs : ShowsItems (Tree.sources ts) nodes)
    (hnest : ∀ t ∈ ts, t.NestsWithin depth) :
    (∃ xs, readItems (read depth) nodes (.closed rest) = .ok xs) ↔ ∀ t ∈ ts, s.Fits t := by
  induction ts generalizing nodes with
  | nil =>
    cases hs
    simp [readItems, Ending.read, Except.map]
  | cons t ts ih =>
    cases hs with
    | cons ht hs =>
      obtain ⟨hfirst, hothers⟩ := List.forall_mem_cons.1 hnest
      rw [readItems, List.forall_mem_cons, ← h.accepts ⟨ht, hfirst⟩, ← ih hs hothers]
      simp only [exists_bind_eq_ok_iff, pure, Except.pure, Except.ok.injEq, exists_eq', and_true,
        exists_and_right]

theorem toOption_readItems (h : Reads read s) {ts ts' : List Tree} {nodes nodes' : List Node}
    {rest rest' : List UInt8} (halike : List.Forall₂ s.Alike ts ts')
    (hs : ShowsItems (Tree.sources ts) nodes) (hs' : ShowsItems (Tree.sources ts') nodes')
    (hnest : ∀ t ∈ ts, t.NestsWithin depth) (hnest' : ∀ t ∈ ts', t.NestsWithin depth) :
    (readItems (read depth) nodes (.closed rest)).toOption =
      (readItems (read depth) nodes' (.closed rest')).toOption := by
  induction halike generalizing nodes nodes' with
  | nil =>
    cases hs
    cases hs'
    rfl
  | cons ht _ ih =>
    cases hs with
    | cons hshows hs =>
      cases hs' with
      | cons hshows' hs' =>
        obtain ⟨hfirst, hothers⟩ := List.forall_mem_cons.1 hnest
        obtain ⟨hfirst', hothers'⟩ := List.forall_mem_cons.1 hnest'
        rw [readItems, readItems]
        refine toOption_bind_congr (h.agrees ⟨hshows, hfirst⟩ ⟨hshows', hfirst'⟩ ht) fun x => ?_
        exact toOption_bind_congr (ih hs hs' hothers hothers') fun _ => rfl

/-- A list is read only from a list. -/
theorem toOption_readList_of_ne {t : Tree} {node : Node} (h : Shows t.source node)
    (ht : ∀ ts, t ≠ .list ts) : (readList read depth node).toOption = none := by
  cases t with
  | list ts => exact absurd rfl (ht ts)
  | null | bool | number | string | object =>
    cases h
    rfl

theorem list (h : Reads read s) : Reads (readList read) s.list where
  accepts {depth t node} ht := by
    obtain ⟨hshows, hnest⟩ := ht
    cases t with
    | list ts =>
      cases hnest with
      | list hnest =>
        cases hshows with
        | list hs => exact h.exists_readItems_iff hs hnest
    | null | bool | number | string | object =>
      refine iff_of_false (not_exists_of_toOption ?_) id
      exact toOption_readList_of_ne hshows (by simp)
  agrees {depth t t' node node'} ht ht' halike := by
    obtain ⟨hshows, hnest⟩ := ht
    obtain ⟨hshows', hnest'⟩ := ht'
    change s.ListAlike t t' at halike
    unfold Shape.ListAlike at halike
    split at halike
    · cases hnest with
      | list hnest =>
        cases hnest' with
        | list hnest' =>
          cases hshows with
          | list hs =>
            cases hshows' with
            | list hs' => exact h.toOption_readItems halike hs hs' hnest hnest'
    · next hne =>
      cases halike
      have ht : ∀ ts, t ≠ .list ts := fun ts hts => hne ts ts hts hts
      rw [toOption_readList_of_ne hshows ht, toOption_readList_of_ne hshows' ht]

end Reads

/-! ## Whole documents -/

/-- A document is accepted exactly if its value fits, and documents whose values are alike are read as
the same. -/
theorem Reads.decode {α : Type} {read : Reader α} {s : Shape} (h : Reads read s) {t : Tree}
    {cs : List Char} (hdocument : t.source.Document cs) (hnest : t.NestsWithin maxDepth) :
    ((∃ x, Json.decode read (encode cs) = .ok x) ↔ s.Fits t) ∧
      ∀ {t' : Tree} {cs' : List Char}, t'.source.Document cs' → t'.NestsWithin maxDepth →
        s.Alike t t' →
          (Json.decode read (encode cs)).toOption = (Json.decode read (encode cs')).toOption := by
  have happears : Appears maxDepth t (scan (encode cs)) := ⟨(scan_document hdocument).1, hnest⟩
  constructor
  · simp only [decode_eq_ok_iff hdocument]
    exact h.accepts happears
  · intro t' cs' hdocument' hnest' halike
    have happears' : Appears maxDepth t' (scan (encode cs')) :=
      ⟨(scan_document hdocument').1, hnest'⟩
    have hread := toOption_eq_iff.1 (h.agrees happears happears' halike)
    refine toOption_eq_iff.2 fun x => ?_
    rw [decode_eq_ok_iff hdocument, decode_eq_ok_iff hdocument', hread]

end RemoteRollout.Json
