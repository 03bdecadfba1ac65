import Mathlib.Data.List.Nodup
import RemoteRollout.Proofs.Json.Shapes

/-!
# Shapes of records

A record whose fields are read to shapes has a shape itself (`Layout.Shaped.reads`), in both of its
forms. The members of an object are read one by one, and what each of them asks of a field depends on
whether that field has been read before (`admitsAfter_member_iff`); in the end all of a field's values
have been admitted, so that there is at most one of them, and the draft holds it. The items of a list are
the fields in order.
-/

namespace RemoteRollout.Json

/-! ## Skipping -/

mutual

/-- What was written can be skipped. -/
theorem skipFault?_of_shows (t : Source) {node : Node} (h : Shows t node) :
    node.skipFault? = none := by
  cases t with
  | null | bool | number | string =>
    cases h
    rfl
  | list ts => cases h with | list hs => exact skipItems_of_shows ts hs
  | object ms => cases h with | object hs => exact skipMembers_of_shows ms hs

theorem skipItems_of_shows (ts : List Source) {nodes : List Node} {rest : List UInt8}
    (h : ShowsItems ts nodes) : Node.skipItems nodes (.closed rest) = none := by
  cases h with
  | nil => rfl
  | cons ht hs => rw [Node.skipItems, skipFault?_of_shows _ ht, skipItems_of_shows _ hs, Option.or_self]

theorem skipMembers_of_shows (ms : SourceMembers) {members : List (Key × Node)}
    {rest : List UInt8} (h : ShowsMembers ms members) :
    Node.skipMembers members (.closed rest) = none := by
  cases h with
  | nil => rfl
  | cons _ ht hs =>
    rw [Node.skipMembers, skipFault?_of_shows _ ht, skipMembers_of_shows _ hs, Option.or_self]

end

/-! ## Members of a field -/

section Members

variable {f : FieldShape} {name : String} {t : Tree} {ms : Members} {held : Bool}

theorem named_cons_self (name : String) (t : Tree) (ms : Members) :
    Members.named name ((name, t) :: ms) = t :: Members.named name ms := by
  simp [Members.named]

theorem named_cons_of_ne {name' : String} (h : name' ≠ name) :
    Members.named name ((name', t) :: ms) = Members.named name ms := by
  simp [Members.named, h]

/-- What is still to come may be for a field: nothing if the field has been read. -/
def FieldShape.AdmitsAfter (f : FieldShape) (held : Bool) (ts : List Tree) : Prop :=
  if held then ts = [] else f.Admits ts

theorem admitsAfter_nil_iff : f.AdmitsAfter held [] ↔ (f.required = true → held = true) := by
  cases held <;> simp [FieldShape.AdmitsAfter, FieldShape.Admits]

theorem admits_cons_iff {ts : List Tree} : f.Admits (t :: ts) ↔ f.shape.Fits t ∧ ts = [] := by
  cases ts with
  | nil => simp [FieldShape.Admits]
  | cons u us => simp [FieldShape.Admits]

/-- What a member asks of a field: if it is named for the field, it must be the first one, and the only
one, and fit. -/
theorem admitsAfter_member_iff :
    f.AdmitsAfter held (Members.named f.name ((name, t) :: ms)) ↔
      (f.name = name → held = false ∧ f.shape.Fits t) ∧
        f.AdmitsAfter (held || name == f.name) (Members.named f.name ms) := by
  by_cases hname : name = f.name
  · subst hname
    rw [named_cons_self]
    cases held
    all_goals simp [FieldShape.AdmitsAfter, admits_cons_iff]
  · rw [named_cons_of_ne hname, beq_eq_false_iff_ne.2 hname, Bool.or_false]
    simp [Ne.symm hname]

end Members

namespace Layout

variable {σ : Type} {l : Layout σ} {fs : List FieldShape} {f : FieldShape} {depth : Nat}
  {draft : σ} {field : Field σ} {key : Key} {node : Node} {name : String} {t : Tree}

/-- The field is that of this name, and it has a slot that is read to the shape. -/
structure Matches (l : Layout σ) (field : Field σ) (f : FieldShape) : Prop where
  found : l.fields.find? (·.name == f.name) = some field
  slot : ∃ (α : Type) (get? : σ → Option α) (read : Reader α),
    l.Slot f.name f.required get? read ∧ Reads read f.shape

/-- The record has these fields, in this order, and consists of nothing else. -/
structure Shaped (l : Layout σ) (fs : List FieldShape) : Prop where
  fields : List.Forall₂ l.Matches l.fields fs
  names : (fs.map FieldShape.name).Nodup
  ext : ∀ d d' : σ, (∀ f ∈ fs, ∀ (α : Type) (get? : σ → Option α) (read : Reader α),
    l.Slot f.name f.required get? read → Reads read f.shape → get? d = get? d') → d = d'

/-- The field is that of its slot. -/
theorem Matches.exists_eq_of (h : l.Matches field f) :
    ∃ (α : Type) (get? : σ → Option α) (set : α → σ → σ) (read : Reader α),
      field = Field.of f.name f.required get? set read ∧
        l.Slot f.name f.required get? read ∧ Reads read f.shape := by
  obtain ⟨hfind, α, get?, read, hslot, hread⟩ := h
  obtain ⟨set, hslotFind, -⟩ := hslot.field
  exact ⟨α, get?, set, read, Option.some.inj (hfind.symm.trans hslotFind), hslot, hread⟩

/-! ## Objects -/

/-- The field of this name has been read. -/
def holds (l : Layout σ) (draft : σ) (name : String) : Bool :=
  (l.fields.find? (·.name == name)).any (·.isSet draft)

theorem Slot.holds_eq {α : Type} {required : Bool} {get? : σ → Option α} {read : Reader α}
    (h : l.Slot name required get? read) (draft : σ) :
    l.holds draft name = (get? draft).isSome := by
  obtain ⟨set, hfind, -⟩ := h.field
  rw [holds, hfind]
  rfl

theorem Slot.exists_readMember_iff {α : Type} {required : Bool} {get? : σ → Option α}
    {read : Reader α} (h : l.Slot name required get? read) (hkey : key.text = .ok name) :
    (∃ draft', l.readMember depth draft key node = .ok draft') ↔
      l.holds draft name = false ∧ ∃ x, read depth node = .ok x := by
  obtain ⟨set, hfind, -⟩ := h.field
  have hholds : l.holds draft name = (Field.of name required get? set read).isSet draft := by
    rw [holds, hfind]
    rfl
  rw [hholds]
  simp only [Layout.readMember, hkey, bind, Except.bind, hfind]
  cases (Field.of name required get? set read).isSet draft with
  | true => simp [throw, throwThe, MonadExceptOf.throw]
  | false =>
    rw [if_neg Bool.false_ne_true, eq_self, true_and]
    exact exists_map_eq_ok_iff (set · draft)

namespace Shaped

theorem slot (h : l.Shaped fs) (hf : f ∈ fs) :
    ∃ (α : Type) (get? : σ → Option α) (read : Reader α),
      l.Slot f.name f.required get? read ∧ Reads read f.shape :=
  forall_of_forall₂ h.fields (fun _ _ hfield => hfield.slot) f hf

theorem find?_eq_none_iff (h : l.Shaped fs) :
    l.fields.find? (·.name == name) = none ↔ ∀ f ∈ fs, f.name ≠ name := by
  rw [List.find?_eq_none]
  refine forall_iff_of_forall₂ h.fields fun field f hfield => ?_
  have hname : field.name = f.name := by simpa using List.find?_some hfield.found
  simp [hname]

/-- A member is read exactly if it is the first one of its name and fits, or if its name is that of no
field. -/
theorem exists_readMember_iff (h : l.Shaped fs) (hkey : key.text = .ok name)
    (ht : Appears depth t node) :
    (∃ draft', l.readMember depth draft key node = .ok draft') ↔
      ∀ f ∈ fs, f.name = name → l.holds draft f.name = false ∧ f.shape.Fits t := by
  by_cases hknown : ∃ f ∈ fs, f.name = name
  · obtain ⟨f, hf, rfl⟩ := hknown
    obtain ⟨α, get?, read, hslot, hread⟩ := h.slot hf
    rw [hslot.exists_readMember_iff hkey, hread.accepts ht]
    constructor
    · intro hstep g hg hname
      cases List.inj_on_of_nodup_map h.names hg hf hname
      exact hstep
    · intro hall
      exact hall f hf rfl
  · have hunknown : ∀ f ∈ fs, f.name ≠ name := fun f hf hname => hknown ⟨f, hf, hname⟩
    refine iff_of_true ⟨draft, ?_⟩ fun f hf hname => absurd hname (hunknown f hf)
    simp only [Layout.readMember, hkey, bind, Except.bind, h.find?_eq_none_iff.2 hunknown, skip,
      skipFault?_of_shows _ ht.shows]
    rfl

theorem holds_readMember (h : l.Shaped fs) (hf : f ∈ fs) (hkey : key.text = .ok name)
    (ht : Appears depth t node) {draft' : σ}
    (hread : l.readMember depth draft key node = .ok draft') :
    l.holds draft' f.name = (l.holds draft f.name || name == f.name) := by
  obtain ⟨α, get?, read, hslot, -⟩ := h.slot hf
  rw [hslot.holds_eq, hslot.holds_eq]
  have htext : key.text.toOption = some name := by
    rw [hkey]
    rfl
  rcases hslot.readMember htext ht.shows hread with ⟨hname, hkept⟩ | ⟨hname, -, v, hv, -⟩
  · have hne : name ≠ f.name := fun heq => hname (congrArg some heq)
    rw [hkept, beq_eq_false_iff_ne.2 hne, Bool.or_false]
  · cases hname
    simp [hv]

/-- Members are read exactly if what they have for each field is admitted. -/
theorem exists_readMembers_iff (h : l.Shaped fs) {ms : Members} {members : List (Key × Node)}
    {rest : List UInt8} (hs : ShowsMembers (Tree.sourceMembers ms) members)
    (hnest : ∀ m ∈ ms, m.2.NestsWithin depth) :
    (∃ final, l.readMembers depth draft members (.closed rest) = .ok final) ↔
      ∀ f ∈ fs, f.AdmitsAfter (l.holds draft f.name) (Members.named f.name ms) := by
  induction ms generalizing draft members with
  | nil =>
    cases hs
    simp only [readMembers_nil_eq_ok_iff, exists_eq_right']
    refine forall_iff_of_forall₂ h.fields fun field f hfield => ?_
    rw [Members.named, List.filterMap_nil, admitsAfter_nil_iff, holds, hfield.found]
    obtain ⟨α, get?, set, read, rfl, -, -⟩ := hfield.exists_eq_of
    rfl
  | cons m ms ih =>
    obtain ⟨name, t⟩ := m
    cases hs with
    | @cons _ _ key node _ members hkey ht hs =>
      obtain ⟨hfirst, hothers⟩ := List.forall_mem_cons.1 hnest
      have hname : key.text = .ok name := eq_ok_of_toOption hkey
      have ht : Appears depth t node := ⟨ht, hfirst⟩
      rw [Layout.readMembers, exists_bind_eq_ok_iff]
      constructor
      · rintro ⟨draft', hread, hrest⟩ f hf
        refine admitsAfter_member_iff.2 ⟨(h.exists_readMember_iff hname ht).1 ⟨draft', hread⟩ f hf, ?_⟩
        rw [← h.holds_readMember hf hname ht hread]
        exact (ih hs hothers).1 hrest f hf
      · intro hall
        have hmember := fun f hf => admitsAfter_member_iff.1 (hall f hf)
        obtain ⟨draft', hread⟩ :=
          (h.exists_readMember_iff hname ht).2 fun f hf => (hmember f hf).1
        refine ⟨draft', hread, (ih hs hothers).2 fun f hf => ?_⟩
        rw [h.holds_readMember hf hname ht hread]
        exact (hmember f hf).2

/-- An object is read exactly if what it has for each field is admitted. -/
theorem exists_read_object_iff (h : l.Shaped fs) {ms : Members} {members : List (Key × Node)}
    (hs : ShowsMembers (Tree.sourceMembers ms) members)
    (hnest : ∀ m ∈ ms, m.2.NestsWithin depth) (rest : List UInt8) :
    (∃ final, l.readMembers depth l.blank members (.closed rest) = .ok final) ↔
      ∀ f ∈ fs, f.Admits (Members.named f.name ms) := by
  rw [h.exists_readMembers_iff hs hnest]
  refine forall₂_congr fun f hf => ?_
  obtain ⟨α, get?, read, hslot, -⟩ := h.slot hf
  rw [hslot.holds_eq, hslot.blank]
  rfl

end Shaped

theorem get?_sourceMembers (name : String) (ms : Members) :
    SourceMembers.get? name (Tree.sourceMembers ms) =
      (Members.named name ms).getLast?.map Tree.source := by
  induction ms with
  | nil => rfl
  | cons m ms ih =>
    obtain ⟨key, t⟩ := m
    rw [Tree.sourceMembers, SourceMembers.get?, ih]
    by_cases hkey : key = name
    · subst hkey
      rw [named_cons_self, if_pos rfl, List.getLast?_cons]
      cases (Members.named key ms).getLast? <;> rfl
    · rw [named_cons_of_ne hkey, if_neg (by simpa using hkey), Option.or_none]

/-- The value of a slot is that of the only member of its name. -/
theorem Slot.get?_of_readMembers {α : Type} {required : Bool} {get? : σ → Option α}
    {read : Reader α} (h : l.Slot name required get? read) {final : σ} {ms : Members}
    {members : List (Key × Node)} {rest : List UInt8}
    (hs : ShowsMembers (Tree.sourceMembers ms) members)
    (hread : l.readMembers depth l.blank members (.closed rest) = .ok final) :
    (Members.named name ms = [] → get? final = none) ∧
      ∀ t, Members.named name ms = [t] →
        ∃ v node, get? final = some v ∧ Shows t.source node ∧ read depth node = .ok v := by
  have hslot := h.readMembers hs hread
  rw [get?_sourceMembers, h.blank] at hslot
  constructor
  · intro hnone
    rw [hnone] at hslot
    rcases hslot with ⟨-, hfinal⟩ | ⟨-, t, v, ht, -⟩
    · exact hfinal
    · cases ht
  · intro t hone
    rw [hone] at hslot
    rcases hslot with ⟨hnone, -⟩ | ⟨-, u, v, hu, hv, node, hshows, hnode⟩
    · cases hnone
    · cases hu
      exact ⟨v, node, hv, hshows, hnode⟩

theorem nestsWithin_of_mem_named {ms : Members} (hnest : ∀ m ∈ ms, m.2.NestsWithin depth)
    (ht : t ∈ Members.named name ms) : t.NestsWithin depth := by
  obtain ⟨m, hm, hvalue⟩ := List.mem_filterMap.1 ht
  split at hvalue
  · cases hvalue
    exact hnest m hm
  · cases hvalue

/-- Objects are read as the same if they have the same values of each field. -/
theorem Shaped.toOption_readMembers (h : l.Shaped fs) {ms ms' : Members}
    {members members' : List (Key × Node)} {rest rest' : List UInt8}
    (hs : ShowsMembers (Tree.sourceMembers ms) members)
    (hs' : ShowsMembers (Tree.sourceMembers ms') members')
    (hnest : ∀ m ∈ ms, m.2.NestsWithin depth) (hnest' : ∀ m ∈ ms', m.2.NestsWithin depth)
    (halike : ∀ f ∈ fs, f.shape.SameValues (Members.named f.name ms) (Members.named f.name ms')) :
    (l.readMembers depth l.blank members (.closed rest)).toOption =
      (l.readMembers depth l.blank members' (.closed rest')).toOption := by
  have hadmits := h.exists_read_object_iff hs hnest rest
  have hadmits' := h.exists_read_object_iff hs' hnest' rest'
  refine toOption_eq_of_unique ?_ fun final final' hread hread' => ?_
  · rw [hadmits, hadmits']
    exact forall₂_congr fun f hf => Shape.admits_iff (halike f hf)
  · refine h.ext final final' fun f hf α get? read hslot hreads => ?_
    obtain ⟨hnone, hone⟩ := hslot.get?_of_readMembers hs hread
    obtain ⟨hnone', hone'⟩ := hslot.get?_of_readMembers hs' hread'
    have hadmitted := hadmits.1 ⟨final, hread⟩ f hf
    rcases (halike f hf).cases with ⟨hnil, hnil'⟩ | ⟨t, t', ht, ht', hsame⟩ | ⟨htwo, -⟩
    · rw [hnone hnil, hnone' hnil']
    · obtain ⟨v, node, hv, hshows, hnode⟩ := hone t ht
      obtain ⟨v', node', hv', hshows', hnode'⟩ := hone' t' ht'
      have hnests := nestsWithin_of_mem_named hnest (ht ▸ List.mem_singleton_self t)
      have hnests' := nestsWithin_of_mem_named hnest' (ht' ▸ List.mem_singleton_self t')
      have hvalues := hreads.agrees ⟨hshows, hnests⟩ ⟨hshows', hnests'⟩ hsame
      rw [hnode, hnode'] at hvalues
      rw [hv, hv']
      exact hvalues
    · exact absurd hadmitted (Shape.not_admits_of_two htwo)

/-! ## Lists -/

namespace Matches

/-- A field is read exactly if its value fits, whatever has been read before. -/
theorem exists_read_iff (h : l.Matches field f) (ht : Appears depth t node) (draft : σ) :
    (∃ draft', field.read depth node draft = .ok draft') ↔ f.shape.Fits t := by
  obtain ⟨α, get?, set, read, rfl, -, hread⟩ := h.exists_eq_of
  exact (exists_map_eq_ok_iff (set · draft)).trans (hread.accepts ht)

theorem toOption_read (h : l.Matches field f) {t' : Tree} {node' : Node}
    (ht : Appears depth t node) (ht' : Appears depth t' node') (halike : f.shape.Alike t t')
    (draft : σ) :
    (field.read depth node draft).toOption = (field.read depth node' draft).toOption := by
  obtain ⟨α, get?, set, read, rfl, -, hread⟩ := h.exists_eq_of
  exact toOption_map_congr (set · draft) (hread.agrees ht ht' halike)

theorem required_eq (h : l.Matches field f) : field.required = f.required := by
  obtain ⟨α, get?, set, read, rfl, -, -⟩ := h.exists_eq_of
  rfl

end Matches

/-- Items are read exactly if they fit the fields in order. -/
theorem exists_readFields_iff {fields : List (Field σ)}
    (h : List.Forall₂ l.Matches fields fs) {ts : List Tree} {nodes : List Node} {rest : List UInt8}
    (hs : ShowsItems (Tree.sources ts) nodes) (hnest : ∀ t ∈ ts, t.NestsWithin depth) (index : Nat) :
    (∃ final, l.readFields depth index fields draft nodes (.closed rest) = .ok final) ↔
      Shape.FitInOrder fs ts := by
  induction h generalizing ts nodes draft index with
  | nil =>
    rw [Layout.readFields, exists_map_eq_ok_iff]
    cases ts with
    | nil =>
      cases hs
      simp [Ending.close, Shape.FitInOrder]
    | cons t ts =>
      cases hs
      simp [Ending.close, Shape.FitInOrder]
  | @cons field f fields fs hfield _ ih =>
    cases ts with
    | nil =>
      cases hs
      have hrest : (∃ final, l.readFields depth (index + 1) fields draft [] (.closed rest) =
          .ok final) ↔ Shape.FitInOrder fs [] :=
        ih (show ShowsItems (Tree.sources []) [] from .nil) hnest (index + 1)
      rw [Shape.FitInOrder, ← hrest, ← hfield.required_eq]
      simp only [Layout.readFields, Ending.read, bind, Except.bind]
      cases field.required with
      | true => simp [throw, throwThe, MonadExceptOf.throw]
      | false => simp
    | cons t ts =>
      cases hs with
      | cons ht hs =>
        obtain ⟨hfirst, hothers⟩ := List.forall_mem_cons.1 hnest
        rw [Layout.readFields, exists_bind_eq_ok_iff, Shape.FitInOrder,
          ← hfield.exists_read_iff ⟨ht, hfirst⟩ draft]
        simp only [ih hs hothers, exists_and_right]

/-- Where no items are left, it does not matter what follows the list. -/
theorem toOption_readFields_nil (fields : List (Field σ)) (draft : σ) (index index' : Nat)
    (rest rest' : List UInt8) :
    (l.readFields depth index fields draft [] (.closed rest)).toOption =
      (l.readFields depth index' fields draft [] (.closed rest')).toOption := by
  induction fields generalizing index index' with
  | nil => rfl
  | cons field fields ih =>
    simp only [Layout.readFields, Ending.read, bind, Except.bind]
    cases field.required with
    | true => rfl
    | false => exact ih (index + 1) (index' + 1)

/-- Lists are read as the same if their items are alike. -/
theorem toOption_readFields {fields : List (Field σ)}
    (h : List.Forall₂ l.Matches fields fs) {ts ts' : List Tree} {nodes nodes' : List Node}
    {rest rest' : List UInt8}
    (halike : Shape.AlikeInOrder fs ts ts') (hs : ShowsItems (Tree.sources ts) nodes)
    (hs' : ShowsItems (Tree.sources ts') nodes') (hnest : ∀ t ∈ ts, t.NestsWithin depth)
    (hnest' : ∀ t ∈ ts', t.NestsWithin depth) (index index' : Nat) :
    (l.readFields depth index fields draft nodes (.closed rest)).toOption =
      (l.readFields depth index' fields draft nodes' (.closed rest')).toOption := by
  induction h generalizing ts ts' nodes nodes' draft index index' with
  | nil =>
    have hlength : ts.length = ts'.length := halike
    match ts, ts' with
    | [], [] =>
      cases hs
      cases hs'
      rfl
    | _ :: _, _ :: _ =>
      cases hs
      cases hs'
      rfl
    | [], _ :: _ | _ :: _, [] => cases hlength
  | @cons field f fields fs hfield _ ih =>
    cases ts with
    | nil =>
      cases ts' with
      | nil =>
        cases hs
        cases hs'
        exact toOption_readFields_nil ..
      | cons => exact halike.elim
    | cons t ts =>
      cases ts' with
      | nil => exact halike.elim
      | cons t' ts' =>
        cases hs with
        | cons ht hs =>
          cases hs' with
          | cons ht' hs' =>
            obtain ⟨hfirst, hothers⟩ := List.forall_mem_cons.1 hnest
            obtain ⟨hfirst', hothers'⟩ := List.forall_mem_cons.1 hnest'
            refine toOption_bind_congr
              (hfield.toOption_read ⟨ht, hfirst⟩ ⟨ht', hfirst'⟩ halike.1 draft) fun _ => ?_
            exact ih halike.2 hs hs' hothers hothers' _ _

/-- A record is read only from an object or a list. -/
theorem toOption_read_of_ne (hnode : Shows t.source node) (hobject : ∀ ms, t ≠ .object ms)
    (hlist : ∀ ts, t ≠ .list ts) : (l.read depth node).toOption = none := by
  cases t with
  | object ms => exact absurd rfl (hobject ms)
  | list ts => exact absurd rfl (hlist ts)
  | null | bool | number | string =>
    cases hnode
    rfl

theorem Shaped.reads (h : l.Shaped fs) : Reads l.read (.record fs) where
  accepts {depth t node} ht := by
    obtain ⟨hshows, hnest⟩ := ht
    cases t with
    | object ms =>
      cases hnest with
      | object hnest =>
        cases hshows with
        | object hs => exact h.exists_read_object_iff hs hnest _
    | list ts =>
      cases hnest with
      | list hnest =>
        cases hshows with
        | list hs => exact exists_readFields_iff h.fields hs hnest 0
    | null | bool | number | string =>
      refine iff_of_false (not_exists_of_toOption ?_) id
      exact toOption_read_of_ne hshows (by simp) (by simp)
  agrees {depth t t' node node'} ht ht' halike := by
    obtain ⟨hshows, hnest⟩ := ht
    obtain ⟨hshows', hnest'⟩ := ht'
    change Shape.RecordAlike fs t t' at halike
    unfold Shape.RecordAlike at halike
    split at halike
    · cases hnest with
      | object hnest =>
        cases hnest' with
        | object hnest' =>
          cases hshows with
          | object hs =>
            cases hshows' with
            | object hs' => exact h.toOption_readMembers hs hs' hnest hnest' halike
    · cases hnest with
      | list hnest =>
        cases hnest' with
        | list hnest' =>
          cases hshows with
          | list hs =>
            cases hshows' with
            | list hs' => exact toOption_readFields h.fields halike hs hs' hnest hnest' 0 0
    · next hobject hlist =>
      cases halike
      have hobject : ∀ ms, t ≠ .object ms := fun ms hms => hobject ms ms hms hms
      have hlist : ∀ ts, t ≠ .list ts := fun ts hts => hlist ts ts hts hts
      rw [toOption_read_of_ne hshows hobject hlist, toOption_read_of_ne hshows' hobject hlist]

end Layout

end RemoteRollout.Json
