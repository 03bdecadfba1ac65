import RemoteRollout.Json.Printer
import RemoteRollout.Proofs.Yaml.Printed
import RemoteRollout.Yaml.Node

/-!
# The nodes of a printed tree

The tokens of a printed tree are built into nodes that show the tree: a mapping for an object, a sequence
for a list, scalars for strings and truth values, without anchors and tags. The document of a printed
object holds such a node, and nothing else.
-/

namespace RemoteRollout.Yaml

open Json (Members Tree boolText)

/-! ## What nodes show -/

mutual

/-- The node is what a tree is read as where it is printed. -/
inductive Shows : Tree → Node → Prop where
  | bool (b : Bool) (m : Mark) :
      Shows (.bool b) (.scalar m .plain none none (String.ofList (boolText b)))
  | string (s : String) (m : Mark) : Shows (.string s) (.scalar m .doubleQuoted none none s)
  | list {ts : List Tree} {nodes : List Node} (h : ShowsItems ts nodes) (m : Mark) :
      Shows (.list ts) (.sequence m none nodes)
  | object {ms : List (String × Tree)} {entries : List (Node × Node)} (h : ShowsEntries ms entries)
      (m : Mark) : Shows (.object ms) (.mapping m none entries)

/-- The nodes are what the items of a list are read as. -/
inductive ShowsItems : List Tree → List Node → Prop where
  | nil : ShowsItems [] []
  | cons {t : Tree} {node : Node} {ts : List Tree} {nodes : List Node} (ht : Shows t node)
      (hts : ShowsItems ts nodes) : ShowsItems (t :: ts) (node :: nodes)

/-- The entries are what the members of an object are read as. -/
inductive ShowsEntries : List (String × Tree) → List (Node × Node) → Prop where
  | nil : ShowsEntries [] []
  | cons {k : String} {t : Tree} {key node : Node} {ms : List (String × Tree)}
      {entries : List (Node × Node)} (hkey : Shows (.string k) key) (ht : Shows t node)
      (hms : ShowsEntries ms entries) : ShowsEntries ((k, t) :: ms) ((key, node) :: entries)

end

/-! ## Progress -/

/-- Between the two places there are tokens of these kinds. -/
def Progress.Ahead : List TokenKind → Progress → Progress → Prop
  | [], p, q => p = q
  | kind :: kinds, p, q => p.kind? = some kind ∧ Ahead kinds p.skip q

namespace Progress

theorem ahead_append_iff {kinds kinds' : List TokenKind} {p q : Progress} :
    Ahead (kinds ++ kinds') p q ↔ ∃ r, Ahead kinds p r ∧ Ahead kinds' r q := by
  induction kinds generalizing p with
  | nil => simp [Ahead]
  | cons kind kinds ih => simp [Ahead, ih, and_assoc]

theorem ahead_of_map_eq {kinds : List TokenKind} {ts : List Token} (h : ts.map Token.kind = kinds)
    (rest : List Token) (handles : List (String × String)) (anchors : List (String × Nat)) :
    Ahead kinds ⟨ts ++ rest, handles, anchors⟩ ⟨rest, handles, anchors⟩ := by
  subst h
  induction ts with
  | nil => rfl
  | cons t ts ih => exact ⟨rfl, ih⟩

theorem exists_tokens_eq {p : Progress} {kind : TokenKind} (h : p.kind? = some kind) :
    ∃ start stop rest, p.tokens = ⟨kind, start, stop⟩ :: rest := by
  obtain ⟨token, htoken, rfl⟩ := Option.map_eq_some_iff.1 h
  obtain ⟨rest, hrest⟩ := List.head?_eq_some_iff.1 htoken
  exact ⟨token.start, token.stop, rest, hrest⟩

end Progress

namespace Node

/-! ## Building one node -/

/-- A token with which a node begins that has neither an anchor nor a tag. -/
def Begins (kind : TokenKind) : Prop :=
  (∃ style text, kind = .scalar style text) ∨ kind = .flowSequenceStart ∨ kind = .flowMappingStart

theorem exists_kindsOf_eq_cons (t : Tree) : ∃ kind kinds, kindsOf t = kind :: kinds ∧ Begins kind := by
  match t with
  | .null | .bool _ | .number _ | .string _ => exact ⟨_, _, rfl, .inl ⟨_, _, rfl⟩⟩
  | .list [] | .list (_ :: _) => exact ⟨_, _, rfl, .inr (.inl rfl)⟩
  | .object [] | .object (_ :: _) => exact ⟨_, _, rfl, .inr (.inr rfl)⟩

section Build

variable {p : Progress} {fuel : Nat} {block indentless : Bool} {kind : TokenKind}

theorem isNext_eq (h : p.kind? = some kind) (kinds : List TokenKind) :
    isNext p kinds = kinds.contains kind := by
  rw [isNext, h]

theorem build_scalar {style : Style} {text : String} (h : p.kind? = some (.scalar style text)) :
    build (fuel + 1) block indentless p = (scalar p.mark style none none text, some p.skip) := by
  obtain ⟨tokens, handles, anchors⟩ := p
  obtain ⟨start, stop, rest, rfl⟩ := Progress.exists_tokens_eq h
  simp [build, properties, tagOf?, withAnchor, Progress.mark, Progress.skip]

theorem build_sequence (h : p.kind? = some .flowSequenceStart) :
    build (fuel + 1) block indentless p =
      (sequence p.mark none (buildFlowItems fuel true p.skip).1, (buildFlowItems fuel true p.skip).2) := by
  obtain ⟨tokens, handles, anchors⟩ := p
  obtain ⟨start, stop, rest, rfl⟩ := Progress.exists_tokens_eq h
  simp [build, properties, tagOf?, withAnchor, Progress.mark, Progress.skip]

theorem build_mapping (h : p.kind? = some .flowMappingStart) :
    build (fuel + 1) block indentless p =
      (mapping p.mark none (buildFlowEntries fuel true p.skip).1,
        (buildFlowEntries fuel true p.skip).2) := by
  obtain ⟨tokens, handles, anchors⟩ := p
  obtain ⟨start, stop, rest, rfl⟩ := Progress.exists_tokens_eq h
  simp [build, properties, tagOf?, withAnchor, Progress.mark, Progress.skip]

/-! ## Building items -/

theorem buildFlowItems_end (fuel : Nat) (first : Bool) (h : p.kind? = some .flowSequenceEnd) :
    buildFlowItems (fuel + 1) first p = ([], some p.skip) := by
  simp [buildFlowItems, isNext_eq h]

/-- Behind a comma the items are those of a list that begins there. -/
theorem buildFlowItems_comma (h : p.kind? = some .flowEntry) (hnext : p.skip.kind? = some kind)
    (hkind : Begins kind) :
    buildFlowItems (fuel + 1) false p = buildFlowItems (fuel + 1) true p.skip := by
  obtain ⟨style, text, rfl⟩ | rfl | rfl := hkind
  all_goals simp [buildFlowItems, isNext_eq h, isNext_eq hnext]

theorem buildFlowItems_first (h : p.kind? = some kind) (hkind : Begins kind) :
    buildFlowItems (fuel + 1) true p =
      andItems (build fuel false false p) (buildFlowItems fuel false) := by
  obtain ⟨style, text, rfl⟩ | rfl | rfl := hkind
  all_goals simp [buildFlowItems, isNext_eq h, h]

/-! ## Building entries -/

theorem buildFlowEntries_end (fuel : Nat) (first : Bool) (h : p.kind? = some .flowMappingEnd) :
    buildFlowEntries (fuel + 1) first p = ([], some p.skip) := by
  simp [buildFlowEntries, isNext_eq h]

/-- Behind a comma the entries are those of a mapping that begins there. -/
theorem buildFlowEntries_comma (h : p.kind? = some .flowEntry) (hnext : p.skip.kind? = some .key) :
    buildFlowEntries (fuel + 1) false p = buildFlowEntries (fuel + 1) true p.skip := by
  simp [buildFlowEntries, isNext_eq h, isNext_eq hnext]

theorem buildFlowValue_eq (h : p.kind? = some .value) (hnext : p.skip.kind? = some kind)
    (hkind : Begins kind) : buildFlowValue (fuel + 1) p = build fuel false false p.skip := by
  obtain ⟨tokens, handles, anchors⟩ := p
  obtain ⟨start, stop, rest, rfl⟩ := Progress.exists_tokens_eq h
  obtain ⟨start', stop', rest', rfl⟩ : ∃ start stop rest', rest = ⟨kind, start, stop⟩ :: rest' :=
    Progress.exists_tokens_eq hnext
  obtain ⟨style, text, rfl⟩ | rfl | rfl := hkind
  all_goals simp [buildFlowValue, isNext_eq hnext]

theorem buildFlowEntries_first {style : Style} {text : String} (h : p.kind? = some .key)
    (hkey : p.skip.kind? = some (.scalar style text)) :
    buildFlowEntries (fuel + 2) true p =
      andEntries (scalar p.skip.mark style none none text) (buildFlowValue (fuel + 1) p.skip.skip)
        (buildFlowEntries (fuel + 1) false) := by
  rw [buildFlowEntries]
  simp [isNext_eq h, h, isNext_eq hkey, build_scalar hkey]

end Build

/-! ## Building trees -/

/-- From tokens of its kinds a node is built that shows the tree. -/
def BuiltAs (t : Tree) : Prop :=
  ∀ fuel block indentless p q, Progress.Ahead (kindsOf t) p q → (kindsOf t).length ≤ fuel →
    ∃ node, Shows t node ∧ build fuel block indentless p = (node, some q)

section Trees

variable {t : Tree} {ts : List Tree} {k : String} {ms : Members} {fuel : Nat} {p q : Progress}

theorem exists_begins (h : Progress.Ahead (kindsOf t) p q) :
    ∃ kind, p.kind? = some kind ∧ Begins kind := by
  obtain ⟨kind, kinds, hkinds, hkind⟩ := exists_kindsOf_eq_cons t
  rw [hkinds] at h
  exact ⟨kind, h.1, hkind⟩

theorem length_kindsOf_pos (t : Tree) : 0 < (kindsOf t).length := by
  obtain ⟨kind, kinds, hkinds, -⟩ := exists_kindsOf_eq_cons t
  simp [hkinds]

theorem length_kindsOfItems_pos (ts : List Tree) : 0 < (kindsOfItems ts).length := by
  cases ts
  all_goals simp [kindsOfItems]

/-- The first item of a list, and what the rest is built into. -/
theorem exists_buildFlowItems_cons (ht : BuiltAs t) {r : Progress}
    (hp : Progress.Ahead (kindsOf t) p r) (hfuel : (kindsOf t).length ≤ fuel) {nodes : List Node}
    (hrest : buildFlowItems fuel false r = (nodes, some q)) :
    ∃ node, Shows t node ∧ buildFlowItems (fuel + 1) true p = (node :: nodes, some q) := by
  obtain ⟨kind, hfirst, hkind⟩ := exists_begins hp
  obtain ⟨node, hshows, hnode⟩ := ht fuel false false p r hp hfuel
  refine ⟨node, hshows, ?_⟩
  rw [buildFlowItems_first hfirst hkind, hnode, andItems, hrest]

/-- What stands behind an item of a list. -/
theorem exists_buildFlowItems (h : ∀ t ∈ ts, BuiltAs t) (hahead : Progress.Ahead (kindsOfItems ts) p q)
    (hfuel : (kindsOfItems ts).length ≤ fuel) :
    ∃ nodes, ShowsItems ts nodes ∧ buildFlowItems fuel false p = (nodes, some q) := by
  induction ts generalizing p fuel with
  | nil =>
    obtain ⟨hend, rfl⟩ := hahead
    obtain ⟨n, rfl⟩ : ∃ n, fuel = n + 1 := Nat.exists_eq_add_one.2 hfuel
    exact ⟨[], .nil, buildFlowItems_end n false hend⟩
  | cons t ts ih =>
    obtain ⟨ht, hts⟩ := List.forall_mem_cons.1 h
    obtain ⟨hcomma, hitems⟩ := hahead
    obtain ⟨r, hp, hr⟩ := Progress.ahead_append_iff.1 hitems
    obtain ⟨kind, hfirst, hkind⟩ := exists_begins hp
    rw [kindsOfItems, List.cons_append, List.length_cons, List.length_append] at hfuel
    obtain ⟨n, rfl⟩ : ∃ n, fuel = n + 1 := Nat.exists_eq_add_one.2 (by omega)
    have hlength : (kindsOf t).length ≤ n ∧ (kindsOfItems ts).length ≤ n := by omega
    obtain ⟨nodes, hnodes, hrest⟩ := ih hts hr hlength.2
    obtain ⟨node, hshows, hbuild⟩ := exists_buildFlowItems_cons ht hp hlength.1 hrest
    rw [← buildFlowItems_comma hcomma hfirst hkind] at hbuild
    exact ⟨node :: nodes, .cons hshows hnodes, hbuild⟩

/-- The first member of an object, and what the rest is built into. -/
theorem exists_buildFlowEntries_cons (ht : BuiltAs t) {r : Progress}
    (hp : Progress.Ahead (.key :: .scalar .doubleQuoted k :: .value :: kindsOf t) p r)
    (hfuel : (kindsOf t).length ≤ fuel) {entries : List (Node × Node)}
    (hrest : buildFlowEntries (fuel + 1) false r = (entries, some q)) :
    ∃ key node, Shows (.string k) key ∧ Shows t node ∧
      buildFlowEntries (fuel + 2) true p = ((key, node) :: entries, some q) := by
  obtain ⟨hkey, htext, hvalue, hp⟩ := hp
  obtain ⟨kind, hfirst, hkind⟩ := exists_begins hp
  obtain ⟨node, hshows, hnode⟩ := ht fuel false false _ r hp hfuel
  refine ⟨_, node, .string k p.skip.mark, hshows, ?_⟩
  rw [buildFlowEntries_first hkey htext, buildFlowValue_eq hvalue hfirst hkind, hnode, andEntries, hrest]

/-- What stands behind a member of an object. -/
theorem exists_buildFlowEntries (h : ∀ m ∈ ms, BuiltAs m.2)
    (hahead : Progress.Ahead (kindsOfMembers ms) p q) (hfuel : (kindsOfMembers ms).length ≤ fuel) :
    ∃ entries, ShowsEntries ms entries ∧ buildFlowEntries fuel false p = (entries, some q) := by
  induction ms generalizing p fuel with
  | nil =>
    obtain ⟨hend, rfl⟩ := hahead
    obtain ⟨n, rfl⟩ : ∃ n, fuel = n + 1 := Nat.exists_eq_add_one.2 hfuel
    exact ⟨[], .nil, buildFlowEntries_end n false hend⟩
  | cons m ms ih =>
    obtain ⟨k, t⟩ := m
    obtain ⟨ht, hms⟩ := List.forall_mem_cons.1 h
    obtain ⟨hcomma, hmembers⟩ := hahead
    obtain ⟨r, hp, hr⟩ := Progress.ahead_append_iff.1 hmembers
    simp only [kindsOfMembers, List.cons_append, List.length_cons, List.length_append] at hfuel
    obtain ⟨n, rfl⟩ : ∃ n, fuel = n + 2 := Nat.exists_eq_add_of_le' (by omega)
    have hlength : (kindsOf t).length ≤ n ∧ (kindsOfMembers ms).length ≤ n + 1 := by omega
    obtain ⟨entries, hentries, hrest⟩ := ih hms hr hlength.2
    obtain ⟨key, node, hkey, hshows, hbuild⟩ := exists_buildFlowEntries_cons ht hp hlength.1 hrest
    rw [← buildFlowEntries_comma hcomma hp.1] at hbuild
    exact ⟨(key, node) :: entries, .cons hkey hshows hentries, hbuild⟩

theorem builtAs_scalar {style : Style} {text : String} (hkinds : kindsOf t = [.scalar style text])
    (hshows : ∀ m, Shows t (.scalar m style none none text)) : BuiltAs t := by
  intro fuel block indentless p q hahead hfuel
  rw [hkinds] at hahead hfuel
  obtain ⟨hkind, rfl⟩ := hahead
  obtain ⟨n, rfl⟩ : ∃ n, fuel = n + 1 := Nat.exists_eq_add_one.2 hfuel
  exact ⟨_, hshows p.mark, build_scalar hkind⟩

theorem builtAs_list (h : ∀ t ∈ ts, BuiltAs t) : BuiltAs (.list ts) := by
  intro fuel block indentless p q hahead hfuel
  cases ts with
  | nil =>
    obtain ⟨hstart, hend, rfl⟩ := hahead
    obtain ⟨n, rfl⟩ : ∃ n, fuel = n + 2 := Nat.exists_eq_add_of_le' hfuel
    have hitems := buildFlowItems_end n true hend
    exact ⟨_, .list .nil p.mark, by rw [build_sequence hstart, hitems]⟩
  | cons t ts =>
    obtain ⟨ht, hts⟩ := List.forall_mem_cons.1 h
    obtain ⟨hstart, hitems⟩ := hahead
    obtain ⟨r, hp, hr⟩ := Progress.ahead_append_iff.1 hitems
    have hpos := length_kindsOf_pos t
    have hpos' := length_kindsOfItems_pos ts
    rw [kindsOf, List.cons_append, List.length_cons, List.length_append] at hfuel
    obtain ⟨n, rfl⟩ : ∃ n, fuel = n + 2 := Nat.exists_eq_add_of_le' (by omega)
    have hlength : (kindsOf t).length ≤ n ∧ (kindsOfItems ts).length ≤ n := by omega
    obtain ⟨nodes, hnodes, hrest⟩ := exists_buildFlowItems hts hr hlength.2
    obtain ⟨node, hshows, hbuild⟩ := exists_buildFlowItems_cons ht hp hlength.1 hrest
    exact ⟨_, .list (.cons hshows hnodes) p.mark, by rw [build_sequence hstart, hbuild]⟩

theorem builtAs_object (h : ∀ m ∈ ms, BuiltAs m.2) : BuiltAs (.object ms) := by
  intro fuel block indentless p q hahead hfuel
  cases ms with
  | nil =>
    obtain ⟨hstart, hend, rfl⟩ := hahead
    obtain ⟨n, rfl⟩ : ∃ n, fuel = n + 2 := Nat.exists_eq_add_of_le' hfuel
    have hentries := buildFlowEntries_end n true hend
    exact ⟨_, .object .nil p.mark, by rw [build_mapping hstart, hentries]⟩
  | cons m ms =>
    obtain ⟨k, t⟩ := m
    obtain ⟨ht, hms⟩ := List.forall_mem_cons.1 h
    obtain ⟨hstart, hmembers⟩ := hahead
    obtain ⟨r, hp, hr⟩ := Progress.ahead_append_iff.1 hmembers
    simp only [kindsOf, List.cons_append, List.length_cons, List.length_append] at hfuel
    obtain ⟨n, rfl⟩ : ∃ n, fuel = n + 3 := Nat.exists_eq_add_of_le' (by omega)
    have hlength : (kindsOf t).length ≤ n ∧ (kindsOfMembers ms).length ≤ n + 1 := by omega
    obtain ⟨entries, hentries, hrest⟩ := exists_buildFlowEntries hms hr hlength.2
    obtain ⟨key, node, hkey, hshows, hbuild⟩ := exists_buildFlowEntries_cons ht hp hlength.1 hrest
    exact ⟨_, .object (.cons hkey hshows hentries) p.mark, by rw [build_mapping hstart, hbuild]⟩

theorem builtAs_of_legible (h : Legible t) : BuiltAs t := by
  induction h with
  | bool b => exact builtAs_scalar rfl (.bool b)
  | @string s h => exact builtAs_scalar rfl (.string s)
  | list h ih => exact builtAs_list ih
  | object hkeys h ih => exact builtAs_object ih

end Trees

end Node

/-! ## Documents -/

/-- A document that begins with a node, without directives and marks. -/
theorem Document.ofTokens_eq {token : Token} (h : Node.Begins token.kind) (rest : List Token) :
    ofTokens (token :: rest) = ofBuilt (Node.build (4 * (token :: rest).length + 4) true false
      { tokens := token :: rest, handles := defaultHandles }) := by
  obtain ⟨kind, start, stop⟩ := token
  obtain ⟨style, text, rfl⟩ | rfl | rfl := h
  all_goals simp [ofTokens, directives]

/-- **The document of a printed object** shows the object, and nothing else is in the text. -/
theorem exists_ofChars_pretty {ms : Members} (h : Legible (.object ms)) :
    ∃ node, Shows (.object ms) node ∧
      Document.ofChars ((Tree.object ms).pretty ++ ['\n']) = ⟨node, true⟩ := by
  obtain ⟨ts, es, htokens, hts, hes⟩ := List.map_eq_append_iff.1 (kinds_tokens_pretty h)
  obtain ⟨⟨_, start, stop⟩, rfl, rfl⟩ := List.map_eq_singleton_iff.1 hes
  obtain ⟨kind, kinds, hkinds, hbegins⟩ := Node.exists_kindsOf_eq_cons (.object ms)
  obtain ⟨token, rest, rfl, rfl, -⟩ := List.map_eq_cons_iff.1 (hts.trans hkinds)
  rw [Document.ofChars, htokens, List.cons_append, Document.ofTokens_eq hbegins]
  -- A node takes no more steps than it has tokens.
  have hfuel : (kindsOf (.object ms)).length ≤
      4 * (token :: (rest ++ [⟨.streamEnd, start, stop⟩])).length + 4 := by
    rw [← hts, List.length_map]
    simp
    omega
  have hahead := Progress.ahead_of_map_eq hts [⟨.streamEnd, start, stop⟩] Document.defaultHandles []
  obtain ⟨node, hshows, hbuild⟩ := Node.builtAs_of_legible h _ true false _ _ hahead hfuel
  rw [List.cons_append] at hbuild
  exact ⟨node, hshows, by rw [hbuild]; rfl⟩

end RemoteRollout.Yaml
