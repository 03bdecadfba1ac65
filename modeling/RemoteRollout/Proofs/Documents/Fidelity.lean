import RemoteRollout.Proofs.Documents.RoundTrip

/-!
# What a file says is what is served

A document that is read as a set of rules, or as a remote configuration, and written again says the
same as before: the same rules and requests in the same order, opaque values that are equal as values,
and the known fields with their values or their defaults. What no field stands for is gone. Writing once
is enough: the text that was written is written again as it is.
-/

namespace RemoteRollout

open Json (Tree Reader Source SourceMembers SameValue Carried Gives maxDepth keyOrder)
open Text.Utf8 (encode)

/-! ## What a text says of a source -/

/-- A list says of a list what its items say of the items, one by one. -/
def ItemsServed {α : Type} (r : Source → α → Prop) (t : Source) (xs : List α) : Prop :=
  ∃ ts, t = .list ts ∧ List.Forall₂ r ts xs

/-- A string of the source. -/
def StringServed (t : Source) (s : String) : Prop := t = .string (some s)

/-- A truth value of the source. -/
def BoolServed (t : Source) (b : Bool) : Prop := t = .bool b

/-- A rule says the conditions and gathering functions of the source, unless they are empty. -/
inductive RuleServed : Source → Tree → Prop where
  | intro {ms : SourceMembers} {conditions : List Tree} {functions : Tree}
      (hconditions : Carried (ItemsServed SameValue) [] (SourceMembers.get? "conditions" ms) conditions)
      (hfunctions : Carried SameValue .null (SourceMembers.get? "gathering_functions" ms) functions) :
      RuleServed (.object ms) (.object (
        (if conditions.isEmpty then [] else [("conditions", .list conditions)]) ++
          (if functions = .null then [] else [("gathering_functions", functions)])))

/-- A set of rules says the version and the rules of the source. -/
inductive RulesServed : Source → Tree → Prop where
  | intro {ms : SourceMembers} {version : String} {rules : List Tree}
      (hversion : Carried StringServed "" (SourceMembers.get? "version" ms) version)
      (hrules : Carried (ItemsServed RuleServed) [] (SourceMembers.get? "rules" ms) rules) :
      RulesServed (.object ms) (.object [("rules", .list rules), ("version", .string version)])

/-- A request for logs says the fields of the source. -/
inductive LogServed : Source → Tree → Prop where
  | intro {ms : SourceMembers} {nameSpace podNameRegex : String} {previous : Bool}
      {messages : List String}
      (hnameSpace : SourceMembers.get? "namespace" ms = some (.string (some nameSpace)))
      (hpodNameRegex : SourceMembers.get? "pod_name_regex" ms = some (.string (some podNameRegex)))
      (hprevious : Carried BoolServed false (SourceMembers.get? "previous" ms) previous)
      (hmessages : Carried (ItemsServed StringServed) [] (SourceMembers.get? "messages" ms) messages) :
      LogServed (.object ms) (.object [
        ("messages", .list (messages.map .string)),
        ("namespace", .string nameSpace),
        ("pod_name_regex", .string podNameRegex),
        ("previous", .bool previous)])

/-- A configuration says the version, the rules and the requests of the source. -/
inductive ConfigurationServed : Source → Tree → Prop where
  | intro {ms : SourceMembers} {version : String} {rules logs : List Tree}
      (hversion : SourceMembers.get? "version" ms = some (.string (some version)))
      (hrules : Carried (ItemsServed RuleServed) []
        (SourceMembers.get? "conditional_gathering_rules" ms) rules)
      (hlogs : Carried (ItemsServed LogServed) [] (SourceMembers.get? "container_logs" ms) logs) :
      ConfigurationServed (.object ms) (.object [
        ("conditional_gathering_rules", .list rules),
        ("container_logs", .list logs),
        ("version", .string version)])

/-! ## Records that are written as objects -/

namespace Json.Source

/-- The source is an object. -/
def IsObject (t : Source) : Prop := ∃ ms, t = .object ms

/-- The items are objects if the source is a list. -/
def HoldsObjects (t : Source) : Prop := ∀ ts, t = .list ts → ∀ item ∈ ts, item.IsObject

end Json.Source

/-- The set of rules and all its rules are written as objects. -/
def Rules.InObjects (t : Source) : Prop :=
  ∃ ms, t = .object ms ∧ ∀ m ∈ ms, m.1 = some "rules" → m.2.HoldsObjects

/-- The configuration, its rules and its requests are written as objects. -/
def RemoteConfiguration.InObjects (t : Source) : Prop :=
  ∃ ms, t = .object ms ∧ ∀ m ∈ ms,
    m.1 = some "conditional_gathering_rules" ∨ m.1 = some "container_logs" → m.2.HoldsObjects

/-! ## Lists -/

theorem ItemsServed.imp {α : Type} {r q : Source → α → Prop} {t : Source} {xs : List α}
    (h : ItemsServed r t xs) (hr : ∀ u x, r u x → q u x) : ItemsServed q t xs := by
  obtain ⟨ts, rfl, hitems⟩ := h
  exact ⟨ts, rfl, hitems.imp hr⟩

theorem itemsServed_of_gives {α : Type} {read : Reader α} {depth : Nat} {t : Source} {xs : List α}
    (h : Gives (Json.readList read) depth t xs) :
    ∃ inner, depth = inner + 1 ∧ ItemsServed (Gives read inner) t xs := by
  obtain ⟨inner, ts, rfl, rfl, hitems⟩ := h.list
  exact ⟨inner, rfl, ts, rfl, hitems⟩

/-! ## Rules -/

namespace Rule

theorem conditions_slot :
    layout.Slot "conditions" false (·.conditions) (Json.readList Json.readTree) where
  field := ⟨_, rfl, fun _ _ => rfl⟩
  others := by simp [layout]
  blank := rfl

theorem gatheringFunctions_slot :
    layout.Slot "gathering_functions" false (·.gatheringFunctions) Json.readTree where
  field := ⟨_, rfl, fun _ _ => rfl⟩
  others := by simp [layout]
  blank := rfl

variable {r : Rule}

theorem canonical_tree (h : r.Plain) : r.tree.Canonical := by
  rw [tree_eq, Tree.canonical_object_iff, forall_members_iff]
  refine ⟨?_, fun _ => .list fun t ht => (h.conditions t ht).1, fun _ => h.gatheringFunctions.1⟩
  have hkeys : keyOrder "conditions" "gathering_functions" = .lt := by decide
  unfold members
  split
  all_goals split
  all_goals simp [Json.Members.Ascending, hkeys]

/-- A rule that was read says what the source says. -/
theorem served_of_gives {depth : Nat} {t : Source} (hobject : t.IsObject)
    (h : Gives read depth t r) :
    RuleServed t r.tree ∧ r.Plain ∧ r.tree.NestsWithin depth := by
  obtain ⟨draft, hdraft, rfl⟩ := h.map
  obtain ⟨inner, ms, rfl, rfl, hdraft⟩ := Json.Layout.exists_of_gives hobject hdraft
  have hconditions := conditions_slot.carried hdraft []
  have hfunctions := gatheringFunctions_slot.carried hdraft .null
  have hitems : ∀ {u : Source} {cs : List Tree}, Gives (Json.readList Json.readTree) inner u cs →
      ∃ k, inner = k + 1 ∧ ItemsServed (Json.ReadAs k) u cs := by
    intro u cs hcs
    obtain ⟨k, rfl, hitems⟩ := itemsServed_of_gives hcs
    exact ⟨k, rfl, hitems.imp fun _ _ htree => htree.tree⟩
  -- What the parts of the rule are, whether they were read or are defaults.
  have hlist : (∀ c ∈ draft.complete.conditions, c.Canonical ∧ c.NumbersFit) ∧
      (draft.complete.conditions ≠ [] →
        (Tree.list draft.complete.conditions).NestsWithin inner) := by
    refine hconditions.elim (p := fun cs => (∀ c ∈ cs, c.Canonical ∧ c.NumbersFit) ∧
      (cs ≠ [] → (Tree.list cs).NestsWithin inner)) (by simp) fun u _ hu => ?_
    obtain ⟨k, rfl, ts, rfl, hcs⟩ := hitems hu
    exact ⟨Json.forall_of_forall₂ hcs fun _ _ htree => ⟨htree.canonical, htree.fit⟩,
      fun _ => .list (Json.forall_of_forall₂ hcs fun _ _ htree => htree.nests)⟩
  have hvalue : (draft.complete.gatheringFunctions.Canonical ∧
      draft.complete.gatheringFunctions.NumbersFit) ∧
      draft.complete.gatheringFunctions.NestsWithin inner :=
    hfunctions.elim (p := fun v => (v.Canonical ∧ v.NumbersFit) ∧ v.NestsWithin inner) (by simp)
      fun u _ hu => ⟨⟨hu.tree.canonical, hu.tree.fit⟩, hu.tree.nests⟩
  refine ⟨.intro ?_ ?_, ⟨hlist.1, hvalue.1⟩, ?_⟩
  · refine hconditions.map id fun u _ hu => ?_
    obtain ⟨k, -, hread⟩ := hitems hu
    exact hread.imp fun _ _ htree => htree.same
  · exact hfunctions.map id fun u _ hu => hu.tree.same
  · rw [tree_eq, Tree.nestsWithin_object_iff, forall_members_iff]
    exact ⟨hlist.2, fun _ => hvalue.2⟩

end Rule

/-- Rules that were read say what the items of a list say. -/
theorem served_of_gives_rules {depth : Nat} {t : Source} {rs : List Rule} (hobjects : t.HoldsObjects)
    (h : Gives (Json.readList Rule.read) (depth + 1) t rs) :
    ItemsServed RuleServed t (rs.map fun r => r.tree.canonical) ∧
      ∀ r ∈ rs, r.Plain ∧ r.tree.NestsWithin depth := by
  obtain ⟨inner, ts, hdepth, rfl, hitems⟩ := h.list
  cases hdepth
  have hrules : List.Forall₂
      (fun u r => RuleServed u r.tree.canonical ∧ r.Plain ∧ r.tree.NestsWithin depth) ts rs := by
    refine ((List.forall₂_and_left ts rs).2 ⟨hobjects ts rfl, hitems⟩).imp ?_
    rintro u r ⟨hobject, hgives⟩
    obtain ⟨hserved, hplain, hnest⟩ := Rule.served_of_gives hobject hgives
    exact ⟨by rwa [(Rule.canonical_tree hplain).canonical_eq], hplain, hnest⟩
  exact ⟨⟨ts, rfl, List.forall₂_map_right_iff.2 (hrules.imp fun _ _ hr => hr.1)⟩,
    Json.forall_of_forall₂ hrules fun _ _ hr => hr.2⟩

namespace Rules

theorem version_slot : layout.Slot "version" false (·.version) Json.readString where
  field := ⟨_, rfl, fun _ _ => rfl⟩
  others := by simp [layout]
  blank := rfl

theorem rules_slot : layout.Slot "rules" false (·.rules) (Json.readList Rule.read) where
  field := ⟨_, rfl, fun _ _ => rfl⟩
  others := by simp [layout]
  blank := rfl

theorem canonical_tree_eq (r : Rules) : r.tree.canonical =
    .object [("rules", .list (r.rules.map fun rule => rule.tree.canonical)),
      ("version", .string r.version)] := by
  have hkeys : keyOrder "rules" "version" = .lt := by decide
  simp [tree, Tree.canonical_object_eq, Json.Members.canonical, Json.Members.insert, hkeys]

/-- A set of rules that was read says what the source says. -/
theorem served_of_gives {r : Rules} {depth : Nat} {t : Source} (hobjects : InObjects t)
    (h : Gives read (depth + 2) t r) :
    RulesServed t r.tree.canonical ∧ (∀ rule ∈ r.rules, rule.Plain) ∧
      r.tree.NestsWithin (depth + 2) := by
  obtain ⟨ms, rfl, hlists⟩ := hobjects
  obtain ⟨draft, hdraft, rfl⟩ := h.map
  have hversion := version_slot.carried hdraft ""
  have hrules := rules_slot.carried hdraft []
  have hread : ∀ u, SourceMembers.get? "rules" ms = some u →
      Gives (Json.readList Rule.read) (depth + 1) u draft.complete.rules →
      ItemsServed RuleServed u (draft.complete.rules.map fun rule => rule.tree.canonical) ∧
        ∀ rule ∈ draft.complete.rules, rule.Plain ∧ rule.tree.NestsWithin depth :=
    fun u hu hgives => served_of_gives_rules (hlists _ (SourceMembers.mem_of_get? hu) rfl) hgives
  have hall : ∀ rule ∈ draft.complete.rules, rule.Plain ∧ rule.tree.NestsWithin depth :=
    hrules.elim (p := fun rs => ∀ rule ∈ rs, rule.Plain ∧ rule.tree.NestsWithin depth) (by simp)
      fun u hu hgives => (hread u hu hgives).2
  refine ⟨?_, fun rule hrule => (hall rule hrule).1, ?_⟩
  · rw [canonical_tree_eq]
    exact .intro (hversion.map id fun u _ hu => hu.string)
      (hrules.map (·.map fun rule => rule.tree.canonical) fun u hu hgives => (hread u hu hgives).1)
  · rw [nestsWithin_tree_iff]
    exact fun rule hrule => (hall rule hrule).2

end Rules

/-! ## Remote configurations -/

namespace ContainerLogRequest

theorem nameSpace_slot : layout.Slot "namespace" true (·.nameSpace) Json.readString where
  field := ⟨_, rfl, fun _ _ => rfl⟩
  others := by simp [layout]
  blank := rfl

theorem podNameRegex_slot : layout.Slot "pod_name_regex" true (·.podNameRegex) Json.readString where
  field := ⟨_, rfl, fun _ _ => rfl⟩
  others := by simp [layout]
  blank := rfl

theorem previous_slot : layout.Slot "previous" false (·.previous) Json.readBool where
  field := ⟨_, rfl, fun _ _ => rfl⟩
  others := by simp [layout]
  blank := rfl

theorem messages_slot :
    layout.Slot "messages" false (·.messages) (Json.readList Json.readString) where
  field := ⟨_, rfl, fun _ _ => rfl⟩
  others := by simp [layout]
  blank := rfl

theorem canonical_tree_eq (r : ContainerLogRequest) : r.tree.canonical =
    .object [("messages", .list (r.messages.map .string)), ("namespace", .string r.nameSpace),
      ("pod_name_regex", .string r.podNameRegex), ("previous", .bool r.previous)] := by
  -- The fields are written in another order than that of their names.
  have hkeys : keyOrder "pod_name_regex" "namespace" = .gt ∧ keyOrder "previous" "namespace" = .gt ∧
      keyOrder "previous" "pod_name_regex" = .gt ∧ keyOrder "messages" "namespace" = .lt := by
    decide
  simp [tree, Tree.canonical_object_eq, Json.Members.canonical, Json.Members.insert, hkeys]

/-- A request that was read says what the source says. -/
theorem served_of_gives {r : ContainerLogRequest} {depth : Nat} {t : Source} (hobject : t.IsObject)
    (h : Gives read depth t r) : LogServed t r.tree.canonical := by
  obtain ⟨draft, hdraft, rfl⟩ := h.map
  obtain ⟨inner, ms, rfl, rfl, hdraft⟩ := Json.Layout.exists_of_gives hobject hdraft
  obtain ⟨nameSpace, hnameSpace, hgivesNameSpace⟩ := nameSpace_slot.given hdraft ""
  obtain ⟨podNameRegex, hpodNameRegex, hgivesPodNameRegex⟩ := podNameRegex_slot.given hdraft ""
  have hprevious := previous_slot.carried hdraft false
  have hmessages := messages_slot.carried hdraft []
  rw [canonical_tree_eq]
  refine .intro ?_ ?_ (hprevious.map id fun u _ hu => hu.bool) (hmessages.map id fun u _ hu => ?_)
  · rw [hnameSpace, hgivesNameSpace.string]
    rfl
  · rw [hpodNameRegex, hgivesPodNameRegex.string]
    rfl
  · obtain ⟨k, -, hitems⟩ := itemsServed_of_gives hu
    exact hitems.imp fun _ _ hstring => hstring.string

end ContainerLogRequest

namespace RemoteConfiguration

theorem version_slot : layout.Slot "version" true (·.version) Json.readString where
  field := ⟨_, rfl, fun _ _ => rfl⟩
  others := by simp [layout]
  blank := rfl

theorem conditionalRules_slot : layout.Slot "conditional_gathering_rules" false (·.conditionalRules)
    (Json.readList Rule.read) where
  field := ⟨_, rfl, fun _ _ => rfl⟩
  others := by simp [layout]
  blank := rfl

theorem containerLogs_slot : layout.Slot "container_logs" false (·.containerLogs)
    (Json.readList ContainerLogRequest.read) where
  field := ⟨_, rfl, fun _ _ => rfl⟩
  others := by simp [layout]
  blank := rfl

theorem canonical_tree_eq (r : RemoteConfiguration) : r.tree.canonical =
    .object [
      ("conditional_gathering_rules", .list (r.conditionalRules.map fun rule => rule.tree.canonical)),
      ("container_logs", .list (r.containerLogs.map fun log => log.tree.canonical)),
      ("version", .string r.version)] := by
  have hkeys : keyOrder "conditional_gathering_rules" "version" = .lt ∧
      keyOrder "container_logs" "conditional_gathering_rules" = .gt ∧
      keyOrder "container_logs" "version" = .lt := by
    decide
  simp [tree, Tree.canonical_object_eq, Json.Members.canonical, Json.Members.insert, hkeys]

/-- A configuration that was read says what the source says. -/
theorem served_of_gives {r : RemoteConfiguration} {depth : Nat} {t : Source}
    (hobjects : InObjects t) (h : Gives read (depth + 4) t r) :
    ConfigurationServed t r.tree.canonical ∧ (∀ rule ∈ r.conditionalRules, rule.Plain) ∧
      r.tree.NestsWithin (depth + 4) := by
  obtain ⟨ms, rfl, hlists⟩ := hobjects
  obtain ⟨draft, hdraft, rfl⟩ := h.map
  obtain ⟨version, hversion, hgivesVersion⟩ := version_slot.given hdraft ""
  have hrules := conditionalRules_slot.carried hdraft []
  have hlogs := containerLogs_slot.carried hdraft []
  have hread : ∀ u, SourceMembers.get? "conditional_gathering_rules" ms = some u →
      Gives (Json.readList Rule.read) (depth + 3) u draft.complete.conditionalRules →
      ItemsServed RuleServed u
          (draft.complete.conditionalRules.map fun rule => rule.tree.canonical) ∧
        ∀ rule ∈ draft.complete.conditionalRules,
          rule.Plain ∧ rule.tree.NestsWithin (depth + 2) :=
    fun u hu hgives =>
      served_of_gives_rules (hlists _ (SourceMembers.mem_of_get? hu) (.inl rfl)) hgives
  have hall : ∀ rule ∈ draft.complete.conditionalRules,
      rule.Plain ∧ rule.tree.NestsWithin (depth + 2) :=
    hrules.elim (p := fun rs => ∀ rule ∈ rs, rule.Plain ∧ rule.tree.NestsWithin (depth + 2))
      (by simp) fun u hu hgives => (hread u hu hgives).2
  refine ⟨?_, fun rule hrule => (hall rule hrule).1, ?_⟩
  · rw [canonical_tree_eq]
    refine .intro ?_
      (hrules.map (·.map fun rule => rule.tree.canonical) fun u hu hgives => (hread u hu hgives).1)
      (hlogs.map (·.map fun log => log.tree.canonical) fun u hu hgives => ?_)
    · rw [hversion, hgivesVersion.string]
      rfl
    · obtain ⟨inner, ts, -, rfl, hitems⟩ := hgives.list
      refine ⟨ts, rfl, List.forall₂_map_right_iff.2 ?_⟩
      have hobjects := hlists _ (SourceMembers.mem_of_get? hu) (.inr rfl) ts rfl
      exact ((List.forall₂_and_left ts _).2 ⟨hobjects, hitems⟩).imp fun _ _ hlog =>
        ContainerLogRequest.served_of_gives hlog.1 hlog.2
  · rw [nestsWithin_tree_iff]
    exact fun rule hrule => (hall rule hrule).2

end RemoteConfiguration

/-! ## Texts -/

/-- The text with which a document is answered that is read as a record. -/
def rewritten? {α : Type} (read : Reader α) (tree : α → Tree) (print : Tree → List Char)
    (cs : List Char) : Option (List Char) :=
  (Json.decode read (encode cs)).toOption.map fun x => print (tree x)

/-- The text, read as plain `JSON`, says what the relation wants, and it is rewritten as it is. -/
def Faithful (served : Tree → Prop) (rewrite? : List Char → Option (List Char)) (text : List Char) :
    Prop :=
  (∃ out, Json.decode Json.readTree (encode text) = .ok out ∧ served out) ∧
    rewrite? text = some text

/-- What comes back and nests within the limits is rewritten faithfully. -/
theorem Faithful.of_recovers {α : Type} {read : Reader α} {tree : α → Tree} {x : α}
    {served : Tree → Prop} (h : Json.Recovers read maxDepth (tree x) x) (hfit : (tree x).NumbersFit)
    (hnest : (tree x).NestsWithin maxDepth) (hserved : served (tree x).canonical)
    {print : Tree → List Char} (hprint : print ∈ [Tree.compact, Tree.pretty]) :
    Faithful served (rewritten? read tree print) (print (tree x)) := by
  have hdocument : (tree x).source.Document (print (tree x)) := by
    simp only [List.mem_cons, List.not_mem_nil, or_false] at hprint
    rcases hprint with rfl | rfl
    · exact Json.document_compact hfit
    · exact Json.document_pretty hfit
  -- One scan of the text serves both readers, that of the record and that of any value.
  have hshows := (Json.scan_document hdocument).1
  have hread := (Json.decode_eq_ok_iff hdocument).2 (h _ hshows)
  have htree := (Json.decode_eq_ok_iff hdocument).2 (Json.recovers_tree hnest _ hshows)
  refine ⟨⟨(tree x).canonical, htree, hserved⟩, ?_⟩
  rw [rewritten?, hread]
  rfl

/-- **What is served is what the file says**: for documents of any spelling and layout whose records
are written as objects. -/
theorem rewritten_faithful {t : Source} {cs : List Char} (h : t.Document cs)
    {print : Tree → List Char} (hprint : print ∈ [Tree.compact, Tree.pretty]) {text : List Char} :
    (RemoteConfiguration.InObjects t →
        rewritten? RemoteConfiguration.read RemoteConfiguration.tree print cs = some text →
        Faithful (ConfigurationServed t)
          (rewritten? RemoteConfiguration.read RemoteConfiguration.tree print) text) ∧
      (Rules.InObjects t → rewritten? Rules.read Rules.tree print cs = some text →
        Faithful (RulesServed t) (rewritten? Rules.read Rules.tree print) text) := by
  have hgives : ∀ {α : Type} {read : Reader α} {tree : α → Tree},
      rewritten? read tree print cs = some text →
        ∃ x, Gives read maxDepth t x ∧ print (tree x) = text := by
    intro α read tree htext
    obtain ⟨x, hx, hprinted⟩ := Option.map_eq_some_iff.1 htext
    have hread := (Json.decode_eq_ok_iff h).1 (Json.eq_ok_of_toOption hx)
    exact ⟨x, ⟨_, (Json.scan_document h).1, hread⟩, hprinted⟩
  constructor
  · intro hobjects htext
    obtain ⟨x, hx, rfl⟩ := hgives htext
    obtain ⟨hserved, hplain, hnest⟩ := RemoteConfiguration.served_of_gives hobjects hx
    exact .of_recovers (RemoteConfiguration.recovers hplain hnest)
      (RemoteConfiguration.numbersFit_tree hplain) hnest hserved hprint
  · intro hobjects htext
    obtain ⟨x, hx, rfl⟩ := hgives htext
    obtain ⟨hserved, hplain, hnest⟩ := Rules.served_of_gives hobjects hx
    exact .of_recovers (Rules.recovers hplain hnest) (Rules.numbersFit_tree hplain) hnest hserved hprint

/-- Rules written as one would not: a member that nobody knows, a key that is repeated in an opaque
value, an empty list, and a rule that says nothing. -/
def oddRules : Tree :=
  .list [
    .object [
      ("gathering_functions", .object [("b", .number (.whole 1)), ("a", .string "é"), ("b", .null)]),
      ("conditions", .list [])],
    .object [("comment", .list [.bool true])]]

/-- What the rules come to. -/
def oddRulesRead : List Rule := [⟨[], .object [("a", .string "é"), ("b", .null)]⟩, {}]

/-- A set of these rules without a version. -/
def oddSet : Tree := .object [("rules", oddRules)]

/-- A configuration with these rules, its fields out of order, and a request without its defaults. -/
def oddConfiguration : Tree :=
  .object [
    ("container_logs", .list [
      .object [("pod_name_regex", .string ".*"), ("since", .null), ("namespace", .string "\n")]]),
    ("conditional_gathering_rules", oddRules),
    ("version", .string "1")]

/-- What the configuration comes to. -/
def oddConfigurationRead : RemoteConfiguration := ⟨"1", oddRulesRead, [⟨"\n", ".*", false, []⟩]⟩

theorem oddRules_holdObjects : oddRules.source.HoldsObjects := by
  intro ts hts item hitem
  cases hts
  simp only [Tree.sources, List.mem_cons, List.not_mem_nil, or_false] at hitem
  rcases hitem with rfl | rfl
  all_goals exact ⟨_, rfl⟩

theorem oddConfiguration_inObjects : RemoteConfiguration.InObjects oddConfiguration.source := by
  refine ⟨_, rfl, ?_⟩
  simp only [Tree.sourceMembers, List.forall_mem_cons]
  refine ⟨fun _ => ?_, fun _ => oddRules_holdObjects, ?_, by simp⟩
  · intro ts hts item hitem
    cases hts
    rw [List.mem_singleton.1 hitem]
    exact ⟨_, rfl⟩
  · simp

theorem oddSet_inObjects : Rules.InObjects oddSet.source :=
  ⟨_, rfl, by simpa [Tree.sourceMembers] using oddRules_holdObjects⟩

/-- The configuration, laid out over many lines, and the set, in a single one, are rewritten
faithfully. -/
theorem odd_documents_faithful :
    (oddConfiguration.source.Document oddConfiguration.pretty ∧
      RemoteConfiguration.InObjects oddConfiguration.source ∧
      rewritten? RemoteConfiguration.read RemoteConfiguration.tree Tree.compact
        oddConfiguration.pretty = some oddConfigurationRead.tree.compact ∧
      Faithful (ConfigurationServed oddConfiguration.source)
        (rewritten? RemoteConfiguration.read RemoteConfiguration.tree Tree.compact)
        oddConfigurationRead.tree.compact) ∧
    oddSet.source.Document oddSet.compact ∧ Rules.InObjects oddSet.source ∧
      rewritten? Rules.read Rules.tree Tree.pretty oddSet.compact =
        some (Rules.tree ⟨"", oddRulesRead⟩).pretty ∧
      Faithful (RulesServed oddSet.source) (rewritten? Rules.read Rules.tree Tree.pretty)
        (Rules.tree ⟨"", oddRulesRead⟩).pretty := by
  have hconfiguration : oddConfiguration.source.Document oddConfiguration.pretty :=
    Json.document_pretty (by simp [oddConfiguration, oddRules])
  have hset : oddSet.source.Document oddSet.compact :=
    Json.document_compact (by simp [oddSet, oddRules])
  have hconfigurationText : rewritten? RemoteConfiguration.read RemoteConfiguration.tree Tree.compact
      oddConfiguration.pretty = some oddConfigurationRead.tree.compact := by
    decide +kernel
  have hsetText : rewritten? Rules.read Rules.tree Tree.pretty oddSet.compact =
      some (Rules.tree ⟨"", oddRulesRead⟩).pretty := by
    decide +kernel
  exact ⟨⟨hconfiguration, oddConfiguration_inObjects, hconfigurationText,
      (rewritten_faithful hconfiguration (by simp)).1 oddConfiguration_inObjects hconfigurationText⟩,
    hset, oddSet_inObjects, hsetText,
    (rewritten_faithful hset (by simp)).2 oddSet_inObjects hsetText⟩

end RemoteRollout
