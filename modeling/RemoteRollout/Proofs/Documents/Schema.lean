import RemoteRollout.Proofs.Documents.Fidelity
import RemoteRollout.Proofs.Json.RecordShapes

/-!
# What a remote configuration is written like

The shapes of a remote configuration and of the records in it: each of them is an object with its fields
as members, or a list with its fields as items. Exactly the documents of this shape are accepted, and
neither the other members of an object nor the order of its members makes a difference
(`RemoteConfiguration.decode_shape`).
-/

namespace RemoteRollout

open Json (Tree Shape FieldShape Reads maxDepth)
open Text.Utf8 (encode)

namespace Rule

/-- The fields of a rule. -/
def fieldShapes : List FieldShape := [
  ⟨"conditions", false, .list .any⟩,
  ⟨"gathering_functions", false, .any⟩]

/-- The shape of a rule. -/
def shape : Shape := .record fieldShapes

theorem shaped : layout.Shaped fieldShapes where
  fields :=
    .cons ⟨rfl, _, _, _, conditions_slot, .list .any⟩ <|
    .cons ⟨rfl, _, _, _, gatheringFunctions_slot, .any⟩ .nil
  names := by decide
  ext d d' h := by
    simp only [fieldShapes, List.forall_mem_cons] at h
    obtain ⟨hconditions, hfunctions, -⟩ := h
    cases d
    cases d'
    cases hconditions _ _ _ conditions_slot (.list .any)
    cases hfunctions _ _ _ gatheringFunctions_slot .any
    rfl

theorem reads : Reads read shape := shaped.reads.map Draft.complete

end Rule

namespace ContainerLogRequest

/-- The fields of a request. -/
def fieldShapes : List FieldShape := [
  ⟨"namespace", true, .string⟩,
  ⟨"pod_name_regex", true, .string⟩,
  ⟨"previous", false, .bool⟩,
  ⟨"messages", false, .list .string⟩]

/-- The shape of a request. -/
def shape : Shape := .record fieldShapes

theorem shaped : layout.Shaped fieldShapes where
  fields :=
    .cons ⟨rfl, _, _, _, nameSpace_slot, .string _⟩ <|
    .cons ⟨rfl, _, _, _, podNameRegex_slot, .string _⟩ <|
    .cons ⟨rfl, _, _, _, previous_slot, .bool⟩ <|
    .cons ⟨rfl, _, _, _, messages_slot, .list (.string _)⟩ .nil
  names := by decide
  ext d d' h := by
    simp only [fieldShapes, List.forall_mem_cons] at h
    obtain ⟨hnameSpace, hpodNameRegex, hprevious, hmessages, -⟩ := h
    cases d
    cases d'
    cases hnameSpace _ _ _ nameSpace_slot (.string _)
    cases hpodNameRegex _ _ _ podNameRegex_slot (.string _)
    cases hprevious _ _ _ previous_slot .bool
    cases hmessages _ _ _ messages_slot (.list (.string _))
    rfl

theorem reads : Reads read shape := shaped.reads.map Draft.complete

end ContainerLogRequest

namespace RemoteConfiguration

/-- The fields of a configuration. -/
def fieldShapes : List FieldShape := [
  ⟨"version", true, .string⟩,
  ⟨"conditional_gathering_rules", false, .list Rule.shape⟩,
  ⟨"container_logs", false, .list ContainerLogRequest.shape⟩]

/-- The shape of a configuration. -/
def shape : Shape := .record fieldShapes

theorem shaped : layout.Shaped fieldShapes where
  fields :=
    .cons ⟨rfl, _, _, _, version_slot, .string _⟩ <|
    .cons ⟨rfl, _, _, _, conditionalRules_slot, Rule.reads.list⟩ <|
    .cons ⟨rfl, _, _, _, containerLogs_slot, ContainerLogRequest.reads.list⟩ .nil
  names := by decide
  ext d d' h := by
    simp only [fieldShapes, List.forall_mem_cons] at h
    obtain ⟨hversion, hrules, hlogs, -⟩ := h
    cases d
    cases d'
    cases hversion _ _ _ version_slot (.string _)
    cases hrules _ _ _ conditionalRules_slot Rule.reads.list
    cases hlogs _ _ _ containerLogs_slot ContainerLogRequest.reads.list
    rfl

theorem reads : Reads read shape := shaped.reads.map Draft.complete

/-- **What a remote configuration is written like**: a document that nests no deeper than 127 levels,
in any layout and with any spelling of its strings, is read as a configuration exactly if it has the
shape of one; and documents that are alike, with members in another order or with other members that
no field is named for, are read as the same configuration. -/
theorem decode_shape {t : Tree} {cs : List Char} (hdocument : t.source.Document cs)
    (hnest : t.NestsWithin 127) :
    ((∃ r, Json.decode read (encode cs) = .ok r) ↔ shape.Fits t) ∧
      ∀ (t' : Tree) (cs' : List Char), t'.source.Document cs' → t'.NestsWithin 127 →
        shape.Alike t t' →
          (Json.decode read (encode cs)).toOption = (Json.decode read (encode cs')).toOption := by
  obtain ⟨haccepts, hagrees⟩ := reads.decode hdocument hnest
  exact ⟨haccepts, fun t' cs' hdocument' hnest' halike => hagrees hdocument' hnest' halike⟩

/-- A configuration in which a request is a list, with its fields and those of its rule in odd places,
and a member that no field is named for. -/
def scattered : Tree :=
  .object [
    ("note", .null),
    ("container_logs", .list [.list [.string "ns", .string ".*", .bool true]]),
    ("conditional_gathering_rules", .list [
      .object [("gathering_functions", .number (.whole 7)), ("conditions", .list [])]]),
    ("version", .string "1")]

/-- The same configuration with all fields in their places. -/
def gathered : Tree :=
  .object [
    ("version", .string "1"),
    ("conditional_gathering_rules", .list [
      .object [("conditions", .list []), ("gathering_functions", .number (.whole 7))]]),
    ("container_logs", .list [.list [.string "ns", .string ".*", .bool true]])]

theorem fits_scattered : shape.Fits scattered := by
  simp [shape, fieldShapes, Rule.shape, Rule.fieldShapes, ContainerLogRequest.shape,
    ContainerLogRequest.fieldShapes, scattered, Shape.record, Shape.RecordFits, Shape.list,
    Shape.ListFits, Shape.FitInOrder, Shape.string, Shape.bool, Shape.any, Shape.plain,
    FieldShape.Admits, Json.Members.named]

theorem scattered_alike_gathered : shape.Alike scattered gathered := by
  have hrule : Rule.shape.Alike
      (.object [("gathering_functions", .number (.whole 7)), ("conditions", .list [])])
      (.object [("conditions", .list []), ("gathering_functions", .number (.whole 7))]) :=
    Shape.alike_of_perm _ (.swap ..)
  intro f hf
  simp only [fieldShapes, List.mem_cons, List.not_mem_nil, or_false] at hf
  rcases hf with rfl | rfl | rfl
  · exact Shape.sameValues_of_perm _ (.refl _)
  · exact ⟨_, .refl _, .cons (.cons hrule .nil) .nil⟩
  · exact Shape.sameValues_of_perm _ (.refl _)

/-- Both texts are accepted, and read as one configuration. -/
theorem decode_scattered :
    scattered.source.Document scattered.pretty ∧ scattered.NestsWithin 127 ∧
      ∃ r, Json.decode read (encode scattered.pretty) = .ok r ∧
        Json.decode read (encode gathered.compact) = .ok r := by
  have hdocument : scattered.source.Document scattered.pretty :=
    Json.document_pretty (by simp [scattered])
  have hdocument' : gathered.source.Document gathered.compact :=
    Json.document_compact (by simp [gathered])
  have hnest : scattered.NestsWithin 127 := by simp [scattered]
  have hnest' : gathered.NestsWithin 127 := by simp [gathered]
  obtain ⟨haccepts, hagrees⟩ := decode_shape hdocument hnest
  obtain ⟨r, hr⟩ := haccepts.2 fits_scattered
  have hsame := hagrees gathered gathered.compact hdocument' hnest' scattered_alike_gathered
  rw [hr] at hsame
  exact ⟨hdocument, hnest, r, hr, Json.eq_ok_of_toOption hsame.symm⟩

end RemoteConfiguration

end RemoteRollout
