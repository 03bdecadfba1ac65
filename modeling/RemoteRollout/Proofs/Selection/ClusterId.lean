import Mathlib.Data.List.Infix
import RemoteRollout.Proofs.Reading
import RemoteRollout.Selection

/-!
# Cluster ids in user agents

The id of a cluster follows the first mark in a user agent. No proper end of the mark begins it anew
(`clusterMark_unbordered`), so a mark that follows a text without one is the first one, whatever the
two have in common (`firstMark_iff`); and the id then ends where a space or a comma follows it. A
text with a mark always has a first one, and a text without any has no id.
-/

namespace RemoteRollout

/-- No two marks overlap. -/
theorem clusterMark_unbordered :
    ∀ n < clusterMark.length, 0 < n → ¬ clusterMark.drop n <+: clusterMark := by
  decide

/-- A mark that begins before another one and is not that one lies before it. -/
theorem isInfix_of_isPrefix_append {front rest : List Char} (hfront : front ≠ [])
    (h : clusterMark <+: front ++ (clusterMark ++ rest)) : clusterMark <:+: front := by
  by_cases hlength : clusterMark.length ≤ front.length
  · exact (List.prefix_of_prefix_length_le h (List.prefix_append _ _) hlength).isInfix
  · -- The end of the first mark would begin the second one.
    have hdrop : clusterMark.drop front.length <+: clusterMark ++ rest := by
      simpa using h.drop front.length
    have hprefix : clusterMark.drop front.length <+: clusterMark :=
      List.prefix_of_prefix_length_le hdrop (List.prefix_append _ _) (by simp)
    exact absurd hprefix
      (clusterMark_unbordered _ (by omega) (List.length_pos_iff.2 hfront))

/-- What follows the first mark of a text. -/
theorem afterClusterMark_append {front : List Char} (h : ¬ clusterMark <:+: front)
    (rest : List Char) : afterClusterMark (front ++ (clusterMark ++ rest)) = some rest := by
  -- The search passes every place of the text before the mark, since no mark begins there.
  induction front with
  | nil => simp [afterClusterMark, clusterMark]
  | cons c cs ih =>
    have hnot : ¬ clusterMark <+: (c :: cs) ++ (clusterMark ++ rest) := by
      intro hprefix
      exact h (isInfix_of_isPrefix_append (List.cons_ne_nil c cs) hprefix)
    have hcs : ¬ clusterMark <:+: cs := by
      intro hinside
      exact h (hinside.trans (List.suffix_cons c cs).isInfix)
    rw [← List.isPrefixOf_iff_prefix, List.cons_append] at hnot
    rw [List.cons_append, afterClusterMark, if_neg hnot]
    exact ih hcs

/-- What may follow the id of a cluster: nothing, or what begins with a space or a comma. -/
def EndsId (rest : String) : Prop := ∀ c ∈ rest.toList.head?, c = ' ' ∨ c = ','

instance (rest : String) : Decidable (EndsId rest) :=
  Option.decidableForallMem rest.toList.head?

theorem endsClusterId_iff {c : Char} : endsClusterId c = true ↔ c = ' ' ∨ c = ',' := by
  simp [endsClusterId]

/-- The id after the first mark of a text is read up to what ends it. -/
theorem clusterId_append {front id rest : String} (hfront : ¬ "cluster/".toList <:+: front.toList)
    (hid : ∀ c ∈ id.toList, ¬ (c = ' ' ∨ c = ',')) (hrest : EndsId rest) :
    clusterId (front ++ "cluster/" ++ id ++ rest) = id := by
  have hmark : "cluster/".toList = clusterMark := by decide
  have htext : (front ++ "cluster/" ++ id ++ rest).toList =
      front.toList ++ (clusterMark ++ (id.toList ++ rest.toList)) := by
    simp [String.toList_append, hmark]
  have hinside : ∀ c ∈ id.toList, (!endsClusterId c) = true := by
    intro c hc
    simpa using mt endsClusterId_iff.1 (hid c hc)
  have hend : ∀ c ∈ rest.toList.head?, (!endsClusterId c) = false := by
    intro c hc
    simpa using endsClusterId_iff.2 (hrest c hc)
  rw [hmark] at hfront
  rw [clusterId, htext, afterClusterMark_append hfront]
  dsimp only
  rw [takeWhile_append_of_ends hinside hend, String.ofList_toList]

/-! ## Any text -/

/-- The text is cut at its first mark, wherever that begins: no other cut leaves less before it. -/
structure FirstMark (text front rest : String) : Prop where
  text_eq : text = front ++ "cluster/" ++ rest
  shortest : ∀ front' rest', text = front' ++ "cluster/" ++ rest' → front.length ≤ front'.length

/-- The id is all of the text up to what ends it. -/
structure IdAtFront (id rest : String) : Prop where
  begins : id.toList <+: rest.toList
  unended : ∀ c ∈ id.toList, ¬ (c = ' ' ∨ c = ',')
  longest : ∀ front, front <+: rest.toList → (∀ c ∈ front, ¬ (c = ' ' ∨ c = ',')) →
    front.length ≤ id.length

theorem toList_marked (front rest : String) :
    (front ++ "cluster/" ++ rest).toList = front.toList ++ (clusterMark ++ rest.toList) := by
  have hmark : "cluster/".toList = clusterMark := by decide
  rw [String.toList_append, String.toList_append, hmark, List.append_assoc]

theorem afterClusterMark_of_not_isInfix {cs : List Char} (h : ¬ clusterMark <:+: cs) :
    afterClusterMark cs = none := by
  induction cs with
  | nil => rfl
  | cons c cs ih =>
    rw [List.infix_cons_iff, not_or, ← List.isPrefixOf_iff_prefix] at h
    rw [afterClusterMark, if_neg h.1]
    exact ih h.2

/-- What comes before the first mark holds none. -/
theorem exists_front {cs : List Char} (h : clusterMark <:+: cs) :
    ∃ front rest, cs = front ++ (clusterMark ++ rest) ∧ ¬ clusterMark <:+: front := by
  induction cs with
  | nil => exact absurd h (by decide)
  | cons c cs ih =>
    by_cases hprefix : clusterMark <+: c :: cs
    · obtain ⟨rest, hrest⟩ := hprefix
      exact ⟨[], rest, hrest.symm, by decide⟩
    · obtain ⟨front, rest, rfl, hfront⟩ := ih ((List.infix_cons_iff.1 h).resolve_left hprefix)
      refine ⟨c :: front, rest, rfl, fun hinside => ?_⟩
      rcases List.infix_cons_iff.1 hinside with hstart | hlater
      · exact hprefix (hstart.trans (List.prefix_append (c :: front) _))
      · exact hfront hlater

/-- A mark is the first one if there is none before it. -/
theorem firstMark_iff {text front rest : String} :
    FirstMark text front rest ↔
      text = front ++ "cluster/" ++ rest ∧ ¬ clusterMark <:+: front.toList := by
  constructor
  · rintro ⟨htext, hshortest⟩
    refine ⟨htext, ?_⟩
    rintro ⟨before, after, hinside⟩
    -- A mark before it would cut the text earlier.
    have hearlier : text = String.ofList before ++ "cluster/" ++
        String.ofList (after ++ (clusterMark ++ rest.toList)) := by
      rw [← String.toList_inj, htext, toList_marked, toList_marked, ← hinside]
      simp
    have hle := hshortest _ _ hearlier
    rw [String.length_ofList, ← String.length_toList, ← hinside, List.length_append,
      List.length_append] at hle
    have hmark : 0 < clusterMark.length := by decide
    omega
  · rintro ⟨rfl, hfront⟩
    refine ⟨rfl, fun front' rest' htext => Nat.le_of_not_lt fun hlonger => ?_⟩
    rw [← String.toList_inj, toList_marked, toList_marked] at htext
    rw [← String.length_toList, ← String.length_toList] at hlonger
    -- What lies between the two cuts begins with the earlier mark.
    obtain ⟨between, hbetween⟩ : front'.toList <+: front.toList :=
      List.prefix_of_prefix_length_le (List.prefix_append _ _) (htext ▸ List.prefix_append _ _)
        (Nat.le_of_lt hlonger)
    have hne : between ≠ [] := by
      rintro rfl
      rw [List.append_nil] at hbetween
      exact absurd hlonger (by rw [hbetween]; exact Nat.lt_irrefl _)
    rw [← hbetween, List.append_assoc, List.append_cancel_left_eq] at htext
    have hmark : clusterMark <+: between ++ (clusterMark ++ rest.toList) := by
      rw [htext]
      exact List.prefix_append _ _
    have hinside := isInfix_of_isPrefix_append hne hmark
    exact hfront (hinside.trans (hbetween ▸ (List.suffix_append _ _).isInfix))

theorem exists_firstMark {text : String} (h : "cluster/".toList <:+: text.toList) :
    ∃ front rest, FirstMark text front rest := by
  obtain ⟨front, rest, htext, hfront⟩ := exists_front h
  refine ⟨String.ofList front, String.ofList rest, firstMark_iff.2 ⟨?_, ?_⟩⟩
  · rw [← String.toList_inj, toList_marked, htext, String.toList_ofList, String.toList_ofList]
  · rwa [String.toList_ofList]

theorem idAtFront_takeWhile (rest : String) :
    IdAtFront (String.ofList (rest.toList.takeWhile (!endsClusterId ·))) rest := by
  constructor
  case begins =>
    rw [String.toList_ofList]
    exact List.takeWhile_prefix _
  case unended =>
    intro c hc
    rw [String.toList_ofList] at hc
    have hnot := List.mem_takeWhile_imp hc
    rw [← endsClusterId_iff]
    simpa using hnot
  case longest =>
    intro front hfront hnone
    have hall : ∀ c ∈ front, (!endsClusterId c) = true := by
      intro c hc
      simpa using mt endsClusterId_iff.1 (hnone c hc)
    obtain ⟨after, hafter⟩ := hfront
    rw [String.length_ofList, ← hafter, List.takeWhile_append_of_pos hall]
    simp

/-- **The id of a cluster is what follows the first mark**, up to a space or a comma; a text without
a mark has none. So an id that is written after a mark is read back, whatever comes before and
behind. -/
theorem clusterId_follows_first_mark :
    (∀ text, ¬ "cluster/".toList <:+: text.toList → clusterId text = "") ∧
    (∀ text, "cluster/".toList <:+: text.toList →
      (∃ front rest, FirstMark text front rest) ∧
        ∀ front rest, FirstMark text front rest → IdAtFront (clusterId text) rest) ∧
    ∀ front id rest : String, ¬ "cluster/".toList <:+: front.toList →
      (∀ c ∈ id.toList, ¬ (c = ' ' ∨ c = ',')) → EndsId rest →
      clusterId (front ++ "cluster/" ++ id ++ rest) = id := by
  refine ⟨?unmarked, ?marked, fun front id rest => clusterId_append⟩
  case unmarked =>
    intro text h
    rw [clusterId, afterClusterMark_of_not_isInfix h]
  case marked =>
    intro text h
    refine ⟨exists_firstMark h, fun front rest hfirst => ?_⟩
    obtain ⟨rfl, hfront⟩ := firstMark_iff.1 hfirst
    rw [clusterId, toList_marked, afterClusterMark_append hfront]
    exact idAtFront_takeWhile rest

/-- Half a mark before the first one, white space within the id, and another mark behind it. -/
theorem clusterId_follows_first_mark_of_two :
    clusterId "operator/4.14 clusters" = "" ∧
    IdAtFront (clusterId "clustcluster/a\tb, cluster/c") "a\tb, cluster/c" ∧
    clusterId ("clust" ++ "cluster/" ++ "a\tb" ++ ", cluster/c") = "a\tb" :=
  ⟨clusterId_follows_first_mark.1 _ (by decide),
    (clusterId_follows_first_mark.2.1 "clustcluster/a\tb, cluster/c" (by decide)).2 "clust" _
      (firstMark_iff.2 ⟨by decide, by decide⟩),
    clusterId_follows_first_mark.2.2 _ _ _ (by decide) (by simp) (by decide)⟩

end RemoteRollout
