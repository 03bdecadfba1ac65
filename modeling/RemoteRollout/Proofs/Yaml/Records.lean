import Mathlib.Data.List.Forall2
import RemoteRollout.Proofs.Yaml.Nodes
import RemoteRollout.Yaml.Decode

/-!
# Reading printed records

What readers of typed values answer where a printed tree is read: `Recovers` goes through lists and
through records, and what is recovered is the value of the whole text (`decode_pretty`).
-/

namespace RemoteRollout.Yaml

open Json (Members Tree)

/-- Whatever node shows the tree, the reader answers the value. -/
def Recovers {α : Type} (read : Reader α) (t : Tree) (x : α) : Prop :=
  ∀ d path node, Shows t node → read d path node = .ok x

section Recovers

variable {α β : Type} {read : Reader α}

theorem recovers_string (expected s : String) : Recovers (readStringAs expected) (.string s) s := by
  intro d path node h
  cases h with
  | string => rfl

theorem recovers_bool (b : Bool) : Recovers readBool (.bool b) b := by
  intro d path node h
  cases h with
  | bool _ m =>
    cases b
    all_goals rfl

theorem Recovers.map {t : Tree} {x : α} (h : Recovers read t x) (f : α → β) :
    Recovers (fun d path node => (read d path node).map f) t (f x) := by
  intro d path node hshows
  show (read d path node).map f = _
  rw [h d path node hshows]
  rfl

theorem recovers_list {ts : List Tree} {xs : List α} (h : List.Forall₂ (Recovers read) ts xs) :
    Recovers (readList read) (.list ts) xs := by
  intro d path node hshows
  cases hshows with
  | @list _ nodes hs m =>
    show readItems read d path 0 nodes = .ok xs
    generalize 0 = n
    induction h generalizing nodes n with
    | nil =>
      cases hs
      rfl
    | cons hx hxs ih =>
      cases hs with
      | cons ht hts =>
        rw [readItems, hx d _ _ ht, ih hts]
        rfl

theorem recovers_strings (ss : List String) :
    Recovers (readList readString) (.list (ss.map .string)) ss := by
  refine recovers_list ?_
  rw [List.forall₂_map_left_iff, List.forall₂_same]
  exact fun s _ => recovers_string _ s

end Recovers

namespace Layout

variable {σ α : Type} {l : Layout σ}

/-- The members fill a record field by field, each of them a new one. -/
inductive Fills (l : Layout σ) : σ → Members → σ → Prop where
  | done (draft : σ) : Fills l draft [] draft
  | field {draft draft' final : σ} {name : String} {t : Tree} {ms : Members} {f : Field σ}
      (hfind : l.fields.find? (·.name == name) = some f) (hnew : f.isSet draft = false)
      (hread : ∀ d path node, Shows t node → f.read d path node draft = .ok draft')
      (hrest : Fills l draft' ms final) : Fills l draft ((name, t) :: ms) final

/-- A member from which the value of a field is recovered. -/
theorem Fills.of {name : String} {get? : σ → Option α} {set : α → σ → σ} {read : Reader α}
    {draft final : σ} {t : Tree} {x : α} {ms : Members}
    (hfind : l.fields.find? (·.name == name) = some (.of name get? set read))
    (hnew : get? draft = none) (h : Recovers read t x) (hrest : l.Fills (set x draft) ms final) :
    l.Fills draft ((name, t) :: ms) final := by
  refine .field hfind ?_ (fun d path node hshows => ?_) hrest
  · simp [Field.of, hnew]
  · show (read d path node).map _ = _
    rw [h d path node hshows]
    rfl

theorem Fills.readEntries {draft final : σ} {ms : Members} (h : l.Fills draft ms final)
    {entries : List (Node × Node)} (hs : ShowsEntries ms entries) (d : Document) (path : List Step)
    (m : Mark) : l.readEntries d path m draft entries = .ok final := by
  induction h generalizing entries with
  | done =>
    cases hs
    rfl
  | @field draft draft' final name t ms f hfind hnew hread hrest ih =>
    cases hs with
    | @cons _ _ key node _ _ hkey ht hms =>
      have hname := recovers_string "field identifier" name d path key hkey
      have hentry : l.readEntry d path m draft key node = .ok draft' := by
        simp [Layout.readEntry, hname, hfind, hnew, hread _ _ _ ht, bind, Except.bind]
      rw [Layout.readEntries, hentry]
      exact ih hms

theorem Fills.recovers {final : σ} {ms : Members} (h : l.Fills l.blank ms final) :
    Recovers l.read (.object ms) final := by
  intro d path node hshows
  cases hshows with
  | object hs m => exact h.readEntries hs d path m

end Layout

/-- **A printed object is read as the value that is recovered from it.** -/
theorem decode_pretty {α : Type} {read : Reader α} {ms : Members} {x : α} (h : Legible (.object ms))
    (hread : Recovers read (.object ms) x) :
    decode read (String.ofList ((Tree.object ms).pretty ++ ['\n'])) = .ok x := by
  obtain ⟨node, hshows, hdocument⟩ := exists_ofChars_pretty h
  rw [decode, String.toList_ofList, hdocument]
  simp [hread _ [] node hshows, bind, Except.bind, pure, Except.pure]

end RemoteRollout.Yaml
