import Mathlib
import RemoteRollout.Proofs.Metrics.Counting
import RemoteRollout.Proofs.Reading

/-!
# Reading an exposition

What a scraper takes from the exposition of the counter: every line that is no comment is a
sample, and its value is the number after the last blank. Labels may hold blanks and line ends,
yet `samples?_text` says that the values read are those of the series: line ends are escaped, and
no digits hold a blank.
-/

namespace RemoteRollout.Metrics

/-! ## Reading -/

/-- The line is neither empty nor a comment. -/
def isSample : List Char → Bool
  | [] => false
  | c :: _ => c != '#'

/-- The lines of a text that are samples. -/
def sampleLines (text : String) : List (List Char) :=
  (Text.pieces '\n' text.toList).filter isSample

/-- The number that a text of digits stands for. -/
def numeral? (ds : List Char) : Option Nat :=
  if ds ≠ [] ∧ ∀ c ∈ ds, c.isDigit then some (Nat.ofDigitChars 10 ds 0) else none

/-- The value of a sample: the number after the last blank. -/
def sampleValue? (l : List Char) : Option Nat := (Text.pieces ' ' l).getLast?.bind numeral?

/-- The values of all samples, if each of them has one. -/
def samples? (text : String) : Option (List Nat) := (sampleLines text).mapM sampleValue?

theorem numeral?_toDigits (n : Nat) : numeral? (Nat.toDigits 10 n) = some n := by
  rw [numeral?, if_pos ⟨Nat.toDigits_ne_nil, isDigit_of_mem_toDigits⟩,
    Nat.ofDigitChars_ten_toDigits]

/-! ## Lines -/

/-- The line of a series, without its end. -/
def lineChars (s : Series) : List Char :=
  (name ++ "\x7bfile=" ++ labelText s.file ++ ",version=" ++ labelText s.version ++
    "\x7d").toList ++ ' ' :: (sampleText s.value).toList

theorem toList_line (s : Series) : (line s).toList = lineChars s ++ ['\n'] := by
  simp [line, lineChars]

theorem isSample_lineChars (s : Series) : isSample (lineChars s) = true := by
  simp [lineChars, name, isSample]

theorem lineEnd_not_mem_labelText (text : String) : '\n' ∉ (labelText text).toList := by
  have hchar : ∀ c, '\n' ∉ labelChar c := by
    intro c
    unfold labelChar
    split_ifs with h1 h2 h3
    all_goals simp_all [eq_comm]
  simp [labelText, hchar]

theorem toList_sampleText {value : UInt64} (h : value.toNat < 2 ^ 53) :
    (sampleText value).toList = Nat.toDigits 10 value.toNat := by
  have htext : sampleText value = toString value.toNat := if_pos h
  rw [htext, Nat.toString_eq_ofList_toDigits, String.toList_ofList]

theorem not_mem_sampleText {c : Char} (hc : c.isDigit = false) {value : UInt64}
    (h : value.toNat < 2 ^ 53) : c ∉ (sampleText value).toList := by
  rw [toList_sampleText h]
  intro hmem
  cases hc.symm.trans (isDigit_of_mem_toDigits c hmem)

theorem lineEnd_not_mem_lineChars {s : Series} (h : s.value.toNat < 2 ^ 53) :
    '\n' ∉ lineChars s := by
  have hvalue := not_mem_sampleText (c := '\n') (by decide) h
  have hfile := lineEnd_not_mem_labelText s.file
  have hversion := lineEnd_not_mem_labelText s.version
  simp [lineChars, name, hvalue, hfile, hversion]

/-- What is read of a line is the value of its series. -/
theorem sampleValue?_lineChars {s : Series} (h : s.value.toNat < 2 ^ 53) :
    sampleValue? (lineChars s) = some s.value.toNat := by
  have hblank := not_mem_sampleText (c := ' ') (by decide) h
  rw [sampleValue?, lineChars, Text.pieces_append, Text.pieces_of_not_mem hblank,
    List.getLast?_concat, Option.bind_some, toList_sampleText h, numeral?_toDigits]

/-! ## Texts -/

variable {m : Metrics}

theorem mem_sorted {s : Series} : s ∈ m.sorted ↔ s ∈ m.series := List.mem_mergeSort

theorem toList_text (h : m.series ≠ []) :
    m.text.toList =
      ("# HELP " ++ name ++ " " ++ help).toList ++ '\n' ::
        (("# TYPE " ++ name ++ " counter").toList ++ '\n' ::
          (m.sorted.map lineChars).flatMap (· ++ ['\n'])) := by
  have hlines : (String.join (m.sorted.map line)).toList =
      (m.sorted.map lineChars).flatMap (· ++ ['\n']) := by
    simp [String.toList_join, List.flatMap_map, toList_line]
  rw [text, if_neg (by simpa using h)]
  simp [← hlines]

/-- The samples are the lines of the series. -/
theorem sampleLines_text (h : ∀ s ∈ m.series, s.value.toNat < 2 ^ 53) :
    sampleLines m.text = m.sorted.map lineChars := by
  have hlines : ∀ l ∈ m.sorted.map lineChars, '\n' ∉ l := by
    intro l hl
    obtain ⟨s, hs, rfl⟩ := List.mem_map.1 hl
    exact lineEnd_not_mem_lineChars (h s (mem_sorted.1 hs))
  by_cases hempty : m.series = []
  · simp [sampleLines, text, sorted, hempty, Text.pieces, isSample]
  · -- The two comments go, and so does the empty piece at the end; every line stays.
    have hhelp : '\n' ∉ ("# HELP " ++ name ++ " " ++ help).toList := by simp [name, help]
    have htype : '\n' ∉ ("# TYPE " ++ name ++ " counter").toList := by simp [name]
    rw [sampleLines, toList_text hempty, Text.pieces_append, Text.pieces_of_not_mem hhelp,
      Text.pieces_append, Text.pieces_of_not_mem htype, Text.pieces_ended hlines]
    have hkept : (m.sorted.map lineChars).filter isSample = m.sorted.map lineChars := by
      refine List.filter_eq_self.2 fun l hl => ?_
      obtain ⟨s, -, rfl⟩ := List.mem_map.1 hl
      exact isSample_lineChars s
    simp [List.filter_append, hkept, isSample]

/-- Every sample can be read, and what is read are the values of the series. -/
theorem samples?_text (h : ∀ s ∈ m.series, s.value.toNat < 2 ^ 53) :
    samples? m.text = some (m.sorted.map (·.value.toNat)) := by
  have hsorted : ∀ s ∈ m.sorted, s.value.toNat < 2 ^ 53 := fun s hs => h s (mem_sorted.1 hs)
  rw [samples?, sampleLines_text h]
  generalize m.sorted = sorted at hsorted
  induction sorted with
  | nil => rfl
  | cons s rest ih =>
    have hvalue := sampleValue?_lineChars (hsorted s List.mem_cons_self)
    have hrest := ih fun k hk => hsorted k (List.mem_cons_of_mem s hk)
    simp [hvalue, hrest]

/-- The values in an exposition add up to what all series show together. -/
theorem sum_samples?_text (h : m.total < 2 ^ 53) :
    (samples? m.text).map List.sum = some m.total := by
  have hbound : ∀ s ∈ m.series, s.value.toNat < 2 ^ 53 := by
    intro s hs
    exact (toNat_value_le_total hs).trans_lt h
  have hperm : m.sorted.Perm m.series := List.mergeSort_perm ..
  rw [samples?_text hbound, Option.map_some, (hperm.map _).sum_eq]
  rfl

end RemoteRollout.Metrics
