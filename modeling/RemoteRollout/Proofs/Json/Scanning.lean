import RemoteRollout.Json.Document
import RemoteRollout.Proofs.Json.Literals

/-!
# Scanning documents

`Shows` says of a node which source it stands for. Every text that the grammar derives is scanned to a
node that shows its source and ends where the text ends (`scan_document`): white space is passed over,
brackets are matched, and the fuel of the scanner is enough, three steps for each byte.
-/

namespace RemoteRollout.Json

open Text.Utf8 (encode encodeChar)

/-! ## What a node shows -/

mutual

/-- The node of this source. -/
inductive Shows : Source → Node → Prop where
  | null {start rest : List UInt8} : Shows .null (.scalar start (.ok .null) rest)
  | bool {b : Bool} {start rest : List UInt8} :
      Shows (.bool b) (.scalar start (.ok (.bool b)) rest)
  | number {n : Number} {start rest : List UInt8} (h : n.Fits) :
      Shows (.number n) (.scalar start (.ok (.number n)) rest)
  | string {value : Except Fault String} {s : Option String} {start rest : List UInt8}
      (h : value.toOption = s) : Shows (.string s) (.scalar start (value.map .string) rest)
  | list {ts : List Source} {nodes : List Node} {start rest : List UInt8} (h : ShowsItems ts nodes) :
      Shows (.list ts) (.list start nodes (.closed rest))
  | object {ms : SourceMembers} {members : List (Key × Node)} {start rest : List UInt8}
      (h : ShowsMembers ms members) : Shows (.object ms) (.object start members (.closed rest))

/-- The nodes of the items of a list. -/
inductive ShowsItems : List Source → List Node → Prop where
  | nil : ShowsItems [] []
  | cons {t : Source} {node : Node} {ts : List Source} {nodes : List Node} (h : Shows t node)
      (hs : ShowsItems ts nodes) : ShowsItems (t :: ts) (node :: nodes)

/-- The keys and nodes of the members of an object. -/
inductive ShowsMembers : SourceMembers → List (Key × Node) → Prop where
  | nil : ShowsMembers [] []
  | cons {name : Option String} {t : Source} {key : Key} {node : Node} {ms : SourceMembers}
      {members : List (Key × Node)} (hkey : key.text.toOption = name) (h : Shows t node)
      (hs : ShowsMembers ms members) : ShowsMembers ((name, t) :: ms) ((key, node) :: members)

end

/-! ## White space -/

theorem isBlank_of_blank {ws : List Char} (h : Blank ws) : ∀ b ∈ encode ws, isBlank b = true := by
  intro b hb
  obtain ⟨c, hc, hb⟩ := List.mem_flatMap.1 hb
  rcases h c hc with rfl | rfl | rfl | rfl
  all_goals
    rw [List.mem_singleton.1 hb]
    decide

theorem afterBlank_blank_append {ws : List Char} (h : Blank ws) (bs : List UInt8) :
    afterBlank (encode ws ++ bs) = afterBlank bs :=
  List.dropWhile_append_of_pos (isBlank_of_blank h)

theorem afterBlank_cons {b : UInt8} (h : isBlank b = false) (bs : List UInt8) :
    afterBlank (b :: bs) = b :: bs :=
  List.dropWhile_cons_of_neg (by simp [h])

/-- White space, a comma and closing brackets end a number. -/
theorem endsNumber_blank_append {ws : List Char} (h : Blank ws) {bs : List UInt8}
    (hbs : EndsNumber bs) : EndsNumber (encode ws ++ bs) := by
  cases ws with
  | nil => exact hbs
  | cons c cs =>
    intro b hb
    have hc := h c List.mem_cons_self
    rcases hc with rfl | rfl | rfl | rfl
    all_goals
      cases hb
      decide

/-! ## Values without parts -/

/-- A value can begin with this byte: it is neither passed over nor taken for the end. -/
def StartsValue (b : UInt8) : Prop := isBlank b = false ∧ b ≠ ']'.toUInt8 ∧ b ≠ '}'.toUInt8

instance (b : UInt8) : Decidable (StartsValue b) := inferInstanceAs (Decidable (_ ∧ _ ∧ _))

/-- These bytes are scanned as a value without parts, and the scanner sees in the first of them that
they are one. -/
def ScansScalar (bs : List UInt8) (value : Except Fault Scalar) (rest : List UInt8) : Prop :=
  ∃ b tail, bs = b :: tail ∧ StartsValue b ∧ b ≠ '['.toUInt8 ∧ b ≠ '{'.toUInt8 ∧
    Node.ofScalar b tail = .scalar bs value rest

theorem isDigit_ne {b : UInt8} (h : isDigit b = true) {c : Char} (hc : isDigit c.toUInt8 = false) :
    b ≠ c.toUInt8 := by
  rintro rfl
  rw [h] at hc
  cases hc

theorem startsValue_of_isDigit {b : UInt8} (h : isDigit b = true) : StartsValue b := by
  refine ⟨?_, isDigit_ne h (by decide), isDigit_ne h (by decide)⟩
  have hspace := isDigit_ne h (c := ' ') (by decide)
  have hline := isDigit_ne h (c := '\n') (by decide)
  have htab := isDigit_ne h (c := '\t') (by decide)
  have hreturn := isDigit_ne h (c := '\r') (by decide)
  simp only [isBlank, Bool.or_eq_false_iff, beq_eq_false_iff_ne]
  exact ⟨⟨⟨hspace, hline⟩, htab⟩, hreturn⟩

variable {rest : List UInt8}

theorem scansScalar_null (rest : List UInt8) :
    ScansScalar (encode ['n', 'u', 'l', 'l'] ++ rest) (.ok .null) rest :=
  ⟨_, _, rfl, by decide, by decide, by decide, rfl⟩

theorem scansScalar_bool (b : Bool) (rest : List UInt8) :
    ScansScalar (encode (boolText b) ++ rest) (.ok (.bool b)) rest := by
  cases b with
  | true => exact ⟨_, _, rfl, by decide, by decide, by decide, rfl⟩
  | false => exact ⟨_, _, rfl, by decide, by decide, by decide, rfl⟩

theorem scansScalar_quoted {value : Option String} {cs : List Char} (h : Quoted value cs)
    (rest : List UInt8) :
    ∃ s : Except Fault String, s.toOption = value ∧
      ScansScalar (encode cs ++ rest) (s.map .string) rest := by
  obtain @⟨ps, cs, hps⟩ := h
  have hbytes : encode ('"' :: cs ++ ['"']) ++ rest =
      '"'.toUInt8 :: (encode cs ++ '"'.toUInt8 :: rest) := by
    rw [List.cons_append, encode_cons, encode_append, List.append_assoc, List.append_assoc]
    rfl
  obtain ⟨skipped, hskip⟩ := stringBody_loose hps rest
  refine ⟨stringValue (encode cs ++ '"'.toUInt8 :: rest) rest, toOption_stringValue hps rest rest, ?_⟩
  rw [hbytes]
  refine ⟨_, _, rfl, by decide, by decide, by decide, ?_⟩
  show Node.ofString _ _ = _
  rw [Node.ofString, hskip]

theorem ofScalar_digit {b : UInt8} (h : isDigit b = true) (tail : List UInt8) :
    Node.ofScalar b tail = Node.ofNumber (b :: tail) false (b :: tail) := by
  have hletter : ∀ c : Char, isDigit c.toUInt8 = false → b ≠ c.toUInt8 := fun c hc => isDigit_ne h hc
  rw [Node.ofScalar, if_neg (hletter 'n' (by decide)), if_neg (hletter 't' (by decide)),
    if_neg (hletter 'f' (by decide)), if_neg (hletter '"' (by decide)),
    if_neg (hletter '-' (by decide)), if_pos h]

theorem scansScalar_number {n : Number} (h : n.Fits) (hrest : EndsNumber rest) :
    ScansScalar (encode n.text ++ rest) (.ok (.number n)) rest := by
  cases n with
  | real x => exact absurd h id
  | whole n =>
    have hfits : -0x8000000000000000 ≤ n ∧ n < 0x10000000000000000 := h
    show ScansScalar (encode (wholeText n) ++ rest) _ rest
    unfold wholeText
    by_cases hn : n < 0
    · have hbytes : encode ('-' :: Nat.toDigits 10 n.natAbs) ++ rest =
          '-'.toUInt8 :: (digitBytes n.natAbs ++ rest) := rfl
      rw [if_pos hn, hbytes]
      refine ⟨_, _, rfl, by decide, by decide, by decide, ?_⟩
      show Node.ofNumber _ true _ = _
      have hvalue := value_digitBytes n.natAbs true rest (by omega)
        (fun _ => by omega)
      simp only [Node.ofNumber, scan_digitBytes true n.natAbs hrest, hvalue]
      have habs : -(n.natAbs : Int) = n := by omega
      simp only [Except.map, if_true, habs]
    · rw [if_neg hn]
      show ScansScalar (digitBytes n.natAbs ++ rest) _ rest
      have hvalue := value_digitBytes n.natAbs false rest (by omega)
        (by simp)
      have hnumber : ∀ start, Node.ofNumber start false (digitBytes n.natAbs ++ rest) =
          .scalar start (.ok (.number (.whole n))) rest := by
        intro start
        simp only [Node.ofNumber, scan_digitBytes false n.natAbs hrest, hvalue]
        have habs : (n.natAbs : Int) = n := by omega
        simp only [Except.map, Bool.false_eq_true, if_false, habs]
      cases hds : digitBytes n.natAbs with
      | nil => exact absurd hds (digitBytes_ne_nil _)
      | cons b ds =>
        have hb : isDigit b = true := isDigit_of_mem_digitBytes (n := n.natAbs) b
          (by rw [hds]; exact List.mem_cons_self)
        rw [hds] at hnumber
        exact ⟨b, ds ++ rest, rfl, startsValue_of_isDigit hb, isDigit_ne hb (by decide),
          isDigit_ne hb (by decide), by rw [ofScalar_digit hb]; exact hnumber _⟩

theorem scanValue_of_scansScalar {bs : List UInt8} {value : Except Fault Scalar}
    (h : ScansScalar bs value rest) (fuel : Nat) :
    scanValue (fuel + 1) bs = .scalar bs value rest := by
  obtain ⟨b, tail, rfl, hstart, hlist, hobject, hscalar⟩ := h
  simp only [scanValue, afterBlank_cons hstart.1, if_neg hlist, if_neg hobject, hscalar]

theorem scanValue_blank_append {ws : List Char} (h : Blank ws) (fuel : Nat) (bs : List UInt8) :
    scanValue (fuel + 1) (encode ws ++ bs) = scanValue (fuel + 1) bs := by
  simp only [scanValue, afterBlank_blank_append h]

/-! ## First bytes -/

theorem Written.exists_cons {t : Source} {cs : List Char} (h : Written (.value t) cs) :
    ∃ b tail, encode cs = b :: tail ∧ StartsValue b := by
  have hscalar : ∀ {value rest}, ScansScalar (encode cs ++ []) value rest →
      ∃ b tail, encode cs = b :: tail ∧ StartsValue b := by
    rintro value rest ⟨b, tail, hbytes, hstart, -⟩
    exact ⟨b, tail, by rwa [List.append_nil] at hbytes, hstart⟩
  cases h with
  | null => exact hscalar (scansScalar_null [])
  | bool b => exact hscalar (scansScalar_bool b [])
  | number h => exact hscalar (scansScalar_number h (by simp [EndsNumber]))
  | string h =>
    obtain ⟨s, -, hs⟩ := scansScalar_quoted h []
    exact hscalar hs
  | emptyList | list | emptyObject | object => exact ⟨_, _, rfl, by decide⟩

/-- What follows an item, or a member, begins with white space, a comma or a closing bracket. -/
theorem Written.endsNumber {p : Part} {cs : List Char} (h : Written p cs)
    (hp : (∃ ts, p = .items ts) ∨ ∃ ms, p = .members ms) (rest : List UInt8) :
    EndsNumber (encode cs ++ rest) := by
  have hend : ∀ {ws tail : List Char} {c : Char}, Blank ws → c = ',' ∨ c = ']' ∨ c = '}' →
      EndsNumber (encode (ws ++ c :: tail) ++ rest) := by
    intro ws tail c hws hc
    rw [encode_append, encode_cons, List.append_assoc]
    refine endsNumber_blank_append hws ?_
    rcases hc with rfl | rfl | rfl
    all_goals
      intro b hb
      cases hb
      decide
  cases h with
  | endOfList hws => exact hend hws (by simp)
  | endOfObject hws => exact hend hws (by simp)
  | item hws | member hws =>
    simp only [List.append_assoc, List.cons_append]
    exact hend hws (by simp)
  | null | bool | number | string | emptyList | list | pair | emptyObject | object => simp at hp

/-! ## Lists -/

theorem scanItems_end {ws : List Char} (hws : Blank ws) (fuel : Nat) (first : Bool) :
    scanItems (fuel + 1) first (encode ws ++ ']'.toUInt8 :: rest) = ([], .closed rest) := by
  have hblank : isBlank ']'.toUInt8 = false := by decide
  simp only [scanItems, afterBlank_blank_append hws, afterBlank_cons hblank, if_true]

/-- The first item of a list is scanned after the white space in front of it. -/
theorem scanItems_first {t : Source} {ws cs : List Char} (hws : Blank ws)
    (ht : Written (.value t) cs) (fuel : Nat) :
    scanItems (fuel + 1) true (encode ws ++ (encode cs ++ rest)) =
      scanItem fuel (encode cs ++ rest) := by
  obtain ⟨b, tail, hbytes, hb⟩ := ht.exists_cons
  simp only [scanItems, afterBlank_blank_append hws, hbytes, List.cons_append, afterBlank_cons hb.1,
    if_neg hb.2.1, if_true]

/-- A further item is scanned after the comma and the white space around it. -/
theorem scanItems_next {t : Source} {ws ws' cs : List Char} (hws : Blank ws) (hws' : Blank ws')
    (ht : Written (.value t) cs) (fuel : Nat) :
    scanItems (fuel + 1) false (encode ws ++ ','.toUInt8 :: (encode ws' ++ (encode cs ++ rest))) =
      scanItem fuel (encode cs ++ rest) := by
  obtain ⟨b, tail, hbytes, hb⟩ := ht.exists_cons
  have hblank : isBlank ','.toUInt8 = false := by decide
  have hclosing : ','.toUInt8 ≠ ']'.toUInt8 := by decide
  simp only [scanItems, afterBlank_blank_append hws, afterBlank_blank_append hws', hbytes,
    List.cons_append, afterBlank_cons hblank, afterBlank_cons hb.1, if_neg hclosing, if_neg hb.2.1,
    if_true, Bool.false_eq_true, if_false]

theorem scanItem_of_scanValue {fuel : Nat} {bs more : List UInt8} {node : Node} {nodes : List Node}
    {ending : Ending} (hnode : scanValue fuel bs = node) (hrest : node.rest? = some more)
    (hitems : scanItems fuel false more = (nodes, ending)) :
    scanItem (fuel + 1) bs = (node :: nodes, ending) := by
  simp only [scanItem, hnode, hrest, hitems]

/-! ## Objects -/

theorem scanMembers_end {ws : List Char} (hws : Blank ws) (fuel : Nat) (first : Bool) :
    scanMembers (fuel + 1) first (encode ws ++ '}'.toUInt8 :: rest) = ([], .closed rest) := by
  have hblank : isBlank '}'.toUInt8 = false := by decide
  simp only [scanMembers, afterBlank_blank_append hws, afterBlank_cons hblank, if_true]

/-- A member begins with the quote of its key. -/
theorem Written.member_eq_quote {m : Option String × Source} {cs : List Char}
    (h : Written (.member m) cs) : ∃ tail, encode cs = '"'.toUInt8 :: tail := by
  cases h with
  | pair hkey => cases hkey with | intro => exact ⟨_, rfl⟩

/-- The first member of an object is scanned after the white space in front of it. -/
theorem scanMembers_first {m : Option String × Source} {ws cs : List Char} (hws : Blank ws)
    (hm : Written (.member m) cs) (fuel : Nat) :
    scanMembers (fuel + 1) true (encode ws ++ (encode cs ++ rest)) =
      scanMember fuel (encode cs ++ rest) := by
  obtain ⟨tail, hbytes⟩ := hm.member_eq_quote
  have hquote : StartsValue '"'.toUInt8 := by decide
  simp only [scanMembers, afterBlank_blank_append hws, hbytes, List.cons_append,
    afterBlank_cons hquote.1, if_neg hquote.2.2, if_true]

/-- A further member is scanned after the comma and the white space around it. -/
theorem scanMembers_next {m : Option String × Source} {ws ws' cs : List Char} (hws : Blank ws)
    (hws' : Blank ws') (hm : Written (.member m) cs) (fuel : Nat) :
    scanMembers (fuel + 1) false (encode ws ++ ','.toUInt8 :: (encode ws' ++ (encode cs ++ rest))) =
      scanMember fuel (encode cs ++ rest) := by
  obtain ⟨tail, hbytes⟩ := hm.member_eq_quote
  have hquote : StartsValue '"'.toUInt8 := by decide
  have hblank : isBlank ','.toUInt8 = false := by decide
  have hclosing : ','.toUInt8 ≠ '}'.toUInt8 := by decide
  simp only [scanMembers, afterBlank_blank_append hws, afterBlank_blank_append hws', hbytes,
    List.cons_append, afterBlank_cons hblank, afterBlank_cons hquote.1, if_neg hclosing,
    if_neg hquote.2.2, if_true, Bool.false_eq_true, if_false]

/-- A key ends at its colon, and the value behind it is scanned on its own. -/
theorem scanMember_quoted {name : Option String} {ks ws : List Char} (hkey : Quoted name ks)
    (hws : Blank ws) {fuel : Nat} {bs more : List UInt8} {node : Node}
    (hnode : scanValue fuel bs = node) (hrest : node.rest? = some more) :
    ∃ key : Key, key.text.toOption = name ∧
      scanMember (fuel + 1) (encode ks ++ (encode ws ++ ':'.toUInt8 :: bs)) =
        ((key, node) :: (scanMembers fuel false more).1, (scanMembers fuel false more).2) := by
  obtain @⟨ps, cs, hps⟩ := hkey
  have hbytes : encode ('"' :: cs ++ ['"']) ++ (encode ws ++ ':'.toUInt8 :: bs) =
      '"'.toUInt8 :: (encode cs ++ '"'.toUInt8 :: (encode ws ++ ':'.toUInt8 :: bs)) := by
    rw [List.cons_append, encode_ascii_cons (by decide), encode_append, List.cons_append,
      List.append_assoc]
    rfl
  obtain ⟨skipped, hskip⟩ := stringBody_loose hps (encode ws ++ ':'.toUInt8 :: bs)
  have hcolon : isBlank ':'.toUInt8 = false := by decide
  have hvalue := toOption_stringValue hps (encode ws ++ ':'.toUInt8 :: bs)
    (encode ws ++ ':'.toUInt8 :: bs)
  refine ⟨⟨stringValue _ _, ':'.toUInt8 :: bs⟩, hvalue, ?_⟩
  simp only [hbytes, scanMember, ne_eq, not_true_eq_false, if_false, scanKey, hskip,
    afterBlank_blank_append hws, afterBlank_cons hcolon, hnode, hrest]

/-! ## All texts -/

/-- With three steps for each byte the scanner gets to the end of a text of this part, and what it
makes of it shows the part. -/
def Scanned : Part → List Char → Prop
  | .value t, cs => ∀ fuel rest, 3 * (encode cs).length ≤ fuel → EndsNumber rest →
      ∃ node, scanValue fuel (encode cs ++ rest) = node ∧ Shows t node ∧ node.rest? = some rest
  | .items ts, cs => ∀ fuel rest, 3 * (encode cs).length ≤ fuel →
      ∃ nodes, scanItems fuel false (encode cs ++ rest) = (nodes, .closed rest) ∧ ShowsItems ts nodes
  | .member m, cs => ∀ fuel rest, 3 * (encode cs).length ≤ fuel + 1 → EndsNumber rest →
      ∃ key node, key.text.toOption = m.1 ∧ Shows m.2 node ∧
        scanMember (fuel + 1) (encode cs ++ rest) =
          ((key, node) :: (scanMembers fuel false rest).1, (scanMembers fuel false rest).2)
  | .members ms, cs => ∀ fuel rest, 3 * (encode cs).length ≤ fuel →
      ∃ members, scanMembers fuel false (encode cs ++ rest) = (members, .closed rest) ∧
        ShowsMembers ms members

theorem scanned_of_scansScalar {t : Source} {cs : List Char}
    (h : ∀ rest, EndsNumber rest → ∃ value, ScansScalar (encode cs ++ rest) value rest ∧
      Shows t (.scalar (encode cs ++ rest) value rest)) : Scanned (.value t) cs := by
  intro fuel rest hfuel hrest
  have hpos : 0 < (encode cs).length := by
    obtain ⟨value, ⟨b, tail, hbytes, -⟩, -⟩ := h [] (by simp [EndsNumber])
    rw [List.append_nil] at hbytes
    simp [hbytes]
  obtain ⟨value, hscalar, hshows⟩ := h rest hrest
  obtain ⟨fuel, rfl⟩ : ∃ k, fuel = k + 1 := ⟨fuel - 1, by omega⟩
  exact ⟨_, scanValue_of_scansScalar hscalar fuel, hshows, rfl⟩

theorem scanValue_list {fuel : Nat} {bs : List UInt8} {nodes : List Node} {ending : Ending}
    (h : scanItems fuel true bs = (nodes, ending)) :
    scanValue (fuel + 1) ('['.toUInt8 :: bs) = .list ('['.toUInt8 :: bs) nodes ending := by
  have hblank : isBlank '['.toUInt8 = false := by decide
  simp only [scanValue, afterBlank_cons hblank, if_true, h]

theorem scanValue_object {fuel : Nat} {bs : List UInt8} {members : List (Key × Node)}
    {ending : Ending} (h : scanMembers fuel true bs = (members, ending)) :
    scanValue (fuel + 1) ('{'.toUInt8 :: bs) = .object ('{'.toUInt8 :: bs) members ending := by
  have hblank : isBlank '{'.toUInt8 = false := by decide
  have hlist : '{'.toUInt8 ≠ '['.toUInt8 := by decide
  simp only [scanValue, afterBlank_cons hblank, if_neg hlist, if_true, h]

section Parts

variable {t : Source} {ts : List Source} {m : Option String × Source} {ms : SourceMembers}
  {ws ws' cs more : List Char}

theorem scanned_emptyList (hws : Blank ws) : Scanned (.value (.list [])) ('[' :: ws ++ [']']) := by
  intro fuel rest hfuel _
  simp only [List.cons_append, encode_ascii_cons (show '['.toNat < 0x80 by decide), encode_append,
    List.length_cons, List.append_assoc] at hfuel ⊢
  obtain ⟨fuel, rfl⟩ : ∃ k, fuel = k + 2 := ⟨fuel - 2, by omega⟩
  exact ⟨_, scanValue_list (scanItems_end hws fuel true), .list .nil, rfl⟩

theorem scanned_endOfList (hws : Blank ws) : Scanned (.items []) (ws ++ [']']) := by
  intro fuel rest hfuel
  have hbracket : (encode [']']).length = 1 := rfl
  rw [encode_append, List.length_append] at hfuel
  obtain ⟨fuel, rfl⟩ : ∃ k, fuel = k + 1 := ⟨fuel - 1, by omega⟩
  rw [encode_append, List.append_assoc]
  exact ⟨_, scanItems_end hws fuel false, .nil⟩

/-- What follows the first item begins with white space, a comma or a bracket, so that a number ends
there. -/
theorem scanned_list (hws : Blank ws) (ht : Written (.value t) cs) (hts : Written (.items ts) more)
    (iht : Scanned (.value t) cs) (ihts : Scanned (.items ts) more) :
    Scanned (.value (.list (t :: ts))) ('[' :: ws ++ cs ++ more) := by
  intro fuel rest hfuel _
  simp only [List.cons_append, encode_ascii_cons (show '['.toNat < 0x80 by decide), encode_append,
    List.length_cons, List.length_append, List.append_assoc] at hfuel ⊢
  obtain ⟨fuel, rfl⟩ : ∃ k, fuel = k + 3 := ⟨fuel - 3, by omega⟩
  obtain ⟨node, hnode, hshows, hrest⟩ := iht fuel (encode more ++ rest) (by omega)
    (hts.endsNumber (.inl ⟨_, rfl⟩) rest)
  obtain ⟨nodes, hnodes, hshowsItems⟩ := ihts fuel rest (by omega)
  refine ⟨_, scanValue_list ?_, .list (.cons hshows hshowsItems), rfl⟩
  rw [scanItems_first hws ht]
  exact scanItem_of_scanValue hnode hrest hnodes

theorem scanned_item (hws : Blank ws) (hws' : Blank ws') (ht : Written (.value t) cs)
    (hts : Written (.items ts) more) (iht : Scanned (.value t) cs)
    (ihts : Scanned (.items ts) more) :
    Scanned (.items (t :: ts)) (ws ++ ',' :: ws' ++ cs ++ more) := by
  intro fuel rest hfuel
  simp only [List.cons_append, encode_ascii_cons (show ','.toNat < 0x80 by decide), encode_append,
    List.length_cons, List.length_append, List.append_assoc] at hfuel ⊢
  obtain ⟨fuel, rfl⟩ : ∃ k, fuel = k + 2 := ⟨fuel - 2, by omega⟩
  obtain ⟨node, hnode, hshows, hrest⟩ := iht fuel (encode more ++ rest) (by omega)
    (hts.endsNumber (.inl ⟨_, rfl⟩) rest)
  obtain ⟨nodes, hnodes, hshowsItems⟩ := ihts fuel rest (by omega)
  refine ⟨_, ?_, .cons hshows hshowsItems⟩
  rw [scanItems_next hws hws' ht]
  exact scanItem_of_scanValue hnode hrest hnodes

theorem scanned_pair {name : Option String} {ks : List Char} (hkey : Quoted name ks) (hws : Blank ws)
    (hws' : Blank ws') (iht : Scanned (.value t) cs) :
    Scanned (.member (name, t)) (ks ++ ws ++ ':' :: ws' ++ cs) := by
  intro fuel rest hfuel hend
  simp only [encode_ascii_cons (show ':'.toNat < 0x80 by decide), encode_append,
    List.length_cons, List.length_append, List.append_assoc, List.cons_append] at hfuel ⊢
  obtain ⟨fuel, rfl⟩ : ∃ k, fuel = k + 1 := ⟨fuel - 1, by omega⟩
  obtain ⟨node, hnode, hshows, hrest⟩ := iht (fuel + 1) rest (by omega) hend
  rw [← scanValue_blank_append hws'] at hnode
  obtain ⟨key, hname, hmember⟩ := scanMember_quoted hkey hws hnode hrest
  exact ⟨key, node, hname, hshows, hmember⟩

theorem scanned_emptyObject (hws : Blank ws) :
    Scanned (.value (.object [])) ('{' :: ws ++ ['}']) := by
  intro fuel rest hfuel _
  simp only [List.cons_append, encode_ascii_cons (show '{'.toNat < 0x80 by decide), encode_append,
    List.length_cons, List.append_assoc] at hfuel ⊢
  obtain ⟨fuel, rfl⟩ : ∃ k, fuel = k + 2 := ⟨fuel - 2, by omega⟩
  exact ⟨_, scanValue_object (scanMembers_end hws fuel true), .object .nil, rfl⟩

theorem scanned_endOfObject (hws : Blank ws) : Scanned (.members []) (ws ++ ['}']) := by
  intro fuel rest hfuel
  have hbracket : (encode ['}']).length = 1 := rfl
  rw [encode_append, List.length_append] at hfuel
  obtain ⟨fuel, rfl⟩ : ∃ k, fuel = k + 1 := ⟨fuel - 1, by omega⟩
  rw [encode_append, List.append_assoc]
  exact ⟨_, scanMembers_end hws fuel false, .nil⟩

theorem scanned_object (hws : Blank ws) (hm : Written (.member m) cs)
    (hms : Written (.members ms) more) (ihm : Scanned (.member m) cs)
    (ihms : Scanned (.members ms) more) :
    Scanned (.value (.object (m :: ms))) ('{' :: ws ++ cs ++ more) := by
  intro fuel rest hfuel _
  simp only [List.cons_append, encode_ascii_cons (show '{'.toNat < 0x80 by decide), encode_append,
    List.length_cons, List.length_append, List.append_assoc] at hfuel ⊢
  obtain ⟨fuel, rfl⟩ : ∃ k, fuel = k + 3 := ⟨fuel - 3, by omega⟩
  obtain ⟨key, node, hname, hshows, hmember⟩ := ihm fuel (encode more ++ rest) (by omega)
    (hms.endsNumber (.inr ⟨_, rfl⟩) rest)
  obtain ⟨members, hmembers, hshowsMembers⟩ := ihms fuel rest (by omega)
  refine ⟨_, scanValue_object ?_, .object (.cons hname hshows hshowsMembers), rfl⟩
  rw [scanMembers_first hws hm, hmember, hmembers]

theorem scanned_member (hws : Blank ws) (hws' : Blank ws') (hm : Written (.member m) cs)
    (hms : Written (.members ms) more) (ihm : Scanned (.member m) cs)
    (ihms : Scanned (.members ms) more) :
    Scanned (.members (m :: ms)) (ws ++ ',' :: ws' ++ cs ++ more) := by
  intro fuel rest hfuel
  simp only [List.cons_append, encode_ascii_cons (show ','.toNat < 0x80 by decide), encode_append,
    List.length_cons, List.length_append, List.append_assoc] at hfuel ⊢
  obtain ⟨fuel, rfl⟩ : ∃ k, fuel = k + 2 := ⟨fuel - 2, by omega⟩
  obtain ⟨key, node, hname, hshows, hmember⟩ := ihm fuel (encode more ++ rest) (by omega)
    (hms.endsNumber (.inr ⟨_, rfl⟩) rest)
  obtain ⟨members, hmembers, hshowsMembers⟩ := ihms fuel rest (by omega)
  refine ⟨_, ?_, .cons hname hshows hshowsMembers⟩
  rw [scanMembers_next hws hws' hm, hmember, hmembers]

end Parts

/-- Every text of the grammar is scanned to what it shows. -/
theorem Written.scanned {p : Part} {cs : List Char} (h : Written p cs) : Scanned p cs := by
  induction h with
  | null => exact scanned_of_scansScalar fun rest _ => ⟨_, scansScalar_null rest, .null⟩
  | bool b => exact scanned_of_scansScalar fun rest _ => ⟨_, scansScalar_bool b rest, .bool⟩
  | number hn =>
    exact scanned_of_scansScalar fun rest hrest => ⟨_, scansScalar_number hn hrest, .number hn⟩
  | string hs =>
    refine scanned_of_scansScalar fun rest _ => ?_
    obtain ⟨s, hvalue, hscalar⟩ := scansScalar_quoted hs rest
    exact ⟨_, hscalar, .string hvalue⟩
  | emptyList hws => exact scanned_emptyList hws
  | list hws ht hts iht ihts => exact scanned_list hws ht hts iht ihts
  | endOfList hws => exact scanned_endOfList hws
  | item hws hws' ht hts iht ihts => exact scanned_item hws hws' ht hts iht ihts
  | pair hkey hws hws' ht iht => exact scanned_pair hkey hws hws' iht
  | emptyObject hws => exact scanned_emptyObject hws
  | object hws hm hms ihm ihms => exact scanned_object hws hm hms ihm ihms
  | endOfObject hws => exact scanned_endOfObject hws
  | member hws hws' hm hms ihm ihms => exact scanned_member hws hws' hm hms ihm ihms

/-- A document is scanned to a node that shows its value, behind which there is only white space. -/
theorem scan_document {t : Source} {cs : List Char} (h : t.Document cs) :
    Shows t (scan (encode cs)) ∧ afterBlank ((scan (encode cs)).rest?.getD []) = [] := by
  obtain @⟨ws, cs, ws', hws, hvalue, hws'⟩ := h
  have hblank : afterBlank (encode ws') = [] := by
    have hskip := afterBlank_blank_append hws' []
    rwa [List.append_nil] at hskip
  have hend : EndsNumber (encode ws') := by
    have hnil : EndsNumber (encode ws' ++ []) :=
      endsNumber_blank_append hws' (by simp [EndsNumber])
    rwa [List.append_nil] at hnil
  have hbytes : encode (ws ++ cs ++ ws') = encode ws ++ (encode cs ++ encode ws') := by
    rw [encode_append, encode_append, List.append_assoc]
  rw [scan, hbytes, scanValue_blank_append hws]
  obtain ⟨node, hnode, hshows, hrest⟩ := hvalue.scanned
    (3 * (encode ws ++ (encode cs ++ encode ws')).length + 2 + 1) (encode ws')
    (by simp only [List.length_append]; omega) hend
  rw [hnode, hrest]
  exact ⟨hshows, hblank⟩

end RemoteRollout.Json
