import RemoteRollout.Decimal.Binary64

/-!
# JSON values

A `JSON` value as a tree. An object keeps its members in the order they stand in its text;
`Members.insert` builds the canonical form, in which the keys ascend and none is repeated, so that
equal values have equal trees.
-/

namespace RemoteRollout.Json

/-- A number: a whole one, or a fraction of double precision. -/
inductive Number where
  | whole (value : Int)
  | real (value : Decimal.Binary64)
deriving DecidableEq, Repr, Inhabited

/-- A `JSON` value. -/
inductive Tree where
  | null
  | bool (value : Bool)
  | number (value : Number)
  | string (value : String)
  | list (items : List Tree)
  | object (members : List (String × Tree))
deriving Repr, Inhabited

/-- The members of an object. -/
abbrev Members := List (String × Tree)

/-- The order of keys: that of their characters, which is also that of their bytes. -/
def keyOrder (a b : String) : Ordering := compare a.toList b.toList

/-- The members with the value under the key, in ascending order of the keys; a value already
there is replaced. -/
def Members.insert (key : String) (value : Tree) : Members → Members
  | [] => [(key, value)]
  | (k, v) :: rest =>
    match keyOrder key k with
    | .lt => (key, value) :: (k, v) :: rest
    | .eq => (key, value) :: rest
    | .gt => (k, v) :: Members.insert key value rest

/-- The canonical members: of repeated keys the last. -/
def Members.canonical (ms : Members) : Members :=
  ms.foldl (fun acc m => Members.insert m.1 m.2 acc) []

mutual

/-- Two trees are equal. -/
def Tree.beq : Tree → Tree → Bool
  | .null, .null => true
  | .bool a, .bool b => a == b
  | .number a, .number b => a == b
  | .string a, .string b => a == b
  | .list as, .list bs => Tree.beqList as bs
  | .object as, .object bs => Tree.beqMembers as bs
  | _, _ => false

/-- Two lists of trees are equal. -/
def Tree.beqList : List Tree → List Tree → Bool
  | [], [] => true
  | a :: as, b :: bs => Tree.beq a b && Tree.beqList as bs
  | _, _ => false

/-- Two lists of members are equal. -/
def Tree.beqMembers : List (String × Tree) → List (String × Tree) → Bool
  | [], [] => true
  | (k, a) :: as, (l, b) :: bs => k == l && Tree.beq a b && Tree.beqMembers as bs
  | _, _ => false

end

mutual

private theorem Tree.beq_self (t : Tree) : Tree.beq t t = true := by
  cases t with
  | null => rfl
  | bool | number | string => simp [Tree.beq]
  | list items => exact Tree.beqList_self items
  | object members => exact Tree.beqMembers_self members

private theorem Tree.beqList_self (ts : List Tree) : Tree.beqList ts ts = true := by
  cases ts with
  | nil => rfl
  | cons t rest => simp [Tree.beqList, Tree.beq_self t, Tree.beqList_self rest]

private theorem Tree.beqMembers_self (ms : List (String × Tree)) :
    Tree.beqMembers ms ms = true := by
  match ms with
  | [] => rfl
  | (k, t) :: rest => simp [Tree.beqMembers, Tree.beq_self t, Tree.beqMembers_self rest]

end

mutual

private theorem Tree.eq_of_beq {a b : Tree} (h : Tree.beq a b = true) : a = b := by
  cases a <;> cases b <;> simp_all only [Tree.beq, beq_iff_eq, Bool.false_eq_true]
  case list as bs => rw [Tree.eq_of_beqList h]
  case object as bs => rw [Tree.eq_of_beqMembers h]

private theorem Tree.eq_of_beqList {as bs : List Tree} (h : Tree.beqList as bs = true) :
    as = bs := by
  match as, bs with
  | [], [] => rfl
  | a :: as, b :: bs =>
    simp only [Tree.beqList, Bool.and_eq_true] at h
    rw [Tree.eq_of_beq h.1, Tree.eq_of_beqList h.2]
  | [], _ :: _ | _ :: _, [] => simp [Tree.beqList] at h

private theorem Tree.eq_of_beqMembers {as bs : List (String × Tree)}
    (h : Tree.beqMembers as bs = true) : as = bs := by
  match as, bs with
  | [], [] => rfl
  | (k, a) :: as, (l, b) :: bs =>
    simp only [Tree.beqMembers, Bool.and_eq_true, beq_iff_eq] at h
    rw [h.1.1, Tree.eq_of_beq h.1.2, Tree.eq_of_beqMembers h.2]
  | [], _ :: _ | _ :: _, [] => simp [Tree.beqMembers] at h

end

instance : DecidableEq Tree := fun a b =>
  if h : Tree.beq a b = true then .isTrue (Tree.eq_of_beq h)
  else .isFalse fun e => h (e ▸ Tree.beq_self a)

example : Tree.list [.null, .object [("a", .bool true)]] =
    .list [.null, .object [("a", .bool true)]] := by decide

end RemoteRollout.Json
