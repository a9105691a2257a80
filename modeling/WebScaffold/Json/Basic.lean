import WebScaffold.Decimal.Binary64
import WebScaffold.Table

/-!
# Json values

A Json value, with numbers split into integers of at most 64 bits and binary64 numbers. The members
of an object are kept in increasing key order, so two objects with the same members are equal.
-/

namespace WebScaffold

inductive JsonNumber where
  | integer (value : Int)
  | real (value : Binary64)
deriving DecidableEq, Repr

inductive Json where
  | null
  | bool (value : Bool)
  | number (value : JsonNumber)
  | string (value : String)
  | array (items : List Json)
  | object (members : List (String × Json))
deriving Repr, Inhabited

namespace Json

mutual

/-- Decides equality of two values. -/
def decEq : (a b : Json) → Decidable (a = b)
  | null, null => isTrue rfl
  | bool a, bool b => decidable_of_iff (a = b) (by simp)
  | number a, number b => decidable_of_iff (a = b) (by simp)
  | string a, string b => decidable_of_iff (a = b) (by simp)
  | array a, array b =>
    match decEqItems a b with
    | isTrue h => isTrue (by rw [h])
    | isFalse h => isFalse (by simpa using h)
  | object a, object b =>
    match decEqMembers a b with
    | isTrue h => isTrue (by rw [h])
    | isFalse h => isFalse (by simpa using h)
  | null, bool _ | null, number _ | null, string _ | null, array _ | null, object _
  | bool _, null | bool _, number _ | bool _, string _ | bool _, array _ | bool _, object _
  | number _, null | number _, bool _ | number _, string _ | number _, array _
  | number _, object _ | string _, null | string _, bool _ | string _, number _
  | string _, array _ | string _, object _ | array _, null | array _, bool _
  | array _, number _ | array _, string _ | array _, object _ | object _, null
  | object _, bool _ | object _, number _ | object _, string _ | object _, array _ =>
    isFalse (by simp)

def decEqItems : (a b : List Json) → Decidable (a = b)
  | [], [] => isTrue rfl
  | [], _ :: _ | _ :: _, [] => isFalse (by simp)
  | a :: as, b :: bs =>
    match decEq a b, decEqItems as bs with
    | isTrue h, isTrue hs => isTrue (by rw [h, hs])
    | isFalse h, _ => isFalse (by simp [h])
    | _, isFalse hs => isFalse (by simp [hs])

def decEqMembers : (a b : List (String × Json)) → Decidable (a = b)
  | [], [] => isTrue rfl
  | [], _ :: _ | _ :: _, [] => isFalse (by simp)
  | (k, a) :: as, (l, b) :: bs =>
    match (inferInstance : Decidable (k = l)), decEq a b, decEqMembers as bs with
    | isTrue hk, isTrue h, isTrue hs => isTrue (by rw [hk, h, hs])
    | isFalse hk, _, _ => isFalse (by simp [hk])
    | _, isFalse h, _ => isFalse (by simp [h])
    | _, _, isFalse hs => isFalse (by simp [hs])

end

instance : DecidableEq Json := decEq

/-- The object with the given members; of two with the same key the later one counts. -/
def ofMembers (members : List (String × Json)) : Json :=
  object (Table.ofList members)

/-- The member of an object under `key`. -/
def member? (key : String) : Json → Option Json
  | object members => members.lookup key
  | _ => none

@[simp] theorem member?_object (key : String) (members : List (String × Json)) :
    (object members).member? key = members.lookup key := rfl

def string? : Json → Option String
  | string s => some s
  | _ => none

@[simp] theorem string?_string (text : String) : (string text).string? = some text := rfl

def ofNat (n : Nat) : Json :=
  number (.integer n)

def ofStrings (texts : List String) : Json :=
  array (texts.map string)

mutual

/-- A value whose objects all list their members in increasing key order. -/
def Ordered : Json → Prop
  | array items => OrderedItems items
  | object members => Table.Increasing members ∧ OrderedMembers members
  | _ => True

def OrderedItems : List Json → Prop
  | [] => True
  | item :: items => Ordered item ∧ OrderedItems items

def OrderedMembers : List (String × Json) → Prop
  | [] => True
  | (_, value) :: members => Ordered value ∧ OrderedMembers members

end

mutual

/-- Decides whether a value is ordered. -/
def decOrdered : (v : Json) → Decidable v.Ordered
  | null | bool _ | number _ | string _ => isTrue trivial
  | array items => decOrderedItems items
  | object members =>
    @instDecidableAnd (Table.Increasing members) (OrderedMembers members) inferInstance
      (decOrderedMembers members)

def decOrderedItems : (items : List Json) → Decidable (OrderedItems items)
  | [] => isTrue trivial
  | item :: items =>
    @instDecidableAnd item.Ordered (OrderedItems items) (decOrdered item) (decOrderedItems items)

def decOrderedMembers : (members : List (String × Json)) → Decidable (OrderedMembers members)
  | [] => isTrue trivial
  | (_, value) :: members =>
    @instDecidableAnd value.Ordered (OrderedMembers members) (decOrdered value)
      (decOrderedMembers members)

end

instance (v : Json) : Decidable v.Ordered :=
  decOrdered v

end Json

end WebScaffold
