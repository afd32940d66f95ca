import EntityAudit.ReadError
import EntityAudit.Text.Integer

/-!
Identifiers of items and properties: a letter and a number, as in `Q42` and `P31`. Items come
before properties, and each kind is ordered by number.
-/

namespace EntityAudit

open Std

structure ItemId where
  number : UInt64
  deriving DecidableEq, Inhabited

structure PropertyId where
  number : UInt64
  deriving DecidableEq, Inhabited

inductive EntityId where
  | item (id : ItemId)
  | property (id : PropertyId)
  deriving DecidableEq

inductive EntityKind where
  | item
  | property
  deriving DecidableEq

def idNumber? : List Char → Option UInt64
  | [] => none
  | '0' :: _ => none
  | cs => (Text.natural? UInt64.size cs).map UInt64.ofNat

namespace ItemId

def ofString? (s : String) : Option ItemId :=
  match s.toList with
  | 'Q' :: cs => (idNumber? cs).map ItemId.mk
  | 'q' :: cs => (idNumber? cs).map ItemId.mk
  | _ => none

def toString (id : ItemId) : String := "Q" ++ Nat.repr id.number.toNat

instance : ToString ItemId := ⟨toString⟩

instance : Ord ItemId := ⟨fun a b => compare a.number b.number⟩

instance : TransOrd ItemId := inferInstanceAs (TransCmp (compareOn ItemId.number))

instance : LawfulEqOrd ItemId where
  eq_of_compare {a b} h := by
    cases a; cases b
    exact congrArg _ (LawfulEqOrd.eq_of_compare (α := UInt64) h)

def read (s : String) : Except ReadError ItemId := ReadError.orElse (.entityId s) (ofString? s)

end ItemId

namespace PropertyId

def ofString? (s : String) : Option PropertyId :=
  match s.toList with
  | 'P' :: cs => (idNumber? cs).map PropertyId.mk
  | 'p' :: cs => (idNumber? cs).map PropertyId.mk
  | _ => none

def toString (id : PropertyId) : String := "P" ++ Nat.repr id.number.toNat

instance : ToString PropertyId := ⟨toString⟩

instance : Ord PropertyId := ⟨fun a b => compare a.number b.number⟩

instance : TransOrd PropertyId := inferInstanceAs (TransCmp (compareOn PropertyId.number))

instance : LawfulEqOrd PropertyId where
  eq_of_compare {a b} h := by
    cases a; cases b
    exact congrArg _ (LawfulEqOrd.eq_of_compare (α := UInt64) h)

def read (s : String) : Except ReadError PropertyId := ReadError.orElse (.entityId s) (ofString? s)

end PropertyId

namespace EntityKind

def name : EntityKind → String
  | .item => "item"
  | .property => "property"

end EntityKind

namespace EntityId

def ofString? (s : String) : Option EntityId :=
  match s.toList with
  | 'Q' :: _ => (ItemId.ofString? s).map item
  | 'q' :: _ => (ItemId.ofString? s).map item
  | 'P' :: _ => (PropertyId.ofString? s).map property
  | 'p' :: _ => (PropertyId.ofString? s).map property
  | _ => none

def toString : EntityId → String
  | .item id => id.toString
  | .property id => id.toString

instance : ToString EntityId := ⟨toString⟩

def kind : EntityId → EntityKind
  | .item _ => .item
  | .property _ => .property

def item? : EntityId → Option ItemId
  | .item id => some id
  | .property _ => none

def property? : EntityId → Option PropertyId
  | .item _ => none
  | .property id => some id

def order : EntityId → EntityId → Ordering
  | .item a, .item b => compare a b
  | .item _, .property _ => .lt
  | .property _, .item _ => .gt
  | .property a, .property b => compare a b

instance : Ord EntityId := ⟨order⟩

instance : TransOrd EntityId where
  eq_swap {a b} := by
    cases a <;> cases b
    · exact @OrientedCmp.eq_swap ItemId compare _ _ _
    · rfl
    · rfl
    · exact @OrientedCmp.eq_swap PropertyId compare _ _ _
  isLE_trans {a b c} := by
    cases a <;> cases b <;> cases c
    · exact @TransCmp.isLE_trans ItemId compare _ _ _ _
    · exact fun _ _ => rfl
    · exact fun _ h => nomatch h
    · exact fun _ _ => rfl
    · exact fun h => nomatch h
    · exact fun h => nomatch h
    · exact fun _ h => nomatch h
    · exact @TransCmp.isLE_trans PropertyId compare _ _ _ _

instance : LawfulEqOrd EntityId where
  eq_of_compare {a b} h := by
    cases a <;> cases b
    · exact congrArg _ (LawfulEqOrd.eq_of_compare (α := ItemId) h)
    · cases h
    · cases h
    · exact congrArg _ (LawfulEqOrd.eq_of_compare (α := PropertyId) h)

instance : Coe ItemId EntityId := ⟨item⟩
instance : Coe PropertyId EntityId := ⟨property⟩

def read (s : String) : Except ReadError EntityId := ReadError.orElse (.entityId s) (ofString? s)

end EntityId

end EntityAudit
