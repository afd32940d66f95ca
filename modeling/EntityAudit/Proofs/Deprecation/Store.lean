import EntityAudit.GraphQuery
import EntityAudit.Proofs.Ordered.Lookup
import Mathlib.Logic.Relation
import Mathlib.Tactic.Lemma

/-!
Edits of deprecated statements. They are invisible in what a store shows: its entities without their deprecated
statements, and without revisions.
-/

namespace EntityAudit

/-- A deprecated statement is inserted anywhere, or removed. -/
inductive HiddenEdit : List Statement → List Statement → Prop
  | insert (l k : List Statement) (d : Statement) (hd : d.isDeprecated = true) : HiddenEdit (l ++ k) (l ++ d :: k)
  | remove (l k : List Statement) (d : Statement) (hd : d.isDeprecated = true) : HiddenEdit (l ++ d :: k) (l ++ k)

inductive Store.HiddenEdit (s : Store) : Store → Prop
  | edit (id : EntityId) (x : Stored) (e : Entity) (revision lastRevision : Nat) (hx : s.entities.get? id = some x)
      (hid : e.id = x.entity.id) (h : EntityAudit.HiddenEdit x.entity.statements.toList e.statements.toList) :
      HiddenEdit s ⟨s.entities.insert id ⟨e, revision⟩, s.redirects, lastRevision⟩

def Entity.shown (e : Entity) : Entity := ⟨e.id, .ofList e.statements.nonDeprecated⟩

def Store.shown (s : Store) : Store :=
  ⟨s.entities.mapValues fun x => ⟨x.entity.shown, 0⟩, s.redirects, 0⟩

def shownBy (find? : EntityId → Option Entity) (id : EntityId) : Option Entity := (find? id).map Entity.shown

lemma HiddenEdit.nonDeprecated_eq {l k : List Statement} (h : HiddenEdit l k) :
    k.filter (!·.isDeprecated) = l.filter (!·.isDeprecated) := by
  cases h with
  | insert l k d hd => simp [hd]
  | remove l k d hd => simp [hd]

namespace Entity

variable {e f : Entity}

lemma shown_eq_iff : e.shown = f.shown ↔
    e.id = f.id ∧ e.statements.nonDeprecated = f.statements.nonDeprecated := by
  constructor
  · intro h
    have hlist := congrArg (fun e : Entity => e.statements.toList) h
    exact ⟨congrArg (·.id) h, hlist⟩
  · rintro ⟨hid, hlist⟩
    rw [shown, shown, hid, hlist]

@[simp] lemma nonDeprecated_shown (e : Entity) :
    e.shown.statements.nonDeprecated = e.statements.nonDeprecated :=
  List.filter_eq_self.mpr fun _ hs => (List.mem_filter.mp hs).2

@[simp] lemma relatedItems_shown (e : Entity) (relations : List PropertyId) :
    e.shown.relatedItems relations = e.relatedItems relations := by
  rw [relatedItems, relatedItems, nonDeprecated_shown]

end Entity

namespace Store

variable {s t : Store}

lemma HiddenEdit.shown_eq (h : s.HiddenEdit t) : t.shown = s.shown := by
  cases h with
  | edit id x e revision lastRevision hx hid h =>
    have hshown : e.shown = x.entity.shown := Entity.shown_eq_iff.mpr ⟨hid, h.nonDeprecated_eq⟩
    have hentities : (s.entities.insert id ⟨e, revision⟩).mapValues (fun x => (⟨x.entity.shown, 0⟩ : Stored)) =
        s.entities.mapValues fun x => ⟨x.entity.shown, 0⟩ := by
      refine SortedMap.ext_get? fun a => ?_
      rw [SortedMap.get?_mapValues, SortedMap.get?_mapValues, SortedMap.get?_insert]
      by_cases ha : id = a
      · rw [if_pos ha, ← ha, hx, Option.map_some, Option.map_some, hshown]
      · rw [if_neg ha]
    rw [shown, shown, hentities]

lemma shown_eq_of_edits (h : Relation.ReflTransGen HiddenEdit s t) : t.shown = s.shown := by
  induction h with
  | refl => rfl
  | tail _ hedit ih => exact hedit.shown_eq.trans ih

lemma HiddenEdit.of_save {x : Stored} {e : Entity} (hx : s.entities.get? e.id = some x) (hid : e.id = x.entity.id)
    (h : EntityAudit.HiddenEdit x.entity.statements.toList e.statements.toList) : s.HiddenEdit (s.save e).1 :=
  .edit e.id x e _ _ hx hid h

lemma find?_shown (s : Store) : s.shown.find? = shownBy s.find? := by
  funext id
  unfold shownBy find? load shown
  simp only [SortedMap.get?_mapValues]
  cases s.redirects.get? id with
  | none => simp [Function.comp_def]
  | some target => rfl

lemma ids_shown (s : Store) : s.shown.ids = s.ids := by
  simp [ids, shown, SortedMap.keys, SortedMap.mapValues]

end Store

namespace GraphQuery

variable (s : Store)

lemma search_shown (subclassOf : PropertyId) (classes visited queue : List ItemId) :
    search s.shown subclassOf classes visited queue = search s subclassOf classes visited queue := by
  fun_induction search s subclassOf classes visited queue with
  | case1 => rw [search]
  | case2 visited c queue hvisited ih => rw [search, if_pos hvisited, ih]
  | case3 visited c queue hvisited hclass => rw [search, if_neg hvisited, if_pos hclass]
  | case4 visited c queue hvisited hclass hfind ih =>
    have hshown : s.shown.find? (.item c) = none := by rw [Store.find?_shown, shownBy, hfind, Option.map_none]
    rw [search, if_neg hvisited, if_neg hclass, ← ih]
    split
    · rfl
    · rename_i e he
      cases hshown.symm.trans he
  | case5 visited c queue hvisited hclass e hfind ih =>
    have hshown : s.shown.find? (.item c) = some e.shown := by
      rw [Store.find?_shown, shownBy, hfind, Option.map_some]
    rw [search, if_neg hvisited, if_neg hclass, ← ih]
    split
    · rename_i he
      cases hshown.symm.trans he
    · rename_i f hf
      cases hshown.symm.trans hf
      rw [Entity.relatedItems_shown]

lemma scan_shown (exclude : EntityId) (wanted : Statement → Bool) :
    scan s.shown exclude wanted = scan s exclude wanted := by
  unfold scan
  rw [Store.ids_shown, Store.find?_shown]
  refine congrArg (List.take maxMatches) (List.filter_congr fun id _ => ?_)
  rw [shownBy]
  cases s.find? id with
  | none => rfl
  | some e => simp

lemma ofStore_shown (config : Config) : ofStore config s.shown = ofStore config s := by
  simp only [ofStore, scan_shown, search_shown, Store.find?_shown, shownBy, mk.injEq, and_true]
  funext subject classes instance_
  cases s.find? subject with
  | none => rfl
  | some e => simp only [Option.map_some, Entity.relatedItems_shown]

end GraphQuery

end EntityAudit
