import EntityAudit.Proofs.Ordered.Lookup
import EntityAudit.ResultTree
import Mathlib.Data.List.Induction

/-!
Filing results in a tree. A tree holds the results that were filed, each as often as it was, and it tells
of each drawer which results were filed there in which order, and nothing else (`ofResults_eq_iff`).
-/

namespace EntityAudit

namespace SortedMap

open Std

variable {α β γ : Type} [Ord α] [LawfulEqOrd α] [TransOrd α]

lemma get?_alter [DecidableEq α] (m : SortedMap α β) (k a : α) (f : Option β → β) :
    (m.alter k f).get? a = if k = a then some (f (m.get? a)) else m.get? a := by
  by_cases h : k = a
  · subst h
    rw [if_pos rfl, get?_alter_self]
  · rw [if_neg h]
    exact lookup_alterEntries_ne f m.entries h

lemma alter_getD_comm {k k' : α} {d : β} {f g : β → β} (h : k = k' → ∀ b, g (f b) = f (g b))
    (m : SortedMap α β) :
    (m.alter k fun o => f (o.getD d)).alter k' (fun o => g (o.getD d)) =
      (m.alter k' fun o => g (o.getD d)).alter k fun o => f (o.getD d) := by
  classical
  apply ext_get?
  intro a
  simp only [get?_alter]
  by_cases hk : k = a
  · by_cases hk' : k' = a
    · simp [hk, hk', h (hk.trans hk'.symm)]
    · simp [hk, hk']
  · by_cases hk' : k' = a
    · simp [hk, hk']
    · simp [hk, hk']

omit [LawfulEqOrd α] in
lemma flatMap_alter_perm {f : β → List γ} {d : β} {g : β → β} {x : γ} (hd : f d = [])
    (hg : ∀ b, (f (g b)).Perm (x :: f b)) (m : SortedMap α β) (k : α) :
    ((m.alter k fun o => g (o.getD d)).values.flatMap f).Perm (x :: m.values.flatMap f) := by
  obtain ⟨l, hl⟩ := m
  change (((alterEntries k (fun o => g (o.getD d)) l).map (·.2)).flatMap f).Perm
    (x :: (l.map (·.2)).flatMap f)
  have hnew : (f (g d)).Perm [x] := hd ▸ hg d
  induction l with
  | nil => simpa [alterEntries] using hnew
  | cons e l ih =>
    obtain ⟨a, b⟩ := e
    unfold alterEntries
    split
    · exact hnew.append_right _
    · exact (hg b).append_right _
    · have hrest := ih (List.pairwise_cons.mp hl).2
      exact (hrest.append_left (f b)).trans List.perm_middle

end SortedMap

section Fold

variable {α σ κ : Type} [DecidableEq κ] {step : σ → α → σ} {key : α → κ}

omit [DecidableEq κ] in
lemma foldl_step_of_ne (hcomm : ∀ t a b, key a ≠ key b → step (step t a) b = step (step t b) a)
    {a : α} {l : List α} (hl : ∀ b ∈ l, key b ≠ key a) (t : σ) :
    step (l.foldl step t) a = l.foldl step (step t a) := by
  induction l generalizing t with
  | nil => rfl
  | cons b l ih =>
    obtain ⟨hb, hl⟩ := List.forall_mem_cons.mp hl
    rw [List.foldl_cons, List.foldl_cons, ih hl, hcomm t b a hb]

lemma foldl_eq_of_filter_eq (hcomm : ∀ t a b, key a ≠ key b → step (step t a) b = step (step t b) a)
    {l l' : List α} (h : ∀ k, l.filter (key · = k) = l'.filter (key · = k)) (t : σ) :
    l.foldl step t = l'.foldl step t := by
  induction l generalizing l' t with
  | nil =>
    cases l' with
    | nil => rfl
    | cons b l' =>
      have hb := h (key b)
      simp at hb
  | cons a l ih =>
    -- the first step of its key in the other run can be made at once
    have ha : l'.filter (key · = key a) = a :: l.filter (key · = key a) := by rw [← h, List.filter_cons]; simp
    obtain ⟨first, rest, rfl, hfirst, -, hrest⟩ := List.filter_eq_cons_iff.mp ha
    have hne : ∀ b ∈ first, key b ≠ key a := by
      intro b hb
      simpa using hfirst b hb
    have hfilter (k : κ) : l.filter (key · = k) = (first ++ rest).filter (key · = k) := by
      by_cases hk : key a = k
      · subst hk
        have hnil : first.filter (key · = key a) = [] := List.filter_eq_nil_iff.mpr hfirst
        rw [List.filter_append, hnil, hrest, List.nil_append]
      · have hk' := h k
        simpa [List.filter_cons, hk] using hk'
    rw [List.foldl_cons, ih hfilter, List.foldl_append, List.foldl_append, List.foldl_cons,
      foldl_step_of_ne hcomm hne]

end Fold

inductive Drawer where
  | mainSnak
  | qualifier (p : PropertyId)
  | reference (hash : String) (p : PropertyId)
  deriving DecidableEq

structure Filing where
  entity : EntityId
  property : PropertyId
  guid : String
  drawer : Drawer
  deriving DecidableEq

namespace Cursor

def drawer (c : Cursor) : Drawer :=
  match c.role with
  | .statement => .mainSnak
  | .qualifier => .qualifier c.snakProperty
  | .reference => .reference (c.referenceHash.getD "") c.snakProperty

def filing (c : Cursor) : Filing := ⟨c.entity, c.statementProperty, c.guid, c.drawer⟩

end Cursor

namespace StatementResults

def ofDrawer (t : StatementResults) : Drawer → List Result
  | .mainSnak => t.mainSnak
  | .qualifier p => (t.qualifiers.get? p).getD []
  | .reference hash p => (((t.references.get? hash).getD .empty).get? p).getD []

lemma ofDrawer_empty (d : Drawer) : ({} : StatementResults).ofDrawer d = [] := by
  cases d with
  | mainSnak => rfl
  | qualifier p => rfl
  | reference hash p => rfl

variable {r s : Result}

lemma ofDrawer_file (t : StatementResults) (r : Result) (d : Drawer) :
    (t.file r).ofDrawer d = if r.cursor.drawer = d then t.ofDrawer d ++ [r] else t.ofDrawer d := by
  unfold file Cursor.drawer
  cases r.cursor.role with
  | statement =>
    cases d with
    | mainSnak => rfl
    | qualifier p => rfl
    | reference hash p => rfl
  | qualifier =>
    cases d with
    | mainSnak => rfl
    | qualifier p =>
      simp only [ofDrawer, SortedMap.get?_alter, Drawer.qualifier.injEq]
      split
      · rfl
      · rfl
    | reference hash p => rfl
  | reference =>
    cases d with
    | mainSnak => rfl
    | qualifier p => rfl
    | reference hash p =>
      simp only [ofDrawer, SortedMap.get?_alter, Drawer.reference.injEq]
      by_cases hhash : r.cursor.referenceHash.getD "" = hash
      · by_cases hp : r.cursor.snakProperty = p
        · simp [hhash, hp, append]
        · simp [hhash, hp, SortedMap.get?_alter]
      · simp [hhash]

lemma file_comm (t : StatementResults) (h : r.cursor.drawer ≠ s.cursor.drawer) :
    (t.file r).file s = (t.file s).file r := by
  unfold Cursor.drawer at h
  unfold file
  cases hr : r.cursor.role with
  | statement =>
    cases hs : s.cursor.role with
    | statement => simp [hr, hs] at h
    | qualifier => rfl
    | reference => rfl
  | qualifier =>
    cases hs : s.cursor.role with
    | statement => rfl
    | qualifier =>
      have hne : r.cursor.snakProperty ≠ s.cursor.snakProperty := by simpa [hr, hs] using h
      have hqualifiers := SortedMap.alter_getD_comm (d := ([] : List Result))
        (f := (· ++ [r])) (g := (· ++ [s])) (fun he => absurd he hne) t.qualifiers
      exact congrArg (StatementResults.mk t.mainSnak · t.references) hqualifiers
    | reference => rfl
  | reference =>
    cases hs : s.cursor.role with
    | statement => rfl
    | qualifier => rfl
    | reference =>
      have hne : r.cursor.referenceHash.getD "" = s.cursor.referenceHash.getD "" →
          r.cursor.snakProperty ≠ s.cursor.snakProperty := by simpa [hr, hs] using h
      have hreferences := SortedMap.alter_getD_comm (d := SortedMap.empty)
        (f := fun m => m.alter r.cursor.snakProperty (append · r))
        (g := fun m => m.alter s.cursor.snakProperty (append · s))
        (fun hhash m => SortedMap.alter_getD_comm (d := ([] : List Result))
          (f := (· ++ [r])) (g := (· ++ [s])) (fun hp => absurd hp (hne hhash)) m) t.references
      exact congrArg (StatementResults.mk t.mainSnak t.qualifiers) hreferences

lemma results_file (t : StatementResults) (r : Result) : (t.file r).results.Perm (r :: t.results) := by
  have happend : ∀ l : List Result, (l ++ [r]).Perm (r :: l) := fun l => List.perm_append_singleton r l
  have hlists (m : SortedMap PropertyId (List Result)) (p : PropertyId) :
      (m.alter p (append · r)).values.flatten.Perm (r :: m.values.flatten) := by
    have hperm := SortedMap.flatMap_alter_perm (f := id) (d := []) (g := (· ++ [r])) rfl happend m p
    rwa [List.flatMap_id, List.flatMap_id] at hperm
  unfold file
  cases r.cursor.role with
  | statement => exact ((happend t.mainSnak).append_right _).append_right _
  | qualifier =>
    have hmiddle := (hlists t.qualifiers r.cursor.snakProperty).append_left t.mainSnak
    exact (hmiddle.trans List.perm_middle).append_right _
  | reference =>
    have hnested := SortedMap.flatMap_alter_perm (d := SortedMap.empty)
      (f := fun m => m.values.flatten) (g := fun m => m.alter r.cursor.snakProperty (append · r)) rfl
      (fun m => hlists m r.cursor.snakProperty) t.references (r.cursor.referenceHash.getD "")
    exact (hnested.append_left _).trans List.perm_middle

end StatementResults

namespace ResultTree

def fileGuid (r : Result) (p : SortedMap String StatementResults) : SortedMap String StatementResults :=
  p.alter r.cursor.guid fun s => (s.getD {}).file r

def fileProperty (r : Result) (e : EntityResults) : EntityResults :=
  e.alter r.cursor.statementProperty fun p => fileGuid r (p.getD SortedMap.empty)

def ofFiling (t : ResultTree) (f : Filing) : List Result :=
  let properties := (t.entities.get? f.entity).getD .empty
  let statements := (properties.get? f.property).getD .empty
  ((statements.get? f.guid).getD {}).ofDrawer f.drawer

variable {r s : Result}

lemma ofFiling_file (t : ResultTree) (r : Result) (f : Filing) :
    (t.file r).ofFiling f = if r.cursor.filing = f then t.ofFiling f ++ [r] else t.ofFiling f := by
  obtain ⟨entity, property, guid, drawer⟩ := f
  simp only [ofFiling, file, SortedMap.get?_alter, Cursor.filing, Filing.mk.injEq]
  by_cases hentity : r.cursor.entity = entity
  · by_cases hproperty : r.cursor.statementProperty = property
    · by_cases hguid : r.cursor.guid = guid
      · simp [hentity, hproperty, hguid, StatementResults.ofDrawer_file]
      · simp [hentity, hproperty, hguid, SortedMap.get?_alter]
    · simp [hentity, hproperty, SortedMap.get?_alter]
  · simp [hentity]

lemma ofResults_concat (l : List Result) (r : Result) : ofResults (l ++ [r]) = (ofResults l).file r := by
  simp only [ofResults, List.foldl_append, List.foldl_cons, List.foldl_nil]

lemma ofFiling_ofResults (l : List Result) (f : Filing) :
    (ofResults l).ofFiling f = l.filter fun r => r.cursor.filing = f := by
  induction l using List.reverseRecOn with
  | nil => exact StatementResults.ofDrawer_empty f.drawer
  | append_singleton l r ih =>
    rw [ofResults_concat, ofFiling_file, ih, List.filter_append]
    by_cases h : r.cursor.filing = f
    · simp [h]
    · simp [h]

lemma fileGuid_comm (h : r.cursor.guid = s.cursor.guid → r.cursor.drawer ≠ s.cursor.drawer)
    (p : SortedMap String StatementResults) : fileGuid s (fileGuid r p) = fileGuid r (fileGuid s p) :=
  SortedMap.alter_getD_comm (d := ({} : StatementResults)) (f := fun x => x.file r)
    (g := fun x => x.file s) (fun hguid x => x.file_comm (h hguid)) p

lemma fileProperty_comm (h : r.cursor.statementProperty = s.cursor.statementProperty →
    r.cursor.guid = s.cursor.guid → r.cursor.drawer ≠ s.cursor.drawer) (e : EntityResults) :
    fileProperty s (fileProperty r e) = fileProperty r (fileProperty s e) :=
  SortedMap.alter_getD_comm (d := SortedMap.empty) (f := fileGuid r) (g := fileGuid s)
    (fun hproperty p => fileGuid_comm (h hproperty) p) e

lemma file_comm (t : ResultTree) (h : r.cursor.filing ≠ s.cursor.filing) :
    (t.file r).file s = (t.file s).file r := by
  have hne : r.cursor.entity = s.cursor.entity → r.cursor.statementProperty = s.cursor.statementProperty →
      r.cursor.guid = s.cursor.guid → r.cursor.drawer ≠ s.cursor.drawer := by
    intro hentity hproperty hguid hdrawer
    apply h
    simp only [Cursor.filing, hentity, hproperty, hguid, hdrawer]
  have hentities : (t.file r |>.file s).entities = (t.file s |>.file r).entities :=
    SortedMap.alter_getD_comm (d := SortedMap.empty) (f := fileProperty r) (g := fileProperty s)
      (fun hentity e => fileProperty_comm (hne hentity) e) t.entities
  exact congrArg ResultTree.mk hentities

lemma results_file (t : ResultTree) (r : Result) : (t.file r).results.Perm (r :: t.results) := by
  refine SortedMap.flatMap_alter_perm (d := SortedMap.empty) (g := fileProperty r)
    rfl (fun e => ?_) t.entities r.cursor.entity
  refine SortedMap.flatMap_alter_perm (d := SortedMap.empty) (g := fileGuid r)
    rfl (fun p => ?_) e r.cursor.statementProperty
  exact SortedMap.flatMap_alter_perm (d := {}) (g := (·.file r)) rfl (fun x => x.results_file r) p
    r.cursor.guid

lemma results_ofResults (l : List Result) : (ofResults l).results.Perm l := by
  induction l using List.reverseRecOn with
  | nil => rfl
  | append_singleton l r ih =>
    rw [ofResults_concat]
    exact (results_file _ r).trans ((ih.cons r).trans (List.perm_append_singleton r l).symm)

lemma ofResults_eq_iff {l l' : List Result} : ofResults l = ofResults l' ↔
    ∀ f, l.filter (·.cursor.filing = f) = l'.filter (·.cursor.filing = f) := by
  constructor
  · intro h f
    rw [← ofFiling_ofResults, ← ofFiling_ofResults, h]
  · intro h
    exact foldl_eq_of_filter_eq (fun t _ _ hne => file_comm t hne) h empty

lemma ofResults_swap (h : r.cursor.filing ≠ s.cursor.filing) {m : List Result}
    (hm : ∀ x ∈ m, x.cursor.filing ≠ r.cursor.filing ∧ x.cursor.filing ≠ s.cursor.filing) (a b : List Result) :
    ofResults (a ++ r :: (m ++ s :: b)) = ofResults (a ++ s :: (m ++ r :: b)) := by
  rw [ofResults_eq_iff]
  intro f
  have hnone (hf : r.cursor.filing = f ∨ s.cursor.filing = f) : m.filter (·.cursor.filing = f) = [] := by
    rw [List.filter_eq_nil_iff]
    intro x hx
    rcases hf with rfl | rfl
    · simpa using (hm x hx).1
    · simpa using (hm x hx).2
  by_cases hr : r.cursor.filing = f
  · have hs : s.cursor.filing ≠ f := fun hs => h (hr.trans hs.symm)
    simp [hr, hs, hnone (.inl hr)]
  · by_cases hs : s.cursor.filing = f
    · simp [hr, hs, hnone (.inr hs)]
    · simp [hr, hs]

/-- A tree holds the results that were filed, as often as they were, and tells apart what was filed in
different orders in one drawer, and nothing else. -/
theorem ofResults_faithful :
    (∀ l : List Result, (ofResults l).results.Perm l ∧ (ofResults l).resultCount = l.length) ∧
    (∀ l l' : List Result, ofResults l = ofResults l' ↔
      ∀ f, l.filter (·.cursor.filing = f) = l'.filter (·.cursor.filing = f)) ∧
    ∀ (a m b : List Result) (r s : Result), r.cursor.filing ≠ s.cursor.filing →
      (∀ x ∈ m, x.cursor.filing ≠ r.cursor.filing ∧ x.cursor.filing ≠ s.cursor.filing) →
      ofResults (a ++ r :: (m ++ s :: b)) = ofResults (a ++ s :: (m ++ r :: b)) := by
  refine ⟨fun l => ⟨results_ofResults l, (results_ofResults l).length_eq⟩, fun _ _ => ofResults_eq_iff, ?_⟩
  intro a m b r s h hm
  exact ofResults_swap h hm a b

theorem ofResults_swapped_across_reference :
    let found (role : Role) (p : UInt64) : Result :=
      { cursor := ⟨role, .item ⟨42⟩, ⟨569⟩, "Q42$1", ⟨p⟩, "", none⟩
        constraint := { id := "P569$1", property := ⟨569⟩, type := ⟨21502838⟩ }
        status := .violation }
    let main := found .statement 569
    let qualifier := found .qualifier 1480
    let reference := found .reference 248
    ofResults [main, reference, qualifier] = ofResults [qualifier, reference, main] ∧
      ofResults [main, qualifier, main] ≠ ofResults [main, main, qualifier, qualifier] ∧
      (ofResults [qualifier, reference, main]).resultCount = 3 := by
  intro found main qualifier reference
  obtain ⟨hperm, hiff, hswap⟩ := ofResults_faithful
  refine ⟨hswap [] [reference] [] main qualifier (by decide) ?_, ?_, (hperm _).2⟩
  · intro x hx
    obtain rfl := List.mem_singleton.mp hx
    decide
  · intro heq
    have hfiled := congrArg List.length ((hiff _ _).mp heq qualifier.cursor.filing)
    revert hfiled
    decide

end ResultTree

end EntityAudit
