import EntityAudit.Proofs.Encoding.Dump
import EntityAudit.Proofs.Outcome
import EntityAudit.Proofs.Store.Revision
import EntityAudit.Session

/-!
What a dump leaves in an empty session: its entities under their own identifiers and nothing else. A table of
constraints that takes over each saved entity holds what the entities define, so it makes no difference where
constraints are read (`loaded_faithfully`).
-/

namespace EntityAudit

structure Dump.Valid (d : Dump) : Prop where
  nodup : (d.entities.map (·.id)).Nodup
  apart : ∀ e ∈ d.entities, d.redirects.get? e.id = none

def Store.saveAll (s : Store) (l : List Entity) : Store := l.foldl (fun s e => (s.save e).1) s

def ConstraintTable.Mirrors (t : ConstraintTable) (config : Config) (s : Store) : Prop :=
  t.of = ConstraintSource.ofEntities config s.find?

def Session.publish (s : Session) (e : Entity) : Session :=
  ({ s with store := (s.store.save e).1 }.importEntity e).1

variable {config : Config} {s : Store} {t : ConstraintTable} {d : Dump} {e : Entity} {id : EntityId}
  {l : List Entity}

namespace Dump

lemma nodup_of_repeated? {seen : SortedSet EntityId} {ids : List EntityId} (h : repeated? seen ids = none) :
    ids.Nodup ∧ ∀ id ∈ ids, seen.contains id = false := by
  induction ids generalizing seen with
  | nil => simp
  | cons a ids ih =>
    simp only [repeated?] at h
    split at h
    · cases h
    · rename_i ha
      obtain ⟨hnodup, hseen⟩ := ih h
      have hnew : ∀ id ∈ ids, a ≠ id ∧ seen.contains id = false := by
        intro id hid
        have hinsert := hseen id hid
        rw [SortedMap.contains, SortedMap.get?_insert] at hinsert
        split at hinsert
        · cases hinsert
        · rename_i hne
          exact ⟨hne, hinsert⟩
      refine ⟨List.nodup_cons.mpr ⟨fun hmem => (hnew a hmem).1 rfl, hnodup⟩, ?_⟩
      exact List.forall_mem_cons.mpr ⟨Bool.eq_false_iff.mpr ha, fun id hid => (hnew id hid).2⟩

lemma valid_of_validate (h : d.validate = .ok ()) : d.Valid := by
  simp only [validate] at h
  split at h
  · cases h
  · rename_i hrepeated
    split at h
    · cases h
    · rename_i hsources
      refine ⟨(nodup_of_repeated? hrepeated).1, fun e he => ?_⟩
      rw [← Option.not_isSome_iff_eq_none]
      intro hsome
      have hnot := List.find?_eq_none.mp hsources e.id (SortedMap.contains_iff_mem_keys.mp hsome)
      exact hnot (decide_eq_true (List.mem_map_of_mem he))

lemma valid_of_read {text : String} (h : read text = .ok d) : d.Valid := by
  rw [read] at h
  split at h
  · cases h
  · split at h
    · cases h
    · split at h
      · rename_i d' _ _
        cases hvalid : d'.validate with
        | error =>
          rw [hvalid] at h
          cases h
        | ok =>
          rw [hvalid] at h
          obtain rfl := Except.ok.inj h
          exact valid_of_validate hvalid
      · cases h

end Dump

namespace Store

lemma find?_save_of_unredirected (h : s.redirects.get? e.id = none) (id : EntityId) :
    (s.save e).1.find? id = if e.id = id then some e else s.find? id := by
  split
  · rename_i hid
    subst hid
    refine find?_eq_some.mpr ⟨h, ?_⟩
    rw [get?_save, if_pos rfl]
    rfl
  · rename_i hid
    exact find?_save_of_ne hid

lemma find?_saveAll_of_notMem (h : id ∉ l.map (·.id)) : (s.saveAll l).find? id = s.find? id := by
  induction l generalizing s with
  | nil => rfl
  | cons e l ih =>
    obtain ⟨hne, hnot⟩ := not_or.mp (List.mem_cons.not.mp h)
    exact (ih hnot).trans (find?_save_of_ne (Ne.symm hne))

lemma find?_saveAll_of_mem (hredirects : ∀ e ∈ l, s.redirects.get? e.id = none)
    (hnodup : (l.map (·.id)).Nodup) (he : e ∈ l) : (s.saveAll l).find? e.id = some e := by
  induction l generalizing s with
  | nil => cases he
  | cons a l ih =>
    obtain ⟨hnot, hnodup⟩ := List.nodup_cons.mp hnodup
    obtain ⟨ha, hl⟩ := List.forall_mem_cons.mp hredirects
    rcases List.mem_cons.mp he with rfl | he
    · refine (find?_saveAll_of_notMem hnot).trans ?_
      rw [find?_save_of_unredirected ha, if_pos rfl]
    · exact ih hl hnodup he

lemma foldl_addRedirect (m : List (EntityId × EntityId)) (s : Store) :
    m.foldl (fun s (source, target) => s.addRedirect source target) s =
      { s with redirects := m.foldl (fun r e => r.insert e.1 e.2) s.redirects } := by
  induction m generalizing s with
  | nil => rfl
  | cons e m ih => exact ih _

lemma redirects_saveAll (s : Store) (l : List Entity) : (s.saveAll l).redirects = s.redirects := by
  induction l generalizing s with
  | nil => rfl
  | cons e l ih => exact ih (s.save e).1

lemma loadInto_empty (d : Dump) :
    d.loadInto .empty = { empty.saveAll d.entities with redirects := d.redirects } := by
  have hredirects : d.redirects.entries.foldl (fun r e => r.insert e.1 e.2) empty.redirects = d.redirects :=
    SortedMap.ofList_entries d.redirects
  change d.redirects.entries.foldl _ (empty.saveAll d.entities) = _
  rw [foldl_addRedirect, redirects_saveAll, hredirects]

lemma find?_loadInto (hvalid : d.Valid) (id : EntityId) :
    (d.loadInto .empty).find? id = (empty.saveAll d.entities).find? id := by
  cases hredirect : d.redirects.get? id with
  | none =>
    have hempty : (empty.saveAll d.entities).redirects.get? id = none := by
      rw [redirects_saveAll]
      rfl
    simp only [loadInto_empty, find?, load, hredirect, hempty]
  | some target =>
    have hnot : id ∉ d.entities.map (·.id) := by
      intro hid
      obtain ⟨e, he, rfl⟩ := List.mem_map.mp hid
      cases hredirect.symm.trans (hvalid.apart e he)
    rw [find?_saveAll_of_notMem hnot]
    simp only [loadInto_empty, find?, load, hredirect]
    rfl

end Store

namespace ConstraintTable

lemma of_importEntity (config : Config) (t : ConstraintTable) (e : Entity) (p : PropertyId) :
    (t.importEntity config e).of p = if e.id = .property p then Constraint.ofEntity config e else t.of p := by
  rw [importEntity]
  cases e.id with
  | item => rfl
  | property q =>
    simp only [EntityId.property.injEq, replace]
    split
    · rename_i hnone
      rw [of, SortedMap.get?_erase]
      split
      · exact (List.isEmpty_iff.mp hnone).symm
      · rfl
    · rw [of, SortedMap.get?_insert]
      split
      · rfl
      · rfl

lemma Mirrors.save (h : t.Mirrors config s) (hredirect : s.redirects.get? e.id = none) :
    (t.importEntity config e).Mirrors config (s.save e).1 := by
  funext p
  rw [of_importEntity, ConstraintSource.ofEntities, Store.find?_save_of_unredirected hredirect]
  split
  · rfl
  · exact congrFun h p

lemma Mirrors.saveAll (h : t.Mirrors config s) (hredirects : ∀ e ∈ l, s.redirects.get? e.id = none) :
    (l.foldl (importEntity config) t).Mirrors config (s.saveAll l) := by
  induction l generalizing s t with
  | nil => exact h
  | cons e l ih =>
    obtain ⟨he, hl⟩ := List.forall_mem_cons.mp hredirects
    exact ih (h.save he) hl

lemma mirrors_empty (config : Config) : ConstraintTable.Mirrors SortedMap.empty config .empty := rfl

lemma mirrors_loadInto (config : Config) (hvalid : d.Valid) :
    (d.constraints config).Mirrors config (d.loadInto .empty) := by
  have hsaved := (mirrors_empty config).saveAll (l := d.entities) fun _ _ => rfl
  exact hsaved.trans (congrArg _ (funext (Store.find?_loadInto hvalid)).symm)

end ConstraintTable

namespace Session

lemma publishAll (s : Session) (l : List Entity) :
    l.foldl publish s = { s with
      store := s.store.saveAll l
      table := l.foldl (ConstraintTable.importEntity s.config) s.table } := by
  induction l generalizing s with
  | nil => rfl
  | cons e l ih => exact ih (s.publish e)

/-- A dump that is read fills an empty session with its entities and no others. Then and after all saves that
leave redirects alone, the constraints in the table are those that the entities define. -/
theorem loaded_faithfully (session : Session) (hempty : session.store = .empty) {text : String} {d : Dump}
    (hread : Dump.read text = .ok d) :
    let s := session.withDump d
    (∀ e ∈ d.entities, s.find? e.id = some e) ∧
      (∀ id, (∀ e ∈ d.entities, e.id ≠ id) → s.find? id = none) ∧
      ∀ saved : List Entity, (∀ e ∈ saved, d.redirects.get? e.id = none) →
        let w := saved.foldl publish s
        { w with readsConstraints := false }.constraints = { w with readsConstraints := true }.constraints := by
  intro s
  have hvalid := Dump.valid_of_read hread
  have hstore : s.store = d.loadInto .empty := congrArg d.loadInto hempty
  have hfind : s.find? = (Store.empty.saveAll d.entities).find? := by
    funext id
    rw [find?, hstore, Store.find?_loadInto hvalid]
  refine ⟨fun e he => ?_, fun id hid => ?_, fun saved hsaved => ?_⟩
  · rw [hfind]
    exact Store.find?_saveAll_of_mem (fun _ _ => rfl) hvalid.nodup he
  · rw [hfind, Store.find?_saveAll_of_notMem]
    · rfl
    · intro hmem
      obtain ⟨e, he, heq⟩ := List.mem_map.mp hmem
      exact hid e he heq
  · have hmirrors : s.table.Mirrors s.config s.store := by
      rw [hstore]
      exact ConstraintTable.mirrors_loadInto session.config hvalid
    have hredirects : ∀ e ∈ saved, s.store.redirects.get? e.id = none := by
      rw [hstore, Store.loadInto_empty]
      exact hsaved
    intro w
    have hw : w = _ := publishAll s saved
    rw [hw]
    exact hmirrors.saveAll hredirects

end Session

namespace Sample

def weddings : Dump where
  entities := [
    (Entity.empty (.property spouse)).add {
      guid := "P26$1"
      mainSnak := .value ({} : ParameterProperties).propertyConstraint
        (.entity (.item ({} : ConstraintTypes).symmetric)) },
    married ⟨1⟩ ⟨2⟩]
  redirects := .ofList [(.item ⟨9⟩, .item ⟨1⟩)]

lemma read_weddings : Dump.read weddings.toJson.compact = .ok weddings := by
  have hids : ∀ id ∈ weddings.ids, id.number ≠ 0 := by decide
  have hnumbers : ∀ x ∈ weddings.numbers, Json.ReadsBack x := by decide
  have hwrite : Json.compact ∈ [Json.compact, Json.pretty] := by simp
  exact Dump.read_of_read? (Json.read?_write (Dump.legible_toJson hnumbers) hwrite)
    (Dump.ofJson?_toJson hids) rfl

end Sample

open Sample in
theorem Session.loaded_and_withdrawn :
    let session : Session := { now := ⟨0, 0⟩ }
    let s := session.withDump weddings
    let w := [Entity.empty (.property spouse)].foldl publish s
    session.store = .empty ∧ Dump.read weddings.toJson.compact = .ok weddings ∧
      s.find? (.item ⟨1⟩) = some (married ⟨1⟩ ⟨2⟩) ∧ s.find? (.item ⟨9⟩) = none ∧
      (s.constraints spouse).map (·.id) = ["P26$1"] ∧
      (∀ e ∈ [Entity.empty (.property spouse)], weddings.redirects.get? e.id = none) ∧
      { w with readsConstraints := true }.constraints spouse = [] := by
  intro session s w
  obtain ⟨hfound, hmissing, hagree⟩ := loaded_faithfully session rfl read_weddings
  have hsaved : ∀ e ∈ [Entity.empty (.property spouse)], weddings.redirects.get? e.id = none := by decide
  refine ⟨rfl, read_weddings, ?_, ?_, by decide, hsaved, ?_⟩
  · exact hfound (married ⟨1⟩ ⟨2⟩) (by simp [weddings])
  · exact hmissing _ (by simp [weddings, married, Entity.empty, Entity.add])
  · have htable : { w with readsConstraints := false }.constraints spouse = [] := rfl
    exact (congrFun (hagree [Entity.empty (.property spouse)] hsaved) spouse).symm.trans htable

end EntityAudit
