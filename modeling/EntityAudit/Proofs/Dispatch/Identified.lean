import EntityAudit.Proofs.Store.Loading
import EntityAudit.Proofs.Text.Number
import Mathlib.Data.List.Induction

namespace EntityAudit

lemma SortedMap.get?_ofList_eq_find? {α β : Type} [Ord α] [Std.LawfulEqOrd α] [Std.TransOrd α] [DecidableEq α]
    (l : List (α × β)) (a : α) : (ofList l).get? a = (l.reverse.find? (·.1 = a)).map (·.2) := by
  induction l using List.reverseRecOn with
  | nil => rfl
  | append_singleton l e ih =>
    have hlast : ofList (l ++ [e]) = (ofList l).insert e.1 e.2 := List.foldl_append
    rw [hlast, get?_insert, List.reverse_concat, List.find?_cons, ih]
    by_cases h : e.1 = a
    · simp [h]
    · simp [h]

lemma Text.splitOnce?_eq_some_iff {sep : Char} {cs a b : List Char} :
    splitOnce? sep cs = some (a, b) ↔ cs = a ++ sep :: b ∧ sep ∉ a := by
  refine ⟨fun h => ⟨splitOnce?_eq_some h, ?_⟩, fun ⟨hcs, ha⟩ => hcs ▸ splitOnce?_append ha⟩
  induction cs generalizing a with
  | nil => cases h
  | cons c cs ih =>
    rw [splitOnce?] at h
    split at h
    · obtain ⟨rfl, -⟩ := Prod.mk.inj (Option.some.inj h)
      exact List.not_mem_nil
    · rename_i hc
      obtain ⟨⟨x, y⟩, hxy, heq⟩ := Option.map_eq_some_iff.mp h
      obtain ⟨rfl, rfl⟩ := Prod.mk.inj heq
      exact List.not_mem_cons_of_ne_of_not_mem (Ne.symm hc) (ih hxy)

def PropertyId.Heads (p : PropertyId) (id : String) : Prop :=
  ∃ name rest, id.toList = name ++ '$' :: rest ∧ '$' ∉ name ∧ ofString? (String.ofList name) = some p

namespace Auditor

variable {a : Auditor} {p q : PropertyId} {id : String} {c : Constraint} {l : List ParameterError}

inductive Misdirects (a : Auditor) (p : PropertyId) (id : String) : Prop
  | unnamed (h : ∀ q : PropertyId, ¬ q.Heads id)
  | absent {q : PropertyId} (hq : q.Heads id) (h : ∀ c ∈ a.constraints q, c.id ≠ id)
  | differing {q : PropertyId} {first last : Constraint} (hq : q.Heads id)
      (hfirst : (a.constraints q).find? (·.id = id) = some first)
      (hlast : (a.constraints p).reverse.find? (·.id = id) = some last)
      (h : a.problems first ≠ a.problems last)

lemma get?_propertyProblems (a : Auditor) (p : PropertyId) (id : String) :
    (a.propertyProblems p).get? id = ((a.constraints p).reverse.find? (·.id = id)).map a.problems := by
  rw [propertyProblems, SortedMap.get?_ofList_eq_find?, ← List.map_reverse, List.find?_map, Option.map_map]
  rfl

lemma constraintProblems?_of_heads (h : p.Heads id) :
    a.constraintProblems? id = ((a.constraints p).find? (·.id = id)).map a.problems := by
  obtain ⟨name, rest, hid, hname, hp⟩ := h
  simp only [constraintProblems?, Text.splitOnce?_eq_some_iff.mpr ⟨hid, hname⟩, Option.bind_eq_bind,
    Option.bind_some, hp]
  cases (a.constraints p).find? (·.id = id) with
  | none => rfl
  | some c => rfl

lemma constraintProblems?_of_unnamed (h : ∀ q : PropertyId, ¬ q.Heads id) : a.constraintProblems? id = none := by
  rw [constraintProblems?]
  cases hsplit : Text.splitOnce? '$' id.toList with
  | none => rfl
  | some parts =>
    obtain ⟨hid, hname⟩ := Text.splitOnce?_eq_some_iff.mp hsplit
    change (PropertyId.ofString? (String.ofList parts.1)).bind _ = none
    cases hp : PropertyId.ofString? (String.ofList parts.1) with
    | none => rfl
    | some q => exact absurd ⟨parts.1, parts.2, hid, hname, hp⟩ (h q)

lemma constraintProblems?_eq_some_iff (h : (a.propertyProblems p).get? id = some l) :
    a.constraintProblems? id = some l ↔ ¬ a.Misdirects p id := by
  rw [get?_propertyProblems] at h
  obtain ⟨last, hlast, rfl⟩ := Option.map_eq_some_iff.mp h
  constructor
  · rintro hfound (hnone | ⟨hq, habsent⟩ | ⟨hq, hfirst, hlast', hne⟩)
    · rw [constraintProblems?_of_unnamed hnone] at hfound
      cases hfound
    · rw [constraintProblems?_of_heads hq, List.find?_eq_none.mpr (by simpa using habsent)] at hfound
      cases hfound
    · obtain rfl := Option.some.inj (hlast.symm.trans hlast')
      rw [constraintProblems?_of_heads hq, hfirst] at hfound
      exact hne (Option.some.inj hfound)
  · intro hleads
    obtain ⟨q, hq⟩ : ∃ q : PropertyId, q.Heads id := by
      by_contra hnone
      exact hleads (.unnamed (not_exists.mp hnone))
    rw [constraintProblems?_of_heads hq]
    cases hfirst : (a.constraints q).find? (·.id = id) with
    | none => exact absurd (.absent hq (by simpa using List.find?_eq_none.mp hfirst)) hleads
    | some first =>
      rw [Option.map_some, Option.some.injEq]
      by_contra hne
      exact hleads (.differing hq hfirst hlast hne)

lemma contains_propertyProblems_iff :
    (a.propertyProblems p).contains id = true ↔ ∃ c ∈ a.constraints p, c.id = id := by
  rw [SortedMap.contains, get?_propertyProblems, Option.isSome_map, List.find?_isSome]
  simp

lemma problems_found (hc : c ∈ a.constraints p) (hp : p.Heads c.id)
    (hshared : ∀ d ∈ a.constraints p, d.id = c.id → a.problems d = a.problems c) :
    (a.propertyProblems p).get? c.id = some (a.problems c) ∧ a.constraintProblems? c.id = some (a.problems c) := by
  have hfind (l : List Constraint) (hl : ∀ d, d ∈ l ↔ d ∈ a.constraints p) :
      (l.find? (·.id = c.id)).map a.problems = some (a.problems c) := by
    have hsome : (l.find? (·.id = c.id)).isSome = true :=
      List.find?_isSome.mpr ⟨c, (hl c).mpr hc, by simp⟩
    obtain ⟨d, hd⟩ := Option.isSome_iff_exists.mp hsome
    have hid : d.id = c.id := by simpa using List.find?_some hd
    rw [hd, Option.map_some, hshared d ((hl d).mp (List.mem_of_find?_eq_some hd)) hid]
  rw [get?_propertyProblems, constraintProblems?_of_heads hp]
  exact ⟨hfind _ fun _ => List.mem_reverse, hfind _ fun _ => Iff.rfl⟩

end Auditor

variable {d : Dump} {e : Entity} {p : PropertyId}

lemma Session.constraints_of_read {session : Session} (hempty : session.store = .empty) {text : String}
    (hread : Dump.read text = .ok d) (he : e ∈ d.entities) (hp : e.id = .property p) :
    (session.withDump d).constraints p = Constraint.ofEntity session.config e := by
  have hvalid := Dump.valid_of_read hread
  have hstore : (session.withDump d).store = d.loadInto .empty := congrArg d.loadInto hempty
  have hmirrors : (session.withDump d).table.Mirrors session.config (session.withDump d).store := by
    rw [hstore]
    exact ConstraintTable.mirrors_loadInto session.config hvalid
  have hfind : (session.withDump d).store.find? (.property p) = some e := by
    rw [hstore, Store.find?_loadInto hvalid, ← hp]
    exact Store.find?_saveAll_of_mem (fun _ _ => rfl) hvalid.nodup he
  have hentities : ConstraintSource.ofEntities session.config (session.withDump d).find? p =
      Constraint.ofEntity session.config e := by
    simp only [ConstraintSource.ofEntities, find?, hfind]
  rw [constraints]
  split
  · exact hentities
  · exact (congrFun hmirrors p).trans hentities

namespace Auditor

/-- After a dump has been read, the report of a property has exactly the identifiers of the constraints that the
property's entity defines. Going by such an identifier gives the problems that the report has under it, unless the
identifier misdirects; the one of a constraint that begins with the property does so only if a constraint with
other problems shares it. -/
theorem problems_found_iff_not_misdirects (session : Session) (hempty : session.store = .empty) {text : String}
    {d : Dump} (hread : Dump.read text = .ok d) (a : Auditor)
    (hsource : a.constraints = (session.withDump d).constraints) {e : Entity} (he : e ∈ d.entities)
    {p : PropertyId} (hp : e.id = .property p) :
    let defined := Constraint.ofEntity session.config e
    (∀ id, (a.propertyProblems p).contains id = true ↔ ∃ c ∈ defined, c.id = id) ∧
      (∀ id l, (a.propertyProblems p).get? id = some l →
        (a.constraintProblems? id = some l ↔ ¬ a.Misdirects p id)) ∧
      ∀ c ∈ defined, p.Heads c.id → (∀ c' ∈ defined, c'.id = c.id → a.problems c' = a.problems c) →
        (a.propertyProblems p).get? c.id = some (a.problems c) ∧
          a.constraintProblems? c.id = some (a.problems c) := by
  intro defined
  have hdefined : a.constraints p = defined := by
    rw [hsource, Session.constraints_of_read hempty hread he hp]
  rw [← hdefined]
  exact ⟨fun _ => contains_propertyProblems_iff, fun _ _ h => constraintProblems?_eq_some_iff h,
    fun _ hc hown hshared => problems_found hc hown hshared⟩

end Auditor

namespace Sample

def constraining (guid : String) (type : ItemId) : Statement where
  guid := guid
  mainSnak := .value ({} : ParameterProperties).propertyConstraint (.entity (.item type))

def namesakes : Entity where
  id := .property spouse
  statements := .ofList [
    constraining "P26$1" ({} : ConstraintTypes).range, constraining "P26$2" ({} : ConstraintTypes).range,
    constraining "P27$1" ({} : ConstraintTypes).singleValue, constraining "P26$2" ({} : ConstraintTypes).singleValue]

def crowded : Dump where
  entities := [namesakes, married ⟨1⟩ ⟨2⟩]

lemma read_crowded : Dump.read crowded.toJson.compact = .ok crowded := by
  have hids : ∀ id ∈ crowded.ids, id.number ≠ 0 := by decide
  have hnumbers : ∀ x ∈ crowded.numbers, Json.ReadsBack x := by decide
  have hwrite : Json.compact ∈ [Json.compact, Json.pretty] := by simp
  exact Dump.read_of_read? (Json.read?_write (Dump.legible_toJson hnumbers) hwrite)
    (Dump.ofJson?_toJson hids) rfl

end Sample

namespace Auditor

open Sample

theorem found_and_misdirected_namesakes :
    let session : Session := { now := ⟨0, 0⟩ }
    let a := (session.withDump crowded).auditor
    session.store = .empty ∧ Dump.read crowded.toJson.compact = .ok crowded ∧ namesakes ∈ crowded.entities ∧
      spouse.Heads "P26$1" ∧ a.constraintProblems? "P26$1" = some [.missing ⟨2313⟩] ∧
      (a.propertyProblems spouse).get? "P27$1" = some [] ∧ a.Misdirects spouse "P27$1" ∧
      a.constraintProblems? "P27$1" ≠ some [] := by
  intro session a
  have hmem : namesakes ∈ crowded.entities := List.mem_cons_self
  obtain ⟨-, hagree, hown⟩ := problems_found_iff_not_misdirects session rfl read_crowded a rfl hmem rfl
  have hheads : spouse.Heads "P26$1" := ⟨['P', '2', '6'], ['1'], by decide, by decide, by decide⟩
  have hforeign : (PropertyId.mk 27).Heads "P27$1" := ⟨['P', '2', '7'], ['1'], by decide, by decide, by decide⟩
  have hreported : (a.propertyProblems spouse).get? "P27$1" = some [] := by decide
  have hmisdirects : a.Misdirects spouse "P27$1" := .absent hforeign (by decide)
  refine ⟨rfl, read_crowded, hmem, hheads, ?_, hreported, hmisdirects, fun h => ?_⟩
  · let c : Constraint := ⟨"P26$1", spouse, ({} : ConstraintTypes).range, .ofSnaks [], false⟩
    have hdefined : c ∈ Constraint.ofEntity session.config namesakes := List.mem_of_getElem? (i := 0) rfl
    have hproblems : a.problems c = [.missing ⟨2313⟩] := by decide
    rw [← hproblems]
    exact (hown c hdefined hheads (by decide)).2
  · exact (hagree _ _ hreported).mp h hmisdirects

theorem namesakes_apart :
    let a := (({ now := ⟨0, 0⟩ } : Session).withDump crowded).auditor
    Dump.read crowded.toJson.compact = .ok crowded ∧
      (a.propertyProblems spouse).get? "P27$1" = some [] ∧ a.constraintProblems? "P27$1" = none ∧
      (a.propertyProblems spouse).get? "P26$2" = some [] ∧
      a.constraintProblems? "P26$2" = some [.missing ⟨2313⟩] := by
  exact ⟨read_crowded, by decide, by decide, by decide, by decide⟩

end Auditor

end EntityAudit
