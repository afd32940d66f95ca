import EntityAudit.Dump
import EntityAudit.Proofs.Encoding.Statement

namespace EntityAudit.Dump

open Json Record

def ids (d : Dump) : List EntityId :=
  d.entities.flatMap Entity.ids ++ (d.redirects.keys ++ d.redirects.values)

def numbers (d : Dump) : List Float := d.entities.flatMap Entity.numbers

def uncounted (d : Dump) : Dump := ⟨d.entities.map Entity.uncounted, d.redirects⟩

variable {d : Dump}

lemma list?_entities (h : ∀ id ∈ d.ids, id.number ≠ 0) :
    list? Entity.ofJson? (.array (d.entities.map (·.toJson))) = some d.uncounted.entities := by
  refine list?_map fun e he => Entity.ofJson?_toJson fun id hid => h id ?_
  exact List.mem_append_left _ (List.mem_flatMap.mpr ⟨e, he, hid⟩)

lemma map?_redirects (h : ∀ id ∈ d.ids, id.number ≠ 0) :
    map? EntityId.ofString? (parsed? EntityId.ofString?) (.object (d.redirects.entries.map fun e =>
      (e.1.toString, .text e.2.toString))) = some d.redirects := by
  have hsource : ∀ e ∈ d.redirects.entries, EntityId.ofString? e.1.toString = some e.1 := by
    intro e he
    have hid : e.1 ∈ d.ids := List.mem_append_right _ (List.mem_append_left _ (List.mem_map_of_mem he))
    rw [EntityId.ofString?_toString, if_neg (h e.1 hid)]
  have htarget : ∀ e ∈ d.redirects.entries, parsed? EntityId.ofString? (.text e.2.toString) = some e.2 := by
    intro e he
    have hid : e.2 ∈ d.ids := List.mem_append_right _ (List.mem_append_right _ (List.mem_map_of_mem he))
    exact EntityId.parsed?_toString (h e.2 hid)
  exact map?_object EntityId.toString (fun target => .text target.toString) hsource htarget

lemma ofJson?_toJson (h : ∀ id ∈ d.ids, id.number ≠ 0) : ofJson? d.toJson = some d.uncounted := by
  -- An object is no list, so the second shape is tried.
  have hlist : d.toJson.list? Entity.ofJson? = none := rfl
  simp only [ofJson?, hlist, Option.bind_eq_bind, Option.bind_eq_some_iff]
  exact ⟨_, record?_record (by simp) _, d.uncounted.entities, required?_of_get? rfl (list?_entities h),
    d.redirects, defaulting?_of_ite rfl SortedMap.eq_empty_of_isEmpty (map?_redirects h), rfl⟩

lemma legible_entities (h : ∀ x ∈ d.numbers, ReadsBack x) {n : Nat} :
    Legible (n + 10) (.array (d.entities.map (·.toJson))) :=
  legible_list fun e he => Entity.legible_toJson fun x hx => h x (List.mem_flatMap.mpr ⟨e, he, hx⟩)

lemma legible_toJson (h : ∀ x ∈ d.numbers, ReadsBack x) {n : Nat} : Legible (n + 11) d.toJson := by
  have hredirects : Legible (n + 10) (.object (d.redirects.entries.map fun e =>
      (e.1.toString, .text e.2.toString))) := by
    refine .object fun m hm => ?_
    obtain ⟨e, -, rfl⟩ := List.mem_map.mp hm
    exact .text
  apply legible_record
  simp only [List.forall_mem_cons]
  exact ⟨legible_some (legible_entities h), legible_unless hredirects, nofun⟩

lemma validate_uncounted (d : Dump) : d.uncounted.validate = d.validate := by
  have hids : d.uncounted.entities.map (·.id) = d.entities.map (·.id) := by
    rw [uncounted, List.map_map]
    rfl
  simp only [validate, hids]
  rfl

lemma validate_of_valid (h : d.validate = .ok ()) : Dump.validate { entities := d.entities } = .ok () := by
  simp only [validate] at h ⊢
  split at h
  · cases h
  · rfl

lemma read_of_read? {s : String} {j : Json} (hread : Json.read? s.toList = some (j, [])) (hj : ofJson? j = some d)
    (hvalid : d.validate = .ok ()) : read s = .ok d := by
  simp only [read, hread, hj, hvalid]
  rfl

/-- A valid dump is what its text is read as, and so is the list of its entities. -/
theorem read_written (hvalid : d.validate = .ok ()) (hids : ∀ id ∈ d.ids, id.number ≠ 0)
    (hnumbers : ∀ x ∈ d.numbers, ReadsBack x) {write : Json → String} (hwrite : write ∈ [compact, pretty]) :
    read (write d.toJson) = .ok d.uncounted ∧
      read (write (.array (d.entities.map (·.toJson)))) = .ok { entities := d.uncounted.entities } := by
  have hvalid' : d.uncounted.validate = .ok () := (validate_uncounted d).trans hvalid
  constructor
  · exact read_of_read? (read?_write (legible_toJson hnumbers) hwrite) (ofJson?_toJson hids) hvalid'
  · refine read_of_read? (read?_write (legible_entities hnumbers) hwrite) ?_ (validate_of_valid hvalid')
    simp only [ofJson?, list?_entities hids]

def redirectedHeight : Dump where
  entities := [⟨.item ⟨1⟩, .ofList [{
    guid := "Q1$\"\\\n"
    mainSnak := .value ⟨2048⟩ (.quantity { amount := 1.78, lowerBound := some (-0.5), unit := some ⟨11573⟩ })
    rank := .preferred
    qualifiers := [.someValue ⟨585⟩, .noValue ⟨582⟩]
    references := [⟨[.value ⟨854⟩ (.string "\u2028\t\u0001")]⟩] }]⟩]
  redirects := .ofList [(.item ⟨2⟩, .item ⟨1⟩)]

theorem read_written_redirectedHeight :
    redirectedHeight.validate = .ok () ∧ (∀ id ∈ redirectedHeight.ids, id.number ≠ 0) ∧
      (∀ x ∈ redirectedHeight.numbers, ReadsBack x) ∧
        read redirectedHeight.toJson.pretty = .ok redirectedHeight.uncounted := by
  have hvalid : redirectedHeight.validate = .ok () := rfl
  have hids : ∀ id ∈ redirectedHeight.ids, id.number ≠ 0 := by decide
  have hnumbers : ∀ x ∈ redirectedHeight.numbers, ReadsBack x := by decide +kernel
  have hwrite : pretty ∈ [compact, pretty] := by simp
  exact ⟨hvalid, hids, hnumbers, (read_written hvalid hids hnumbers hwrite).1⟩

end EntityAudit.Dump
