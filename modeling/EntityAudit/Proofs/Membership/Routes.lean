import EntityAudit.Proofs.Membership.Search
import EntityAudit.Proofs.Membership.Walk

namespace EntityAudit.Membership

open GraphQuery

variable {config : Config} {s : Store} {classes : List ItemId} {e : Entity} {relation : Relation}

lemma mem_relatedItems {relations : List PropertyId} {c : ItemId} :
    c ∈ e.relatedItems relations ↔ ∃ p ∈ relations, c ∈ e.relatedItems [p] := by
  simp only [Entity.relatedItems, List.mem_filterMap, List.mem_filter, List.mem_singleton,
    decide_eq_true_eq]
  constructor
  · rintro ⟨x, ⟨hx, hp⟩, hc⟩
    exact ⟨x.property, hp, x, ⟨hx, rfl⟩, hc⟩
  · rintro ⟨p, hp, x, ⟨hx, rfl⟩, hc⟩
    exact ⟨x, ⟨hx, hp⟩, hc⟩

lemma mem_properties {p : PropertyId} :
    p ∈ relation.properties config ↔
      ∃ instance_ ∈ questions relation, (if instance_ then config.instanceOf else config.subclassOf) = p := by
  cases relation with
  | instance_ => simp [Relation.properties, questions, eq_comm]
  | subclass => simp [Relation.properties, questions, eq_comm]
  | instanceOrSubclass =>
    simp only [Relation.properties, questions, List.mem_cons, List.not_mem_nil, or_false, exists_eq_or_imp,
      exists_eq_left, if_true, Bool.false_eq_true, if_false, eq_comm]

lemma ask_ofStore (he : s.find? e.id = some e) (known : Metadata) (rest : List Bool) :
    ∃ answer, ask classes (ofStore config s) e.id known rest = .known answer ∧
      (answer.value = true ↔ ∃ instance_ ∈ rest, Reaches s config.subclassOf classes
        (e.relatedItems [if instance_ then config.instanceOf else config.subclassOf])) := by
  induction rest generalizing known with
  | nil => exact ⟨⟨false, known⟩, rfl, by simp⟩
  | cons instance_ rest ih =>
    obtain ⟨found, hfound, hiff⟩ : ∃ found, (ofStore config s).hasType e.id classes instance_ =
        .ok { value := found } ∧ (found = true ↔ Reaches s config.subclassOf classes
          (e.relatedItems [if instance_ then config.instanceOf else config.subclassOf])) :=
      hasType_ofStore he instance_
    simp only [ask, hfound, List.exists_mem_cons_iff, ← hiff]
    cases found with
    | true => exact ⟨_, rfl, by simp⟩
    | false => simpa using ih _

lemma exists_reaches_iff :
    (∃ instance_ ∈ questions relation, Reaches s config.subclassOf classes
        (e.relatedItems [if instance_ then config.instanceOf else config.subclassOf])) ↔
      Reaches s config.subclassOf classes (e.relatedItems (relation.properties config)) := by
  constructor
  · rintro ⟨instance_, hmem, c, hc, hway⟩
    exact ⟨c, mem_relatedItems.mpr ⟨_, mem_properties.mpr ⟨instance_, hmem, rfl⟩, hc⟩, hway⟩
  · rintro ⟨c, hc, hway⟩
    obtain ⟨p, hp, hcp⟩ := mem_relatedItems.mp hc
    obtain ⟨instance_, hmem, rfl⟩ := mem_properties.mp hp
    exact ⟨instance_, hmem, c, hcp, hway⟩

end EntityAudit.Membership

namespace EntityAudit.Sample

def instanceOf : PropertyId := ⟨31⟩

def subclassOf : PropertyId := ⟨279⟩

def linked (id : ItemId) (relation : PropertyId) (others : List ItemId) : Entity :=
  others.foldl (fun e other => e.add
    { guid := id.toString ++ "$" ++ other.toString, mainSnak := .value relation (.entity (.item other)) })
    (.empty (.item id))

def kinds : Store :=
  [linked ⟨1⟩ instanceOf [⟨2⟩], linked ⟨2⟩ subclassOf [⟨3⟩], linked ⟨3⟩ subclassOf [⟨2⟩, ⟨4⟩]].foldl
    (fun s e => (s.save e).1) .empty

end EntityAudit.Sample

namespace EntityAudit.Membership

open GraphQuery Sample

/-- Whether types are looked up by the walk or by the graph query, there is an answer. A yes of the walk is
one of the graph query, and where the walk may go as many levels as there are entities, the answers agree. -/
theorem routes_agree (config : Config) (s : Store) (e : Entity) (he : s.find? e.id = some e)
    (classes : List ItemId) (relation : Relation) (graph : Option GraphQuery) :
    ∃ walked asked,
      check { config with useGraphQueryForTypes := false } s.find? classes graph e relation = .known walked ∧
      check { config with useGraphQueryForTypes := true } s.find? classes (some (ofStore config s)) e relation =
        .known asked ∧
      (walked.value = true → asked.value = true) ∧
      (s.ids.length ≤ config.typeCheckMaxDepth → walked.value = asked.value) := by
  obtain ⟨asked, hasked, hreaches⟩ : ∃ answer, ask classes (ofStore config s) e.id .blank (questions relation) =
      .known answer ∧ (answer.value = true ↔ ∃ instance_ ∈ questions relation, Reaches s config.subclassOf
        classes (e.relatedItems [if instance_ then config.instanceOf else config.subclassOf])) :=
    ask_ofStore he _ _
  rw [exists_reaches_iff] at hreaches
  have hwalked : (byWalk { config with useGraphQueryForTypes := false } s.find? classes e
      (relation.properties config)).value = true ↔ ∃ c ∈ e.relatedItems (relation.properties config), ∃ l,
        ∃ d ∈ classes, Ascent s.find? config.subclassOf c l d ∧ l.length ≤ config.typeCheckMaxDepth :=
    byWalk_eq_true_iff
  refine ⟨_, asked, rfl, hasked, fun hyes => ?_, fun hdepth => ?_⟩
  · obtain ⟨c, hc, l, d, hd, hway, -⟩ := hwalked.mp hyes
    exact hreaches.mpr ⟨c, hc, l, d, hd, hway⟩
  · refine Bool.eq_iff_iff.mpr (hwalked.trans ?_)
    rw [hreaches]
    constructor
    · rintro ⟨c, hc, l, d, hd, hway, -⟩
      exact ⟨c, hc, l, d, hd, hway⟩
    · rintro ⟨c, hc, l, d, hd, hway⟩
      obtain ⟨k, hk, hck⟩ := hway.short
      exact ⟨c, hc, k, d, hd, hck, Nat.le_trans hk hdepth⟩

theorem routes_of_kinds :
    let e := linked ⟨1⟩ instanceOf [⟨2⟩]
    kinds.find? e.id = some e ∧ kinds.ids.length ≤ ({} : Config).typeCheckMaxDepth ∧
      ∃ walked asked, check {} kinds.find? [⟨4⟩] none e .instance_ = .known walked ∧
        check { useGraphQueryForTypes := true } kinds.find? [⟨4⟩] (some (ofStore {} kinds)) e .instance_ =
          .known asked ∧ walked.value = true ∧ asked.value = true := by
  intro e
  have he : kinds.find? e.id = some e := rfl
  have hdepth : kinds.ids.length ≤ ({} : Config).typeCheckMaxDepth := by decide
  obtain ⟨walked, asked, hwalked, hasked, -, hagree⟩ := routes_agree {} kinds e he [⟨4⟩] .instance_ none
  have hyes : walked.value = true := by
    obtain rfl := Membership.known.inj hwalked
    decide
  exact ⟨he, hdepth, walked, asked, hwalked, hasked, hyes, (hagree hdepth).symm.trans hyes⟩

end EntityAudit.Membership
