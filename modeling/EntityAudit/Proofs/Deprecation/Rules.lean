import EntityAudit.Proofs.Counting.Best
import EntityAudit.Proofs.Deprecation.Walk
import EntityAudit.Proofs.Pairs
import EntityAudit.Proofs.Rule.Trace
import EntityAudit.Session

/-!
Verdicts that do not depend on deprecated statements: those on counts and differences, on values that are used
elsewhere and on classes. Edits of deprecated statements anywhere in a store leave them as they are.
-/

namespace EntityAudit

namespace Entity

variable (e : Entity)

lemma hasPreferred_shown (p : PropertyId) : e.shown.statements.hasPreferred p = e.statements.hasPreferred p := by
  change (e.statements.toList.filter (!·.isDeprecated)).any _ = e.statements.toList.any _
  rw [List.any_filter]
  refine congrArg e.statements.toList.any (funext fun s => ?_)
  cases hrank : s.rank <;> simp [Statement.isDeprecated, hrank]

lemma isBest_shown (s : Statement) : e.shown.statements.isBest s = e.statements.isBest s := by
  unfold StatementList.isBest
  rw [hasPreferred_shown]

lemma map_candidates_nonDeprecated :
    (e.candidates .nonDeprecated).map Prod.fst = e.statements.nonDeprecated := by
  change (e.statements.toList.zipIdx.filter ((!·.isDeprecated) ∘ Prod.fst)).map Prod.fst = _
  rw [← List.filter_map, List.zipIdx_map_fst]
  rfl

lemma map_candidates_best : (e.candidates .best).map Prod.fst = e.statements.toList.filter e.statements.isBest := by
  change (e.statements.toList.zipIdx.filter (e.statements.isBest ∘ Prod.fst)).map Prod.fst = _
  rw [← List.filter_map, List.zipIdx_map_fst]

lemma map_candidates_shown (grouping : Grouping) :
    (e.shown.candidates grouping).map Prod.fst = (e.candidates grouping).map Prod.fst := by
  cases grouping with
  | nonDeprecated => rw [map_candidates_nonDeprecated, map_candidates_nonDeprecated, nonDeprecated_shown]
  | best =>
    rw [map_candidates_best, map_candidates_best]
    change (e.statements.toList.filter _).filter _ = _
    rw [List.filter_filter]
    -- A deprecated statement is not among the best ones, so that the first filter takes none of them away.
    refine List.filter_congr fun s _ => ?_
    rw [isBest_shown]
    cases hrank : s.rank <;> simp [StatementList.isBest, Statement.isDeprecated, hrank]

variable {e} {f : Entity} {grouping : Grouping} {s : Statement} {i j : Nat} {separators : List PropertyId}

lemma countIn_of_shown (h : f.shown = e.shown) (hf : (s, j) ∈ f.candidates grouping)
    (he : (s, i) ∈ e.candidates grouping) :
    (Context.ofMain f (s, j)).countIn ((Context.ofMain f (s, j)).group grouping separators) =
      (Context.ofMain e (s, i)).countIn ((Context.ofMain e (s, i)).group grouping separators) := by
  have hcount (e : Entity) : ((e.candidates grouping).countP fun y => SameGroup separators s y.1) =
      ((e.candidates grouping).map Prod.fst).countP (SameGroup separators s ·) := by
    rw [List.countP_map]
    rfl
  rw [countIn_group hf, countIn_group he, hcount, hcount, ← map_candidates_shown, h, map_candidates_shown]

end Entity

namespace Context

def shown (c : Context) : Context := { c with entity := c.entity.shown, position := 0 }

def IsPlaced (c : Context) : Prop := (c.statement, c.position) ∈ c.entity.candidates .nonDeprecated

variable {c d : Context} {separators : List PropertyId}

lemma shown_eq_iff : d.shown = c.shown ↔
    d.entity.shown = c.entity.shown ∧ d.statement = c.statement ∧ d.place = c.place := by
  simp [shown]

lemma IsPlaced.isBest_eq (h : c.IsPlaced) : c.isBest = c.entity.statements.isBest c.statement := by
  rw [Bool.eq_iff_iff, StatementList.isBest_iff]
  exact Entity.isBest_ofMain (Entity.placed_of_candidate h)

lemma valueCount_of_shown (h : d.shown = c.shown) (hd : d.IsPlaced) (hc : c.IsPlaced) :
    d.valueCount separators = c.valueCount separators := by
  obtain ⟨e, s, i, place⟩ := c
  obtain ⟨f, t, j, place'⟩ := d
  obtain ⟨hentity, rfl, rfl⟩ := shown_eq_iff.mp h
  cases place' with
  | mainSnak =>
    calc (ofMain f (t, j)).valueCount separators
        = (ofMain f (t, j)).countIn ((ofMain f (t, j)).group .nonDeprecated separators) :=
          Entity.valueCount_eq_countIn hd
      _ = (ofMain e (t, i)).countIn ((ofMain e (t, i)).group .nonDeprecated separators) :=
          Entity.countIn_of_shown hentity hd hc
      _ = (ofMain e (t, i)).valueCount separators := (Entity.valueCount_eq_countIn hc).symm
  | qualifier snak => rfl
  | reference r snak => rfl

lemma bestCount_of_shown (h : d.shown = c.shown) (hd : d.IsPlaced) (hc : c.IsPlaced) :
    d.bestCount separators = c.bestCount separators := by
  obtain ⟨e, s, i, place⟩ := c
  obtain ⟨f, t, j, place'⟩ := d
  obtain ⟨hentity, rfl, rfl⟩ := shown_eq_iff.mp h
  have hbest : f.statements.isBest t = e.statements.isBest t := by
    rw [← Entity.isBest_shown, hentity, Entity.isBest_shown]
  unfold bestCount
  rw [hd.isBest_eq, hc.isBest_eq, hbest]
  split
  · rename_i hbest'
    cases place' with
    | mainSnak =>
      have hcandidate (e : Entity) (i : Nat) (hbest : e.statements.isBest t = true)
          (he : (t, i) ∈ e.candidates .nonDeprecated) : (t, i) ∈ e.candidates .best :=
        List.mem_filter.mpr ⟨Entity.placed_of_candidate he, hbest⟩
      exact Entity.countIn_of_shown hentity (hcandidate f j (hbest.trans hbest') hd) (hcandidate e i hbest' hc)
    | qualifier snak => rfl
    | reference r snak => rfl
  · rfl

lemma map_shown_ofStatement (e : Entity) (s : Statement) (i : Nat) :
    (ofStatement e s i).map shown = ofStatement e.shown s 0 := by
  simp [ofStatement, shown, List.map_flatMap, Function.comp_def]

end Context

def Services.shown (s : Services) : Services := { s with find? := shownBy s.find? }

namespace Rule

def IgnoresDeprecated (rule : Rule) : Prop :=
  ∀ (s t : Services) (c d : Context) (k : Constraint), t.shown = s.shown → d.shown = c.shown →
    d.IsPlaced → c.IsPlaced → rule.verdict t d k = rule.verdict s c k

variable {rule : Rule}

lemma IgnoresDeprecated.of_shown (h : ∀ s c k, rule.verdict s.shown c.shown k = rule.verdict s c k) :
    rule.IgnoresDeprecated := by
  intro s t c d k hs hc _ _
  rw [← h t d k, hs, hc, h s c k]

lemma IgnoresDeprecated.onCount {support : Role → Support} {roles : List Role}
    {count : Context → List PropertyId → Nat} {allowed : Nat → Bool} {message : PropertyId → Nat → Message}
    (hcount : ∀ c d separators, d.shown = c.shown → d.IsPlaced → c.IsPlaced →
      count d separators = count c separators) :
    (onCount support roles count allowed message).IgnoresDeprecated := by
  intro s t c d k hs hc hd' hc'
  have hconfig : t.config = s.config := congrArg (·.config) hs
  simp only [Rule.onCount, hconfig, hcount c d _ hc hd' hc']

lemma belongs_shown (s : Services) (e : Entity) (classes : List ItemId) (relation : Relation) (key : String) :
    belongs s.shown e.shown classes relation key = belongs s e classes relation key := by
  unfold belongs
  simp only [Services.shown, Membership.check_shown]
  rfl

lemma typeOf_ignoresDeprecated : typeOf.IgnoresDeprecated :=
  .of_shown fun s c _ => bind_congr fun classes => bind_congr fun relation =>
    congrArg Except.ok (belongs_shown s c.entity classes relation "type")

lemma valueType_ignoresDeprecated : valueType.IgnoresDeprecated := by
  refine .of_shown fun s c k => ?_
  rw [verdict_valueType, verdict_valueType]
  refine bind_congr fun classes => bind_congr fun relation => congrArg Except.ok ?_
  have hsame : c.shown.requireEntity = c.requireEntity := rfl
  cases h : c.requireEntity with
  | error v => rw [onTarget_of_error h, onTarget_of_error (hsame.trans h)]
  | ok target =>
    rw [onTarget_of_ok h, onTarget_of_ok (hsame.trans h)]
    simp only [Services.shown, shownBy]
    cases s.find? target with
    | none => rfl
    | some e => exact congrArg (Verdict.withMetadata · _) (belongs_shown s e classes relation "value-type")

lemma diffWithinRange_ignoresDeprecated : diffWithinRange.IgnoresDeprecated := by
  refine .of_shown fun s c k => ?_
  have hfirst (p : PropertyId) : firstValue? c.shown.entity p = firstValue? c.entity p := by
    simp only [firstValue?, Context.shown, Entity.nonDeprecated_shown]
  simp only [diffWithinRange, hfirst]
  rfl

lemma uniqueValue_ignoresDeprecated : uniqueValue.IgnoresDeprecated := .of_shown fun _ _ _ => rfl

lemma ignoresDeprecated_of_mem (h : rule ∈ [singleValue, multiValue, singleBestValue, diffWithinRange, uniqueValue,
    typeOf, valueType]) : rule.IgnoresDeprecated := by
  simp only [List.mem_cons, List.not_mem_nil, or_false] at h
  rcases h with rfl | rfl | rfl | rfl | rfl | rfl | rfl
  · exact .onCount fun _ _ _ => Context.valueCount_of_shown
  · exact .onCount fun _ _ _ => Context.valueCount_of_shown
  · exact .onCount fun _ _ _ => Context.bestCount_of_shown
  · exact diffWithinRange_ignoresDeprecated
  · exact uniqueValue_ignoresDeprecated
  · exact typeOf_ignoresDeprecated
  · exact valueType_ignoresDeprecated

end Rule

namespace Auditor

variable {a b : Auditor} {c d : Context} {id : EntityId} {rule : Rule} {k : Constraint}

lemma contexts_shown (a : Auditor) (id : EntityId) : (a.contexts id).map Context.shown =
    (shownBy a.services.find? id).elim [] fun e =>
      e.statements.nonDeprecated.flatMap fun s => Context.ofStatement e s 0 := by
  unfold contexts shownBy
  cases a.services.find? id with
  | none => rfl
  | some e =>
    change ((e.withCounts.candidates .nonDeprecated).flatMap fun x =>
      Context.ofStatement e.withCounts x.1 x.2).map Context.shown = e.shown.statements.nonDeprecated.flatMap _
    simp only [List.map_flatMap, Context.map_shown_ofStatement]
    rw [Entity.nonDeprecated_shown, ← Entity.map_candidates_nonDeprecated, List.flatMap_map]
    rfl

lemma isPlaced_of_mem_contexts (h : c ∈ a.contexts id) : c.IsPlaced := by
  unfold contexts at h
  split at h
  · cases h
  · obtain ⟨x, hx, hc⟩ := List.mem_flatMap.mp h
    obtain ⟨place, rfl⟩ := Context.exists_place hc
    exact hx

lemma shown_of_mem_contexts (h : c ∈ a.contexts id) : shownBy a.services.find? id = some c.entity.shown := by
  unfold contexts at h
  split at h
  · cases h
  · rename_i e he
    obtain ⟨x, -, hc⟩ := List.mem_flatMap.mp h
    rw [shownBy, he, Context.entity_of_mem hc]
    rfl

lemma verdict_of_shown (hconfig : b.config = a.config) (hcatalog : b.catalog = a.catalog) (h : d.shown = c.shown)
    (hrule : a.catalog.get? k.type = some rule)
    (hverdict : rule.verdict b.services d k = rule.verdict a.services c k) : b.verdict d k = a.verdict c k := by
  obtain ⟨hentity, -, hplace⟩ := Context.shown_eq_iff.mp h
  have hrole : d.role = c.role := by rw [Context.role, Context.role, hplace]
  have hid : d.entity.id = c.entity.id := congrArg (·.id) hentity
  simp only [verdict, hcatalog, hrule, judge, roles, weigh, hconfig, hrole, hid, hverdict]

end Auditor

namespace Session

lemma services_of_shown {session : Session} {t : Store} (h : t.shown = session.store.shown) :
    { session with store := t }.services.shown = session.services.shown := by
  have hfind : shownBy t.find? = shownBy session.store.find? := by
    rw [← Store.find?_shown, h, Store.find?_shown]
  have hgraph : { session with store := t }.graphQuery? = session.graphQuery? := by
    simp only [graphQuery?]
    rw [← GraphQuery.ofStore_shown, h, GraphQuery.ofStore_shown]
  change Services.mk session.config (shownBy t.find?) { session with store := t }.graphQuery?
    session.pageLookup? session.now = _
  rw [hfind, hgraph]
  rfl

/-- Edits of deprecated statements anywhere in a store. The same snaks are checked afterwards, and the verdicts on
them are the same by each rule that counts values, compares a difference, looks for values that are used elsewhere
or asks for classes. -/
theorem verdicts_of_hiddenEdits (session : Session) (t : Store)
    (h : Relation.ReflTransGen Store.HiddenEdit session.store t) (id : EntityId) :
    let a := session.auditor
    let b := { session with store := t }.auditor
    (b.contexts id).map Context.shown = (a.contexts id).map Context.shown ∧
      ∀ rule ∈ [Rule.singleValue, .multiValue, .singleBestValue, .diffWithinRange, .uniqueValue, .typeOf,
          .valueType],
        ∀ c ∈ a.contexts id, ∀ d ∈ b.contexts id, d.statement = c.statement → d.place = c.place → ∀ k,
          rule.verdict b.services d k = rule.verdict a.services c k ∧
            (a.catalog.get? k.type = some rule → b.verdict d k = a.verdict c k) := by
  intro a b
  have hservices : b.services.shown = a.services.shown := services_of_shown (Store.shown_eq_of_edits h)
  have hfind : shownBy b.services.find? = shownBy a.services.find? := congrArg (·.find?) hservices
  refine ⟨by rw [Auditor.contexts_shown, Auditor.contexts_shown, hfind], ?_⟩
  intro rule hrule c hc d hd hstatement hplace k
  -- Both entities are the one that is found, and what is shown of it has not changed.
  have hentity : d.entity.shown = c.entity.shown := by
    have hdc := (Auditor.shown_of_mem_contexts hd).symm.trans (hfind ▸ Auditor.shown_of_mem_contexts hc)
    exact Option.some.inj hdc
  have hshown : d.shown = c.shown := Context.shown_eq_iff.mpr ⟨hentity, hstatement, hplace⟩
  have hverdict : rule.verdict b.services d k = rule.verdict a.services c k :=
    Rule.ignoresDeprecated_of_mem hrule _ _ _ _ k hservices hshown (Auditor.isPlaced_of_mem_contexts hd)
      (Auditor.isPlaced_of_mem_contexts hc)
  exact ⟨hverdict, fun hcatalog => Auditor.verdict_of_shown rfl rfl hshown hcatalog hverdict⟩

end Session

namespace Sample

def referring (p : PropertyId) (rank : Rank) (subject object : ItemId) : Statement where
  guid := subject.toString ++ "$" ++ object.toString
  mainSnak := .value p (.entity (.item object))
  rank := rank

def member (before : List Statement) : Entity :=
  ⟨.item ⟨1⟩, .ofList (before ++ [referring ⟨31⟩ .normal ⟨1⟩ ⟨5⟩])⟩

def subclass (behind : List Statement) : Entity :=
  ⟨.item ⟨5⟩, .ofList (referring ⟨279⟩ .normal ⟨5⟩ ⟨6⟩ :: behind)⟩

def classified : Session where
  store := ((Store.empty.save (member [])).1.save (subclass [])).1
  now := ⟨0, 0⟩

def outdated : Store :=
  ((classified.store.save (member [referring ⟨31⟩ .deprecated ⟨1⟩ ⟨7⟩])).1.save
    (subclass [referring ⟨279⟩ .deprecated ⟨5⟩ ⟨7⟩])).1

def classRequired : Constraint where
  id := "P31$1"
  property := ⟨31⟩
  type := ⟨21503250⟩
  parameters := .ofSnaks [.value ⟨2308⟩ (.entity (.item ⟨7⟩)), .value ⟨2309⟩ (.entity (.item ⟨21503252⟩))]

end Sample

namespace Session

open Sample

theorem verdicts_of_outdated :
    let a := classified.auditor
    let b := { classified with store := outdated }.auditor
    let s := referring ⟨31⟩ .normal ⟨1⟩ ⟨5⟩
    let c : Context := ⟨(member []).withCounts, s, 0, .mainSnak⟩
    let d : Context := ⟨(member [referring ⟨31⟩ .deprecated ⟨1⟩ ⟨7⟩]).withCounts, s, 1, .mainSnak⟩
    c ∈ a.contexts (.item ⟨1⟩) ∧ d ∈ b.contexts (.item ⟨1⟩) ∧
      b.verdict d classRequired = a.verdict c classRequired ∧ (a.verdict c classRequired).status = .warning := by
  intro a b s c d
  let t := (classified.store.save (member [referring ⟨31⟩ .deprecated ⟨1⟩ ⟨7⟩])).1
  have hmember : classified.store.HiddenEdit t := .of_save rfl rfl (.insert [] _ _ rfl)
  have hclass : t.HiddenEdit outdated := .of_save rfl rfl (.insert [_] [] _ rfl)
  have hedits : Relation.ReflTransGen Store.HiddenEdit classified.store outdated := .tail (.single hmember) hclass
  have hc : c ∈ a.contexts (.item ⟨1⟩) := List.mem_singleton.mpr rfl
  have hd : d ∈ b.contexts (.item ⟨1⟩) := List.mem_singleton.mpr rfl
  obtain ⟨-, hverdicts⟩ := verdicts_of_hiddenEdits classified outdated hedits (.item ⟨1⟩)
  obtain ⟨-, hsame⟩ := hverdicts Rule.typeOf (by simp) c hc d hd rfl rfl classRequired
  exact ⟨hc, hd, hsame rfl, by decide⟩

end Session

end EntityAudit
