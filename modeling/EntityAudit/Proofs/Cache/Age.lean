import EntityAudit.Proofs.Cache.Served
import EntityAudit.Proofs.Cache.World
import EntityAudit.Proofs.Merging

/-!
The age that an answer admits. An entry gives its age to each of its results that is served, and the answer
has the greatest age of its results. So an answer with a stored result is not younger than the entry of that
result, and one that needed no entry is as fresh as what was found for it (`age_admitted`).
-/

namespace EntityAudit

namespace Metadata

variable {m : Metadata} {l : List Metadata} {n : Nat}

lemma coe_le_ageBound_iff : (n : WithBot ℕ) ≤ m.ageBound ↔ m.isCached = true ∧ n ≤ m.age := by
  obtain ⟨maxAge, _, _⟩ := m
  cases maxAge with
  | none =>
    constructor
    · intro h
      exact absurd h (WithBot.bot_lt_coe n).not_ge
    · rintro ⟨h, -⟩
      cases h
  | some k =>
    constructor
    · intro h
      exact ⟨rfl, WithBot.coe_le_coe.mp h⟩
    · rintro ⟨-, h⟩
      exact WithBot.coe_le_coe.mpr h

lemma isCached_eq_false_iff : m.isCached = false ↔ m.maxAge = none := by
  rw [isCached, Option.isSome_eq_false_iff, Option.isNone_iff_eq_none]

lemma ageBound_le_merge (h : m ∈ l) : m.ageBound ≤ (merge l).ageBound := by
  rw [ageBound_merge]
  cases hm : m.maxAge with
  | none =>
    rw [ageBound, hm]
    exact bot_le
  | some n =>
    rw [ageBound, hm]
    exact List.le_maximum_of_mem' (List.mem_filterMap.mpr ⟨m, h, hm⟩)

lemma isCached_merge_eq_false (h : ∀ m ∈ l, m.isCached = false) : (merge l).isCached = false := by
  rw [isCached_eq_false_iff]
  change (merge l).ageBound = ⊥
  rw [ageBound_merge, List.maximum_eq_bot, List.filterMap_eq_nil_iff]
  exact fun m hm => isCached_eq_false_iff.mp (h m hm)

lemma le_ageBound_combine_ofAge (m : Metadata) (n : Nat) : (n : WithBot ℕ) ≤ (m.combine (.ofAge n)).ageBound := by
  rw [ageBound_combine]
  exact le_max_right m.ageBound n

end Metadata

namespace CachedSource

variable (s : CachedSource) {σ : Type} [CacheStore σ]

def hits (cache : σ) : List EntityId → List CacheEntry
  | [] => []
  | id :: ids => (s.hit? cache id).toList ++ hits (s.entityResults cache id).2 ids

def used (cache : σ) (q : Query) : List CacheEntry := if s.answers q then s.hits cache q.entities else []

def ofClaims (q : Query) : List Result :=
  if q.claims.isEmpty then [] else (s.inner { claims := q.claims, statuses := q.statuses }).results

def found (q : Query) : List Result := q.entities.flatMap (fun id => (s.checked id).results) ++ s.ofClaims q

variable {s} {cache : σ} {id : EntityId} {ids : List EntityId} {e : CacheEntry} {q : Query} {r : Result}

lemma mem_served (hr : r ∈ e.results) (hkept : s.isDoubtful r = false) :
    r.withMetadata (.ofAge (s.now.secondsSince e.storedAt)) ∈ s.served id e := by
  have hmem : r ∈ e.results.filter fun r => !s.isDoubtful r :=
    List.mem_filter.mpr ⟨hr, (Bool.not_eq_true' _).mpr hkept⟩
  simp only [served]
  split
  · exact List.mem_map_of_mem hmem
  · exact List.mem_append_left _ (List.mem_map_of_mem hmem)

lemma mem_entitiesResults (he : e ∈ s.hits cache ids) (hr : r ∈ e.results)
    (hkept : s.isDoubtful r = false) :
    r.withMetadata (.ofAge (s.now.secondsSince e.storedAt)) ∈ (s.entitiesResults cache ids).1 := by
  induction ids generalizing cache with
  | nil => cases he
  | cons id ids ih =>
    rcases List.mem_append.mp he with hhit | hlater
    · have hserved : (s.entityResults cache id).1 = s.served id e := by
        rw [entityResults, Option.mem_toList.mp hhit]
      exact List.mem_append_left _ (hserved ▸ mem_served hr hkept)
    · exact List.mem_append_right _ (ih hlater)

lemma entitiesResults_of_hits_eq_nil (h : s.hits cache ids = []) :
    (s.entitiesResults cache ids).1 = ids.flatMap fun id => (s.checked id).results := by
  induction ids generalizing cache with
  | nil => rfl
  | cons id ids ih =>
    obtain ⟨hhit, hlater⟩ := List.append_eq_nil_iff.mp h
    have hchecked : (s.entityResults cache id).1 = (s.checked id).results := by
      rw [entityResults, Option.toList_eq_nil_iff.mp hhit]
    rw [List.flatMap_cons, ← hchecked, ← ih hlater]
    rfl

lemma metadata_results (h : s.answers q = true) : (s.results cache q).1.metadata =
    .merge ((((s.entitiesResults cache q.entities).1 ++ s.ofClaims q).filter q.asks).map (·.metadata)) := by
  rw [results, if_pos h]
  rfl

/-- The age is admitted for each entry with a stored result in the answer. A stored result is in the answer
if its status is asked for and its constraint is not one that is checked again at each request. Without
entries, the answer is as fresh as what is found. -/
theorem age_admitted (s : CachedSource) (cache : σ) (q : Query) :
    let answer := (s.results cache q).1
    (∀ e ∈ s.used cache q, (∃ r ∈ e.results, q.asks r = true ∧ s.isDoubtful r = false) →
      answer.metadata.isCached = true ∧ s.now.secondsSince e.storedAt ≤ answer.metadata.age) ∧
    (s.answers q = true → s.used cache q = [] → (∀ r ∈ s.found q, r.metadata.isCached = false) →
      answer.metadata.isCached = false) ∧
    (s.answers q = false → answer = s.inner q) := by
  intro answer
  refine ⟨fun e he ⟨r, hr, hasks, hkept⟩ => ?_, fun hanswers hused hfound => ?_, fun hanswers => ?_⟩
  · rw [used] at he
    split at he
    · rename_i hanswers
      set n := s.now.secondsSince e.storedAt
      have hserved : r.withMetadata (.ofAge n) ∈
          ((s.entitiesResults cache q.entities).1 ++ s.ofClaims q).filter q.asks :=
        List.mem_filter.mpr ⟨List.mem_append_left _ (mem_entitiesResults he hr hkept), hasks⟩
      apply Metadata.coe_le_ageBound_iff.mp
      calc (n : WithBot ℕ)
        _ ≤ (r.withMetadata (.ofAge n)).metadata.ageBound := Metadata.le_ageBound_combine_ofAge r.metadata n
        _ ≤ answer.metadata.ageBound := by
          rw [metadata_results hanswers]
          exact Metadata.ageBound_le_merge (List.mem_map_of_mem hserved)
    · cases he
  · rw [used, if_pos hanswers] at hused
    rw [metadata_results hanswers, entitiesResults_of_hits_eq_nil hused]
    refine Metadata.isCached_merge_eq_false fun m hm => ?_
    obtain ⟨r, hr, rfl⟩ := List.mem_map.mp hm
    exact hfound r (List.mem_filter.mp hr).1
  · change (s.results cache q).1 = s.inner q
    rw [results, if_neg (Bool.eq_false_iff.mp hanswers)]

end CachedSource

namespace Deployment

open Sample

theorem age_admitted_of_marriage :
    let d := marriages {} []
    let q := onFirst {}
    let u := registry [married ⟨1⟩ ⟨2⟩, .empty (.item ⟨2⟩)]
    let w := d.step (d.step u (.ask q)) (.tick ⟨30, 0⟩)
    (d.answer u q).metadata.isCached = false ∧
      (d.answer w q).metadata.isCached = true ∧ 30 ≤ (d.answer w q).metadata.age := by
  intro d q u w
  obtain ⟨-, hfresh, -⟩ := (d.source u.toScene).age_admitted u.cache q
  obtain ⟨haged, -, -⟩ := (d.source w.toScene).age_admitted w.cache q
  have hentry : ∃ e ∈ (d.source w.toScene).used w.cache q,
      (∃ r ∈ e.results, q.asks r = true ∧ (d.source w.toScene).isDoubtful r = false) ∧
        (d.source w.toScene).now.secondsSince e.storedAt = 30 := by
    decide
  obtain ⟨e, he, hr, hage⟩ := hentry
  obtain ⟨hcached, hle⟩ := haged e he hr
  rw [hage] at hle
  rw [answer, answer]
  exact ⟨hfresh (by decide) (by decide) (by decide), hcached, hle⟩

theorem age_unadmitted :
    let later (d : Deployment) (q : Query) : World EntryCache :=
      d.step (d.step (registry [married ⟨1⟩ ⟨2⟩, .empty (.item ⟨2⟩)]) (.ask q)) (.tick ⟨10, 0⟩)
    let d := marriages { possiblyStaleTypes := [(symmetry []).type] } []
    let q := onFirst {}
    let d' := marriages {} []
    let q' := { q with entities := [.item ⟨2⟩] }
    (∃ e ∈ (d.source (later d q).toScene).used (later d q).cache q, e.results ≠ [] ∧
      (later d q).now.secondsSince e.storedAt = 10) ∧ (d.answer (later d q) q).metadata.isCached = false ∧
    (∃ e ∈ (d'.source (later d' q').toScene).used (later d' q').cache q', e.results = [] ∧
      (later d' q').now.secondsSince e.storedAt = 10) ∧
      (d'.answer (later d' q') q').metadata.isCached = false := by
  decide

end Deployment

end EntityAudit
