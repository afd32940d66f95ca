import EntityAudit.Proofs.Cache.Keeping
import EntityAudit.Proofs.Cache.World

/-!
Which caches may stand for each other. As long as all entries that are filled can be read, a cache in memory and one
in a database answer every request of a run as a cache of entries does (`exists_run_mirrored`).
-/

namespace EntityAudit

class ReadableCache (σ : Type) [CacheStore σ] : Prop where
  exists_set : ∀ (c : σ) (id : EntityId) (e : CacheEntry), e.Readable → ∃ c', CacheStore.set c id e = .ok c' ∧
    ∀ a, CacheStore.get c' a = if a = id then .ok (some e) else CacheStore.get c a

instance : ReadableCache EntryCache where
  exists_set _ _ _ _ := ⟨_, rfl, LawfulCache.get_set rfl⟩

lemma CacheEntry.ofText_ite {p : Prop} [Decidable p] {e : CacheEntry} (h : e.Readable) (t : Option String) :
    CacheEntry.ofText (if p then some e.text else t) = if p then .ok (some e) else CacheEntry.ofText t := by
  split
  · exact CacheStore.ofText_map (o := some e) (by rintro _ ⟨⟩; exact h)
  · rfl

instance : ReadableCache MemoryCache where
  exists_set c id e h := by
    obtain ⟨c', hset, htexts⟩ := MemoryCache.keepsTexts.set (t := c.entries.get?) (fun _ => rfl) id e
    refine ⟨c', hset, fun a => ?_⟩
    rw [MemoryCache.keepsTexts.get htexts, Function.update_apply, CacheEntry.ofText_ite h]
    rfl

instance {δ : Type} [Database δ] [DurableDatabase δ] : ReadableCache (DatabaseCache δ) where
  exists_set c id e h := by
    obtain ⟨d, hinsert, -, htexts⟩ := DurableDatabase.insert c.database id.toString e.text
    refine ⟨⟨d⟩, DatabaseCache.set_of_insert hinsert, fun a => ?_⟩
    rw [DatabaseCache.get_eq, DatabaseCache.get_eq, htexts, Function.update_apply, CacheEntry.ofText_ite h]
    simp only [EntityId.toString_injective.eq_iff]

def Mirrors {σ τ : Type} [CacheStore σ] [CacheStore τ] (c : σ) (c' : τ) : Prop :=
  ∀ id, CacheStore.get c id = CacheStore.get c' id

namespace CachedSource

variable {s : CachedSource} {σ τ : Type} [CacheStore σ] [CacheStore τ] {c : σ} {c' : τ} {id : EntityId}

lemma hit?_mirrored (h : Mirrors c c') (id : EntityId) : s.hit? c id = s.hit? c' id := by
  unfold hit?
  rw [h id]

variable [ReadableCache σ] [ReadableCache τ]

lemma write_mirrored (h : Mirrors c c') (id : EntityId) {entry : Option CacheEntry}
    (hentry : ∀ e ∈ entry, e.Readable) : Mirrors (write c id entry) (write c' id entry) := by
  cases entry with
  | none => exact h
  | some e =>
    obtain ⟨l, hset, hget⟩ := ReadableCache.exists_set c id e (hentry e rfl)
    obtain ⟨l', hset', hget'⟩ := ReadableCache.exists_set c' id e (hentry e rfl)
    simp only [write, hset, hset']
    intro a
    rw [hget, hget', h a]

lemma entityResults_mirrored (h : Mirrors c c') (hfill : ∀ e ∈ s.fill id, e.Readable) :
    (s.entityResults c id).1 = (s.entityResults c' id).1 ∧
      Mirrors (s.entityResults c id).2 (s.entityResults c' id).2 := by
  unfold entityResults
  rw [← hit?_mirrored h]
  cases s.hit? c id with
  | some e => exact ⟨rfl, h⟩
  | none => exact ⟨rfl, write_mirrored h id hfill⟩

lemma entitiesResults_mirrored (h : Mirrors c c') {ids : List EntityId}
    (hfill : ∀ id ∈ ids, ∀ e ∈ s.fill id, e.Readable) :
    (s.entitiesResults c ids).1 = (s.entitiesResults c' ids).1 ∧
      Mirrors (s.entitiesResults c ids).2 (s.entitiesResults c' ids).2 := by
  induction ids generalizing c c' with
  | nil => exact ⟨rfl, h⟩
  | cons id ids ih =>
    obtain ⟨hid, hids⟩ := List.forall_mem_cons.mp hfill
    obtain ⟨hfirst, hcache⟩ := entityResults_mirrored h hid
    obtain ⟨hrest, hlater⟩ := ih hcache hids
    simp only [entitiesResults]
    rw [hfirst, hrest]
    exact ⟨rfl, hlater⟩

lemma results_mirrored (h : Mirrors c c') {q : Query} (hfill : ∀ id ∈ q.entities, ∀ e ∈ s.fill id, e.Readable) :
    (s.results c q).1 = (s.results c' q).1 ∧ Mirrors (s.results c q).2 (s.results c' q).2 := by
  unfold results
  split
  · obtain ⟨hresults, hcache⟩ := entitiesResults_mirrored h hfill
    simp only [hresults]
    exact ⟨trivial, hcache⟩
  · exact ⟨rfl, h⟩

end CachedSource

namespace Deployment

variable {d : Deployment} {σ τ : Type} [CacheStore σ] [CacheStore τ] [ReadableCache σ] [ReadableCache τ]
  {P : Scene → Event → Prop} {u w : World σ} {u' w' : World τ}

lemma step_mirrored (hscene : w'.toScene = w.toScene) (h : Mirrors w.cache w'.cache)
    (hfill : ∀ id, ∀ e ∈ (d.source w.toScene).fill id, e.Readable) (event : Event) :
    (d.step w' event).toScene = (d.step w event).toScene ∧ Mirrors (d.step w event).cache (d.step w' event).cache := by
  obtain ⟨scene, cache⟩ := w
  obtain ⟨scene', cache'⟩ := w'
  obtain rfl : scene' = scene := hscene
  cases event with
  | ask q => exact ⟨rfl, (CachedSource.results_mirrored h fun id _ => hfill id).2⟩
  | delete id =>
    simp only [step]
    cases scene'.store.delete id with
    | ok store => exact ⟨rfl, h⟩
    | error => exact ⟨rfl, h⟩
  | save e => exact ⟨rfl, h⟩
  | tick now => exact ⟨rfl, h⟩
  | turn pages => exact ⟨rfl, h⟩

/-- What holds of the answers in every run with one of these caches holds of those with any other. -/
theorem exists_run_mirrored (h : d.Run P u w) (hscene : u'.toScene = u.toScene) (hcache : Mirrors u.cache u'.cache)
    (hfill : ∀ o, d.Run P u o → ∀ id, ∀ e ∈ (d.source o.toScene).fill id, e.Readable) :
    ∃ w', d.Run P u' w' ∧ w'.toScene = w.toScene ∧ Mirrors w.cache w'.cache ∧ ∀ q, d.answer w' q = d.answer w q := by
  have hrun : ∃ w', d.Run P u' w' ∧ w'.toScene = w.toScene ∧ Mirrors w.cache w'.cache := by
    induction h with
    | refl => exact ⟨u', .refl, hscene, hcache⟩
    | @step w event hrun hp ih =>
      obtain ⟨w', hrun', hscene', hcache'⟩ := ih
      obtain ⟨hlater, hmirrors⟩ := step_mirrored hscene' hcache' (hfill w hrun) event
      exact ⟨_, hrun'.step (hscene' ▸ hp), hlater, hmirrors⟩
  obtain ⟨w', hrun', hscene', hcache'⟩ := hrun
  refine ⟨w', hrun', hscene', hcache', fun q => ?_⟩
  unfold answer
  rw [hscene']
  exact (CachedSource.results_mirrored hcache' fun id _ => hfill w h id).1.symm

end Deployment

end EntityAudit
