import EntityAudit.Proofs.Ordered.Lookup
import EntityAudit.ResultSource

namespace EntityAudit

/-- A cache that returns what was stored in it. -/
class LawfulCache (σ : Type) [CacheStore σ] : Prop where
  get_set : ∀ {c c' : σ} {id : EntityId} {e : CacheEntry}, CacheStore.set c id e = .ok c' →
    ∀ a, CacheStore.get c' a = if a = id then .ok (some e) else CacheStore.get c a

structure EntryCache where
  entries : SortedMap EntityId CacheEntry

namespace EntryCache

def empty : EntryCache := ⟨SortedMap.empty⟩

instance : CacheStore EntryCache where
  get c id := .ok (c.entries.get? id)
  set c id e := .ok ⟨c.entries.insert id e⟩
  delete c id := .ok ⟨c.entries.erase id⟩

instance : LawfulCache EntryCache where
  get_set := by
    intro c c' id e h a
    obtain rfl := Except.ok.inj h
    simp only [CacheStore.get, SortedMap.get?_insert, eq_comm (a := id)]
    split
    · rfl
    · rfl

end EntryCache

namespace CachedSource

variable (s : CachedSource)

def fill (id : EntityId) : Option CacheEntry :=
  s.entry? id (s.checked id) (s.stamp id (s.checked id))

variable {σ : Type} [CacheStore σ]

def Extends (cache later : σ) : Prop :=
  ∀ a, CacheStore.get later a = CacheStore.get cache a ∨
    s.hit? cache a = none ∧ ∃ e, s.fill a = some e ∧ CacheStore.get later a = .ok (some e)

inductive Answers (cache : σ) (id : EntityId) : List Result → Prop
  | hit {e : CacheEntry} : s.hit? cache id = some e → Answers cache id (s.served id e)
  | checked : s.hit? cache id = none → Answers cache id (s.checked id).results
  | filled {e : CacheEntry} : s.hit? cache id = none → s.fill id = some e → s.isFresh e = true →
      Answers cache id (s.served id e)

variable {s} {cache later : σ} {id : EntityId}

lemma hit?_eq_some {e : CacheEntry} :
    s.hit? cache id = some e ↔ CacheStore.get cache id = .ok (some e) ∧ s.isFresh e = true := by
  unfold hit?
  split
  · rename_i e' he
    rw [he]
    by_cases hf : s.isFresh e' = true
    · rw [if_pos hf]
      constructor
      · rintro h
        obtain rfl := Option.some.inj h
        exact ⟨rfl, hf⟩
      · rintro ⟨h, -⟩
        rw [Option.some.inj (Except.ok.inj h)]
    · rw [if_neg hf]
      constructor
      · intro h
        cases h
      · rintro ⟨h, hfresh⟩
        rw [← Option.some.inj (Except.ok.inj h)] at hfresh
        exact absurd hfresh hf
  · rename_i hne
    constructor
    · intro h
      cases h
    · rintro ⟨h, -⟩
      exact absurd h (hne e)

lemma hit?_congr (h : CacheStore.get later id = CacheStore.get cache id) :
    s.hit? later id = s.hit? cache id := by
  unfold hit?
  rw [h]

lemma Extends.refl (s : CachedSource) (cache : σ) : s.Extends cache cache :=
  fun _ => .inl rfl

lemma Extends.answers (h : s.Extends cache later) (id : EntityId) :
    s.Answers cache id (s.entityResults later id).1 := by
  unfold entityResults
  rcases h id with hget | ⟨hmiss, e, hfill, hget⟩
  · rw [hit?_congr hget]
    cases hhit : s.hit? cache id with
    | some e => exact .hit hhit
    | none => exact .checked hhit
  · cases hhit : s.hit? later id with
    | some e' =>
      obtain ⟨hget', hfresh⟩ := hit?_eq_some.mp hhit
      obtain rfl := Option.some.inj (Except.ok.inj (hget.symm.trans hget'))
      exact .filled hmiss hfill hfresh
    | none => exact .checked hmiss

variable [LawfulCache σ]

lemma get_write (cache : σ) (id a : EntityId) (entry : Option CacheEntry) :
    CacheStore.get (write cache id entry) a = CacheStore.get cache a ∨
      a = id ∧ ∃ e, entry = some e ∧ CacheStore.get (write cache id entry) a = .ok (some e) := by
  cases entry with
  | none => exact .inl rfl
  | some e =>
    simp only [write]
    cases hset : CacheStore.set cache id e with
    | error => exact .inl rfl
    | ok cache' =>
      have hget := LawfulCache.get_set hset a
      by_cases ha : a = id
      · rw [if_pos ha] at hget
        exact .inr ⟨ha, e, rfl, hget⟩
      · rw [if_neg ha] at hget
        exact .inl hget

lemma Extends.entityResults (h : s.Extends cache later) (id : EntityId) :
    s.Extends cache (s.entityResults later id).2 := by
  unfold CachedSource.entityResults
  cases hhit : s.hit? later id with
  | some e => exact h
  | none =>
    intro a
    rcases get_write later id a (s.fill id) with hget | ⟨rfl, e, hfill, hget⟩
    · rcases h a with hold | ⟨hmiss, e, hfill, hnew⟩
      · exact .inl (hget.trans hold)
      · exact .inr ⟨hmiss, e, hfill, hget.trans hnew⟩
    · refine .inr ⟨?_, e, hfill, hget⟩
      rcases h a with hold | ⟨hmiss, -⟩
      · rw [← hit?_congr hold]
        exact hhit
      · exact hmiss

lemma Extends.entitiesResults (h : s.Extends cache later) (ids : List EntityId) :
    s.Extends cache (s.entitiesResults later ids).2 := by
  induction ids generalizing later with
  | nil => exact h
  | cons id ids ih => exact ih (h.entityResults id)

lemma extends_results (s : CachedSource) (cache : σ) (q : Query) :
    s.Extends cache (s.results cache q).2 := by
  unfold results
  split
  · exact (Extends.refl s cache).entitiesResults q.entities
  · exact .refl s cache

end CachedSource

end EntityAudit
