import EntityAudit.Cache
import EntityAudit.Proofs.Json.Reader
import EntityAudit.Proofs.Json.Record
import Mathlib.Logic.Function.Basic

namespace EntityAudit

/-- What a database is relied upon for: its operations succeed and change nothing but what they say, and all that
it holds is still there when it is opened again. -/
class DurableDatabase (δ : Type) [Database δ] where
  version : δ → Option UInt32
  texts : δ → String → Option String
  version?_eq : ∀ d, Database.version? d = .ok (version d)
  get?_eq : ∀ d key, Database.get? d key = .ok (texts d key)
  setVersion : ∀ d v, ∃ d', Database.setVersion d v = .ok d' ∧ version d' = some v ∧ texts d' = texts d
  insert : ∀ d key text, ∃ d', Database.insert d key text = .ok d' ∧ version d' = version d ∧
    texts d' = Function.update (texts d) key (some text)
  remove : ∀ d key, ∃ d', Database.remove d key = .ok d' ∧ version d' = version d ∧
    texts d' = Function.update (texts d) key none
  clear : ∀ d, ∃ d', Database.clear d = .ok d' ∧ version d' = version d ∧ texts d' = fun _ => none
  reopen : ∀ d, ∃ d', Database.reopen d = .ok d' ∧ version d' = version d ∧ texts d' = texts d

namespace TextDatabase

open Json Record

lemma read?_text (d : TextDatabase) : read? d.text = some d := by
  have htexts : Legible 126 (.object (d.texts.entries.map fun e => (e.1, .text e.2))) := by
    refine .object fun m hm => ?_
    obtain ⟨e, -, rfl⟩ := List.mem_map.mp hm
    exact .text
  have hversion : Legible 126 (.ofOption (fun v : UInt32 => .integer v.toNat) d.version) := by
    cases d.version with
    | none => exact .null
    | some v =>
      have hsize : UInt32.size = 4294967296 := rfl
      have hlimit : UInt64.size = 18446744073709551616 := rfl
      have hlt : v.toNat < UInt32.size := v.toNat_lt
      exact .integer (by omega) (by omega)
  have hlegible : Legible 127 (.object [("version", .ofOption (fun v => .integer v.toNat) d.version),
      ("texts", .object (d.texts.entries.map fun e => (e.1, .text e.2)))]) := by
    refine .object ?_
    simp only [List.forall_mem_cons]
    exact ⟨hversion, htexts, nofun⟩
  have hmap : map? some string? (.object (d.texts.entries.map fun e => (e.1, .text e.2))) = some d.texts :=
    map?_object id .text (fun _ _ => rfl) fun _ _ => rfl
  simp only [read?, Option.bind_eq_bind, Option.bind_eq_some_iff]
  refine ⟨_, ofString?_compact hlegible, _, record?_object (by simp) _, d.version.map UInt32.toNat, ?_, d.texts,
    required?_of_get? rfl hmap, ?_⟩
  · obtain ⟨_ | v, texts⟩ := d
    · rfl
    · have hread : natural? UInt32.size (.integer v.toNat) = some v.toNat := natural?_natCast v.toNat_lt
      change (natural? UInt32.size (.integer v.toNat)).map some = _
      rw [hread]
      rfl
  · obtain ⟨_ | v, texts⟩ := d
    · rfl
    · simp

lemma reopen_eq (d : TextDatabase) : Database.reopen d = .ok d := by
  change ofText d.text = _
  rw [ofText, read?_text]

instance : DurableDatabase TextDatabase where
  version := version
  texts d := d.texts.get?
  version?_eq _ := rfl
  get?_eq _ _ := rfl
  setVersion d v := ⟨_, rfl, rfl, rfl⟩
  insert d key text := by
    refine ⟨_, rfl, rfl, funext fun k => ?_⟩
    rw [SortedMap.get?_insert, Function.update_apply]
    simp only [eq_comm]
  remove d key := by
    refine ⟨_, rfl, rfl, funext fun k => ?_⟩
    rw [SortedMap.get?_erase, Function.update_apply]
    simp only [eq_comm]
  clear d := ⟨_, rfl, rfl, funext fun _ => rfl⟩
  reopen d := ⟨d, reopen_eq d, rfl, rfl⟩

end TextDatabase

namespace DatabaseCache

variable {δ : Type} [Database δ] {c : DatabaseCache δ} {d : δ} {id : EntityId} {e : CacheEntry}

lemma get_eq [DurableDatabase δ] (c : DatabaseCache δ) (id : EntityId) :
    CacheStore.get c id = CacheEntry.ofText (DurableDatabase.texts c.database id.toString) := by
  change Database.get? c.database id.toString >>= CacheEntry.ofText = _
  rw [DurableDatabase.get?_eq]
  rfl

lemma set_of_insert (h : Database.insert c.database id.toString e.text = .ok d) :
    CacheStore.set c id e = .ok ⟨d⟩ := by
  change (do return DatabaseCache.mk (← Database.insert c.database id.toString e.text)) = _
  rw [h]
  rfl

lemma delete_of_remove (h : Database.remove c.database id.toString = .ok d) :
    CacheStore.delete c id = .ok ⟨d⟩ := by
  change (do return DatabaseCache.mk (← Database.remove c.database id.toString)) = _
  rw [h]
  rfl

end DatabaseCache

end EntityAudit
