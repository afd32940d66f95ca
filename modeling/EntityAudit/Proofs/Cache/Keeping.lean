import EntityAudit.Program
import EntityAudit.Proofs.Database
import EntityAudit.Proofs.Encoding.Entry

namespace EntityAudit

open Json Record

namespace CacheStore

inductive Move where
  | get (id : EntityId)
  | set (id : EntityId) (e : CacheEntry)
  | delete (id : EntityId)
  | reopen

def Move.entry? : Move → Option CacheEntry
  | set _ e => some e
  | _ => none

def answers {σ : Type} [CacheStore σ] (reopen : σ → Except StorageError σ) :
    σ → List Move → Except StorageError (List (Option CacheEntry))
  | _, [] => .ok []
  | s, .get id :: ms => do return (← CacheStore.get s id) :: (← answers reopen s ms)
  | s, .set id e :: ms => do answers reopen (← CacheStore.set s id e) ms
  | s, .delete id :: ms => do answers reopen (← CacheStore.delete s id) ms
  | s, .reopen :: ms => do answers reopen (← reopen s) ms

/-- The entry that was set last for an identifier, unless it was deleted since. The latest move comes first. -/
def kept (id : EntityId) : List Move → Option CacheEntry
  | [] => none
  | .set k e :: past => if id = k then some e else kept id past
  | .delete k :: past => if id = k then none else kept id past
  | .get _ :: past => kept id past
  | .reopen :: past => kept id past

def keptAnswers (past : List Move) : List Move → List (Option CacheEntry)
  | [] => []
  | .get id :: ms => kept id past :: keptAnswers past ms
  | m :: ms => keptAnswers (m :: past) ms

structure KeepsTexts {σ : Type} [CacheStore σ] (reopen : σ → Except StorageError σ)
    (texts : σ → (EntityId → Option String) → Prop) : Prop where
  get : ∀ {s t}, texts s t → ∀ id, CacheStore.get s id = CacheEntry.ofText (t id)
  set : ∀ {s t}, texts s t → ∀ id e,
    ∃ s', CacheStore.set s id e = .ok s' ∧ texts s' (Function.update t id (some e.text))
  delete : ∀ {s t}, texts s t → ∀ id,
    ∃ s', CacheStore.delete s id = .ok s' ∧ texts s' (Function.update t id none)
  reopen : ∀ {s t}, texts s t → ∃ s', reopen s = .ok s' ∧ texts s' t

lemma ofText_map {o : Option CacheEntry} (h : ∀ e ∈ o, e.Readable) :
    CacheEntry.ofText (o.map CacheEntry.text) = .ok o := by
  cases o with
  | none => rfl
  | some e =>
    simp only [Option.map_some, CacheEntry.ofText, CacheEntry.read_text (h e rfl)]
    rfl

lemma map_kept_set (id : EntityId) (e : CacheEntry) (past : List Move) :
    (fun k => (kept k (.set id e :: past)).map CacheEntry.text) =
      Function.update (fun k => (kept k past).map CacheEntry.text) id (some e.text) := by
  funext k
  rw [Function.update_apply, kept, apply_ite (Option.map CacheEntry.text)]
  rfl

lemma map_kept_delete (id : EntityId) (past : List Move) :
    (fun k => (kept k (.delete id :: past)).map CacheEntry.text) =
      Function.update (fun k => (kept k past).map CacheEntry.text) id none := by
  funext k
  rw [Function.update_apply, kept, apply_ite (Option.map CacheEntry.text)]
  rfl

lemma answers_of_keepsTexts {σ : Type} [CacheStore σ] {reopen : σ → Except StorageError σ}
    {texts : σ → (EntityId → Option String) → Prop} (hkeeps : KeepsTexts reopen texts) {s : σ}
    {past ms : List Move} (hs : texts s fun id => (kept id past).map CacheEntry.text)
    (hpast : ∀ id, ∀ e ∈ kept id past, e.Readable) (hms : ∀ e ∈ ms.filterMap Move.entry?, e.Readable) :
    answers reopen s ms = .ok (keptAnswers past ms) := by
  -- The state and the past vary together: what the state holds is what the past has kept.
  induction ms generalizing s past with
  | nil => rfl
  | cons m ms ih =>
    cases m with
    | get id =>
      have hget := (hkeeps.get hs id).trans (ofText_map (hpast id))
      rw [answers, hget, ih hs hpast hms]
      rfl
    | set id e =>
      obtain ⟨he, hms⟩ := List.forall_mem_cons.mp hms
      obtain ⟨s', hset, hs'⟩ := hkeeps.set hs id e
      rw [← map_kept_set] at hs'
      rw [answers, hset]
      refine ih hs' (fun k x hx => ?_) hms
      rw [kept] at hx
      split at hx
      · rwa [← Option.some.inj hx]
      · exact hpast k x hx
    | delete id =>
      obtain ⟨s', hdelete, hs'⟩ := hkeeps.delete hs id
      rw [← map_kept_delete] at hs'
      rw [answers, hdelete]
      refine ih hs' (fun k x hx => ?_) hms
      rw [kept] at hx
      split at hx
      · cases hx
      · exact hpast k x hx
    | reopen =>
      obtain ⟨s', hreopen, hs'⟩ := hkeeps.reopen hs
      rw [answers, hreopen]
      exact ih hs' hpast hms

end CacheStore

namespace MemoryCache

def Texts (c : MemoryCache) (t : EntityId → Option String) : Prop := ∀ id, c.entries.get? id = t id

lemma keepsTexts : CacheStore.KeepsTexts Except.ok Texts where
  get h id := by rw [← h id]; rfl
  set h id e := by
    refine ⟨_, rfl, fun k => ?_⟩
    rw [SortedMap.get?_insert, Function.update_apply, h k]
    simp only [eq_comm]
  delete h id := by
    refine ⟨_, rfl, fun k => ?_⟩
    rw [SortedMap.get?_erase, Function.update_apply, h k]
    simp only [eq_comm]
  reopen h := ⟨_, rfl, h⟩

end MemoryCache

namespace DatabaseCache

section

variable {δ : Type} [Database δ] [DurableDatabase δ]

def Texts (c : DatabaseCache δ) (t : EntityId → Option String) : Prop :=
  DurableDatabase.version c.database = some currentVersion ∧
    ∀ id, DurableDatabase.texts c.database id.toString = t id

lemma exists_ofDatabase_of_current {d : δ} {t : EntityId → Option String}
    (hversion : DurableDatabase.version d = none ∨ DurableDatabase.version d = some currentVersion)
    (ht : ∀ id, DurableDatabase.texts d id.toString = t id) : ∃ c, ofDatabase d = .ok c ∧ Texts c t := by
  rcases hversion with hversion | hversion
  · obtain ⟨d', hset, hcurrent, htexts⟩ := DurableDatabase.setVersion d currentVersion
    refine ⟨⟨d'⟩, ?_, hcurrent, fun id => (congrFun htexts _).trans (ht id)⟩
    simp only [ofDatabase, DurableDatabase.version?_eq, hversion, hset]
    rfl
  · refine ⟨⟨d⟩, ?_, hversion, ht⟩
    simp only [ofDatabase, DurableDatabase.version?_eq, hversion]
    rfl

lemma exists_ofDatabase_of_other {d : δ} {v : UInt32} (hversion : DurableDatabase.version d = some v)
    (hv : v ≠ currentVersion) : ∃ c, ofDatabase d = .ok c ∧ Texts c fun _ => none := by
  obtain ⟨d₁, hclear, -, hempty⟩ := DurableDatabase.clear d
  obtain ⟨d₂, hset, hcurrent, htexts⟩ := DurableDatabase.setVersion d₁ currentVersion
  refine ⟨⟨d₂⟩, ?_, hcurrent, fun id => by rw [htexts, hempty]⟩
  simp only [ofDatabase, DurableDatabase.version?_eq, hversion, hclear, if_neg hv, bind, Except.bind, hset]
  rfl

lemma keepsTexts : CacheStore.KeepsTexts (reopen (δ := δ)) Texts where
  get {c t} h id := by rw [get_eq, h.2 id]
  set {c t} h id e := by
    obtain ⟨d, hinsert, hversion, htexts⟩ := DurableDatabase.insert c.database id.toString e.text
    refine ⟨⟨d⟩, set_of_insert hinsert, hversion.trans h.1, fun k => ?_⟩
    rw [htexts, Function.update_apply, Function.update_apply, h.2 k]
    simp only [EntityId.toString_injective.eq_iff]
  delete {c t} h id := by
    obtain ⟨d, hremove, hversion, htexts⟩ := DurableDatabase.remove c.database id.toString
    refine ⟨⟨d⟩, delete_of_remove hremove, hversion.trans h.1, fun k => ?_⟩
    rw [htexts, Function.update_apply, Function.update_apply, h.2 k]
    simp only [EntityId.toString_injective.eq_iff]
  reopen {c t} h := by
    obtain ⟨d, hreopen, hversion, htexts⟩ := DurableDatabase.reopen c.database
    obtain ⟨c', hc', ht⟩ := exists_ofDatabase_of_current (.inr (hversion.trans h.1))
      fun id => (congrFun htexts _).trans (h.2 id)
    refine ⟨c', ?_, ht⟩
    rw [reopen, hreopen]
    exact hc'

end

variable {m : Type → Type} [Monad m] [LawfulMonad m] [Host m]

theorem openCache_of_readFile {path : String} {d : TextDatabase}
    (hfile : Host.readFile (m := m) path = pure (.ok d.text)) :
    Program.openCache (m := m) path = Program.orFail StorageError.message (reopen ⟨d⟩) := by
  have hopen : DatabaseHost.openDatabase (m := m) path = pure (.ok d) := by
    simp only [DatabaseHost.openDatabase, hfile, pure_bind]
    rw [← TextDatabase.reopen_eq]
    rfl
  unfold Program.openCache reopen
  rw [hopen, TextDatabase.reopen_eq]
  simp only [liftM_pure, pure_bind, Program.orFail]
  rfl

end DatabaseCache

namespace CacheStore

/-- Both caches answer every look-up with the entry that was set last and not deleted since; the one in a database does
so whatever database it is, and starts without entries if the database is new or has another version. -/
theorem answers_eq_keptAnswers {δ : Type} [Database δ] [DurableDatabase δ] (d : δ)
    (hd : DurableDatabase.version d = none ∧ (∀ key, DurableDatabase.texts d key = none) ∨
      ∃ v, DurableDatabase.version d = some v ∧ v ≠ DatabaseCache.currentVersion)
    (ms : List Move) (h : ∀ e ∈ ms.filterMap Move.entry?, e.Readable) :
    answers .ok MemoryCache.empty ms = .ok (keptAnswers [] ms) ∧
      ∃ c, DatabaseCache.ofDatabase d = .ok c ∧ answers DatabaseCache.reopen c ms = .ok (keptAnswers [] ms) := by
  have hpast : ∀ id, ∀ e ∈ kept id [], e.Readable := fun _ => nofun
  constructor
  · have hmemory : MemoryCache.empty.Texts fun id => (kept id []).map CacheEntry.text := fun _ => rfl
    exact answers_of_keepsTexts MemoryCache.keepsTexts hmemory hpast h
  · obtain ⟨c, hopen, hc⟩ : ∃ c, DatabaseCache.ofDatabase d = .ok c ∧ c.Texts fun _ => none := by
      rcases hd with ⟨hversion, hempty⟩ | ⟨v, hversion, hv⟩
      · exact DatabaseCache.exists_ofDatabase_of_current (.inl hversion) fun id => hempty _
      · exact DatabaseCache.exists_ofDatabase_of_other hversion hv
    exact ⟨c, hopen, answers_of_keepsTexts DatabaseCache.keepsTexts hc hpast h⟩

def sampleEntry : CacheEntry where
  results := [{
    cursor := {
      role := .reference, entity := .item ⟨42⟩, statementProperty := ⟨569⟩, guid := "Q42$\"\\",
      snakProperty := ⟨854⟩, snakHash := "5b7", referenceHash := some "e1f" }
    constraint := {
      id := "P569$1", property := ⟨569⟩, type := ⟨21510860⟩, deprecated := true
      parameters := .ofList [(⟨2313⟩, [.value ⟨2313⟩ (.quantity { amount := -1.5, unit := some ⟨577⟩ })]),
        (⟨2310⟩, [.noValue ⟨2310⟩])] }
    parameters := .ofList [("range", ["-1.5", "\u2028"])]
    status := .violation
    message := some ⟨"range", "out of range\n"⟩
    metadata := { maxAge := some 60, entities := .setOf [.property ⟨569⟩], future := some ⟨1717200000, 5⟩ } }]
  revisions := .ofList [(.item ⟨42⟩, 7), (.property ⟨569⟩, 9)]
  future := some ⟨-62198755200, 0⟩
  -- Within the leap second at the end of 2016.
  storedAt := ⟨1483228799, 1500000000⟩

lemma readable_sampleEntry : sampleEntry.Readable where
  ids := by decide
  numbers := by decide +kernel
  ages := by decide
  futures := by decide
  revised := by decide
  future := by decide
  storedAt := Moment.readsBack_iff_onClock.mpr ⟨⟨by decide, by decide⟩, by decide⟩

def oldDatabase : TextDatabase where
  version := some 0
  texts := .ofList [("Q42", "old")]

theorem answers_sampleEntry :
    let ms : List Move := [.get (.item ⟨42⟩), .set (.item ⟨42⟩) sampleEntry, .reopen, .get (.item ⟨42⟩),
      .get (.property ⟨42⟩), .delete (.item ⟨42⟩), .get (.item ⟨42⟩)]
    (DurableDatabase.version oldDatabase = some 0 ∧ (0 : UInt32) ≠ DatabaseCache.currentVersion) ∧
      (∀ e ∈ ms.filterMap Move.entry?, e.Readable) ∧
        answers .ok MemoryCache.empty ms = .ok [none, some sampleEntry, none, none] ∧
          ∃ c, DatabaseCache.ofDatabase oldDatabase = .ok c ∧
            answers DatabaseCache.reopen c ms = .ok [none, some sampleEntry, none, none] := by
  intro ms
  have hversion : DurableDatabase.version oldDatabase = some 0 ∧ (0 : UInt32) ≠ DatabaseCache.currentVersion :=
    ⟨rfl, by decide⟩
  have hreadable : ∀ e ∈ ms.filterMap Move.entry?, e.Readable := by
    rintro e he
    obtain rfl := List.mem_singleton.mp he
    exact readable_sampleEntry
  exact ⟨hversion, hreadable, answers_eq_keptAnswers oldDatabase (.inr ⟨0, hversion⟩) ms hreadable⟩

end CacheStore

end EntityAudit
