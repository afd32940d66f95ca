import EntityAudit.Proofs.Encoding.Injective
import EntityAudit.Proofs.Pairs

namespace EntityAudit

namespace Sha256

/-- Of the texts no two different ones have the same digest. -/
def CollisionFree (l : List String) : Prop := ∀ a ∈ l, ∀ b ∈ l, ofString a = ofString b → a = b

instance (l : List String) : Decidable (CollisionFree l) :=
  inferInstanceAs (Decidable (∀ a ∈ l, ∀ b ∈ l, ofString a = ofString b → a = b))

lemma CollisionFree.mono {k l : List String} (h : CollisionFree l) (hk : k ⊆ l) : CollisionFree k :=
  fun a ha b hb => h a (hk ha) b (hk hb)

lemma newline_notMem_toDigits (n : Nat) : '\n' ∉ Nat.toDigits 16 n := by
  induction n using Nat.strongRecOn with
  | ind n ih =>
    have hdigit (d : Nat) : '\n' ≠ Nat.digitChar d := (Nat.digitChar_ne '\n' (by decide)).symm
    rw [Nat.toDigits_eq_if (by decide)]
    split
    · rw [List.mem_singleton]
      exact hdigit n
    · rw [List.mem_append, List.mem_singleton, not_or]
      exact ⟨ih (n / 16) (by omega), hdigit (n % 16)⟩

lemma newline_notMem (s : String) : '\n' ∉ (ofString s).toList := by
  have hword (w : UInt32) : '\n' ∉ (hexWord w).toList := by
    rw [hexWord, String.toList_ofList, List.mem_append, not_or]
    exact ⟨fun h => absurd (List.eq_of_mem_replicate h) (by decide), newline_notMem_toDigits _⟩
  simp [ofString, State.hex, hword]

end Sha256

open Sha256

lemma lines_inj {l l' : List String} (hl : ∀ s ∈ l, '\n' ∉ s.toList) (hl' : ∀ s ∈ l', '\n' ∉ s.toList)
    (h : String.join (l.map (· ++ "\n")) = String.join (l'.map (· ++ "\n"))) : l = l' := by
  have hchars : l.flatMap (fun s => s.toList ++ ['\n']) = l'.flatMap fun s => s.toList ++ ['\n'] := by
    simpa [List.flatMap_map] using congrArg String.toList h
  clear h
  induction l generalizing l' with
  | nil =>
    cases l' with
    | nil => rfl
    | cons t l' => simp at hchars
  | cons s l ih =>
    cases l' with
    | nil => simp at hchars
    | cons t l' =>
      obtain ⟨hs, hl⟩ := List.forall_mem_cons.mp hl
      obtain ⟨ht, hts⟩ := List.forall_mem_cons.mp hl'
      simp only [List.flatMap_cons, List.append_assoc, List.singleton_append] at hchars
      have hline := congrArg (List.takeWhile (· ≠ '\n')) hchars
      rw [Decimal.takeWhile_of_notMem hs, Decimal.takeWhile_of_notMem ht] at hline
      obtain rfl := String.toList_injective hline
      rw [ih hl hts (List.cons.inj (List.append_cancel_left hchars)).2]

namespace Snak

variable {s t : Snak}

def digested (s : Snak) : String := s.toJson.compact

lemma eq_of_hash (hs : ∀ x ∈ s.numbers, x.isFinite = true) (ht : ∀ x ∈ t.numbers, x.isFinite = true)
    (hfree : CollisionFree [s.digested, t.digested]) (h : s.hash = t.hash) : s = t :=
  compact_injective hs ht (hfree s.digested (by simp) t.digested (by simp) h)

end Snak

namespace Reference

variable {r r' : Reference}

/-- The texts that the hash is made from: the lines, and what each line is the digest of. -/
def digested (r : Reference) : List String :=
  String.join ((r.snaks.map Snak.hash).map (· ++ "\n")) :: r.snaks.map Snak.digested

def numbers (r : Reference) : List Float := r.snaks.flatMap Snak.numbers

lemma snaks_eq_of_hashes {l l' : List Snak} (hl : ∀ s ∈ l, ∀ x ∈ s.numbers, x.isFinite = true)
    (hl' : ∀ s ∈ l', ∀ x ∈ s.numbers, x.isFinite = true)
    (hfree : CollisionFree (l.map Snak.digested ++ l'.map Snak.digested))
    (h : l.map Snak.hash = l'.map Snak.hash) : l = l' := by
  induction l generalizing l' with
  | nil => exact (List.map_eq_nil_iff.mp h.symm).symm
  | cons s l ih =>
    cases l' with
    | nil => cases h
    | cons t l' =>
      obtain ⟨hs, hl⟩ := List.forall_mem_cons.mp hl
      obtain ⟨ht, hts⟩ := List.forall_mem_cons.mp hl'
      obtain ⟨hhash, hrest⟩ := List.cons.inj h
      have hpair : CollisionFree [s.digested, t.digested] := hfree.mono (by simp)
      have hothers : CollisionFree (l.map Snak.digested ++ l'.map Snak.digested) := by
        refine hfree.mono ?_
        simp only [List.map_cons, List.cons_append]
        grind
      rw [Snak.eq_of_hash hs ht hpair hhash, ih hl hts hothers hrest]

lemma snaks_eq_of_hash (hr : ∀ x ∈ r.numbers, x.isFinite = true) (hr' : ∀ x ∈ r'.numbers, x.isFinite = true)
    (hfree : CollisionFree (r.digested ++ r'.digested)) (h : r.hash = r'.hash) : r.snaks = r'.snaks := by
  have hlines : String.join ((r.snaks.map Snak.hash).map (· ++ "\n")) =
      String.join ((r'.snaks.map Snak.hash).map (· ++ "\n")) := by
    refine hfree _ (by simp [digested]) _ (by simp [digested]) ?_
    simpa only [hash, List.map_map, Function.comp_def] using h
  have hnewline : ∀ l : List Snak, ∀ s ∈ l.map Snak.hash, '\n' ∉ s.toList := by
    intro l s hs
    obtain ⟨t, -, rfl⟩ := List.mem_map.mp hs
    exact newline_notMem _
  refine snaks_eq_of_hashes (fun s hs x hx => hr x (List.mem_flatMap.mpr ⟨s, hs, hx⟩))
    (fun s hs x hx => hr' x (List.mem_flatMap.mpr ⟨s, hs, hx⟩)) (hfree.mono ?_)
    (lines_inj (hnewline _) (hnewline _) hlines)
  unfold digested
  grind

end Reference

namespace Context

def reference? (c : Context) : Option Reference :=
  match c.place with
  | .reference r _ => some r
  | _ => none

/-- The texts that the hashes in the cursor are made from. -/
def digested (c : Context) : List String := c.snak.digested :: c.reference?.toList.flatMap Reference.digested

def numbers (c : Context) : List Float := c.snak.numbers ++ c.reference?.toList.flatMap Reference.numbers

lemma cursor_hashes (c : Context) :
    c.cursor.snakHash = c.snak.hash ∧ c.cursor.referenceHash = c.reference?.map Reference.hash := by
  obtain ⟨e, s, i, place⟩ := c
  cases place with
  | mainSnak => exact ⟨rfl, rfl⟩
  | qualifier s => exact ⟨rfl, rfl⟩
  | reference r s => exact ⟨rfl, rfl⟩

variable {c d : Context}

lemma snaks_eq_of_cursor (hfree : CollisionFree (c.digested ++ d.digested))
    (hnumbers : ∀ x ∈ c.numbers ++ d.numbers, x.isFinite = true) (h : c.cursor = d.cursor) :
    c.snak = d.snak ∧ c.reference?.map (·.snaks) = d.reference?.map (·.snaks) := by
  obtain ⟨hsnak, hreference⟩ := c.cursor_hashes
  obtain ⟨hsnak', hreference'⟩ := d.cursor_hashes
  rw [h] at hsnak hreference
  simp only [numbers, List.forall_mem_append] at hnumbers
  obtain ⟨⟨hc, hcs⟩, hd, hds⟩ := hnumbers
  constructor
  · refine Snak.eq_of_hash hc hd (hfree.mono ?_) (hsnak.symm.trans hsnak')
    simp [digested]
  · have hhashes := hreference.symm.trans hreference'
    unfold digested at hfree
    cases hr : c.reference? with
    | none =>
      rw [hr] at hhashes
      rw [Option.map_eq_none_iff.mp hhashes.symm]
    | some r =>
      rw [hr] at hhashes hfree hcs
      obtain ⟨r', hr', hhash⟩ := Option.map_eq_some_iff.mp hhashes.symm
      rw [hr'] at hfree hds ⊢
      simp only [Option.toList_some, List.flatMap_cons, List.flatMap_nil, List.append_nil] at hfree hcs hds
      refine congrArg some (Reference.snaks_eq_of_hash hcs hds (hfree.mono ?_) hhash.symm)
      grind

end Context

namespace Entity

def contexts (e : Entity) : List Context :=
  e.statements.placed.flatMap fun s => Context.ofStatement e s.1 s.2

variable {e : Entity} {c d : Context}

lemma placed_of_mem_contexts (h : c ∈ e.contexts) :
    c.entity = e ∧ e.statements.toList[c.position]? = some c.statement := by
  obtain ⟨s, hs, hc⟩ := List.mem_flatMap.mp h
  obtain ⟨place, rfl⟩ := Context.exists_place hc
  exact ⟨rfl, List.mem_zipIdx_iff_getElem?.mp hs⟩

lemma position_eq_of_guid (hguids : (e.statements.toList.map (·.guid)).Nodup) (hc : c ∈ e.contexts)
    (hd : d ∈ e.contexts) (h : c.statement.guid = d.statement.guid) : c.position = d.position := by
  obtain ⟨-, hc⟩ := placed_of_mem_contexts hc
  obtain ⟨-, hd⟩ := placed_of_mem_contexts hd
  have hlength : c.position < (e.statements.toList.map (·.guid)).length := by
    rw [List.length_map]
    exact (List.getElem?_eq_some_iff.mp hc).1
  refine (List.getElem?_inj hlength hguids).mp ?_
  rw [List.getElem?_map, List.getElem?_map, hc, hd, Option.map_some, Option.map_some, h]

/-- Snaks with equal hashes are equal; and where statements have identifiers of their own, contexts with equal
cursors stand in one statement and in one role, with equal snaks, and in references with equal snaks. -/
theorem cursor_identifies :
    (∀ s t : Snak, (∀ x ∈ s.numbers ++ t.numbers, x.isFinite = true) → CollisionFree [s.digested, t.digested] →
      s.hash = t.hash → s = t) ∧
    ∀ e : Entity, (e.statements.toList.map (·.guid)).Nodup → ∀ c ∈ e.contexts, ∀ d ∈ e.contexts,
      c.cursor = d.cursor → c.position = d.position ∧ c.statement = d.statement ∧ c.role = d.role ∧
        (CollisionFree (c.digested ++ d.digested) → (∀ x ∈ c.numbers ++ d.numbers, x.isFinite = true) →
          c.snak = d.snak ∧ c.reference?.map (·.snaks) = d.reference?.map (·.snaks)) := by
  constructor
  · intro s t hnumbers hfree h
    obtain ⟨hs, ht⟩ := List.forall_mem_append.mp hnumbers
    exact Snak.eq_of_hash hs ht hfree h
  · intro e hguids c hc d hd h
    have hposition := position_eq_of_guid hguids hc hd (congrArg Cursor.guid h)
    obtain ⟨-, hstatement⟩ := placed_of_mem_contexts hc
    obtain ⟨-, hstatement'⟩ := placed_of_mem_contexts hd
    rw [hposition, hstatement'] at hstatement
    refine ⟨hposition, (Option.some.inj hstatement).symm, congrArg Cursor.role h, ?_⟩
    exact fun hfree hnumbers => Context.snaks_eq_of_cursor hfree hnumbers h

theorem cursor_identifies_repeated :
    let height : Snak := .value ⟨2048⟩ (.quantity { amount := -0.5, unit := some ⟨11573⟩ })
    let r : Reference := ⟨[.noValue ⟨248⟩]⟩
    let s : Statement :=
      { guid := "Q42$1", mainSnak := height, qualifiers := [height, height], references := [r, r] }
    let e : Entity := ⟨.item ⟨42⟩, .ofList [s, { s with guid := "Q42$2" }]⟩
    ∃ c d c' d' : Context,
      (e.contexts.take 5).drop 1 = [c, d, c', d'] ∧ c.snak.hash = d.snak.hash ∧ c.snak = d.snak ∧
        c'.cursor = d'.cursor ∧ c'.position = d'.position ∧ c'.role = d'.role ∧ c'.snak = d'.snak ∧
          c'.reference?.map (·.snaks) = d'.reference?.map (·.snaks) := by
  intro height r s e
  let c : Context := ⟨e, s, 0, .qualifier height⟩
  let c' : Context := ⟨e, s, 0, .reference r (.noValue ⟨248⟩)⟩
  have hcontexts : (e.contexts.take 5).drop 1 = [c, c, c', c'] := rfl
  have hmem : c' ∈ e.contexts := by
    refine List.mem_of_mem_take (List.mem_of_mem_drop (i := 1) (?_ : c' ∈ (e.contexts.take 5).drop 1))
    simp [hcontexts]
  have hguids : (e.statements.toList.map (·.guid)).Nodup := by decide
  have hsnak : height = height := by
    refine cursor_identifies.1 height height (by decide) ?_ rfl
    simp [CollisionFree]
  obtain ⟨hposition, -, hrole, hreference⟩ := cursor_identifies.2 e hguids c' hmem c' hmem rfl
  obtain ⟨hsnak', hsnaks⟩ := hreference (by decide +kernel) (by decide +kernel)
  exact ⟨c, c, c', c', hcontexts, rfl, hsnak, rfl, hposition, hrole, hsnak', hsnaks⟩

end Entity

end EntityAudit
