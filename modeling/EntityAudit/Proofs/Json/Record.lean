import EntityAudit.Json.Record
import EntityAudit.Proofs.Ordered.Lookup
import Mathlib.Data.List.Nodup

namespace EntityAudit

namespace Json

section

variable {α β : Type} {encode : α → Json} {decode : Json → Option α}

lemma mapM_map {γ : Type} {f : α → β} {g : β → Option γ} {k : α → γ} {l : List α}
    (h : ∀ a ∈ l, g (f a) = some (k a)) : (l.map f).mapM g = some (l.map k) := by
  induction l with
  | nil => rfl
  | cons a l ih =>
    obtain ⟨ha, hl⟩ := List.forall_mem_cons.mp h
    rw [List.map_cons, List.mapM_cons, ha, ih hl]
    rfl

lemma list?_map {γ : Type} {read : Json → Option γ} {k : α → γ} {l : List α}
    (h : ∀ a ∈ l, read (encode a) = some (k a)) : list? read (array (l.map encode)) = some (l.map k) :=
  mapM_map h

lemma list?_array {l : List α} (h : ∀ a ∈ l, decode (encode a) = some a) :
    list? decode (array (l.map encode)) = some l := by
  rw [list?_map (k := id) h, List.map_id]

lemma map?_object [Ord α] [Std.TransOrd α] [Std.LawfulEqOrd α] {key : String → Option α} {read : Json → Option β}
    {m : SortedMap α β} (name : α → String) (write : β → Json)
    (hkey : ∀ e ∈ m.entries, key (name e.1) = some e.1) (hvalue : ∀ e ∈ m.entries, read (write e.2) = some e.2) :
    map? key read (object (m.entries.map fun e => (name e.1, write e.2))) = some m := by
  have hentries : (m.entries.map fun e => (name e.1, write e.2)).mapM
      (fun (name, j) => do return (← key name, ← read j)) = some (m.entries.map id) := by
    apply mapM_map
    intro e he
    simp only [hkey e he, hvalue e he]
    rfl
  rw [map?, hentries, List.map_id, Option.map_some, SortedMap.ofList_entries]

end

lemma natural?_natCast {limit n : Nat} (h : n < limit) : natural? limit (integer n) = some n := by
  rw [natural?, if_pos (by omega), Int.toNat_natCast]

def given (members : List (String × Option Json)) (name : String) : Option Json :=
  (members.find? (·.1 = name)).bind (·.2)

lemma lookup_eq_none {members : List (String × Json)} {name : String} (h : name ∉ members.map (·.1)) :
    lookup members name = none := by
  rw [lookup, Option.map_eq_none_iff, List.find?_eq_none]
  rintro m hm hname
  exact h (List.mem_map.mpr ⟨m, hm, of_decide_eq_true hname⟩)

lemma present_sublist (members : List (String × Option Json)) :
    ((members.filterMap fun (name, value) => value.map fun j => (name, j)).map (·.1)).Sublist
      (members.map (·.1)) := by
  induction members with
  | nil => exact .slnil
  | cons m ms ih =>
    obtain ⟨name, value⟩ := m
    cases value with
    | none => exact ih.cons name
    | some j => exact ih.cons_cons name

lemma lookup_present {members : List (String × Option Json)} (h : (members.map (·.1)).Nodup) (name : String) :
    lookup (members.filterMap fun (name, value) => value.map fun j => (name, j)) name = given members name := by
  induction members with
  | nil => rfl
  | cons m ms ih =>
    obtain ⟨n, value⟩ := m
    obtain ⟨hn, hms⟩ := List.nodup_cons.mp h
    by_cases hname : n = name
    · subst hname
      have habsent := lookup_eq_none fun hmem => hn ((present_sublist ms).subset hmem)
      cases value with
      | none => simpa [given] using habsent
      | some j => simp [given, lookup]
    · have hrest := ih hms
      cases value with
      | none => simpa [given, hname] using hrest
      | some j => simpa [given, lookup, hname] using hrest

lemma record?_object {members : List (String × Json)} (h : (members.map (·.1)).Nodup) (names : List String) :
    record? names (object members) = some ⟨lookup members⟩ := by
  have hcount : (names.all fun name => members.countP (·.1 = name) ≤ 1) = true := by
    rw [List.all_eq_true]
    intro name _
    have hle := List.nodup_iff_count_le_one.mp h name
    rw [List.count_eq_countP, List.countP_map] at hle
    simpa [Function.comp_def, beq_eq_decide] using hle
  rw [record?, if_pos hcount]

lemma record?_record {members : List (String × Option Json)} (h : (members.map (·.1)).Nodup)
    (names : List String) : record? names (record members) = some ⟨given members⟩ := by
  rw [record, record?_object ((present_sublist members).nodup h), Option.some.injEq, Record.mk.injEq]
  funext name
  exact lookup_present h name

lemma lt_of_natural? {limit n : Nat} {j : Json} (h : natural? limit j = some n) : n < limit := by
  unfold natural? at h
  split at h
  · split at h
    · obtain rfl := Option.some.inj h
      omega
    · cases h
  · cases h

namespace Record

variable {α : Type} {r : Record} {name : String} {decode : Json → Option α} {a value : α} {j : Json}

lemma required?_of_get? (hget : r.get? name = some j) (h : decode j = some a) :
    r.required? name decode = some a := by
  rw [required?, hget, Option.bind_some, h]

lemma defaulting?_of_get? (hget : r.get? name = some j) (h : decode j = some a) :
    r.defaulting? name value decode = some a := by
  simp only [defaulting?, hget, h]

lemma defaulting?_of_ite {p : Prop} [Decidable p] (hget : r.get? name = if p then none else some j)
    (hvalue : p → value = a) (h : decode j = some a) : r.defaulting? name value decode = some a := by
  by_cases hp : p
  · rw [if_pos hp] at hget
    simp only [defaulting?, hget, hvalue hp]
  · rw [if_neg hp] at hget
    exact defaulting?_of_get? hget h

lemma lt_of_defaulting? {limit n m : Nat} (hvalue : n < limit)
    (h : r.defaulting? name n (natural? limit) = some m) : m < limit := by
  unfold defaulting? at h
  split at h
  · obtain rfl := Option.some.inj h
    exact hvalue
  · exact lt_of_natural? h

lemma optional?_of_map {encode : α → Json} {o : Option α} (hget : r.get? name = o.map encode)
    (hnull : decode null = none) (h : ∀ a ∈ o, decode (encode a) = some a) :
    r.optional? name decode = some o := by
  cases o with
  | none => simp only [optional?, hget, Option.map_none]
  | some a =>
    have hread := h a rfl
    unfold optional?
    rw [hget, Option.map_some]
    split
    · rename_i hnone
      cases hnone
    · rename_i hsome
      rw [Option.some.inj hsome, hnull] at hread
      cases hread
    · rename_i j hsome
      rw [← Option.some.inj hsome, hread]
      rfl

end Record

end Json

end EntityAudit
