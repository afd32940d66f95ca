/-!
Finite maps whose entries are kept strictly ascending by key. Equal contents have one
representation: two maps with the same look-ups are equal.
-/

namespace EntityAudit

open Std

structure SortedMap (α β : Type) [Ord α] where
  entries : List (α × β)
  sorted : entries.Pairwise (fun a b => compare a.1 b.1 = .lt)

abbrev SortedSet (α : Type) [Ord α] := SortedMap α Unit

namespace SortedMap

variable {α β γ : Type} [Ord α]

def empty : SortedMap α β := ⟨[], .nil⟩

instance : Inhabited (SortedMap α β) := ⟨empty⟩

instance [BEq α] [BEq β] : BEq (SortedMap α β) := ⟨fun m n => m.entries == n.entries⟩

instance [DecidableEq α] [DecidableEq β] : DecidableEq (SortedMap α β) := fun m n =>
  decidable_of_iff (m.entries = n.entries) (by
    cases m; cases n; simp)

def keys (m : SortedMap α β) : List α := m.entries.map (·.1)

def values (m : SortedMap α β) : List β := m.entries.map (·.2)

def size (m : SortedMap α β) : Nat := m.entries.length

def isEmpty (m : SortedMap α β) : Bool := m.entries.isEmpty

def lookup (k : α) : List (α × β) → Option β
  | [] => none
  | (k', v) :: r => if compare k k' = .eq then some v else lookup k r

def get? (m : SortedMap α β) (k : α) : Option β := lookup k m.entries

def contains (m : SortedMap α β) (k : α) : Bool := (m.get? k).isSome

def alterEntries (k : α) (f : Option β → β) : List (α × β) → List (α × β)
  | [] => [(k, f none)]
  | (k', v) :: r =>
    match compare k k' with
    | .lt => (k, f none) :: (k', v) :: r
    | .eq => (k', f (some v)) :: r
    | .gt => (k', v) :: alterEntries k f r

theorem mem_keys_of_lookup [LawfulEqOrd α] {k : α} {v : β} {l : List (α × β)}
    (h : lookup k l = some v) : k ∈ l.map (·.1) := by
  induction l with
  | nil => simp [lookup] at h
  | cons hd tl ih =>
    obtain ⟨k', v'⟩ := hd
    unfold lookup at h
    split at h
    · rename_i he
      simp [LawfulEqOrd.eq_of_compare he]
    · exact List.mem_cons_of_mem _ (ih h)

theorem mem_keys_of_get? [LawfulEqOrd α] {m : SortedMap α β} {k : α} {v : β}
    (h : m.get? k = some v) : k ∈ m.keys :=
  mem_keys_of_lookup h

theorem mem_alterEntries {k : α} {f : Option β → β} {e : α × β} {l : List (α × β)}
    (h : e ∈ alterEntries k f l) : e.1 = k ∨ ∃ v, (e.1, v) ∈ l := by
  induction l with
  | nil => simp [alterEntries] at h; simp [h]
  | cons hd tl ih =>
    obtain ⟨k', v⟩ := hd
    unfold alterEntries at h
    split at h
    · rcases List.mem_cons.1 h with rfl | h
      · exact .inl rfl
      · exact .inr ⟨e.2, h⟩
    · rcases List.mem_cons.1 h with rfl | h
      · exact .inr ⟨v, by simp⟩
      · exact .inr ⟨e.2, List.mem_cons_of_mem _ h⟩
    · rcases List.mem_cons.1 h with rfl | h
      · exact .inr ⟨v, by simp⟩
      · rcases ih h with h | ⟨w, hw⟩
        · exact .inl h
        · exact .inr ⟨w, List.mem_cons_of_mem _ hw⟩

theorem filter_sorted {l : List (α × β)} (p : α × β → Bool)
    (h : l.Pairwise (fun a b => compare a.1 b.1 = .lt)) :
    (l.filter p).Pairwise (fun a b => compare a.1 b.1 = .lt) :=
  h.sublist List.filter_sublist

def erase (m : SortedMap α β) (k : α) : SortedMap α β :=
  ⟨m.entries.filter fun e => compare k e.1 ≠ .eq, filter_sorted _ m.sorted⟩

def mapValues (f : β → γ) (m : SortedMap α β) : SortedMap α γ :=
  ⟨m.entries.map fun e => (e.1, f e.2), List.pairwise_map.2 m.sorted⟩

theorem lookup_alterEntries_ne [LawfulEqOrd α] {k a : α} (f : Option β → β)
    (l : List (α × β)) (h : k ≠ a) : lookup a (alterEntries k f l) = lookup a l := by
  have hne : compare a k ≠ .eq := fun he => h (LawfulEqOrd.eq_of_compare he).symm
  induction l with
  | nil => simp [alterEntries, lookup, hne]
  | cons hd tl ih =>
    obtain ⟨k', v⟩ := hd
    unfold alterEntries
    split
    · simp [lookup, hne]
    · rename_i heq
      obtain rfl := LawfulEqOrd.eq_of_compare heq
      simp [lookup, hne]
    · simp [lookup, ih]

variable [TransOrd α]

theorem alterEntries_sorted {k : α} {f : Option β → β} {l : List (α × β)}
    (h : l.Pairwise (fun a b => compare a.1 b.1 = .lt)) :
    (alterEntries k f l).Pairwise (fun a b => compare a.1 b.1 = .lt) := by
  induction l with
  | nil => simp [alterEntries]
  | cons hd tl ih =>
    obtain ⟨k', v⟩ := hd
    have htl := (List.pairwise_cons.1 h).2
    have hhd := (List.pairwise_cons.1 h).1
    unfold alterEntries
    split
    · rename_i hlt
      refine List.pairwise_cons.2 ⟨fun a ha => ?_, h⟩
      rcases List.mem_cons.1 ha with rfl | ha
      · exact hlt
      · exact TransCmp.lt_trans hlt (hhd a ha)
    · exact List.pairwise_cons.2 ⟨hhd, htl⟩
    · rename_i hgt
      refine List.pairwise_cons.2 ⟨fun a ha => ?_, ih htl⟩
      rcases mem_alterEntries ha with hk | ⟨w, hw⟩
      · show compare k' a.1 = .lt
        rw [hk]
        exact OrientedCmp.lt_of_gt hgt
      · exact hhd (a.1, w) hw

def alter (m : SortedMap α β) (k : α) (f : Option β → β) : SortedMap α β :=
  ⟨alterEntries k f m.entries, alterEntries_sorted m.sorted⟩

def insert (m : SortedMap α β) (k : α) (v : β) : SortedMap α β := m.alter k fun _ => v

def ofList (l : List (α × β)) : SortedMap α β := l.foldl (fun m e => m.insert e.1 e.2) empty

def union (m n : SortedMap α β) : SortedMap α β :=
  n.entries.foldl (fun m e => m.insert e.1 e.2) m

def setOf (l : List α) : SortedSet α := ofList (l.map fun a => (a, ()))

@[simp] theorem lookup_alterEntries_self (k : α) (f : Option β → β) (l : List (α × β))
    (h : l.Pairwise (fun a b => compare a.1 b.1 = .lt)) :
    lookup k (alterEntries k f l) = some (f (lookup k l)) := by
  induction l with
  | nil => simp [alterEntries, lookup]
  | cons hd tl ih =>
    obtain ⟨k', v⟩ := hd
    unfold alterEntries
    split
    · rename_i hlt
      have hnone : lookup k tl = none := by
        clear ih
        have hhd := (List.pairwise_cons.1 h).1
        clear h
        induction tl with
        | nil => rfl
        | cons e tl ih =>
          have he : compare k e.1 = .lt := TransCmp.lt_trans hlt (hhd e (by simp))
          simp [lookup, he, ih fun a ha => hhd a (List.mem_cons_of_mem _ ha)]
      simp [lookup, hlt, hnone]
    · rename_i heq
      simp [lookup, heq]
    · rename_i hgt
      simp [lookup, hgt, ih (List.pairwise_cons.1 h).2]

@[simp] theorem get?_alter_self (m : SortedMap α β) (k : α) (f : Option β → β) :
    (m.alter k f).get? k = some (f (m.get? k)) :=
  lookup_alterEntries_self k f m.entries m.sorted

@[simp] theorem get?_insert_self (m : SortedMap α β) (k : α) (v : β) :
    (m.insert k v).get? k = some v :=
  get?_alter_self m k _

theorem get?_insert_ne [LawfulEqOrd α] (m : SortedMap α β) {k a : α} (v : β) (h : k ≠ a) :
    (m.insert k v).get? a = m.get? a :=
  lookup_alterEntries_ne _ m.entries h

end SortedMap

end EntityAudit
