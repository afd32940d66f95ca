import EntityAudit.Metadata
import EntityAudit.Proofs.Ordered.Lookup

namespace EntityAudit

namespace Moment

lemma isBefore_iff {a b : Moment} :
    a.isBefore b = true ↔ a.seconds < b.seconds ∨ a.seconds = b.seconds ∧ a.nanos < b.nanos := by
  simp [isBefore]

lemma isBefore_self (a : Moment) : a.isBefore a = false := by
  rw [← Bool.not_eq_true, isBefore_iff]
  omega

lemma notBefore_trans {a b c : Moment} (hab : b.isBefore a = false) (hbc : c.isBefore b = false) :
    c.isBefore a = false := by
  rw [← Bool.not_eq_true, isBefore_iff] at *
  omega

lemma isBefore_earlier (a b c : Moment) :
    a.isBefore (b.earlier c) = (a.isBefore b && a.isBefore c) := by
  rw [Bool.eq_iff_iff, Bool.and_eq_true]
  unfold earlier
  split
  · rename_i h
    rw [isBefore_iff] at h
    simp only [isBefore_iff]
    omega
  · rename_i h
    rw [isBefore_iff] at h
    simp only [isBefore_iff]
    omega

end Moment

namespace Metadata

lemma contains_combine (a b : Metadata) (id : EntityId) :
    (a.combine b).entities.contains id = true ↔
      a.entities.contains id = true ∨ b.entities.contains id = true :=
  SortedMap.contains_union _ _ _

lemma contains_ofEntity (id a : EntityId) :
    (ofEntity id).entities.contains a = true ↔ a = id := by
  simp [ofEntity, SortedMap.contains_setOf]

lemma contains_ofEntities (ids : List EntityId) (a : EntityId) :
    (ofEntities ids).entities.contains a = true ↔ a ∈ ids :=
  SortedMap.contains_setOf _ _

lemma contains_blank (id : EntityId) : blank.entities.contains id = false := rfl

lemma contains_merge (l : List Metadata) (id : EntityId) :
    (merge l).entities.contains id = true ↔ ∃ m ∈ l, m.entities.contains id = true := by
  have hfold (l : List Metadata) (a : Metadata) :
      (l.foldl combine a).entities.contains id = true ↔
        a.entities.contains id = true ∨ ∃ m ∈ l, m.entities.contains id = true := by
    induction l generalizing a with
    | nil => simp
    | cons m l ih =>
      rw [List.foldl_cons, ih, contains_combine, List.exists_mem_cons_iff, or_assoc]
  rw [merge, hfold, contains_blank]
  simp

lemma all_earliest (now : Moment) (a b : Option Moment) :
    (earliest a b).all now.isBefore = (a.all now.isBefore && b.all now.isBefore) := by
  cases a <;> cases b <;> simp [earliest, Moment.isBefore_earlier]

lemma all_future_merge (now : Moment) (l : List Metadata) :
    (merge l).future.all now.isBefore = l.all (·.future.all now.isBefore) := by
  have hfold (l : List Metadata) (a : Metadata) :
      (l.foldl combine a).future.all now.isBefore =
        (a.future.all now.isBefore && l.all (·.future.all now.isBefore)) := by
    induction l generalizing a with
    | nil => simp
    | cons m l ih =>
      rw [List.foldl_cons, ih, List.all_cons, ← Bool.and_assoc]
      simp only [combine, all_earliest]
  rw [merge, hfold]
  rfl

end Metadata

end EntityAudit
