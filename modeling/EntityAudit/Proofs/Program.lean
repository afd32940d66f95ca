import EntityAudit.Program
import EntityAudit.Proofs.Ordered.Lookup

namespace EntityAudit

namespace Directory

variable {d e : Directory} {p q : Location} {names : List String} {path text : String}

lemma isFolder_files (files : SortedMap Location String) (p : Location) :
    isFolder { d with files } p = d.isFolder p := rfl

lemma follow_files (files : SortedMap Location String) (h : d.follow p names = .ok q) :
    follow { d with files } p names = .ok q := by
  induction names generalizing p with
  | nil => exact h
  | cons name names ih =>
    unfold follow at h ⊢
    rw [isFolder_files]
    by_cases hfolder : d.isFolder p = true
    · rw [if_pos hfolder] at h ⊢
      by_cases hname : name = "" ∨ name = "."
      · rw [if_pos hname] at h ⊢
        exact ih h
      rw [if_neg hname] at h ⊢
      by_cases hup : name = ".."
      · rw [if_pos hup] at h ⊢
        exact ih h
      · rw [if_neg hup] at h ⊢
        exact ih h
    · rw [if_neg hfolder] at h
      cases h

lemma locate_files (files : SortedMap Location String) (h : d.locate path = .ok p) :
    locate { d with files } path = .ok p := by
  unfold locate at h ⊢
  split at h
  · cases h
  · rw [if_neg ‹_›]
    exact follow_files files h

lemma writeFile_of_locate (h : d.locate path = .ok p) (hp : d.isFolder p = false) (text : String) :
    d.writeFile path text = .ok { d with files := d.files.insert p text } := by
  rw [writeFile, h]
  change (if d.isFolder p = true then _ else _) = _
  rw [hp]
  rfl

theorem readFile_writeFile (h : d.writeFile path text = .ok e) : e.readFile path = .ok text := by
  unfold writeFile at h
  cases hlocate : d.locate path with
  | error error =>
    rw [hlocate] at h
    cases h
  | ok p =>
    cases hp : d.isFolder p with
    | true =>
      rw [hlocate] at h
      change (if d.isFolder p = true then _ else _) = _ at h
      rw [hp] at h
      cases h
    | false =>
      obtain rfl : { d with files := d.files.insert p text } = e :=
        Except.ok.inj ((writeFile_of_locate hlocate hp text).symm.trans h)
      rw [readFile, locate_files _ hlocate]
      simp only [bind, Except.bind, SortedMap.get?_insert, if_pos]
      rfl

end Directory

namespace Program

variable {α β : Type} {x : Run (StateM Directory) α} {f : α → Run (StateM Directory) β} {d e : Directory}

lemma run_bind (x : Run (StateM Directory) α) (f : α → Run (StateM Directory) β) (d : Directory) :
    (x >>= f).run d =
      match x.run d with
      | (.ok a, e) => (f a).run e
      | (.error failure, e) => (.error failure, e) := by
  change (match x.run d with | (r, e) => ExceptT.bindCont f r e) = _
  rcases x.run d with ⟨_ | a, e⟩
  · rfl
  · rfl

lemma run_bind_ok {a : α} (h : x.run d = (.ok a, e)) : (x >>= f).run d = (f a).run e := by
  rw [run_bind, h]

lemma run_bind_error {failure : Failure} (h : x.run d = (.error failure, e)) :
    (x >>= f).run d = (.error failure, e) := by
  rw [run_bind, h]

lemma run_lift_bind (y : StateM Directory α) (d : Directory) :
    ((y : Run (StateM Directory) α) >>= f).run d = (f (y d).1).run (y d).2 := rfl

end Program

end EntityAudit
