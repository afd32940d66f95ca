import EntityAudit.Proofs.Membership.Routes
import Mathlib.Data.List.Flatten

/-!
The search for a class as a loop. Each turn takes one class out of the queue, and a class brings its
superclasses into the queue once, so the loop ends after as many turns as there are subclass statements and
starts.
-/

namespace EntityAudit

def Store.related (s : Store) (relation : PropertyId) (id : EntityId) : List ItemId :=
  match s.find? id with
  | none => []
  | some e => e.relatedItems [relation]

lemma Store.mem_related {s : Store} {relation : PropertyId} {id : EntityId} {c : ItemId} :
    c ∈ s.related relation id ↔ ∃ e, s.find? id = some e ∧ c ∈ e.relatedItems [relation] := by
  rw [related]
  cases s.find? id with
  | none => simp
  | some e => simp

namespace GraphQuery

inductive Turn where
  | done (answer : Bool)
  | next (visited queue : List ItemId)

def turn (s : Store) (subclassOf : PropertyId) (classes visited : List ItemId) : List ItemId → Turn
  | [] => .done false
  | c :: queue =>
    if c ∈ visited then .next visited queue
    else if c ∈ classes then .done true
    else .next (c :: visited) (queue ++ s.related subclassOf (.item c))

def answerWithin (s : Store) (subclassOf : PropertyId) (classes visited queue : List ItemId) : Nat → Option Bool
  | 0 => none
  | turns + 1 =>
    match turn s subclassOf classes visited queue with
    | .done answer => some answer
    | .next visited queue => answerWithin s subclassOf classes visited queue turns

def pending (s : Store) (subclassOf : PropertyId) (visited : List ItemId) : List ItemId :=
  (s.ids.filter fun id => !(visited.map EntityId.item).contains id).flatMap (s.related subclassOf)

variable {s : Store} {subclassOf : PropertyId} {classes visited queue v q : List ItemId} {c : ItemId}

lemma search_of_done {answer : Bool} (h : turn s subclassOf classes visited queue = .done answer) :
    search s subclassOf classes visited queue = answer := by
  cases queue with
  | nil =>
    cases h
    rw [search]
  | cons c queue =>
    simp only [turn] at h
    split at h
    · cases h
    · split at h
      · rename_i hvisited hclass
        cases h
        rw [search, if_neg hvisited, if_pos hclass]
      · cases h

lemma search_of_next (h : turn s subclassOf classes visited queue = .next v q) :
    search s subclassOf classes visited queue = search s subclassOf classes v q := by
  cases queue with
  | nil => cases h
  | cons c queue =>
    simp only [turn] at h
    split at h
    · rename_i hvisited
      cases h
      rw [search, if_pos hvisited]
    · split at h
      · cases h
      · rename_i hvisited hclass
        cases h
        rw [search, if_neg hvisited, if_neg hclass]
        split
        · rename_i hf
          rw [Store.related, hf, List.append_nil]
        · rename_i e hf
          rw [Store.related, hf]

lemma length_flatMap_filter_le {α β : Type} {f : α → List β} {p p' : α → Bool} {l : List α}
    (h : ∀ x, p' x = true → p x = true) :
    ((l.filter p').flatMap f).length ≤ ((l.filter p).flatMap f).length :=
  ((List.monotone_filter_right l h).flatMap f).length_le

lemma length_flatMap_filter_add_le {α β : Type} {f : α → List β} {p p' : α → Bool} {l : List α} {a : α}
    (h : ∀ x, p' x = true → p x = true) (ha : a ∈ l) (hp : p a = true) (hp' : p' a = false) :
    ((l.filter p').flatMap f).length + (f a).length ≤ ((l.filter p).flatMap f).length := by
  induction l with
  | nil => cases ha
  | cons b l ih =>
    rcases List.mem_cons.mp ha with rfl | ha
    · rw [List.filter_cons_of_neg (by simp [hp']), List.filter_cons_of_pos hp, List.flatMap_cons,
        List.length_append, Nat.add_comm]
      exact Nat.add_le_add_left (length_flatMap_filter_le h) _
    · have hrest := ih ha
      cases hb : p' b with
      | true =>
        rw [List.filter_cons_of_pos hb, List.filter_cons_of_pos (h b hb)]
        simp only [List.flatMap_cons, List.length_append]
        omega
      | false =>
        rw [List.filter_cons_of_neg (by simp [hb])]
        have hcons : ((l.filter p).flatMap f).length ≤ (((b :: l).filter p).flatMap f).length :=
          (((List.sublist_cons_self b l).filter p).flatMap f).length_le
        omega

lemma length_pending_cons (hc : c ∉ visited) :
    (pending s subclassOf (c :: visited)).length + (s.related subclassOf (.item c)).length ≤
      (pending s subclassOf visited).length := by
  have hmono : ∀ id : EntityId, (!((c :: visited).map EntityId.item).contains id) = true →
      (!(visited.map EntityId.item).contains id) = true := by
    intro id hid
    simp_all
  cases hf : s.find? (.item c) with
  | none =>
    rw [Store.related, hf]
    exact length_flatMap_filter_le hmono
  | some e =>
    apply length_flatMap_filter_add_le hmono (Store.mem_ids_of_find? hf)
    · simpa using hc
    · simp

lemma turn_decreases (h : turn s subclassOf classes visited queue = .next v q) :
    q.length + (pending s subclassOf v).length < queue.length + (pending s subclassOf visited).length := by
  cases queue with
  | nil => cases h
  | cons c queue =>
    simp only [turn] at h
    split at h
    · cases h
      simp
    · split at h
      · cases h
      · rename_i hvisited _
        cases h
        have hpending : (pending s subclassOf (c :: visited)).length + (s.related subclassOf (.item c)).length ≤
            (pending s subclassOf visited).length := length_pending_cons hvisited
        simp only [List.length_append, List.length_cons]
        omega

lemma answerWithin_eq_search {turns : Nat} (h : queue.length + (pending s subclassOf visited).length < turns) :
    answerWithin s subclassOf classes visited queue turns = some (search s subclassOf classes visited queue) := by
  induction turns generalizing visited queue with
  | zero => omega
  | succ turns ih =>
    rw [answerWithin]
    cases hturn : turn s subclassOf classes visited queue with
    | done answer => rw [search_of_done hturn]
    | next v q =>
      have hless := turn_decreases hturn
      rw [search_of_next hturn]
      exact ih (by omega)

/-- For every subject there is an answer. The loop finds it within as many turns as the subject has direct
classes and the store has subclass statements, and one more; and it is yes exactly if a way leads up from a
direct class to one of those that are looked for. -/
theorem search_ends (config : Config) (s : Store) (subject : EntityId) (classes : List ItemId)
    (instance_ : Bool) :
    let relation := if instance_ then config.instanceOf else config.subclassOf
    let direct := s.related relation subject
    ∃ found, (ofStore config s).hasType subject classes instance_ = .ok { value := found } ∧
      answerWithin s config.subclassOf classes [] direct
        (direct.length + (s.ids.flatMap (s.related config.subclassOf)).length + 1) = some found ∧
      (found = true ↔ ∃ e, s.find? subject = some e ∧ ∃ c ∈ e.relatedItems [relation], ∃ l, ∃ d ∈ classes,
        Ascent s.find? config.subclassOf c l d) := by
  intro relation direct
  have hpending : pending s config.subclassOf [] = s.ids.flatMap (s.related config.subclassOf) := by
    simp [pending]
  refine ⟨search s config.subclassOf classes [] direct, ?_, ?_, ?_⟩
  · simp only [ofStore, direct, Store.related]
    cases s.find? subject with
    | none => simp only [search]
    | some e => rfl
  · apply answerWithin_eq_search
    rw [hpending]
    exact Nat.lt_succ_self _
  · rw [search_eq_true_iff .nil]
    constructor
    · rintro ⟨c, hc, hway⟩
      obtain ⟨e, he, hce⟩ := Store.mem_related.mp hc
      exact ⟨e, he, c, hce, hway⟩
    · rintro ⟨e, he, c, hce, hway⟩
      exact ⟨c, Store.mem_related.mpr ⟨e, he, hce⟩, hway⟩

example : answerWithin Sample.kinds Sample.subclassOf [⟨1⟩] [] [⟨2⟩] 4 = none ∧
    answerWithin Sample.kinds Sample.subclassOf [⟨1⟩] [] [⟨2⟩] 5 = some false := by
  decide

end GraphQuery

end EntityAudit
