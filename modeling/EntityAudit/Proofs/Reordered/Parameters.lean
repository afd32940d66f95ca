import EntityAudit.Proofs.ResultTree
import EntityAudit.Rule.Range
import Mathlib.Data.List.Perm.Basic

namespace EntityAudit

inductive Alike {ε α β : Type} (r : α → β → Prop) : Except ε α → Except ε β → Prop
  | error (e e' : ε) : Alike r (.error e) (.error e')
  | ok {a : α} {b : β} (h : r a b) : Alike r (.ok a) (.ok b)

namespace Alike

variable {ε α β γ δ : Type} {r : α → β → Prop} {q : γ → δ → Prop}

lemma refl {r : α → α → Prop} (hr : ∀ a, r a a) (x : Except ε α) : Alike r x x := by
  cases x with
  | error e => exact .error e e
  | ok a => exact .ok (hr a)

lemma trans {r : α → α → Prop} (hr : ∀ a b c, r a b → r b c → r a c) {x y z : Except ε α} (h : Alike r x y)
    (k : Alike r y z) : Alike r x z := by
  cases h with
  | error e e' =>
    cases k with
    | error _ e'' => exact .error e e''
  | ok hab =>
    cases k with
    | ok hbc => exact .ok (hr _ _ _ hab hbc)

lemma bind {x : Except ε α} {y : Except ε β} {f : α → Except ε γ} {g : β → Except ε δ} (h : Alike r x y)
    (hfg : ∀ a b, r a b → Alike q (f a) (g b)) : Alike q (x >>= f) (y >>= g) := by
  cases h with
  | error e e' => exact .error e e'
  | ok hab => exact hfg _ _ hab

lemma bind_eq {x y : Except ε α} {f g : α → Except ε γ} {q : γ → γ → Prop} (h : Alike Eq x y)
    (hfg : ∀ a, Alike q (f a) (g a)) : Alike q (x >>= f) (y >>= g) := by
  refine h.bind fun a b hab => ?_
  obtain rfl := hab
  exact hfg a

lemma mapM (f : α → Except ε β) {l k : List α} (h : l.Perm k) : Alike List.Perm (l.mapM f) (k.mapM f) := by
  induction h with
  | nil => exact .ok .nil
  | cons a _ ih =>
    rw [List.mapM_cons, List.mapM_cons]
    apply (refl (fun _ => rfl) (f a)).bind_eq
    intro b
    exact ih.bind fun _ _ hrest => .ok (hrest.cons b)
  | swap a b l =>
    simp only [List.mapM_cons]
    cases f a with
    | error e =>
      cases f b with
      | error e' => exact .error e' e
      | ok y => exact .error e e
    | ok x =>
      cases f b with
      | error e' => exact .error e' e'
      | ok y =>
        cases l.mapM f with
        | error e => exact .error e e
        | ok rest => exact .ok (.swap x y rest)
  | trans _ _ ih ih' => exact ih.trans (fun _ _ _ h h' => h.trans h') ih'

end Alike

namespace ParameterSnaks

variable {m n : ParameterSnaks} {p : PropertyId}

structure Permuted (m n : ParameterSnaks) : Prop where
  of : ∀ p, (m.of p).Perm (n.of p)
  contains : ∀ p, n.contains p = m.contains p

lemma of_add (m : ParameterSnaks) (s : Snak) (p : PropertyId) :
    (m.add s).of p = if s.property = p then m.of p ++ [s] else m.of p := by
  rw [of, add, SortedMap.get?_alter]
  split
  · rfl
  · rfl

lemma contains_add (m : ParameterSnaks) (s : Snak) (p : PropertyId) :
    (m.add s).contains p = (decide (s.property = p) || m.contains p) := by
  rw [SortedMap.contains, add, SortedMap.get?_alter]
  split
  · simp [*]
  · simp [*, SortedMap.contains]

namespace Permuted

lemma refl (m : ParameterSnaks) : m.Permuted m := ⟨fun _ => .refl _, fun _ => rfl⟩

lemma trans {k : ParameterSnaks} (h : m.Permuted n) (h' : n.Permuted k) : m.Permuted k :=
  ⟨fun p => (h.of p).trans (h'.of p), fun p => (h'.contains p).trans (h.contains p)⟩

lemma add (h : m.Permuted n) (s : Snak) : (m.add s).Permuted (n.add s) := by
  refine ⟨fun p => ?_, fun p => ?_⟩
  · rw [of_add, of_add]
    split
    · exact (h.of p).append_right [s]
    · exact h.of p
  · rw [contains_add, contains_add, h.contains]

lemma add_comm (m : ParameterSnaks) (s t : Snak) : ((m.add s).add t).Permuted ((m.add t).add s) := by
  refine ⟨fun p => ?_, fun p => ?_⟩
  · simp only [of_add]
    split
    · split
      · rw [List.append_assoc, List.append_assoc]
        exact (List.Perm.swap t s []).append_left _
      · exact .refl _
    · exact .refl _
  · simp only [contains_add, Bool.or_left_comm]

lemma foldl_add {l k : List Snak} (h : l.Perm k) (hm : m.Permuted n) :
    (l.foldl ParameterSnaks.add m).Permuted (k.foldl ParameterSnaks.add n) := by
  induction h generalizing m n with
  | nil => exact hm
  | cons s _ ih => exact ih (hm.add s)
  | swap s t l =>
    have hrest : ∀ {m n : ParameterSnaks}, m.Permuted n →
        (l.foldl ParameterSnaks.add m).Permuted (l.foldl ParameterSnaks.add n) := by
      induction l with
      | nil => exact fun h => h
      | cons u l ih => exact fun h => ih (h.add u)
    exact hrest (((hm.add t).add s).trans (add_comm n t s))
  | trans _ _ ih ih' => exact (ih hm).trans (ih' (refl n))

lemma ofSnaks {l k : List Snak} (h : l.Perm k) : (ofSnaks l).Permuted (ParameterSnaks.ofSnaks k) :=
  foldl_add h (refl _)

end Permuted

end ParameterSnaks

def Constraint.withParameters (c : Constraint) (m : ParameterSnaks) : Constraint := { c with parameters := m }

namespace Parameters

variable {config : Config} {c : Constraint} {m : ParameterSnaks}

lemma unitsOf_eq (p : PropertyId) (l : List ItemChoice) :
    unitsOf p l = if .someValue ∈ l then .error (.valueless p) else .ok ⟨l.filterMap (·.item?), .noValue ∈ l⟩ := by
  induction l with
  | nil => rfl
  | cons choice l ih =>
    cases choice with
    | item id =>
      rw [unitsOf, ih]
      by_cases hsome : ItemChoice.someValue ∈ l
      · simp [hsome, Except.map]
      · simp [hsome, Except.map, ItemChoice.item?]
    | someValue => simp [unitsOf]
    | noValue =>
      rw [unitsOf, ih]
      by_cases hsome : ItemChoice.someValue ∈ l
      · simp [hsome, Except.map]
      · simp [hsome, Except.map, ItemChoice.item?]

section Readers

variable (h : c.parameters.Permuted m)

include h

lemma single_alike (p : PropertyId) : Alike Eq (single c p) (single (c.withParameters m) p) := by
  have hp : (c.parameters.of p).Perm (m.of p) := h.of p
  unfold single
  rw [show (c.withParameters m).parameters = m from rfl]
  revert hp
  generalize c.parameters.of p = l
  generalize m.of p = k
  intro hp
  match l, k, hp.length_eq with
  | [], [], _ => exact .error _ _
  | [s], [t], _ =>
    obtain rfl := List.singleton_perm_singleton.mp hp
    exact .ok rfl
  | _ :: _ :: _, _ :: _ :: _, _ => exact .error _ _

lemma read_alike {α : Type} (p : PropertyId) (f : Snak → Read α) :
    Alike Eq (single c p >>= f) (single (c.withParameters m) p >>= f) :=
  (single_alike h p).bind_eq fun s => .refl (fun _ => rfl) (f s)

lemma relation_alike : Alike Eq (relation config c) (relation config (c.withParameters m)) := read_alike h _ _

lemma property_alike : Alike Eq (property config c) (property config (c.withParameters m)) := read_alike h _ _

lemma format_alike : Alike Eq (format config c) (format config (c.withParameters m)) := read_alike h _ _

lemma optional_alike {α : Type} {r : α → α → Prop} {p : PropertyId} {x y : Read α} {a : α} (hr : r a a)
    (hxy : Alike r x y) :
    Alike r (if c.parameters.contains p then x else .ok a)
      (if (c.withParameters m).parameters.contains p then y else .ok a) := by
  have hp : (c.withParameters m).parameters.contains p = c.parameters.contains p := h.contains p
  rw [hp]
  split
  · exact hxy
  · exact .ok hr

lemma pageNamespace_alike : Alike Eq (pageNamespace config c) (pageNamespace config (c.withParameters m)) :=
  optional_alike h rfl (read_alike h _ _)

lemma weight_alike : Alike Eq (weight config c) (weight config (c.withParameters m)) := by
  apply optional_alike h rfl
  exact read_alike h _ _

lemma classes_alike : Alike List.Perm (classes config c) (classes config (c.withParameters m)) := by
  have hp : (c.parameters.of config.parameters.classes).Perm (m.of config.parameters.classes) := h.of _
  unfold classes
  rw [show (c.withParameters m).parameters = m from rfl]
  dsimp only
  revert hp
  generalize c.parameters.of config.parameters.classes = l
  generalize m.of config.parameters.classes = k
  intro hp
  match l, k, hp.length_eq with
  | [], [], _ => exact .error _ _
  | _ :: _, _ :: _, _ => exact .mapM _ hp

lemma properties_alike : Alike List.Perm (properties config c) (properties config (c.withParameters m)) :=
  .mapM _ ((h.of _).filter _)

lemma someProperties_alike :
    Alike List.Perm (someProperties config c) (someProperties config (c.withParameters m)) := by
  apply (properties_alike h).bind
  intro l k hp
  match l, k, hp.length_eq with
  | [], [], _ => exact .error _ _
  | _ :: _, _ :: _, _ => exact .ok hp

lemma items_alike : Alike List.Perm (items config c) (items config (c.withParameters m)) := .mapM _ (h.of _)

lemma someItems_alike : Alike List.Perm (someItems config c) (someItems config (c.withParameters m)) := by
  have hempty : ((c.withParameters m).parameters.of config.parameters.item).isEmpty =
      (c.parameters.of config.parameters.item).isEmpty := (h.of _).isEmpty_eq.symm
  unfold someItems
  rw [hempty]
  split
  · exact .error _ _
  · exact items_alike h

lemma exceptions_alike : Alike List.Perm (exceptions config c) (exceptions config (c.withParameters m)) :=
  .mapM _ (h.of _)

lemma separators_alike : Alike List.Perm (separators config c) (separators config (c.withParameters m)) :=
  .mapM _ (h.of _)

lemma scope_alike : Alike (Option.Rel List.Perm) (scope config c) (scope config (c.withParameters m)) := by
  apply optional_alike h .none
  exact (Alike.mapM _ (h.of _)).bind fun _ _ hp => .ok (.some hp)

lemma propertyScope_alike : Alike List.Perm (propertyScope config c) (propertyScope config (c.withParameters m)) := by
  have hp : (c.withParameters m).parameters.contains config.parameters.propertyScope =
      c.parameters.contains config.parameters.propertyScope := h.contains _
  simp only [propertyScope, hp]
  split
  · exact .mapM _ (h.of _)
  · exact .error _ _

lemma entityKinds_alike : Alike List.Perm (entityKinds config c) (entityKinds config (c.withParameters m)) :=
  (someItems_alike h).bind fun _ _ hp => .mapM _ hp

lemma units_alike : Alike (fun u v => u.units.Perm v.units ∧ u.unitless = v.unitless) (units config c)
    (units config (c.withParameters m)) := by
  apply (someItems_alike h).bind
  intro l k hp
  rw [unitsOf_eq, unitsOf_eq]
  simp only [hp.mem_iff]
  split
  · exact .error _ _
  · exact .ok ⟨hp.filterMap _, rfl⟩

lemma range_alike (minimum maximum : PropertyId) (bound : PropertyId → Snak → Read (Option Bound)) :
    Alike Eq (range c minimum maximum bound) (range (c.withParameters m) minimum maximum bound) :=
  (single_alike h minimum).bind_eq fun _ => read_alike h maximum _

lemma difference_alike : Alike Eq (difference config c) (difference config (c.withParameters m)) :=
  (property_alike h).bind_eq fun _ => (range_alike h _ _ _).bind_eq fun _ => .refl (fun _ => rfl) _

end Readers

end Parameters

end EntityAudit
