import EntityAudit.Proofs.Reordered.Parameters
import EntityAudit.Proofs.Rule.Foresight
import EntityAudit.Rule.Format

/-!
What the parameters have to be like, said of the snaks that are given for each alone. A parameter can be read
exactly if its demand is met, and an error of the reading names it.
-/

namespace EntityAudit

namespace Snak

def IsItem (s : Snak) : Prop := ∃ id, s.entity? = some (.item id)

def IsItemAmong (items : List ItemId) (s : Snak) : Prop := ∃ id ∈ items, s.entity? = some (.item id)

def IsProperty (s : Snak) : Prop := ∃ p, s.entity? = some (.property p)

end Snak

structure Demand where
  parameter : PropertyId
  required : Bool := false
  single : Bool := false
  ignores : Snak → Bool := fun _ => false
  admits : Snak → Prop

namespace Demand

variable (f : Demand) (c d : Constraint)

def given : List Snak := (c.parameters.of f.parameter).filter (!f.ignores ·)

structure Met : Prop where
  required : f.required = true → f.given c ≠ []
  single : f.single = true → c.parameters.contains f.parameter = true → (f.given c).length = 1
  admits : ∀ s ∈ f.given c, f.admits s

variable {c d} {p : PropertyId} {ignores : Snak → Bool} {admits : Snak → Prop}

lemma met_congr (h : d.parameters.get? f.parameter = c.parameters.get? f.parameter) : f.Met d ↔ f.Met c := by
  have hgiven : f.given d = f.given c := by rw [given, given, ParameterSnaks.of, ParameterSnaks.of, h]
  have hcontains : d.parameters.contains f.parameter = c.parameters.contains f.parameter := by
    rw [SortedMap.contains, SortedMap.contains, h]
  constructor
  · rintro ⟨hrequired, hsingle, hadmits⟩
    exact ⟨hgiven ▸ hrequired, hcontains ▸ hgiven ▸ hsingle, hgiven ▸ hadmits⟩
  · rintro ⟨hrequired, hsingle, hadmits⟩
    exact ⟨hgiven ▸ hrequired, hcontains ▸ hgiven ▸ hsingle, hgiven ▸ hadmits⟩

lemma met_list_iff : Met ⟨p, false, false, ignores, admits⟩ c ↔
    ∀ s ∈ (c.parameters.of p).filter (!ignores ·), admits s :=
  ⟨fun h => h.admits, fun h => ⟨nofun, nofun, h⟩⟩

lemma met_someList_iff : Met ⟨p, true, false, ignores, admits⟩ c ↔
    (c.parameters.of p).filter (!ignores ·) ≠ [] ∧ ∀ s ∈ (c.parameters.of p).filter (!ignores ·), admits s :=
  ⟨fun h => ⟨h.required rfl, h.admits⟩, fun h => ⟨fun _ => h.1, nofun, h.2⟩⟩

lemma contains_of_ne_nil (h : c.parameters.of p ≠ []) : c.parameters.contains p = true := by
  rw [SortedMap.contains, Option.isSome_iff_ne_none]
  exact fun hnone => h (congrArg (·.getD []) hnone)

lemma met_optional_iff : Met ⟨p, false, true, fun _ => false, admits⟩ c ↔
    (c.parameters.contains p = true → ∃ s, c.parameters.of p = [s] ∧ admits s) := by
  have hgiven : given ⟨p, false, true, fun _ => false, admits⟩ c = c.parameters.of p := by simp [given]
  constructor
  · rintro ⟨-, hsingle, hadmits⟩ hcontains
    rw [hgiven] at hsingle hadmits
    obtain ⟨s, hs⟩ := List.length_eq_one_iff.mp (hsingle rfl hcontains)
    exact ⟨s, hs, hadmits s (hs ▸ List.mem_cons_self)⟩
  · intro h
    refine ⟨nofun, fun _ hcontains => ?_, fun s hs => ?_⟩
    · obtain ⟨s, hs, -⟩ := h hcontains
      rw [hgiven, hs]
      rfl
    · rw [hgiven] at hs
      obtain ⟨t, ht, hadmits⟩ := h (contains_of_ne_nil (List.ne_nil_of_mem hs))
      rw [ht, List.mem_singleton] at hs
      exact hs ▸ hadmits

lemma met_single_iff : Met ⟨p, true, true, fun _ => false, admits⟩ c ↔
    ∃ s, c.parameters.of p = [s] ∧ admits s := by
  have hgiven : given ⟨p, true, true, fun _ => false, admits⟩ c = c.parameters.of p := by simp [given]
  constructor
  · rintro ⟨hrequired, hsingle, hadmits⟩
    rw [hgiven] at hrequired hsingle hadmits
    obtain ⟨s, hs⟩ := List.length_eq_one_iff.mp (hsingle rfl (contains_of_ne_nil (hrequired rfl)))
    exact ⟨s, hs, hadmits s (hs ▸ List.mem_cons_self)⟩
  · rintro ⟨s, hs, hadmits⟩
    refine ⟨fun _ => ?_, fun _ _ => ?_, fun t ht => ?_⟩
    · rw [hgiven, hs]
      exact List.cons_ne_nil _ _
    · rw [hgiven, hs]
      rfl
    · rw [hgiven, hs, List.mem_singleton] at ht
      exact ht ▸ hadmits

end Demand

namespace Parameters

section MapM

variable {ε α β : Type} {f : α → Except ε β} {l : List α} {k : List β}

lemma length_of_mapM (h : l.mapM f = .ok k) : k.length = l.length := by
  induction l generalizing k with
  | nil =>
    cases h
    rfl
  | cons a l ih =>
    rw [List.mapM_cons] at h
    obtain ⟨b, -, h⟩ := bind_eq_ok_iff.mp h
    obtain ⟨k, hk, h⟩ := bind_eq_ok_iff.mp h
    cases h
    rw [List.length_cons, List.length_cons, ih hk]

lemma mem_of_mapM (h : l.mapM f = .ok k) {b : β} : b ∈ k ↔ ∃ a ∈ l, f a = .ok b := by
  induction l generalizing k with
  | nil =>
    cases h
    simp
  | cons a l ih =>
    rw [List.mapM_cons] at h
    obtain ⟨b', hb', h⟩ := bind_eq_ok_iff.mp h
    obtain ⟨k, hk, h⟩ := bind_eq_ok_iff.mp h
    cases h
    simp [ih hk, hb', eq_comm]

end MapM

variable {α β : Type} {p : PropertyId} {P Q : Prop} {c : Constraint}

def Decides (p : PropertyId) (P : Prop) (x : Read α) : Prop :=
  Ends (fun e => e.parameter? = some p ∧ ¬ P) (fun _ => P) x

namespace Decides

lemma congr {x : Read α} (h : Decides p P x) (hPQ : P ↔ Q) : Decides p Q x := by
  rwa [propext hPQ] at h

lemma bind {x : Read α} {g : α → Read β} (hx : Decides p P x) (hg : ∀ a, x = .ok a → Decides p Q (g a))
    (hQP : Q → P) : Decides p Q (x >>= g) := by
  cases x with
  | error e => exact ⟨hx.1, fun hQ => hx.2 (hQP hQ)⟩
  | ok a => exact hg a rfl

lemma map {x : Read α} (hx : Decides p P x) (g : α → β) : Decides p P (x >>= fun a => .ok (g a)) := by
  cases x with
  | error e => exact hx
  | ok a => exact hx

lemma mapM {l : List α} {g : α → Read β} {admits : α → Prop} (h : ∀ a, Decides p (admits a) (g a)) :
    Decides p (∀ a ∈ l, admits a) (l.mapM g) := by
  induction l with
  | nil => exact fun a ha => absurd ha List.not_mem_nil
  | cons a l ih =>
    rw [List.mapM_cons]
    refine (h a).bind (fun b hb => ?_) fun hall => hall a List.mem_cons_self
    have ha : admits a := (h a).of_ok hb
    refine (ih.map fun bs => b :: bs).congr ?_
    simp [ha]

end Decides

lemma single_decides : Decides p (∃ s, c.parameters.of p = [s]) (single c p) := by
  unfold single
  split
  · rename_i h
    exact ⟨rfl, by simp [h]⟩
  · rename_i s h
    exact ⟨s, h⟩
  · rename_i hnil hone
    exact ⟨rfl, fun ⟨s, hs⟩ => hone s hs⟩

lemma of_single {s : Snak} (h : single c p = .ok s) : c.parameters.of p = [s] := by
  unfold single at h
  split at h
  · cases h
  · rename_i t ht
    rw [ht, Except.ok.inj h]
  · cases h

lemma only_decides {g : Snak → Read α} {admits : Snak → Prop} (h : ∀ s, Decides p (admits s) (g s)) :
    Decides p (∃ s, c.parameters.of p = [s] ∧ admits s) (single c p >>= g) := by
  refine single_decides.bind (fun s hs => (h s).congr ?_) fun ⟨s, hs, _⟩ => ⟨s, hs⟩
  simp [of_single hs]

lemma optional_decides {x : Read α} {a : α} (h : Decides p P x) :
    Decides p (c.parameters.contains p = true → P) (if c.parameters.contains p then x else .ok a) := by
  split
  · rename_i hcontains
    exact h.congr (by simp [hcontains])
  · rename_i hcontains
    exact fun h => absurd h hcontains

lemma ofKind_decides (kind : String) (o : Option α) : Decides p (∃ a, o = some a) (ofKind p kind o) := by
  cases o with
  | none => exact ⟨rfl, by simp⟩
  | some a => exact ⟨a, rfl⟩

lemma value_decides {s : Snak} (kind : String) (k : Value → Option α) :
    Decides p (∃ a, s.value?.bind k = some a) (valueOf p s >>= fun v => ofKind p kind (k v)) := by
  unfold valueOf
  cases s.value? with
  | none => exact ⟨rfl, by simp⟩
  | some v =>
    exact ofKind_decides kind (k v)

lemma value_eq_ok_iff {s : Snak} {kind : String} {k : Value → Option α} {a : α} :
    (valueOf p s >>= fun v => ofKind p kind (k v)) = .ok a ↔ s.value?.bind k = some a := by
  unfold valueOf
  cases s.value? with
  | none => exact iff_of_false nofun nofun
  | some v =>
    change ofKind p kind (k v) = .ok a ↔ k v = some a
    cases k v with
    | none => exact iff_of_false nofun nofun
    | some b => simp [ofKind]

lemma item?_bind_eq_some_iff {s : Snak} {id : ItemId} :
    (s.value?.bind fun v => v.entity?.bind EntityId.item?) = some id ↔ s.entity? = some (.item id) := by
  rw [← Option.bind_assoc]
  change s.entity?.bind EntityId.item? = some id ↔ _
  cases s.entity? with
  | none => simp
  | some e => cases e <;> simp [EntityId.item?]

lemma itemOf_eq_ok_iff {s : Snak} {id : ItemId} : itemOf p s = .ok id ↔ s.entity? = some (.item id) :=
  value_eq_ok_iff.trans item?_bind_eq_some_iff

lemma entityOf_decides {s : Snak} : Decides p (∃ id, s.entity? = some id) (entityOf p s) := value_decides _ _

lemma itemOf_decides {s : Snak} : Decides p s.IsItem (itemOf p s) := by
  exact (value_decides _ _).congr (exists_congr fun id => item?_bind_eq_some_iff)

lemma propertyOf_decides {s : Snak} : Decides p s.IsProperty (propertyOf p s) := by
  refine (value_decides _ _).congr (exists_congr fun q => ?_)
  rw [← Option.bind_assoc]
  change s.entity?.bind EntityId.property? = some q ↔ _
  cases s.entity? with
  | none => simp
  | some e => cases e <;> simp [EntityId.property?]

lemma choose_decides (table : List (ItemId × α)) (id : ItemId) :
    Decides p (id ∈ table.map (·.1)) (choose p table id) := by
  unfold choose
  cases hfind : table.find? (·.1 = id) with
  | none =>
    refine ⟨rfl, fun hid => ?_⟩
    obtain ⟨e, he, rfl⟩ := List.mem_map.mp hid
    simpa using List.find?_eq_none.mp hfind e he
  | some e => exact List.mem_map.mpr ⟨e, List.mem_of_find?_eq_some hfind, by simpa using List.find?_some hfind⟩

lemma choice_decides (s : Snak) (table : List (ItemId × α)) :
    Decides p (s.IsItemAmong (table.map (·.1))) (itemOf p s >>= choose p table) := by
  refine itemOf_decides.bind (fun id hid => (choose_decides table id).congr ?_) fun ⟨id, _, hs⟩ => ⟨id, hs⟩
  have hs : s.entity? = some (.item id) := itemOf_eq_ok_iff.mp hid
  simp [Snak.IsItemAmong, hs]

end Parameters

namespace Demand

variable (config : Config)

def classes : Demand :=
  { parameter := config.parameters.classes, required := true, admits := Snak.IsItem }

def relation : Demand where
  parameter := config.parameters.relation
  required := true
  single := true
  admits := Snak.IsItemAmong [config.items.instanceOfRelation, config.items.subclassOfRelation,
    config.items.instanceOrSubclassOfRelation]

def property : Demand :=
  { parameter := config.parameters.property, required := true, single := true, admits := Snak.IsProperty }

def properties (required : Bool) : Demand where
  parameter := config.parameters.property
  required
  ignores := fun s => s.state = "novalue"
  admits := Snak.IsProperty

def items (required : Bool) : Demand where
  parameter := config.parameters.item
  required
  admits := fun s => s.value? = none ∨ s.IsItem

def units : Demand where
  parameter := config.parameters.item
  required := true
  admits := fun s => s.state = "novalue" ∨ s.IsItem

def entityKinds : Demand where
  parameter := config.parameters.item
  required := true
  admits := Snak.IsItemAmong [config.items.entityTypeItem, config.items.entityTypeProperty]

def separators : Demand :=
  { parameter := config.parameters.separator, admits := Snak.IsProperty }

def exceptions : Demand :=
  { parameter := config.parameters.exception, admits := fun s => ∃ id, s.entity? = some id }

def weight : Demand where
  parameter := config.parameters.constraintStatus
  single := true
  admits := Snak.IsItemAmong [config.items.statusMandatory, config.items.statusSuggestion]

def pageNamespace : Demand where
  parameter := config.parameters.pageNamespace
  single := true
  admits := fun s => ∃ t, s.value? = some (.string t)

def format : Demand where
  parameter := config.parameters.format
  required := true
  single := true
  admits := fun s => ∃ t, s.value? = some (.string t) ∧ (Pattern.read? (Parameters.anchored t)).isSome = true

def scopeRoles : List (ItemId × Role) := [
  (config.items.scopeMainValue, .statement),
  (config.items.scopeQualifiers, .qualifier),
  (config.items.scopeReferences, .reference)]

def scope (support : Role → Support) : Demand where
  parameter := config.parameters.constraintScope
  admits := fun s => ∃ id role, s.entity? = some (.item id) ∧
    ((scopeRoles config).find? (·.1 = id)).map (·.2) = some role ∧ support role ≠ .notSupported

def propertyScope : Demand where
  parameter := config.parameters.propertyScope
  required := true
  admits := Snak.IsItemAmong [config.items.propertyScopeMainValue, config.items.propertyScopeQualifiers,
    config.items.propertyScopeReferences]

end Demand

namespace Parameters

variable {config : Config} {c : Constraint}

abbrev Reads (f : Demand) (c : Constraint) {α : Type} (x : Read α) : Prop := Decides f.parameter (f.Met c) x

section Lists

lemma classes_reads : Reads (.classes config) c (classes config c) := by
  refine Decides.congr ?_ Demand.met_someList_iff.symm
  simp only [classes, Bool.not_false, List.filter_true]
  cases c.parameters.of config.parameters.classes with
  | nil => exact ⟨rfl, fun h => h.1 rfl⟩
  | cons s l => exact (Decides.mapM fun _ => itemOf_decides).congr (by simp)

lemma properties_reads : Reads (.properties config false) c (properties config c) := by
  refine (Decides.mapM fun _ => propertyOf_decides).congr ?_
  simp [Demand.properties, Demand.met_list_iff]

lemma someProperties_reads : Reads (.properties config true) c (someProperties config c) := by
  refine properties_reads.bind (fun l hl => ?_) fun h => ⟨nofun, h.single, h.admits⟩
  have hmet : Demand.Met (.properties config false) c := properties_reads.of_ok hl
  have hlength : l.length = (Demand.given (.properties config true) c).length := by
    rw [length_of_mapM hl]
    simp [Demand.given, Demand.properties]
  cases l with
  | nil => exact ⟨rfl, fun h => h.required rfl (List.length_eq_zero_iff.mp hlength.symm)⟩
  | cons p l =>
    refine ⟨fun _ hnil => ?_, hmet.single, hmet.admits⟩
    rw [hnil] at hlength
    cases hlength

lemma ofSnak?_eq_item_iff {s : Snak} {id : ItemId} :
    ItemChoice.ofSnak? s = some (.item id) ↔ s.entity? = some (.item id) := by
  cases s with
  | someValue p => simp [ItemChoice.ofSnak?, Snak.entity?, Snak.value?]
  | noValue p => simp [ItemChoice.ofSnak?, Snak.entity?, Snak.value?]
  | value p v =>
    rw [ItemChoice.ofSnak?, show (Snak.value p v).entity? = v.entity? from rfl]
    split
    · rename_i h
      simp [h]
    · rename_i h
      exact iff_of_false (by simp) (h id)

lemma ofSnak?_eq_noValue_iff {s : Snak} : ItemChoice.ofSnak? s = some .noValue ↔ s.state = "novalue" := by
  cases s with
  | value p v =>
    refine iff_of_false ?_ (show "value" ≠ "novalue" by decide)
    simp only [ItemChoice.ofSnak?]
    split
    · exact nofun
    · exact nofun
  | someValue p => exact iff_of_false nofun (show "somevalue" ≠ "novalue" by decide)
  | noValue p => exact iff_of_true rfl rfl

lemma exists_choice_iff {s : Snak} :
    (∃ choice, ItemChoice.ofSnak? s = some choice) ↔ s.value? = none ∨ s.IsItem := by
  constructor
  · rintro ⟨choice, hchoice⟩
    cases choice with
    | item id => exact .inr ⟨id, ofSnak?_eq_item_iff.mp hchoice⟩
    | _ =>
      cases s with
      | value q v =>
        simp only [ItemChoice.ofSnak?] at hchoice
        split at hchoice
        · cases hchoice
        · cases hchoice
      | _ => exact .inl rfl
  · rintro (hnone | ⟨id, hid⟩)
    · cases s with
      | value => cases hnone
      | _ => exact ⟨_, rfl⟩
    · exact ⟨.item id, ofSnak?_eq_item_iff.mpr hid⟩

lemma items_reads : Reads (.items config false) c (items config c) := by
  refine (Decides.mapM fun _ => (ofKind_decides _ _).congr exists_choice_iff).congr ?_
  simp [Demand.items, Demand.met_list_iff]

lemma someItems_reads : Reads (.items config true) c (someItems config c) := by
  unfold someItems
  split
  · rename_i hempty
    have hnil : c.parameters.of config.parameters.item = [] := List.isEmpty_iff.mp hempty
    exact ⟨rfl, fun h => h.required rfl (by simp [Demand.given, Demand.items, hnil])⟩
  · rename_i hempty
    refine Decides.congr items_reads
      ⟨fun h => ⟨fun _ hnil => hempty ?_, h.single, h.admits⟩, fun h => ⟨nofun, h.single, h.admits⟩⟩
    simpa [Demand.given, Demand.items] using hnil

lemma mem_of_someItems {choices : List ItemChoice} (h : someItems config c = .ok choices) {choice : ItemChoice} :
    choice ∈ choices ↔ ∃ s ∈ c.parameters.of config.parameters.item, ItemChoice.ofSnak? s = some choice := by
  unfold someItems at h
  split at h
  · cases h
  · rw [mem_of_mapM h]
    refine exists_congr fun s => and_congr_right fun _ => ?_
    cases ItemChoice.ofSnak? s with
    | none => exact iff_of_false nofun nofun
    | some choice => simp [ofKind]

lemma ofItems_reads {α : Type} {g : List ItemChoice → Read α} {admits : Snak → Prop} (fits : ItemChoice → Prop)
    (hg : ∀ choices, Decides config.parameters.item (∀ choice ∈ choices, fits choice) (g choices))
    (hfits : ∀ s, admits s ↔ ∃ choice, ItemChoice.ofSnak? s = some choice ∧ fits choice) :
    Reads ⟨config.parameters.item, true, false, fun _ => false, admits⟩ c (someItems config c >>= g) := by
  have hadmits (s : Snak) (hs : admits s) : s.value? = none ∨ s.IsItem := by
    obtain ⟨choice, hchoice, -⟩ := (hfits s).mp hs
    exact exists_choice_iff.mp ⟨choice, hchoice⟩
  refine someItems_reads.bind (fun choices hchoices => (hg choices).congr ?_) fun h =>
    ⟨h.required, h.single, fun s hs => hadmits s (h.admits s hs)⟩
  have hmet : Demand.Met (.items config true) c := someItems_reads.of_ok hchoices
  have hgiven : Demand.given ⟨config.parameters.item, true, false, fun _ => false, admits⟩ c =
    c.parameters.of config.parameters.item := by simp [Demand.given]
  constructor
  · intro hall
    refine ⟨hmet.required, nofun, fun s hs => (hfits s).mpr ?_⟩
    obtain ⟨choice, hchoice⟩ := exists_choice_iff.mpr (hmet.admits s hs)
    exact ⟨choice, hchoice, hall choice ((mem_of_someItems hchoices).mpr ⟨s, hgiven ▸ hs, hchoice⟩)⟩
  · intro h choice hmem
    obtain ⟨s, hs, hchoice⟩ := (mem_of_someItems hchoices).mp hmem
    obtain ⟨choice', hchoice', hfit⟩ := (hfits s).mp (h.admits s (hgiven ▸ hs))
    rw [hchoice] at hchoice'
    exact Option.some.inj hchoice' ▸ hfit

lemma units_reads : Reads (.units config) c (units config c) := by
  refine ofItems_reads (· ≠ .someValue) (fun choices => ?_) fun s => ?_
  · rw [unitsOf_eq]
    split
    · rename_i hsome
      exact ⟨rfl, fun h => h _ hsome rfl⟩
    · rename_i hsome
      rintro choice hchoice rfl
      exact hsome hchoice
  · constructor
    · rintro (hno | ⟨id, hid⟩)
      · exact ⟨.noValue, ofSnak?_eq_noValue_iff.mpr hno, nofun⟩
      · exact ⟨.item id, ofSnak?_eq_item_iff.mpr hid, nofun⟩
    · rintro ⟨choice, hchoice, hfit⟩
      cases choice with
      | item id => exact .inr ⟨id, ofSnak?_eq_item_iff.mp hchoice⟩
      | someValue => exact absurd rfl hfit
      | noValue => exact .inl (ofSnak?_eq_noValue_iff.mp hchoice)

lemma entityKinds_reads : Reads (.entityKinds config) c (entityKinds config c) := by
  let kinds := [config.items.entityTypeItem, config.items.entityTypeProperty]
  refine ofItems_reads (fun choice => ∃ id ∈ kinds, choice = .item id) (fun choices => ?_) fun s => ?_
  · refine Decides.mapM fun choice => ?_
    cases choice with
    | item id => exact (choose_decides _ _).congr (by simp [kinds])
    | _ => exact ⟨rfl, by simp⟩
  · constructor
    · rintro ⟨id, hid, hs⟩
      exact ⟨.item id, ofSnak?_eq_item_iff.mpr hs, id, hid, rfl⟩
    · rintro ⟨choice, hchoice, id, hid, rfl⟩
      exact ⟨id, hid, ofSnak?_eq_item_iff.mp hchoice⟩

lemma separators_reads : Reads (.separators config) c (separators config c) := by
  refine (Decides.mapM fun _ => propertyOf_decides).congr ?_
  simp [Demand.separators, Demand.met_list_iff]

lemma exceptions_reads : Reads (.exceptions config) c (exceptions config c) := by
  refine (Decides.mapM fun _ => entityOf_decides).congr ?_
  simp [Demand.exceptions, Demand.met_list_iff]

end Lists

section Singles

lemma relation_reads : Reads (.relation config) c (relation config c) :=
  (only_decides fun s => choice_decides s _).congr Demand.met_single_iff.symm

lemma property_reads : Reads (.property config) c (property config c) :=
  (only_decides fun _ => propertyOf_decides).congr Demand.met_single_iff.symm

lemma weight_reads : Reads (.weight config) c (weight config c) := by
  refine Decides.congr ?_ Demand.met_optional_iff.symm
  let table := [
    (config.items.statusMandatory, Weight.mandatory),
    (config.items.statusSuggestion, Weight.suggestion)]
  have hread : Decides config.parameters.constraintStatus _
      (single c config.parameters.constraintStatus >>= fun s =>
        itemOf config.parameters.constraintStatus s >>= choose config.parameters.constraintStatus table) :=
    only_decides fun s => choice_decides s table
  have hsome := hread.map some
  simp only [bind_assoc] at hsome
  exact optional_decides hsome

lemma string?_bind_eq_some_iff {s : Snak} {t : String} :
    s.value?.bind Value.string? = some t ↔ s.value? = some (.string t) := by
  cases s.value? with
  | none => simp
  | some v => cases v <;> simp [Value.string?]

lemma stringOf_decides {s : Snak} : Decides p (∃ t, s.value? = some (.string t)) (stringOf p s) :=
  (value_decides _ _).congr (exists_congr fun _ => string?_bind_eq_some_iff)

lemma pageNamespace_reads : Reads (.pageNamespace config) c (pageNamespace config c) :=
  Decides.congr (optional_decides (only_decides fun _ => stringOf_decides)) Demand.met_optional_iff.symm

lemma regex_decides {t : String} :
    Decides config.parameters.format ((Pattern.read? (anchored t)).isSome = true) (regex .usual config t) := by
  have hcompile : Engine.usual.compile? (anchored t) = Pattern.read? (anchored t) := rfl
  unfold regex
  rw [hcompile]
  cases Pattern.read? (anchored t) with
  | none => exact ⟨rfl, Bool.noConfusion⟩
  | some r => rfl

lemma format_reads : Reads (.format config) c (format config c >>= regex .usual config) := by
  refine Decides.congr ?_ Demand.met_single_iff.symm
  simp only [format, bind_assoc]
  refine only_decides fun s => stringOf_decides.bind (fun t ht => regex_decides.congr ?_) ?_
  · have hs : s.value? = some (.string t) := string?_bind_eq_some_iff.mp (value_eq_ok_iff.mp ht)
    simp [hs]
  · exact fun ⟨t, hs, _⟩ => ⟨t, hs⟩

end Singles

section Roles

lemma choose_eq_ok_iff {α : Type} {p : PropertyId} {table : List (ItemId × α)} {id : ItemId} {a : α} :
    choose p table id = .ok a ↔ (table.find? (·.1 = id)).map (·.2) = some a := by
  unfold choose
  cases table.find? (·.1 = id) with
  | none => exact iff_of_false nofun nofun
  | some e => simp

lemma roles_decides (p : PropertyId) (table : List (ItemId × Role)) :
    Decides p (∀ s ∈ c.parameters.of p, s.IsItemAmong (table.map (·.1))) (roles c p table) :=
  Decides.mapM fun s => choice_decides s table

lemma mem_of_roles {p : PropertyId} {table : List (ItemId × Role)} {l : List Role} (h : roles c p table = .ok l)
    {role : Role} : role ∈ l ↔ ∃ s ∈ c.parameters.of p, ∃ id, s.entity? = some (.item id) ∧
      (table.find? (·.1 = id)).map (·.2) = some role := by
  rw [mem_of_mapM h]
  refine exists_congr fun s => and_congr_right fun _ => ?_
  rw [bind_eq_ok_iff]
  exact exists_congr fun id => and_congr itemOf_eq_ok_iff choose_eq_ok_iff

lemma propertyScope_reads (h : c.parameters.get? config.parameters.propertyScope ≠ some []) :
    Reads (.propertyScope config) c (propertyScope config c) := by
  refine Decides.congr ?_ Demand.met_someList_iff.symm
  simp only [propertyScope, Bool.not_false, List.filter_true]
  split
  · rename_i hcontains
    refine (roles_decides _ _).congr (iff_and_self.mpr fun _ hnil => h ?_)
    obtain ⟨l, hl⟩ := Option.isSome_iff_exists.mp hcontains
    have hof : c.parameters.of config.parameters.propertyScope = l := congrArg (·.getD []) hl
    rw [hl, ← hof, hnil]
  · rename_i hcontains
    exact ⟨rfl, fun hmet => hcontains (Demand.contains_of_ne_nil hmet.1)⟩

lemma propertyScope_of_empty (h : c.parameters.get? config.parameters.propertyScope = some []) :
    propertyScope config c = .ok [] := by
  have hcontains : c.parameters.contains config.parameters.propertyScope = true := by
    rw [SortedMap.contains, h]
    rfl
  have hof : c.parameters.of config.parameters.propertyScope = [] := congrArg (·.getD []) h
  rw [propertyScope, if_pos hcontains, roles, hof]
  rfl

end Roles

end Parameters

end EntityAudit
