import EntityAudit.Proofs.Rule.Foresight
import EntityAudit.Proofs.Rule.Opposite

/-!
Rules that ask services. A rule puts its questions one after the other until one of them is answered with yes. A
failure ends the questions, and it is told apart from a no and from a service that is missing.
-/

namespace EntityAudit

inductive Question where
  | hasType (id : EntityId) (classes : List ItemId) (instance_ : Bool)
  | sameStatement (id : EntityId) (statement : Statement)
  | sameQualifier (id : EntityId) (snak : Snak)
  | sameReference (id : EntityId) (snak : Snak)
  | page (title : String)

namespace Services

variable {s : Services} {q : Question} {l : List Question} {reply : Option (Except QueryError Bool)}

def reply? (s : Services) : Question → Option (Except QueryError Bool)
  | .hasType id classes instance_ => s.graph.map fun g => (g.hasType id classes instance_).map (·.value)
  | .sameStatement id statement => s.graph.map fun g => (g.sameStatement id statement).map (·.value.isEmpty)
  | .sameQualifier id snak => s.graph.map fun g => (g.sameQualifier id snak).map (·.value.isEmpty)
  | .sameReference id snak => s.graph.map fun g => (g.sameReference id snak).map (·.value.isEmpty)
  | .page title => s.pages.map fun pages => pages title

/-- One of the questions has the reply, and those before it are answered with no. -/
def Reaches (s : Services) (questions : List Question) (reply : Option (Except QueryError Bool)) : Prop :=
  ∃ before q after, questions = before ++ q :: after ∧ (∀ b ∈ before, s.reply? b = some (.ok false)) ∧
    s.reply? q = reply

lemma not_reaches_nil : ¬ s.Reaches [] reply := by
  rintro ⟨before, q, after, h, -⟩
  exact List.append_ne_nil_of_right_ne_nil before (List.cons_ne_nil q after) h.symm

lemma reaches_cons_iff :
    s.Reaches (q :: l) reply ↔ s.reply? q = reply ∨ s.reply? q = some (.ok false) ∧ s.Reaches l reply := by
  constructor
  · rintro ⟨before, q', after, h, hbefore, hreply⟩
    cases before with
    | nil =>
      obtain ⟨rfl, rfl⟩ := List.cons.inj h
      exact .inl hreply
    | cons b before =>
      obtain ⟨rfl, rfl⟩ := List.cons.inj h
      obtain ⟨hno, hbefore⟩ := List.forall_mem_cons.mp hbefore
      exact .inr ⟨hno, before, q', after, rfl, hbefore, hreply⟩
  · rintro (hreply | ⟨hno, before, q', after, rfl, hbefore, hreply⟩)
    · exact ⟨[], q, l, rfl, List.forall_mem_nil _, hreply⟩
    · exact ⟨q :: before, q', after, rfl, List.forall_mem_cons.mpr ⟨hno, hbefore⟩, hreply⟩

end Services

namespace Verdict

variable {s : Services} {v : Verdict} {q : Question} {l : List Question}

def Tells (v : Verdict) : Option (Except QueryError Bool) → Prop
  | none => v.status = .todo
  | some (.ok true) => v.status = .compliance
  | some (.ok false) => v.status = .violation
  | some (.error e) => v.status = .violation ∧ v.message = some (.queryFailed e)

lemma tells_of (b : Bool) (m : Message) : (of b m).Tells (some (.ok b)) := by
  cases b with
  | true => exact rfl
  | false => exact rfl

structure Reports (v : Verdict) (s : Services) (questions : List Question) : Prop where
  complies_iff : v.status = .compliance ↔ s.Reaches questions (some (.ok true))
  failed : ∀ e, s.Reaches questions (some (.error e)) → v.status = .violation ∧ v.message = some (.queryFailed e)
  missing : s.Reaches questions none → v.status = .todo

namespace Reports

lemma congr {w : Verdict} (h : v.Reports s l) (hstatus : w.status = v.status) (hmessage : w.message = v.message) :
    w.Reports s l where
  complies_iff := hstatus ▸ h.complies_iff
  failed e hreaches := hstatus ▸ hmessage ▸ h.failed e hreaches
  missing hreaches := hstatus ▸ h.missing hreaches

lemma nil (h : v.status = .violation) : v.Reports s [] where
  complies_iff := iff_of_false (h ▸ Status.noConfusion) Services.not_reaches_nil
  failed _ hreaches := absurd hreaches Services.not_reaches_nil
  missing hreaches := absurd hreaches Services.not_reaches_nil

lemma cons_of_no (hq : s.reply? q = some (.ok false)) (h : v.Reports s l) : v.Reports s (q :: l) := by
  have hreaches (reply : Option (Except QueryError Bool)) (hreply : reply ≠ some (.ok false)) :
      s.Reaches (q :: l) reply ↔ s.Reaches l reply := by
    simp [Services.reaches_cons_iff, hq, hreply.symm]
  constructor
  · rw [hreaches _ (by simp)]
    exact h.complies_iff
  · intro e
    rw [hreaches _ (by simp)]
    exact h.failed e
  · rw [hreaches _ (by simp)]
    exact h.missing

lemma of_reply {reply : Option (Except QueryError Bool)} (hq : s.reply? q = reply)
    (hreply : reply ≠ some (.ok false)) (h : v.Tells reply) : v.Reports s (q :: l) := by
  have hreaches (other : Option (Except QueryError Bool)) : s.Reaches (q :: l) other ↔ reply = other := by
    simp [Services.reaches_cons_iff, hq, hreply]
  constructor
  · rw [hreaches]
    match reply with
    | none => exact iff_of_false (fun hv => Status.noConfusion (h.symm.trans hv)) nofun
    | some (.ok true) => exact iff_of_true h rfl
    | some (.ok false) => exact absurd rfl hreply
    | some (.error e) => exact iff_of_false (fun hv => Status.noConfusion (h.1.symm.trans hv)) nofun
  · intro e he
    rwa [(hreaches _).mp he] at h
  · intro hnone
    rwa [(hreaches _).mp hnone] at h

lemma single (h : v.Tells (s.reply? q)) : v.Reports s [q] := by
  by_cases hno : s.reply? q = some (.ok false)
  · rw [hno] at h
    exact (nil h).cons_of_no hno
  · exact of_reply rfl hno h

end Reports

end Verdict

namespace Membership

variable {s : Services} {graph : GraphQuery} {id : EntityId} {classes : List ItemId} {outside : Message}

def verdict (outside : Message) : Membership → Verdict
  | known answer => (Verdict.of answer.value outside).withMetadata answer.metadata
  | unavailable => .todo
  | failed e => .violation (.queryFailed e)

lemma ask_reports (h : s.graph = some graph) (known : Metadata) (l : List Bool) :
    ((ask classes graph id known l).verdict outside).Reports s (l.map (.hasType id classes ·)) := by
  induction l generalizing known with
  | nil => exact .nil rfl
  | cons instance_ rest ih =>
    have hreply : s.reply? (.hasType id classes instance_) =
        some ((graph.hasType id classes instance_).map (·.value)) := congrArg (Option.map _) h
    rw [List.map_cons, ask]
    cases hanswer : graph.hasType id classes instance_ with
    | error e =>
      rw [hanswer, Except.map] at hreply
      exact .of_reply hreply (by simp) ⟨rfl, rfl⟩
    | ok answer =>
      rw [hanswer, Except.map] at hreply
      obtain ⟨value, metadata⟩ := answer
      cases value with
      | true => exact .of_reply hreply (by simp) rfl
      | false => exact (ih _).cons_of_no hreply

lemma questions_ne_nil (relation : Relation) : questions relation ≠ [] := by
  cases relation <;> exact List.cons_ne_nil _ _

lemma check_reports (find? : EntityId → Option Entity) (e : Entity) (relation : Relation) (outside : Message)
    (h : s.config.useGraphQueryForTypes = true) :
    ((check s.config find? classes s.graph e relation).verdict outside).Reports s
      ((questions relation).map (.hasType e.id classes ·)) := by
  rw [check.eq_def, if_pos h]
  cases hgraph : s.graph with
  | none =>
    obtain ⟨first, rest, hquestions⟩ := List.exists_cons_of_ne_nil (questions_ne_nil relation)
    rw [hquestions]
    exact .of_reply (congrArg (Option.map _) hgraph) (by simp) rfl
  | some graph => exact ask_reports hgraph _ _

end Membership

inductive Inquiry where
  | uniqueValue
  | commonsLink
  | typeOf
  | valueType
  deriving DecidableEq

namespace Inquiry

def rule : Inquiry → Rule
  | uniqueValue => Rule.uniqueValue
  | commonsLink => Rule.commonsLink
  | typeOf => Rule.typeOf
  | valueType => Rule.valueType

def Lacks (s : Services) : Inquiry → Prop
  | commonsLink => s.pages = none
  | _ => s.graph = none

def aboutValue (context : Context) : Question :=
  match context.place with
  | .mainSnak => .sameStatement context.entity.id context.statement
  | .qualifier snak => .sameQualifier context.entity.id snak
  | .reference _ snak => .sameReference context.entity.id snak

def aboutClasses (config : Config) (c : Constraint) (id : EntityId) : List Question :=
  match Parameters.classes config c, Parameters.relation config c with
  | .ok classes, .ok relation => (Membership.questions relation).map (.hasType id classes ·)
  | _, _ => []

/-- What a rule would like to know, one question after the other. It has no question where the snak alone decides. -/
def questions (s : Services) (context : Context) (c : Constraint) : Inquiry → List Question
  | uniqueValue => if context.snak.value?.isSome then [aboutValue context] else []
  | commonsLink =>
    match context.snak.value?, Parameters.pageNamespace s.config c with
    | some (.string text), .ok pageNamespace =>
      if PageTitle.isWellFormed text then [.page (PageTitle.full pageNamespace text)] else []
    | _, _ => []
  | typeOf => aboutClasses s.config c context.entity.id
  | valueType =>
    match context.snak.entity? with
    | some target =>
      match s.find? target with
      | some e => aboutClasses s.config c e.id
      | none => []
    | none => []

variable {s : Services} {context : Context} {c : Constraint}

lemma reply?_of_mem_aboutClasses {id : EntityId} {q : Question} (h : s.graph = none)
    (hq : q ∈ aboutClasses s.config c id) : s.reply? q = none := by
  unfold aboutClasses at hq
  split at hq
  · obtain ⟨instance_, -, rfl⟩ := List.mem_map.mp hq
    exact congrArg (Option.map _) h
  · cases hq

lemma reply?_aboutValue : s.reply? (aboutValue context) =
    s.graph.map fun graph => (Rule.sameValue graph context).map (·.value.isEmpty) := by
  unfold aboutValue Rule.sameValue
  cases context.place <;> rfl

lemma reply?_of_missing {i : Inquiry} (h : i.Lacks s) {q : Question}
    (hq : q ∈ i.questions s context c) : s.reply? q = none := by
  cases i with
  | uniqueValue =>
    simp only [questions, List.mem_ite_nil_right, List.mem_singleton] at hq
    rw [hq.2, reply?_aboutValue, h]
    rfl
  | commonsLink =>
    simp only [questions] at hq
    split at hq
    · obtain ⟨-, hq⟩ := List.mem_ite_nil_right.mp hq
      obtain rfl := List.mem_singleton.mp hq
      exact congrArg (Option.map _) h
    · cases hq
  | typeOf => exact reply?_of_mem_aboutClasses h hq
  | valueType =>
    simp only [questions] at hq
    split at hq
    · split at hq
      · exact reply?_of_mem_aboutClasses h hq
      · cases hq
    · cases hq

lemma requireEntity_cases (context : Context) :
    (∃ target, context.snak.entity? = some target ∧ context.requireEntity = .ok target) ∨
      context.snak.entity? = none ∧ ∃ m, context.requireEntity = .error (.violation m) := by
  rw [Snak.entity?, Context.requireEntity, Context.requireValue]
  cases context.snak.value? with
  | none => exact .inr ⟨rfl, _, rfl⟩
  | some v =>
    cases v with
    | entity id => exact .inl ⟨id, rfl, rfl⟩
    | _ => exact .inr ⟨rfl, _, rfl⟩

lemma uniqueValue_reports (hvalue : context.snak.value?.isSome = true) :
    ∃ v, Rule.uniqueValue.verdict s context c = .ok v ∧ v.Reports s (uniqueValue.questions s context c) := by
  refine ⟨_, rfl, ?_⟩
  rw [questions, if_pos hvalue]
  apply Verdict.Reports.single
  rw [reply?_aboutValue]
  cases s.graph with
  | none => exact rfl
  | some graph =>
    simp only [Option.map_some, Option.isNone_eq_false_iff.mpr hvalue]
    cases Rule.sameValue graph context with
    | error e => exact ⟨rfl, rfl⟩
    | ok others => exact Verdict.tells_of _ _

lemma commonsLink_reports (h : Rule.commonsLink.problems s.config c = []) :
    ∃ v, Rule.commonsLink.verdict s context c = .ok v ∧ v.Reports s (commonsLink.questions s context c) := by
  obtain ⟨pageNamespace, hread⟩ := Rule.problem_eq_nil_iff.mp h
  simp only [Rule.commonsLink, hread, questions, Context.requireValue]
  refine ⟨_, rfl, ?_⟩
  cases context.snak.value? with
  | none => exact .nil rfl
  | some v =>
    cases v with
    | string text =>
      simp only [bind, Except.bind, pure, Except.pure]
      cases PageTitle.isWellFormed text with
      | false => exact .nil rfl
      | true =>
        apply Verdict.Reports.single
        simp only [Services.reply?]
        cases s.pages with
        | none => exact rfl
        | some pages =>
          simp only [Option.map_some]
          cases pages (PageTitle.full pageNamespace text) with
          | error e => exact ⟨rfl, rfl⟩
          | ok found =>
            cases found with
            | true => exact rfl
            | false => exact rfl
    | _ => exact .nil rfl

lemma belongs_reports {classes : List ItemId} {relation : Relation} (e : Entity) (key : String)
    (hgraph : s.config.useGraphQueryForTypes = true) (hclasses : Parameters.classes s.config c = .ok classes)
    (hrelation : Parameters.relation s.config c = .ok relation) :
    (Rule.belongs s e classes relation key).Reports s (aboutClasses s.config c e.id) := by
  rw [aboutClasses, hclasses, hrelation]
  apply (Membership.check_reports s.find? e relation (.outsideClasses key e.id relation (classes.map (·.toString)))
    hgraph).congr
  · unfold Rule.belongs
    cases Membership.check s.config s.find? classes s.graph e relation <;> rfl
  · unfold Rule.belongs
    cases Membership.check s.config s.find? classes s.graph e relation <;> rfl

lemma classProblems_eq_nil (h : Rule.classProblems s.config c = []) :
    ∃ classes relation, Parameters.classes s.config c = .ok classes ∧ Parameters.relation s.config c = .ok relation := by
  obtain ⟨hclasses, hrelation⟩ := List.append_eq_nil_iff.mp h
  obtain ⟨classes, hclasses⟩ := Rule.problem_eq_nil_iff.mp hclasses
  obtain ⟨relation, hrelation⟩ := Rule.problem_eq_nil_iff.mp hrelation
  exact ⟨classes, relation, hclasses, hrelation⟩

lemma typeOf_reports (h : Rule.classProblems s.config c = []) (hgraph : s.config.useGraphQueryForTypes = true) :
    ∃ v, Rule.typeOf.verdict s context c = .ok v ∧ v.Reports s (typeOf.questions s context c) := by
  obtain ⟨classes, relation, hclasses, hrelation⟩ := classProblems_eq_nil h
  simp only [Rule.typeOf, hclasses, hrelation]
  exact ⟨_, rfl, belongs_reports context.entity "type" hgraph hclasses hrelation⟩

lemma valueType_reports (h : Rule.classProblems s.config c = []) (hgraph : s.config.useGraphQueryForTypes = true) :
    ∃ v, Rule.valueType.verdict s context c = .ok v ∧ v.Reports s (valueType.questions s context c) := by
  obtain ⟨classes, relation, hclasses, hrelation⟩ := classProblems_eq_nil h
  rw [Rule.verdict_valueType]
  simp only [hclasses, hrelation]
  refine ⟨_, rfl, ?_⟩
  simp only [questions]
  rcases requireEntity_cases context with ⟨target, hentity, hrequire⟩ | ⟨hentity, m, hrequire⟩
  · rw [hentity, Rule.onTarget_of_ok hrequire]
    dsimp only
    cases s.find? target with
    | none => exact .nil rfl
    | some e => exact (belongs_reports e "value-type" hgraph hclasses hrelation).congr rfl rfl
  · rw [hentity, Rule.onTarget_of_error hrequire]
    exact .nil rfl

lemma reports {i : Inquiry} (hvalid : i.rule.problems s.config c = [])
    (hgraph : i = typeOf ∨ i = valueType → s.config.useGraphQueryForTypes = true)
    (hvalue : i = uniqueValue → context.snak.value?.isSome = true) :
    ∃ v, i.rule.verdict s context c = .ok v ∧ v.Reports s (i.questions s context c) := by
  cases i with
  | uniqueValue => exact uniqueValue_reports (hvalue rfl)
  | commonsLink => exact commonsLink_reports hvalid
  | typeOf => exact typeOf_reports hvalid (hgraph (.inl rfl))
  | valueType => exact valueType_reports hvalid (hgraph (.inr rfl))

lemma reaches_none {i : Inquiry} (h : i.Lacks s) (hasks : i.questions s context c ≠ []) :
    s.Reaches (i.questions s context c) none := by
  obtain ⟨first, rest, hquestions⟩ := List.exists_cons_of_ne_nil hasks
  have hfirst : first ∈ i.questions s context c := hquestions ▸ List.mem_cons_self
  rw [hquestions, Services.reaches_cons_iff]
  exact .inl (reply?_of_missing h hfirst)

/-- Whether a rule that asks is complied with depends on a yes to one of its questions after nothing but noes. A
failure before that is reported as one, and where a service is missing nothing is decided. -/
theorem verdict_of_replies (i : Inquiry) (s : Services) (context : Context) (c : Constraint)
    (hvalid : i.rule.problems s.config c = [])
    (hgraph : i = typeOf ∨ i = valueType → s.config.useGraphQueryForTypes = true) :
    ∃ v, i.rule.verdict s context c = .ok v ∧
      (v.status = .compliance ↔ s.Reaches (i.questions s context c) (some (.ok true)) ∨
        i = uniqueValue ∧ context.snak.value? = none ∧ s.graph.isSome) ∧
      (∀ e, s.Reaches (i.questions s context c) (some (.error e)) →
        v.status = .violation ∧ ∃ text, v.message = some ⟨"query-error", text⟩) ∧
      (i.questions s context c ≠ [] → i.Lacks s → v.status = .todo) := by
  by_cases hvalueless : i = uniqueValue ∧ context.snak.value? = none
  · obtain ⟨rfl, hnone⟩ := hvalueless
    have hquestions : uniqueValue.questions s context c = [] := by simp [questions, hnone]
    refine ⟨_, rfl, ?_, fun e he => ?_, fun hasks => absurd hquestions hasks⟩
    · rw [hquestions, hnone]
      cases s.graph with
      | none => simp [Services.not_reaches_nil, Verdict.todo]
      | some graph => simp [Verdict.compliance]
    · rw [hquestions] at he
      exact absurd he Services.not_reaches_nil
  · have hvalue : i = uniqueValue → context.snak.value?.isSome = true :=
      fun hi => Option.isSome_iff_ne_none.mpr fun hnone => hvalueless ⟨hi, hnone⟩
    obtain ⟨v, hv, hreports⟩ := reports hvalid hgraph hvalue
    refine ⟨v, hv, ?_, fun e he => ?_, fun hasks hlacks => hreports.missing (reaches_none hlacks hasks)⟩
    · rw [hreports.complies_iff, or_iff_left]
      exact fun h => hvalueless ⟨h.1, h.2.1⟩
    · obtain ⟨hstatus, hmessage⟩ := hreports.failed e he
      exact ⟨hstatus, _, hmessage⟩

end Inquiry

namespace Sample

def personhood : Constraint where
  id := "P26$4"
  property := spouse
  type := ⟨21503250⟩
  parameters := .ofSnaks [.value ⟨2308⟩ (.entity (.item ⟨5⟩)), .value ⟨2309⟩ (.entity (.item ⟨30208840⟩))]

def asking (subclass : Except QueryError (Answer Bool)) : Services where
  config := { useGraphQueryForTypes := true }
  find? _ := none
  graph := some { GraphQuery.failing (.timeout 100) with
    hasType := fun _ _ instance_ => if instance_ then .ok { value := false } else subclass }
  now := ⟨0, 0⟩

end Sample

namespace Inquiry

open Sample

theorem replies_of_personhood :
    (∃ v, Rule.typeOf.verdict (asking (.ok { value := true })) context personhood = .ok v ∧
        v.status = .compliance) ∧
      ∃ v, Rule.typeOf.verdict (asking (.error (.timeout 100))) context personhood = .ok v ∧
        v.status = .violation ∧ ∃ text, v.message = some ⟨"query-error", text⟩ := by
  have hreaches (subclass : Except QueryError (Answer Bool)) :
      (asking subclass).Reaches (typeOf.questions (asking subclass) context personhood)
        (some (subclass.map (·.value))) := by
    refine ⟨[.hasType context.entity.id [⟨5⟩] true], .hasType context.entity.id [⟨5⟩] false, [], rfl, ?_, rfl⟩
    exact List.forall_mem_singleton.mpr rfl
  obtain ⟨v, hv, hcomplies, -⟩ :=
    verdict_of_replies typeOf (asking (.ok { value := true })) context personhood rfl fun _ => rfl
  obtain ⟨w, hw, -, hfails, -⟩ :=
    verdict_of_replies typeOf (asking (.error (.timeout 100))) context personhood rfl fun _ => rfl
  exact ⟨⟨v, hv, hcomplies.mpr (.inl (hreaches _))⟩, w, hw, hfails _ (hreaches _)⟩

end Inquiry

end EntityAudit
