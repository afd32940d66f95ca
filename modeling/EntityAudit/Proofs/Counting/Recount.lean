import EntityAudit.Proofs.Counting.Group

namespace EntityAudit

def recount (l : List Statement) (p : PropertyId) : Option Nat :=
  let n := l.countP fun s => !s.isDeprecated && s.property = p
  if n = 0 then none else some n

lemma get?_tally_ne_zero (l : List Statement) (p : PropertyId) : (tally l).get? p ≠ some 0 := by
  have hstep (k : List Statement) (m : SortedMap PropertyId Nat) (hm : m.get? p ≠ some 0) :
      (k.foldl (fun m s => m.alter s.property fun n => n.getD 0 + 1) m).get? p ≠ some 0 := by
    induction k generalizing m with
    | nil => exact hm
    | cons s k ih =>
      refine ih _ ?_
      rw [SortedMap.get?_alter]
      split
      · exact fun h => Nat.succ_ne_zero _ (Option.some.inj h)
      · exact hm
  refine hstep _ _ ?_
  rw [SortedMap.get?_empty]
  exact nofun

lemma get?_tally (l : List Statement) : (tally l).get? = recount l := by
  funext p
  have hcount := count_tally l p
  have hzero := get?_tally_ne_zero l p
  unfold recount
  rw [← hcount]
  cases h : (tally l).get? p with
  | none => rfl
  | some n =>
    have hn : n ≠ 0 := fun hn => hzero (by rw [h, hn])
    exact (if_neg hn).symm

namespace Entity

inductive Move where
  | new (id : EntityId) (l : List Statement)
  | decode (j : Json)
  | add (i : Nat) (s : Statement)
  | clone (i : Nat)
  | count (i : Nat)

/-- The entities after a move. A copy has the counts that its original kept. -/
def after (entities : List Entity) : Move → List Entity
  | .new id l => entities ++ [⟨id, .ofList l⟩]
  | .decode j => entities ++ (ofJson? j).toList
  | .add i s => entities.modify i (·.add s)
  | .clone i => entities ++ entities[i]?.toList
  | .count i => entities.modify i withCounts

structure Note where
  statements : List Statement
  isCounted : Bool := false

def note (e : Entity) : Note := ⟨e.statements.toList, e.statements.counted.isSome⟩

def Note.after (notes : List Note) : Move → List Note
  | .new _ l => notes ++ [{ statements := l }]
  | .decode j => notes ++ ((ofJson? j).map fun e => { statements := e.statements.toList }).toList
  | .add i s => notes.modify i fun n => { statements := n.statements ++ [s] }
  | .clone i => notes ++ notes[i]?.toList
  | .count i => notes.modify i fun n => { n with isCounted := true }

lemma note_of_ofJson? {j : Json} {e : Entity} (h : ofJson? j = some e) :
    e.note = { statements := e.statements.toList } := by
  unfold ofJson? at h
  simp only [Option.bind_eq_bind, Option.bind_eq_some_iff, Option.pure_def, Option.some.injEq] at h
  obtain ⟨_, -, _, -, _, -, rfl⟩ := h
  rfl

lemma map_note_modify {f : Entity → Entity} {g : Note → Note} (h : ∀ e, (f e).note = g e.note)
    (entities : List Entity) (i : Nat) : (entities.modify i f).map note = (entities.map note).modify i g := by
  refine List.ext_getElem? fun k => ?_
  rw [List.getElem?_map, List.getElem?_modify, List.getElem?_modify, List.getElem?_map]
  cases entities[k]? with
  | none => rfl
  | some e =>
    by_cases hik : i = k
    · simp [hik, h]
    · simp [hik]

lemma map_note_after (entities : List Entity) (m : Move) :
    (after entities m).map note = Note.after (entities.map note) m := by
  cases m with
  | new id l => exact List.map_append
  | decode j =>
    rw [after, Note.after, List.map_append]
    cases h : ofJson? j with
    | none => rfl
    | some e => rw [Option.toList_some, List.map_singleton, note_of_ofJson? h, Option.map_some, Option.toList_some]
  | add i s => exact map_note_modify (fun _ => rfl) entities i
  | clone i =>
    rw [after, Note.after, List.map_append, List.getElem?_map]
    cases entities[i]? with
    | none => rfl
    | some e => rfl
  | count i => exact map_note_modify (fun _ => rfl) entities i

lemma map_note_run (entities : List Entity) (ms : List Move) :
    (ms.foldl after entities).map note = ms.foldl Note.after (entities.map note) :=
  (List.foldl_hom (List.map note) fun entities m => (map_note_after entities m).symm).symm

lemma get?_propertyCounts (e : Entity) : e.statements.propertyCounts.get? = recount e.note.statements := by
  rw [StatementList.propertyCounts_eq, get?_tally]
  rfl

lemma get?_counted (e : Entity) :
    e.statements.counted.map (·.get?) = if e.note.isCounted then some (recount e.note.statements) else none := by
  unfold note
  cases h : e.statements.counted with
  | none => rfl
  | some c =>
    rw [Option.map_some, e.statements.counted_eq c h, get?_tally]
    rfl

/-- After every run, starting with any entities, each of them has the statements that the moves gave it, keeps a
recount of them if it was asked since its last statement was added and else nothing, and answers with a recount. -/
theorem counts_never_stale (entities : List Entity) (ms : List Move) :
    let notes := ms.foldl Note.after (entities.map note)
    (ms.foldl after entities).map note = notes ∧
      (ms.foldl after entities).map (fun e => e.statements.counted.map (·.get?)) =
        notes.map (fun n => if n.isCounted then some (recount n.statements) else none) ∧
      (ms.foldl after entities).map (fun e => e.statements.propertyCounts.get?) =
        notes.map fun n => recount n.statements := by
  intro notes
  have hnotes : (ms.foldl after entities).map note = notes := map_note_run entities ms
  refine ⟨hnotes, ?_, ?_⟩
  · rw [← hnotes, List.map_map]
    exact List.map_congr_left fun e _ => get?_counted e
  · rw [← hnotes, List.map_map]
    exact List.map_congr_left fun e _ => get?_propertyCounts e

example :
    let s := Sample.held .normal 2 []
    let entities := [Move.new (.item ⟨1⟩) [s], .count 0, .clone 0, .add 0 s].foldl after []
    entities.map (fun e => e.statements.counted.map (·.get? Sample.office)) = [none, some (some 1)] ∧
      entities.map (fun e => e.statements.propertyCounts.get? Sample.office) = [some 2, some 1] := by
  decide

end Entity

end EntityAudit
