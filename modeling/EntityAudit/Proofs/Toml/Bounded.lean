import EntityAudit.Toml.Reader
import Mathlib.Data.Option.Basic
import Mathlib.Data.Nat.Init

namespace EntityAudit

inductive Json.Bounded : Json → Prop
  | null : Bounded .null
  | bool (b : Bool) : Bounded (.bool b)
  | integer {n : Int} (h : n < 9223372036854775808) : Bounded (.integer n)
  | float (x : Float) : Bounded (.float x)
  | text (s : String) : Bounded (.text s)
  | array {items : List Json} (h : ∀ j ∈ items, Bounded j) : Bounded (.array items)
  | object {members : List (String × Json)} (h : ∀ m ∈ members, Bounded m.2) : Bounded (.object members)

namespace Toml

inductive Node.Bounded : Node → Prop
  | value {j : Json} (h : j.Bounded) : Bounded (.value j)
  | table {ms : List (String × Node)} (origin : Origin) (h : ∀ m ∈ ms, Bounded m.2) : Bounded (.table origin ms)
  | tables {l : List (List (String × Node))} (h : ∀ ms ∈ l, ∀ m ∈ ms, Bounded m.2) : Bounded (.tables l)

variable {cs r : List Char} {j : Json} {n : Node} {key : String}

lemma membersJson_eq (ms : Members) : membersJson ms = ms.map fun m => (m.1, m.2.toJson) := by
  induction ms with
  | nil => rw [membersJson, List.map_nil]
  | cons m ms ih => rw [membersJson, ih, List.map_cons]

lemma tablesJson_eq (l : List Members) : tablesJson l = l.map fun ms => .object (membersJson ms) := by
  induction l with
  | nil => rw [tablesJson, List.map_nil]
  | cons ms l ih => rw [tablesJson, ih, List.map_cons]

lemma Node.Bounded.toJson (h : n.Bounded) : n.toJson.Bounded := by
  induction h with
  | value h => exact h
  | table origin _ ih =>
    rw [Node.toJson, membersJson_eq]
    exact .object (List.forall_mem_map.mpr ih)
  | tables _ ih =>
    rw [Node.toJson, tablesJson_eq]
    refine .array (List.forall_mem_map.mpr fun ms hms => ?_)
    rw [membersJson_eq]
    exact .object (List.forall_mem_map.mpr (ih ms hms))

namespace Members

variable {ms ms' : Members} {path : List String}

def Bounded (ms : Members) : Prop := ∀ m ∈ ms, m.2.Bounded

lemma Bounded.find? (h : ms.Bounded) (hn : ms.find? key = some n) : n.Bounded := by
  obtain ⟨m, hm, rfl⟩ := Option.map_eq_some_iff.mp hn
  exact h m (List.mem_of_find?_eq_some hm)

lemma Bounded.replace (h : ms.Bounded) (hn : n.Bounded) (key : String) : (ms.replace key n).Bounded := by
  refine List.forall_mem_map.mpr fun m hm => ?_
  split
  · exact hn
  · exact h m hm

lemma Bounded.concat (h : ms.Bounded) (hn : n.Bounded) (key : String) : Bounded (ms ++ [(key, n)]) := by
  intro m hm
  rcases List.mem_append.mp hm with hm | hm
  · exact h m hm
  · rw [List.mem_singleton.mp hm]
    exact hn

def Keeps (change : Members → Option Members) : Prop := ∀ ms ms', ms.Bounded → change ms = some ms' → ms'.Bounded

lemma Keeps.changeLast? {change : Members → Option Members} (hchange : Keeps change) {l l' : List Members}
    (h : ∀ ms ∈ l, ms.Bounded) (heq : Members.changeLast? change l = some l') : ∀ ms ∈ l', ms.Bounded := by
  obtain ⟨last, hlast, heq⟩ := Option.bind_eq_some_iff.mp heq
  obtain ⟨last', hlast', heq⟩ := Option.bind_eq_some_iff.mp heq
  obtain rfl := Option.some.inj heq
  intro ms hms
  rcases List.mem_append.mp hms with hms | hms
  · exact h ms (List.dropLast_subset l hms)
  · rw [List.mem_singleton.mp hms]
    exact hchange last last' (h last (List.mem_of_getLast? hlast)) hlast'

lemma keeps_define? (hj : j.Bounded) (key : String) (path : List String) : Keeps (define? · key j path) := by
  induction path with
  | nil =>
    intro ms ms' h heq
    obtain ⟨-, heq⟩ := Option.ite_none_left_eq_some.mp heq
    obtain rfl := Option.some.inj heq
    exact h.concat (.value hj) key
  | cons k path ih =>
    intro ms ms' h heq
    dsimp only at heq
    unfold define? at heq
    split at heq
    · obtain ⟨sub, hsub, heq⟩ := Option.bind_eq_some_iff.mp heq
      obtain rfl := Option.some.inj heq
      exact h.concat (.table _ (ih [] sub nofun hsub)) k
    · rename_i origin sub hfind
      obtain ⟨-, heq⟩ := Option.ite_none_left_eq_some.mp heq
      obtain ⟨sub', hsub, heq⟩ := Option.bind_eq_some_iff.mp heq
      obtain rfl := Option.some.inj heq
      cases h.find? hfind with
      | table _ hold => exact h.replace (.table _ (ih sub sub' hold hsub)) k
    · rename_i l hfind
      obtain ⟨-, heq⟩ := Option.ite_none_left_eq_some.mp heq
      obtain ⟨l', hl, heq⟩ := Option.bind_eq_some_iff.mp heq
      obtain rfl := Option.some.inj heq
      cases h.find? hfind with
      | tables hold => exact h.replace (.tables (ih.changeLast? hold hl)) k
    · cases heq

lemma keeps_within? {change : Members → Option Members} (hchange : Keeps change) (path : List String) :
    Keeps (within? change · path) := by
  induction path with
  | nil => exact hchange
  | cons k path ih =>
    intro ms ms' h heq
    dsimp only at heq
    unfold within? at heq
    split at heq
    · rename_i origin sub hfind
      obtain ⟨sub', hsub, heq⟩ := Option.bind_eq_some_iff.mp heq
      obtain rfl := Option.some.inj heq
      cases h.find? hfind with
      | table _ hold => exact h.replace (.table _ (ih sub sub' hold hsub)) k
    · rename_i l hfind
      obtain ⟨l', hl, heq⟩ := Option.bind_eq_some_iff.mp heq
      obtain rfl := Option.some.inj heq
      cases h.find? hfind with
      | tables hold => exact h.replace (.tables (ih.changeLast? hold hl)) k
    · cases heq

def KeepsNode (change : Option Node → Option Node) : Prop :=
  ∀ o n, (∀ m ∈ o, m.Bounded) → change o = some n → n.Bounded

lemma keepsNode_openTable? : KeepsNode openTable? := by
  intro o n h heq
  unfold openTable? at heq
  split at heq
  · obtain rfl := Option.some.inj heq
    exact .table _ nofun
  · obtain rfl := Option.some.inj heq
    cases h _ rfl with
    | table _ hsub => exact .table _ hsub
  · cases heq

lemma keepsNode_addTable? : KeepsNode addTable? := by
  intro o n h heq
  unfold addTable? at heq
  split at heq
  · obtain rfl := Option.some.inj heq
    exact .tables (List.forall_mem_singleton.mpr nofun)
  · obtain rfl := Option.some.inj heq
    cases h _ rfl with
    | tables hl => exact .tables (List.forall_mem_append.mpr ⟨hl, List.forall_mem_singleton.mpr nofun⟩)
  · cases heq

lemma keeps_open? {change : Option Node → Option Node} (hchange : KeepsNode change) (path : List String) :
    Keeps (open? change · path) := by
  induction path with
  | nil => exact fun _ _ _ heq => by cases heq
  | cons k path ih =>
    intro ms ms' h heq
    dsimp only at heq
    cases path with
    | nil =>
      rw [open?] at heq
      split at heq
      · obtain ⟨n, hn, heq⟩ := Option.bind_eq_some_iff.mp heq
        obtain rfl := Option.some.inj heq
        exact h.concat (hchange none n nofun hn) k
      · rename_i old hfind
        obtain ⟨n, hn, heq⟩ := Option.bind_eq_some_iff.mp heq
        obtain rfl := Option.some.inj heq
        refine h.replace (hchange (some old) n ?_ hn) k
        rintro m ⟨⟩
        exact h.find? hfind
    | cons k' path =>
      rw [open?.eq_3 _ _ _ _ (List.cons_ne_nil k' path)] at heq
      split at heq
      · obtain ⟨sub, hsub, heq⟩ := Option.bind_eq_some_iff.mp heq
        obtain rfl := Option.some.inj heq
        exact h.concat (.table _ (ih [] sub nofun hsub)) k
      · rename_i origin sub hfind
        obtain ⟨sub', hsub, heq⟩ := Option.bind_eq_some_iff.mp heq
        obtain rfl := Option.some.inj heq
        cases h.find? hfind with
        | table _ hold => exact h.replace (.table _ (ih sub sub' hold hsub)) k
      · rename_i l hfind
        obtain ⟨l', hl, heq⟩ := Option.bind_eq_some_iff.mp heq
        obtain rfl := Option.some.inj heq
        cases h.find? hfind with
        | tables hold => exact h.replace (.tables (ih.changeLast? hold hl)) k
      · cases heq

lemma keeps_add? (hj : j.Bounded) (keys : List String) : Keeps (add? · keys j) := by
  intro ms ms' h heq
  obtain ⟨key, -, heq⟩ := Option.bind_eq_some_iff.mp heq
  exact keeps_define? hj key keys.dropLast ms ms' h heq

end Members

/-! ## Values -/

def ReadsBounded (value? : ValueReader) : Prop := ∀ cs j r, value? cs = some (j, r) → j.Bounded

lemma bounded_integerIn? {i : Int} (h : integerIn? i = some j) : j.Bounded := by
  obtain ⟨hrange, h⟩ := Option.ite_none_right_eq_some.mp h
  obtain rfl := Option.some.inj h
  exact .integer hrange.2

lemma readsBounded_integer? : ReadsBounded integer? := by
  have hbased (base : Nat) : ReadsBounded (based? base) := by
    intro cs j r h
    obtain ⟨⟨digits, rest⟩, -, h⟩ := Option.bind_eq_some_iff.mp h
    obtain ⟨i, hi, h⟩ := Option.bind_eq_some_iff.mp h
    obtain ⟨rfl, -⟩ := Prod.mk.inj (Option.some.inj h)
    exact bounded_integerIn? hi
  intro cs j r h
  unfold integer? at h
  split at h
  · exact hbased 16 _ j r h
  · exact hbased 8 _ j r h
  · exact hbased 2 _ j r h
  · obtain ⟨⟨digits, rest⟩, -, h⟩ := Option.bind_eq_some_iff.mp h
    obtain ⟨i, hi, h⟩ := Option.bind_eq_some_iff.mp h
    obtain ⟨rfl, -⟩ := Prod.mk.inj (Option.some.inj h)
    exact bounded_integerIn? hi

lemma readsBounded_float? : ReadsBounded float? := by
  intro cs j r h
  rcases (Option.orElse_eq_some _ _ _).mp h with h | ⟨-, h⟩
  · obtain ⟨⟨digits, rest⟩, -, h⟩ := Option.bind_eq_some_iff.mp h
    obtain ⟨⟨tail, rest⟩, -, h⟩ := Option.bind_eq_some_iff.mp h
    obtain ⟨x, -, h⟩ := Option.bind_eq_some_iff.mp h
    obtain ⟨-, h⟩ := Option.ite_none_left_eq_some.mp h
    obtain ⟨rfl, -⟩ := Prod.mk.inj (Option.some.inj h)
    exact .float x
  · obtain ⟨-, h⟩ := Option.ite_none_right_eq_some.mp h
    obtain ⟨x, -, h⟩ := Option.bind_eq_some_iff.mp h
    obtain ⟨rfl, -⟩ := Prod.mk.inj (Option.some.inj h)
    exact .float x

lemma readsBounded_moment? : ReadsBounded moment? := by
  intro cs j r h
  unfold moment? at h
  split at h
  · obtain ⟨rfl, -⟩ := Prod.mk.inj (Option.some.inj h)
    exact .object nofun
  · obtain ⟨s, -, h⟩ := Option.map_eq_some_iff.mp h
    obtain ⟨rfl, -⟩ := Prod.mk.inj h
    exact .object nofun

lemma readsBounded_scalar? : ReadsBounded scalar? := by
  have htext (cs : List Char) (j : Json) (r : List Char)
      (h : (Quoted.text? cs).map (fun read => (Json.text (String.ofList read.1), read.2)) = some (j, r)) : j.Bounded := by
    obtain ⟨⟨t, s⟩, -, h⟩ := Option.map_eq_some_iff.mp h
    obtain ⟨rfl, -⟩ := Prod.mk.inj h
    exact .text _
  intro cs j r h
  unfold scalar? at h
  split at h
  · exact htext _ j r h
  · exact htext _ j r h
  · obtain ⟨rfl, -⟩ := Prod.mk.inj (Option.some.inj h)
    exact .bool true
  · obtain ⟨rfl, -⟩ := Prod.mk.inj (Option.some.inj h)
    exact .bool false
  · rcases (Option.orElse_eq_some _ _ _).mp h with h | ⟨-, h⟩
    · exact readsBounded_moment? _ j r h
    · rcases (Option.orElse_eq_some _ _ _).mp h with h | ⟨-, h⟩
      · exact readsBounded_float? _ j r h
      · exact readsBounded_integer? _ j r h

section Containers

variable {value? : ValueReader} (hvalue : ReadsBounded value?)

include hvalue

lemma bounded_items? {items : List Json} (h : items? value? cs = some (items, r)) : ∀ j ∈ items, j.Bounded := by
  induction hn : cs.length using Nat.strong_induction_on generalizing cs items r with
  | _ n ih =>
    rw [items?] at h
    split at h
    · obtain ⟨rfl, -⟩ := Prod.mk.inj (Option.some.inj h)
      exact fun _ hj => absurd hj List.not_mem_nil
    · obtain ⟨⟨j, rest⟩, hj, h⟩ := Option.bind_eq_some_iff.mp h
      have hfirst := hvalue _ _ _ hj
      dsimp only at h
      split at h
      · obtain ⟨rfl, -⟩ := Prod.mk.inj (Option.some.inj h)
        exact List.forall_mem_singleton.mpr hfirst
      · rename_i s _
        split at h
        · rename_i hlength
          obtain ⟨⟨js, rest⟩, hjs, h⟩ := Option.bind_eq_some_iff.mp h
          obtain ⟨rfl, -⟩ := Prod.mk.inj (Option.some.inj h)
          exact List.forall_mem_cons.mpr ⟨hfirst, ih s.length (hn ▸ hlength) hjs rfl⟩
        · cases h
      · cases h

lemma bounded_pair? {keys : List String} (h : pair? value? cs = some ((keys, j), r)) : j.Bounded := by
  obtain ⟨⟨key, s⟩, -, h⟩ := Option.bind_eq_some_iff.mp h
  dsimp only at h
  split at h
  · obtain ⟨⟨j', rest⟩, hj, h⟩ := Option.bind_eq_some_iff.mp h
    obtain ⟨hpair, -⟩ := Prod.mk.inj (Option.some.inj h)
    obtain ⟨-, rfl⟩ := Prod.mk.inj hpair
    exact hvalue _ _ _ hj
  · cases h

lemma bounded_pairs? {ms ms' : Members} (hms : ms.Bounded) (h : pairs? value? ms cs = some (ms', r)) : ms'.Bounded := by
  induction hn : cs.length using Nat.strong_induction_on generalizing cs ms with
  | _ n ih =>
    rw [pairs?] at h
    obtain ⟨⟨⟨keys, j⟩, rest⟩, hpair, h⟩ := Option.bind_eq_some_iff.mp h
    obtain ⟨ms₁, hadd, h⟩ := Option.bind_eq_some_iff.mp h
    have hms₁ := Members.keeps_add? (bounded_pair? hvalue hpair) keys _ _ hms hadd
    split at h
    · obtain ⟨rfl, -⟩ := Prod.mk.inj (Option.some.inj h)
      exact hms₁
    · rename_i s _
      split at h
      · rename_i hlength
        exact ih s.length (hn ▸ hlength) hms₁ h rfl
      · cases h
    · cases h

end Containers

lemma Members.Bounded.toJson {ms : Members} (h : ms.Bounded) : Json.Bounded (.object (membersJson ms)) := by
  rw [membersJson_eq]
  exact .object (List.forall_mem_map.mpr fun m hm => (h m hm).toJson)

lemma readsBounded_valueWithin? (depth : Nat) : ReadsBounded (valueWithin? depth) := by
  induction depth with
  | zero => exact readsBounded_scalar?
  | succ depth ih =>
    intro cs j r h
    unfold valueWithin? at h
    split at h
    · obtain ⟨⟨items, rest⟩, hitems, h⟩ := Option.map_eq_some_iff.mp h
      obtain ⟨rfl, -⟩ := Prod.mk.inj h
      exact .array (bounded_items? ih hitems)
    · unfold inlineTable? at h
      split at h
      · obtain ⟨rfl, -⟩ := Prod.mk.inj (Option.some.inj h)
        exact .object fun _ hm => absurd hm List.not_mem_nil
      · obtain ⟨⟨ms, rest⟩, hms, h⟩ := Option.map_eq_some_iff.mp h
        obtain ⟨rfl, -⟩ := Prod.mk.inj h
        exact (bounded_pairs? ih (List.forall_mem_nil _) hms).toJson
    · exact readsBounded_scalar? _ _ _ h

/-! ## Documents -/

namespace Document

lemma bounded_line? {d d' : Document} (h : d.members.Bounded) (hline : d.line? cs = some (d', r)) :
    d'.members.Bounded := by
  unfold line? at hline
  split at hline
  · obtain ⟨⟨key, rest⟩, -, hline⟩ := Option.bind_eq_some_iff.mp hline
    obtain ⟨rest, -, hline⟩ := Option.bind_eq_some_iff.mp hline
    obtain ⟨ms, hms, hline⟩ := Option.bind_eq_some_iff.mp hline
    obtain ⟨rfl, -⟩ := Prod.mk.inj (Option.some.inj hline)
    exact Members.keeps_open? Members.keepsNode_addTable? key _ _ h hms
  · obtain ⟨⟨key, rest⟩, -, hline⟩ := Option.bind_eq_some_iff.mp hline
    obtain ⟨ms, hms, hline⟩ := Option.bind_eq_some_iff.mp hline
    obtain ⟨rfl, -⟩ := Prod.mk.inj (Option.some.inj hline)
    exact Members.keeps_open? Members.keepsNode_openTable? key _ _ h hms
  · obtain ⟨⟨⟨key, j⟩, rest⟩, hpair, hline⟩ := Option.bind_eq_some_iff.mp hline
    obtain ⟨ms, hms, hline⟩ := Option.bind_eq_some_iff.mp hline
    obtain ⟨rfl, -⟩ := Prod.mk.inj (Option.some.inj hline)
    have hj := bounded_pair? (readsBounded_valueWithin? _) hpair
    exact Members.keeps_within? (Members.keeps_add? hj key) d.header _ _ h hms

lemma bounded_run? {d d' : Document} (h : d.members.Bounded) (hrun : d.run? cs = some d') : d'.members.Bounded := by
  induction hn : cs.length using Nat.strong_induction_on generalizing cs d with
  | _ n ih =>
    rw [run?] at hrun
    split at hrun
    · obtain rfl := Option.some.inj hrun
      exact h
    · obtain ⟨⟨d₁, s⟩, hline, hrun⟩ := Option.bind_eq_some_iff.mp hrun
      obtain ⟨rest, -, hrun⟩ := Option.bind_eq_some_iff.mp hrun
      split at hrun
      · rename_i hlength
        exact ih rest.length (hn ▸ hlength) (bounded_line? h hline) hrun rfl
      · cases hrun

end Document

theorem bounded_read? {s : String} (h : read? s = some j) : j.Bounded := by
  obtain ⟨d, hd, rfl⟩ := Option.map_eq_some_iff.mp h
  have hempty : Members.Bounded ({} : Document).members := List.forall_mem_nil _
  exact (Document.bounded_run? hempty hd).toJson

end Toml

end EntityAudit
