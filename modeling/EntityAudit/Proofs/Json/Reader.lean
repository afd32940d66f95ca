import EntityAudit.Json.Reader
import EntityAudit.Proofs.Json.Token

namespace EntityAudit.Json

structure Spacing where
  line : Nat → List Char
  colon : List Char
  line_blank : ∀ n, ∀ c ∈ line n, Token.isBlank c = true
  colon_blank : ∀ c ∈ colon, Token.isBlank c = true

namespace Spacing

def tight : Spacing where
  line _ := []
  colon := []
  line_blank _ _ h := nomatch h
  colon_blank _ h := nomatch h

def indenting : Spacing where
  line n := (newline n).toList
  colon := [' ']
  line_blank n c h := by
    have hmem : c ∈ '\n' :: List.replicate (2 * n) ' ' := by simpa [newline] using h
    rcases List.mem_cons.mp hmem with rfl | hmem
    · rfl
    · obtain rfl := List.eq_of_mem_replicate hmem
      rfl
  colon_blank c h := by
    obtain rfl := List.mem_singleton.mp h
    rfl

end Spacing

mutual

def written (s : Spacing) (depth : Nat) : Json → List Char
  | array (j :: js) => '[' :: (s.line (depth + 1) ++ (writtenItems s (depth + 1) (j :: js) ++ (s.line depth ++ [']'])))
  | object (m :: ms) =>
    '\x7b' :: (s.line (depth + 1) ++ (writtenMembers s (depth + 1) (m :: ms) ++ (s.line depth ++ ['\x7d'])))
  | j => (scalarText j).toList

def writtenItems (s : Spacing) (depth : Nat) : List Json → List Char
  | [] => []
  | [j] => written s depth j
  | j :: js => written s depth j ++ ',' :: (s.line depth ++ writtenItems s depth js)

def writtenMembers (s : Spacing) (depth : Nat) : List (String × Json) → List Char
  | [] => []
  | [(name, j)] => (quote name).toList ++ ':' :: (s.colon ++ written s depth j)
  | (name, j) :: ms =>
    (quote name).toList ++ ':' :: (s.colon ++ (written s depth j ++ ',' :: (s.line depth ++ writtenMembers s depth ms)))

end

mutual

theorem toList_compact (depth : Nat) : (j : Json) → (compact j).toList = written .tight depth j
  | null => rfl
  | bool _ => rfl
  | integer _ => rfl
  | float _ => rfl
  | text _ => rfl
  | array [] => rfl
  | object [] => rfl
  | array (j :: js) => by
    simp [compact, written, toList_compactItems (depth + 1) (j :: js), Spacing.tight]
  | object (m :: ms) => by
    simp [compact, written, toList_compactMembers (depth + 1) (m :: ms), Spacing.tight]

theorem toList_compactItems (depth : Nat) :
    (l : List Json) → (compactItems l).toList = writtenItems .tight depth l
  | [] => rfl
  | [j] => by simp [compactItems, writtenItems, toList_compact depth j]
  | j :: k :: js => by
    simp [compactItems, writtenItems, toList_compact depth j, toList_compactItems depth (k :: js), Spacing.tight]

theorem toList_compactMembers (depth : Nat) :
    (l : List (String × Json)) → (compactMembers l).toList = writtenMembers .tight depth l
  | [] => rfl
  | [(name, j)] => by simp [compactMembers, writtenMembers, toList_compact depth j, Spacing.tight]
  | (name, j) :: m :: ms => by
    simp [compactMembers, writtenMembers, toList_compact depth j, toList_compactMembers depth (m :: ms),
      Spacing.tight]

end

mutual

theorem toList_indented (depth : Nat) : (j : Json) → (indented depth j).toList = written .indenting depth j
  | null => rfl
  | bool _ => rfl
  | integer _ => rfl
  | float _ => rfl
  | text _ => rfl
  | array [] => rfl
  | object [] => rfl
  | array (j :: js) => by
    simp [indented, written, toList_indentedItems (depth + 1) (j :: js), Spacing.indenting]
  | object (m :: ms) => by
    simp [indented, written, toList_indentedMembers (depth + 1) (m :: ms), Spacing.indenting]

theorem toList_indentedItems (depth : Nat) :
    (l : List Json) → (indentedItems depth l).toList = writtenItems .indenting depth l
  | [] => rfl
  | [j] => by simp [indentedItems, writtenItems, toList_indented depth j]
  | j :: k :: js => by
    simp [indentedItems, writtenItems, toList_indented depth j, toList_indentedItems depth (k :: js),
      Spacing.indenting]

theorem toList_indentedMembers (depth : Nat) :
    (l : List (String × Json)) → (indentedMembers depth l).toList = writtenMembers .indenting depth l
  | [] => rfl
  | [(name, j)] => by simp [indentedMembers, writtenMembers, toList_indented depth j, Spacing.indenting]
  | (name, j) :: m :: ms => by
    simp [indentedMembers, writtenMembers, toList_indented depth j, toList_indentedMembers depth (m :: ms),
      Spacing.indenting]

end

inductive Legible : Nat → Json → Prop
  | null {n : Nat} : Legible n null
  | bool {n : Nat} {b : Bool} : Legible n (bool b)
  | integer {n : Nat} {i : Int} : -9223372036854775808 ≤ i → i < UInt64.size → Legible n (integer i)
  | float {n : Nat} {x : Float} : ReadsBack x → Legible n (float x)
  | text {n : Nat} {s : String} : Legible n (text s)
  | array {n : Nat} {items : List Json} : (∀ j ∈ items, Legible n j) → Legible (n + 1) (array items)
  | object {n : Nat} {members : List (String × Json)} :
      (∀ m ∈ members, Legible n m.2) → Legible (n + 1) (object members)

lemma legible_list {α : Type} {encode : α → Json} {n : Nat} {l : List α} (h : ∀ a ∈ l, Legible n (encode a)) :
    Legible (n + 1) (array (l.map encode)) := by
  refine .array fun j hj => ?_
  obtain ⟨a, ha, rfl⟩ := List.mem_map.mp hj
  exact h a ha

lemma legible_record {n : Nat} {members : List (String × Option Json)}
    (h : ∀ m ∈ members, ∀ j ∈ m.2, Legible n j) : Legible (n + 1) (record members) := by
  refine .object fun m hm => ?_
  obtain ⟨⟨name, value⟩, hmem, hvalue⟩ := List.mem_filterMap.mp hm
  obtain ⟨j, hj, rfl⟩ := Option.map_eq_some_iff.mp hvalue
  exact h _ hmem j hj

section

variable {n : Nat} {j : Json} {p : Prop} [Decidable p]

lemma legible_some (h : Legible n j) : ∀ k ∈ some j, Legible n k := by
  rintro _ ⟨⟩
  exact h

lemma legible_map {α : Type} {encode : α → Json} {o : Option α} (h : ∀ a ∈ o, Legible n (encode a)) :
    ∀ k ∈ o.map encode, Legible n k := by
  intro k hk
  obtain ⟨a, ha, rfl⟩ := Option.map_eq_some_iff.mp hk
  exact h a ha

lemma legible_unless (h : Legible n j) : ∀ k ∈ (if p then none else some j), Legible n k := by
  split
  · nofun
  · exact legible_some h

lemma legible_when (h : Legible n j) : ∀ k ∈ (if p then some j else none), Legible n k := by
  split
  · exact legible_some h
  · nofun

end

lemma endsNumber_blank {b r : List Char} (hb : ∀ c ∈ b, Token.isBlank c = true) (hr : Token.EndsNumber r) :
    Token.EndsNumber (b ++ r) := by
  cases b with
  | nil => exact hr
  | cons c b =>
    intro d hd
    obtain rfl := Option.some.inj hd
    have hc := hb c List.mem_cons_self
    simp only [Token.isBlank, decide_eq_true_eq] at hc
    rcases hc with rfl | rfl | rfl | rfl
    all_goals rfl

lemma next?_blank {b : List Char} (hb : ∀ c ∈ b, Token.isBlank c = true) (r : List Char) :
    Token.next? (b ++ r) = Token.next? r := by
  induction b with
  | nil => rfl
  | cons c b ih =>
    obtain ⟨hc, hb⟩ := List.forall_mem_cons.mp hb
    rw [List.cons_append, Token.next?, if_pos hc, ih hb]

namespace Reader

def resume (r : List Char) : Progress → Option (Json × List Char)
  | .finished j => some (j, r)
  | .more s => s.run? r

variable {s : Reader} {cs r b : List Char} {t : Token} {outer : List Frame}

lemma run?_of_next? (h : Token.next? cs = some (t, r)) : s.run? cs = (s.accept? t).bind (resume r) := by
  rw [run?]
  split
  · rename_i hnone
    rw [h] at hnone
    cases hnone
  · rename_i t' r' hsome
    obtain ⟨rfl, rfl⟩ := Prod.mk.inj (Option.some.inj (h.symm.trans hsome))
    dsimp only
    split
    · rename_i hnone
      rw [hnone]
      rfl
    · rename_i j hj
      rw [hj]
      rfl
    · rename_i s' hs'
      rw [hs']
      rfl

lemma run?_of_none (h : Token.next? cs = none) : s.run? cs = none := by
  rw [run?]
  split
  · rfl
  · rename_i hsome
    rw [h] at hsome
    cases hsome

lemma run?_blank (hb : ∀ c ∈ b, Token.isBlank c = true) : s.run? (b ++ r) = s.run? r := by
  cases h : Token.next? r with
  | none => rw [run?_of_none h, run?_of_none ((next?_blank hb r).trans h)]
  | some e => rw [run?_of_next? h, run?_of_next? ((next?_blank hb r).trans h)]

def Opens (s : Reader) (outer : List Frame) : Prop :=
  ∀ t p, beginValue? outer t = some p → s.accept? t = some p

lemma opens_value (outer : List Frame) : (value outer).Opens outer := fun _ _ h => h

lemma opens_itemOrEnd (outer : List Frame) : (itemOrEnd outer).Opens (.items [] :: outer) := by
  intro t p h
  cases t with
  | closeArray => cases h
  | _ => exact h

def Takes (n : Nat) (sp : Spacing) (j : Json) : Prop :=
  ∀ (s : Reader) (depth : Nat) (outer : List Frame) (r : List Char), s.Opens outer →
    outer.length + n ≤ depthLimit → Token.EndsNumber r →
      s.run? (written sp depth j ++ r) = resume r (complete j outer)

variable {n depth : Nat} {sp : Spacing} {done : List Json} {items : List Json}

lemma run?_token {j : Json} (hs : s.Opens outer) (h : Token.next? cs = some (t, r))
    (ht : beginValue? outer t = some (complete j outer)) : s.run? cs = resume r (complete j outer) := by
  rw [run?_of_next? h, hs _ _ ht]
  rfl

lemma run?_items (hitems : ∀ j ∈ items, Takes n sp j) (hne : items ≠ []) (hs : s.Opens (.items done :: outer))
    (hlength : outer.length + (n + 1) ≤ depthLimit) (d : Nat) (hb : ∀ c ∈ b, Token.isBlank c = true) :
    s.run? (writtenItems sp d items ++ (b ++ ']' :: r)) =
      resume r (complete (.array (done.reverse ++ items)) outer) := by
  -- Of the first item the reader may still close the list, of the others not: `s` is any reader that takes it.
  induction items generalizing s done with
  | nil => exact absurd rfl hne
  | cons j js ih =>
    obtain ⟨hj, hjs⟩ := List.forall_mem_cons.mp hitems
    have hinner : (Frame.items done :: outer).length + n ≤ depthLimit := by
      rw [List.length_cons]
      omega
    cases js with
    | nil =>
      rw [writtenItems, hj s d _ _ hs hinner (endsNumber_blank hb (by rintro c ⟨⟩; rfl))]
      change run? (.afterItem (j :: done) outer) (b ++ ']' :: r) = _
      rw [run?_blank hb, run?_of_next? (t := .closeArray) (r := r) rfl]
      simp [accept?]
    | cons k js =>
      have hsplit : writtenItems sp d (j :: k :: js) =
          written sp d j ++ ',' :: (sp.line d ++ writtenItems sp d (k :: js)) := rfl
      rw [hsplit, List.append_assoc, hj s d _ _ hs hinner (by rintro c ⟨⟩; rfl)]
      change run? (.afterItem (j :: done) outer) (',' :: (_ ++ _ ++ _)) = _
      rw [run?_of_next? (t := .comma) (r := _ ++ _ ++ _) rfl]
      change run? (.value (.items (j :: done) :: outer)) (_ ++ _ ++ _) = _
      rw [List.append_assoc, run?_blank (sp.line_blank d), ih hjs (List.cons_ne_nil k js) (opens_value _)]
      simp

def OpensName (s : Reader) (done : List (String × Json)) (outer : List Frame) : Prop :=
  ∀ name, s.accept? (.text name) = some (.more (.beforeValue done name outer))

lemma opensName_nameOrEnd (outer : List Frame) : (nameOrEnd outer).OpensName [] outer := fun _ => rfl

lemma run?_members {members done : List (String × Json)} (hmembers : ∀ m ∈ members, Takes n sp m.2)
    (hne : members ≠ []) (hs : s.OpensName done outer) (hlength : outer.length + (n + 1) ≤ depthLimit)
    (d : Nat) (hb : ∀ c ∈ b, Token.isBlank c = true) :
    s.run? (writtenMembers sp d members ++ (b ++ '\x7d' :: r)) =
      resume r (complete (.object (done.reverse ++ members)) outer) := by
  induction members generalizing s done with
  | nil => exact absurd rfl hne
  | cons m ms ih =>
    obtain ⟨name, j⟩ := m
    obtain ⟨hj, hms⟩ := List.forall_mem_cons.mp hmembers
    have hinner : (Frame.members done name :: outer).length + n ≤ depthLimit := by
      rw [List.length_cons]
      omega
    have hvalue : ∀ cs, Token.EndsNumber cs →
        s.run? ((quote name).toList ++ ':' :: (sp.colon ++ (written sp d j ++ cs))) =
          run? (.afterMember ((name, j) :: done) outer) cs := by
      intro cs hcs
      rw [run?_of_next? (Token.next?_quote name _), hs name]
      change run? (.beforeValue done name outer) (':' :: (_ ++ _)) = _
      rw [run?_of_next? (t := .colon) (r := _ ++ _) rfl]
      change run? (.value (.members done name :: outer)) (_ ++ _) = _
      rw [run?_blank sp.colon_blank, hj _ d _ _ (opens_value _) hinner hcs]
      rfl
    cases ms with
    | nil =>
      rw [writtenMembers, List.append_assoc, List.cons_append, List.append_assoc,
        hvalue _ (endsNumber_blank hb (by rintro c ⟨⟩; rfl)), run?_blank hb,
        run?_of_next? (t := .closeObject) (r := r) rfl]
      simp [accept?]
    | cons m ms =>
      have hsplit : writtenMembers sp d ((name, j) :: m :: ms) = (quote name).toList ++
          ':' :: (sp.colon ++ (written sp d j ++ ',' :: (sp.line d ++ writtenMembers sp d (m :: ms)))) := rfl
      rw [hsplit, List.append_assoc, List.cons_append, List.append_assoc, List.append_assoc, List.cons_append,
        hvalue _ (by rintro c ⟨⟩; rfl), run?_of_next? (t := .comma) (r := _ ++ _ ++ _) rfl]
      change run? (.nextName ((name, j) :: done) outer) (_ ++ _ ++ _) = _
      rw [List.append_assoc, run?_blank (sp.line_blank d), ih hms (List.cons_ne_nil m ms) (fun _ => rfl)]
      simp

theorem takes_of_legible {j : Json} (h : Legible n j) : Takes n sp j := by
  induction h with
  | null => exact fun s depth outer r hs _ _ => run?_token hs rfl rfl
  | @bool n b =>
    cases b with
    | true => exact fun s depth outer r hs _ _ => run?_token hs rfl rfl
    | false => exact fun s depth outer r hs _ _ => run?_token hs rfl rfl
  | @integer n i hl hh =>
    intro s depth outer r hs _ hr
    exact run?_token hs
      (Token.next?_number (Token.number?_integer hl hh) (fun c hc => Token.isNumeric_integer hc) hr) rfl
  | @float n x hx =>
    intro s depth outer r hs _ hr
    exact run?_token hs (Token.next?_number hx (fun c hc => Token.isNumeric_floatText hx hc) hr) rfl
  | @text n t => exact fun s depth outer r hs _ _ => run?_token hs (Token.next?_quote t r) rfl
  | @array n items _ ih =>
    intro s depth outer r hs hlength hr
    have hopen : ∀ cs, s.run? ('[' :: cs) = run? (.itemOrEnd outer) cs := by
      intro cs
      have hlimit : outer.length < depthLimit := by omega
      rw [run?_of_next? (t := .openArray) (r := cs) rfl, hs .openArray _ (if_pos hlimit)]
      rfl
    cases items with
    | nil =>
      change s.run? ('[' :: ']' :: r) = _
      rw [hopen, run?_of_next? (t := .closeArray) (r := r) rfl]
      rfl
    | cons j js =>
      rw [written, List.cons_append, hopen, List.append_assoc, run?_blank (sp.line_blank _), List.append_assoc,
        List.append_assoc]
      exact run?_items ih (List.cons_ne_nil j js) (opens_itemOrEnd outer) hlength _ (sp.line_blank depth)
  | @object n members _ ih =>
    intro s depth outer r hs hlength hr
    have hopen : ∀ cs, s.run? ('\x7b' :: cs) = run? (.nameOrEnd outer) cs := by
      intro cs
      have hlimit : outer.length < depthLimit := by omega
      rw [run?_of_next? (t := .openObject) (r := cs) rfl, hs .openObject _ (if_pos hlimit)]
      rfl
    cases members with
    | nil =>
      change s.run? ('\x7b' :: '\x7d' :: r) = _
      rw [hopen, run?_of_next? (t := .closeObject) (r := r) rfl]
      rfl
    | cons m ms =>
      rw [written, List.cons_append, hopen, List.append_assoc, run?_blank (sp.line_blank _), List.append_assoc,
        List.append_assoc]
      exact run?_members ih (List.cons_ne_nil m ms) (opensName_nameOrEnd outer) hlength _ (sp.line_blank depth)

end Reader

theorem read?_written {j : Json} (h : Legible Reader.depthLimit j) (sp : Spacing) (depth : Nat)
    {r : List Char} (hr : Token.EndsNumber r) : read? (written sp depth j ++ r) = some (j, r) :=
  Reader.takes_of_legible h _ depth [] r (Reader.opens_value []) (by simp) hr

lemma exists_written {write : Json → String} (hwrite : write ∈ [compact, pretty]) :
    ∃ sp, ∀ j, (write j).toList = written sp 0 j := by
  rcases List.mem_cons.mp hwrite with rfl | hwrite
  · exact ⟨.tight, toList_compact 0⟩
  · obtain rfl := List.mem_singleton.mp hwrite
    exact ⟨.indenting, toList_indented 0⟩

theorem read?_write {j : Json} (h : Legible Reader.depthLimit j) {write : Json → String}
    (hwrite : write ∈ [compact, pretty]) : read? (write j).toList = some (j, []) := by
  obtain ⟨sp, hsp⟩ := exists_written hwrite
  rw [hsp, ← List.append_nil (written sp 0 j)]
  exact read?_written h sp 0 (by rintro c ⟨⟩)

theorem ofString?_compact {j : Json} (h : Legible Reader.depthLimit j) : ofString? (compact j) = some j := by
  rw [ofString?, read?_write h (by simp)]
  rfl

end EntityAudit.Json
