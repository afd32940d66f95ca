import EntityAudit.Proofs.Toml.Value

/-!
A document is read as it is written. The tables that are open while it is read are each the last member of the one
around, so what is read goes to the end of the innermost one (`Members.plug`).
-/

namespace EntityAudit.Toml

variable {key : String} {keys : List String} {c : Char} {r : List Char}

/-! ## Keys -/

structure IsBareKey (key : String) : Prop where
  ne_empty : key ≠ ""
  all : ∀ c ∈ key.toList, isBare c = true

lemma notMem_of_isBare (cs : List Char) (hc : isBare c = true) (hcs : cs.any isBare = false) : c ∉ cs := by
  intro hmem
  rw [List.any_eq_true.mpr ⟨c, hmem, hc⟩] at hcs
  cases hcs

lemma IsBareKey.keyText_eq (h : IsBareKey key) : keyText key = key :=
  if_pos ⟨h.ne_empty, List.all_eq_true.mpr h.all⟩

lemma IsBareKey.exists_cons (h : IsBareKey key) : ∃ c cs, key.toList = c :: cs ∧ isBare c = true := by
  obtain ⟨c, cs, hcs⟩ := List.exists_cons_of_ne_nil fun h' => h.ne_empty (String.toList_eq_nil_iff.mp h')
  exact ⟨c, cs, hcs, h.all c (hcs ▸ List.mem_cons_self)⟩

lemma skipBlanks_of_isBare (hc : isBare c = true) (cs : List Char) : skipBlanks (c :: cs) = c :: cs := by
  have hblank := notMem_of_isBare [' ', '\t'] hc rfl
  exact List.dropWhile_cons_of_neg (by simpa [isBlank] using hblank)

lemma keyPart?_append (h : IsBareKey key) (hr : ∀ c ∈ r.head?, isBare c = false) :
    keyPart? (key.toList ++ r) = some (key, r) := by
  obtain ⟨c, cs, hcs, hc⟩ := h.exists_cons
  have hquote := notMem_of_isBare ['"', '\''] hc rfl
  have hline : Quoted.line? (key.toList ++ r) = none := by
    rw [hcs, List.cons_append]
    unfold Quoted.line?
    split
    · exact absurd (List.cons.inj ‹_›).1 fun h => hquote (by simp [h])
    · exact absurd (List.cons.inj ‹_›).1 fun h => hquote (by simp [h])
    · rfl
  have htake : r.takeWhile Toml.isBare = [] := by
    cases r with
    | nil => rfl
    | cons d r => exact List.takeWhile_cons_of_neg (by simp [hr d rfl])
  have hdrop : r.dropWhile Toml.isBare = r := by
    cases r with
    | nil => rfl
    | cons d r => exact List.dropWhile_cons_of_neg (by simp [hr d rfl])
  rw [keyPart?, hline]
  dsimp only
  rw [List.takeWhile_append_of_pos h.all, List.dropWhile_append_of_pos h.all, htake, hdrop, List.append_nil,
    String.ofList_toList, hcs]
  rfl

def pathText (keys : List String) : List Char := ['.'].intercalate (keys.map String.toList)

lemma keyParts?_pathText (hkeys : ∀ key ∈ keys, IsBareKey key) (hne : keys ≠ [])
    (hr : ∀ c ∈ r.head?, isBare c = false) (hpoint : ∀ c ∈ (skipBlanks r).head?, c ≠ '.') :
    keyParts? (pathText keys ++ r) = some (keys, skipBlanks r) := by
  induction keys with
  | nil => exact absurd rfl hne
  | cons key keys ih =>
    obtain ⟨hkey, hkeys⟩ := List.forall_mem_cons.mp hkeys
    obtain ⟨c, cs, hcs, hc⟩ := hkey.exists_cons
    have hstart (rest : List Char) : skipBlanks (key.toList ++ rest) = key.toList ++ rest := by
      rw [hcs, List.cons_append, skipBlanks_of_isBare hc]
    cases keys with
    | nil =>
      have htext : pathText [key] = key.toList := by simp [pathText]
      rw [htext, keyParts?, hstart, keyPart?_append hkey hr, Option.bind_eq_bind, Option.bind_some]
      dsimp only
      split
      · rename_i s hs
        exact absurd rfl (hpoint '.' (by rw [hs]; rfl))
      · rfl
    | cons k ks =>
      have htext : pathText (key :: k :: ks) ++ r = key.toList ++ '.' :: (pathText (k :: ks) ++ r) := by
        simp [pathText, List.intercalate_cons_cons]
      rw [htext, keyParts?, hstart, keyPart?_append hkey (by rintro d ⟨⟩; rfl), Option.bind_eq_bind, Option.bind_some]
      change (if _ : _ then _ else _) = _
      rw [dif_pos (by simp; omega), ih hkeys (List.cons_ne_nil k ks)]
      rfl

/-! ## The tables that are open -/

namespace Members

variable {ms ms' before : Members} {n : Node} {around : List (Members × String)}

def plug (ms : Members) : List (Members × String) → Members
  | [] => ms
  | (before, key) :: around => before ++ [(key, .table .header (plug ms around))]

def Fresh (around : List (Members × String)) : Prop := ∀ a ∈ around, a.1.find? a.2 = none

lemma Fresh.concat {around : List (Members × String)} {ms : Members} (hfresh : Fresh around)
    (h : ms.find? key = none) : Fresh (around ++ [(ms, key)]) := by
  intro a ha
  rcases List.mem_append.mp ha with ha | ha
  · exact hfresh a ha
  · rw [List.mem_singleton.mp ha]
    exact h

lemma plug_concat (ms before : Members) (key : String) (around : List (Members × String)) :
    plug ms (around ++ [(before, key)]) = plug (before ++ [(key, .table .header ms)]) around := by
  induction around with
  | nil => rfl
  | cons a around ih =>
    obtain ⟨before', key'⟩ := a
    change before' ++ [(key', Node.table .header (plug ms (around ++ [(before, key)])))] = _
    rw [ih]
    rfl

lemma find?_eq_none : before.find? key = none ↔ ∀ m ∈ before, m.1 ≠ key := by
  rw [find?, Option.map_eq_none_iff, List.find?_eq_none]
  simp

lemma find?_last (h : before.find? key = none) : (before ++ [(key, n)]).find? key = some n := by
  rw [find?, Option.map_eq_none_iff] at h
  simp [find?, List.find?_append, h]

lemma find?_append_of_ne {key' : String} (h : before.find? key = none) (hne : key' ≠ key) :
    (before ++ [(key', n)]).find? key = none := by
  rw [find?_eq_none] at h ⊢
  intro m hm
  rcases List.mem_append.mp hm with hm | hm
  · exact h m hm
  · rw [List.mem_singleton.mp hm]
    exact hne

lemma replace_last (h : before.find? key = none) (n' : Node) :
    (before ++ [(key, n)]).replace key n' = before ++ [(key, n')] := by
  have hbefore : before.replace key n' = before := by
    rw [find?_eq_none] at h
    refine (List.map_congr_left fun m hm => ?_).trans (List.map_id _)
    exact if_neg (h m hm)
  change List.map _ (before ++ [(key, n)]) = _
  rw [List.map_append]
  change before.replace key n' ++ _ = _
  rw [hbefore]
  simp

lemma within?_plug (hfresh : Fresh around) (change : Members → Option Members) (ms : Members) :
    within? change (plug ms around) (around.map (·.2)) = (change ms).map (plug · around) := by
  induction around with
  | nil => exact Option.map_id'.symm
  | cons a around ih =>
    -- A fresh key is that of the last member, so the look-up on the way down finds the open table.
    obtain ⟨before, key⟩ := a
    obtain ⟨hbefore, hfresh⟩ := List.forall_mem_cons.mp hfresh
    rw [List.map_cons, plug, within?, find?_last hbefore]
    dsimp only
    rw [ih hfresh]
    cases change ms with
    | none => rfl
    | some ms' =>
      rw [Option.map_some, Option.bind_eq_bind, Option.bind_some, replace_last hbefore]
      rfl

lemma open?_plug (hfresh : Fresh around) (h : ms.find? key = none) :
    open? openTable? (plug ms around) (around.map (·.2) ++ [key]) =
      some (plug (ms ++ [(key, .table .header [])]) around) := by
  induction around with
  | nil =>
    rw [List.map_nil, List.nil_append, open?, plug, h]
    rfl
  | cons a around ih =>
    obtain ⟨before, key'⟩ := a
    obtain ⟨hbefore, hfresh⟩ := List.forall_mem_cons.mp hfresh
    rw [List.map_cons, List.cons_append, plug, open?.eq_3 _ _ _ _ (by simp), find?_last hbefore]
    dsimp only
    rw [ih hfresh, Option.bind_eq_bind, Option.bind_some, replace_last hbefore]
    rfl

end Members

/-! ## Lines -/

namespace Document

open Members

variable {d d' : Document} {cs s r' : List Char} {j : Json} {ms ms' : Members} {around : List (Members × String)}

lemma run?_line (hskip : skipLines false cs = c :: s) (hline : d.line? (c :: s) = some (d', r))
    (hend : endLine? r = some r') (hlength : r'.length < cs.length) : d.run? cs = d'.run? r' := by
  rw [run?, hskip]
  dsimp only
  rw [hline, Option.bind_eq_bind, Option.bind_some]
  dsimp only
  rw [hend]
  exact dif_pos hlength

lemma key?_pathText (hkeys : ∀ key ∈ keys, IsBareKey key) (hne : keys ≠ []) (hlength : keys.length < depthLimit)
    (hr : ∀ c ∈ r.head?, isBare c = false) (hpoint : ∀ c ∈ (skipBlanks r).head?, c ≠ '.') :
    key? (pathText keys ++ r) = some (keys, skipBlanks r) := by
  rw [key?, keyParts?_pathText hkeys hne hr hpoint]
  exact if_pos (decide_eq_true hlength)

lemma exists_pathText (hkeys : ∀ key ∈ keys, IsBareKey key) (hne : keys ≠ []) :
    ∃ c cs, pathText keys = c :: cs ∧ isBare c = true := by
  obtain ⟨key, keys, rfl⟩ := List.exists_cons_of_ne_nil hne
  obtain ⟨c, cs, hcs, hc⟩ := (hkeys key List.mem_cons_self).exists_cons
  cases keys with
  | nil => exact ⟨c, cs, by simp [pathText, hcs], hc⟩
  | cons k ks => exact ⟨c, _, by rw [pathText, List.map_cons, List.map_cons, List.intercalate_cons_cons, hcs]; rfl, hc⟩

lemma skipLines_of_isBare (hc : isBare c = true) (cs : List Char) : skipLines false (c :: cs) = c :: cs :=
  skipLines_of_notMem (notMem_of_isBare _ hc rfl) cs

lemma run?_pair {t : String} (hkey : IsBareKey key) (ht : ∃ c cs, t.toList = c :: cs ∧ isBlank c = false)
    (hvalue : ∀ r, value? (t.toList ++ '\n' :: r) = some (j, '\n' :: r)) (hfresh : Fresh around)
    (h : ms.find? key = none) :
    run? ⟨plug ms around, around.map (·.2)⟩ ((key ++ " = " ++ t ++ "\n").toList ++ r) =
      run? ⟨plug (ms ++ [(key, .value j)]) around, around.map (·.2)⟩ r := by
  obtain ⟨c, cs, hcs, hc⟩ := hkey.exists_cons
  obtain ⟨d, ds, hds, hd⟩ := ht
  have htext : (key ++ " = " ++ t ++ "\n").toList ++ r =
      key.toList ++ ' ' :: '=' :: ' ' :: (t.toList ++ '\n' :: r) := by simp
  have hskip : skipBlanks (' ' :: (t.toList ++ '\n' :: r)) = t.toList ++ '\n' :: r := by
    change skipBlanks (t.toList ++ '\n' :: r) = _
    rw [hds, List.cons_append]
    exact List.dropWhile_cons_of_neg (by simp [hd])
  have hpath : pathText [key] = key.toList := by simp [pathText]
  have hpair : pair? value? (key.toList ++ ' ' :: '=' :: ' ' :: (t.toList ++ '\n' :: r)) =
      some (([key], j), '\n' :: r) := by
    have hkeys : ∀ k ∈ [key], IsBareKey k := List.forall_mem_singleton.mpr hkey
    have hread := key?_pathText (r := ' ' :: '=' :: ' ' :: (t.toList ++ '\n' :: r)) hkeys (List.cons_ne_nil _ _)
      (show 1 < 80 by decide) (by rintro d ⟨⟩; rfl) (by rintro d ⟨⟩; decide)
    rw [pair?, ← hpath, hread, Option.bind_eq_bind, Option.bind_some]
    change (value? (skipBlanks (' ' :: (t.toList ++ '\n' :: r)))).bind _ = _
    rw [hskip, hvalue]
    rfl
  have hadd : ms.add? [key] j = some (ms ++ [(key, .value j)]) := by
    change (if (ms.find? key).isSome then none else _) = _
    rw [h]
    rfl
  have hline : line? ⟨plug ms around, around.map (·.2)⟩ (c :: (cs ++ ' ' :: '=' :: ' ' :: (t.toList ++ '\n' :: r))) =
      some (⟨plug (ms ++ [(key, .value j)]) around, around.map (·.2)⟩, '\n' :: r) := by
    have hbracket : c ≠ '[' := fun h => notMem_of_isBare ['['] hc rfl (by simp [h])
    rw [line?.eq_3 _ _ (fun _ h => hbracket (List.cons.inj h).1) (fun _ h => hbracket (List.cons.inj h).1),
      ← List.cons_append, ← hcs, hpair, Option.bind_eq_bind, Option.bind_some]
    dsimp only
    rw [within?_plug hfresh, hadd]
    rfl
  rw [htext, run?_line (c := c) ?_ hline (show endLine? ('\n' :: r) = some r from rfl) (by simp; omega)]
  rw [hcs, List.cons_append, skipLines_of_isBare hc]

lemma run?_header (header : List String) (hkeys : ∀ k ∈ around.map (·.2) ++ [key], IsBareKey k)
    (hlength : around.length + 1 < depthLimit) (hfresh : Fresh around) (h : ms.find? key = none) :
    run? ⟨plug ms around, header⟩ ('\n' :: '[' :: (pathText (around.map (·.2) ++ [key]) ++ ']' :: '\n' :: r)) =
      run? ⟨plug (ms ++ [(key, .table .header [])]) around, around.map (·.2) ++ [key]⟩ r := by
  have hne : around.map (·.2) ++ [key] ≠ [] := by simp
  obtain ⟨c, cs, hcs, hc⟩ := exists_pathText hkeys hne
  have hheader : header? (pathText (around.map (·.2) ++ [key]) ++ ']' :: '\n' :: r) =
      some (around.map (·.2) ++ [key], '\n' :: r) := by
    rw [header?, key?_pathText hkeys hne (by simpa using hlength) (by rintro d ⟨⟩; rfl) (by rintro d ⟨⟩; decide)]
    rfl
  have hline : line? ⟨plug ms around, header⟩ ('[' :: (pathText (around.map (·.2) ++ [key]) ++ ']' :: '\n' :: r)) =
      some (⟨plug (ms ++ [(key, .table .header [])]) around, around.map (·.2) ++ [key]⟩, '\n' :: r) := by
    have hbracket (t : List Char) : pathText (around.map (·.2) ++ [key]) ++ ']' :: '\n' :: r ≠ '[' :: t := by
      rw [hcs, List.cons_append]
      exact fun h => notMem_of_isBare ['['] hc rfl (by simp [(List.cons.inj h).1])
    rw [line?.eq_2 _ _ fun t h => hbracket t h, hheader, Option.bind_eq_bind, Option.bind_some]
    dsimp only
    rw [open?_plug hfresh h]
    rfl
  exact run?_line (c := '[') rfl hline rfl (by simp; omega)

end Document

/-! ## Documents -/

inductive Tabular : Nat → List (String × Json) → Prop
  | nil (n : Nat) : Tabular n []
  | plain {n : Nat} {key : String} {j : Json} {ms : List (String × Json)} (hkey : IsBareKey key)
      (hfresh : key ∉ ms.map (·.1)) (hj : Inline j) (h : Tabular n ms) : Tabular n ((key, j) :: ms)
  | table {n : Nat} {key : String} {sub ms : List (String × Json)} (hkey : IsBareKey key)
      (hfresh : key ∉ ms.map (·.1)) (hsub : Tabular n sub) (h : Tabular (n + 1) ms) :
      Tabular (n + 1) ((key, .object sub) :: ms)

lemma tabular_of {n : Nat} {ms : List (String × Json)} (hkeys : ∀ m ∈ ms, IsBareKey m.1) (hnodup : (ms.map (·.1)).Nodup)
    (h : ∀ m ∈ ms, Inline m.2 ∨ ∃ sub, m.2 = .object sub ∧ Tabular n sub) : Tabular (n + 1) ms := by
  induction ms with
  | nil => exact .nil _
  | cons m ms ih =>
    obtain ⟨key, j⟩ := m
    obtain ⟨hkey, hkeys'⟩ := List.forall_mem_cons.mp hkeys
    obtain ⟨hfresh, hnodup'⟩ := List.nodup_cons.mp hnodup
    obtain ⟨hj, hms⟩ := List.forall_mem_cons.mp h
    rcases hj with hj | ⟨sub, hsub, htabular⟩
    · exact .plain hkey hfresh hj (ih hkeys' hnodup' hms)
    · obtain rfl : j = .object sub := hsub
      exact .table hkey hfresh htabular (ih hkeys' hnodup' hms)

def plainNodes : List (String × Json) → Members
  | [] => []
  | (_, .object _) :: ms => plainNodes ms
  | (key, j) :: ms => (key, .value j) :: plainNodes ms

def tableNodes : List (String × Json) → Members
  | [] => []
  | (key, .object sub) :: ms => (key, .table .header (plainNodes sub ++ tableNodes sub)) :: tableNodes ms
  | _ :: ms => tableNodes ms

def arranged (ms : List (String × Json)) : List (String × Json) := membersJson (plainNodes ms ++ tableNodes ms)

lemma Inline.ne_object {j : Json} (h : Inline j) (ms : List (String × Json)) : j ≠ .object ms := by
  rintro rfl
  cases h with
  | scalar h => cases h

section

variable {n : Nat} {j : Json} {sub ms : List (String × Json)}

lemma plainNodes_plain (hj : Inline j) : plainNodes ((key, j) :: ms) = (key, .value j) :: plainNodes ms :=
  plainNodes.eq_3 _ _ _ fun sub h => hj.ne_object sub h

lemma tableNodes_plain (hj : Inline j) : tableNodes ((key, j) :: ms) = tableNodes ms :=
  tableNodes.eq_3 _ _ fun _ sub h => hj.ne_object sub (Prod.mk.inj h).2

lemma keys_plainNodes (ms : List (String × Json)) : ∀ m ∈ plainNodes ms, m.1 ∈ ms.map (·.1) := by
  induction ms using plainNodes.induct with
  | case1 => exact fun _ hm => absurd hm List.not_mem_nil
  | case2 key sub ms ih => exact fun m hm => List.mem_cons_of_mem _ (ih m hm)
  | case3 key j ms hj ih =>
    rw [plainNodes.eq_3 _ _ _ hj]
    exact List.forall_mem_cons.mpr ⟨List.mem_cons_self, fun m hm => List.mem_cons_of_mem _ (ih m hm)⟩

lemma keys_tableNodes (ms : List (String × Json)) : ∀ m ∈ tableNodes ms, m.1 ∈ ms.map (·.1) := by
  fun_induction tableNodes ms with
  | case1 => exact fun _ hm => absurd hm List.not_mem_nil
  | case2 key sub ms _ ih =>
    exact List.forall_mem_cons.mpr ⟨List.mem_cons_self, fun m hm => List.mem_cons_of_mem _ (ih m hm)⟩
  | case3 _ ms _ ih => exact fun m hm => List.mem_cons_of_mem _ (ih m hm)

lemma arranged_of_inline {ms : List (String × Json)} (h : ∀ m ∈ ms, Inline m.2) : arranged ms = ms := by
  have htables : tableNodes ms = [] := by
    induction ms with
    | nil => rw [tableNodes]
    | cons m ms ih =>
      obtain ⟨hm, hms⟩ := List.forall_mem_cons.mp h
      rw [tableNodes_plain hm, ih hms]
  rw [arranged, htables, List.append_nil]
  clear htables
  induction ms with
  | nil => rfl
  | cons m ms ih =>
    obtain ⟨hm, hms⟩ := List.forall_mem_cons.mp h
    rw [plainNodes_plain hm, membersJson, Node.toJson, ih hms]

end

namespace Document

open Members

variable {n : Nat} {written : List (String × Json)}

def Unmarked (cs : List Char) : Prop := ∀ c ∈ cs.head?, c.toNat ≠ 0xFEFF

lemma unmarked_of_isBare (hc : isBare c = true) (cs : List Char) : Unmarked (c :: cs) := by
  rintro d ⟨⟩ hd
  obtain rfl : c = Char.ofNat 0xFEFF := by rw [← hd, Char.ofNat_toNat]
  cases hc

def ReadsPlain (written : List (String × Json)) (text : String) : Prop :=
  ∀ (ms : Members) (around : List (Members × String)) (r : List Char), Fresh around →
    (∀ m ∈ written, ms.find? m.1 = none) →
    run? ⟨plug ms around, around.map (·.2)⟩ (text.toList ++ r) =
      run? ⟨plug (ms ++ plainNodes written) around, around.map (·.2)⟩ r

def ReadsTables (keys : List String) (written : List (String × Json)) (text : String) : Prop :=
  ∀ (ms : Members) (around : List (Members × String)) (header : List String) (r : List Char),
    around.map (·.2) = keys → Fresh around → (∀ m ∈ tableNodes written, ms.find? m.1 = none) →
    ∃ header', run? ⟨plug ms around, header⟩ (text.toList ++ r) =
      run? ⟨plug (ms ++ tableNodes written) around, header'⟩ r

lemma exists_plainLines (h : Tabular n written) :
    ∃ t, plainLines? written = some t ∧ Unmarked t.toList ∧ ReadsPlain written t := by
  induction h with
  | nil n =>
    refine ⟨"", rfl, nofun, fun ms around r _ _ => ?_⟩
    rw [plainNodes, List.append_nil]
    rfl
  | @plain n key j rest hkey hfresh hj _ ih =>
    obtain ⟨t, ht, -, hread⟩ := ih
    obtain ⟨v, c, cs, hv, hcs, hc, hvalue⟩ := hj.exists_text
    refine ⟨key ++ " = " ++ v ++ "\n" ++ t, ?_, ?_, fun ms around r haround hms => ?_⟩
    · rw [plainLines?.eq_3 _ _ _ hj.ne_object, hkey.keyText_eq, hv, ht]
      rfl
    · obtain ⟨d, ds, hds, hd⟩ := hkey.exists_cons
      simp only [String.toList_append, List.append_assoc, hds, List.cons_append]
      exact unmarked_of_isBare hd _
    · obtain ⟨hkey', hrest⟩ := List.forall_mem_cons.mp hms
      rw [String.toList_append, List.append_assoc, run?_pair hkey ⟨c, cs, hcs, hc⟩ hvalue haround hkey',
        hread _ around r haround, plainNodes_plain hj, List.append_assoc]
      · rfl
      · exact fun m hm => find?_append_of_ne (hrest m hm) fun heq => hfresh (heq ▸ List.mem_map_of_mem hm)
  | @table n key sub rest _ _ _ _ _ ih =>
    obtain ⟨t, ht, hunmarked, hread⟩ := ih
    exact ⟨t, ht, hunmarked, fun ms around r haround hms => hread ms around r haround (List.forall_mem_cons.mp hms).2⟩

lemma pathText_concat (keys : List String) (key : String) :
    pathText (keys ++ [key]) = if keys = [] then key.toList else pathText keys ++ '.' :: key.toList := by
  induction keys with
  | nil => simp [pathText]
  | cons k ks ih =>
    rw [if_neg (List.cons_ne_nil k ks)]
    cases ks with
    | nil => simp [pathText, List.intercalate_cons_cons]
    | cons k' ks =>
      rw [if_neg (List.cons_ne_nil k' ks)] at ih
      have hcons (ks : List String) : pathText (k :: k' :: ks) = k.toList ++ '.' :: pathText (k' :: ks) := by
        simp [pathText, List.intercalate_cons_cons]
      rw [List.cons_append, List.cons_append, hcons, hcons, ← List.cons_append, ih]
      simp

lemma headerPath_eq (hkeys : ∀ k ∈ keys, IsBareKey k) (hkey : IsBareKey key) :
    (if String.ofList (pathText keys) = "" then keyText key
      else String.ofList (pathText keys) ++ "." ++ keyText key) = String.ofList (pathText (keys ++ [key])) := by
  rw [pathText_concat, hkey.keyText_eq]
  by_cases hne : keys = []
  · subst hne
    rw [if_pos rfl, String.ofList_toList]
    exact if_pos rfl
  · obtain ⟨c, cs, hcs, -⟩ := exists_pathText hkeys hne
    rw [if_neg hne, if_neg]
    · apply String.toList_injective
      simp
    · rw [hcs]
      exact fun h => List.cons_ne_nil c cs (by simpa using congrArg String.toList h)

lemma find?_plainNodes (h : Tabular n written) : ∀ m ∈ tableNodes written, (plainNodes written).find? m.1 = none := by
  induction h with
  | nil n => exact fun _ _ => rfl
  | @plain n key j rest _ hfresh hj _ ih =>
    intro m hm
    rw [tableNodes_plain hj] at hm
    rw [plainNodes_plain hj, find?_eq_none]
    refine List.forall_mem_cons.mpr ⟨?_, find?_eq_none.mp (ih m hm)⟩
    exact fun heq : key = m.1 => hfresh (heq ▸ keys_tableNodes rest m hm)
  | @table n key sub rest _ hfresh _ _ _ ih =>
    rw [tableNodes]
    refine List.forall_mem_cons.mpr ⟨?_, ih⟩
    rw [plainNodes, find?_eq_none]
    exact fun m hm (heq : m.1 = key) => hfresh (heq ▸ keys_plainNodes rest m hm)

-- The header opens the table at the end of the innermost one. Its own lines and those of the tables in it are read with
-- one table more around them, and what follows is read in the innermost table again.
lemma run?_table {sub : List (String × Json)} {plain tables : String} (hsub : Tabular n sub) (hplain : ReadsPlain sub plain)
    (htables : ReadsTables (around.map (·.2) ++ [key]) sub tables) (hkeys : ∀ k ∈ around.map (·.2) ++ [key], IsBareKey k)
    (hlength : around.length + 1 < depthLimit) (hfresh : Fresh around) (h : ms.find? key = none) (header : List String)
    (r : List Char) :
    ∃ header', run? ⟨plug ms around, header⟩ ('\n' :: '[' :: (pathText (around.map (·.2) ++ [key]) ++
        ']' :: '\n' :: (plain.toList ++ (tables.toList ++ r)))) =
      run? ⟨plug (ms ++ [(key, .table .header (plainNodes sub ++ tableNodes sub))]) around, header'⟩ r := by
  have hmap : (around ++ [(ms, key)]).map (·.2) = around.map (·.2) ++ [key] := by simp
  have hinner := hplain [] _ (tables.toList ++ r) (hfresh.concat h) fun _ _ => rfl
  obtain ⟨header', hsubtables⟩ := htables (plainNodes sub) _ (around.map (·.2) ++ [key]) r hmap (hfresh.concat h)
    (find?_plainNodes hsub)
  rw [hmap, plug_concat, plug_concat, List.nil_append] at hinner
  rw [plug_concat, plug_concat] at hsubtables
  exact ⟨header', by rw [run?_header header hkeys hlength hfresh h, hinner, hsubtables]⟩

lemma exists_tableLines (h : Tabular n written) : ∀ keys : List String, (∀ k ∈ keys, IsBareKey k) →
    keys.length + n < depthLimit →
    ∃ t, tableLines? (String.ofList (pathText keys)) written = some t ∧ Unmarked t.toList ∧ ReadsTables keys written t := by
  induction h with
  | nil n =>
    intro keys _ _
    refine ⟨"", by rw [tableLines?], nofun, fun ms around header r _ _ _ => ⟨header, ?_⟩⟩
    rw [tableNodes, List.append_nil]
    rfl
  | @plain n key j rest _ _ hj _ ih =>
    intro keys hkeys hlength
    obtain ⟨t, ht, hunmarked, hread⟩ := ih keys hkeys hlength
    refine ⟨t, ?_, hunmarked, fun ms around header r haround hfresh hms => ?_⟩
    · rw [tableLines?.eq_3 _ _ _ fun _ sub h => hj.ne_object sub (Prod.mk.inj h).2, ht]
    · rw [tableNodes_plain hj] at hms ⊢
      exact hread ms around header r haround hfresh hms
  | @table n key sub rest hkey hfreshKey hsub hrest ihsub ih =>
    intro keys hkeys hlength
    have hkeys' : ∀ k ∈ keys ++ [key], IsBareKey k := by
      simpa [or_imp, forall_and] using ⟨hkeys, hkey⟩
    obtain ⟨plain, hplain, -, hreadPlain⟩ := exists_plainLines hsub
    obtain ⟨tables, htables, -, hreadTables⟩ := ihsub (keys ++ [key]) hkeys' (by simp; omega)
    obtain ⟨t, ht, -, hread⟩ := ih keys hkeys hlength
    refine ⟨"\n[" ++ String.ofList (pathText (keys ++ [key])) ++ "]\n" ++ plain ++ tables ++ t, ?_, ?_,
      fun ms around header r haround hfresh hms => ?_⟩
    · rw [tableLines?, headerPath_eq hkeys hkey, hplain, htables, ht]
      rfl
    · simp only [String.toList_append, List.append_assoc]
      rintro c ⟨⟩
      decide
    · subst haround
      rw [tableNodes] at hms ⊢
      obtain ⟨hhere, hothers⟩ := List.forall_mem_cons.mp hms
      obtain ⟨_, htable⟩ := run?_table hsub hreadPlain hreadTables hkeys' (by simp at hlength; omega) hfresh hhere header
        (t.toList ++ r)
      obtain ⟨header', hrest'⟩ := hread (ms ++ [(key, .table .header (plainNodes sub ++ tableNodes sub))]) around _ r rfl
        hfresh fun m hm => find?_append_of_ne (hothers m hm) fun heq => hfreshKey (heq ▸ keys_tableNodes rest m hm)
      refine ⟨header', ?_⟩
      have htext : ("\n[" ++ String.ofList (pathText (around.map (·.2) ++ [key])) ++ "]\n" ++ plain ++ tables ++ t).toList
          ++ r = '\n' :: '[' :: (pathText (around.map (·.2) ++ [key]) ++
            ']' :: '\n' :: (plain.toList ++ (tables.toList ++ (t.toList ++ r)))) := by simp
      rw [htext, htable, hrest', List.append_assoc]
      rfl

end Document

/-- A document with tables is read as it was written, but for the order of its members. -/
theorem read?_write {n : Nat} {ms : List (String × Json)} (h : Tabular n ms) (hn : n < depthLimit) :
    ∃ text, write? (.object ms) = some text ∧
      read? text = some (.object (arranged ms)) := by
  obtain ⟨plain, hplain, hunmarked, hreadPlain⟩ := Document.exists_plainLines h
  obtain ⟨tables, htables, hunmarked', hreadTables⟩ := Document.exists_tableLines h [] nofun (by simpa using hn)
  refine ⟨plain ++ tables, ?_, ?_⟩
  · rw [write?, hplain]
    change (tableLines? (String.ofList (pathText [])) ms).bind _ = _
    rw [htables]
    rfl
  · have hlines := hreadPlain [] [] tables.toList nofun fun _ _ => rfl
    obtain ⟨header, hrest⟩ := hreadTables (plainNodes ms) [] [] [] rfl nofun (Document.find?_plainNodes h)
    have hrun : Document.run? {} (plain ++ tables).toList = some ⟨plainNodes ms ++ tableNodes ms, header⟩ := by
      rw [String.toList_append]
      refine hlines.trans ?_
      rw [List.append_nil] at hrest
      refine hrest.trans ?_
      rw [Document.run?]
      rfl
    have hmark : Document.Unmarked (plain ++ tables).toList := by
      rw [String.toList_append]
      rcases hcs : plain.toList with _ | ⟨c, cs⟩
      · exact hunmarked'
      · rw [hcs] at hunmarked
        exact hunmarked
    unfold read?
    rcases hcs : (plain ++ tables).toList with _ | ⟨c, cs⟩
    · rw [hcs] at hrun
      simp only [hrun, Option.map_some, arranged]
    · rw [hcs] at hrun hmark
      simp only [if_neg (hmark c rfl), hrun, Option.map_some, arranged]

end EntityAudit.Toml
