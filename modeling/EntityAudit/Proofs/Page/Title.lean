import EntityAudit.Pages
import EntityAudit.Proofs.Text.Number
import EntityAudit.Unicode.Property
import Mathlib.Data.List.DropRight
import Mathlib.Data.List.Infix
import Mathlib.Logic.Function.Basic

/-!
Titles of pages. A title is well-formed if nothing has to be taken away from it. Then its blanks can be told
from underscores, and its beginning from a namespace before it, so that no two pages share a full title.
-/

namespace EntityAudit

def Thins (f : List Char → List Char) : Prop := ∀ cs, (f cs).Sublist cs

namespace Thins

variable {f g : List Char → List Char} {cs : List Char}

lemma comp (hf : Thins f) (hg : Thins g) : Thins (f ∘ g) := fun cs => (hf (g cs)).trans (hg cs)

lemma comp_eq_self_iff (hf : Thins f) (hg : Thins g) : (f ∘ g) cs = cs ↔ g cs = cs ∧ f cs = cs := by
  rw [Function.comp_apply]
  constructor
  · intro h
    have hsub : cs.Sublist (g cs) := by simpa only [h] using hf (g cs)
    have hkept : g cs = cs := (hg cs).antisymm hsub
    exact ⟨hkept, by rwa [hkept] at h⟩
  · rintro ⟨hg, hf⟩
    rw [hg, hf]

end Thins

namespace Text

lemma isBlank_eq_within (c : Char) : isBlank c = Unicode.within Unicode.Property.whiteSpace c := by
  have htable : Unicode.Property.whiteSpace = [⟨9, 13, 1⟩, ⟨0x20, 0x20, 1⟩, ⟨0x85, 0x85, 1⟩, ⟨0xA0, 0xA0, 1⟩,
      ⟨0x1680, 0x1680, 1⟩, ⟨0x2000, 0x200A, 1⟩, ⟨0x2028, 0x2029, 1⟩, ⟨0x202F, 0x202F, 1⟩,
      ⟨0x205F, 0x205F, 1⟩, ⟨0x3000, 0x3000, 1⟩] := by
    decide
  rw [htable, Bool.eq_iff_iff]
  simp [isBlank, Unicode.within, Unicode.Span.contains, Nat.mod_one]
  omega

lemma thins_trimStart : Thins trimStart := fun _ => List.dropWhile_sublist _

lemma thins_trimEnd : Thins trimEnd := by
  intro cs
  have h := (thins_trimStart cs.reverse).reverse
  rwa [List.reverse_reverse] at h

lemma thins_trim : Thins trim := thins_trimEnd.comp thins_trimStart

lemma trimStart_eq_self_iff {cs : List Char} : trimStart cs = cs ↔ ∀ c, cs.head? = some c → isBlank c = false := by
  cases cs with
  | nil => simp [trimStart]
  | cons c cs =>
    rw [trimStart, List.dropWhile_eq_self_iff]
    simp

lemma trim_eq_self_iff {cs : List Char} :
    trim cs = cs ↔ ∀ c, cs.head? = some c ∨ cs.getLast? = some c → isBlank c = false := by
  have hend : trimEnd cs = cs ↔ ∀ c, cs.getLast? = some c → isBlank c = false := by
    rw [← List.head?_reverse, ← trimStart_eq_self_iff]
    exact List.reverse_eq_iff
  change (trimEnd ∘ trimStart) cs = cs ↔ _
  rw [thins_trimEnd.comp_eq_self_iff thins_trimStart, trimStart_eq_self_iff, hend]
  simp only [or_imp, forall_and]

lemma splitLast?_of_notMem {sep : Char} {cs : List Char} (h : sep ∉ cs) : splitLast? sep cs = none := by
  cases hsplit : splitLast? sep cs with
  | none => rfl
  | some parts => exact absurd (splitLast?_eq_some hsplit ▸ by simp) h

end Text

namespace PageTitle

lemma thins_withoutEscapes : Thins withoutEscapes := by
  intro cs
  fun_induction withoutEscapes cs with
  | case1 r ih => exact ((ih.cons _).cons _).cons _
  | case2 c r _ ih => exact ih.cons_cons c
  | case3 => exact List.Sublist.refl _

lemma withoutEscapes_eq_self_iff {cs : List Char} : withoutEscapes cs = cs ↔ ¬ ['%', '2', '0'] <:+: cs := by
  fun_induction withoutEscapes cs with
  | case1 r ih =>
    refine iff_of_false (fun h => ?_) (not_not_intro ⟨[], r, rfl⟩)
    have hle := (thins_withoutEscapes r).length_le
    rw [h] at hle
    simp only [List.length_cons] at hle
    omega
  | case2 c r hc ih =>
    have hhead : ¬ ['%', '2', '0'] <+: c :: r := by
      rintro ⟨t, ht⟩
      obtain ⟨rfl, rfl⟩ := List.cons.inj ht
      exact hc t rfl rfl
    rw [List.infix_cons_iff, or_iff_right hhead, List.cons_inj_right, ih]
  | case3 => simp

lemma thins_filter (p : Char → Bool) : Thins (List.filter p) := fun _ => List.filter_sublist

lemma filter_ne_eq_self_iff {d : Char} {cs : List Char} : cs.filter (· ≠ d) = cs ↔ d ∉ cs := by
  simp only [List.filter_eq_self, decide_eq_true_eq]
  exact ⟨fun h hd => h d hd rfl, fun h c hc hcd => h (hcd ▸ hc)⟩

lemma isWellFormed_iff {s : String} : isWellFormed s = true ↔
    '_' ∉ s.toList ∧ ':' ∉ s.toList ∧ ¬ ['%', '2', '0'] <:+: s.toList ∧
      ∀ c, s.toList.head? = some c ∨ s.toList.getLast? = some c → Text.isBlank c = false := by
  have hcolons := thins_filter (· ≠ ':')
  have hunderscores := thins_filter (· ≠ '_')
  have hescapes := thins_withoutEscapes.comp (hcolons.comp hunderscores)
  rw [isWellFormed, beq_iff_eq]
  change (Text.trim ∘ withoutEscapes ∘ List.filter (· ≠ ':') ∘ List.filter (· ≠ '_')) s.toList = s.toList ↔ _
  rw [Text.thins_trim.comp_eq_self_iff hescapes,
    thins_withoutEscapes.comp_eq_self_iff (hcolons.comp hunderscores), hcolons.comp_eq_self_iff hunderscores,
    filter_ne_eq_self_iff, filter_ne_eq_self_iff, withoutEscapes_eq_self_iff, Text.trim_eq_self_iff,
    and_assoc, and_assoc]

lemma toList_underscored (s : String) :
    (underscored s).toList = s.toList.map fun c => if c = ' ' then '_' else c :=
  String.toList_ofList

lemma notMem_underscored {s : String} {c : Char} (hc : c ≠ '_') (h : c ∉ s.toList) : c ∉ (underscored s).toList := by
  rw [toList_underscored]
  intro hmem
  obtain ⟨d, hd, rfl⟩ := List.mem_map.mp hmem
  split at hc
  · exact hc rfl
  · rename_i hblank
    rw [if_neg hblank] at h
    exact h hd

lemma map_toList_underscored {s : String} (h : '_' ∉ s.toList) :
    (underscored s).toList.map (fun c => if c = '_' then ' ' else c) = s.toList := by
  rw [toList_underscored, List.map_map]
  apply (List.map_congr_left fun c hc => ?_).trans (List.map_id _)
  have hne : c ≠ '_' := fun hc' => h (hc' ▸ hc)
  by_cases hblank : c = ' '
  · simp [hblank]
  · simp [hblank, hne]

lemma underscored_inj {s t : String} (hs : '_' ∉ s.toList) (ht : '_' ∉ t.toList)
    (h : underscored s = underscored t) : s = t := by
  rw [← String.toList_inj, ← map_toList_underscored hs, h, map_toList_underscored ht]

lemma toList_full {pageNamespace : String} (h : pageNamespace ≠ "") (title : String) :
    (full pageNamespace title).toList = pageNamespace.toList ++ ':' :: (underscored title).toList := by
  rw [full, if_neg h, String.toList_append, String.toList_append]
  simp

lemma colon_notMem_underscored {title : String} (h : isWellFormed title = true) : ':' ∉ (underscored title).toList :=
  notMem_underscored (by decide) (isWellFormed_iff.mp h).2.1

lemma splitLast?_full {pageNamespace title : String} (h : isWellFormed title = true) :
    Text.splitLast? ':' (full pageNamespace title).toList =
      if pageNamespace = "" then none else some (pageNamespace.toList, (underscored title).toList) := by
  by_cases hempty : pageNamespace = ""
  · rw [full, if_pos hempty, if_pos hempty, Text.splitLast?_of_notMem (colon_notMem_underscored h)]
  · rw [toList_full hempty, if_neg hempty, Text.splitLast?_append (colon_notMem_underscored h)]

/-- A title is well-formed exactly if it has no underscore, no colon, no escaped blank, and no white space at its ends;
and a namespace and a well-formed title can be read off their full title. -/
theorem full_identifies :
    (∀ s : String, isWellFormed s = true ↔
      '_' ∉ s.toList ∧ ':' ∉ s.toList ∧ ¬ ['%', '2', '0'] <:+: s.toList ∧
        ∀ c, s.toList.head? = some c ∨ s.toList.getLast? = some c →
          Unicode.within Unicode.Property.whiteSpace c = false) ∧
      Function.Injective fun page : String × { title : String // isWellFormed title = true } =>
        full page.1 page.2.1 := by
  constructor
  · intro s
    simp only [isWellFormed_iff, Text.isBlank_eq_within]
  · rintro ⟨n, s, hs⟩ ⟨m, t, ht⟩ h
    change full n s = full m t at h
    have hsplit := congrArg (fun title => Text.splitLast? ':' title.toList) h
    simp only [splitLast?_full hs, splitLast?_full ht] at hsplit
    have hunderscored : n = m ∧ underscored s = underscored t := by
      by_cases hn : n = ""
      · by_cases hm : m = ""
        · rw [full, full, if_pos hn, if_pos hm] at h
          exact ⟨hn.trans hm.symm, h⟩
        · simp [hn, hm] at hsplit
      · by_cases hm : m = ""
        · simp [hn, hm] at hsplit
        · simpa [hn, hm, String.toList_inj] using hsplit
    obtain ⟨rfl, hst⟩ := hunderscored
    obtain rfl := underscored_inj (isWellFormed_iff.mp hs).1 (isWellFormed_iff.mp ht).1 hst
    rfl

end PageTitle

end EntityAudit
