import EntityAudit.Proofs.Counting.Best
import EntityAudit.Proofs.Page.Title
import EntityAudit.Rule.Link

namespace EntityAudit

namespace PageTitle

def written (pageNamespace title : String) : String :=
  if pageNamespace = "" then title else pageNamespace ++ ":" ++ title

variable {pageNamespace title : String}

lemma blank_notMem_underscored (s : String) : ' ' ∉ (underscored s).toList := by
  rw [toList_underscored]
  intro hmem
  obtain ⟨c, -, hc⟩ := List.mem_map.mp hmem
  split at hc
  · exact absurd hc (by decide)
  · contradiction

lemma blank_mem_full_iff : ' ' ∈ (full pageNamespace title).toList ↔ ' ' ∈ pageNamespace.toList := by
  by_cases h : pageNamespace = ""
  · rw [full, if_pos h, h]
    exact iff_of_false (blank_notMem_underscored title) (by simp)
  · rw [toList_full h]
    simp [blank_notMem_underscored]

lemma underscored_eq_self {s : String} (h : ' ' ∉ s.toList) : underscored s = s := by
  rw [← String.toList_inj, toList_underscored]
  refine (List.map_congr_left fun c hc => ?_).trans (List.map_id _)
  exact if_neg fun (hblank : c = ' ') => h (hblank ▸ hc)

lemma underscored_append (s t : String) : underscored (s ++ t) = underscored s ++ underscored t := by
  rw [← String.toList_inj]
  simp [toList_underscored]

lemma underscored_written (h : ' ' ∉ pageNamespace.toList) :
    underscored (written pageNamespace title) = full pageNamespace title := by
  rw [written, full]
  split
  · rfl
  · rw [underscored_append, underscored_append, underscored_eq_self h]
    rfl

end PageTitle

namespace PageList

open PageTitle

variable {titles : List String} {pages : List (String × String)} {t : String}

def registered (l : PageList) (pages : List (String × String)) : PageList :=
  pages.foldl (fun l page => l.add page.1 page.2) l

lemma lookup_eq_true_iff {l : PageList} : l.lookup t = .ok true ↔ l.titles.contains t = true :=
  ⟨Except.ok.inj, congrArg Except.ok⟩

lemma contains_registered_iff (l : PageList) : (l.registered pages).titles.contains t = true ↔
    l.titles.contains t = true ∨ ∃ page ∈ pages, full page.1 page.2 = t := by
  induction pages generalizing l with
  | nil => simp [registered]
  | cons page pages ih =>
    have hadd : (l.add page.1 page.2).titles.contains t = true ↔
        l.titles.contains t = true ∨ full page.1 page.2 = t := by
      rw [add, SortedMap.contains, SortedMap.get?_insert]
      by_cases h : full page.1 page.2 = t
      · simp [h]
      · simp [h, SortedMap.contains]
    change ((l.add page.1 page.2).registered pages).titles.contains t = true ↔ _
    rw [ih, hadd, List.exists_mem_cons_iff, or_assoc]

lemma lookup_registered_iff : ((ofTitles titles).registered pages).lookup t = .ok true ↔
    (∃ s ∈ titles, underscored s = t) ∨ ∃ page ∈ pages, full page.1 page.2 = t := by
  rw [lookup_eq_true_iff, contains_registered_iff, ofTitles, SortedMap.contains_setOf, List.mem_map]

end PageList

namespace Rule

lemma commonsLink_complies_iff {s : Services} {context : Context} {c : Constraint} {pages : PageLookup}
    {pageNamespace title : String} (hpages : s.pages = some pages)
    (hnamespace : Parameters.pageNamespace s.config c = .ok pageNamespace)
    (hvalue : context.snak.value? = some (.string title)) (htitle : PageTitle.isWellFormed title = true) :
    commonsLink.Gives s context c .compliance ↔ pages (PageTitle.full pageNamespace title) = .ok true := by
  simp only [Gives, commonsLink, hnamespace, Context.requireValue, hvalue, bind, Except.bind, pure, Except.pure, htitle,
    hpages]
  cases pages (PageTitle.full pageNamespace title) with
  | error e => simp [Verdict.settle, Verdict.withParameter, Verdict.violation]
  | ok found =>
    cases found <;> simp [Verdict.settle, Verdict.withParameter, Verdict.violation, Verdict.compliance]

end Rule

namespace PageList

open PageTitle

/-- A page whose full title is listed is found exactly if its namespace has no blank, or it is registered besides.
A registered one always is, and the rule about links asks for no more than that. -/
theorem listed_found_iff {pageNamespace title : String} (htitle : isWellFormed title = true) (titles : List String)
    (pages : List (String × String)) :
    let l := (ofTitles titles).registered pages
    (written pageNamespace title ∈ titles →
      (l.lookup (full pageNamespace title) = .ok true ↔
        ' ' ∉ pageNamespace.toList ∨ ∃ page ∈ pages, full page.1 page.2 = full pageNamespace title)) ∧
    ((pageNamespace, title) ∈ pages → l.lookup (full pageNamespace title) = .ok true) ∧
    (∀ s context c, s.pages = some l.lookup → Parameters.pageNamespace s.config c = .ok pageNamespace →
      context.snak.value? = some (.string title) →
      (Rule.commonsLink.Gives s context c .compliance ↔ l.lookup (full pageNamespace title) = .ok true)) ∧
    (' ' ∉ (full pageNamespace title).toList ↔ ' ' ∉ pageNamespace.toList) := by
  refine ⟨fun hlisted => ?_, fun hpage => ?_, fun s context c hpages hnamespace hvalue => ?_, ?_⟩
  · rw [lookup_registered_iff]
    refine or_congr_left ⟨?_, fun hblank => ⟨_, hlisted, underscored_written hblank⟩⟩
    rintro ⟨t, -, ht⟩
    rw [← @blank_mem_full_iff pageNamespace title, ← ht]
    exact blank_notMem_underscored t
  · exact lookup_registered_iff.mpr (.inr ⟨_, hpage, rfl⟩)
  · exact Rule.commonsLink_complies_iff hpages hnamespace hvalue htitle
  · exact not_congr blank_mem_full_iff

theorem listed_found_of_files :
    let l := (ofTitles ["File:Example page.jpg"]).registered [("User talk", "Example page")]
    isWellFormed "Example page.jpg" = true ∧ isWellFormed "Example page" = true ∧
      l.lookup "File:Example_page.jpg" = .ok true ∧ l.lookup "User talk:Example_page" = .ok true := by
  have hfile : isWellFormed "Example page.jpg" = true := by decide
  have htalk : isWellFormed "Example page" = true := by decide
  let titles := ["File:Example page.jpg"]
  let pages := [("User talk", "Example page")]
  obtain ⟨hlisted, -⟩ := @listed_found_iff "File" _ hfile titles pages
  obtain ⟨-, hregistered, -⟩ := @listed_found_iff "User talk" _ htalk titles pages
  exact ⟨hfile, htalk, (hlisted (by decide)).mpr (.inl (by decide)), hregistered List.mem_cons_self⟩

end PageList

namespace Sample

def talkLink : Constraint where
  id := "P18$1"
  property := ⟨18⟩
  type := ⟨21510852⟩
  parameters := .ofSnaks [.value ⟨2307⟩ (.string "User talk")]

def linking (title : String) : Context :=
  ⟨.empty (.item ⟨1⟩), { guid := "Q1$1", mainSnak := .value ⟨18⟩ (.string title) }, 0, .mainSnak⟩

end Sample

namespace PageList

open PageTitle Sample

theorem spaced_namespace_missed :
    let l := ofTitles ["User talk:Example page"]
    let s : Services := { config := {}, find? := fun _ => none, pages := some l.lookup, now := ⟨0, 0⟩ }
    isWellFormed "Example page" = true ∧ Parameters.pageNamespace s.config talkLink = .ok "User talk" ∧
      written "User talk" "Example page" ∈ ["User talk:Example page"] ∧
      ' ' ∈ (full "User talk" "Example page").toList ∧
      l.lookup (full "User talk" "Example page") = .ok false ∧
      ((Rule.commonsLink.verdict s (linking "Example page") talkLink).toOption.map (·.status)) =
        some .violation := by
  decide

end PageList

end EntityAudit
