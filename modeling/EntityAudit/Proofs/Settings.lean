import EntityAudit.Settings
import EntityAudit.Proofs.Decimal.Reading
import EntityAudit.Proofs.Encoding.Config

namespace EntityAudit

namespace Status

lemma comma_notMem_name (s : Status) : ',' ∉ s.name.toList := by
  cases s
  all_goals decide

lemma trim_name (s : Status) : Text.trim s.name.toList = s.name.toList := by
  cases s
  all_goals decide

lemma name_ne_empty (s : Status) : s.name ≠ "" := by
  cases s
  all_goals decide

lemma splitAll_listText {l : List Status} (h : l ≠ []) :
    Text.splitAll ',' (listText l).toList = l.map fun s => s.name.toList := by
  have hcommas : ∀ cs ∈ (l.map name).map String.toList, ',' ∉ cs := by
    simp only [List.map_map, List.forall_mem_map]
    exact fun s _ => comma_notMem_name s
  rw [Text.splitAll_eq_splitOn, listText, String.toList_intercalate]
  refine (List.splitOn_intercalate ',' hcommas (by simpa using h)).trans ?_
  rw [List.map_map]
  rfl

lemma listOf_listText (l : List Status) : listOf (listText l) = .ok l := by
  by_cases h : l = []
  · subst h
    rfl
  · have hnames : (Text.splitAll ',' (listText l).toList).map (fun cs => String.ofList (Text.trim cs)) =
        l.map name := by
      rw [splitAll_listText h, List.map_map]
      refine List.map_congr_left fun s _ => ?_
      rw [Function.comp_apply, trim_name, String.ofList_toList]
    have hkept : (l.map name).filter (· ≠ "") = l.map name := by
      rw [List.filter_eq_self]
      simpa using fun s _ => name_ne_empty s
    unfold listOf
    dsimp only
    rw [hnames, hkept]
    clear h hnames hkept
    induction l with
    | nil => rfl
    | cons s l ih =>
      rw [List.map_cons, List.mapM_cons, ih, ofString?_name]
      rfl

end Status

namespace Settings

lemma bool?_boolText (b : Bool) : bool? (boolText b) = some b := by
  cases b
  · rfl
  · rfl

structure IsSized (s : Settings) : Prop where
  typeCheckMaxDepth : s.checker.typeCheckMaxDepth < UInt32.size
  graphQueryTimeoutMs : s.checker.graphQueryTimeoutMs < UInt64.size
  pageExistenceTimeoutMs : s.checker.pageExistenceTimeoutMs < UInt64.size

def adopt (s t : Settings) : SettingKey → Settings
  | .dataDir => { s with dataDir := t.dataDir }
  | .format => { s with format := t.format }
  | .cache => { s with usesCache := t.usesCache }
  | .typeCheckMaxDepth =>
    { s with checker := { s.checker with typeCheckMaxDepth := t.checker.typeCheckMaxDepth } }
  | .useGraphQueryForTypes =>
    { s with checker := { s.checker with useGraphQueryForTypes := t.checker.useGraphQueryForTypes } }
  | .graphQueryTimeoutMs =>
    { s with checker := { s.checker with graphQueryTimeoutMs := t.checker.graphQueryTimeoutMs } }
  | .checkDurationInfoSeconds =>
    { s with checker := { s.checker with checkDurationInfoSeconds := t.checker.checkDurationInfoSeconds } }
  | .checkDurationWarningSeconds =>
    { s with checker := { s.checker with checkDurationWarningSeconds := t.checker.checkDurationWarningSeconds } }
  | .commonsBaseUrl => { s with checker := { s.checker with commonsBaseUrl := t.checker.commonsBaseUrl } }
  | .pageExistenceTimeoutMs =>
    { s with checker := { s.checker with pageExistenceTimeoutMs := t.checker.pageExistenceTimeoutMs } }
  | .cachedStatuses => { s with checker := { s.checker with cachedStatuses := t.checker.cachedStatuses } }

/-- What no key stands for. -/
def unkeyed (s : Settings) : Settings where
  dataDir := ""
  checker := { s.checker with
    typeCheckMaxDepth := 0
    useGraphQueryForTypes := false
    graphQueryTimeoutMs := 0
    checkDurationInfoSeconds := 0
    checkDurationWarningSeconds := 0
    cachedStatuses := []
    commonsBaseUrl := ""
    pageExistenceTimeoutMs := 0 }

variable {s t : Settings} {key : SettingKey} {text : String}

lemma adopt_self (s : Settings) (key : SettingKey) : s.adopt s key = s := by
  cases key
  all_goals rfl

lemma get_adopt (s t : Settings) (key : SettingKey) : (s.adopt t key).get key = t.get key := by
  cases key
  all_goals rfl

lemma get_adopt_of_ne {other : SettingKey} (h : other ≠ key) : (s.adopt t key).get other = s.get other := by
  cases key
  all_goals
    cases other
    all_goals simp [adopt, get] at h ⊢

lemma unkeyed_adopt (s t : Settings) (key : SettingKey) : (s.adopt t key).unkeyed = s.unkeyed := by
  cases key
  all_goals rfl

section

variable {α : Type} {value : Except SettingError α} {change : α → Settings → Settings} {e : SettingError}

lemma exists_of_assign (h : (assign value change).run s = (.ok (), t)) : ∃ a, t = change a s := by
  cases value with
  | error e => cases h
  | ok a => exact ⟨a, (Prod.mk.inj h).2.symm⟩

lemma eq_of_assign (h : (assign value change).run s = (.error e, t)) : t = s := by
  cases value with
  | error e => exact (Prod.mk.inj h).2.symm
  | ok a => cases h

end

lemma eq_adopt_of_set (h : s.set key text = (.ok (), t)) : t = s.adopt t key := by
  cases key
  all_goals
    obtain ⟨a, rfl⟩ := exists_of_assign h
    rfl

lemma eq_of_set {e : SettingError} (h : s.set key text = (.error e, t)) : t = s := by
  cases key
  all_goals exact eq_of_assign h

lemma set_get (s : Settings) (ht : t.IsSized) (hinfo : t.checker.checkDurationInfoSeconds.isNaN = false)
    (hwarning : t.checker.checkDurationWarningSeconds.isNaN = false) (key : SettingKey) :
    s.set key (t.get key) = (.ok (), s.adopt t key) := by
  cases key with
  | dataDir => rfl
  | format => rfl
  | commonsBaseUrl => rfl
  | cache =>
    simp only [set, edit, get, bool?_boolText]
    rfl
  | useGraphQueryForTypes =>
    simp only [set, edit, get, bool?_boolText]
    rfl
  | typeCheckMaxDepth =>
    simp only [set, edit, get, Text.natural?_toString ht.typeCheckMaxDepth]
    rfl
  | graphQueryTimeoutMs =>
    simp only [set, edit, get, Text.natural?_toString ht.graphQueryTimeoutMs]
    rfl
  | pageExistenceTimeoutMs =>
    simp only [set, edit, get, Text.natural?_toString ht.pageExistenceTimeoutMs]
    rfl
  | checkDurationInfoSeconds =>
    simp only [set, edit, get, Decimal.float?_text hinfo]
    rfl
  | checkDurationWarningSeconds =>
    simp only [set, edit, get, Decimal.float?_text hwarning]
    rfl
  | cachedStatuses =>
    simp only [set, edit, get, Status.listOf_listText]
    rfl

end Settings

namespace SettingKey

lemma ofName?_name (key : SettingKey) : ofName? key.name = some key := by
  cases key
  all_goals decide

lemma exists_of_mem_names {name : String} (h : name ∈ names) : ∃ key : SettingKey, key.name = name := by
  obtain ⟨key, -, rfl⟩ := List.mem_map.mp h
  exact ⟨key, rfl⟩

lemma name_of_ofName? {name : String} {key : SettingKey} (h : ofName? name = some key) : key.name = name := by
  unfold ofName? at h
  exact of_decide_eq_true (List.find?_some h :)

end SettingKey

namespace Settings

/-- Two settings that only differ in what the key of a name is read as. -/
def AgreeApart (name : String) (s t : Settings) : Prop :=
  (∀ other ∈ SettingKey.names, other ≠ name → t.getNamed? other = s.getNamed? other) ∧ t.unkeyed = s.unkeyed

variable {s t : Settings} {name text : String} {key : SettingKey}

lemma getNamed?_name (s : Settings) (key : SettingKey) : s.getNamed? key.name = some (s.get key) := by
  rw [getNamed?, SettingKey.ofName?_name]
  rfl

lemma setNamed_name (s : Settings) (key : SettingKey) (text : String) :
    s.setNamed key.name text = s.set key text := by
  rw [setNamed, editNamed, SettingKey.ofName?_name]
  rfl

lemma agreeApart_adopt (s t : Settings) (key : SettingKey) : AgreeApart key.name s (s.adopt t key) := by
  refine ⟨fun name hname hne => ?_, unkeyed_adopt s t key⟩
  obtain ⟨other, rfl⟩ := SettingKey.exists_of_mem_names hname
  rw [getNamed?_name, getNamed?_name, get_adopt_of_ne fun h => hne (congrArg SettingKey.name h)]

lemma agreeApart_of_setNamed (h : s.setNamed name text = (.ok (), t)) : AgreeApart name s t := by
  unfold setNamed editNamed at h
  split at h
  · rename_i key hkey
    rw [← SettingKey.name_of_ofName? hkey, eq_adopt_of_set h]
    exact agreeApart_adopt s t key
  · cases h

lemma eq_of_setNamed {e : SettingError} (h : s.setNamed name text = (.error e, t)) : t = s := by
  unfold setNamed editNamed at h
  split at h
  · exact eq_of_set h
  · exact (Prod.mk.inj h).2.symm

lemma setNamed_getNamed? (hs : s.IsSized) (hinfo : s.checker.checkDurationInfoSeconds.isNaN = false)
    (hwarning : s.checker.checkDurationWarningSeconds.isNaN = false) (hname : name ∈ SettingKey.names) :
    ∃ text, s.getNamed? name = some text ∧ s.setNamed name text = (.ok (), s) := by
  obtain ⟨key, rfl⟩ := SettingKey.exists_of_mem_names hname
  refine ⟨s.get key, getNamed?_name s key, ?_⟩
  rw [setNamed_name, set_get s hs hinfo hwarning, adopt_self]

end Settings

end EntityAudit
