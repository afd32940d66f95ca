import EntityAudit.Proofs.Program
import EntityAudit.Proofs.Settings
import EntityAudit.Proofs.Toml.Bounded

/-!
Settings that are saved are read again from their file, unless one of their ids has the number zero. Such an id comes
from a file in which zeros follow a plus sign; with its text the file describes no settings, and all of them are lost.
-/

namespace EntityAudit

/-! ## What a file gives -/

namespace Json

variable {names : List String} {items : List Json} {members : List (String × Json)} {r : Record} {j k : Json}
  {name : String} {limit n m : Nat}

lemma mem_of_zipNames? (h : zipNames? names items = some members) : ∀ m ∈ members, m.2 ∈ items := by
  induction items generalizing names members with
  | nil =>
    obtain rfl : members = [] := by
      cases names
      all_goals exact (Option.some.inj h).symm
    exact List.forall_mem_nil _
  | cons j items ih =>
    cases names with
    | nil => cases h
    | cons name names =>
      obtain ⟨rest, hrest, rfl⟩ := Option.map_eq_some_iff.mp h
      exact List.forall_mem_cons.mpr ⟨List.mem_cons_self, fun m hm => List.mem_cons_of_mem _ (ih hrest m hm)⟩

lemma mem_of_lookup (h : lookup members name = some k) : ∃ m ∈ members, m.2 = k := by
  obtain ⟨m, hm, rfl⟩ := Option.map_eq_some_iff.mp h
  exact ⟨m, List.mem_of_find?_eq_some hm, rfl⟩

namespace Bounded

lemma get? (h : j.Bounded) (hr : j.record? names = some r) (hget : r.get? name = some k) : k.Bounded := by
  unfold record? at hr
  split at hr
  · obtain ⟨-, hr⟩ := Option.ite_none_right_eq_some.mp hr
    obtain rfl := Option.some.inj hr
    obtain ⟨m, hm, rfl⟩ := mem_of_lookup hget
    cases h with
    | object h => exact h m hm
  · obtain ⟨members, hmembers, rfl⟩ := Option.map_eq_some_iff.mp hr
    obtain ⟨m, hm, rfl⟩ := mem_of_lookup hget
    cases h with
    | array h => exact h m.2 (mem_of_zipNames? hmembers m hm)
  · cases hr

lemma lt_of_natural? (h : j.Bounded) (hn : natural? limit j = some n) : n < 9223372036854775808 := by
  unfold natural? at hn
  split at hn
  · obtain ⟨-, hn⟩ := Option.ite_none_right_eq_some.mp hn
    obtain rfl := Option.some.inj hn
    cases h with
    | integer h => omega
  · cases hn

lemma lt_of_defaulting? (h : j.Bounded) (hr : j.record? names = some r) (hvalue : n < 9223372036854775808)
    (hm : r.defaulting? name n (natural? limit) = some m) : m < 9223372036854775808 := by
  unfold Record.defaulting? at hm
  split at hm
  · obtain rfl := Option.some.inj hm
    exact hvalue
  · exact (h.get? hr ‹_›).lt_of_natural? hm

end Bounded

end Json

lemma Config.storable_of_ofJson? {c : Config} {j : Json} (hj : j.Bounded) (h : ofJson? j = some c)
    (hinfo : c.checkDurationInfoSeconds.isNaN = false) (hwarning : c.checkDurationWarningSeconds.isNaN = false) :
    c.Storable := by
  unfold ofJson? at h
  obtain ⟨_, hr, h⟩ := Option.bind_eq_some_iff.mp h
  obtain ⟨_, -, h⟩ := Option.bind_eq_some_iff.mp h
  obtain ⟨_, -, h⟩ := Option.bind_eq_some_iff.mp h
  obtain ⟨_, -, h⟩ := Option.bind_eq_some_iff.mp h
  obtain ⟨_, -, h⟩ := Option.bind_eq_some_iff.mp h
  obtain ⟨_, -, h⟩ := Option.bind_eq_some_iff.mp h
  obtain ⟨depth, hdepth, h⟩ := Option.bind_eq_some_iff.mp h
  obtain ⟨_, -, h⟩ := Option.bind_eq_some_iff.mp h
  obtain ⟨query, hquery, h⟩ := Option.bind_eq_some_iff.mp h
  obtain ⟨_, -, h⟩ := Option.bind_eq_some_iff.mp h
  obtain ⟨_, -, h⟩ := Option.bind_eq_some_iff.mp h
  obtain ⟨_, -, h⟩ := Option.bind_eq_some_iff.mp h
  obtain ⟨_, -, h⟩ := Option.bind_eq_some_iff.mp h
  obtain ⟨_, -, h⟩ := Option.bind_eq_some_iff.mp h
  obtain ⟨page, hpage, h⟩ := Option.bind_eq_some_iff.mp h
  obtain rfl := Option.some.inj h
  exact ⟨Json.Record.lt_of_defaulting? (by decide) hdepth, hj.lt_of_defaulting? hr (by decide) hquery,
    hj.lt_of_defaulting? hr (by decide) hpage, hinfo, hwarning⟩

namespace Settings

variable {initial s t : Settings} {name text : String}

lemma isSized_of_storable (h : s.checker.Storable) : s.IsSized :=
  ⟨h.typeCheckMaxDepth, h.graphQueryTimeoutMs.trans (by decide), h.pageExistenceTimeoutMs.trans (by decide)⟩

lemma storable_of_ofJson? {j : Json} (hinitial : initial.checker.Storable) (hj : j.Bounded)
    (h : ofJson? initial j = some s) (hinfo : s.checker.checkDurationInfoSeconds.isNaN = false)
    (hwarning : s.checker.checkDurationWarningSeconds.isNaN = false) : s.checker.Storable := by
  unfold ofJson? at h
  obtain ⟨r, hr, h⟩ := Option.bind_eq_some_iff.mp h
  obtain ⟨_, -, h⟩ := Option.bind_eq_some_iff.mp h
  obtain ⟨_, -, h⟩ := Option.bind_eq_some_iff.mp h
  obtain ⟨_, -, h⟩ := Option.bind_eq_some_iff.mp h
  obtain ⟨checker, hchecker, h⟩ := Option.bind_eq_some_iff.mp h
  obtain rfl := Option.some.inj h
  unfold Json.Record.defaulting? at hchecker
  split at hchecker
  · obtain rfl := Option.some.inj hchecker
    exact hinitial
  · exact Config.storable_of_ofJson? (hj.get? hr ‹_›) hchecker hinfo hwarning

lemma storable_read (hinitial : initial.checker.Storable)
    (hinfo : (read initial text).checker.checkDurationInfoSeconds.isNaN = false)
    (hwarning : (read initial text).checker.checkDurationWarningSeconds.isNaN = false) :
    (read initial text).checker.Storable := by
  unfold read at hinfo hwarning ⊢
  cases h : (Toml.read? text).bind (ofJson? initial) with
  | none => exact hinitial
  | some s =>
    rw [h] at hinfo hwarning
    obtain ⟨j, hj, hs⟩ := Option.bind_eq_some_iff.mp h
    exact storable_of_ofJson? hinitial (Toml.bounded_read? hj) hs hinfo hwarning

lemma exists_text (hs : s.checker.Storable) : ∃ text, s.text? = some text ∧
    ∀ initial, (¬ s.checker.HasZeroId → read initial text = s) ∧ (s.checker.HasZeroId → read initial text = initial) := by
  obtain ⟨ms, hms, htabular, hchecker⟩ := Config.exists_members hs
  have htoJson : s.toJson = .object [("data_dir", .text s.dataDir), ("format", .text s.format),
      ("cache", .bool s.usesCache), ("checker", .object ms)] := by
    rw [toJson, hms]
  have hkeys : ∀ key ∈ ["data_dir", "format", "cache", "checker"], Toml.IsBareKey key :=
    Toml.isBareKey_of_all (by decide)
  have hsettings : Toml.Tabular 3 [("data_dir", .text s.dataDir), ("format", .text s.format),
      ("cache", .bool s.usesCache), ("checker", .object ms)] := by
    refine Toml.tabular_of (fun m hm => hkeys m.1 (List.mem_map_of_mem hm)) (by simp) ?_
    simp only [List.forall_mem_cons]
    exact ⟨.inl (.scalar (.text _)), .inl (.scalar (.text _)), .inl (.scalar (.bool _)), .inr ⟨ms, rfl, htabular⟩,
      List.forall_mem_nil _⟩
  obtain ⟨text, htext, hread⟩ := Toml.read?_write hsettings (by decide)
  have harranged : Toml.arranged [("data_dir", .text s.dataDir), ("format", .text s.format),
      ("cache", .bool s.usesCache), ("checker", .object ms)] = [("data_dir", .text s.dataDir),
      ("format", .text s.format), ("cache", .bool s.usesCache), ("checker", .object (Toml.arranged ms))] := by
    simp only [Toml.arranged, Toml.plainNodes, Toml.tableNodes, Toml.membersJson, Toml.Node.toJson, List.cons_append,
      List.nil_append]
  rw [harranged] at hread
  have hofJson (initial t : Settings) : ofJson? initial (.object [("data_dir", .text s.dataDir), ("format", .text s.format),
      ("cache", .bool s.usesCache), ("checker", .object (Toml.arranged ms))]) = some t ↔
      ¬ s.checker.HasZeroId ∧ s = t := by
    rw [ofJson?, Json.record?_object (by simp), Option.bind_eq_bind, Option.bind_some]
    simp only [Json.Record.defaulting?_cons, String.reduceEq, if_true, if_false, Json.string?, Json.bool?]
    simp only [↓bind_some_eq_some_iff, Option.bind_eq_bind, Option.bind_eq_some_iff, hchecker, Option.pure_def,
      Option.some.injEq]
    constructor
    · rintro ⟨checker, ⟨hzero, rfl⟩, ht⟩
      exact ⟨hzero, ht⟩
    · rintro ⟨hzero, rfl⟩
      exact ⟨s.checker, ⟨hzero, rfl⟩, rfl⟩
  refine ⟨text, by rw [text?, htoJson, htext], fun initial => ⟨fun hzero => ?_, fun hzero => ?_⟩⟩
  · rw [read, hread, Option.bind_some, (hofJson initial s).mpr ⟨hzero, rfl⟩, Option.getD_some]
  · have hnone := Option.eq_none_iff_forall_ne_some.mpr fun t ht => ((hofJson initial t).mp ht).1 hzero
    rw [read, hread, Option.bind_some, hnone, Option.getD_none]

end Settings

/-! ## The program -/

namespace Program

variable {env : Environment} {d e : Directory} {s t : Settings} {name text : String}

def stored (env : Environment) (d : Directory) : Settings :=
  match d.readFile env.configFile with
  | .ok text => Settings.read (initialSettings env) text
  | .error _ => initialSettings env

def configIn (env : Environment) (r : ConfigRequest) (d : Directory) : Except Failure Outcome × Directory :=
  (config (m := StateM Directory) env r).run d

/-- The file of the settings can be written: its folder is there or can be made, and its path is not that of a folder. -/
def CanSave (env : Environment) (d : Directory) : Prop :=
  ∃ e p, (if Paths.folder env.configFile = "" then .ok d else d.makeFolders (Paths.folder env.configFile)) = .ok e ∧
    e.locate env.configFile = .ok p ∧ e.isFolder p = false

lemma stored_of_readFile (h : d.readFile env.configFile = .ok text) :
    stored env d = Settings.read (initialSettings env) text := by
  rw [stored, h]

lemma storable_initial (env : Environment) : (initialSettings env).checker.Storable where
  typeCheckMaxDepth := show 20 < UInt32.size by decide
  graphQueryTimeoutMs := show 5000 < 9223372036854775808 by decide
  pageExistenceTimeoutMs := show 5000 < 9223372036854775808 by decide
  checkDurationInfoSeconds := show (1.0 : Float).isNaN = false by decide
  checkDurationWarningSeconds := show (10.0 : Float).isNaN = false by decide

theorem storable_stored (hinfo : (stored env d).checker.checkDurationInfoSeconds.isNaN = false)
    (hwarning : (stored env d).checker.checkDurationWarningSeconds.isNaN = false) : (stored env d).checker.Storable := by
  unfold stored at hinfo hwarning ⊢
  split
  · rename_i text h
    rw [h] at hinfo hwarning
    exact Settings.storable_read (storable_initial env) hinfo hwarning
  · exact storable_initial env

lemma run_settings (env : Environment) (d : Directory) :
    (settings (m := StateM Directory) env).run d = (.ok (stored env d), d) := by
  have hread : (settings (m := StateM Directory) env).run d =
      (match d.readFile env.configFile with
        | .ok text => (pure (Settings.read (initialSettings env) text) : Run (StateM Directory) Settings)
        | .error _ => pure (initialSettings env)) d := rfl
  rw [hread, stored]
  cases d.readFile env.configFile with
  | ok text => rfl
  | error e => rfl

lemma run_save (h : CanSave env d) (htext : s.text? = some text) :
    ∃ e, (save (m := StateM Directory) env s).run d = (.ok (), e) ∧ e.readFile env.configFile = .ok text := by
  obtain ⟨d', p, hfolders, hlocate, hp⟩ := h
  obtain ⟨e, hwrite⟩ : ∃ e, d'.writeFile env.configFile text = .ok e :=
    ⟨_, Directory.writeFile_of_locate hlocate hp text⟩
  have hstep : Host.writeFile (m := StateM Directory) env.configFile text d' = (.ok (), e) := by
    change Directory.step _ d' = _
    rw [Directory.step, hwrite]
  have hsaved : (do
      orFail (fun _ => "Failed to write config file " ++ env.configFile)
        (← Host.writeFile (m := StateM Directory) env.configFile text) : Run (StateM Directory) Unit).run d' =
      (.ok (), e) := by
    rw [run_lift_bind, hstep]
    rfl
  refine ⟨e, ?_, Directory.readFile_writeFile hwrite⟩
  unfold save
  by_cases hfolder : Paths.folder env.configFile = ""
  · rw [if_pos hfolder] at hfolders
    obtain rfl := Except.ok.inj hfolders
    simp only [hfolder, ne_eq, not_true_eq_false, if_false, htext]
    exact hsaved
  · rw [if_neg hfolder] at hfolders
    have hmake : Host.makeFolders (m := StateM Directory) (Paths.folder env.configFile) d = (.ok (), d') := by
      change Directory.step _ d = _
      rw [Directory.step, hfolders]
    simp only [hfolder, ne_eq, not_false_eq_true, if_true, htext]
    rw [run_lift_bind, hmake]
    exact hsaved

lemma run_set {r : Except SettingError Unit} (h : (stored env d).setNamed name text = (r, t)) :
    (set (m := StateM Directory) env name text).run d =
      (do
        orFail SettingError.message r
        save env t : Run (StateM Directory) Unit).run d := by
  unfold set
  rw [run_bind_ok (run_settings env d), h]

lemma configIn_set_of_error {e : SettingError} (h : (stored env d).setNamed name text = (.error e, t)) :
    configIn env (.set name text) d = (.error (.error e.message), d) :=
  run_bind_error (run_set h)

lemma configIn_unset (hdefault : (initialSettings env).getNamed? name = some text)
    (hset : (stored env d).setNamed name text = (.ok (), t))
    (hsave : (save (m := StateM Directory) env t).run d = (.ok (), e)) :
    configIn env (.unset name) d = (.ok (line ("Reset " ++ name ++ " = " ++ text)), e) := by
  have hrequest : config (m := StateM Directory) env (.unset name) = (do
      set env name text
      return line ("Reset " ++ name ++ " = " ++ text)) := by
    simp only [config, hdefault]
  unfold configIn
  rw [hrequest]
  exact run_bind_ok ((run_set hset).trans hsave)

end Program

namespace Settings

open Program

variable {env : Environment} {s t : Settings} {name text : String} {key : SettingKey}

lemma hasZeroId_adopt (s t : Settings) (key : SettingKey) :
    (s.adopt t key).checker.HasZeroId ↔ s.checker.HasZeroId := by
  cases key
  all_goals exact Iff.rfl

lemma hasZeroId_of_unkeyed (h : t.unkeyed = s.unkeyed) : t.checker.HasZeroId ↔ s.checker.HasZeroId := by
  have hids : t.unkeyed.checker.HasZeroId ↔ s.unkeyed.checker.HasZeroId := by rw [h]
  exact hids

lemma not_hasZeroId_initial (env : Environment) : ¬ (initialSettings env).checker.HasZeroId := by
  change ¬ Config.HasZeroId {}
  unfold Config.HasZeroId
  decide

lemma storable_adopt (hs : s.checker.Storable) (ht : t.checker.Storable) (key : SettingKey) :
    (s.adopt t key).checker.Storable := by
  cases key
  case typeCheckMaxDepth => exact { hs with typeCheckMaxDepth := ht.typeCheckMaxDepth }
  case graphQueryTimeoutMs => exact { hs with graphQueryTimeoutMs := ht.graphQueryTimeoutMs }
  case pageExistenceTimeoutMs => exact { hs with pageExistenceTimeoutMs := ht.pageExistenceTimeoutMs }
  case checkDurationInfoSeconds => exact { hs with checkDurationInfoSeconds := ht.checkDurationInfoSeconds }
  case checkDurationWarningSeconds => exact { hs with checkDurationWarningSeconds := ht.checkDurationWarningSeconds }
  all_goals exact ⟨hs.1, hs.2, hs.3, hs.4, hs.5⟩

lemma exists_unset {d : Directory} (hs : (stored env d).checker.Storable) (hd : CanSave env d)
    (hname : name ∈ SettingKey.names) : ∃ text e, (initialSettings env).getNamed? name = some text ∧
      configIn env (.unset name) d = (.ok (line ("Reset " ++ name ++ " = " ++ text)), e) ∧
      (stored env e).getNamed? name = some text ∧
      ((stored env d).checker.HasZeroId → stored env e = initialSettings env) ∧
      (¬ (stored env d).checker.HasZeroId → AgreeApart name (stored env d) (stored env e)) := by
  obtain ⟨key, rfl⟩ := SettingKey.exists_of_mem_names hname
  have hinitial := storable_initial env
  have hset : (stored env d).setNamed key.name ((initialSettings env).get key) =
      (.ok (), (stored env d).adopt (initialSettings env) key) := by
    rw [setNamed_name]
    exact set_get _ (isSized_of_storable hinitial) hinitial.checkDurationInfoSeconds
      hinitial.checkDurationWarningSeconds key
  -- No key stands for an id, so what is saved can be read exactly if what was read before could be written back.
  obtain ⟨text, htext, hread⟩ := exists_text (storable_adopt hs hinitial key)
  obtain ⟨hkept, hlost⟩ := hread (initialSettings env)
  rw [hasZeroId_adopt] at hkept hlost
  obtain ⟨e, hsave, hfile⟩ := run_save hd htext
  rw [← stored_of_readFile hfile] at hkept hlost
  have hdefault := getNamed?_name (initialSettings env) key
  refine ⟨_, e, hdefault, configIn_unset hdefault hset hsave, ?_, hlost, fun hzero => ?_⟩
  · by_cases hzero : (stored env d).checker.HasZeroId
    · rw [hlost hzero, hdefault]
    · rw [hkept hzero, getNamed?_name, get_adopt]
  · rw [hkept hzero]
    exact agreeApart_adopt _ _ key

/-- What a key is read as can be written back and changes nothing; a key that is written changes only what it is
read as itself, and a key that is refused nothing. A key that is reset in the file is read as its default from then
on, and all other settings are read as before, unless one of their ids has the number zero: then all are lost. -/
theorem keys_independent (env : Environment) (s : Settings) :
    (s.IsSized → s.checker.checkDurationInfoSeconds.isNaN = false →
      s.checker.checkDurationWarningSeconds.isNaN = false →
      ∀ name ∈ SettingKey.names, ∃ text, s.getNamed? name = some text ∧ s.setNamed name text = (.ok (), s)) ∧
    (∀ name text t, s.setNamed name text = (.ok (), t) → AgreeApart name s t) ∧
    (∀ name text e t, s.setNamed name text = (.error e, t) → t = s ∧ ∀ d, stored env d = s →
      configIn env (.set name text) d = (.error (.error e.message), d)) ∧
    (s.checker.checkDurationInfoSeconds.isNaN = false → s.checker.checkDurationWarningSeconds.isNaN = false →
      ∀ name ∈ SettingKey.names, ∀ d, stored env d = s → CanSave env d → ∃ text e,
        (initialSettings env).getNamed? name = some text ∧
        configIn env (.unset name) d = (.ok (line ("Reset " ++ name ++ " = " ++ text)), e) ∧
        (stored env e).getNamed? name = some text ∧
        (AgreeApart name s (stored env e) ↔ ¬ s.checker.HasZeroId) ∧
        (s.checker.HasZeroId → stored env e = initialSettings env)) := by
  refine ⟨fun hs hinfo hwarning name hname => setNamed_getNamed? hs hinfo hwarning hname,
    fun name text t h => agreeApart_of_setNamed h, fun name text e t h => ?_, fun hinfo hwarning name hname d hd hsave => ?_⟩
  · obtain rfl := eq_of_setNamed h
    refine ⟨rfl, ?_⟩
    rintro d rfl
    exact configIn_set_of_error h
  · subst hd
    obtain ⟨text, e, hdefault, hunset, hread, hlost, hkept⟩ :=
      exists_unset (storable_stored hinfo hwarning) hsave hname
    refine ⟨text, e, hdefault, hunset, hread, ⟨fun happart hzero => ?_, hkept⟩, hlost⟩
    rw [hlost hzero] at happart
    exact not_hasZeroId_initial env ((hasZeroId_of_unkeyed happart.2).mpr hzero)

/-! ## Examples -/

def configured (text : String) : Directory where
  files := SortedMap.empty.insert ["config.toml"] text
  now := ⟨0, 0⟩

lemma locate_config : Directory.locate { now := ⟨0, 0⟩ } "config.toml" = .ok ["config.toml"] := by
  have hstart : "config.toml".startsWith "/" = false := String.startsWith_string_eq_false_iff.mpr (by decide)
  have hnames : Directory.names "config.toml" = ([], ["config.toml"]) := by
    rw [Directory.names, hstart]
    rfl
  rw [Directory.locate, hnames]
  rfl

lemma canSave_configured (text dataDir : String) : CanSave ⟨"config.toml", dataDir⟩ (configured text) := by
  have hfolder : Paths.folder "config.toml" = "" := by decide
  exact ⟨configured text, ["config.toml"], if_pos hfolder, Directory.locate_files _ locate_config, rfl⟩

lemma stored_configured (text dataDir : String) :
    stored ⟨"config.toml", dataDir⟩ (configured text) = read { dataDir } text :=
  stored_of_readFile (Directory.readFile_writeFile (Directory.writeFile_of_locate locate_config rfl text))

def bare : Settings where
  dataDir := " "
  usesCache := true
  checker := { cachedStatuses := [], checkDurationInfoSeconds := -0.0, checkDurationWarningSeconds := 1.0 / 0.0 }

theorem bare_written_back :
    let env : Environment := { configFile := "config.toml", dataDir := "" }
    let d := configured (bare.text?.getD "")
    let plain : Settings := { bare with usesCache := false }
    bare.checker.checkDurationInfoSeconds.isNaN = false ∧ bare.checker.checkDurationWarningSeconds.isNaN = false ∧
    (bare.IsSized ∧
      ∀ name ∈ SettingKey.names, ∃ text, bare.getNamed? name = some text ∧ bare.setNamed name text = (.ok (), bare)) ∧
    (bare.setNamed "cache" "false" = (.ok (), plain) ∧ AgreeApart "cache" bare plain) ∧
    (bare.setNamed "cache" "no" = (.error (.invalidValue .cache "no"), bare) ∧ stored env d = bare ∧
      configIn env (.set "cache" "no") d = (.error (.error "Invalid value for cache: no"), d)) ∧
    "cache" ∈ SettingKey.names ∧ CanSave env d ∧ ∃ e,
      configIn env (.unset "cache") d = (.ok (line "Reset cache = false"), e) ∧
      (stored env e).getNamed? "cache" = some "false" ∧ AgreeApart "cache" bare (stored env e) := by
  intro env d plain
  obtain ⟨hback, hset, hrefused, hreset⟩ := keys_independent env bare
  have hsized : bare.IsSized := ⟨by decide, by decide, by decide⟩
  have hinfo : bare.checker.checkDurationInfoSeconds.isNaN = false := by decide
  have hwarning : bare.checker.checkDurationWarningSeconds.isNaN = false := by decide
  have hzero : ¬ bare.checker.HasZeroId := not_hasZeroId_initial env
  have hstored : stored env d = bare := by
    obtain ⟨text, htext, hread⟩ := exists_text (s := bare) ⟨by decide, by decide, by decide, hinfo, hwarning⟩
    have hd : d = configured text := by
      change configured (bare.text?.getD "") = _
      rw [htext, Option.getD_some]
    rw [hd, stored_configured, (hread _).1 hzero]
  have hmem : "cache" ∈ SettingKey.names := by decide
  have hsave : CanSave env d := canSave_configured _ ""
  obtain ⟨text, e, htext, hunset, hread, happart, -⟩ := hreset hinfo hwarning "cache" hmem d hstored hsave
  obtain rfl : "false" = text := Option.some.inj htext
  exact ⟨hinfo, hwarning, ⟨hsized, hback hsized hinfo hwarning⟩, ⟨rfl, hset "cache" "false" plain rfl⟩,
    ⟨rfl, hstored, (hrefused "cache" "no" _ bare rfl).2 d hstored⟩, hmem, hsave, e, hunset, hread, happart.mpr hzero⟩

def zeroText : String := "format = \"json\"\n\n[checker]\ninstance_of = \"P+0\"\n"

lemma read_zeroText (initial : Settings) :
    read initial zeroText = { initial with format := "json", checker := { instanceOf := ⟨0⟩ } } := by
  have hkeys : ∀ key ∈ ["format", "checker", "instance_of"], Toml.IsBareKey key :=
    Toml.isBareKey_of_all (by decide)
  have htabular : Toml.Tabular 1
      [("format", .text "json"), ("checker", .object [("instance_of", .text "P+0")])] :=
    .plain (hkeys _ (by decide)) (by decide) (.scalar (.text _))
      (.table (hkeys _ (by decide)) (by decide) (.plain (hkeys _ (by decide)) (by decide) (.scalar (.text _)) (.nil _)) (.nil _))
  obtain ⟨text, htext, hread⟩ := Toml.read?_write htabular (by decide)
  have hzero : Toml.write? (.object [("format", .text "json"), ("checker", .object [("instance_of", .text "P+0")])]) =
      some zeroText := by
    simp only [Toml.write?, Toml.plainLines?, Toml.tableLines?, Toml.inlineText?]
    rfl
  obtain rfl := Option.some.inj (hzero.symm.trans htext)
  simp only [Toml.arranged, Toml.plainNodes, Toml.tableNodes, Toml.membersJson, Toml.Node.toJson, List.cons_append,
    List.nil_append] at hread
  rw [read, hread]
  rfl

theorem zero_loses_settings :
    let env : Environment := { configFile := "config.toml", dataDir := "" }
    let d := configured zeroText
    (stored env d).checker.checkDurationInfoSeconds.isNaN = false ∧
      (stored env d).checker.checkDurationWarningSeconds.isNaN = false ∧
      (stored env d).getNamed? "format" = some "json" ∧
      ∃ e, configIn env (.unset "cache") d = (.ok (line "Reset cache = false"), e) ∧
        (stored env e).getNamed? "format" = some "table" := by
  intro env d
  have hstored : stored env d = { dataDir := "", format := "json", checker := { instanceOf := ⟨0⟩ } } := by
    rw [stored_configured, read_zeroText]
  have hinfo : (stored env d).checker.checkDurationInfoSeconds.isNaN = false := by
    rw [hstored]
    decide
  have hwarning : (stored env d).checker.checkDurationWarningSeconds.isNaN = false := by
    rw [hstored]
    decide
  obtain ⟨text, e, htext, hunset, -, hlost, -⟩ := exists_unset (storable_stored hinfo hwarning)
    (canSave_configured zeroText "") (show "cache" ∈ SettingKey.names by decide)
  obtain rfl : "false" = text := Option.some.inj htext
  refine ⟨hinfo, hwarning, by rw [hstored]; rfl, e, hunset, ?_⟩
  rw [hlost (by rw [hstored]; exact .inl rfl)]
  rfl

end Settings

end EntityAudit
