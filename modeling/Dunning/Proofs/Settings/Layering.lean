import Dunning.Proofs.Except
import Dunning.Proofs.Settings.Overlay
import Dunning.Settings.Load

/-!
# Settings are layered field by field

Every field of loaded settings is converted from what the topmost source gives for it (`topmost?`),
and a field of which no source says anything has its default, whatever the sources say of other
fields (`Settings.LayeredBy`). A source can also give a section as something else than a table. That
takes the place of the whole section, so for a section the statement asks that no source does it
(`GivesFields`).
-/

namespace Dunning

open RecordValue Setting

/-! ## Conversions -/

/-- What the conversion `convert` makes of collections: it takes no list, no table without entries,
and a table only for the name of its entry. -/
structure Setting.Converts {α : Type} (convert : Setting → Option α) : Prop where
  lists : ∀ items, convert (list items) = none
  empty : convert (table []) = none
  tables : ∀ {above all : List (String × Setting)} {a : α}, above ≠ [] → Fields.Ascending above →
    (∀ x ∈ Fields.names above, x ∈ Fields.names all) → convert (table all) = some a →
    convert (table above) = some a

namespace Setting

section
variable {α : Type} {convert : Setting → Option α}

theorem converts_of_none (lists : ∀ items, convert (list items) = none)
    (tables : ∀ entries, convert (table entries) = none) : Converts convert where
  lists := lists
  empty := tables []
  tables _ _ _ h := by
    rw [tables] at h
    cases h

/-- A field that was read from what stands at its place can be read from what the topmost layer
gives (`Shows`). -/
theorem Converts.defaulted_of_shows (hconvert : Converts convert) {given all : Option Setting}
    (hshows : Shows given all) {fallback a : α} (h : defaulted fallback convert all = some a) :
    defaulted fallback convert given = some a := by
  cases hshows with
  | same => exact h
  | emptied => exact absurd (hconvert.empty.symm.trans h) (by simp)
  | tables nonempty ascending names => exact hconvert.tables nonempty ascending names h
  | lists above all => exact absurd ((hconvert.lists all).symm.trans h) (by simp)

end

theorem converts_asText? : Converts asText? := converts_of_none (fun _ => rfl) fun _ => rfl

theorem converts_asBool? : Converts asBool? := converts_of_none (fun _ => rfl) fun _ => rfl

theorem converts_asCount? : Converts asCount? := converts_of_none (fun _ => rfl) fun _ => rfl

theorem converts_asFloat? : Converts asFloat? := converts_of_none (fun _ => rfl) fun _ => rfl

theorem converts_optional_asText? : Converts fun value => optional asText? (some value) :=
  converts_of_none (fun _ => rfl) fun _ => rfl

/-- The only name that a table can have, it has once. -/
theorem eq_singleton_of_names {above : List (String × Setting)} {name : String}
    (nonempty : above ≠ []) (ascending : Fields.Ascending above)
    (names : ∀ x ∈ Fields.names above, x = name) : ∃ value, above = [(name, value)] := by
  obtain ⟨entry, rest, rfl⟩ := List.exists_cons_of_ne_nil nonempty
  obtain ⟨first, value⟩ := entry
  obtain rfl : first = name := names first List.mem_cons_self
  obtain ⟨hfirst, _⟩ := List.pairwise_cons.1 ascending
  cases rest with
  | nil => exact ⟨value, rfl⟩
  | cons second rest =>
    have hlt : first < second.1 := hfirst second.1 List.mem_cons_self
    have heq : second.1 = first := names second.1 (List.mem_cons_of_mem _ List.mem_cons_self)
    exact absurd hlt (by rw [heq]; exact lt_irrefl first)

theorem converts_stage : Converts (Stage.read? : Setting → Option Stage) where
  lists _ := rfl
  empty := rfl
  tables := by
    intro above all a nonempty ascending names h
    match all, h with
    | [(name, _)], h =>
      obtain ⟨value, rfl⟩ := eq_singleton_of_names nonempty ascending
        (by simpa [Fields.names] using names)
      exact h

end Setting

/-! ## Sections -/

/-- The settings of the engine are what `source` gives under their names, or their defaults. -/
structure EngineSettings.From (source : String → Option Setting) (s : EngineSettings) : Prop where
  initialState : defaulted ({} : EngineSettings).initialState Setting.asText?
    (source "initial_state") = some s.initialState
  flowPath : defaulted ({} : EngineSettings).flowPath Setting.asText?
    (source "flow_definition_path") = some s.flowPath
  actionTimeoutSecs : defaulted ({} : EngineSettings).actionTimeoutSecs Setting.asCount?
    (source "action_timeout_secs") = some s.actionTimeoutSecs
  queryDataPath : optional Setting.asText? (source "query_data_path") = some s.queryDataPath

/-- The configuration of the monitor is what `source` gives under its names, or the defaults. -/
structure MonitorConfig.From (source : String → Option Setting) (c : MonitorConfig) : Prop where
  windowCapacity : defaulted ({} : MonitorConfig).windowCapacity Setting.asCount?
    (source "window_capacity") = some c.windowCapacity
  recentAlerts : defaulted ({} : MonitorConfig).recentAlerts Setting.asCount?
    (source "recent_alerts") = some c.recentAlerts
  alertDedupWindow : defaulted ({} : MonitorConfig).alertDedupWindow Setting.asCount?
    (source "alert_dedup_window") = some c.alertDedupWindow
  highResponseTimeMs : defaulted ({} : MonitorConfig).highResponseTimeMs Setting.asFloat?
    (source "high_response_time_ms") = some c.highResponseTimeMs
  highErrorRate : defaulted ({} : MonitorConfig).highErrorRate Setting.asFloat?
    (source "high_error_rate") = some c.highErrorRate
  minRequestsForErrorRate : defaulted ({} : MonitorConfig).minRequestsForErrorRate Setting.asCount?
    (source "min_requests_for_error_rate") = some c.minRequestsForErrorRate
  lowMlConfidence : defaulted ({} : MonitorConfig).lowMlConfidence Setting.asFloat?
    (source "low_ml_confidence") = some c.lowMlConfidence
  lowCacheHitRate : defaulted ({} : MonitorConfig).lowCacheHitRate Setting.asFloat?
    (source "low_cache_hit_rate") = some c.lowCacheHitRate
  minCacheSamples : defaulted ({} : MonitorConfig).minCacheSamples Setting.asCount?
    (source "min_cache_samples") = some c.minCacheSamples

/-- The settings of the log are what `source` gives under their names, or their defaults. -/
structure LogSettings.From (source : String → Option Setting) (s : LogSettings) : Prop where
  level : defaulted ({} : LogSettings).level Setting.asText? (source "log_level") = some s.level
  json : defaulted ({} : LogSettings).json Setting.asBool? (source "log_json") = some s.json

section
variable {source given : String → Option Setting}

theorem EngineSettings.From.of_shows {s : EngineSettings} (h : s.From source)
    (hshows : ∀ name, Shows (given name) (source name)) : s.From given where
  initialState := converts_asText?.defaulted_of_shows (hshows _) h.initialState
  flowPath := converts_asText?.defaulted_of_shows (hshows _) h.flowPath
  actionTimeoutSecs := converts_asCount?.defaulted_of_shows (hshows _) h.actionTimeoutSecs
  queryDataPath := by
    have hoptional : ∀ value, defaulted none (fun value => optional Setting.asText? (some value))
        value = optional Setting.asText? value := by
      intro value
      cases value <;> rfl
    rw [← hoptional]
    exact converts_optional_asText?.defaulted_of_shows (hshows _)
      ((hoptional _).trans h.queryDataPath)

theorem MonitorConfig.From.of_shows {c : MonitorConfig} (h : c.From source)
    (hshows : ∀ name, Shows (given name) (source name)) : c.From given where
  windowCapacity := converts_asCount?.defaulted_of_shows (hshows _) h.windowCapacity
  recentAlerts := converts_asCount?.defaulted_of_shows (hshows _) h.recentAlerts
  alertDedupWindow := converts_asCount?.defaulted_of_shows (hshows _) h.alertDedupWindow
  highResponseTimeMs := converts_asFloat?.defaulted_of_shows (hshows _) h.highResponseTimeMs
  highErrorRate := converts_asFloat?.defaulted_of_shows (hshows _) h.highErrorRate
  minRequestsForErrorRate :=
    converts_asCount?.defaulted_of_shows (hshows _) h.minRequestsForErrorRate
  lowMlConfidence := converts_asFloat?.defaulted_of_shows (hshows _) h.lowMlConfidence
  lowCacheHitRate := converts_asFloat?.defaulted_of_shows (hshows _) h.lowCacheHitRate
  minCacheSamples := converts_asCount?.defaulted_of_shows (hshows _) h.minCacheSamples

theorem LogSettings.From.of_shows {s : LogSettings} (h : s.From source)
    (hshows : ∀ name, Shows (given name) (source name)) : s.From given where
  level := converts_asText?.defaulted_of_shows (hshows _) h.level
  json := converts_asBool?.defaulted_of_shows (hshows _) h.json

end

/-! ## Reading a section -/

/-- The field `name` of a section, if it is there. -/
def Setting.fieldOf (value : Option Setting) (name : String) : Option Setting :=
  value.bind (under? name)

theorem Setting.fields?_table (names : List String) (entries : List (String × Setting)) :
    RecordValue.fields? names (table entries) = some (names.map (Fields.get? entries)) := rfl

section
variable {value : Option Setting}

theorem EngineSettings.from_of_read? {s : EngineSettings} (htable : value.all isTable = true)
    (h : defaulted {} EngineSettings.read? value = some s) : s.From (fieldOf value) := by
  cases value with
  | none =>
    obtain rfl := Option.some.inj h
    exact ⟨rfl, rfl, rfl, rfl⟩
  | some value =>
    rw [eq_table_of_isTable htable] at h ⊢
    replace h : EngineSettings.read? (table value.entries) = some s := h
    simp only [EngineSettings.read?, fields?_table, List.map_cons, List.map_nil,
      Option.bind_eq_bind, Option.bind_some, Option.bind_eq_some_iff, Option.pure_def,
      Option.some.injEq] at h
    obtain ⟨initial, hinitial, flow, hflow, timeout, htimeout, data, hdata, rfl⟩ := h
    exact ⟨hinitial, hflow, htimeout, hdata⟩

theorem MonitorConfig.from_of_read? {c : MonitorConfig} (htable : value.all isTable = true)
    (h : defaulted {} MonitorConfig.read? value = some c) : c.From (fieldOf value) := by
  cases value with
  | none =>
    obtain rfl := Option.some.inj h
    exact ⟨rfl, rfl, rfl, rfl, rfl, rfl, rfl, rfl, rfl⟩
  | some value =>
    rw [eq_table_of_isTable htable] at h ⊢
    replace h : MonitorConfig.read? (table value.entries) = some c := h
    simp only [MonitorConfig.read?, MonitorConfig.fieldNames, fields?_table, List.map_cons,
      List.map_nil, Option.bind_eq_bind, Option.bind_some, Option.bind_eq_some_iff,
      Option.pure_def, Option.some.injEq] at h
    obtain ⟨capacity, hcapacity, recent, hrecent, dedup, hdedup, time, htime, errors, herrors,
      requests, hrequests, confidence, hconfidence, hits, hhits, samples, hsamples, rfl⟩ := h
    exact ⟨hcapacity, hrecent, hdedup, htime, herrors, hrequests, hconfidence, hhits, hsamples⟩

theorem LogSettings.from_of_read? {s : LogSettings} (htable : value.all isTable = true)
    (h : defaulted {} LogSettings.read? value = some s) : s.From (fieldOf value) := by
  cases value with
  | none =>
    obtain rfl := Option.some.inj h
    exact ⟨rfl, rfl⟩
  | some value =>
    rw [eq_table_of_isTable htable] at h ⊢
    replace h : LogSettings.read? (table value.entries) = some s := h
    simp only [LogSettings.read?, fields?_table, List.map_cons, List.map_nil,
      Option.bind_eq_bind, Option.bind_some, Option.bind_eq_some_iff, Option.pure_def,
      Option.some.injEq] at h
    obtain ⟨level, hlevel, json, hjson, rfl⟩ := h
    exact ⟨hlevel, hjson⟩

end

/-! ## All settings -/

namespace Settings

/-- No source gives a section as anything but a table: each gives fields of it, or says nothing. -/
def GivesFields (sectionName : String) (layers : List (Fields Setting)) : Prop :=
  ∀ layer ∈ layers, ∀ entry ∈ layer, (under? sectionName (merged [[entry]])).all isTable = true

example : GivesFields "engine" [[("engine.initial_state", .text "a")], [("engine", .table [])]] ∧
    ¬ GivesFields "engine" [[("engine[0]", .text "a")]] := by
  unfold GivesFields
  decide +kernel

/-- What the topmost source that says something of `field` gives for it. -/
def topmost? (sectionName? : Option String) (layers : List (Fields Setting)) (field : String) :
    Option Setting :=
  Place.topmost? ⟨sectionName?, field⟩ layers

/-- Every field of the settings `s` is converted from what the topmost source gives, or its default.
-/
structure LayeredBy (layers : List (Fields Setting)) (s : Settings) : Prop where
  stage : defaulted .development Stage.read? (topmost? none layers "environment") = some s.stage
  engine : GivesFields "engine" layers → s.engine.From (topmost? (some "engine") layers)
  monitor : GivesFields "monitor" layers → s.monitor.From (topmost? (some "monitor") layers)
  log : GivesFields "observability" layers → s.log.From (topmost? (some "observability") layers)

theorem openTo_of_givesFields {sectionName : String} {layers : List (Fields Setting)}
    (h : GivesFields sectionName layers) (field : String) :
    ∀ layer ∈ layers, Place.OpenTo ⟨some sectionName, field⟩ layer := by
  rintro layer hlayer entry hentry _ ⟨⟩
  exact h layer hlayer entry hentry

theorem shows_fieldOf {sectionName : String} {layers : List (Fields Setting)}
    (h : GivesFields sectionName layers) (field : String) :
    Shows (topmost? (some sectionName) layers field)
      (fieldOf (under? sectionName (merged layers)) field) :=
  (Place.shows_topmost? (openTo_of_givesFields h field)).1

theorem isTable_under? {sectionName : String} {layers : List (Fields Setting)}
    (h : GivesFields sectionName layers) :
    (under? sectionName (merged layers)).all isTable = true :=
  (Place.shows_topmost? (openTo_of_givesFields h "")).2 sectionName rfl

theorem layeredBy_of_read? {layers : List (Fields Setting)} {s : Settings}
    (h : Settings.read? (merged layers) = some s) : s.LayeredBy layers := by
  rw [eq_table_of_isTable (isTable_merged layers)] at h
  simp only [Settings.read?, fields?_table, List.map_cons, List.map_nil, Option.bind_eq_bind,
    Option.bind_some, Option.bind_eq_some_iff, Option.pure_def, Option.some.injEq] at h
  obtain ⟨stage, hstage, engine, hengine, monitor, hmonitor, log, hlog, rfl⟩ := h
  constructor
  case stage =>
    -- outside the sections there is no section that could be replaced
    have hopen : ∀ layer ∈ layers, Place.OpenTo ⟨none, "environment"⟩ layer := by
      rintro layer _ entry _ _ ⟨⟩
    exact converts_stage.defaulted_of_shows (Place.shows_topmost? hopen).1 hstage
  case engine =>
    intro hfields
    exact (EngineSettings.from_of_read? (isTable_under? hfields) hengine).of_shows
      (shows_fieldOf hfields)
  case monitor =>
    intro hfields
    exact (MonitorConfig.from_of_read? (isTable_under? hfields) hmonitor).of_shows
      (shows_fieldOf hfields)
  case log =>
    intro hfields
    exact (LogSettings.from_of_read? (isTable_under? hfields) hlog).of_shows
      (shows_fieldOf hfields)

/-- The layers of `loadFrom`: what each settings file gives, in the order of the files, and what the
variables give. -/
def Sources (files : Files) (directory : String) (environment : Option String)
    (overrides : List (String × String)) (layers : List (Fields Setting)) : Prop :=
  ∃ read, List.Forall₂ (fun name layer => readFile files name = .ok layer)
    (fileNames directory environment) read ∧ layers = read ++ [Setting.ofVariables overrides]

theorem ofLayers_of_read? {layers : List (Fields Setting)} {s : Settings}
    (h : Settings.read? (merged layers) = some s) :
    ofLayers layers = s.validate.bind fun _ => .ok s := by
  simp only [ofLayers, h]
  rfl

theorem loadFrom_of_sources {files : Files} {directory : String} {environment : Option String}
    {overrides : List (String × String)} {layers : List (Fields Setting)}
    (h : Sources files directory environment overrides layers) :
    loadFrom files directory environment overrides = ofLayers layers := by
  obtain ⟨read, hread, rfl⟩ := h
  rw [loadFrom, mapM_eq_ok_iff.2 hread]
  rfl

theorem exists_sources_of_loadFrom {files : Files} {directory : String}
    {environment : Option String} {overrides : List (String × String)} {s : Settings}
    (h : loadFrom files directory environment overrides = .ok s) :
    ∃ layers, Sources files directory environment overrides layers ∧
      Settings.read? (merged layers) = some s ∧ s.validate = .ok () := by
  obtain ⟨read, hread, hlayers⟩ := bind_eq_ok_iff.1 h
  refine ⟨_, ⟨read, mapM_eq_ok_iff.1 hread, rfl⟩, ?_⟩
  simp only [ofLayers] at hlayers
  split at hlayers
  · cases hlayers
  · rename_i settings hsettings
    obtain ⟨hvalid, hs⟩ := check_bind_eq_ok_iff.1 hlayers
    obtain rfl := Except.ok.inj hs
    exact ⟨hsettings, hvalid⟩

/-- What is to hold of the `result` of a load of settings. -/
structure LoadsByField (files : Files) (directory : String) (environment : Option String)
    (overrides : List (String × String)) (result : Except ConfigError Settings) : Prop where
  /-- Loaded settings are what the sources give field by field (`LayeredBy`), and they are valid. -/
  loaded : ∀ s, result = .ok s → ∃ layers,
    Sources files directory environment overrides layers ∧ s.LayeredBy layers ∧
      s.validate = .ok ()
  /-- Settings that are not valid are refused for the reason that `validate` gives. -/
  refused : ∀ layers s error, Sources files directory environment overrides layers →
    Settings.read? (merged layers) = some s → s.validate = .error error →
    result = .error error
  /-- A source that says nothing of `field` leaves it as the sources `below` gave it. -/
  kept : ∀ (sectionName field : String) (below : List (Fields Setting)) (layer : Fields Setting),
    GivesFields sectionName (below ++ [layer]) →
    fieldOf (under? sectionName (merged [layer])) field = none →
    fieldOf (under? sectionName (merged (below ++ [layer]))) field =
      fieldOf (under? sectionName (merged below)) field

theorem loadsByField (files : Files) (directory : String) (environment : Option String)
    (overrides : List (String × String)) :
    LoadsByField files directory environment overrides
      (loadFrom files directory environment overrides) where
  loaded := by
    intro s h
    obtain ⟨layers, hsources, hread, hvalid⟩ := exists_sources_of_loadFrom h
    exact ⟨layers, hsources, layeredBy_of_read? hread, hvalid⟩
  refused := by
    intro layers s error hsources hread herror
    rw [loadFrom_of_sources hsources, ofLayers_of_read? hread, herror]
    rfl
  kept := by
    intro sectionName field below layer hfields silent
    have hopen := List.forall_mem_append.1 (openTo_of_givesFields hfields field)
    rw [merged_concat]
    exact Place.get?_layOver_of_silent (hopen.2 layer (List.mem_singleton_self layer))
      (Place.shows_topmost? hopen.1).2 silent

/-! ## A section that is not given as a table

A list takes the place of the whole section, and its items are read as the fields in their order.
-/

/-- A default file that gives the engine a field, and a file that gives it a list. -/
def listedEngine : Files := fun path =>
  if path = "config/default.json" then
    .ok "\x7b\"engine\": \x7b\"flow_definition_path\": \"p\"\x7d\x7d"
  else if path = "config/listed.json" then .ok "\x7b\"engine\": [\"b\"]\x7d"
  else .error .notFound

/-- What the default file gives. -/
def givenByDefault : Fields Setting := [("engine", .table [("flow_definition_path", .text "p")])]

/-- What the other file gives. -/
def givenAsList : Fields Setting := [("engine", .list [.text "b"])]

theorem readFile_default : readFile listedEngine "config/default" = .ok givenByDefault := by
  have hfind : find? listedEngine "config/default" =
      some (.json, "\x7b\"engine\": \x7b\"flow_definition_path\": \"p\"\x7d\x7d") := by
    decide +kernel
  have htext : readJson? "\x7b\"engine\": \x7b\"flow_definition_path\": \"p\"\x7d\x7d" =
      some [("engine", .table [("flow_definition_path", .text "p")])] := by
    cbv
  simp only [readFile, hfind, Format.read?, htext, givenByDefault]

theorem readFile_listed : readFile listedEngine "config/listed" = .ok givenAsList := by
  have hfind : find? listedEngine "config/listed" =
      some (.json, "\x7b\"engine\": [\"b\"]\x7d") := by
    decide +kernel
  have htext : readJson? "\x7b\"engine\": [\"b\"]\x7d" =
      some [("engine", .list [.text "b"])] := by
    cbv
  simp only [readFile, hfind, Format.read?, htext, givenAsList]

theorem sources_listedEngine :
    Sources listedEngine "config" (some "listed") [] [givenByDefault, givenAsList, []] := by
  have hnames : fileNames "config" (some "listed") = ["config/default", "config/listed"] := by
    decide +kernel
  refine ⟨[givenByDefault, givenAsList], ?_, rfl⟩
  rw [hnames]
  exact .cons readFile_default (.cons readFile_listed .nil)

/-- The path of the flow is lost under the list, though the default file gives it and nothing else
does. -/
theorem lost_under_list :
    Sources listedEngine "config" (some "listed") [] [givenByDefault, givenAsList, []] ∧
    loadFrom listedEngine "config" (some "listed") [] =
      .ok { engine := { initialState := "b" } } ∧
    ¬ ({ initialState := "b" } : EngineSettings).From
      (topmost? (some "engine") [givenByDefault, givenAsList, []]) := by
  have hengine : path "engine" = [.entry "engine"] := by decide +kernel
  have hlower : Text.lower "engine" = "engine" := by decide +kernel
  have hlower' : Text.lower "flow_definition_path" = "flow_definition_path" := by decide +kernel
  have hmerged : merged [givenByDefault, givenAsList, []] = .table givenAsList := by
    simp only [merged, layOver, givenByDefault, givenAsList, List.foldl, hengine, putAt, put,
      putAll, hlower, hlower']
    rfl
  have hread : Settings.read? (merged [givenByDefault, givenAsList, []]) =
      some { engine := { initialState := "b" } } := by
    rw [hmerged]
    rfl
  refine ⟨sources_listedEngine, ?_, ?_⟩
  · rw [loadFrom_of_sources sources_listedEngine, ofLayers_of_read? hread]
    rfl
  · intro hfrom
    have htopmost : topmost? (some "engine") [givenByDefault, givenAsList, []]
        "flow_definition_path" = some (.text "p") := by
      simp only [topmost?, Place.topmost?, Place.given?, merged, layOver, givenByDefault,
        givenAsList, List.reverse, List.reverseAux, List.findSome?, List.foldl, hengine, putAt,
        put, putAll, hlower, hlower']
      rfl
    have hpath := hfrom.flowPath
    rw [htopmost] at hpath
    exact absurd (Option.some.inj hpath) (by decide)

end Settings

end Dunning
