import SvgIcon.Config.Dump
import SvgIcon.Config.Load
import SvgIcon.Json.Reader
import SvgIcon.Proofs.File.Spelling
import SvgIcon.Proofs.File.Writing
import SvgIcon.Proofs.Json.RoundTrip

/-!
Dumped configurations are loaded again.  What loading makes of settings is settled: every list and
table that it leaves is filled, every whole number can be written, and the directory of the log is
spelled plainly.  Each setting then reads its own dump as it is.
-/

namespace SvgIcon

/-! ## Whole numbers that can be written -/

namespace Numeral

theorem fits_of_lt {n : Nat} (h : n < 10 ^ maxDigits) (negative : Bool) :
    fits (if negative then -(n : Int) else n) = true := by
  have habs : (if negative then -(n : Int) else n).natAbs = n := by
    cases negative <;> simp
  rwa [fits_iff, habs]

theorem fits_of_int? {s : List Char} {i : Int} (h : int? s = some i) : fits i = true := by
  obtain ⟨kept, _, hkept⟩ := Option.bind_eq_some_iff.1 h
  simp only at hkept
  split at hkept
  · exact absurd hkept (by simp)
  · rename_i hdigits
    obtain rfl := Option.some.inj hkept
    simp only [Bool.or_eq_true, decide_eq_true_eq, not_or, Bool.not_eq_true', Bool.not_eq_false] at hdigits
    have hlt := value_lt (List.all_eq_true.1 hdigits.1.2)
    refine fits_of_lt (Nat.lt_of_lt_of_le hlt (Nat.pow_le_pow_right (by omega) (by omega))) _

theorem fits_of_truncate? {x : Double} {i : Int} (h : x.truncate? = some i) : fits i = true := by
  cases x with
  | nan => exact absurd h (by simp [Double.truncate?])
  | infinite negative => exact absurd h (by simp [Double.truncate?])
  | finite negative rank =>
    obtain rfl := Option.some.inj h
    have hunits : Double.units rank < 10 ^ maxDigits :=
      calc Double.units rank < 2 ^ (53 + 2045) := Double.units_lt rank
        _ ≤ 2 ^ (3 * maxDigits) := Nat.pow_le_pow_right (by omega) (by decide)
        _ ≤ 10 ^ maxDigits := Double.two_pow_le_ten_pow maxDigits
    have habs : (Double.signedUnits negative rank).natAbs = Double.units rank := by
      cases negative <;> simp [Double.signedUnits]
    have hle : (Int.tdiv (Double.signedUnits negative rank) Double.unitsInOne).natAbs ≤
        Double.units rank := by
      rw [Int.natAbs_tdiv, habs]
      exact Nat.div_le_self _ _
    exact fits_iff.2 (Nat.lt_of_le_of_lt hle hunits)

end Numeral

namespace Config

variable {fields raw : Fields} {c : Config} {key default : String} {v : Value}

theorem sound_lookup (h : (Value.object fields).Sound) (hv : List.lookup key fields = some v) :
    v.Sound :=
  h.field (Assoc.lookup_mem hv)

theorem sound_objectAt (h : (Value.object fields).Sound) (key : String) :
    (Value.object (objectAt fields key)).Sound := by
  rw [objectAt]
  cases hv : List.lookup key fields with
  | none => exact Value.sound_object List.nodup_nil (by simp)
  | some v =>
    cases v with
    | object found => exact sound_lookup h hv
    | _ => exact Value.sound_object List.nodup_nil (by simp [Value.fields?])

theorem fits_of_wholeSetting {i : Int} (hv : v.Sound) (h : wholeSetting v = .ok i) :
    Numeral.fits i = true := by
  have hdefects := hv.defects
  cases v with
  | int j =>
    obtain rfl := Except.ok.inj h
    simpa [Value.defects] using hdefects
  | bool b =>
    obtain rfl := Except.ok.inj h
    cases b <;> exact Numeral.fits_of_small (by decide)
  | float x =>
    cases x with
    | nan => exact absurd h (by simp [wholeSetting])
    | infinite negative => exact absurd h (by simp [wholeSetting, Double.truncate?])
    | finite negative rank => exact Numeral.fits_of_truncate? (x := .finite negative rank) (congrArg some (Except.ok.inj h))
  | text s =>
    cases hs : Numeral.int? s.toList with
    | none => exact absurd h (by simp [wholeSetting, hs])
    | some j =>
      simp only [wholeSetting, hs] at h
      exact Except.ok.inj h ▸ Numeral.fits_of_int? hs
  | _ => exact absurd h (by simp [wholeSetting])

theorem fits_of_wholeAt {i fallback : Int} (hfields : (Value.object fields).Sound)
    (hfallback : Numeral.fits fallback = true)
    (h : wholeSetting ((List.lookup key fields).getD (.int fallback)) = .ok i) :
    Numeral.fits i = true := by
  cases hv : List.lookup key fields with
  | none =>
    rw [hv] at h
    exact Except.ok.inj h ▸ hfallback
  | some v =>
    rw [hv] at h
    exact fits_of_wholeSetting (sound_lookup hfields hv) h

/-! ## What loading leaves -/

/-- A configuration as loading leaves it. -/
structure Loaded (c : Config) : Prop where
  iconPaths : c.iconPaths ≠ []
  iconTypes : (Assoc.keys c.iconPaths).Nodup
  types : c.replaceColor.types ≠ []
  rules : c.rules ≠ []
  rulesSound : (Value.object c.rules).Sound
  port : Numeral.fits c.port = true
  payload : Numeral.fits c.runtime.maxPayloadMb = true
  logDir : c.runtime.logDir.Plain

theorem mapM_length {α β : Type} {f : α → Except Fault β} {xs : List α} {ys : List β}
    (h : xs.mapM f = .ok ys) : ys.length = xs.length := by
  induction xs generalizing ys with
  | nil => exact Except.ok.inj h ▸ rfl
  | cons x xs ih =>
    rw [List.mapM_cons] at h
    obtain ⟨y, _, hrest⟩ := exists_of_bind_eq_ok h
    obtain ⟨rest, hread, heq⟩ := exists_of_bind_eq_ok hrest
    obtain rfl := Except.ok.inj heq
    rw [List.length_cons, List.length_cons, ih hread]

theorem keys_of_mapM {paths : Assoc String}
    (h : fields.mapM (fun (k, v) => return (k, ← v.toText)) = .ok paths) :
    Assoc.keys paths = Assoc.keys fields := by
  induction fields generalizing paths with
  | nil => exact Except.ok.inj h ▸ rfl
  | cons f fields ih =>
    rw [List.mapM_cons] at h
    obtain ⟨entry, hentry, hrest⟩ := exists_of_bind_eq_ok h
    obtain ⟨s, _, hkey⟩ := exists_of_bind_eq_ok hentry
    obtain ⟨others, hothers, heq⟩ := exists_of_bind_eq_ok hrest
    obtain rfl := Except.ok.inj heq
    obtain rfl := Except.ok.inj hkey
    exact congrArg (f.1 :: ·) (ih hothers)

theorem textsSetting_ne_nil {texts fallback : List String} (hfallback : fallback ≠ [])
    (h : textsSetting v fallback = .ok texts) : texts ≠ [] := by
  rw [textsSetting.eq_def] at h
  split at h
  · exact Except.ok.inj h ▸ hfallback
  · rename_i htruthy
    rintro rfl
    cases v with
    | text s => exact absurd (Except.ok.inj h) (List.cons_ne_nil _ _)
    | array items =>
      obtain rfl := List.length_eq_zero_iff.1 (mapM_length h).symm
      exact htruthy rfl
    | object found =>
      obtain rfl := List.map_eq_nil_iff.1 (Except.ok.inj h)
      exact htruthy rfl
    | _ =>
      simp only at h
      split at h <;> exact absurd h (by simp)

theorem types_ne_nil {r : ReplaceColor} (h : replaceColorSetting fields = .ok r) : r.types ≠ [] := by
  rw [replaceColorSetting] at h
  split at h
  · exact Except.ok.inj h ▸ List.cons_ne_nil _ _
  · obtain ⟨color, _, h⟩ := exists_of_bind_eq_ok h
    obtain ⟨types, htypes, h⟩ := exists_of_bind_eq_ok h
    obtain rfl := Except.ok.inj h
    exact textsSetting_ne_nil (List.cons_ne_nil _ _) htypes

theorem iconPaths_loaded {paths : Assoc String} (hfields : (Value.object fields).Sound)
    (h : iconPathsSetting fields = .ok paths) : paths ≠ [] ∧ (Assoc.keys paths).Nodup := by
  rw [iconPathsSetting] at h
  split at h
  · obtain rfl := Except.ok.inj h
    exact ⟨List.cons_ne_nil _ _, by decide⟩
  · rename_i hne
    have hkeys := keys_of_mapM h
    refine ⟨?_, hkeys ▸ hfields.keyed.1⟩
    rintro rfl
    obtain rfl := List.map_eq_nil_iff.1 hkeys.symm
    exact hne rfl

theorem runtime_loaded {r : RuntimeLimits} (hfields : (Value.object fields).Sound)
    (h : runtimeSetting fields = .ok r) :
    Numeral.fits r.maxPayloadMb = true ∧ r.logDir.Plain := by
  rw [runtimeSetting] at h
  split at h
  · obtain rfl := Except.ok.inj h
    exact ⟨Numeral.fits_of_small (by decide), Path.plain_ofString _⟩
  · obtain ⟨logDir, _, h⟩ := exists_of_bind_eq_ok h
    obtain ⟨logFile, _, h⟩ := exists_of_bind_eq_ok h
    obtain ⟨payload, hpayload, h⟩ := exists_of_bind_eq_ok h
    -- whichever way the timeouts are set, the rest is the same
    dsimp only at h
    split at h <;> obtain ⟨request, _, h⟩ := exists_of_bind_eq_ok h <;> split at h <;>
    · obtain ⟨startup, _, h⟩ := exists_of_bind_eq_ok h
      obtain ⟨level, _, h⟩ := exists_of_bind_eq_ok h
      obtain rfl := Except.ok.inj h
      exact ⟨fits_of_wholeAt hfields (Numeral.fits_of_small (by decide)) hpayload,
        Path.plain_ofString _⟩

theorem sound_presetWith {overrides : List (String × Bool)} (h : (overrides.map (·.1)).Nodup) :
    (Value.object (Rules.presetWith overrides)).Sound := by
  have hswitches : (Value.object (overrides.map fun switch => (switch.1, .bool switch.2))).Sound := by
    refine Value.sound_object ?_ ?_
    · rwa [Assoc.keys, List.map_map]
    · intro f hf
      obtain ⟨switch, _, rfl⟩ := List.mem_map.1 hf
      exact ⟨rfl, trivial⟩
  have hparams := Value.sound_empty.cons "overrides" List.not_mem_nil hswitches
  have hplugin := (Value.sound_empty.cons "params" List.not_mem_nil hparams).cons
    "name" (by simp [Assoc.keys]) (Value.sound_text Rules.preset)
  have hplugins : (Value.array [.object _]).Sound :=
    Value.sound_array fun v hv => List.mem_singleton.1 hv ▸ hplugin
  exact (Value.sound_empty.cons "plugins" List.not_mem_nil hplugins).cons
    "multipass" (by simp [Assoc.keys]) ⟨rfl, trivial⟩

theorem loaded_of_ofFields (hraw : (Value.object raw).Sound) (h : ofFields raw = .ok c) :
    c.Loaded := by
  have hown := sound_objectAt hraw "svg2tsx"
  have hrules := sound_objectAt hown "svg_optimize_config"
  obtain ⟨iconPaths, hpaths, h⟩ := exists_of_bind_eq_ok h
  obtain ⟨replaceColor, hcolor, h⟩ := exists_of_bind_eq_ok h
  obtain ⟨server, _, h⟩ := exists_of_bind_eq_ok h
  obtain ⟨port, hport, h⟩ := exists_of_bind_eq_ok h
  obtain ⟨runtime, hruntime, h⟩ := exists_of_bind_eq_ok h
  obtain ⟨host, _, h⟩ := exists_of_bind_eq_ok h
  obtain rfl := Except.ok.inj h
  have hicons := iconPaths_loaded (sound_objectAt hown _) hpaths
  have hlimits := runtime_loaded (sound_objectAt hraw _) hruntime
  exact {
    iconPaths := hicons.1
    iconTypes := hicons.2
    types := types_ne_nil hcolor
    rules := by
      simp only
      split
      · exact List.cons_ne_nil _ _
      · rename_i hne
        simpa using hne
    rulesSound := by
      simp only
      split
      · exact sound_presetWith (by decide +kernel)
      · exact hrules
    port := fits_of_wholeAt hown (Numeral.fits_of_small (by decide)) hport
    payload := hlimits.1
    logDir := hlimits.2 }

/-! ## Dumps -/

theorem sound_texts (texts : List String) : (Value.array (texts.map .text)).Sound := by
  refine Value.sound_array fun v hv => ?_
  obtain ⟨s, _, rfl⟩ := List.mem_map.1 hv
  exact Value.sound_text s

theorem sound_paths {paths : Assoc String} (h : (Assoc.keys paths).Nodup) :
    (Value.object (paths.map fun (k, v) => (k, .text v))).Sound := by
  refine Value.sound_object ?_ fun f hf => ?_
  · rwa [Assoc.keys, List.map_map]
  · obtain ⟨⟨k, s⟩, _, rfl⟩ := List.mem_map.1 hf
    exact Value.sound_text s

theorem sound_toFields (h : c.Loaded) : (Value.object c.toFields).Sound := by
  have hone (key : String) {v : Value} (hv : v.Sound) : (Value.object [(key, v)]).Sound :=
    Value.sound_empty.cons key List.not_mem_nil hv
  have hcolor := (hone "types" (sound_texts c.replaceColor.types)).cons "color"
    (by simp [Assoc.keys]) (Value.sound_text c.replaceColor.color)
  have hserver := (hone "enabled" (v := .bool c.optimizeServer.enabled) ⟨rfl, trivial⟩).cons
    "url" (by simp [Assoc.keys]) (Value.sound_text c.optimizeServer.url)
  have hown := (((((hone "svg_optimize_config" h.rulesSound).cons
    "optimization_server_port" (by simp [Assoc.keys]) (Value.sound_int h.port)).cons
    "svg_optimize" (by simp [Assoc.keys]) hserver).cons
    "auto_export_module" (v := .bool c.autoExport) (by simp [Assoc.keys]) ⟨rfl, trivial⟩).cons
    "replace_color" (by simp [Assoc.keys]) hcolor).cons
    "icon_paths" (by simp [Assoc.keys]) (sound_paths h.iconTypes)
  have hruntime {timeout : Value} (htimeout : timeout.Sound) :=
    (((((hone "log_level" (Value.sound_text c.runtime.logLevel)).cons
    "startup_timeout_s" (v := .float c.runtime.startupTimeout) (by simp [Assoc.keys])
      ⟨rfl, trivial⟩).cons
    "request_timeout_s" (by simp [Assoc.keys]) htimeout).cons
    "max_payload_mb" (by simp [Assoc.keys]) (Value.sound_int h.payload)).cons
    "log_file" (by simp [Assoc.keys]) (Value.sound_text c.runtime.logFile)).cons
    "log_dir" (by simp [Assoc.keys]) (Value.sound_text c.runtime.logDir.text)
  have hapi := hone "host" (Value.sound_text c.host)
  refine ((hone "api" hapi).cons "runtime" (by simp [Assoc.keys]) (hruntime ?_)).cons "svg2tsx"
    (by simp [Assoc.keys]) hown
  cases c.runtime.requestTimeout <;> exact ⟨rfl, trivial⟩

theorem toText_text (s : String) : (Value.text s).toText = .ok s := rfl

theorem iconPathsSetting_paths {paths : Assoc String} (hne : paths ≠ []) :
    iconPathsSetting (paths.map fun (k, v) => (k, .text v)) = .ok paths := by
  have hread : ∀ paths : Assoc String, (paths.map fun (k, v) => (k, Value.text v)).mapM
      (fun (k, v) => return (k, ← v.toText)) = .ok paths := by
    intro paths
    induction paths with
    | nil => rfl
    | cons p paths ih =>
      rw [List.map_cons, List.mapM_cons, ih]
      rfl
  rw [iconPathsSetting, if_neg (by simpa using hne), hread]

theorem textsSetting_texts {texts : List String} (hne : texts ≠ []) (fallback : List String) :
    textsSetting (.array (texts.map .text)) fallback = .ok texts := by
  have hread : ∀ texts : List String, (texts.map Value.text).mapM Value.toText = .ok texts := by
    intro texts
    induction texts with
    | nil => rfl
    | cons s texts ih =>
      rw [List.map_cons, List.mapM_cons, ih]
      rfl
  have htruthy : (Value.array (texts.map .text)).truthy = true := by
    simpa [Value.truthy] using hne
  rw [textsSetting, htruthy]
  exact hread texts

/-- A loaded configuration is what its own fields stand for. -/
theorem ofFields_toFields (h : c.Loaded) : ofFields c.toFields = .ok c := by
  obtain ⟨iconPaths, ⟨color, types⟩, autoExport, ⟨url, enabled⟩, port, rules,
    ⟨logDir, logFile, payload, request, startup, level⟩, host⟩ := c
  have hicons := iconPathsSetting_paths h.iconPaths
  have htypes := textsSetting_texts h.types ({} : ReplaceColor).types
  have hrules := h.rules
  have hdir := h.logDir.ofString_text
  simp only at hicons htypes hrules hdir
  cases request <;>
    simp [ofFields, toFields, objectAt, List.lookup_cons, Value.fields?, hicons, replaceColorSetting,
      textSetting, toText_text, htypes, optimizeServerSetting, wholeSetting, runtimeSetting,
      numberSetting, Value.truthy, hrules, hdir, bind, Except.bind, pure, Except.pure, Except.map]

/-- A configuration that was loaded from settings is dumped as text, in any style, and loaded again
from what is read there. -/
theorem ofFields_dump (hraw : (Value.object raw).Sound) (h : ofFields raw = .ok c)
    (style : Json.Style) : ∃ text fields, c.dump style = .ok text ∧
      Json.read? text.toList = some (.object fields) ∧ ofFields fields = .ok c := by
  have hloaded := loaded_of_ofFields hraw h
  have hsound := sound_toFields hloaded
  have hdump : c.dump style = .ok (Json.write style (.object c.toFields)) := by
    rw [dump, hsound.defects]
  exact ⟨_, c.toFields, hdump, Json.read?_write style hsound, ofFields_toFields hloaded⟩

/-- Settings that are not in the form in which they are dumped. -/
def looseSettings : Fields := [
  ("svg2tsx", .object [
    ("icon_paths", .object [("Fill", .int 3), ("3D", .null)]),
    ("replace_color", .object [("types", .text "Fill")]),
    ("auto_export_module", .text ""),
    ("optimization_server_port", .text " 8_080 "),
    ("svg_optimize_config", .object [("floatPrecision", .float (.ofDecimal true 25 (-1)))])]),
  ("runtime", .object [("log_dir", .text ".//logs/../x/"), ("request_timeout_s", .int 30)])]

theorem looseSettings_dump : ∃ c text fields, ofFields looseSettings = .ok c ∧ c.port = 8080 ∧
    c.runtime.logDir = ⟨"", ["logs", "..", "x"]⟩ ∧ c.dump .dump = .ok text ∧
    Json.read? text.toList = some (.object fields) ∧ ofFields fields = .ok c := by
  have hsound : (Value.object looseSettings).Sound :=
    ⟨by decide +kernel, by simp [looseSettings, Value.Keyed, Value.KeyedFields, Assoc.keys]⟩
  have hvalues : (ofFields looseSettings).toOption.map (fun c => (c.port, c.runtime.logDir)) =
      some (8080, ⟨"", ["logs", "..", "x"]⟩) := by decide +kernel
  cases h : ofFields looseSettings with
  | error f =>
    rw [h] at hvalues
    exact absurd hvalues (by simp [Except.toOption])
  | ok c =>
    rw [h] at hvalues
    obtain ⟨hport, hdir⟩ := Prod.mk.inj (Option.some.inj hvalues)
    obtain ⟨text, fields, hreload⟩ := ofFields_dump hsound h .dump
    exact ⟨c, text, fields, rfl, hport, hdir, hreload⟩

end Config
end SvgIcon
