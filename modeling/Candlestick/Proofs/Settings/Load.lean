import Candlestick.Proofs.Data.Checked
import Candlestick.Settings.Message

/-!
# Faults of settings files

Whatever an existing file says, loading it gives settings or a fault. A fault is reported under the
name of the file (`Fault.Reports`), with one exception: a file that is a mapping may name an entry
by something else than a text, say by a number, and the fault that comes of it does not say which
file it is about (`ofData_cases`).
-/

namespace Candlestick.Settings

/-- The message begins with the name of the file and goes on with a reason. -/
def Fault.Reports (path : String) (fault : Fault) : Prop :=
  ∃ reason, fault.message path = failedToLoad path ++ ": " ++ reason

/-- The value is a mapping with a key that is no text. -/
def HasUnnamed (value : Data) : Prop :=
  ∃ entries, value = .mapping entries ∧ ∃ entry ∈ entries, ∀ name, entry.1 ≠ .text name

/-- Looks for a key that is no text. -/
def lacksName : Data → Bool
  | .mapping entries => !entries.all isNamed
  | _ => false

/-- The numbers among the settings are within their bounds. -/
structure WithinBounds (s : Settings) : Prop where
  flushInterval : 0 < s.flush.interval.val
  walkInterval : 0 < s.generator.interval.val
  port : 0 < s.api.port.val ∧ s.api.port.val < 65536

theorem withinBounds (s : Settings) : s.WithinBounds :=
  ⟨s.flush.interval.property, s.generator.interval.property, s.api.port.property⟩

variable {value : Data} {entries : List (Data × Data)}

theorem isNamed_iff {entry : Data × Data} :
    isNamed entry = true ↔ ∃ name, entry.1 = .text name := by
  obtain ⟨key, value⟩ := entry
  constructor
  · intro h
    unfold isNamed at h
    split at h
    · next name _ heq =>
        cases heq
        exact ⟨name, rfl⟩
    · cases h
  · rintro ⟨name, rfl⟩
    rfl

theorem hasUnnamed_mapping_iff : HasUnnamed (.mapping entries) ↔ entries.all isNamed = false := by
  rw [List.all_eq_false]
  constructor
  · rintro ⟨_, ⟨⟩, entry, hentry, hname⟩
    refine ⟨entry, hentry, fun hnamed ↦ ?_⟩
    obtain ⟨name, hkey⟩ := isNamed_iff.mp hnamed
    exact hname name hkey
  · rintro ⟨entry, hentry, hnot⟩
    refine ⟨entries, rfl, entry, hentry, fun name hkey ↦ ?_⟩
    exact hnot (isNamed_iff.mpr ⟨name, hkey⟩)

theorem lacksName_iff : lacksName value = true ↔ HasUnnamed value := by
  constructor
  · intro h
    unfold lacksName at h
    split at h
    · exact hasUnnamed_mapping_iff.mpr ((Bool.not_eq_true' _).mp h)
    · cases h
  · intro h
    obtain ⟨entries, rfl, _⟩ := id h
    rw [lacksName, hasUnnamed_mapping_iff.mp h]
    rfl

theorem not_hasUnnamed_of_isVoid (h : value.isVoid = true) : ¬ HasUnnamed value := by
  rintro ⟨entries, rfl, entry, hentry, _⟩
  have hnil : entries = [] := List.isEmpty_iff.mp h
  rw [hnil] at hentry
  cases hentry

/-! ## What a document comes to -/

theorem ofData_of_isVoid (h : value.isVoid = true) : ofData value = .ok .standard := by
  rw [ofData.eq_def, if_pos h]

theorem ofData_mapping_of_named (hvoid : ¬ (Data.mapping entries).isVoid = true)
    (h : entries.all isNamed = true) :
    ofData (.mapping entries) = (check entries).toExcept.mapError .invalidFile := by
  rw [ofData.eq_def, if_neg hvoid]
  exact if_pos h

theorem ofData_mapping_of_unnamed (hvoid : ¬ (Data.mapping entries).isVoid = true)
    (h : entries.all isNamed = false) : ofData (.mapping entries) = .error .unnamedSetting := by
  rw [ofData.eq_def, if_neg hvoid]
  exact if_neg (by rw [h]; exact Bool.false_ne_true)

theorem ofData_of_not_mapping (hvoid : ¬ value.isVoid = true)
    (h : ∀ entries, value ≠ .mapping entries) : ofData value = .error .notMapping := by
  rw [ofData.eq_def, if_neg hvoid]
  split
  · next entries => exact absurd rfl (h entries)
  · rfl

/-! ## What is reported -/

theorem reports_invalidFile (path : String) (issues : List Issue) :
    (Fault.invalidFile issues).Reports path :=
  ⟨issuesText issues, rfl⟩

theorem reports_notMapping (path : String) : Fault.notMapping.Reports path := by
  refine ⟨"top-level YAML value must be a mapping", ?_⟩
  have htext : ": top-level YAML value must be a mapping" =
      ": " ++ "top-level YAML value must be a mapping" := by decide
  change failedToLoad path ++ ": top-level YAML value must be a mapping" = _
  rw [htext, String.append_assoc]

theorem reports_unreadable (path : String) {fault : Yaml.Fault} (h : fault.isBare = false) :
    (Fault.unreadable fault).Reports path := by
  refine ⟨fault.message, ?_⟩
  change (if fault.isBare = true then _ else _) = _
  rw [h]
  rfl

/-- The two messages differ in their first letter. -/
theorem not_reports_unnamedSetting (path : String) : ¬ Fault.unnamedSetting.Reports path := by
  rintro ⟨reason, h⟩
  have hreported : "Failed to load ".toList.head? = some 'F' := by decide
  have hbare : "keywords must be strings".toList.head? = some 'k' := by decide
  change "keywords must be strings" = "Failed to load " ++ path ++ ": " ++ reason at h
  rw [h, String.toList_append, String.toList_append, String.toList_append, List.append_assoc,
    List.append_assoc, List.head?_append, hreported] at hbare
  cases hbare

/-- What comes of a file depends on whether each entry is named by a text. -/
theorem ofData_cases (value : Data) :
    HasUnnamed value ∧ ofData value = .error .unnamedSetting ∨
      ¬ HasUnnamed value ∧ ((∃ s, ofData value = .ok s) ∨
        ∃ fault, ofData value = .error fault ∧ ∀ path, fault.Reports path) := by
  by_cases hvoid : value.isVoid = true
  · exact Or.inr ⟨not_hasUnnamed_of_isVoid hvoid, Or.inl ⟨_, ofData_of_isVoid hvoid⟩⟩
  by_cases hmapping : ∃ entries, value = .mapping entries
  · obtain ⟨entries, rfl⟩ := hmapping
    cases hall : entries.all isNamed with
    | false =>
        exact Or.inl ⟨hasUnnamed_mapping_iff.mpr hall, ofData_mapping_of_unnamed hvoid hall⟩
    | true =>
        have hnamed : ¬ HasUnnamed (.mapping entries) := by
          rw [hasUnnamed_mapping_iff, hall]
          exact Bool.noConfusion
        rw [ofData_mapping_of_named hvoid hall]
        refine Or.inr ⟨hnamed, ?_⟩
        cases check entries with
        | valid s => exact Or.inl ⟨s, rfl⟩
        | invalid issues =>
            exact Or.inr ⟨_, rfl, fun path ↦ reports_invalidFile path issues⟩
  · refine Or.inr ⟨fun ⟨entries, h, _⟩ ↦ hmapping ⟨entries, h⟩, Or.inr ⟨.notMapping, ?_, ?_⟩⟩
    · exact ofData_of_not_mapping hvoid fun entries h ↦ hmapping ⟨entries, h⟩
    · exact reports_notMapping

/-- A document that cannot be read is reported by its reader, and the settings are not asked. -/
theorem load_eq_of_read_error {text : String} {fault : Yaml.Fault}
    (h : Yaml.read fileDepth text = .error fault) :
    load (some (some text)) = .error (.unreadable fault) := by
  rw [load, ofText, h]
  rfl

theorem load_eq_of_read_ok {text : String} (h : Yaml.read fileDepth text = .ok value) :
    load (some (some text)) = ofData value := by
  rw [load, ofText, h]
  rfl

/-- An existing file gives settings within their bounds or a fault that is reported under its name,
unless it is a mapping with a key that is no text: then the fault does not say where it comes from.
So it is for every value that a document may have. For a text it rests on an assumption on the
reader of documents, that its own faults are among those that loading reports under the name of the
file (`Yaml.Fault.isBare`). There are texts that break it: `!!bool foo` has no value, and the fault
that says so names no file. -/
theorem loaded_or_reported_unless_unnamed (path : String) :
    ¬ Fault.unnamedSetting.Reports path ∧
    (∀ value : Data, HasUnnamed value ∧ ofData value = .error .unnamedSetting ∨
      ¬ HasUnnamed value ∧ ((∃ s, ofData value = .ok s ∧ s.WithinBounds) ∨
        ∃ fault, ofData value = .error fault ∧ fault.Reports path)) ∧
    ∀ text : String,
      (∀ fault, Yaml.read fileDepth text = .error fault → fault.isBare = false) →
        (∃ value, Yaml.read fileDepth text = .ok value ∧ HasUnnamed value) ∧
            load (some (some text)) = .error .unnamedSetting ∨
          (∀ value, Yaml.read fileDepth text = .ok value → ¬ HasUnnamed value) ∧
            ((∃ s, load (some (some text)) = .ok s ∧ s.WithinBounds) ∨
              ∃ fault, load (some (some text)) = .error fault ∧ fault.Reports path) := by
  have hvalues : ∀ value : Data, HasUnnamed value ∧ ofData value = .error .unnamedSetting ∨
      ¬ HasUnnamed value ∧ ((∃ s, ofData value = .ok s ∧ s.WithinBounds) ∨
        ∃ fault, ofData value = .error fault ∧ fault.Reports path) := by
    intro value
    rcases ofData_cases value with hunnamed | ⟨hnamed, ⟨s, hs⟩ | ⟨fault, hfault, hreports⟩⟩
    · exact Or.inl hunnamed
    · exact Or.inr ⟨hnamed, Or.inl ⟨s, hs, s.withinBounds⟩⟩
    · exact Or.inr ⟨hnamed, Or.inr ⟨fault, hfault, hreports path⟩⟩
  refine ⟨not_reports_unnamedSetting path, hvalues, ?_⟩
  intro text hreader
  cases hread : Yaml.read fileDepth text with
  | error fault =>
      rw [load_eq_of_read_error hread]
      refine Or.inr ⟨fun value h ↦ (nomatch h), Or.inr ⟨_, rfl, ?_⟩⟩
      exact reports_unreadable path (hreader fault hread)
  | ok value =>
      rw [load_eq_of_read_ok hread]
      rcases hvalues value with ⟨hunnamed, hfault⟩ | ⟨hnamed, hrest⟩
      · exact Or.inl ⟨⟨value, rfl, hunnamed⟩, hfault⟩
      · refine Or.inr ⟨?_, hrest⟩
        rintro _ ⟨⟩
        exact hnamed

/-- A file that names a setting by a number. -/
def numberedFile : String :=
  "1: 2\n"

/-- The file can be read, and yet its fault is not reported under its name. -/
theorem loaded_or_reported_unless_unnamed_numberedFile :
    (∀ fault, Yaml.read fileDepth numberedFile = .error fault → fault.isBare = false) ∧
      load (some (some numberedFile)) = .error .unnamedSetting ∧
      ¬ Fault.unnamedSetting.Reports "config.yaml" := by
  have hlacks : (Yaml.read fileDepth numberedFile).toOption.any lacksName = true := by
    decide +kernel
  obtain ⟨value, hvalue, hname⟩ := (Option.any_eq_true _ _).mp hlacks
  have hread := eq_ok_of_toOption hvalue
  have hreader : ∀ fault, Yaml.read fileDepth numberedFile = .error fault →
      fault.isBare = false := by
    intro fault hfault
    rw [hread] at hfault
    cases hfault
  obtain ⟨hunreported, _, htexts⟩ := loaded_or_reported_unless_unnamed "config.yaml"
  refine ⟨hreader, ?_, hunreported⟩
  rcases htexts numberedFile hreader with ⟨_, hload⟩ | ⟨hnamed, _⟩
  · exact hload
  · exact absurd (lacksName_iff.mp hname) (hnamed value hread)

end Candlestick.Settings
