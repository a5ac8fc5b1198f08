import ScriptDeps.Closure
import ScriptDeps.Proofs.Failing

/-!
# Configured builders

A setting of the wrong kind should be reported as an unknown strategy is, or count as one that is
not there. Values without items break the builder, and items of the wrong kind break every script
that it then reads. What does not break it is no more than the texts among its values.
-/

namespace ScriptDeps

/-- What is wrong is said to be the configuration. -/
def Failure.OfConfiguration (failure : Failure) : Prop :=
  ∃ configured, failure = .unknownConfiguredStrategy configured

/-! ### Kinds of values -/

namespace Json

def isText : Json → Bool
  | text _ => true
  | _ => false

/-- The value has items: those of a list, the characters of a text, the names of an object. -/
def Itemized (value : Json) : Prop :=
  ∃ items, value.listed = .ok items

theorem listed_of_not_itemized {value : Json} (none : ¬value.Itemized) :
    value.listed = .error .notAList := by
  cases value with
  | list items => exact absurd ⟨_, rfl⟩ none
  | text points => exact absurd ⟨_, rfl⟩ none
  | object members => exact absurd ⟨_, rfl⟩ none
  | _ => rfl

theorem isAtomic_of_isText {value : Json} (h : value.isText = true) : value.isAtomic = true := by
  cases value with
  | text points => rfl
  | _ => cases h

theorem filterMap_text?_isText (values : List Json) :
    (values.filter isText).filterMap text? = values.filterMap text? := by
  induction values with
  | nil => rfl
  | cons value rest ih =>
    cases value with
    | text points =>
      rw [List.filter_cons_of_pos rfl, List.filterMap_cons, List.filterMap_cons, ih]
    | _ =>
      rw [List.filter_cons_of_neg Bool.false_ne_true, ih]
      rfl

end Json

open Json (isText)

/-! ### Fresh indexes -/

namespace LibraryIndex

variable {extensions ignored : List Json}

/-- The text of an extension; none if half of a pair stands alone in it. -/
def extensionText : Json → Except Failure (Option String)
  | .text extension => .ok extension.toString?
  | _ => .error .notAText

theorem ofValues_eq (extensions ignored : List Json) : ofValues extensions ignored = (do
    let extensions ← extensions.mapM extensionText
    if ignored.all Json.isAtomic then
      return fresh (extensions.filterMap id) (ignored.filterMap Json.text?)
    else throw .notAtomic) := rfl

theorem extensionText_fails_iff {value : Json} :
    (∃ failure, extensionText value = .error failure) ↔ value.isText = false := by
  cases value with
  | text extension => exact ⟨nofun, nofun⟩
  | _ => exact ⟨fun _ => rfl, fun _ => ⟨_, rfl⟩⟩

/-- The extensions are texts, and nothing that is ignored is a list or an object. -/
structure Usable (extensions ignored : List Json) : Prop where
  texts : ∀ value ∈ extensions, value.isText = true
  atomic : ∀ value ∈ ignored, value.isAtomic = true

theorem ofValues_returns_iff :
    (∃ index, ofValues extensions ignored = .ok index) ↔ Usable extensions ignored := by
  rw [ofValues_eq]
  have known : (∃ failure, extensions.mapM extensionText = .error failure) ↔
      ¬∀ value ∈ extensions, value.isText = true := by
    rw [mapM_fails_iff]
    simp [extensionText_fails_iff]
  cases read : extensions.mapM extensionText with
  | error failure =>
    have broken := known.mp ⟨failure, read⟩
    exact iff_of_false nofun fun usable => broken usable.texts
  | ok texts =>
    have sound : ∀ value ∈ extensions, value.isText = true := by
      refine Decidable.of_not_not fun broken => ?_
      obtain ⟨failure, failed⟩ := known.mpr broken
      rw [read] at failed
      cases failed
    rw [ok_bind]
    by_cases atomic : ignored.all Json.isAtomic = true
    · rw [if_pos atomic]
      exact iff_of_true ⟨_, rfl⟩ ⟨sound, List.all_eq_true.mp atomic⟩
    · rw [if_neg atomic]
      exact iff_of_false nofun fun usable => atomic (List.all_eq_true.mpr usable.atomic)

theorem ofValues_fails (extensions ignored : List Json) :
    FailsIn (fun failure => failure = .notAText ∨ failure = .notAtomic)
      (ofValues extensions ignored) := by
  rw [ofValues_eq]
  refine (failsIn_mapM (fun value => ?_) extensions).bind fun texts => ?_
  · cases value with
    | text extension => exact failsIn_ok _
    | _ => exact failsIn_error (Or.inl rfl)
  · split
    · exact failsIn_ok _
    · exact failsIn_error (Or.inr rfl)

/-- An index that can be made is made of the texts among the values. -/
theorem ofValues_texts {index : LibraryIndex} (made : ofValues extensions ignored = .ok index) :
    ofValues (extensions.filter isText) (ignored.filter isText) = .ok index := by
  obtain ⟨texts, atomic⟩ := ofValues_returns_iff.mp ⟨index, made⟩
  have all : extensions.filter isText = extensions := List.filter_eq_self.mpr texts
  have kept : ∀ value ∈ ignored.filter isText, value.isAtomic = true := fun value member =>
    Json.isAtomic_of_isText (List.mem_filter.mp member).2
  rw [ofValues_eq] at made ⊢
  obtain ⟨read, each, made⟩ := bind_ok made
  rw [if_pos (List.all_eq_true.mpr atomic)] at made
  rw [all, each, ok_bind, if_pos (List.all_eq_true.mpr kept), Json.filterMap_text?_isText]
  exact made

end LibraryIndex

namespace ClosureBuilder

/-! ### What is configured -/

def extensionsOf (settings : UserSettings) : Json :=
  (settings.get? "resolution.library_extensions").getD defaultExtensions

def ignoredOf (settings : UserSettings) : Json :=
  (settings.get? "resolution.ignore_namespaces").getD (.list [])

theorem configuredStrategy_fails (settings : UserSettings) (given : Option String) :
    FailsIn Failure.OfConfiguration (configuredStrategy settings given) := by
  unfold configuredStrategy
  dsimp only
  split
  · exact failsIn_ok _
  · exact failsIn_error ⟨_, rfl⟩

variable {settings : UserSettings} {given : Option String} {engineEnv : Option Environment}
  {packages : Option PackageStore} {locations : Locations}

/-- The namespaces that are ignored whatever is configured. -/
def usualIgnored : List Json :=
  LibraryIndex.defaultIgnored.map fun name => .text (.ofString name)

theorem ofSettings_ok {b : ClosureBuilder}
    (made : ofSettings settings given engineEnv packages locations = .ok b) :
    (extensionsOf settings).listed = .ok b.extensions ∧
      ∃ ignored, (ignoredOf settings).listed = .ok ignored ∧ b.ignored = usualIgnored ++ ignored := by
  obtain ⟨strategy, _, made⟩ := bind_ok made
  obtain ⟨extensions, known, made⟩ := bind_ok made
  obtain ⟨ignored, listed, made⟩ := bind_ok made
  rw [pure_ok made]
  exact ⟨known, ignored, listed, rfl⟩

theorem ofSettings_failsIn_iff :
    FailsIn Failure.OfConfiguration (ofSettings settings given engineEnv packages locations) ↔
      ∀ strategy, configuredStrategy settings given = .ok strategy →
        (extensionsOf settings).Itemized ∧ (ignoredOf settings).Itemized := by
  have other : ¬Failure.OfConfiguration .notAList := nofun
  unfold ofSettings
  cases chosen : configuredStrategy settings given with
  | error failure =>
    have unknown := configuredStrategy_fails settings given failure chosen
    exact iff_of_true (failsIn_error unknown) nofun
  | ok strategy =>
    rw [ok_bind]
    change FailsIn _ (make _ _ _ _ (extensionsOf settings) (ignoredOf settings)) ↔ _
    unfold make
    by_cases known : (extensionsOf settings).Itemized
    · obtain ⟨extensions, first⟩ := id known
      rw [first, ok_bind]
      by_cases listed : (ignoredOf settings).Itemized
      · obtain ⟨ignored, second⟩ := id listed
        rw [second]
        exact iff_of_true (failsIn_ok _) fun _ _ => ⟨known, listed⟩
      · rw [Json.listed_of_not_itemized listed]
        exact iff_of_false (fun fails => other (fails _ rfl)) fun all =>
          listed (all strategy rfl).2
    · rw [Json.listed_of_not_itemized known]
      exact iff_of_false (fun fails => other (fails _ rfl)) fun all => known (all strategy rfl).1

/-! ### Resolving as configured -/

/-- The builder with no more than the texts among its values. -/
def textual (b : ClosureBuilder) : ClosureBuilder :=
  { b with extensions := b.extensions.filter isText, ignored := b.ignored.filter isText }

variable {b : ClosureBuilder}

theorem resolve_textual {index : LibraryIndex} (made : b.freshIndex = .ok index)
    (companion : Companion) (script : String) :
    b.resolve companion script = b.textual.resolve companion script := by
  have again : b.textual.freshIndex = .ok index := LibraryIndex.ofValues_texts made
  unfold resolve
  rw [made, again]
  rfl

/-- A script that can be read fails once it has been. -/
theorem resolve_of_freshIndex_error {failure : Failure} (failed : b.freshIndex = .error failure)
    (companion : Companion) {script : String} {host later : Host} {p : Prepared}
    (read : b.prepare script host = (.ok p, later)) :
    b.resolve companion script host = (.error failure, later) := by
  rw [resolve, run_bind, read]
  dsimp only
  rw [failed]
  rfl

theorem usualIgnored_atomic : ∀ value ∈ usualIgnored, value.isAtomic = true := by
  intro value member
  obtain ⟨name, _, rfl⟩ := List.mem_map.mp member
  rfl

end ClosureBuilder

/-- A host is not recognized by what is no text. -/
theorem Companion.find?_of_not_text {companion : Companion}
    (wrong : companion.hostName.text? = none) (modules : List (String × Option String)) :
    companion.find? modules = none := by
  have owns : ∀ name, companion.owns name = false := by
    intro name
    rw [Companion.owns, wrong]
    rfl
  have files : modules.filterMap (fun _ => (none : Option (String × String))) = [] :=
    List.filterMap_eq_nil_iff.mpr fun _ _ => rfl
  simp only [Companion.find?, owns, if_neg Bool.false_ne_true, Option.bind_fun_none, files,
    List.mergeSort_nil, List.head?_nil, Option.map_none]

namespace ClosureBuilder

/-- A project whose settings have a number for the extensions of libraries. -/
def numberHost : Host where
  files := {
    nodes := [
      (["work"], .directory false),
      ([".scriptlens", "work"], .directory false),
      (["config.json", ".scriptlens", "work"],
        .file "\x7b\"resolution\":\x7b\"library_extensions\":5\x7d\x7d".toUTF8 0 false)]
    workingDirectory := ["work"] }
  environment := [("HOME", "/home/user")]
  modules := []
  worker := .missing

end ClosureBuilder

end ScriptDeps
