import WalkFilter.Proofs.CommandLine.FilterOrder
import WalkFilter.Proofs.Filter.Loading

/-!
# Values and builder in step

A value is noted after the builder was fed with it, and feeding can fail. A call that fails leaves
both as they were, so at any time the values are those of the calls that returned, and the builder
has received the filters of just these calls.
-/

namespace WalkFilter.CommandLine

namespace FilterCall

/-- The call returns: it gives no value, a path to a file that can be read, or a value with a
text. -/
inductive Returns (files : Files) : FilterCall → Prop where
  | absent {spelling : Option String} : Returns files ⟨spelling, none⟩
  | file {spelling : Option String} {value : FilterValue} {path : Path}
    (names : namesFile spelling = true) (found : value.toPath = .ok path)
    (readable : files.Readable path) : Returns files ⟨spelling, some value⟩
  | filter {spelling : Option String} {value : FilterValue} {filter : String}
    (other : namesFile spelling = false) (written : value.toText = .ok filter) :
    Returns files ⟨spelling, some value⟩

/-- A call with this value asks for the filters of the source. -/
inductive AsksFor : FilterCall → FilterValue → FilterSource → Prop where
  | file {spelling : Option String} {value : FilterValue} {path : Path}
    (names : namesFile spelling = true) (found : value.toPath = .ok path) :
    AsksFor ⟨spelling, some value⟩ value (.file path)
  | filter {spelling : Option String} {value : FilterValue} {filter : String}
    (other : namesFile spelling = false) (written : value.toText = .ok filter) :
    AsksFor ⟨spelling, some value⟩ value (.inline filter)

/-- What a call that returns does to a builder: it loads the file of its value, or adds the filter
that its value is written as. -/
def addTo (files : Files) (builder : Builder) (call : FilterCall) : Builder :=
  match call.value with
  | none => builder
  | some value =>
    match namesFile call.spelling, value.toPath, value.toText with
    | true, .ok path, _ => (builder.loadFilters files [path]).builder
    | false, _, .ok filter => builder.addLabels (some filter)
    | _, _, _ => builder

end FilterCall

section

variable {files : Files} {spelling : Option String} {value : FilterValue}

theorem feed_of_returns (returns : FilterCall.Returns files ⟨spelling, some value⟩)
    (builder : Builder) :
    feed files builder spelling value =
      (FilterCall.addTo files builder ⟨spelling, some value⟩, none) := by
  cases returns with
  | @file _ _ path names found readable =>
      have loaded : (builder.loadFilters files [path]).error = none := by
        rw [Builder.loadFilters_singleton, Builder.addSource_of_readable readable]
        rfl
      simp [feed, FilterCall.addTo, names, found, loaded]
  | filter other written => simp [feed, FilterCall.addTo, other, written]

/-- Feeding that fails leaves the builder alone, also where a file turns out to be unreadable. -/
theorem feed_of_not_returns (fails : ¬FilterCall.Returns files ⟨spelling, some value⟩)
    (builder : Builder) :
    ∃ error, feed files builder spelling value = (builder, some error) := by
  cases names : namesFile spelling with
  | false =>
      cases written : value.toText with
      | error message => exact ⟨.unusable message, by simp [feed, names, written]⟩
      | ok filter => exact absurd (.filter names written) fails
  | true =>
      cases found : value.toPath with
      | error message => exact ⟨.unusable message, by simp [feed, names, found]⟩
      | ok path =>
          have unreadable : ¬files.Readable path := fun readable =>
            fails (.file names found readable)
          obtain ⟨error, fails_with⟩ := Files.exists_failsWith unreadable
          have loaded : builder.loadFilters files [path] = ⟨builder, some error⟩ := by
            rw [Builder.loadFilters_singleton, Builder.addSource_of_failsWith fails_with]
            rfl
          exact ⟨.unreadable error, by simp [feed, names, found, loaded]⟩

end

namespace Intake

/-- The calls of a history that return. -/
def returning (files : Files) : Intake → List FilterCall → List FilterCall
  | _, [] => []
  | intake, call :: rest =>
    match intake.take files call with
    | (next, none) => call :: returning files next rest
    | (next, some _) => returning files next rest

variable {files : Files} {start : Builder} {intake : Intake} {call : FilterCall}
  {returned : List FilterCall}

/-- A call that fails changes nothing. -/
theorem take_of_not_returns (fails : ¬call.Returns files) (intake : Intake) :
    ∃ error, intake.take files call = (intake, some error) := by
  obtain ⟨spelling, value⟩ := call
  cases value with
  | none => exact absurd .absent fails
  | some value =>
      obtain ⟨error, fed⟩ := feed_of_not_returns fails intake.builder
      exact ⟨error, by simp only [take, fed]⟩

/-- The values are those of some calls that returned, and the builder is the one that these calls
lead to. -/
structure InStep (files : Files) (start : Builder) (returned : List FilterCall) (intake : Intake) :
    Prop where
  /-- The values are kept as they were given, without absent ones. -/
  values : intake.values = listed (returned.filterMap (·.value))
  /-- The builder has received the filters of each call in order. -/
  builder : intake.builder = returned.foldl (FilterCall.addTo files) start

/-- A call that returns takes in its value on both sides. -/
theorem InStep.take (in_step : InStep files start returned intake) (returns : call.Returns files) :
    ∃ next, intake.take files call = (next, none) ∧
      InStep files start (returned ++ [call]) next := by
  obtain ⟨spelling, value⟩ := call
  cases value with
  | none =>
      refine ⟨intake, rfl, ?_, ?_⟩
      · simpa using in_step.values
      · simpa [FilterCall.addTo] using in_step.builder
  | some value =>
      have fed := feed_of_returns returns intake.builder
      refine ⟨_, by simp only [Intake.take, fed]; rfl, ?_, ?_⟩
      · rw [in_step.values, appendValue_listed, List.filterMap_append]
        rfl
      · rw [List.foldl_append, ← in_step.builder]
        rfl

/-- Whatever calls are made, values and builder stay in step. -/
theorem InStep.takeAll (in_step : InStep files start returned intake) (calls : List FilterCall) :
    InStep files start (returned ++ intake.returning files calls) (intake.takeAll files calls) := by
  induction calls generalizing returned intake with
  | nil => simpa [returning, Intake.takeAll] using in_step
  | cons call rest induction =>
      rw [Intake.takeAll, List.foldl_cons, ← Intake.takeAll, returning]
      by_cases returns : call.Returns files
      · obtain ⟨next, took, next_in_step⟩ := in_step.take returns
        simpa [took] using induction next_in_step
      · obtain ⟨error, refused⟩ := take_of_not_returns returns intake
        simpa [refused] using induction in_step

/-- After every history of calls, the values are those of the calls that returned and the builder
has received just their filters. A call that does not return, whether its file is missing, a
directory or undecodable or its value has no text, leaves both as they were. -/
theorem takeAll_inStep (files : Files) (start : Builder) (calls : List FilterCall) :
    let empty : Intake := { builder := start }
    let intake := empty.takeAll files calls
    InStep files start (empty.returning files calls) intake ∧
      ∀ call : FilterCall,
        call.Returns files ∧ (intake.take files call).2 = none ∨
          ¬call.Returns files ∧ ∃ error, intake.take files call = (intake, some error) := by
  intro empty intake
  have in_step : InStep files start ([] ++ empty.returning files calls) intake :=
    InStep.takeAll ⟨rfl, rfl⟩ calls
  rw [List.nil_append] at in_step
  refine ⟨in_step, fun call => ?_⟩
  by_cases returns : call.Returns files
  · obtain ⟨next, took, -⟩ := in_step.take returns
    exact .inl ⟨returns, by rw [took]⟩
  · exact .inr ⟨returns, take_of_not_returns returns intake⟩

/-- A use on the command line and a call that asks for the same source do the same: they leave the
same builder, and either both note the value or both fail with the same error. -/
theorem take_agrees_addSource {progress : Progress} {value : FilterValue} {source : FilterSource}
    (asks : call.AsksFor value source) (same : intake.builder = progress.builder)
    (note : Settings → Settings) :
    let used := progress.addSource files source note
    let taken := intake.take files call
    taken.1.builder = used.1.builder ∧
      (used.2 = none ∧ taken.2 = none ∧ used.1.settings = note progress.settings ∧
          taken.1.values = appendValue intake.values value ∨
        ∃ error, used.2 = some (.unreadable error) ∧ taken.2 = some (.unreadable error) ∧
          used.1.settings = progress.settings ∧ taken.1.values = intake.values) := by
  intro used taken
  cases asks with
  | @filter spelling _ filter other written =>
      have taken_eq : taken =
          (⟨appendValue intake.values value, intake.builder.addLabels (some filter)⟩, none) := by
        simp only [taken, take, feed, other, written]
        rfl
      rw [taken_eq, same]
      exact ⟨rfl, .inl ⟨rfl, rfl, rfl, rfl⟩⟩
  | @file spelling _ path names found =>
      have fed : feed files progress.builder spelling value =
          ((Loaded.ofAdded progress.builder (progress.builder.addSource files (.file path))).builder,
            (Loaded.ofAdded progress.builder
              (progress.builder.addSource files (.file path))).error.map .unreadable) := by
        simp only [feed, names, found, if_true, Builder.loadFilters_singleton]
      simp only [taken, take, same, fed, used, Progress.addSource]
      cases progress.builder.addSource files (.file path) with
      | ok builder => exact ⟨rfl, .inl ⟨rfl, rfl, rfl, rfl⟩⟩
      | error error => exact ⟨rfl, .inr ⟨error, rfl, rfl, rfl, rfl⟩⟩

/-- A filter, a file that is not there, an absent value, and a number as the name of a file. -/
example :
    let files : Files := fun path =>
      if path = Path.ofText "7" then .file ">City".toUTF8.data.toList else .missing
    let intake := ({} : Intake).takeAll files [⟨some "-l", some (.text "-Town")⟩,
      ⟨some "--filter-file", some (.text "filters")⟩, ⟨none, none⟩, ⟨some "-F", some (.integer 7)⟩]
    intake.values = some [.text "-Town", .integer 7] ∧
      intake.builder = Builder.ofFilter (some "-Town|>City") := by
  intro files intake
  have builder_eq : intake.builder = Builder.ofFilter (some "-Town|>City") := by decide +kernel
  exact ⟨rfl, builder_eq⟩

end Intake

end WalkFilter.CommandLine
