import WalkFilter.CommandLine.Run
import WalkFilter.Proofs.CommandLine.Effect

/-!
# The courses of a run

A command line ends early at one piece: a request for help or version, a filter file that cannot be
read, or a value that is refused. A run takes one of six courses, and its course says what it shows
on a working and on a broken standard output.
-/

namespace WalkFilter.CommandLine

/-- The piece of a command line is one that can end it in this way. -/
def Item.Ends (files : Files) (item : Item) : Ending → Prop
  | .help => ∃ value, item = .use .help value
  | .version => ∃ value, item = .use .version value
  | .unreadable error => ∃ value, item = .use .filterFile value ∧
      files.readLines .filter (Path.ofText (value.getD "")) = .error error
  | .usage _ => True

/-- How the piece by itself ends a command line, if it does. -/
def Item.ending (files : Files) (item : Item) : Option Ending :=
  (({} : Progress).step files item).2

namespace Progress

variable {files : Files} {progress after : Progress} {ending : Ending}

theorem ends_of_step {item : Item} (ended : progress.step files item = (after, some ending)) :
    item.Ends files ending := by
  cases item with
  | extra argument => cases (Prod.mk.inj ended).2
  | use switch value =>
      cases switch
      case help | version =>
        obtain rfl := Option.some.inj (Prod.mk.inj ended).2
        exact ⟨value, rfl⟩
      case labelFilter =>
        cases (Prod.mk.inj ended).2
      case filterFile =>
        rcases addSource_cases ended with ⟨builder, -, took, -⟩ | ⟨error, failed, same, -⟩
        · cases took
        · obtain rfl := Option.some.inj same
          have filters_failed := map_eq_error_iff.mp failed
          exact ⟨value, rfl, map_eq_error_iff.mp filters_failed⟩
      case depth | minLevel =>
        rcases setInteger_cases ended with ⟨number, -, took, -⟩ | ⟨same, -⟩
        · cases took
        · obtain rfl := Option.some.inj same
          trivial
      case format =>
        simp only [step, use] at ended
        split at ended
        · cases (Prod.mk.inj ended).2
        · obtain rfl := Option.some.inj (Prod.mk.inj ended).2
          trivial
      case endNodesOnly | node | nodesFile | explain | verbose =>
        cases (Prod.mk.inj ended).2

/-- How a piece ends the command line does not depend on what stands in front of it. -/
theorem step_ending (files : Files) (progress : Progress) (item : Item) :
    (progress.step files item).2 = item.ending files := by
  rw [Item.ending]
  cases item with
  | extra argument => rfl
  | use switch value =>
      cases switch
      case filterFile =>
        simp only [step, use, addSource, Builder.addSource]
        cases files.readFilters (Path.ofText (value.getD "")) <;> rfl
      case depth | minLevel =>
        simp only [step, use, setInteger]
        split <;> rfl
      case format =>
        simp only [step, use]
        split <;> rfl
      case help | version | labelFilter | endNodesOnly | node | nodesFile | explain | verbose => rfl

/-- Pieces all take effect exactly if none of them ends the command line by itself. -/
theorem run_eq_none_iff (files : Files) (progress : Progress) (items : List Item) :
    (progress.run files items).2 = none ↔
      ∀ item ∈ items, item.ending files = none := by
  induction items generalizing progress with
  | nil => simp [run]
  | cons item rest induction =>
      rw [run, List.forall_mem_cons, ← step_ending files progress item]
      split
      · rename_i next stepped
        rw [induction, stepped]
        simp
      · rename_i next ending stepped
        rw [stepped]
        simp

/-- Pieces that do not all take effect are ended by one of them, behind pieces that do. -/
theorem exists_step_of_run_ended {items : List Item}
    (ended : progress.run files items = (after, some ending)) :
    ∃ before item behind middle, items = before ++ item :: behind ∧
      progress.run files before = (middle, none) ∧
      middle.step files item = (after, some ending) := by
  induction items generalizing progress with
  | nil => cases (Prod.mk.inj ended).2
  | cons item rest induction =>
      rw [run] at ended
      split at ended
      · rename_i next stepped
        obtain ⟨before, last, behind, middle, rfl, took, ends⟩ := induction ended
        refine ⟨item :: before, last, behind, middle, rfl, ?_, ends⟩
        rw [run, stepped]
        exact took
      · rename_i found stepped
        obtain ⟨rfl, same⟩ := Prod.mk.inj ended
        obtain rfl := Option.some.inj same
        exact ⟨[], item, rest, progress, rfl, rfl, stepped⟩

theorem ends_of_run {items : List Item} (ended : progress.run files items = (after, some ending)) :
    ∃ before item behind, items = before ++ item :: behind ∧
      (progress.run files before).2 = none ∧ item.Ends files ending := by
  obtain ⟨before, item, behind, middle, items_eq, took, ends⟩ := exists_step_of_run_ended ended
  exact ⟨before, item, behind, items_eq, by rw [took], ends_of_step ends⟩

end Progress

/-- A command line that ends otherwise than by being refused is ended by one of its pieces. -/
theorem ends_of_parse {files : Files} {arguments : List String} {ending : Ending}
    (ended : (parse files arguments).ending = some ending)
    (not_refused : ∀ error, ending ≠ .usage error) :
    ∃ before item behind, itemsOf arguments = before ++ item :: behind ∧
      (({} : Progress).run files before).2 = none ∧ item.Ends files ending := by
  rw [parse] at ended
  split at ended
  · rename_i progress found took
    obtain rfl := Option.some.inj ended
    exact Progress.ends_of_run took
  · rename_i progress took
    simp only at ended
    unfold finalEnding at ended
    split at ended
    · exact absurd (Option.some.inj ended).symm (not_refused _)
    · cases ended
    · exact absurd (Option.some.inj ended).symm (not_refused _)

/-- Every path leads to a file with this text. -/
def everywhere (text : String) : Files := fun _ => .file text.toUTF8.data.toList

/-- The courses of a run. Each says what the run shows on either state of standard output. -/
inductive Course (files : Files) (arguments : List String) : (Channel → Outcome) → Prop where
  /-- The scan for verbosity refuses the command line. -/
  | scanRefused {error : UsageError} (refused : wantsRecords arguments = .error error) :
    Course files arguments fun _ => ⟨2, "", refusal scanUsage error⟩
  /-- The help or the version is printed. -/
  | noticed {verbose : Bool} (log notice : String) (scanned : wantsRecords arguments = .ok verbose)
    (asked : (parse files arguments).ending = some .help ∨
      (parse files arguments).ending = some .version) :
    Course files arguments fun channel => writeNotice channel log notice
  /-- The command line is refused. -/
  | refused {error : UsageError} (log : String)
    (refused : (parse files arguments).ending = some (.usage error)) :
    Course files arguments fun _ => ⟨2, "", log ++ refusal usage error⟩
  /-- A filter file cannot be read. -/
  | unreadable {verbose : Bool} {error : ReadError} (log : String)
    (scanned : wantsRecords arguments = .ok verbose)
    (unreadable : (parse files arguments).ending = some (.unreadable error)) :
    Course files arguments fun _ => ⟨1, "", log ++ errorLine error.message⟩
  /-- The work behind the settings fails. -/
  | failed {verbose : Bool} {error : RunError} (log : String)
    (scanned : wantsRecords arguments = .ok verbose)
    (accepted : (parse files arguments).ending = none)
    (failed : ((parse files arguments).progress.settings.perform files
      (parse files arguments).progress.builder).2 = .error error) :
    Course files arguments fun _ => ⟨1, "", log ++ errorLine error.message⟩
  /-- The report is written. -/
  | reported {verbose : Bool} {report : List CodePoint} (log : String)
    (scanned : wantsRecords arguments = .ok verbose)
    (accepted : (parse files arguments).ending = none)
    (performed : ((parse files arguments).progress.settings.perform files
      (parse files arguments).progress.builder).2 = .ok report) :
    Course files arguments fun channel => writeReport channel log report

/-- Every run takes one of the courses. -/
theorem exists_course (files : Files) (arguments : List String) :
    ∃ shown, Course files arguments shown ∧
      ∀ channel, run files channel arguments = shown channel := by
  refine ⟨fun channel => run files channel arguments, ?_, fun _ => rfl⟩
  cases scanned : wantsRecords arguments with
  | error error =>
      simp only [run, scanned]
      exact .scanRefused scanned
  | ok verbose =>
      simp only [run, scanned, runParsed]
      cases ended : (parse files arguments).ending with
      | some ending =>
          cases ending with
          | help => exact .noticed _ _ scanned (.inl ended)
          | version => exact .noticed _ _ scanned (.inr ended)
          | usage error => exact .refused _ ended
          | unreadable error => exact .unreadable _ scanned ended
      | none =>
          simp only
          cases result : ((parse files arguments).progress.settings.perform files
              (parse files arguments).progress.builder).2 with
          | error error => exact .failed _ scanned ended result
          | ok report => exact .reported _ scanned ended result

end WalkFilter.CommandLine
