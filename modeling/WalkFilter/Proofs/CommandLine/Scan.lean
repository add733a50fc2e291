import Mathlib.Data.List.Forall2
import WalkFilter.Proofs.CommandLine.Effect
import WalkFilter.Proofs.CommandLine.Sorting

/-!
# The scan for verbosity

Whether records are printed is found by a scan of its own, which knows no switch but the one for
verbosity. It agrees with the whole reading exactly if no word that begins with this switch goes on
to others, and some word begins with it if any word holds it. The first condition goes back to the
refusal of unknown letters, for which `argparse` is followed as it is in 3.11.0 to 3.11.8.
-/

namespace WalkFilter.CommandLine

/-- The scan sees every word of a command line that the whole reading can sort. -/
theorem words_seen {arguments : List String} {full : List Word}
    (sorted : words Switch.all arguments = .ok full) :
    ∃ seen, words [.verbose] arguments = .ok seen ∧ List.Forall₂ Word.SeenAs full seen := by
  induction arguments generalizing full with
  | nil =>
      obtain rfl := Except.ok.inj sorted
      exact ⟨[], rfl, .nil⟩
  | cons argument rest induction =>
      by_cases mark : argument = "--"
      · rw [words, if_pos mark] at sorted ⊢
        obtain rfl := Except.ok.inj sorted
        refine ⟨_, rfl, .cons (Word.seenAs_self rfl) ?_⟩
        rw [List.forall₂_map_left_iff, List.forall₂_map_right_iff, List.forall₂_same]
        intro text _
        exact Word.seenAs_self rfl
      · obtain ⟨first, others, first_sorted, others_sorted, rfl⟩ :=
          (words_cons_eq_ok_iff mark).mp sorted
        obtain ⟨first_seen, first_eq, first_sees⟩ := sort_seen first_sorted
        obtain ⟨others_seen, others_eq, others_see⟩ := induction others_sorted
        exact ⟨first_seen :: others_seen,
          (words_cons_eq_ok_iff mark).mpr ⟨_, _, first_eq, others_eq, rfl⟩,
          .cons first_sees others_see⟩

namespace Cluster

/-- The scan finds no letter but its own. -/
theorem find?_verbose {letter : Char} {next : Switch}
    (found : Switch.all.find? (·.letter = letter) = some next) :
    [Switch.verbose].find? (·.letter = letter) =
      if next = .verbose then some .verbose else none := by
  have same : next.letter = letter := by simpa using List.find?_some found
  rw [List.find?_singleton, ← same]
  simp only [decide_eq_true_eq, eq_comm (a := Switch.verbose.letter), Switch.letter_eq_verbose_iff]

/-- The scan reads letters behind the switch for verbosity exactly if the whole reading finds
nothing but this switch in them. -/
theorem isOk_ofLetters_verbose {letters : List Char} {cluster : Cluster}
    (spells : Spells Switch.all .verbose letters cluster) :
    (ofLetters [.verbose] .verbose letters).isOk = true ↔
      ∀ switch ∈ cluster.switches, switch = .verbose := by
  have not_takes : ¬Switch.verbose.takesValue = true := by decide
  generalize start_eq : Switch.verbose = start at spells
  induction spells with
  | value takes =>
      subst start_eq
      exact absurd takes not_takes
  | @flag start next letter isFlag found =>
      subst start_eq
      rw [ofLetters, if_neg not_takes, find?_verbose found]
      by_cases asks : next = .verbose <;> simp [asks, switches, Except.isOk, Except.toBool]
  | @flags start next letter rest tail isFlag found nonempty behind induction =>
      subst start_eq
      rw [ofLetters, if_neg not_takes, find?_verbose found, switches_addFlag, List.forall_mem_cons]
      by_cases asks : next = .verbose
      · subst asks
        have isOk_map : ((ofLetters [.verbose] .verbose rest).map (addFlag .verbose)).isOk =
            (ofLetters [.verbose] .verbose rest).isOk := by
          cases ofLetters [.verbose] .verbose rest <;> rfl
        have rest_iff : (ofLetters [.verbose] .verbose rest).isOk = true ↔
            ∀ switch ∈ tail.switches, switch = .verbose := induction rfl
        rw [← rest_iff, ← isOk_map]
        simp [nonempty]
      · obtain ⟨others, tail_switches⟩ := List.head?_eq_some_iff.mp behind.head_switches
        simp [asks, tail_switches, Except.isOk, Except.toBool]

/-- The same for a word that begins with the switch for verbosity. -/
theorem isOk_ofWord_verbose {long : Bool} {attached : Option String} {cluster : Cluster}
    (read : ofWord Switch.all .verbose long attached = .ok cluster) :
    (ofWord [.verbose] .verbose long attached).isOk = true ↔
      ∀ switch ∈ cluster.switches, switch = .verbose := by
  cases attached with
  | none =>
      obtain rfl := Except.ok.inj read
      simp [ofWord, switches, Except.isOk, Except.toBool]
  | some text =>
      cases long with
      | true => cases read
      | false => exact isOk_ofLetters_verbose (spells_of_ofLetters read)

end Cluster

/-- To the scan, the words that name a switch are those that begin with the switch for
verbosity. -/
theorem mem_seen_iff {full seen : List Word} (sees : List.Forall₂ Word.SeenAs full seen)
    {switch : Switch} {long : Bool} {attached : Option String} :
    .switch switch long attached ∈ seen ↔
      switch = .verbose ∧ .switch switch long attached ∈ full := by
  induction sees with
  | nil => simp
  | @cons word word_seen full_rest seen_rest first_sees _ induction =>
      rw [List.mem_cons, List.mem_cons, induction]
      by_cases asks : word.asksRecords = true
      · obtain rfl : word_seen = word := by simpa [Word.SeenAs, asks] using first_sees
        constructor
        · rintro (rfl | ⟨verbose, member⟩)
          · exact ⟨by simpa [Word.asksRecords] using asks, .inl rfl⟩
          · exact ⟨verbose, .inr member⟩
        · rintro ⟨verbose, same | member⟩
          · exact .inl same
          · exact .inr ⟨verbose, member⟩
      · have inert : word_seen.inert = true := by simpa [Word.SeenAs, asks] using first_sees
        constructor
        · rintro (rfl | ⟨verbose, member⟩)
          · cases inert
          · exact ⟨verbose, .inr member⟩
        · rintro ⟨verbose, rfl | member⟩
          · exact absurd (by simp [Word.asksRecords, verbose]) asks
          · exact .inr ⟨verbose, member⟩

/-- The condition under which the scan for verbosity agrees with the whole reading. A word that goes
on to other switches is refused by the scan in 3.11.0 to 3.11.8 of `argparse`. -/
structure ScanAgrees (clusters : List Cluster) : Prop where
  /-- No word that begins with the switch for verbosity goes on to other switches. -/
  alone : ∀ cluster ∈ clusters, cluster.switches.head? = some .verbose →
    ∀ switch ∈ cluster.switches, switch = .verbose
  /-- If any word holds the switch, some word begins with it. -/
  shown : (∃ cluster ∈ clusters, .verbose ∈ cluster.switches) →
    ∃ cluster ∈ clusters, cluster.switches.head? = some .verbose

section

variable {full seen : List Word}

/-- The scan comes to its end exactly if no word that begins with its switch goes on to others. -/
theorem complete_seen_iff (sees : List.Forall₂ Word.SeenAs full seen)
    (complete : (Reading.ofWords Switch.all full).error = none) :
    (Reading.ofWords [.verbose] seen).error = none ↔
      ∀ cluster ∈ clusters Switch.all full, cluster.switches.head? = some .verbose →
        ∀ switch ∈ cluster.switches, switch = .verbose := by
  constructor
  · intro seen_complete cluster member begins
    obtain ⟨long, attached, word_mem, read⟩ := exists_word_of_begins member begins
    obtain ⟨other, seen_read⟩ := Reading.exists_cluster_of_complete seen_complete
      ((mem_seen_iff sees).mpr ⟨rfl, word_mem⟩)
    exact (Cluster.isOk_ofWord_verbose read).mp (by rw [seen_read]; rfl)
  · intro alone
    refine Reading.error_ofWords_of_flags (by simp [Switch.takesValue]) ?_
    intro first long attached seen_mem
    obtain ⟨rfl, word_mem⟩ := (mem_seen_iff sees).mp seen_mem
    obtain ⟨cluster, read⟩ := Reading.exists_cluster_of_complete complete word_mem
    have isOk := (Cluster.isOk_ofWord_verbose read).mpr
      (alone cluster (mem_clusters.mpr ⟨_, _, _, word_mem, read⟩) (Cluster.ofWord_spec read).2)
    refine ⟨rfl, ?_⟩
    cases seen_read : Cluster.ofWord [.verbose] .verbose long attached with
    | error error => simp [seen_read, Except.isOk, Except.toBool] at isOk
    | ok other => exact ⟨other, rfl⟩

/-- A scan that comes to its end finds its switch exactly if some word begins with it. -/
theorem given_seen_iff (sees : List.Forall₂ Word.SeenAs full seen)
    (complete : (Reading.ofWords Switch.all full).error = none)
    (seen_complete : (Reading.ofWords [.verbose] seen).error = none) :
    given .verbose (Reading.ofWords [.verbose] seen).items = true ↔
      ∃ cluster ∈ clusters Switch.all full, cluster.switches.head? = some .verbose := by
  rw [Reading.given_ofWords seen_complete]
  constructor
  · rintro ⟨cluster, member, _⟩
    obtain ⟨first, long, attached, seen_mem, _⟩ := mem_clusters.mp member
    obtain ⟨rfl, word_mem⟩ := (mem_seen_iff sees).mp seen_mem
    obtain ⟨other, read⟩ := Reading.exists_cluster_of_complete complete word_mem
    exact ⟨other, mem_clusters.mpr ⟨_, _, _, word_mem, read⟩, (Cluster.ofWord_spec read).2⟩
  · rintro ⟨cluster, member, begins⟩
    obtain ⟨long, attached, word_mem, read⟩ := exists_word_of_begins member begins
    have seen_mem := (mem_seen_iff sees).mpr ⟨rfl, word_mem⟩
    obtain ⟨other, seen_read⟩ := Reading.exists_cluster_of_complete seen_complete seen_mem
    exact ⟨other, mem_clusters.mpr ⟨_, _, _, seen_mem, seen_read⟩,
      List.mem_of_head? (Cluster.ofWord_spec seen_read).2⟩

end

/-- The clusters of a command line in order. -/
def clustersOf (arguments : List String) : List Cluster :=
  match words Switch.all arguments with
  | .ok words => clusters Switch.all words
  | .error _ => []

theorem clustersOf_of_words {arguments : List String} {full : List Word}
    (sorted : words Switch.all arguments = .ok full) :
    clustersOf arguments = clusters Switch.all full := by
  rw [clustersOf, sorted]

/-- A use of the switch for verbosity has no value, so the scan need not look for one. -/
theorem contains_verbose_eq_given {items : List Item} (supplied : ∀ item ∈ items, item.Supplied) :
    items.contains (.use .verbose none) = given .verbose items := by
  rw [Bool.eq_iff_iff, List.contains_iff_mem, given_iff]
  constructor
  · intro member
    exact ⟨none, member⟩
  · rintro ⟨value, member⟩
    obtain rfl : value = none := by simpa [Item.Supplied, Switch.takesValue] using supplied _ member
    exact member

/-- On a command line that is accepted, the scan says what the settings say exactly if no word that
begins with the switch for verbosity goes on to others, and some word begins with it if any word
holds it. -/
theorem wantsRecords_eq_verbose_iff {files : Files} {arguments : List String}
    (accepted : (parse files arguments).ending = none) :
    wantsRecords arguments = .ok (parse files arguments).progress.settings.verbose ↔
      ScanAgrees (clustersOf arguments) := by
  obtain ⟨complete, follows⟩ := follows_parse accepted
  cases sorted : words Switch.all arguments with
  | error error => simp [Reading.ofArguments, sorted] at complete
  | ok full =>
      obtain ⟨seen, seen_sorted, sees⟩ := words_seen sorted
      simp only [Reading.ofArguments, sorted] at complete
      have verbose_iff : (parse files arguments).progress.settings.verbose = true ↔
          ∃ cluster ∈ clusters Switch.all full, .verbose ∈ cluster.switches := by
        rw [follows.verbose, ← Reading.given_ofWords complete]
        simp [itemsOf, Reading.ofArguments, sorted]
      have alone_iff := complete_seen_iff sees complete
      rw [clustersOf_of_words sorted]
      simp only [wantsRecords, Reading.ofArguments, seen_sorted]
      rw [contains_verbose_eq_given (Reading.supplied_ofWords [.verbose] seen)]
      cases seen_error : (Reading.ofWords [.verbose] seen).error with
      | some error =>
          constructor
          · intro agrees
            cases agrees
          · intro agrees
            have seen_complete := alone_iff.mpr agrees.alone
            rw [seen_error] at seen_complete
            cases seen_complete
      | none =>
          have given_iff := given_seen_iff sees complete seen_error
          constructor
          · intro agrees
            have same := Except.ok.inj agrees
            refine ⟨alone_iff.mp seen_error, fun held => ?_⟩
            rw [← given_iff, same, verbose_iff]
            exact held
          · intro agrees
            refine congrArg Except.ok (Bool.eq_iff_iff.mpr ?_)
            rw [given_iff, verbose_iff]
            constructor
            · rintro ⟨cluster, member, begins⟩
              exact ⟨cluster, member, List.mem_of_head? begins⟩
            · exact agrees.shown

/-- The switch for verbosity twice in one word, behind a node. -/
theorem wantsRecords_doubled_verbose :
    (parse (fun _ => .missing) ["-n", "Person", "-vv"]).ending = none ∧
      ScanAgrees (clustersOf ["-n", "Person", "-vv"]) ∧
      wantsRecords ["-n", "Person", "-vv"] =
        .ok (parse (fun _ => .missing) ["-n", "Person", "-vv"]).progress.settings.verbose := by
  have accepted : (parse (fun _ => .missing) ["-n", "Person", "-vv"]).ending = none := by
    decide +kernel
  have agrees : ScanAgrees (clustersOf ["-n", "Person", "-vv"]) :=
    ⟨by decide +kernel, by decide +kernel⟩
  exact ⟨accepted, agrees, (wantsRecords_eq_verbose_iff accepted).mpr agrees⟩

/-- The scan misses the switch for verbosity behind another flag in the same word. -/
theorem wantsRecords_misses_clustered_verbose :
    (parse (fun _ => .missing) ["-xv"]).ending = none ∧
      (parse (fun _ => .missing) ["-xv"]).progress.settings.verbose = true ∧
      wantsRecords ["-xv"] = .ok false :=
  ⟨by decide +kernel, by decide +kernel, by rfl⟩

/-- It refuses a word in which another flag stands behind the switch for verbosity, as `argparse`
does in 3.11.0 to 3.11.8. -/
example : wantsRecords ["-vx"] = .error (.unexpectedValue .verbose "x") := by rfl

end WalkFilter.CommandLine
