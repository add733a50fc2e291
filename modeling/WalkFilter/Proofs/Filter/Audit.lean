import WalkFilter.Proofs.Filter.History
import WalkFilter.Proofs.Text.Quoted

/-!
# The log tells what a builder holds

Work on a builder goes on in single steps: a token is taken, a file is opened, the limit is set, a
group is built. Each step leaves one message in the log or none, and the log of a history is that of
its steps in order, even if files fail. A matcher gains a label exactly when a message says so, so
what the builder holds can be told from the log at any time.
-/

namespace WalkFilter

namespace Audit

/-- A single step of working on a builder. -/
inductive Step where
  /-- A token is taken. -/
  | token (token : String)
  /-- A filter file is opened. -/
  | opening (path : Path)
  /-- The limit is set explicitly. -/
  | limit (value : Bool)
  /-- A group is built. -/
  | building

/-- What a step does to a builder. -/
def Step.apply (builder : Builder) : Step → Builder
  | .token text => builder.addLabel (some text)
  | .limit value => builder.setEndNodesOnly value
  | .opening _ | .building => builder

/-- The operator as the log names it. -/
def matcherName : Operator → String
  | .deny => "deny"
  | .allow => "allow"
  | .endNode => "end_node"
  | .terminator => "terminator"

/-- The message that a label is added to the matcher of an operator. -/
def addingText (label : String) (operator : Operator) : String :=
  "Adding label " ++ Text.quoted label ++ " to the " ++ matcherName operator ++ " matcher"

/-- Labels as the log lists them. -/
def listText (labels : List String) : String :=
  "[" ++ ", ".intercalate (labels.map Text.quoted) ++ "]"

/-- The patterns of the operators and the limit as the log tells them. -/
def dictText (listed : ByOperator (List String)) (limited : Bool) : String :=
  "\x7b" ++ ", ".intercalate ["'denylist': " ++ listText listed.deny,
    "'allowlist': " ++ listText listed.allow, "'end_nodes': " ++ listText listed.endNode,
    "'terminators': " ++ listText listed.terminator,
    "'end_nodes_only': " ++ if limited then "True" else "False"] ++ "\x7d"

/-- The text tells the patterns of the builder, in ascending order and each once, and its limit. -/
inductive Describes (builder : Builder) : String → Prop where
  | intro {listed : ByOperator (List String)}
    (ascending : ∀ operator, (listed.get operator).Pairwise (· < ·))
    (same : ∀ operator label,
      label ∈ listed.get operator ↔ label ∈ (builder.patterns.get operator).labels) :
    Describes builder (dictText listed builder.endNodesOnly)

/-- The messages that a step leaves, read off the text of its token. -/
inductive Leaves (builder : Builder) : Step → List String → Prop where
  | silence : Leaves builder (.token "") []
  | adding {token label : String} {operator : Operator}
    (given : label ∈ Raw.labels [token] operator) :
    Leaves builder (.token token) [addingText label operator]
  | discarding {token : String} (nonempty : token ≠ "")
    (unlabelled : ∀ operator, Raw.labels [token] operator = []) :
    Leaves builder (.token token)
      ["Discarding filter token " ++ Text.quoted token ++ " with no label"]
  | opening (path : Path) :
    Leaves builder (.opening path) ["Loading label filters from " ++ path.text]
  | limit (value : Bool) : Leaves builder (.limit value) []
  | building {text : String} (describes : Describes builder text) :
    Leaves builder .building ["Built label matcher group " ++ text]

/-- Taken one after another, the steps leave the messages and lead to the last builder. -/
inductive Course : Builder → List Step → List String → Builder → Prop where
  | nil (builder : Builder) : Course builder [] [] builder
  | cons {builder last : Builder} {step : Step} {rest : List Step} {messages more : List String}
    (leaves : Leaves builder step messages) (behind : Course (step.apply builder) rest more last) :
    Course builder (step :: rest) (messages ++ more) last

/-- The steps of loading filter files. A path that leads nowhere ends the loading before it is
opened, and a directory or a file that is not UTF-8 after that. -/
def pathSteps (files : Files) : List Path → List Step
  | [] => []
  | path :: rest =>
    match files path with
    | .missing | .tooLong => []
    | .directory => [.opening path]
    | .file bytes =>
      match Text.Utf8.decode bytes with
      | .error _ => [.opening path]
      | .ok text =>
        .opening path :: ((linesOfText text).flatMap lineTokens).map .token ++ pathSteps files rest

/-- The steps of an operation. -/
def stepsOf (files : Files) : Operation → List Step
  | .addLabels filter => (Raw.tokens filter).map .token
  | .addLabel token => token.toList.map .token
  | .loadFilters paths => pathSteps files paths
  | .setEndNodesOnly value => [.limit value]
  | .build => [.building]

/-- The matchers after what a record tells. -/
def replay (matchers : ByOperator Patterns) : Record → ByOperator Patterns
  | .adding label operator => matchers.modify operator (·.add label)
  | _ => matchers

/-- The matchers as the records of a history tell them. -/
def replayAll (records : List Record) : ByOperator Patterns :=
  records.foldl replay ⟨∅, ∅, ∅, ∅⟩

variable {builder last : Builder} {step : Step} {steps : List Step} {messages more : List String}

/-! ## Messages -/

theorem addingText_inj {label other : String} {operator choice : Operator}
    (same : addingText label operator = addingText other choice) :
    label = other ∧ operator = choice := by
  have name_inj : matcherName operator = matcherName choice → operator = choice := by
    cases operator <;> cases choice <;> decide
  unfold addingText at same
  simp only [String.append_assoc] at same
  obtain ⟨label_eq, behind⟩ := Text.quoted_append_inj ((String.append_right_inj _).mp same)
  have names_eq := (String.append_right_inj _).mp behind
  exact ⟨label_eq, name_inj ((String.append_left_inj _).mp names_eq)⟩

theorem message_adding (label : String) (operator : Operator) :
    (Record.adding label operator).message = addingText label operator := by
  cases operator <;> rfl

/-- A text that begins differently is no message that a label is added. -/
theorem addingText_ne {label text : String} {operator : Operator}
    (begins : text.toList.head? ≠ some 'A') : addingText label operator ≠ text := by
  rintro rfl
  refine begins ?_
  unfold addingText
  simp

theorem head?_message_ne {record : Record}
    (other : ∀ label operator, record ≠ .adding label operator) :
    record.message.toList.head? ≠ some 'A' := by
  unfold Record.message
  cases record with
  | adding label operator => exact absurd rfl (other label operator)
  | discarding | loading | built | evaluating => simp

/-- A record says that a label is added only if it is the record of that. -/
theorem message_eq_addingText_iff {record : Record} {label : String} {operator : Operator} :
    record.message = addingText label operator ↔ record = .adding label operator := by
  constructor
  · intro same
    by_contra different
    refine addingText_ne (head?_message_ne fun other choice is_adding => different ?_) same.symm
    subst is_adding
    rw [message_adding] at same
    obtain ⟨rfl, rfl⟩ := addingText_inj same
    rfl
  · rintro rfl
    exact message_adding label operator

theorem describePatterns_eq_dictText (group : Group) :
    group.describePatterns = dictText (group.patterns.map Patterns.toList) group.endNodesOnly := by
  have entry {name shown : String} (plain : name.toList.all (Text.NeedsNoEscape ·) = true)
      (shown_eq : "'" ++ name ++ "'" ++ ": " = shown) : Text.quoted name ++ ": " = shown := by
    have needs_none : ∀ char ∈ name.toList, Text.NeedsNoEscape char := by simpa using plain
    rw [Text.quoted_of_needsNoEscape needs_none, shown_eq]
  have denylist : Text.quoted "denylist" ++ ": " = "'denylist': " :=
    entry (by decide +kernel) (by decide +kernel)
  have allowlist : Text.quoted "allowlist" ++ ": " = "'allowlist': " :=
    entry (by decide +kernel) (by decide +kernel)
  have end_nodes : Text.quoted "end_nodes" ++ ": " = "'end_nodes': " :=
    entry (by decide +kernel) (by decide +kernel)
  have terminators : Text.quoted "terminators" ++ ": " = "'terminators': " :=
    entry (by decide +kernel) (by decide +kernel)
  have end_nodes_only : Text.quoted "end_nodes_only" ++ ": " = "'end_nodes_only': " :=
    entry (by decide +kernel) (by decide +kernel)
  simp only [Group.describePatterns, denylist, allowlist, end_nodes, terminators, end_nodes_only]
  rfl

/-- A builder is described as the group that it builds, and in no other way. -/
theorem describes_iff {text : String} :
    Describes builder text ↔ text = builder.build.describePatterns := by
  rw [describePatterns_eq_dictText]
  constructor
  · rintro ⟨ascending, same⟩
    refine congrArg (dictText · builder.endNodesOnly) (ByOperator.eq_of_get fun operator => ?_)
    have kept : (builder.patterns.get operator).labels.toList = _ :=
      LabelSet.toList_eq (ascending operator) fun label => (same operator label).symm
    rw [← kept, ByOperator.get_map]
    rfl
  · rintro rfl
    refine .intro (fun operator => ?_) fun operator label => ?_
    · rw [ByOperator.get_map]
      exact (builder.patterns.get operator).labels.ascending
    · rw [ByOperator.get_map]
      rfl

/-! ## Single steps -/

/-- A step leaves only one thing in the log. -/
theorem Leaves.unique (leaves : Leaves builder step messages) (other : Leaves builder step more) :
    messages = more := by
  cases leaves with
  | silence =>
      cases other with
      | silence => rfl
      | adding given => exact absurd given (by simp [Raw.labels_empty])
      | discarding nonempty => exact absurd rfl nonempty
  | adding given =>
      cases other with
      | silence => exact absurd given (by simp [Raw.labels_empty])
      | adding choice =>
          have parsed := (Raw.mem_labels_singleton.mp given).2
          rw [(Raw.mem_labels_singleton.mp choice).2] at parsed
          cases parsed
          rfl
      | discarding _ unlabelled => exact absurd given (by simp [unlabelled])
  | discarding nonempty unlabelled =>
      cases other with
      | silence => exact absurd rfl nonempty
      | adding given => exact absurd given (by simp [unlabelled])
      | discarding => rfl
  | opening | limit =>
      cases other
      rfl
  | building describes =>
      cases other with
      | building other_describes =>
          rw [describes_iff.mp describes, describes_iff.mp other_describes]

/-- A token leaves what its record says. -/
theorem leaves_token (builder : Builder) (token : String) :
    Leaves builder (.token token) ((Record.ofToken (some token)).map Record.message) := by
  rw [Record.ofToken]
  cases parsed : Token.parse? (some token) with
  | none =>
      rcases Raw.token_cases token with rfl | ⟨operator, rest, rfl⟩ | ⟨first, rest, unmarked, rfl⟩
      · exact .silence
      · rw [Token.parse?_symbol] at parsed
        cases parsed
      · rw [Token.parse?_plain unmarked] at parsed
        cases parsed
  | some parts =>
      obtain ⟨operator, label⟩ := parts
      simp only
      split
      · rename_i empty
        refine .discarding ?_ fun choice => List.eq_nil_iff_forall_not_mem.mpr fun other given => ?_
        · rintro rfl
          cases parsed
        · obtain ⟨nonempty, other_parsed⟩ := Raw.mem_labels_singleton.mp given
          rw [parsed] at other_parsed
          cases other_parsed
          exact nonempty empty
      · rename_i nonempty
        rw [List.map_singleton, message_adding]
        exact .adding (Raw.mem_labels_singleton.mpr ⟨nonempty, parsed⟩)

/-- A step adds a label to a matcher exactly if it says so. -/
theorem Leaves.mem_apply (leaves : Leaves builder step messages) (operator : Operator)
    (label : String) :
    label ∈ ((step.apply builder).patterns.get operator).labels ↔
      label ∈ (builder.patterns.get operator).labels ∨ addingText label operator ∈ messages := by
  cases leaves with
  | silence => simp [Step.apply, Builder.mem_addLabel, Raw.labels_empty]
  | @adding token given_label choice given =>
      rw [Step.apply, Builder.mem_addLabel, List.mem_singleton]
      refine or_congr_right ⟨fun member => ?_, fun same => ?_⟩
      · have parsed := (Raw.mem_labels_singleton.mp member).2
        rw [(Raw.mem_labels_singleton.mp given).2] at parsed
        cases parsed
        rfl
      · obtain ⟨rfl, rfl⟩ := addingText_inj same
        exact given
  | discarding nonempty unlabelled =>
      rw [Step.apply, Builder.mem_addLabel, unlabelled, List.mem_singleton]
      refine or_congr_right ⟨fun member => absurd member List.not_mem_nil, fun same => ?_⟩
      exact absurd same (addingText_ne (by simp))
  | opening | building =>
      rw [Step.apply, List.mem_singleton]
      exact (or_iff_left (addingText_ne (by simp))).symm
  | limit value => simp [Step.apply, Builder.setEndNodesOnly]

/-! ## Courses of steps -/

theorem Course.unique {other : Builder} (course : Course builder steps messages last)
    (another : Course builder steps more other) : messages = more ∧ last = other := by
  induction course generalizing more with
  | nil =>
      cases another
      exact ⟨rfl, rfl⟩
  | cons leaves behind induction =>
      cases another with
      | cons other_leaves other_behind =>
          obtain ⟨rfl, rfl⟩ := induction other_behind
          exact ⟨congrArg (· ++ _) (leaves.unique other_leaves), rfl⟩

theorem Course.append {middle : Builder} {rest : List Step}
    (course : Course builder steps messages middle) (behind : Course middle rest more last) :
    Course builder (steps ++ rest) (messages ++ more) last := by
  induction course with
  | nil => exact behind
  | cons leaves _ induction =>
      rw [List.append_assoc]
      exact .cons leaves (induction behind)

/-- What a course leaves is known after each of its steps. -/
theorem Course.take (course : Course builder steps messages last) (count : Nat) :
    ∃ front state, Course builder (steps.take count) front state ∧ front <+: messages := by
  induction course generalizing count with
  | nil builder => exact ⟨[], builder, List.take_nil.symm ▸ .nil builder, List.prefix_rfl⟩
  | @cons builder last step rest messages more leaves behind induction =>
      cases count with
      | zero => exact ⟨[], builder, .nil builder, List.nil_prefix⟩
      | succ count =>
          obtain ⟨front, state, taken, is_front⟩ := induction count
          exact ⟨messages ++ front, state, .cons leaves taken,
            (List.prefix_append_right_inj messages).mpr is_front⟩

/-- The last builder holds what the first one held and the labels that the messages tell. -/
theorem Course.mem_patterns (course : Course builder steps messages last) (operator : Operator)
    (label : String) :
    label ∈ (last.patterns.get operator).labels ↔
      label ∈ (builder.patterns.get operator).labels ∨ addingText label operator ∈ messages := by
  induction course with
  | nil => simp
  | cons leaves _ induction =>
      rw [induction, leaves.mem_apply, List.mem_append, or_assoc]

/-! ## Operations -/

theorem course_tokens (builder : Builder) (tokens : List String) :
    Course builder (tokens.map .token)
      ((tokens.flatMap fun token => Record.ofToken (some token)).map Record.message)
      (builder.addTokens tokens) := by
  induction tokens generalizing builder with
  | nil => exact .nil builder
  | cons token rest induction =>
      rw [List.flatMap_cons, List.map_append]
      exact .cons (leaves_token builder token) (induction _)

theorem ofFilter_eq_flatMap (filter : Option String) :
    Record.ofFilter filter =
      (Raw.tokens filter).flatMap fun token => Record.ofToken (some token) := by
  cases filter with
  | none => rfl
  | some filter =>
      rw [Record.ofFilter, Option.getD_some, Text.pieces_eq_splitOn]
      rfl

theorem course_lines (builder : Builder) (lines : List String) :
    Course builder ((lines.flatMap lineTokens).map .token)
      (((filtersOfLines lines).flatMap fun filter => Record.ofFilter (some filter)).map
        Record.message)
      (builder.addFilters (filtersOfLines lines)) := by
  have records_eq : (filtersOfLines lines).flatMap (fun filter => Record.ofFilter (some filter)) =
      (lines.flatMap lineTokens).flatMap fun token => Record.ofToken (some token) := by
    simp only [ofFilter_eq_flatMap, ← List.flatMap_assoc, tokens_filtersOfLines]
  rw [records_eq, Builder.addFilters_eq_addTokens, tokens_filtersOfLines]
  exact course_tokens builder (lines.flatMap lineTokens)

theorem course_paths (files : Files) (builder : Builder) (paths : List Path) :
    Course builder (pathSteps files paths) ((Record.ofPaths files paths).map Record.message)
      (builder.loadFilters files paths).builder := by
  induction paths generalizing builder with
  | nil => exact .nil builder
  | cons path rest induction =>
      have opened : Course builder [.opening path] [(Record.loading path).message] builder :=
        .cons (.opening path) (.nil builder)
      rw [pathSteps, Record.ofPaths, Builder.loadFilters, Files.readFilters, Files.readLines]
      cases files path with
      | missing | tooLong => exact .nil builder
      | directory => exact opened
      | file bytes =>
          simp only
          cases Text.Utf8.decode bytes with
          | error fault => exact opened
          | ok text =>
              have behind := (course_lines builder (linesOfText text)).append (induction _)
              rw [← List.map_append] at behind
              exact opened.append behind

theorem course_operation (files : Files) (builder : Builder) (operation : Operation) :
    Course builder (stepsOf files operation)
      ((operation.records files builder).map Record.message)
      (operation.apply files builder).builder := by
  cases operation with
  | addLabels filter =>
      rw [Operation.records, ofFilter_eq_flatMap, Operation.apply, Builder.addLabels_eq_addTokens]
      exact course_tokens builder (Raw.tokens filter)
  | addLabel token =>
      cases token with
      | none => exact .nil builder
      | some token =>
          have course := course_tokens builder [token]
          rw [List.flatMap_singleton] at course
          exact course
  | loadFilters paths => exact course_paths files builder paths
  | setEndNodesOnly value => exact .cons (.limit value) (.nil _)
  | build => exact .cons (.building (describes_iff.mpr rfl)) (.nil builder)

theorem course_history (files : Files) (builder : Builder) (operations : List Operation) :
    Course builder (operations.flatMap (stepsOf files))
      ((Operation.recordsOfAll files builder operations).map Record.message)
      (Operation.runAll files builder operations) := by
  induction operations generalizing builder with
  | nil => exact .nil builder
  | cons operation rest induction =>
      rw [List.flatMap_cons, Operation.recordsOfAll, List.map_append]
      exact (course_operation files builder operation).append (induction _)

/-! ## Matchers told by the log -/

theorem mem_replay {matchers : ByOperator Patterns} {records : List Record} {operator : Operator}
    {label : String} :
    label ∈ ((records.foldl replay matchers).get operator).labels ↔
      label ∈ (matchers.get operator).labels ∨
        label ≠ "" ∧ Record.adding label operator ∈ records := by
  induction records generalizing matchers with
  | nil => simp
  | cons record rest induction =>
      rw [List.foldl_cons, induction, List.mem_cons]
      cases record with
      | adding other choice =>
          rw [replay, ByOperator.get_modify, Record.adding.injEq]
          split
          · rw [Patterns.mem_add]
            grind
          · grind
      | discarding | loading | built | evaluating => simp [replay]

/-- Records that tell the labels of a builder rebuild its matchers. -/
theorem replayAll_eq {records : List Record}
    (told : ∀ operator label, label ∈ (builder.patterns.get operator).labels ↔
      addingText label operator ∈ records.map Record.message) :
    replayAll records = builder.patterns := by
  refine ByOperator.eq_of_get fun operator => Patterns.eq_of_labels (LabelSet.eq_of_mem_iff ?_)
  intro label
  have not_initial := Builder.not_mem_initial operator label
  rw [replayAll, mem_replay, or_iff_right not_initial, told, List.mem_map]
  simp only [message_eq_addingText_iff, exists_eq_right]
  refine and_iff_right_of_imp fun member => ?_
  rintro rfl
  have holds := (told operator "").mpr (List.mem_map.mpr ⟨_, member, message_adding "" operator⟩)
  exact (builder.patterns.get operator).empty_not_mem holds

/-- The log of a history is what its steps leave, one after another, and nothing else. After each
step, even within a file, a matcher holds just the labels of which the log has said that they are
added to it. The records rebuild the matchers. -/
theorem course_recordsOfAll (files : Files) (filter : Option String)
    (operations : List Operation) :
    let history := .addLabels filter :: operations
    let steps := history.flatMap (stepsOf files)
    let records := Operation.recordsOfAll files {} history
    let builder := Operation.runAll files {} history
    (∀ messages last, Course {} steps messages last ↔
      messages = records.map Record.message ∧ last = builder) ∧
    (∀ count, ∃ messages state, Course {} (steps.take count) messages state ∧
      messages <+: records.map Record.message ∧
      ∀ operator label, label ∈ (state.patterns.get operator).labels ↔
        addingText label operator ∈ messages) ∧
    replayAll records = builder.patterns := by
  intro history steps records builder
  have course : Course {} steps (records.map Record.message) builder :=
    course_history files {} history
  have told {steps : List Step} {messages : List String} {state : Builder}
      (course : Course {} steps messages state) (operator : Operator) (label : String) :
      label ∈ (state.patterns.get operator).labels ↔ addingText label operator ∈ messages :=
    (course.mem_patterns operator label).trans
      (or_iff_right (Builder.not_mem_initial operator label))
  refine ⟨fun messages last => ⟨fun other => other.unique course, ?_⟩, fun count => ?_,
    replayAll_eq (told course)⟩
  · rintro ⟨rfl, rfl⟩
    exact course
  · obtain ⟨messages, state, taken, is_front⟩ := course.take count
    exact ⟨messages, state, taken, is_front, told taken⟩

/-- The log of three filters, one of which is a directory, and of the group that is built. -/
theorem course_recordsOfAll_threeFilters :
    let files : Files := fun _ => .directory
    let history : List Operation := [.addLabels (some ">Person|+"), .addLabel (some "-it's"),
      .loadFilters [.ofText "filters"], .build]
    Course {} (history.flatMap (stepsOf files))
      ["Adding label 'Person' to the end_node matcher", "Discarding filter token '+' with no label",
        "Adding label \"it's\" to the deny matcher", "Loading label filters from filters",
        "Built label matcher group \x7b'denylist': [\"it's\"], 'allowlist': [], " ++
          "'end_nodes': ['Person'], 'terminators': [], 'end_nodes_only': True\x7d"]
      (Operation.runAll files {} history) := by
  intro files history
  have records_eq : Operation.recordsOfAll files {} history =
      [.adding "Person" .endNode, .discarding "+", .adding "it's" .deny,
        .loading (.ofText "filters"), .built (Group.ofFilter (some ">Person|-it's"))] := by
    decide +kernel
  have end_node : (Record.adding "Person" .endNode).message =
      "Adding label 'Person' to the end_node matcher" := by
    decide +kernel
  have no_label : (Record.discarding "+").message =
      "Discarding filter token '+' with no label" := by
    decide +kernel
  have deny : (Record.adding "it's" .deny).message =
      "Adding label \"it's\" to the deny matcher" := by
    decide +kernel
  have opened : (Record.loading (.ofText "filters")).message =
      "Loading label filters from filters" := by
    decide +kernel
  have built : (Record.built (Group.ofFilter (some ">Person|-it's"))).message =
      "Built label matcher group \x7b'denylist': [\"it's\"], 'allowlist': [], " ++
        "'end_nodes': ['Person'], 'terminators': [], 'end_nodes_only': True\x7d" :=
    (congrArg ("Built label matcher group " ++ ·) (describePatterns_eq_dictText _)).trans
      (by decide +kernel)
  refine ((course_recordsOfAll files (some ">Person|+") _).1 _ _).mpr ⟨?_, rfl⟩
  rw [show Operation.recordsOfAll files {} _ = _ from records_eq, List.map_cons, List.map_cons,
    List.map_cons, List.map_cons, List.map_cons, List.map_nil, end_node, no_label, deny, opened,
    built]

example (first second : Path) :
    stepsOf (fun _ => .directory) (.loadFilters [first, second]) = [.opening first] := rfl

example : Record.ofFilter (some ">Person||+|Person") =
    [.adding "Person" .endNode, .discarding "+", .adding "Person" .allow] := by
  decide +kernel

end Audit

end WalkFilter
