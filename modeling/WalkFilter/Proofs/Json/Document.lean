import WalkFilter.Proofs.Json.Layout

/-!
# Documents

The tokens of a value lead the reader to this value, so a document is read from every layout of its
tokens. If the layout breaks off inside a string, the whole text is refused for this string.
-/

namespace WalkFilter.Json

mutual

/-- The tokens that write a value. -/
def Value.tokens : Value → List Token
  | .null => [.scalar .null]
  | .bool value => [.scalar (.bool value)]
  | .integer value => [.scalar (.integer value)]
  | .decimal text => [.scalar (.decimal text)]
  | .string text => [.string text]
  | .array elements => .openArray :: elementTokens elements ++ [.closeArray]
  | .object members => .openObject :: memberTokens members ++ [.closeObject]

/-- The tokens of the elements of an array, with commas between them. -/
def elementTokens : List Value → List Token
  | [] => []
  | [element] => element.tokens
  | element :: next :: rest => element.tokens ++ .comma :: elementTokens (next :: rest)

/-- The tokens of the members of an object, with commas between them. -/
def memberTokens : List (CodeText × Value) → List Token
  | [] => []
  | [(key, value)] => .string key :: .colon :: value.tokens
  | (key, value) :: next :: rest =>
    .string key :: .colon :: value.tokens ++ .comma :: memberTokens (next :: rest)

end

namespace Reader

theorem run_cons {reader next : Reader} {token : Token} {rest : List Token}
    (step : reader.step token = .ok next) : reader.run (token :: rest) = next.run rest := by
  rw [run, step]

theorem run_elementOrEnd (frames : List Frame) (element : Value) (elements : List Value)
    (rest : List Token) :
    run ⟨frames, .elementOrEnd⟩ (elementTokens (element :: elements) ++ rest) =
      run ⟨.array [] :: frames, .value⟩ (elementTokens (element :: elements) ++ rest) := by
  cases elements <;> cases element <;> rfl

theorem run_keyOrEnd (frames : List Frame) (key : CodeText) (value : Value)
    (members : List (CodeText × Value)) (rest : List Token) :
    run ⟨frames, .keyOrEnd⟩ (memberTokens ((key, value) :: members) ++ rest) =
      run ⟨frames, .key []⟩ (memberTokens ((key, value) :: members) ++ rest) := by
  cases members <;> rfl

/-- The tokens of a value are read as the value, whatever is open and whatever follows. -/
def IsRead (value : Value) : Prop :=
  ∀ frames rest, run ⟨frames, .value⟩ (value.tokens ++ rest) = run ⟨frames, .after value⟩ rest

theorem run_elementTokens (frames : List Frame) (earlier : List Value) {element : Value}
    {elements : List Value} (read : ∀ other ∈ element :: elements, IsRead other)
    (rest : List Token) :
    run ⟨.array earlier :: frames, .value⟩
        (elementTokens (element :: elements) ++ .closeArray :: rest) =
      run ⟨frames, .after (.array (earlier.reverse ++ element :: elements))⟩ rest := by
  obtain ⟨first_read, others_read⟩ := List.forall_mem_cons.mp read
  induction elements generalizing earlier element with
  | nil => rw [elementTokens, first_read, run_cons rfl, List.reverse_cons]
  | cons next others induction =>
      obtain ⟨next_read, behind_read⟩ := List.forall_mem_cons.mp others_read
      rw [elementTokens, List.append_assoc, List.cons_append, first_read, run_cons rfl,
        induction (element :: earlier) others_read next_read behind_read, List.reverse_cons,
        List.append_assoc]
      rfl

theorem run_memberTokens (frames : List Frame) (earlier : List (CodeText × Value)) {key : CodeText}
    {value : Value} {members : List (CodeText × Value)}
    (read : ∀ member ∈ (key, value) :: members, IsRead member.2) (rest : List Token) :
    run ⟨frames, .key earlier⟩ (memberTokens ((key, value) :: members) ++ .closeObject :: rest) =
      run ⟨frames, .after (.object (earlier.reverse ++ (key, value) :: members))⟩ rest := by
  obtain ⟨first_read, others_read⟩ := List.forall_mem_cons.mp read
  induction members generalizing earlier key value with
  | nil =>
      rw [memberTokens, List.cons_append, List.cons_append, run_cons rfl, run_cons rfl, first_read,
        run_cons rfl, List.reverse_cons]
  | cons next others induction =>
      obtain ⟨next_read, behind_read⟩ := List.forall_mem_cons.mp others_read
      rw [memberTokens, List.append_assoc, List.cons_append, List.cons_append, List.cons_append,
        run_cons rfl, run_cons rfl, first_read, run_cons rfl,
        induction ((key, value) :: earlier) others_read next_read behind_read, List.reverse_cons,
        List.append_assoc]
      rfl

theorem isRead (value : Value) : IsRead value := by
  intro frames rest
  match value with
  | .null | .bool value | .integer value | .decimal text | .string text => rfl
  | .array [] => rfl
  | .array (element :: elements) =>
      have read : ∀ other ∈ element :: elements, IsRead other := fun other inside => isRead other
      rw [Value.tokens, List.append_assoc, List.cons_append, run_cons rfl]
      exact (run_elementOrEnd frames element elements _).trans
        (run_elementTokens frames [] read rest)
  | .object [] => rfl
  | .object ((key, value) :: members) =>
      have read : ∀ member ∈ (key, value) :: members, IsRead member.2 :=
        fun ⟨_, member_value⟩ inside => isRead member_value
      rw [Value.tokens, List.append_assoc, List.cons_append, run_cons rfl]
      exact (run_keyOrEnd frames key value members _).trans
        (run_memberTokens frames [] read rest)
termination_by value
decreasing_by
  all_goals
    have smaller := List.sizeOf_lt_of_mem inside
    simp only [Prod.mk.sizeOf_spec, List.cons.sizeOf_spec, Value.array.sizeOf_spec,
      Value.object.sizeOf_spec] at smaller ⊢
    omega

theorem run_tokens (value : Value) : start.run value.tokens = .ok value := by
  have read := isRead value [] []
  rw [List.append_nil] at read
  exact read

/-- A reader that takes a string refuses a faulty one. -/
theorem step_badString {reader next : Reader} {content : CodeText} (fault : Fault)
    (taken : reader.step (.string content) = .ok next) :
    reader.step (.badString fault) = .error fault := by
  obtain ⟨frames, expected⟩ := reader
  cases expected with
  | value | elementOrEnd | keyOrEnd | key => rfl
  | colon => cases taken
  | after value => rcases frames with _ | ⟨frame, frames⟩ <;> [skip; cases frame] <;> cases taken

/-- A text that is a document is refused with the fault if one of its strings is faulty. -/
theorem run_badString {reader : Reader} {before behind : List Token} {content : CodeText}
    {value : Value} (fault : Fault)
    (read : reader.run (before ++ .string content :: behind) = .ok value) :
    reader.run (before ++ [.badString fault]) = .error fault := by
  induction before generalizing reader with
  | nil =>
      rw [List.nil_append, run] at read
      split at read
      · rename_i next taken
        rw [List.nil_append, run, step_badString fault taken]
      · cases read
  | cons first rest induction =>
      rw [List.cons_append, run] at read ⊢
      split at read
      · exact induction read
      · cases read

end Reader

/-! ## Whole texts -/

theorem head?_of_layout {tokens : List Token} {text : List Char} (layout : Layout tokens text) :
    text.head? ≠ some '\uFEFF' := by
  intro mark
  obtain ⟨rest, text_eq⟩ := List.head?_eq_some_iff.mp mark
  have split : text = [] ++ '\uFEFF' :: rest := text_eq
  obtain ⟨fault, -, broken⟩ := brokenIn_of_split layout (by decide) split
  exact absurd broken.quote List.not_mem_nil

/-- A document is read from every layout of its tokens. -/
theorem parse_of_layout {value : Value} {text : List Char} (layout : Layout value.tokens text) :
    parse text = .ok value := by
  rw [parse, if_neg (head?_of_layout layout), tokens_of_layout layout, Reader.run_tokens]

/-- A document is read from a line on which its tokens are laid out. -/
theorem parse_line_of_layout {value : Value} {text : List Char}
    (layout : Layout value.tokens text) : parse (text ++ ['\n']) = .ok value := by
  have ends : EndsNumeral ['\n'] := by simp [EndsNumeral]
  have gap : tokens ['\n'] = [] := by
    rw [tokens.eq_def]
    exact tokens_nil
  have no_mark : (text ++ ['\n']).head? ≠ some '\uFEFF' := by
    have text_head := head?_of_layout layout
    cases text with
    | nil => decide
    | cons first rest => exact text_head
  rw [parse, if_neg no_mark, tokens_append_of_layout layout ends, gap, List.append_nil,
    Reader.run_tokens]

/-- A layout that breaks off in front of a character beyond the plain ones is refused. -/
theorem parse_of_split {value : Value} {front behind : List Char} {char : Char}
    (layout : Layout value.tokens (front ++ char :: behind)) (beyond : 0x7F ≤ char.toNat) :
    '"' ∈ front ∧ ∃ fault, BreaksOff fault ∧ parse front = .error fault := by
  obtain ⟨fault, breaks_off, broken⟩ := brokenIn_of_split layout beyond rfl
  refine ⟨broken.quote, fault, breaks_off, ?_⟩
  obtain ⟨before, content, others, whole_eq, tokens_eq⟩ := broken.split
  have read := Reader.run_tokens value
  rw [whole_eq] at read
  have no_mark : front.head? ≠ some '\uFEFF' := by
    have whole_head := head?_of_layout layout
    cases front with
    | nil => simp
    | cons first rest => exact whole_head
  rw [parse, if_neg no_mark, tokens_eq, Reader.run_badString fault read]

end WalkFilter.Json
