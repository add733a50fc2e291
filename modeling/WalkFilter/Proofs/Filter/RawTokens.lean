import WalkFilter.Filter.Source
import WalkFilter.Proofs.LabelSet
import WalkFilter.Proofs.Text.Split

/-!
# Filters as raw tokens

A filter can be read without any builder: its tokens are the pieces between the bars, and the labels
of an operator are what follows its symbol. This file shows that a builder holds exactly these
labels, whatever was added to it and in whatever portions.
-/

namespace WalkFilter

namespace Raw

/-- The pieces of a filter between its bars; an absent filter has none. -/
def tokens : Option String → List String
  | none => []
  | some filter => (filter.toList.splitOn '|').map String.ofList

/-- What follows the symbol in the tokens that start with it and hold more than it. -/
def remainders (symbol : Char) (tokens : List String) : List String :=
  tokens.filterMap fun token =>
    match token.toList with
    | first :: next :: rest => if first = symbol then some (String.ofList (next :: rest)) else none
    | _ => none

/-- The characters with a meaning at the start of a token. -/
def symbols : List Char := ['>', '/', '-', '+']

/-- The tokens that start with some other character. -/
def plain (tokens : List String) : List String :=
  tokens.filter fun token =>
    match token.toList with
    | [] => false
    | first :: _ => first ∉ symbols

/-- The labels that the tokens give to each operator. -/
def labels (tokens : List String) : Operator → List String
  | .deny => remainders '-' tokens
  | .terminator => remainders '/' tokens
  | .endNode => remainders '>' tokens
  | .allow => remainders '+' tokens ++ plain tokens

/-- Some token starts with a symbol that limits results, even if nothing follows it. -/
def restricts (tokens : List String) : Bool :=
  tokens.any fun token => token.toList.head? = some '>' || token.toList.head? = some '/'

@[simp]
theorem remainders_append (symbol : Char) (left right : List String) :
    remainders symbol (left ++ right) = remainders symbol left ++ remainders symbol right :=
  List.filterMap_append

@[simp]
theorem plain_append (left right : List String) :
    plain (left ++ right) = plain left ++ plain right :=
  List.filter_append ..

theorem mem_labels_append {left right : List String} {operator : Operator} {label : String} :
    label ∈ labels (left ++ right) operator ↔
      label ∈ labels left operator ∨ label ∈ labels right operator := by
  cases operator <;> simp [labels]
  tauto

@[simp]
theorem restricts_append (left right : List String) :
    restricts (left ++ right) = (restricts left || restricts right) :=
  List.any_append

/-- A bar between two filters does not come into any token. -/
theorem tokens_append_bar (left right : String) :
    tokens (some (left ++ "|" ++ right)) = tokens (some left) ++ tokens (some right) := by
  have bar : "|".toList = ['|'] := by decide
  simp only [tokens, String.toList_append, bar, List.append_assoc, List.singleton_append,
    Text.splitOn_append_cons, List.map_append]

/-- Filters joined by bars have the tokens of each of them. -/
theorem tokens_intercalate {filters : List String} (nonempty : filters ≠ []) :
    tokens (some ("|".intercalate filters)) =
      filters.flatMap fun filter => tokens (some filter) := by
  induction filters with
  | nil => exact absurd rfl nonempty
  | cons first rest induction =>
      cases rest with
      | nil => simp
      | cons second others =>
          rw [String.intercalate_cons_cons, tokens_append_bar, induction (by simp)]
          simp only [List.flatMap_cons]

end Raw

theorem Operator.ofSymbol?_eq_some_iff {symbol : Char} {operator : Operator} :
    Operator.ofSymbol? symbol = some operator ↔ operator.symbol = symbol := by
  constructor
  · intro found
    simpa using List.find?_some found
  · rintro rfl
    cases operator <;> rfl

theorem Operator.ofSymbol?_eq_none_iff {symbol : Char} :
    Operator.ofSymbol? symbol = none ↔ symbol ∉ Raw.symbols := by
  simp only [Operator.ofSymbol?, Operator.all, List.find?_eq_none, Raw.symbols]
  simp [Operator.symbol, eq_comm]

/-! ## The three kinds of tokens -/

/-- A token is empty, starts with the symbol of an operator, or starts with another character. -/
theorem Raw.token_cases (token : String) :
    token = "" ∨ (∃ (operator : Operator) (rest : List Char),
      token = String.ofList (operator.symbol :: rest)) ∨
      ∃ (first : Char) (rest : List Char),
        first ∉ symbols ∧ token = String.ofList (first :: rest) := by
  obtain ⟨chars, rfl⟩ : ∃ chars, token = String.ofList chars := ⟨token.toList, by simp⟩
  cases chars with
  | nil => exact .inl rfl
  | cons first rest =>
      cases selected : Operator.ofSymbol? first with
      | some operator =>
          obtain rfl := Operator.ofSymbol?_eq_some_iff.mp selected
          exact .inr (.inl ⟨operator, rest, rfl⟩)
      | none => exact .inr (.inr ⟨first, rest, Operator.ofSymbol?_eq_none_iff.mp selected, rfl⟩)

theorem Token.parse?_empty : Token.parse? (some "") = none := rfl

theorem Token.parse?_symbol (operator : Operator) (rest : List Char) :
    Token.parse? (some (String.ofList (operator.symbol :: rest))) =
      some ⟨operator, String.ofList rest⟩ := by
  simp [Token.parse?, Operator.ofSymbol?_eq_some_iff.mpr rfl]

theorem Token.parse?_plain {first : Char} (unmarked : first ∉ Raw.symbols) (rest : List Char) :
    Token.parse? (some (String.ofList (first :: rest))) =
      some ⟨.allow, String.ofList (first :: rest)⟩ := by
  simp [Token.parse?, Operator.ofSymbol?_eq_none_iff.mpr unmarked]

namespace Raw

theorem labels_empty (operator : Operator) : labels [""] operator = [] := by
  cases operator <;> simp [labels, remainders, plain]

theorem remainders_singleton (symbol first : Char) (rest : List Char) :
    remainders symbol [String.ofList (first :: rest)] =
      if first = symbol ∧ rest ≠ [] then [String.ofList rest] else [] := by
  cases rest with
  | nil => simp [remainders]
  | cons next others => by_cases same : first = symbol <;> simp [remainders, same]

theorem plain_singleton (first : Char) (rest : List Char) :
    plain [String.ofList (first :: rest)] =
      if first ∈ symbols then [] else [String.ofList (first :: rest)] := by
  by_cases marked : first ∈ symbols <;> simp [plain, marked]

theorem labels_symbol (operator other : Operator) (rest : List Char) :
    labels [String.ofList (operator.symbol :: rest)] other =
      if operator = other ∧ rest ≠ [] then [String.ofList rest] else [] := by
  have plain_nil : plain [String.ofList (operator.symbol :: rest)] = [] := by
    rw [plain_singleton, if_pos (by cases operator <;> decide)]
  have labels_eq : labels [String.ofList (operator.symbol :: rest)] other =
      remainders other.symbol [String.ofList (operator.symbol :: rest)] := by
    cases other with
    | deny | terminator | endNode => rfl
    | allow => rw [labels, plain_nil, List.append_nil, Operator.symbol]
  have same : operator.symbol = other.symbol ↔ operator = other := by
    cases operator <;> cases other <;> decide
  rw [labels_eq, remainders_singleton]
  simp only [same]

theorem labels_plain {first : Char} (unmarked : first ∉ symbols) (operator : Operator)
    (rest : List Char) :
    labels [String.ofList (first :: rest)] operator =
      if operator = .allow then [String.ofList (first :: rest)] else [] := by
  have remainders_nil {symbol : Char} (marked : symbol ∈ symbols) :
      remainders symbol [String.ofList (first :: rest)] = [] := by
    rw [remainders_singleton, if_neg]
    rintro ⟨rfl, -⟩
    exact unmarked marked
  cases operator with
  | deny | terminator | endNode => exact remainders_nil (by decide)
  | allow =>
      rw [labels, remainders_nil (by decide), plain_singleton, if_neg unmarked]
      rfl

/-- The labels of a single token are its label under the operator it is taken apart into. -/
theorem mem_labels_singleton {token label : String} {operator : Operator} :
    label ∈ labels [token] operator ↔
      label ≠ "" ∧ Token.parse? (some token) = some ⟨operator, label⟩ := by
  rcases token_cases token with rfl | ⟨chosen, rest, rfl⟩ | ⟨first, rest, unmarked, rfl⟩
  · simp [labels_empty, Token.parse?_empty]
  · rw [labels_symbol, Token.parse?_symbol]
    simp only [List.mem_ite_nil_right, List.mem_singleton, Option.some.injEq, Token.mk.injEq]
    constructor
    · rintro ⟨⟨rfl, nonempty⟩, rfl⟩
      exact ⟨by simpa using nonempty, rfl, rfl⟩
    · rintro ⟨nonempty, rfl, rfl⟩
      exact ⟨⟨rfl, by simpa using nonempty⟩, rfl⟩
  · rw [labels_plain unmarked, Token.parse?_plain unmarked]
    simp only [List.mem_ite_nil_right, List.mem_singleton, Option.some.injEq, Token.mk.injEq]
    constructor
    · rintro ⟨rfl, rfl⟩
      exact ⟨by simp, rfl, rfl⟩
    · rintro ⟨-, rfl, rfl⟩
      exact ⟨rfl, rfl⟩

/-- A single token limits results if the operator it is taken apart into does. -/
theorem restricts_singleton (token : String) :
    restricts [token] = (Token.parse? (some token)).any (·.operator.restricts) := by
  rcases token_cases token with rfl | ⟨operator, rest, rfl⟩ | ⟨first, rest, unmarked, rfl⟩
  · rfl
  · rw [Token.parse?_symbol]
    cases operator <;> simp [restricts, Operator.symbol, Operator.restricts]
  · rw [Token.parse?_plain unmarked]
    simp_all [restricts, symbols, Operator.restricts]

end Raw

/-! ## What a builder holds -/

theorem Patterns.mem_add {patterns : Patterns} {label other : String} :
    other ∈ (patterns.add label).labels ↔
      other ∈ patterns.labels ∨ (other = label ∧ other ≠ "") := by
  rw [Patterns.add]
  split
  · rename_i empty
    constructor
    · exact .inl
    · rintro (member | ⟨rfl, nonempty⟩)
      · exact member
      · exact absurd empty nonempty
  · rename_i nonempty
    rw [LabelSet.mem_insert]
    constructor
    · rintro (rfl | member)
      · exact .inr ⟨rfl, nonempty⟩
      · exact .inl member
    · rintro (member | ⟨rfl, -⟩)
      · exact .inr member
      · exact .inl rfl

/-- The patterns gain the labels of a list, but for absent and empty ones. -/
theorem Patterns.mem_foldl_add {patterns : Patterns} {labels : List (Option String)}
    {label : String} :
    label ∈ (labels.foldl (fun patterns label => patterns.add (label.getD "")) patterns).labels ↔
      label ∈ patterns.labels ∨ label ≠ "" ∧ some label ∈ labels := by
  induction labels generalizing patterns with
  | nil => simp
  | cons first rest induction =>
      rw [List.foldl_cons, induction, mem_add, List.mem_cons]
      cases first with
      | none => simp
      | some other => grind

namespace Builder

/-- Adding one token adds its label to the patterns of its operator and nothing else. -/
theorem mem_addLabel {builder : Builder} {token label : String} {operator : Operator} :
    label ∈ ((builder.addLabel (some token)).patterns.get operator).labels ↔
      label ∈ (builder.patterns.get operator).labels ∨ label ∈ Raw.labels [token] operator := by
  rw [Raw.mem_labels_singleton, addLabel]
  cases parsed : Token.parse? (some token) with
  | none => simp
  | some parts =>
      obtain ⟨chosen, given⟩ := parts
      simp only [addToken, ByOperator.get_modify, Option.some.injEq, Token.mk.injEq]
      split
      · rename_i same
        rw [Patterns.mem_add]
        grind
      · rename_i other
        grind

theorem endNodesOnly_addLabel (builder : Builder) (token : String) :
    (builder.addLabel (some token)).endNodesOnly =
      (builder.endNodesOnly || Raw.restricts [token]) := by
  rw [Raw.restricts_singleton, addLabel]
  cases Token.parse? (some token) with
  | none => simp
  | some parts => rfl

/-- Adds several tokens in order. -/
def addTokens (builder : Builder) (tokens : List String) : Builder :=
  tokens.foldl (fun builder token => builder.addLabel (some token)) builder

theorem addTokens_append (builder : Builder) (left right : List String) :
    builder.addTokens (left ++ right) = (builder.addTokens left).addTokens right :=
  List.foldl_append

/-- A builder gains the labels of the tokens added to it. -/
theorem mem_addTokens {builder : Builder} {tokens : List String} {operator : Operator}
    {label : String} :
    label ∈ ((builder.addTokens tokens).patterns.get operator).labels ↔
      label ∈ (builder.patterns.get operator).labels ∨ label ∈ Raw.labels tokens operator := by
  induction tokens generalizing builder with
  | nil => cases operator <;> simp [addTokens, Raw.labels, Raw.remainders, Raw.plain]
  | cons token rest induction =>
      have split : Raw.labels (token :: rest) operator = Raw.labels ([token] ++ rest) operator :=
        rfl
      rw [split, Raw.mem_labels_append]
      change label ∈
        (((builder.addLabel (some token)).addTokens rest).patterns.get operator).labels ↔ _
      rw [induction, mem_addLabel, or_assoc]

theorem not_mem_initial (operator : Operator) (label : String) :
    label ∉ (({} : Builder).patterns.get operator).labels := by
  cases operator <;> exact LabelSet.not_mem_empty label

theorem endNodesOnly_addTokens (builder : Builder) (tokens : List String) :
    (builder.addTokens tokens).endNodesOnly = (builder.endNodesOnly || Raw.restricts tokens) := by
  induction tokens generalizing builder with
  | nil => simp [addTokens, Raw.restricts]
  | cons token rest induction =>
      change ((builder.addLabel (some token)).addTokens rest).endNodesOnly = _
      rw [induction, endNodesOnly_addLabel, Bool.or_assoc, ← Raw.restricts_append]
      rfl

theorem addLabels_eq_addTokens (builder : Builder) (filter : Option String) :
    builder.addLabels filter = builder.addTokens (Raw.tokens filter) := by
  cases filter with
  | none => rfl
  | some filter =>
      rw [addLabels, Option.getD_some, Text.pieces_eq_splitOn]
      rfl

theorem addFilters_eq_addTokens (builder : Builder) (filters : List String) :
    builder.addFilters filters =
      builder.addTokens (filters.flatMap fun filter => Raw.tokens (some filter)) := by
  induction filters generalizing builder with
  | nil => rfl
  | cons filter rest induction =>
      rw [List.flatMap_cons, addTokens_append, ← addLabels_eq_addTokens, ← induction]
      rfl

end Builder

/-! ## Tokens in any order and number -/

/-- The tokens are the same but for their order, their number and empty ones. -/
def SameTokens (left right : List String) : Prop :=
  ∀ token, token ≠ "" → (token ∈ left ↔ token ∈ right)

instance (left right : List String) : Decidable (SameTokens left right) :=
  decidable_of_iff
    ((∀ token ∈ left, token ≠ "" → token ∈ right) ∧ ∀ token ∈ right, token ≠ "" → token ∈ left)
    ⟨fun both token nonempty => ⟨(both.1 token · nonempty), (both.2 token · nonempty)⟩,
      fun same => ⟨fun token member nonempty => (same token nonempty).mp member,
        fun token member nonempty => (same token nonempty).mpr member⟩⟩

theorem SameTokens.of_perm {left right : List String} (perm : left.Perm right) :
    SameTokens left right := fun _ _ => perm.mem_iff

namespace Raw

variable {left right : List String}

/-- An operator is given a label exactly if some token is taken apart into the two. -/
theorem mem_labels_iff {tokens : List String} {operator : Operator} {label : String} :
    label ∈ labels tokens operator ↔
      label ≠ "" ∧ ∃ token ∈ tokens, Token.parse? (some token) = some ⟨operator, label⟩ := by
  induction tokens with
  | nil => cases operator <;> simp [labels, remainders, plain]
  | cons token rest induction =>
      have split : labels (token :: rest) operator = labels ([token] ++ rest) operator := rfl
      rw [split, mem_labels_append, mem_labels_singleton, induction, List.exists_mem_cons_iff]
      tauto

/-- Results are limited exactly if some token is taken apart into a restricting operator. -/
theorem restricts_iff {tokens : List String} :
    restricts tokens = true ↔
      ∃ token ∈ tokens, (Token.parse? (some token)).any (·.operator.restricts) = true := by
  induction tokens with
  | nil => simp [restricts]
  | cons token rest induction =>
      have split : restricts (token :: rest) = restricts ([token] ++ rest) := rfl
      rw [split, restricts_append, Bool.or_eq_true, restricts_singleton, induction,
        List.exists_mem_cons_iff]

/-- Filters joined by bars have the tokens of each of them, even if there are no filters. -/
theorem sameTokens_intercalate (filters : List String) :
    SameTokens (filters.flatMap fun filter => tokens (some filter))
      (tokens (some ("|".intercalate filters))) := by
  intro token nonempty
  cases filters with
  | nil => simpa [tokens] using nonempty
  | cons first rest => rw [tokens_intercalate (List.cons_ne_nil first rest)]

/-- An empty token gives nothing, so it makes no difference whether it is there. -/
theorem exists_mem_congr (gives : Option Token → Prop) (gives_none : ¬gives none)
    (same : SameTokens left right) :
    (∃ token ∈ left, gives (Token.parse? (some token))) ↔
      ∃ token ∈ right, gives (Token.parse? (some token)) := by
  have nonempty {token : String} (given : gives (Token.parse? (some token))) : token ≠ "" := by
    rintro rfl
    exact gives_none (Token.parse?_empty ▸ given)
  constructor
  · rintro ⟨token, member, given⟩
    exact ⟨token, (same token (nonempty given)).mp member, given⟩
  · rintro ⟨token, member, given⟩
    exact ⟨token, (same token (nonempty given)).mpr member, given⟩

theorem mem_labels_congr (same : SameTokens left right) (operator : Operator) (label : String) :
    label ∈ labels left operator ↔ label ∈ labels right operator := by
  rw [mem_labels_iff, mem_labels_iff,
    exists_mem_congr (· = some ⟨operator, label⟩) (by simp) same]

theorem restricts_congr (same : SameTokens left right) : restricts left = restricts right := by
  rw [Bool.eq_iff_iff, restricts_iff, restricts_iff,
    exists_mem_congr (fun parsed => parsed.any (·.operator.restricts) = true) (by simp) same]

end Raw

theorem Patterns.eq_of_labels {left right : Patterns} (same : left.labels = right.labels) :
    left = right := by
  cases left
  cases right
  cases same
  rfl

theorem Group.eq_of_get {left right : Group}
    (patterns : ∀ operator, left.patterns.get operator = right.patterns.get operator)
    (limit : left.endNodesOnly = right.endNodesOnly) : left = right := by
  have same := ByOperator.eq_of_get patterns
  cases left
  cases right
  cases same
  cases limit
  rfl

theorem Group.patterns_ofMatchers (matchers : ByOperator Matcher) (endNodesOnly : Bool)
    (operator : Operator) :
    (Group.ofMatchers matchers endNodesOnly).patterns.get operator =
      (matchers.get operator).patterns :=
  ByOperator.get_map ..

namespace Builder

theorem eq_of_get {left right : Builder}
    (patterns : ∀ operator, left.patterns.get operator = right.patterns.get operator)
    (limit : left.endNodesOnly = right.endNodesOnly) : left = right := by
  have same := ByOperator.eq_of_get patterns
  cases left
  cases right
  cases same
  cases limit
  rfl

/-- Builders with the same patterns and the same limit are equal. -/
theorem eq_of_mem_iff {left right : Builder}
    (patterns : ∀ operator label, label ∈ (left.patterns.get operator).labels ↔
      label ∈ (right.patterns.get operator).labels)
    (limit : left.endNodesOnly = right.endNodesOnly) : left = right :=
  eq_of_get (fun operator => Patterns.eq_of_labels (LabelSet.eq_of_mem_iff (patterns operator)))
    limit

/-- Neither the order in which tokens reach a builder nor their number makes a difference. -/
theorem addTokens_congr (builder : Builder) {left right : List String}
    (same : SameTokens left right) : builder.addTokens left = builder.addTokens right := by
  refine eq_of_mem_iff (fun operator label => ?_) ?_
  · rw [mem_addTokens, mem_addTokens, Raw.mem_labels_congr same]
  · rw [endNodesOnly_addTokens, endNodesOnly_addTokens, Raw.restricts_congr same]

end Builder

end WalkFilter
