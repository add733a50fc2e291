import WalkFilter.Proofs.Filter.RawTokens
import WalkFilter.Proofs.Json.RoundTrip
import WalkFilter.Proofs.Node.ReadBack
import WalkFilter.Report.JsonLines

/-!
# Descriptions of groups

A group is described by four lists of patterns and its flag. The JSON line on a filter is read as
this description, and matchers made from the lists make the group again, so two groups with the same
line are equal.
-/

namespace WalkFilter

/-! ## Patterns and their lists -/

/-- A matcher made from the list of some patterns has these patterns. -/
theorem Matcher.patterns_ofList (patterns : Patterns) :
    (Matcher.ofList (patterns.toList.map some)).patterns = patterns := by
  refine Patterns.eq_of_labels (LabelSet.eq_of_mem_iff fun label => ?_)
  have listed : label ∈ patterns.toList ↔ label ∈ patterns.labels := Iff.rfl
  rw [ofList, Patterns.mem_foldl_add, List.mem_map_of_injective (Option.some_injective String),
    listed]
  constructor
  · rintro (member | ⟨-, member⟩)
    · exact absurd member (LabelSet.not_mem_empty label)
    · exact member
  · intro member
    refine .inr ⟨?_, member⟩
    rintro rfl
    exact patterns.empty_not_mem member

namespace Report

/-! ## Descriptions and their lines -/

/-- What the line on a filter tells. -/
structure Description where
  /-- The patterns of each operator as they are listed. -/
  lists : ByOperator (List String)
  /-- Only end nodes and terminators are results. -/
  endNodesOnly : Bool
deriving DecidableEq, Repr

/-- The texts that are listed under a key. -/
def texts? (key : String) (members : List (CodeText × Json.Value)) : Option (List CodeText) :=
  match Json.member? key members with
  | some (.array elements) => elements.mapM Json.Value.text?
  | _ => none

/-- The texts that are listed under a key, if they are all strings. -/
def strings? (key : String) (members : List (CodeText × Json.Value)) : Option (List String) :=
  (texts? key members).bind (·.mapM CodeText.string?)

/-- The truth value under a key. -/
def flag? (key : String) (members : List (CodeText × Json.Value)) : Option Bool :=
  match Json.member? key members with
  | some (.bool value) => some value
  | _ => none

namespace Description

/-- The description that the members of an object give. -/
def ofMembers? (members : List (CodeText × Json.Value)) : Option Description := do
  let deny ← strings? "denylist" members
  let allow ← strings? "allowlist" members
  let endNode ← strings? "end_nodes" members
  let terminator ← strings? "terminators" members
  let endNodesOnly ← flag? "end_nodes_only" members
  return ⟨{ deny, allow, endNode, terminator }, endNodesOnly⟩

/-- The description that a JSON line gives. -/
def ofLine? (line : String) : Option Description :=
  match Json.parse line.toList with
  | .ok (.object members) => ofMembers? members
  | _ => none

/-- The description of a group. -/
def ofGroup (group : Group) : Description :=
  ⟨group.patterns.map Patterns.toList, group.endNodesOnly⟩

/-- Open matchers with the patterns that are listed. -/
def matchers (description : Description) : ByOperator Matcher :=
  description.lists.map fun labels => .ofList (labels.map some)

end Description

variable {group left right : Group}

theorem exact_filterValue (group : Group) : (filterValue group).Exact := by
  refine .object fun member inside => ?_
  simp only [groupMembers, List.mem_cons, List.not_mem_nil, or_false] at inside
  rcases inside with rfl | rfl | rfl | rfl | rfl | rfl
  · exact .string _
  · exact exact_labelsJson _
  · exact exact_labelsJson _
  · exact exact_labelsJson _
  · exact exact_labelsJson _
  · exact .bool _

theorem texts?_eq_some {key : String} {members : List (CodeText × Json.Value)}
    (labels : List CodeText) (found : Json.member? key members = some (labelsJson labels)) :
    texts? key members = some labels := by
  rw [texts?, found]
  exact Sample.mapM_text?_eq_some_iff.mpr rfl

theorem strings?_eq_some {key : String} {members : List (CodeText × Json.Value)}
    (patterns : Patterns) (found : Json.member? key members = some (patternsJson patterns)) :
    strings? key members = some patterns.toList := by
  rw [strings?, texts?_eq_some _ found]
  exact CodeText.mapM_string?_map patterns.toList

/-- The line on a filter is read as the description of the group. -/
theorem ofLine?_filterJson (group : Group) :
    Description.ofLine? (filterJson group) = some (.ofGroup group) := by
  have parsed := Json.parse_write_line (exact_filterValue group)
  rw [Description.ofLine?, filterJson, jsonLine, String.toList_ofList, parsed, filterValue]
  simp only [Description.ofMembers?]
  rw [strings?_eq_some group.patterns.deny rfl, strings?_eq_some group.patterns.allow rfl,
    strings?_eq_some group.patterns.endNode rfl, strings?_eq_some group.patterns.terminator rfl]
  rfl

/-- Matchers made from the description of a group make the group again. -/
theorem ofMatchers_ofGroup (group : Group) :
    Group.ofMatchers (Description.ofGroup group).matchers (Description.ofGroup group).endNodesOnly =
      group := by
  refine Group.eq_of_get (fun operator => ?_) rfl
  rw [Group.patterns_ofMatchers, Description.matchers, ByOperator.get_map, Description.ofGroup,
    ByOperator.get_map, Matcher.patterns_ofList]

theorem ofGroup_injective : Function.Injective Description.ofGroup := by
  intro left right same
  rw [← ofMatchers_ofGroup left, same, ofMatchers_ofGroup right]

/-- Groups are equal exactly if the lines on them are. -/
theorem filterJson_inj : filterJson left = filterJson right ↔ left = right := by
  constructor
  · intro same
    have read : some (Description.ofGroup left) = some (.ofGroup right) := by
      rw [← ofLine?_filterJson, same, ofLine?_filterJson]
    exact ofGroup_injective (Option.some.inj read)
  · rintro rfl
    rfl

/-- Groups are equal exactly if their members in the line are. -/
theorem groupMembers_inj : groupMembers left = groupMembers right ↔ left = right := by
  constructor
  · intro same
    have lines : filterJson left = filterJson right := by
      rw [filterJson, filterValue, same, ← filterValue, ← filterJson]
    exact filterJson_inj.mp lines
  · rintro rfl
    rfl

end Report

end WalkFilter
