import WalkFilter.CommandLine.Reading
import WalkFilter.Proofs.Except

/-!
# What a reading holds

The pieces of a command line are the uses of the switches in its clusters. Every use has a value
exactly if its switch takes one, and a switch is used exactly if some cluster names it.
-/

namespace WalkFilter.CommandLine

/-- A use of a switch has a value exactly if the switch takes one. -/
def Item.Supplied : Item → Prop
  | .use switch value => value.isSome = switch.takesValue
  | .extra _ => True

/-- The switch is used. -/
def given (switch : Switch) (items : List Item) : Bool :=
  items.any fun
    | .use other _ => other = switch
    | .extra _ => false

theorem given_iff {switch : Switch} {items : List Item} :
    given switch items = true ↔ ∃ value, .use switch value ∈ items := by
  rw [given, List.any_eq_true]
  constructor
  · rintro ⟨item, member, same⟩
    cases item with
    | use other value =>
        obtain rfl : other = switch := by simpa using same
        exact ⟨value, member⟩
    | extra argument => simp at same
  · rintro ⟨value, member⟩
    exact ⟨_, member, by simp⟩

@[simp]
theorem given_append (switch : Switch) (left right : List Item) :
    given switch (left ++ right) = (given switch left || given switch right) :=
  List.any_append

namespace Cluster

/-- All switches of a cluster in order. -/
def switches (cluster : Cluster) : List Switch := cluster.flags ++ [cluster.last]

@[simp]
theorem switches_addFlag (flag : Switch) (cluster : Cluster) :
    (cluster.addFlag flag).switches = flag :: cluster.switches := rfl

theorem given_items (cluster : Cluster) (value : Option String) (switch : Switch) :
    given switch (cluster.items value) = true ↔ switch ∈ cluster.switches := by
  simp only [given_iff, items, switches, List.mem_append, List.mem_map, List.mem_singleton,
    Item.use.injEq]
  constructor
  · rintro ⟨other, ⟨flag, member, rfl, -⟩ | ⟨rfl, -⟩⟩
    · exact .inl member
    · exact .inr rfl
  · rintro (member | rfl)
    · exact ⟨none, .inl ⟨switch, member, rfl, rfl⟩⟩
    · exact ⟨value, .inr ⟨rfl, rfl⟩⟩

/-- In front of the last switch there are flags only, and a flag at the end has no value. -/
structure Proper (cluster : Cluster) : Prop where
  /-- The switches in front are flags. -/
  flags : ∀ flag ∈ cluster.flags, flag.takesValue = false
  /-- A value belongs to a switch that takes one. -/
  value : cluster.last.takesValue = false → cluster.value = none

theorem Proper.addFlag {cluster : Cluster} (proper : cluster.Proper) {flag : Switch}
    (isFlag : flag.takesValue = false) : (cluster.addFlag flag).Proper where
  flags other member := by
    rcases List.mem_cons.mp member with rfl | member
    · exact isFlag
    · exact proper.flags other member
  value := proper.value

theorem Proper.supplied {cluster : Cluster} (proper : cluster.Proper) {value : Option String}
    (fits : value.isSome = cluster.last.takesValue) :
    ∀ item ∈ cluster.items value, item.Supplied := by
  intro item member
  rcases List.mem_append.mp member with front | back
  · obtain ⟨flag, flag_mem, rfl⟩ := List.mem_map.mp front
    exact (proper.flags flag flag_mem).symm
  · obtain rfl := List.mem_singleton.mp back
    exact fits

/-- The letters behind a switch spell a cluster: they are its value, or each names a further switch
behind a flag. -/
inductive Spells (known : List Switch) : Switch → List Char → Cluster → Prop where
  | value {switch : Switch} {letters : List Char} (takes : switch.takesValue = true) :
    Spells known switch letters ⟨[], switch, some (String.ofList letters)⟩
  | flag {switch next : Switch} {letter : Char} (isFlag : switch.takesValue = false)
    (found : known.find? (·.letter = letter) = some next) :
    Spells known switch [letter] ⟨[switch], next, none⟩
  | flags {switch next : Switch} {letter : Char} {rest : List Char} {tail : Cluster}
    (isFlag : switch.takesValue = false) (found : known.find? (·.letter = letter) = some next)
    (nonempty : rest ≠ []) (behind : Spells known next rest tail) :
    Spells known switch (letter :: rest) (tail.addFlag switch)

theorem spells_of_ofLetters {known : List Switch} {switch : Switch} {letters : List Char}
    {cluster : Cluster} (read : ofLetters known switch letters = .ok cluster) :
    Spells known switch letters cluster := by
  induction letters generalizing switch cluster with
  | nil =>
      rw [ofLetters] at read
      split at read
      · rename_i takes
        obtain rfl := Except.ok.inj read
        exact .value takes
      · cases read
  | cons letter rest induction =>
      rw [ofLetters] at read
      split at read
      · rename_i takes
        obtain rfl := Except.ok.inj read
        exact .value takes
      · rename_i not_takes
        have isFlag : switch.takesValue = false := Bool.eq_false_iff.mpr not_takes
        split at read
        · cases read
        · rename_i next found
          split at read
          · rename_i last
            obtain rfl := List.isEmpty_iff.mp last
            obtain rfl := Except.ok.inj read
            exact .flag isFlag found
          · rename_i nonempty
            obtain ⟨tail, tail_read, rfl⟩ := map_eq_ok_iff.mp read
            exact .flags isFlag found (mt List.isEmpty_iff.mpr nonempty) (induction tail_read)

namespace Spells

variable {known : List Switch} {switch : Switch} {letters : List Char} {cluster : Cluster}

theorem proper (spells : Spells known switch letters cluster) : cluster.Proper := by
  induction spells with
  | value takes => exact ⟨by simp, by simp [takes]⟩
  | flag isFlag found => exact ⟨by simpa using isFlag, fun _ => rfl⟩
  | flags isFlag found nonempty behind induction => exact induction.addFlag isFlag

theorem head_switches (spells : Spells known switch letters cluster) :
    cluster.switches.head? = some switch := by
  cases spells with
  | value | flag | flags => rfl

theorem mem_switches (spells : Spells known switch letters cluster) :
    ∀ other ∈ cluster.switches, other = switch ∨ other ∈ known := by
  induction spells with
  | value takes => simp [switches]
  | flag isFlag found => simp [switches, List.mem_of_find?_eq_some found]
  | flags isFlag found nonempty behind induction =>
      intro other member
      rcases List.mem_cons.mp member with rfl | member
      · exact .inl rfl
      · rcases induction other member with rfl | known_mem
        · exact .inr (List.mem_of_find?_eq_some found)
        · exact .inr known_mem

end Spells

/-- A word that names a switch spells a proper cluster with that switch in front. -/
theorem ofWord_spec {known : List Switch} {switch : Switch} {long : Bool}
    {attached : Option String} {cluster : Cluster}
    (read : ofWord known switch long attached = .ok cluster) :
    cluster.Proper ∧ cluster.switches.head? = some switch := by
  unfold ofWord at read
  split at read
  · obtain rfl := Except.ok.inj read
    exact ⟨⟨by simp, fun _ => rfl⟩, rfl⟩
  · split at read
    · split at read
      · rename_i takes
        obtain rfl := Except.ok.inj read
        exact ⟨⟨by simp, by simp [takes]⟩, rfl⟩
      · cases read
    · have spells := spells_of_ofLetters read
      exact ⟨spells.proper, spells.head_switches⟩

/-- A word names its own switch and switches that are known. -/
theorem mem_of_ofWord {known : List Switch} {switch : Switch} {long : Bool}
    {attached : Option String} {cluster : Cluster}
    (read : ofWord known switch long attached = .ok cluster) :
    ∀ other ∈ cluster.switches, other = switch ∨ other ∈ known := by
  unfold ofWord at read
  split at read
  · obtain rfl := Except.ok.inj read
    simp [switches]
  · split at read
    · split at read
      · obtain rfl := Except.ok.inj read
        simp [switches]
      · cases read
    · exact (spells_of_ofLetters read).mem_switches

/-- Where no switch takes a value, no cluster needs one. -/
theorem satisfied_of_flags {known : List Switch} {switch : Switch} {long : Bool}
    {attached : Option String} {cluster : Cluster}
    (known_flags : ∀ other ∈ known, other.takesValue = false) (isFlag : switch.takesValue = false)
    (read : ofWord known switch long attached = .ok cluster) : cluster.needsValue = false := by
  have last_mem : cluster.last ∈ cluster.switches := by simp [switches]
  have last_flag : cluster.last.takesValue = false := by
    rcases mem_of_ofWord read cluster.last last_mem with same | known_mem
    · rw [same, isFlag]
    · exact known_flags _ known_mem
  simp [needsValue, last_flag]

end Cluster

/-- The cluster that a word spells, if it names a switch and can be read. -/
def Word.cluster? (known : List Switch) : Word → Option Cluster
  | .switch first long attached => (Cluster.ofWord known first long attached).toOption
  | _ => none

/-- The clusters of some words in order. -/
def clusters (known : List Switch) (words : List Word) : List Cluster :=
  words.filterMap (·.cluster? known)

theorem mem_clusters {known : List Switch} {words : List Word} {cluster : Cluster} :
    cluster ∈ clusters known words ↔ ∃ switch long attached,
      .switch switch long attached ∈ words ∧
        Cluster.ofWord known switch long attached = .ok cluster := by
  rw [clusters, List.mem_filterMap]
  constructor
  · rintro ⟨word, member, spells⟩
    cases word with
    | switch first long attached =>
        refine ⟨first, long, attached, member, ?_⟩
        cases read : Cluster.ofWord known first long attached with
        | error error => simp [Word.cluster?, read, Except.toOption] at spells
        | ok other => simpa [Word.cluster?, read, Except.toOption] using spells
    | plain | endOfSwitches | unknown => cases spells
  · rintro ⟨first, long, attached, member, read⟩
    exact ⟨_, member, by simp [Word.cluster?, read, Except.toOption]⟩

/-- A cluster that begins with a switch is spelled by a word that names this switch. -/
theorem exists_word_of_begins {known : List Switch} {words : List Word} {cluster : Cluster}
    {switch : Switch} (member : cluster ∈ clusters known words)
    (begins : cluster.switches.head? = some switch) :
    ∃ long attached, .switch switch long attached ∈ words ∧
      Cluster.ofWord known switch long attached = .ok cluster := by
  obtain ⟨first, long, attached, word_mem, read⟩ := mem_clusters.mp member
  rw [(Cluster.ofWord_spec read).2] at begins
  obtain rfl := Option.some.inj begins
  exact ⟨long, attached, word_mem, read⟩

namespace Reading

@[simp]
theorem items_addItems (items : List Item) (reading : Reading) :
    (reading.addItems items).items = items ++ reading.items := rfl

private theorem supplied_addItems {items : List Item} {reading : Reading}
    (front : ∀ item ∈ items, item.Supplied) (back : ∀ item ∈ reading.items, item.Supplied) :
    ∀ item ∈ (reading.addItems items).items, item.Supplied := by
  intro item member
  rcases List.mem_append.mp member with member | member
  · exact front item member
  · exact back item member

private theorem supplied_extra (argument : String) :
    ∀ item ∈ [Item.extra argument], item.Supplied := by
  intro item member
  obtain rfl := List.mem_singleton.mp member
  trivial

/-- Every use of a reading has a value exactly if its switch takes one. -/
theorem supplied_ofWords (known : List Switch) (words : List Word) :
    ∀ item ∈ (ofWords known words).items, item.Supplied := by
  fun_induction ofWords known words with
  | case1 => simp
  | case2 text rest induction => exact supplied_addItems (supplied_extra text) induction
  | case3 text rest induction => exact supplied_addItems (supplied_extra text) induction
  | case4 rest induction => exact supplied_addItems (supplied_extra "--") induction
  | case5 => simp
  | case6 switch long attached cluster read needs value rest induction =>
      have takes : cluster.last.takesValue = true := (Bool.and_eq_true_iff.mp needs).1
      exact supplied_addItems ((Cluster.ofWord_spec read).1.supplied (by simp [takes])) induction
  | case7 => simp
  | case8 switch long attached rest cluster read satisfied induction =>
      refine supplied_addItems ((Cluster.ofWord_spec read).1.supplied ?_) induction
      have proper := (Cluster.ofWord_spec read).1.value
      cases takes : cluster.last.takesValue with
      | false => simp [proper takes]
      | true => simpa [Cluster.needsValue, takes, Option.isSome_iff_ne_none] using satisfied

/-- In a complete reading a switch is used exactly if a cluster names it. -/
theorem given_ofWords {known : List Switch} {words : List Word}
    (complete : (ofWords known words).error = none) (switch : Switch) :
    given switch (ofWords known words).items = true ↔
      ∃ cluster ∈ clusters known words, switch ∈ cluster.switches := by
  fun_induction ofWords known words with
  | case1 => simp [given, clusters]
  | case2 text rest induction => simpa [given, clusters, Word.cluster?] using induction complete
  | case3 text rest induction => simpa [given, clusters, Word.cluster?] using induction complete
  | case4 rest induction => simpa [given, clusters, Word.cluster?] using induction complete
  | case5 => simp at complete
  | case6 chosen long attached cluster read needs value rest induction =>
      rw [items_addItems, given_append, Bool.or_eq_true, Cluster.given_items, induction complete]
      simp [clusters, Word.cluster?, read, Except.toOption]
  | case7 => simp at complete
  | case8 chosen long attached rest cluster read satisfied induction =>
      rw [items_addItems, given_append, Bool.or_eq_true, Cluster.given_items, induction complete]
      simp [clusters, Word.cluster?, read, Except.toOption]

/-- In a complete reading every word that names a switch spells a cluster. -/
theorem exists_cluster_of_complete {known : List Switch} {words : List Word}
    (complete : (ofWords known words).error = none) {switch : Switch} {long : Bool}
    {attached : Option String} (member : .switch switch long attached ∈ words) :
    ∃ cluster, Cluster.ofWord known switch long attached = .ok cluster := by
  fun_induction ofWords known words with
  | case1 => simp at member
  | case2 text rest induction => exact induction complete (by simpa using member)
  | case3 text rest induction => exact induction complete (by simpa using member)
  | case4 rest induction => exact induction complete (by simpa using member)
  | case5 => simp at complete
  | case6 chosen chosen_long chosen_attached cluster read needs value rest induction =>
      rcases List.mem_cons.mp member with same | behind
      · obtain ⟨rfl, rfl, rfl⟩ := Word.switch.inj same
        exact ⟨cluster, read⟩
      · exact induction complete (by simpa using behind)
  | case7 => simp at complete
  | case8 chosen chosen_long chosen_attached rest cluster read satisfied induction =>
      rcases List.mem_cons.mp member with same | behind
      · obtain ⟨rfl, rfl, rfl⟩ := Word.switch.inj same
        exact ⟨cluster, read⟩
      · exact induction complete behind

/-- Where no switch takes a value, a reading is complete if every word that names a switch spells
a cluster. -/
theorem error_ofWords_of_flags {known : List Switch} {words : List Word}
    (known_flags : ∀ switch ∈ known, switch.takesValue = false)
    (spelled : ∀ switch long attached, .switch switch long attached ∈ words →
      switch.takesValue = false ∧
        ∃ cluster, Cluster.ofWord known switch long attached = .ok cluster) :
    (ofWords known words).error = none := by
  induction words with
  | nil => rfl
  | cons word rest induction =>
      have rest_complete := induction fun switch long attached member =>
        spelled switch long attached (.tail _ member)
      cases word with
      | plain | unknown | endOfSwitches => exact rest_complete
      | switch first long attached =>
          obtain ⟨isFlag, cluster, read⟩ := spelled first long attached List.mem_cons_self
          have satisfied : ¬cluster.needsValue = true := by
            simp [Cluster.satisfied_of_flags known_flags isFlag read]
          rw [ofWords, read]
          simp only [if_neg satisfied]
          exact rest_complete

end Reading

end WalkFilter.CommandLine
