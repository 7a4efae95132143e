import DocStore.Proofs.StrictMode

/-!
# Entries that are passed over

A filter may hold entries that say nothing a compilation can use: an unknown operator, a
combinator or a membership without its operand, an element of a combinator that is no
filter.  `Filter.Ignores` tells where such an entry may stand, however deep.  The lenient
compilation reports the entries of the first two kinds, one after another, and goes on.

The strict compilation refuses unknown operators only.  It therefore guards a filter
exactly if the filter has an unknown operator, or no entry of another kind either.
-/

namespace DocStore

inductive IgnoredEntry where
  /-- An entry that is reported. -/
  | note (note : FilterNote)
  /-- An element of a combinator that is no filter; a missing filter is one. -/
  | element (element : Value)

namespace Filter

/-- What stands below a field has an entry that is reported as ignored. -/
inductive IgnoresBelow (path : String) : Value → FilterNote → Prop where
  | unknown {operators : List (Key × Value)} {key : Key} {operand : Value}
      (isEntry : (key, operand) ∈ operators)
      (noOperator : FieldOperator.ofKey? key.shown = none) :
      IgnoresBelow path (.object operators) (.unsupported (canonicalKey key.shown))
  | membership {operators : List (Key × Value)} {key : Key} {operand : Value}
      (isEntry : (key, operand) ∈ operators)
      (isMembership : FieldOperator.ofKey? key.shown = some .oneOf ∨
        FieldOperator.ofKey? key.shown = some .noneOf)
      (noSequence : operand.sequence? = none) :
      IgnoresBelow path (.object operators) (.notSequence (canonicalKey key.shown) path)
  | negation {operators : List (Key × Value)} {key : Key} {operand : Value} {note : FilterNote}
      (isEntry : (key, operand) ∈ operators)
      (isNegation : FieldOperator.ofKey? key.shown = some .not) :
      IgnoresBelow path operand note → IgnoresBelow path (.object operators) note

/-- A filter has an entry that is ignored, in itself or in a sub-filter. -/
inductive Ignores : Value → IgnoredEntry → Prop where
  | unknown {entries : List (Key × Value)} {key : Key} {value : Value}
      (isEntry : (key, value) ∈ entries)
      (noCombinator : combinator? key.shown value = none)
      (dollar : hasDollar key.shown = true) :
      Ignores (.object entries) (.note (.unsupported key.shown))
  | field {entries : List (Key × Value)} {key : Key} {value : Value} {note : FilterNote}
      (isEntry : (key, value) ∈ entries)
      (noCombinator : combinator? key.shown value = none)
      (isField : hasDollar key.shown = false) :
      IgnoresBelow key.shown value note → Ignores (.object entries) (.note note)
  | negation {entries : List (Key × Value)} {key : Key} {value : Value} {ignored : IgnoredEntry}
      (isEntry : (key, value) ∈ entries)
      (isNegation : combinator? key.shown value = some .not) :
      Ignores value ignored → Ignores (.object entries) ignored
  | part {entries : List (Key × Value)} {key : Key} {items : List Value}
      {combinator : Combinator} {item : Value} {ignored : IgnoredEntry}
      (isEntry : (key, .list items) ∈ entries)
      (combines : combinator? key.shown (.list items) = some combinator)
      (isItem : item ∈ items) :
      Ignores item ignored → Ignores (.object entries) ignored
  | element {entries : List (Key × Value)} {key : Key} {items : List Value}
      {combinator : Combinator} {item : Value}
      (isEntry : (key, .list items) ∈ entries)
      (combines : combinator? key.shown (.list items) = some combinator)
      (isItem : item ∈ items) (noFilter : item.isObject = false)
      (present : item.isNull = false) :
      Ignores (.object entries) (.element item)

/-! ## Ignored entries as leaves -/

theorem takes_of_combinator? {key : String} {value : Value} {combinator : Combinator}
    (applied : combinator? key value = some combinator) : takes combinator value = true :=
  (Option.filter_eq_some_iff.mp applied).2

theorem IgnoresBelow.cons {path : String} {operators : List (Key × Value)} {note : FilterNote}
    (ignores : IgnoresBelow path (.object operators) note) (first : Key × Value) :
    IgnoresBelow path (.object (first :: operators)) note := by
  cases ignores with
  | unknown isEntry noOperator => exact .unknown (List.mem_cons_of_mem _ isEntry) noOperator
  | membership isEntry isMembership noSequence =>
      exact .membership (List.mem_cons_of_mem _ isEntry) isMembership noSequence
  | negation isEntry isNegation inner =>
      exact .negation (List.mem_cons_of_mem _ isEntry) isNegation inner

theorem Ignores.cons {entries : List (Key × Value)} {ignored : IgnoredEntry}
    (ignores : Ignores (.object entries) ignored) (first : Key × Value) :
    Ignores (.object (first :: entries)) ignored := by
  cases ignores with
  | unknown isEntry noCombinator dollar =>
      exact .unknown (List.mem_cons_of_mem _ isEntry) noCombinator dollar
  | field isEntry noCombinator isField below =>
      exact .field (List.mem_cons_of_mem _ isEntry) noCombinator isField below
  | negation isEntry isNegation inner =>
      exact .negation (List.mem_cons_of_mem _ isEntry) isNegation inner
  | part isEntry combines isItem inner =>
      exact .part (List.mem_cons_of_mem _ isEntry) combines isItem inner
  | element isEntry combines isItem noFilter present =>
      exact .element (List.mem_cons_of_mem _ isEntry) combines isItem noFilter present

theorem note_mem_listedLeaves {path operator : String} {negated : Bool} {operand : Value}
    {note : FilterNote} :
    .note note ∈ listedLeaves path operator negated operand ↔
      operand.sequence? = none ∧ note = .notSequence operator path := by
  unfold listedLeaves
  cases operand.sequence? with
  | none => simp
  | some operands =>
      cases operands with
      | nil => cases negated <;> simp
      | cons first rest => simp

variable {note : FilterNote}

mutual

theorem ignoresBelow_of_mem (path : String) :
    (value : Value) → .note note ∈ fieldLeaves path value → IgnoresBelow path value note
  | .object operators => fun found => ignoresBelow_of_mem_operators path operators found
  | .null => fun found => by simp [fieldLeaves] at found
  | .bool flag => fun found => by simp [fieldLeaves] at found
  | .int number => fun found => by simp [fieldLeaves] at found
  | .float number => fun found => by simp [fieldLeaves] at found
  | .decimal number => fun found => by simp [fieldLeaves] at found
  | .bytes content => fun found => by simp [fieldLeaves] at found
  | .text content => fun found => by simp [fieldLeaves] at found
  | .list items => fun found => by simp [fieldLeaves] at found

theorem ignoresBelow_of_mem_operators (path : String) :
    (operators : List (Key × Value)) → .note note ∈ operatorLeaves path operators →
      IgnoresBelow path (.object operators) note
  | [] => fun found => by cases found
  | (key, operand) :: operators => fun found => by
      have later := ignoresBelow_of_mem_operators path operators
      have inner := ignoresBelow_of_mem path operand
      rw [operatorLeaves, List.mem_append] at found
      rcases found with first | rest
      · cases named : FieldOperator.ofKey? key.shown with
        | none =>
            rw [named] at first
            obtain rfl : note = .unsupported (canonicalKey key.shown) := by simpa using first
            exact .unknown List.mem_cons_self named
        | some operator =>
            rw [named] at first
            cases operator with
            | oneOf =>
                obtain ⟨noSequence, rfl⟩ := note_mem_listedLeaves.mp first
                exact .membership List.mem_cons_self (.inl named) noSequence
            | noneOf =>
                obtain ⟨noSequence, rfl⟩ := note_mem_listedLeaves.mp first
                exact .membership List.mem_cons_self (.inr named) noSequence
            | not => exact .negation List.mem_cons_self named (inner first)
            | equal => simp at first
            | unequal => simp at first
            | ordered comparison => simp at first
      · exact (later rest).cons _

end

theorem operatorLeaves_eq_flatMap (path : String) (operators : List (Key × Value)) :
    operatorLeaves path operators =
      operators.flatMap fun entry => operatorLeaves path [entry] := by
  induction operators with
  | nil => rfl
  | cons entry operators ih => simp [operatorLeaves, ih]

theorem entryLeaves_eq_flatMap (entries : List (Key × Value)) :
    entryLeaves entries = entries.flatMap fun entry => entryLeaves [entry] := by
  induction entries with
  | nil => rfl
  | cons entry entries ih => simp [entryLeaves, ih]

theorem itemLeaves_eq_flatMap (items : List Value) : itemLeaves items = items.flatMap leaves := by
  induction items with
  | nil => rfl
  | cons item items ih => simp [itemLeaves, ih]

theorem mem_of_ignoresBelow {path : String} {value : Value}
    (ignores : IgnoresBelow path value note) : .note note ∈ fieldLeaves path value := by
  induction ignores with
  | unknown isEntry noOperator =>
      rw [fieldLeaves, operatorLeaves_eq_flatMap]
      exact List.mem_flatMap.mpr ⟨_, isEntry, by simp [operatorLeaves, noOperator]⟩
  | membership isEntry isMembership noSequence =>
      rw [fieldLeaves, operatorLeaves_eq_flatMap]
      refine List.mem_flatMap.mpr ⟨_, isEntry, ?_⟩
      rcases isMembership with named | named <;>
        simp [operatorLeaves, named, note_mem_listedLeaves, noSequence]
  | negation isEntry isNegation _ ih =>
      rw [fieldLeaves, operatorLeaves_eq_flatMap]
      exact List.mem_flatMap.mpr ⟨_, isEntry, by simp [operatorLeaves, isNegation, ih]⟩

theorem note_mem_namedLeaves {key : String} {value : Value} :
    .note note ∈ namedLeaves key value ↔
      hasDollar key = true ∧ note = .unsupported key ∨
        hasDollar key = false ∧ .note note ∈ fieldLeaves key value := by
  unfold namedLeaves
  cases hasDollar key <;> simp

mutual

theorem ignores_of_mem :
    (filter : Value) → .note note ∈ leaves filter → Ignores filter (.note note)
  | .object entries => fun found => ignores_of_mem_entries entries found
  | .null => fun found => by cases found
  | .bool flag => fun found => by cases found
  | .int number => fun found => by cases found
  | .float number => fun found => by cases found
  | .decimal number => fun found => by cases found
  | .bytes content => fun found => by cases found
  | .text content => fun found => by cases found
  | .list items => fun found => by cases found

theorem ignores_of_mem_entries :
    (entries : List (Key × Value)) → .note note ∈ entryLeaves entries →
      Ignores (.object entries) (.note note)
  | [] => fun found => by cases found
  | (key, value) :: entries => fun found => by
      have later := ignores_of_mem_entries entries
      have inner := ignores_of_mem value
      have parts := ignores_of_mem_parts value
      rw [entryLeaves, List.mem_append] at found
      rcases found with first | rest
      · cases applied : combinator? key.shown value with
        | none =>
            rw [applied] at first
            rcases note_mem_namedLeaves.mp first with ⟨dollar, rfl⟩ | ⟨isField, below⟩
            · exact .unknown List.mem_cons_self applied dollar
            · exact .field List.mem_cons_self applied isField (ignoresBelow_of_mem _ _ below)
        | some combinator =>
            rw [applied] at first
            cases combinator with
            | not => exact .negation List.mem_cons_self applied (inner first)
            | and =>
                obtain ⟨items, item, rfl, isItem, ignores⟩ := parts first
                exact .part List.mem_cons_self applied isItem ignores
            | or =>
                obtain ⟨items, item, rfl, isItem, ignores⟩ := parts first
                exact .part List.mem_cons_self applied isItem ignores
      · exact (later rest).cons _

theorem ignores_of_mem_parts :
    (value : Value) → .note note ∈ partLeaves value →
      ∃ items item, value = .list items ∧ item ∈ items ∧ Ignores item (.note note)
  | .list items => fun found => by
      obtain ⟨item, isItem, ignores⟩ := ignores_of_mem_items items found
      exact ⟨items, item, rfl, isItem, ignores⟩
  | .null => fun found => by cases found
  | .bool flag => fun found => by cases found
  | .int number => fun found => by cases found
  | .float number => fun found => by cases found
  | .decimal number => fun found => by cases found
  | .bytes content => fun found => by cases found
  | .text content => fun found => by cases found
  | .object members => fun found => by cases found

theorem ignores_of_mem_items :
    (items : List Value) → .note note ∈ itemLeaves items →
      ∃ item ∈ items, Ignores item (.note note)
  | [] => fun found => by cases found
  | item :: items => fun found => by
      have later := ignores_of_mem_items items
      have inner := ignores_of_mem item
      rw [itemLeaves, List.mem_append] at found
      rcases found with first | rest
      · exact ⟨item, List.mem_cons_self, inner first⟩
      · obtain ⟨other, isItem, ignores⟩ := later rest
        exact ⟨other, List.mem_cons_of_mem _ isItem, ignores⟩

end

theorem mem_of_ignores {filter : Value} {ignored : IgnoredEntry}
    (ignores : Ignores filter ignored) (reported : ignored = .note note) :
    .note note ∈ leaves filter := by
  induction ignores with
  | unknown isEntry noCombinator dollar =>
      cases reported
      rw [leaves, entryLeaves_eq_flatMap]
      refine List.mem_flatMap.mpr ⟨_, isEntry, ?_⟩
      simp [entryLeaves, noCombinator, note_mem_namedLeaves, dollar]
  | field isEntry noCombinator isField below =>
      cases reported
      rw [leaves, entryLeaves_eq_flatMap]
      refine List.mem_flatMap.mpr ⟨_, isEntry, ?_⟩
      simp [entryLeaves, noCombinator, note_mem_namedLeaves, isField, mem_of_ignoresBelow below]
  | negation isEntry isNegation _ ih =>
      rw [leaves, entryLeaves_eq_flatMap]
      exact List.mem_flatMap.mpr ⟨_, isEntry, by simp [entryLeaves, isNegation, ih reported]⟩
  | @part entries key items combinator item ignored isEntry combines isItem _ ih =>
      have isPart : .note note ∈ partLeaves (.list items) := by
        rw [partLeaves, itemLeaves_eq_flatMap]
        exact List.mem_flatMap.mpr ⟨item, isItem, ih reported⟩
      rw [leaves, entryLeaves_eq_flatMap]
      refine List.mem_flatMap.mpr ⟨_, isEntry, ?_⟩
      cases combinator with
      | not => cases (takes_of_combinator? combines)
      | and => simp [entryLeaves, combines, isPart]
      | or => simp [entryLeaves, combines, isPart]
  | element => cases reported

/-- The traversal of a filter reports exactly its ignored entries. -/
theorem note_mem_leaves_iff {filter : Value} :
    .note note ∈ leaves filter ↔ Ignores filter (.note note) :=
  ⟨ignores_of_mem filter, fun ignores => mem_of_ignores ignores rfl⟩

/-! ## What is reported and what is refused -/

theorem mem_unknownOperators_iff {filter : Value} {operator : String} :
    operator ∈ unknownOperators filter ↔ Ignores filter (.note (.unsupported operator)) := by
  rw [← note_mem_leaves_iff, unknownOperators, List.mem_filterMap]
  constructor
  · rintro ⟨leaf, isLeaf, unknown⟩
    cases leaf with
    | test fieldTest => cases unknown
    | note note =>
        cases note with
        | notSequence operator path => cases unknown
        | unsupported operator =>
            cases unknown
            exact isLeaf
  · exact fun isLeaf => ⟨_, isLeaf, rfl⟩

/-- A lenient compilation reports every note that it comes upon. -/
theorem log_follow_eq_nil_iff {events : List FilterEvent} (writable : Writable events) :
    (follow false events).log = [] ↔ ∀ note, .note note ∉ events := by
  induction events with
  | nil => simp [follow]
  | cons event events ih =>
      have rest := ih fun fault member => writable fault (List.mem_cons_of_mem _ member)
      cases event with
      | bind value => simpa [follow] using rest
      | note note =>
          simp only [follow, List.cons_ne_nil, false_iff, not_forall, not_not]
          exact ⟨note, List.mem_cons_self⟩
      | unwritable fault => exact absurd List.mem_cons_self (writable fault)

theorem note_mem_events_iff {found : List FilterLeaf} :
    .note note ∈ found.flatMap FilterLeaf.events ↔ .note note ∈ found := by
  rw [List.mem_flatMap]
  constructor
  · rintro ⟨leaf, isLeaf, isEvent⟩
    cases leaf with
    | note filterNote =>
        cases List.mem_singleton.mp isEvent
        exact isLeaf
    | test fieldTest =>
        cases fieldTest with
        | sameJson path operand =>
            cases written : Json.encode operand <;>
              simp [FilterLeaf.events, FieldTest.events, written] at isEvent
        | _ => simp [FilterLeaf.events, FieldTest.events] at isEvent
  · exact fun isLeaf => ⟨_, isLeaf, List.mem_singleton_self _⟩

section Guard

variable (dialect : Dialect) (filter : Value) (entries : List LogEntry)

/-- The strict compilation ends with an unsupported operator. -/
def IsRefused : Prop :=
  ∃ operator, ((compile dialect true filter).after entries).1 =
    .error (.store (.unsupported operator "filter"))

variable {filter}

theorem isRefused_iff (writable : Json.obstacle? filter = none) :
    IsRefused dialect filter entries ↔
      ∃ operator, Ignores filter (.note (.unsupported operator)) := by
  unfold IsRefused
  simp only [after_compile_strict writable, ← mem_unknownOperators_iff]
  cases unknownOperators filter <;> simp

/-- A strict compilation that is not refused is the lenient one. -/
theorem returns_of_not_isRefused (writable : Json.obstacle? filter = none)
    (accepted : ¬IsRefused dialect filter entries) {text : Option Sql.Fragment}
    {log : List LogEntry} :
    (compile dialect true filter).Returns entries text log ↔
      (compile dialect false filter).Returns entries text log := by
  rcases compile_refusesOrAgrees dialect filter entries with ⟨operator, kind, refused⟩ | same
  · rw [after_compile_strict writable] at refused
    cases unknown : unknownOperators filter with
    | nil => simp [unknown] at refused
    | cons first others =>
        refine absurd ((isRefused_iff dialect entries writable).mpr ⟨first, ?_⟩) accepted
        exact mem_unknownOperators_iff.mp (by simp [unknown])
  · rw [Logged.Returns, Logged.Returns, same]

/-- A lenient compilation adds nothing to the log exactly if there is nothing to report. -/
theorem returns_silently_iff (writable : Json.obstacle? filter = none) :
    (∃ text, (compile dialect false filter).Returns entries text entries) ↔
      ∀ note, ¬Ignores filter (.note note) := by
  have events := writable_condition filter writable
  have followed := trail_eq_follow_leaves false filter
  rw [Condition.events_eq_flatMap_leaves, leaves_condition] at events
  simp only [compile_returns_iff, followed, failure_follow_lenient events, List.append_right_eq_self,
    true_and, exists_and_right, exists_eq', log_follow_eq_nil_iff events, note_mem_events_iff,
    note_mem_leaves_iff]

/-- Without an unknown operator the strict compilation returns what the lenient one does. -/
theorem returns_strict_iff (writable : Json.obstacle? filter = none) :
    (∃ text log, (compile dialect true filter).Returns entries text log) ↔
      ¬IsRefused dialect filter entries := by
  constructor
  · rintro ⟨text, log, returned⟩ ⟨operator, refused⟩
    rw [Logged.Returns] at returned
    rw [returned] at refused
    cases refused
  · intro accepted
    obtain ⟨text, log, returned⟩ := compile_returns_of_writable writable dialect entries
    exact ⟨text, log, (returns_of_not_isRefused dialect entries writable accepted).mpr returned⟩

end Guard

/-- The strict compilation of a filter that can be written as JSON is refused exactly if the
filter has an unknown operator, at any depth, and returns otherwise.  So it returns only
where nothing is reported, exactly if there is an unknown operator or no membership without
a sequence; and it is refused wherever an entry is ignored, exactly if there is an unknown
operator or no ignored entry at all. -/
theorem strict_guards_iff {filter : Value} (writable : Json.obstacle? filter = none)
    (dialect : Dialect) (entries : List LogEntry) :
    ((∃ text log, (compile dialect true filter).Returns entries text log) ↔
      ¬IsRefused dialect filter entries) ∧
    (IsRefused dialect filter entries ↔
      ∃ operator, Ignores filter (.note (.unsupported operator))) ∧
    (((∃ text log, (compile dialect true filter).Returns entries text log) →
        ∃ text, (compile dialect false filter).Returns entries text entries) ↔
      (∃ operator, Ignores filter (.note (.unsupported operator))) ∨
        ∀ operator path, ¬Ignores filter (.note (.notSequence operator path))) ∧
    ((∀ ignored, Ignores filter ignored → IsRefused dialect filter entries) ↔
      (∃ operator, Ignores filter (.note (.unsupported operator))) ∨
        ∀ ignored, ¬Ignores filter ignored) := by
  have returns := returns_strict_iff dialect entries writable
  have refused := isRefused_iff dialect entries writable
  refine ⟨returns, refused, ?_, ?_⟩
  · rw [returns, returns_silently_iff dialect entries writable, refused]
    by_cases unknown : ∃ operator, Ignores filter (.note (.unsupported operator))
    · simp only [unknown, not_true_eq_false, false_implies, true_or]
    · simp only [unknown, not_false_eq_true, true_implies, false_or]
      constructor
      · exact fun silent operator path => silent _
      · intro sequences note
        cases note with
        | unsupported operator => exact fun ignores => unknown ⟨operator, ignores⟩
        | notSequence operator path => exact sequences operator path
  · rw [refused]
    by_cases unknown : ∃ operator, Ignores filter (.note (.unsupported operator))
    · simp only [unknown, implies_true, true_or]
    · simp only [unknown, imp_false, false_or]

/-- An unknown operator below two combinators, beside a membership without a sequence. -/
theorem strict_guards_nested :
    let below : Value := .object [("not", .object [("in", .int 5), ("near", .text "here")])]
    let filter : Value := .object [("$or", .list [.object [("not", .object [("a", below)])]])]
    Json.obstacle? filter = none ∧ IsRefused .mysql filter [] ∧
      Ignores filter (.note (.notSequence "$in" "a")) := by
  intro below filter
  have writable : Json.obstacle? filter = none := by decide +kernel
  have listed : IgnoresBelow "a" below (.notSequence "$in" "a") :=
    .negation List.mem_cons_self rfl (.membership List.mem_cons_self (.inl rfl) rfl)
  have unknown : IgnoresBelow "a" below (.unsupported "$near") :=
    .negation List.mem_cons_self rfl
      (.unknown (List.mem_cons_of_mem _ List.mem_cons_self) rfl)
  have inFilter {note : FilterNote} (ignores : IgnoresBelow "a" below note) :
      Ignores filter (.note note) :=
    .part List.mem_cons_self rfl List.mem_cons_self
      (.negation List.mem_cons_self rfl (.field List.mem_cons_self rfl rfl ignores))
  exact ⟨writable, (strict_guards_iff writable .mysql []).2.1.mpr ⟨_, inFilter unknown⟩,
    inFilter listed⟩

/-- A membership without a sequence is reported and left out in strict mode too, and a
number in the place of a sub-filter is not even reported. -/
theorem strict_passes_over :
    let listed : Value := .object [("a", .object [("$in", .int 5)])]
    let combined : Value := .object [("$and", .list [.int 5])]
    let report : LogEntry :=
      { level := .debug, component := .filter
        text := "Ignoring $in on 'a': operand is not a sequence" }
    (Ignores listed (.note (.notSequence "$in" "a")) ∧
      (compile .postgres true listed).Returns [] none [report] ∧
      (compile .postgres false listed).Returns [] none [report]) ∧
    Ignores combined (.element (.int 5)) ∧
      (compile .postgres true combined).Returns [] none [] := by
  intro listed combined report
  exact ⟨⟨.field List.mem_cons_self rfl rfl (.membership List.mem_cons_self (.inl rfl) rfl),
    rfl, rfl⟩, .element List.mem_cons_self rfl List.mem_cons_self rfl rfl, rfl⟩

end Filter

end DocStore
