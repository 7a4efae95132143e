import DocStore.Proofs.FilterMeaning
import DocStore.Proofs.NumberCasts

/-!
# Comparisons of one type

An operand of a type is compared with the projection of a field to this type, which is null
unless the stored value has it.  The places of the operands are told from the tokens of a
clause: a bound value stands after the field that it is compared with, or in a list of
candidates after it.  So a row whose value has another type compares neither as equal nor in
an order, and no text of it is cast.
-/

namespace DocStore

open Sql Fragment

/-! ## Suited operands -/

theorem FieldTest.suited_equality (path : String) (operand : Value) :
    (equality path operand).Suited := by
  cases operand <;> first | exact rfl | exact trivial

/-- The operands of all comparisons suit them. -/
theorem Filter.suited_comparisons (filter : Value) :
    ∀ test ∈ comparisons filter, test.Suited := by
  have inherits : FieldTest.Inherits (fun _ => True) FieldTest.Suited :=
    { member := fun _ _ => trivial
      item := fun _ _ _ => trivial
      equality := fun path operand _ => FieldTest.suited_equality path operand
      present := fun _ => trivial
      ordered := fun _ _ _ _ => trivial
      oneOf := fun _ _ _ common _ => Condition.jsonType?_of_commonType? common
      never := trivial }
  exact inherits.comparisons trivial

/-! ## Places of operands -/

/-- A field that is compared with an operand. -/
structure Comparand where
  path : String
  relation : Relation
  operand : Value

namespace Comparand

/-- The operand as it is bound: a list or an object that a field is to equal as its JSON
text. -/
def bound (comparand : Comparand) : Value :=
  if comparand.relation = .equal ∧ comparand.operand.isContainer = true then
    .text (String.ofList (Json.write comparand.operand))
  else comparand.operand.boundForm

def sides (dialect : Dialect) (comparand : Comparand) : Fragment × Fragment :=
  dialect.sides comparand.path comparand.relation comparand.operand

end Comparand

namespace FieldTest

/-- What a test compares, one for each value that it binds. -/
def comparands : FieldTest → List Comparand
  | equals path operand => [⟨path, .equal, operand⟩]
  | ordered path comparison operand => [⟨path, .ordered comparison, operand⟩]
  | sameJson path operand => [⟨path, .equal, operand⟩]
  | oneOf path _ operands => operands.map fun operand => ⟨path, .equal, operand⟩
  | absent _ => []
  | present _ => []
  | never => []

end FieldTest

namespace Sql

def Lexeme.bound? : Lexeme → Option Value
  | .bound value => some value
  | _ => none

theorem Piece.bounds_lexemes (dialect : Dialect) (piece : Piece) :
    (piece.lexemes dialect).filterMap Lexeme.bound? = piece.bound?.toList := by
  cases piece with
  | raw text =>
      refine List.filterMap_eq_nil_iff.mpr fun token member => ?_
      rw [Piece.lexemes_raw] at member
      cases cut : lex dialect (characters text.toList) with
      | none => simp [cut] at member
      | some tokens =>
          rw [cut, Option.getD_some] at member
          have plain : text.toList.all (fun _ => true) = true := by simp
          have passes := Lexer.passes_lex plain cut token member
          cases token <;> first | rfl | cases passes
  | literal content => rfl
  | identifier name => rfl
  | parameter value => rfl
  | document json => cases dialect <;> rfl

/-- The values bound among the tokens of a fragment are its values. -/
theorem Fragment.bounds_lexemes (dialect : Dialect) (fragment : Fragment) :
    (fragment.lexemes dialect).filterMap Lexeme.bound? = fragment.params := by
  induction fragment with
  | nil => rfl
  | cons piece fragment ih =>
      rw [lexemes_cons, List.filterMap_append, Piece.bounds_lexemes, ih, params_cons]

end Sql

namespace Comparand

/-- The beginning of a list of candidates, up to one that follows others. -/
def candidatesOpening (earlier : List Value) : List Lexeme :=
  .word "IN".toList :: .separator '('
    :: earlier.flatMap fun value => [.bound value, .separator ',']

/-- What stands between a field and a value that it is compared with. -/
inductive IsLink : Comparand → List Lexeme → Prop where
  | equal (path : String) (operand : Value) :
      IsLink ⟨path, .equal, operand⟩ [.sign "=".toList]
  | ordered (path : String) (comparison : Comparison) (operand : Value) :
      IsLink ⟨path, .ordered comparison, operand⟩ [.sign comparison.sign.toList]
  | candidate (path : String) {operand : Value} (scalar : operand.isContainer = false)
      (earlier : List Value) : IsLink ⟨path, .equal, operand⟩ (candidatesOpening earlier)

variable {dialect : Dialect} {comparand : Comparand} {before after : List Lexeme}

/-- The value between these tokens is the operand, which the field is compared with. -/
def Stands (dialect : Dialect) (comparand : Comparand) (before after : List Lexeme) : Prop :=
  ∃ front link opening closing back,
    before = front ++ (lexemes dialect (comparand.sides dialect).1 ++ (link ++ opening)) ∧
      after = closing ++ back ∧
      comparand.IsLink link ∧
      lexemes dialect (comparand.sides dialect).2 = opening ++ .bound comparand.bound :: closing

theorem Stands.extend (stands : comparand.Stands dialect before after)
    (front back : List Lexeme) : comparand.Stands dialect (front ++ before) (after ++ back) := by
  obtain ⟨earlier, link, opening, closing, later, rfl, rfl, isLink, operand⟩ := stands
  exact ⟨front ++ earlier, link, opening, closing, later ++ back, by simp, by simp, isLink,
    operand⟩

/-- Comparands stand in tokens, in their order, and nothing else is bound there.  The
first of these tokens follow others. -/
structure AllStand (dialect : Dialect) (front : List Lexeme) (comparands : List Comparand)
    (tokens : List Lexeme) : Prop where
  values : tokens.filterMap Lexeme.bound? = comparands.map bound
  places : ∀ before value after, tokens = before ++ .bound value :: after →
    ∃ comparand, comparands[(before.filterMap Lexeme.bound?).length]? = some comparand ∧
      comparand.bound = value ∧ comparand.Stands dialect (front ++ before) after

namespace AllStand

variable {front left right tokens : List Lexeme} {comparands others : List Comparand}

theorem of_unbound (unbound : tokens.filterMap Lexeme.bound? = []) :
    AllStand dialect front [] tokens where
  values := unbound
  places before value after split := by simp [split, Lexeme.bound?] at unbound

theorem prepend (stand : AllStand dialect front comparands tokens) (more : List Lexeme) :
    AllStand dialect (more ++ front) comparands tokens where
  values := stand.values
  places before value after split := by
    obtain ⟨comparand, found, same, stands⟩ := stand.places before value after split
    refine ⟨comparand, found, same, ?_⟩
    simpa using stands.extend more []

/-- One operand, which nothing bound stands around. -/
theorem single {opening closing : List Lexeme}
    (openingUnbound : opening.filterMap Lexeme.bound? = [])
    (closingUnbound : closing.filterMap Lexeme.bound? = [])
    (stands : comparand.Stands dialect (front ++ opening) closing) :
    AllStand dialect front [comparand] (opening ++ .bound comparand.bound :: closing) where
  values := by simp [openingUnbound, closingUnbound, Lexeme.bound?]
  places before value after split := by
    have absent {tokens : List Lexeme} (unbound : tokens.filterMap Lexeme.bound? = []) :
        .bound value ∉ tokens := fun member =>
      Option.some_ne_none _ (List.filterMap_eq_nil_iff.mp unbound _ member)
    obtain ⟨rfl, same, rfl⟩ := (List.append_cons_inj_of_notMem (absent openingUnbound)
      (absent closingUnbound)).mp split
    refine ⟨comparand, by simp [openingUnbound], by cases same; rfl, stands⟩

/-- One operand at the beginning. -/
theorem value {closing : List Lexeme}
    (closingUnbound : closing.filterMap Lexeme.bound? = [])
    (stands : comparand.Stands dialect front closing) :
    AllStand dialect front [comparand] (.bound comparand.bound :: closing) :=
  single rfl closingUnbound (by rwa [List.append_nil])

theorem append (leftStand : AllStand dialect front comparands left)
    (rightStand : AllStand dialect (front ++ left) others right) :
    AllStand dialect front (comparands ++ others) (left ++ right) where
  values := by
    rw [List.filterMap_append, leftStand.values, rightStand.values, List.map_append]
  places before value after split := by
    have total : (left.filterMap Lexeme.bound?).length = comparands.length := by
      rw [leftStand.values, List.length_map]
    have within {before value after} (split : right = before ++ .bound value :: after) :
        ∃ comparand,
          (comparands ++ others)[((left ++ before).filterMap Lexeme.bound?).length]? =
              some comparand ∧
            comparand.bound = value ∧
            comparand.Stands dialect (front ++ (left ++ before)) after := by
      obtain ⟨comparand, found, same, stands⟩ := rightStand.places before value after split
      refine ⟨comparand, ?_, same, by rwa [← List.append_assoc]⟩
      rw [List.filterMap_append, List.length_append, total,
        List.getElem?_append_right (Nat.le_add_right ..), Nat.add_sub_cancel_left, found]
    rcases List.append_eq_append_iff.mp split with ⟨middle, rfl, later⟩ | ⟨middle, rfl, earlier⟩
    · exact within later
    · cases middle with
      | nil =>
          have split : right = [] ++ .bound value :: after := earlier.symm
          simpa using within split
      | cons first middle =>
          cases earlier
          obtain ⟨comparand, found, same, stands⟩ := leftStand.places before value middle rfl
          refine ⟨comparand, ?_, same, by simpa using stands.extend [] right⟩
          rw [List.getElem?_append_left (List.getElem?_eq_some_iff.mp found).1, found]

end AllStand

end Comparand

/-! ## Places of the operands of a condition -/

theorem Sql.lexemes_equal (dialect : Dialect) :
    lexemes dialect [.raw " = "] = [.sign "=".toList] := by
  cases dialect <;> rfl

theorem Sql.lexemes_sign (dialect : Dialect) (comparison : Comparison) :
    lexemes dialect [.raw (" " ++ comparison.sign ++ " ")] = [.sign comparison.sign.toList] := by
  cases dialect <;> cases comparison <;> rfl

namespace Comparand

variable {dialect : Dialect}

theorem params_field (comparand : Comparand) : (comparand.sides dialect).1.params = [] := by
  unfold sides Dialect.sides
  split <;> simp

/-- The tokens of an operand: its value, or a call that makes JSON of its text. -/
theorem lexemes_operand (dialect : Dialect) (comparand : Comparand) :
    ∃ opening closing,
      lexemes dialect (comparand.sides dialect).2 = opening ++ .bound comparand.bound :: closing ∧
        opening.filterMap Lexeme.bound? = [] ∧ closing.filterMap Lexeme.bound? = [] := by
  unfold sides Dialect.sides bound
  split
  · simp only [lexemes_cons, lexemes_nil, List.append_nil, lexemes_document]
    cases dialect with
    | postgres => exact ⟨[], _, rfl, rfl, rfl⟩
    | mysql => exact ⟨[.word "CAST".toList, .separator '('], _, rfl, rfl, rfl⟩
  · exact ⟨[], [], rfl, rfl, rfl⟩

/-- A field, a sign and an operand. -/
theorem allStand_compare (comparand : Comparand) {sign : String} (front : List Lexeme)
    (isLink : comparand.IsLink (lexemes dialect [.raw sign])) :
    AllStand dialect front [comparand]
      (lexemes dialect
        ((comparand.sides dialect).1 ++ .raw sign :: (comparand.sides dialect).2)) := by
  obtain ⟨opening, closing, operand, openingUnbound, closingUnbound⟩ :=
    comparand.lexemes_operand dialect
  have tokens : lexemes dialect
        ((comparand.sides dialect).1 ++ .raw sign :: (comparand.sides dialect).2) =
      (lexemes dialect (comparand.sides dialect).1 ++ (lexemes dialect [.raw sign] ++ opening))
        ++ .bound comparand.bound :: closing := by
    rw [lexemes_append, lexemes_cons, operand]
    simp
  rw [tokens]
  refine .single ?_ closingUnbound ⟨front, _, opening, closing, [], rfl, by simp, isLink, operand⟩
  rw [List.filterMap_append, List.filterMap_append, bounds_lexemes, bounds_lexemes,
    comparand.params_field, openingUnbound]
  rfl

/-- The candidates of a list, after others. -/
theorem allStand_candidates (path : String) {type : JsonType} {operands : List Value}
    (typed : ∀ operand ∈ operands, operand.jsonType? = some type) (front : List Lexeme)
    (earlier : List Value) :
    AllStand dialect
      (front ++ (lexemes dialect (dialect.typedValue path type) ++ candidatesOpening earlier))
      (operands.map fun operand => ⟨path, .equal, operand⟩)
      (lexemes dialect
        (joined ", " (operands.map fun operand => [.parameter operand.boundForm]))) := by
  induction operands generalizing earlier with
  | nil => exact .of_unbound rfl
  | cons first rest ih =>
      obtain ⟨firstTyped, restTyped⟩ := List.forall_mem_cons.mp typed
      have scalar := Value.isContainer_of_jsonType? firstTyped
      have sides := dialect.sides_of_jsonType? path .equal firstTyped
      have bound : bound ⟨path, .equal, first⟩ = first.boundForm := by simp [bound, scalar]
      have stands (closing : List Lexeme) :
          Stands dialect ⟨path, .equal, first⟩
            (front ++ (lexemes dialect (dialect.typedValue path type) ++ candidatesOpening earlier))
            closing := by
        refine ⟨front, _, [], [], closing, ?_, rfl, .candidate path scalar earlier, ?_⟩
        · rw [Comparand.sides, sides, List.append_nil]
        · rw [Comparand.sides, sides, bound]
          rfl
      cases rest with
      | nil =>
          have only := AllStand.value rfl (stands [])
          rwa [bound] at only
      | cons second rest =>
          have one := AllStand.value rfl (stands [.separator ','])
          have others := ih restTyped (earlier ++ [first.boundForm])
          rw [bound] at one
          have tokens (fragment : Fragment) :
              lexemes dialect ([.parameter first.boundForm] ++ .raw ", " :: fragment) =
                [.bound first.boundForm, .separator ','] ++ lexemes dialect fragment := by
            cases dialect <;> rfl
          change AllStand dialect _ ([_] ++ _) (lexemes dialect ([.parameter first.boundForm]
            ++ .raw ", " :: joined ", " ((second :: rest).map fun operand =>
              [.parameter operand.boundForm])))
          rw [tokens]
          refine one.append ?_
          simpa [candidatesOpening] using others

end Comparand

namespace FieldTest

open Comparand

variable {dialect : Dialect}

theorem allStand_oneOf (path : String) {type : JsonType} {operands : List Value}
    (typed : ∀ operand ∈ operands, operand.jsonType? = some type) (front : List Lexeme) :
    AllStand dialect front (oneOf path type operands).comparands
      (lexemes dialect ((oneOf path type operands).fragment dialect)) := by
  have opening : lexemes dialect [.raw " IN ", .raw "("] = candidatesOpening [] := by
    cases dialect <;> rfl
  have closing : lexemes dialect [.raw ")"] = [.separator ')'] := by
    cases dialect <;> rfl
  have field : AllStand dialect front []
      (lexemes dialect (dialect.typedValue path type) ++ candidatesOpening []) := by
    refine .of_unbound ?_
    rw [List.filterMap_append, bounds_lexemes, Dialect.params_typedValue]
    rfl
  have around := (field.append (allStand_candidates path typed front [])).append
    (.of_unbound (rfl : List.filterMap Lexeme.bound? [.separator ')'] = []))
  rw [← opening, ← closing] at around
  simpa [fragment, comparands, parenthesised] using around

/-- The operands of a test stand in its tokens. -/
theorem allStand_fragment {test : FieldTest} (suited : test.Suited) (front : List Lexeme) :
    AllStand dialect front test.comparands (lexemes dialect (test.fragment dialect)) := by
  have unbound (free : test.operands = []) :
      (lexemes dialect (test.fragment dialect)).filterMap Lexeme.bound? = [] := by
    rw [bounds_lexemes, params_fragment, free]
  cases test with
  | absent path => exact .of_unbound (unbound rfl)
  | present path => exact .of_unbound (unbound rfl)
  | never => exact .of_unbound (unbound rfl)
  | equals path operand =>
      have scalar : operand.isContainer = false := suited
      have compared := allStand_compare ⟨path, .equal, operand⟩ front
        (lexemes_equal dialect ▸ IsLink.equal path operand)
      simpa [fragment, comparands, Comparand.sides, Dialect.sides, scalar] using compared
  | sameJson path operand =>
      have container : operand.isContainer = true := suited
      have compared := allStand_compare ⟨path, .equal, operand⟩ front
        (lexemes_equal dialect ▸ IsLink.equal path operand)
      simpa [fragment, comparands, Comparand.sides, Dialect.sides, container] using compared
  | ordered path comparison operand =>
      have compared := allStand_compare ⟨path, .ordered comparison, operand⟩ front
        (lexemes_sign dialect comparison ▸ IsLink.ordered path comparison operand)
      simpa [fragment, comparands, Comparand.sides, Dialect.sides] using compared
  | oneOf path type operands => exact allStand_oneOf path suited.2 front

end FieldTest

/-- The operands of comparisons stand in the tokens of a text that has these. -/
theorem Sql.Fragment.Holds.allStand {dialect : Dialect} {tests : List FieldTest} {text : Fragment}
    (holds : Holds dialect tests text) (suited : ∀ test ∈ tests, test.Suited)
    (front : List Lexeme) :
    Comparand.AllStand dialect front (tests.flatMap FieldTest.comparands)
      (lexemes dialect text) := by
  induction holds generalizing front with
  | plain unbound => exact .of_unbound (by rw [bounds_lexemes, unbound])
  | comparison unbound _ ih =>
      obtain ⟨first, others⟩ := List.forall_mem_cons.mp suited
      rw [lexemes_append, lexemes_append, List.flatMap_cons]
      refine (Comparand.AllStand.of_unbound (by rw [bounds_lexemes, unbound])).append ?_
      exact (FieldTest.allStand_fragment first _).append (ih others _)

/-! ## Places of the operands of a statement -/

namespace Filter

/-- What a filter compares, in the order of its operands. -/
def comparands (filter : Value) : List Comparand :=
  (comparisons filter).flatMap FieldTest.comparands

theorem comparisons_eq_nil {dialect : Dialect} {filter : Value}
    (missing : (condition filter).fragment? dialect = none) : comparisons filter = [] := by
  have holds := (condition filter).holds_fragment? dialect
  rw [missing, comparisons_condition] at holds
  exact holds

end Filter

namespace Query

variable {settings : CompileSettings} {filter : Value} {entries log : List LogEntry}
  {line : Fragment}

/-- The comparisons of a filter stand in the line of its condition. -/
theorem holds_whereLine (returned : (whereLine settings filter).Returns entries line log) :
    Holds settings.dialect (Filter.comparisons filter) line := by
  have holds := Filter.holds_comparisons settings.dialect filter
  obtain ⟨missing, rfl⟩ | ⟨text, written, rfl⟩ := whereLine_cases returned
  · rwa [missing] at holds
  · rw [written] at holds
    exact holds.prepend (rfl : params [.raw "WHERE "] = [])

theorem IsSearch.holds {dialect : Dialect} {condition : Fragment} {statement : Statement}
    {tests : List FieldTest} (isSearch : IsSearch dialect condition statement)
    (holds : Holds dialect tests condition) (absent : condition = [] → tests = []) :
    Holds dialect tests statement.body := by
  obtain ⟨before, after, frames⟩ := isSearch
  have unbound {lines : List Fragment} (each : ∀ line ∈ lines, line ∈ before ++ after) :
      List.Forall₂ (Holds dialect) (lines.map fun _ => []) lines := by
    refine List.forall₂_map_left_iff.mpr (List.forall₂_same.mpr fun line member => ?_)
    exact .plain (frames line (each line member)).params_eq_nil
  have kept (lines : List Fragment) :
      ∀ line ∈ lines.filter fun line => !line.isEmpty, line ∈ lines :=
    fun line member => (List.mem_filter.mp member).1
  have front := unbound fun line member => List.mem_append_left _ (kept before line member)
  have back := unbound fun line member => List.mem_append_right _ (kept after line member)
  rw [assemble, List.filter_append, List.filter_cons]
  split
  · have whole : Holds dialect _ (joined "\n" _) :=
      .joined (List.rel_append front (.cons holds back))
    simpa using whole
  · rename_i empty
    have whole : Holds dialect _ (joined "\n" _) := .joined (List.rel_append front back)
    rw [absent (by simpa using empty)]
    simpa using whole

end Query

/-! ## Statements of one type -/

/-- What the case for a type comes to where the value has the type. -/
def Dialect.projected (dialect : Dialect) (path : String) : JsonType → Fragment
  | .number => dialect.numeric (dialect.fieldPath path)
  | _ => dialect.fieldPath path

theorem Dialect.typedValue_eq_guarded (dialect : Dialect) (path : String) (type : JsonType) :
    dialect.typedValue path type = dialect.guarded path type (dialect.projected path type) := by
  cases type <;> rfl

theorem Dialect.sides_of_typed (dialect : Dialect) (path : String) (relation : Relation)
    {operand : Value} {type : JsonType} (typed : operand.jsonType? = some type) :
    dialect.sides path relation operand =
      (dialect.guarded path type (dialect.projected path type),
        [.parameter operand.boundForm]) := by
  rw [sides_of_jsonType? dialect path relation typed, typedValue_eq_guarded]

/-- All casts to numbers in these tokens are of numbers.  Some comparands are bound in their
order, and each truth value, number or text among them stands after its field in the case for
exactly its type. -/
structure ComparesTyped (dialect : Dialect) (comparands : List Comparand)
    (tokens : List Lexeme) : Prop where
  casts : CastsGuarded dialect tokens
  values : tokens.filterMap Lexeme.bound? = comparands.map Comparand.bound
  cases : ∀ before value after, tokens = before ++ .bound value :: after →
    ∃ comparand, comparands[(before.filterMap Lexeme.bound?).length]? = some comparand ∧
      comparand.bound = value ∧
      ∀ type, comparand.operand.jsonType? = some type →
        ∃ front link, comparand.IsLink link ∧
          before = front ++ (lexemes dialect (dialect.guarded comparand.path type
            (dialect.projected comparand.path type)) ++ link)

theorem ComparesTyped.of_allStand {dialect : Dialect} {comparands : List Comparand}
    {tokens : List Lexeme} (casts : CastsGuarded dialect tokens)
    (stand : Comparand.AllStand dialect [] comparands tokens) :
    ComparesTyped dialect comparands tokens where
  casts := casts
  values := stand.values
  cases before value after split := by
    obtain ⟨comparand, found, same, stands⟩ := stand.places before value after split
    obtain ⟨front, link, opening, closing, back, placed, _, isLink, operand⟩ := stands
    refine ⟨comparand, found, same, fun type typed => ⟨front, link, isLink, ?_⟩⟩
    have sides := dialect.sides_of_typed comparand.path comparand.relation typed
    have alone : opening = [] := by
      have single : [.bound comparand.operand.boundForm] =
          opening ++ .bound comparand.bound :: closing := by
        rw [← operand, Comparand.sides, sides]
        rfl
      cases opening <;> simp_all
    rw [Comparand.sides, sides, alone, List.append_nil] at placed
    exact placed

/-- The operands of a filter stand in the tokens of its clause, and its casts are of
numbers. -/
theorem Filter.allStand_of_returns {dialect : Dialect} {strict : Bool} {filter : Value}
    {entries log : List LogEntry} {text : Option Fragment}
    (returned : (compile dialect strict filter).Returns entries text log) :
    ∃ tokens, tokens? dialect (text.getD []) = some tokens ∧
      tokens.filterMap Lexeme.bound? = clauseParams text ∧ CastsGuarded dialect tokens ∧
      Comparand.AllStand dialect [] (comparands filter) tokens := by
  obtain ⟨_, rfl, _⟩ := compile_returns_iff.mp returned
  have wellJoined := wellJoined_of_after (congrArg Prod.fst returned)
  have projected : CastsProjected dialect (((condition filter).fragment? dialect).getD []) := by
    cases written : (condition filter).fragment? dialect with
    | none => exact .nil
    | some text => exact (Condition.castsProjected_isKept dialect).fragment? _ written
  refine ⟨_, wellJoined.tokens?_eq, bounds_lexemes dialect _, projected.guarded wellJoined.raw, ?_⟩
  exact (holds_comparisons dialect filter).allStand (suited_comparisons filter) []

theorem Filter.comparesTyped {dialect : Dialect} {strict : Bool} {filter : Value}
    {entries log : List LogEntry} {text : Option Fragment}
    (returned : (compile dialect strict filter).Returns entries text log) :
    ∃ tokens, tokens? dialect (text.getD []) = some tokens ∧
      ComparesTyped dialect (comparands filter) tokens := by
  obtain ⟨tokens, cut, _, casts, stand⟩ := allStand_of_returns returned
  exact ⟨tokens, cut, .of_allStand casts stand⟩

theorem Query.IsSearch.comparesTyped {settings : CompileSettings} {filter : Value}
    {entries log : List LogEntry} {line : Fragment} {statement : Statement}
    (isSearch : IsSearch settings.dialect line statement)
    (returned : (whereLine settings filter).Returns entries line log) :
    ∃ tokens, tokens? settings.dialect statement.body = some tokens ∧
      ComparesTyped settings.dialect (Filter.comparands filter) tokens := by
  have wellJoined : WellJoined settings.dialect true statement.body := by
    have joined := isSearch.wellJoined (wellJoined_whereLine returned)
    cases isSearch
    exact joined
  have projected := isSearch.castsProjected (castsProjected_whereLine returned)
  have absent : line = [] → Filter.comparisons filter = [] := by
    intro empty
    obtain ⟨missing, _⟩ | ⟨text, _, same⟩ := whereLine_cases returned
    · exact Filter.comparisons_eq_nil missing
    · cases same.symm.trans empty
  refine ⟨_, wellJoined.tokens?_eq, .of_allStand (projected.guarded wellJoined.raw) ?_⟩
  exact (isSearch.holds (holds_whereLine returned) absent).allStand
    (Filter.suited_comparisons filter) []

/-! ## Rows with other types -/

/-- The truth values of a row, whose fields have types of these names.  A case comes to null
where its test does not hold, and null compares with nothing. -/
structure Sql.Valuation.IsRow (dialect : Dialect) (typeName : String → Option String)
    (valuation : Valuation) : Prop where
  choice : ∀ test branch condition relation right,
    condition? (items test) = some condition → condition.truth valuation ≠ .holds →
      valuation.compare [.choice (.token (.word "WHEN".toList) :: (test
        ++ .token (.word "THEN".toList) :: branch))] relation right = .unknown
  type : ∀ path type, ∀ name ∈ dialect.typeNames type,
    valuation.compare (dialect.typeCall path) .equal [.token (.quoted '\'' name.toList)] = .holds ↔
      typeName path = some name

/-- An operand of a type neither equals a value of another type nor stands in an order to
it. -/
theorem Sql.Valuation.IsRow.compare_eq_unknown {dialect : Dialect}
    {typeName : String → Option String} {valuation : Valuation}
    (isRow : valuation.IsRow dialect typeName) {path : String} (relation : Relation)
    {operand : Value} {type : JsonType} (typed : operand.jsonType? = some type)
    (other : ∀ name ∈ dialect.typeNames type, typeName path ≠ some name) :
    (valuation.onFields dialect).compare path relation operand = .unknown := by
  have inner : (dialect.projected path type).IsExpression dialect := by
    have text := dialect.isExpression_fieldPath path
    cases type with
    | number => exact Dialect.isExpression_numeric text
    | string => exact text
    | boolean => exact text
  obtain ⟨test, ⟨condition, conjunction, means⟩, reads⟩ := Dialect.reads_guarded path type inner
  have notHolds : condition.truth valuation ≠ .holds := by
    intro holds
    obtain ⟨name, isName, named⟩ := (means valuation).mp holds
    exact other name isName ((isRow.type path type name isName).mp named)
  have sides := dialect.sides_of_typed path relation typed
  have unknown := isRow.choice test (Fragment.trees dialect (dialect.projected path type)) condition
    relation (Fragment.trees dialect [.parameter operand.boundForm]) conjunction.condition?_eq
    notHolds
  rw [← Fragment.trees_eq reads] at unknown
  simpa [Valuation.onFields, sides] using unknown

/-- Comparisons are of one type: in the clause of every filter and in the statement of every
pipeline, text is cast to a number only in the case for numbers of the same field, and every
truth value, number or text stands after its field in the case for exactly its type.  In a
row where the field has another type, the operand compares with nothing. -/
theorem comparisons_are_typed :
    (∀ dialect strict filter entries text log,
      (Filter.compile dialect strict filter).Returns entries text log →
        ∃ tokens, tokens? dialect (text.getD []) = some tokens ∧
          ComparesTyped dialect (Filter.comparands filter) tokens) ∧
    (∀ settings collection pipeline entries plan log,
      (PipelinePlan.compile settings collection pipeline).Returns entries plan log →
        ∃ stages shape middle tokens, pipeline.walk = .ok stages ∧
          (PipelineShape.empty.addAll settings.strict (Stage.ofEntries stages)).Returns entries
            shape middle ∧
          tokens? settings.dialect plan.statement.body = some tokens ∧
          ComparesTyped settings.dialect (Filter.comparands shape.combined) tokens) ∧
    ∀ dialect typeName (valuation : Valuation), valuation.IsRow dialect typeName →
      ∀ path relation operand type, operand.jsonType? = some type →
        (∀ name ∈ dialect.typeNames type, typeName path ≠ some name) →
          (valuation.onFields dialect).compare path relation operand = .unknown := by
  refine ⟨fun _ _ _ _ _ _ returned => Filter.comparesTyped returned, ?_,
    fun _ _ _ isRow _ relation _ _ typed other => isRow.compare_eq_unknown relation typed other⟩
  intro settings collection pipeline entries plan log returned
  simp only [PipelinePlan.compile, Logged.returns_bind, Logged.returns_ofFault] at returned
  obtain ⟨stages, _, ⟨walked, rfl⟩, shape, middle, shaped, returned⟩ := returned
  obtain ⟨_, _, _, lineReturned, isSearch⟩ := PipelinePlan.isSearch_ofShape returned
  obtain ⟨tokens, cut, typed⟩ := isSearch.comparesTyped lineReturned
  exact ⟨stages, shape, middle, tokens, walked, shaped, cut, typed⟩

/-- The truth values of a row of MySQL that has a text in every field. -/
def Sql.Valuation.texts : Valuation where
  compare
    | [.token (.word function), .group _], .equal, [.token (.quoted _ name)] =>
        .ofBool (function == "JSON_TYPE".toList && name == "STRING".toList)
    | [.token (.word _)], _, _ => .fails
    | _, _, _ => .unknown
  isNull _ := false
  type_known _ _ := (by decide : Truth.ofBool ("JSON_TYPE".toList == "JSON_TYPE".toList
    && "NULL".toList == "STRING".toList) ≠ .unknown)
  one_ne_zero := rfl

theorem Sql.Valuation.isRow_texts : texts.IsRow .mysql fun _ => some "STRING" where
  choice _ _ _ _ _ _ _ := rfl
  type path type name isName := by
    have named : name.toList = "STRING".toList ↔ "STRING" = name := by
      rw [String.toList_inj, eq_comm]
    simpa [texts, Dialect.typeCall, Dialect.typeFunction] using named

/-- Exclusions and ranges below a disjunction, and the sum of a group; a text is neither equal
to a number nor greater. -/
theorem comparisons_are_typed_mixed :
    let filter : Value := .object
      [ ("$or", .list [.object [("a", .object [("$nin", .list [.int 1, .int 2])])],
          .object [("b", .object [("gt", .text "x"), ("$ne", .bool true)])]]),
        ("c.d", .object [("$in", .list [.null, .int 5, .text "%"])]) ]
    let pipeline : Value := .list
      [ .object [("$match", .object [("a", .object [("$gt", .int 1)])])],
        .object [("$group", .object
          [("_id", .text "$b"), ("total", .object [("$sum", .text "$c")])])] ]
    (∃ text log tokens, (Filter.compile .mysql true filter).Returns [] text log ∧
      tokens? .mysql (text.getD []) = some tokens ∧
      ComparesTyped .mysql (Filter.comparands filter) tokens) ∧
    (∃ plan log tokens, (PipelinePlan.compile ⟨.postgres, true⟩ "orders" pipeline).Returns []
        plan log ∧
      tokens? .postgres plan.statement.body = some tokens ∧ CastsGuarded .postgres tokens) ∧
    ∀ relation, (Valuation.texts.onFields .mysql).compare "a" relation (.int 1) = .unknown := by
  intro filter pipeline
  obtain ⟨filters, pipelines, rows⟩ := comparisons_are_typed
  have compiled : (Filter.compile .mysql true filter).Returns [] _ _ := rfl
  obtain ⟨tokens, cut, typed⟩ := filters .mysql true filter [] _ _ compiled
  refine ⟨⟨_, _, tokens, compiled, cut, typed⟩, ?_, fun relation => ?_⟩
  · have planned : (PipelinePlan.compile ⟨.postgres, true⟩ "orders" pipeline).Returns [] _ _ := rfl
    obtain ⟨_, _, _, tokens, _, _, cut, typed⟩ :=
      pipelines ⟨.postgres, true⟩ "orders" pipeline [] _ _ planned
    exact ⟨_, _, tokens, planned, cut, typed.casts⟩
  · exact rows .mysql _ Valuation.texts Valuation.isRow_texts "a" relation (.int 1) .number rfl
      (by decide)

end DocStore
