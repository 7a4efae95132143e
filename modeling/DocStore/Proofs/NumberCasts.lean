import DocStore.Proofs.PipelineNormalForm
import DocStore.Proofs.QuotedNames
import DocStore.Proofs.ParameterOrder

/-!
# Casts to numbers

A text is cast to a number only where the stored value is one.  This is told from the tokens
of a clause or of a statement, outside of quotes: each name of an exact number type stands in
the branch of a case for numbers, after the field that the case is about.  Only one expression
has such a cast, and what is put around it has none.
-/

namespace DocStore

open Sql Fragment

/-! ## Casts among tokens -/

namespace Sql

/-- Whether a token names a type of exact numbers, in upper or lower case. -/
def Lexeme.namesNumber : Lexeme → Bool
  | .word content => ["NUMERIC", "DECIMAL"].contains (String.ofList (content.map Char.toUpper))
  | _ => false

/-- The tokens from a case for numbers up to the type of the cast in its branch, which casts
the field that the case is about. -/
def castOpening (dialect : Dialect) (path : String) : List Lexeme :=
  lexemes dialect (.raw "CASE WHEN " :: (dialect.hasType path .number
    ++ .raw " THEN " :: .raw "CAST(" :: (dialect.fieldPath path ++ [.raw " AS "])))

/-- The tokens after the type of a cast, up to the end of the case. -/
def castClosing : Dialect → List Lexeme
  | .postgres => lexemes .postgres [.raw ") END"]
  | .mysql => lexemes .mysql [.raw "(65, 10)) END"]

/-- Every name of an exact number type is the type of a cast in the branch of a case for
numbers. -/
def CastsGuarded (dialect : Dialect) (tokens : List Lexeme) : Prop :=
  ∀ before type after, tokens = before ++ type :: after → type.namesNumber = true →
    ∃ left path right,
      before = left ++ castOpening dialect path ∧ after = castClosing dialect ++ right

/-- No token names a type of exact numbers. -/
def CastFree (tokens : List Lexeme) : Prop := ∀ token ∈ tokens, token.namesNumber = false

namespace CastsGuarded

variable {dialect : Dialect} {left right : List Lexeme}

theorem of_castFree {tokens : List Lexeme} (free : CastFree tokens) :
    CastsGuarded dialect tokens := by
  rintro before type after rfl names
  rw [free type (by simp)] at names
  cases names

theorem append (leftGuarded : CastsGuarded dialect left)
    (rightGuarded : CastsGuarded dialect right) : CastsGuarded dialect (left ++ right) := by
  intro before type after split names
  rcases List.append_eq_append_iff.mp split with ⟨middle, rfl, later⟩ | ⟨middle, rfl, earlier⟩
  · obtain ⟨front, path, rest, rfl, rfl⟩ := rightGuarded middle type after later names
    exact ⟨left ++ front, path, rest, (List.append_assoc ..).symm, rfl⟩
  · cases middle with
    | nil =>
        obtain ⟨front, path, rest, empty, rfl⟩ := rightGuarded [] type after earlier.symm names
        refine ⟨before ++ front, path, rest, ?_, rfl⟩
        rw [List.append_assoc, ← empty, List.append_nil]
    | cons first middle =>
        cases earlier
        obtain ⟨front, path, rest, rfl, rfl⟩ := leftGuarded before type middle rfl names
        exact ⟨front, path, rest ++ right, rfl, List.append_assoc ..⟩

/-- A cast in its case is the only one there. -/
theorem of_cast {path : String} (type : Lexeme)
    (openingFree : CastFree (castOpening dialect path))
    (closingFree : CastFree (castClosing dialect)) :
    CastsGuarded dialect (castOpening dialect path ++ type :: castClosing dialect) := by
  intro before other after split names
  have absent {tokens : List Lexeme} (free : CastFree tokens) : other ∉ tokens := by
    intro member
    rw [free other member] at names
    cases names
  obtain ⟨rfl, -, rfl⟩ := (List.append_cons_inj_of_notMem (absent openingFree)
    (absent closingFree)).mp split
  exact ⟨[], path, [], rfl, (List.append_nil _).symm⟩

end CastsGuarded

/-! ## Casts among pieces -/

/-- Whether a character can stand in a token that is no type of numbers. -/
def Lexer.isNoC (character : Char) : Bool :=
  character != 'C' && character != 'c'

/-- Whether a piece is the end of a cast to a number. -/
def Piece.castsNumber : Piece → Bool
  | .raw text => [" AS NUMERIC)", " AS DECIMAL(65, 10))"].contains text
  | _ => false

theorem castFree_of_passes {tokens : List Lexeme}
    (passes : ∀ token ∈ tokens, Lexer.PassesLexeme Lexer.isNoC token) :
    CastFree tokens := by
  have upper {character : Char} (isC : character.toUpper = 'C') :
      character = 'C' ∨ character = 'c' := by
    unfold Char.toUpper at isC
    split at isC
    · right
      have code := congrArg Char.val isC
      dsimp only at code
      apply Char.ext
      rw [← UInt32.add_sub_cancel character.val ('A'.val - 'a'.val), code]
      decide
    · exact .inl isC
  intro token member
  cases token with
  | word content =>
      have noC : 'C' ∉ content.map Char.toUpper := by
        intro found
        obtain ⟨character, contained, isC⟩ := List.mem_map.mp found
        have plain := List.all_eq_true.mp (passes _ member) character contained
        rcases upper isC with rfl | rfl <;> cases plain
      refine Bool.eq_false_iff.mpr fun names => noC ?_
      simp only [Lexeme.namesNumber, List.contains_iff_mem, List.mem_cons, List.not_mem_nil,
        or_false] at names
      rcases names with same | same <;> rw [← String.toList_ofList (l := content.map _), same] <;>
        decide
  | _ => rfl

/-- A number as a statement shows it is no type. -/
theorem castFree_amount (dialect : Dialect) {text : String} (isAmount : IsAmount text) :
    CastFree (Piece.lexemes dialect (.raw text)) := by
  have numeral {text : List Char} (isNumeral : IsNumeral text) :
      text.all Lexer.isNoC = true := by
    refine List.all_eq_true.mpr fun character member => ?_
    have upper : character ≠ 'C' := by
      rintro rfl
      exact isNumeral.not_mem (by decide) (by decide) member
    have lower : character ≠ 'c' := by
      rintro rfl
      exact isNumeral.not_mem (by decide) (by decide) member
    simp [Lexer.isNoC, upper, lower]
  have plain : text.toList.all Lexer.isNoC = true := by
    cases isAmount with
    | limit count =>
        rw [String.toList_append, List.all_append, show (toString count) = count.repr from rfl,
          numeral (isNumeral_repr count)]
        decide
    | offset count =>
        rw [String.toList_append, List.all_append, show (toString count) = count.repr from rfl,
          numeral (isNumeral_repr count)]
        decide
    | sum isNumber worded =>
        rw [String.toList_append, String.toList_append, List.all_append, List.all_append,
          numeral (Value.isNumeral_wording isNumber worded)]
        decide
  rw [Piece.lexemes_raw]
  cases cut : lex dialect (characters text.toList) with
  | none => exact fun token member => absurd member List.not_mem_nil
  | some tokens => exact castFree_of_passes (Lexer.passes_lex plain cut)

set_option maxRecDepth 4000 in
theorem castFree_fixedTexts (dialect : Dialect) :
    ∀ text ∈ fixedTexts dialect, (Piece.raw text).castsNumber = false →
      CastFree (Piece.lexemes dialect (.raw text)) := by
  have checked : (fixedTexts dialect).all (fun text => (Piece.raw text).castsNumber ||
      ((lex dialect (characters text.toList)).getD []).all fun token => !token.namesNumber) =
        true := by
    cases dialect <;>
      simp only [fixedTexts, joints, leads, commonLeads, tails, phrases, List.all_cons,
        List.all_nil, List.cons_append, List.nil_append, String.toList_append,
        String.reduceToList] <;>
      decide +kernel
  intro text member noCast token tokenMember
  have texts := List.all_eq_true.mp checked text member
  rw [noCast, Bool.false_or] at texts
  simpa using List.all_eq_true.mp texts token tokenMember

/-- The tokens of a bound JSON text: Postgres casts it by a sign, MySQL by a call. -/
def documentTokens (dialect : Dialect) (json : String) : List Lexeme :=
  match dialect with
  | .postgres => [.bound (.text json), .sign "::".toList, .word "jsonb".toList]
  | .mysql =>
      [ .word "CAST".toList, .separator '(', .bound (.text json), .word "AS".toList,
        .word "JSON".toList, .separator ')' ]

theorem lexemes_document (dialect : Dialect) (json : String) :
    Piece.lexemes dialect (.document json) = documentTokens dialect json := by
  cases dialect <;> rfl

/-- Outside of casts, no piece of a fragment names a type of exact numbers. -/
theorem castFree_piece {dialect : Dialect} {piece : Piece} (noCast : piece.castsNumber = false)
    (isStock : ∀ text, piece = .raw text → text ∈ fixedTexts dialect ∨ IsAmount text) :
    CastFree (piece.lexemes dialect) := by
  cases piece with
  | raw text =>
      rcases isStock text rfl with fixed | isAmount
      · exact castFree_fixedTexts dialect text fixed noCast
      · exact castFree_amount dialect isAmount
  | document json =>
      rw [lexemes_document]
      cases dialect <;> simp [documentTokens, CastFree, Lexeme.namesNumber]
  | _ => exact List.forall_mem_singleton.mpr rfl

namespace Fragment

/-- All casts to a number stand in the projections of fields that are one. -/
inductive CastsProjected (dialect : Dialect) : Fragment → Prop where
  | nil : CastsProjected dialect []
  | piece {piece : Piece} {fragment : Fragment} (noCast : piece.castsNumber = false) :
      CastsProjected dialect fragment → CastsProjected dialect (piece :: fragment)
  | number (path : String) {fragment : Fragment} :
      CastsProjected dialect fragment →
        CastsProjected dialect (dialect.numericValue path ++ fragment)

namespace CastsProjected

variable {dialect : Dialect} {fragment left right : Fragment}

theorem append (leftProjected : CastsProjected dialect left)
    (rightProjected : CastsProjected dialect right) : CastsProjected dialect (left ++ right) := by
  induction leftProjected with
  | nil => exact rightProjected
  | piece noCast _ ih => exact .piece noCast ih
  | number path _ ih =>
      rw [List.append_assoc]
      exact .number path ih

theorem of_pieces (noCasts : ∀ piece ∈ fragment, piece.castsNumber = false) :
    CastsProjected dialect fragment := by
  induction fragment with
  | nil => exact .nil
  | cons piece fragment ih =>
      obtain ⟨first, rest⟩ := List.forall_mem_cons.mp noCasts
      exact .piece first (ih rest)

theorem of_number (path : String) : CastsProjected dialect (dialect.numericValue path) := by
  simpa using CastsProjected.number path .nil

theorem between {front back : String} (frontFree : (Piece.raw front).castsNumber = false)
    (inner : CastsProjected dialect fragment)
    (backFree : (Piece.raw back).castsNumber = false) :
    CastsProjected dialect (.raw front :: (fragment ++ [.raw back])) :=
  .piece frontFree (inner.append (.piece backFree .nil))

theorem joined {separator : String} (free : (Piece.raw separator).castsNumber = false)
    {fragments : List Fragment} (each : ∀ fragment ∈ fragments, CastsProjected dialect fragment) :
    CastsProjected dialect (Fragment.joined separator fragments) := by
  induction fragments with
  | nil => exact .nil
  | cons first rest ih =>
      obtain ⟨firstProjected, restProjected⟩ := List.forall_mem_cons.mp each
      cases rest with
      | nil => exact firstProjected
      | cons second rest => exact firstProjected.append (.piece free (ih restProjected))

end CastsProjected

end Fragment

end Sql

/-! ## Casts of expressions -/

namespace Dialect

variable (dialect : Dialect) (path : String)

theorem noCasts_jsonPath : ∀ piece ∈ dialect.jsonPath path, piece.castsNumber = false := by
  cases dialect with
  | postgres =>
      unfold jsonPath
      dsimp only
      split <;> simp [Piece.castsNumber, documentColumn]
  | mysql => simp [jsonPath, Piece.castsNumber, documentColumn]

theorem noCasts_fieldPath : ∀ piece ∈ dialect.fieldPath path, piece.castsNumber = false := by
  cases dialect with
  | postgres =>
      unfold fieldPath
      dsimp only
      split <;> simp [Piece.castsNumber, documentColumn]
  | mysql =>
      have inner := noCasts_jsonPath .mysql path
      simpa [fieldPath, Piece.castsNumber, or_imp, forall_and] using inner

theorem noCasts_hasType (type : JsonType) :
    ∀ piece ∈ dialect.hasType path type, piece.castsNumber = false := by
  have inner := noCasts_jsonPath dialect path
  cases dialect with
  | postgres =>
      simpa [hasType, postgresTypeTest, Piece.castsNumber, or_imp, forall_and] using inner
  | mysql =>
      cases type <;>
        simpa [hasType, engineTypeNames, Piece.castsNumber, or_imp, forall_and] using inner

end Dialect

namespace Sql

/-- The tokens of the projection of a field that is a number. -/
theorem lexemes_numericValue (dialect : Dialect) (path : String) :
    ∃ type, lexemes dialect (dialect.numericValue path) =
      castOpening dialect path ++ type :: castClosing dialect := by
  have parts (ending : String) (type : Lexeme)
      (cut : lexemes dialect [.raw ending, .raw " END"] =
        lexemes dialect [.raw " AS "] ++ type :: castClosing dialect) :
      lexemes dialect (dialect.guarded path .number
          (.raw "CAST(" :: (dialect.fieldPath path ++ [.raw ending]))) =
        castOpening dialect path ++ type :: castClosing dialect := by
    simp only [lexemes_cons, lexemes_nil, List.append_nil] at cut
    simp only [Dialect.guarded, castOpening, lexemes_cons, lexemes_append, lexemes_nil,
      List.append_nil, List.append_assoc, cut]
  cases dialect with
  | postgres => exact ⟨_, parts " AS NUMERIC)" (.word "NUMERIC".toList) rfl⟩
  | mysql => exact ⟨_, parts " AS DECIMAL(65, 10))" (.word "DECIMAL".toList) rfl⟩

theorem castFree_of_wellJoined {dialect : Dialect} {fragment : Fragment}
    (wellJoined : WellJoined dialect true fragment)
    (noCasts : ∀ piece ∈ fragment, piece.castsNumber = false) :
    CastFree (lexemes dialect fragment) := by
  intro token member
  obtain ⟨piece, isPiece, isToken⟩ := List.mem_flatMap.mp member
  refine castFree_piece (noCasts piece isPiece) (fun text isRaw => ?_) token isToken
  exact wellJoined.raw text (isRaw ▸ isPiece)

theorem castsGuarded_numericValue (dialect : Dialect) (path : String) :
    CastsGuarded dialect (lexemes dialect (dialect.numericValue path)) := by
  obtain ⟨type, tokens⟩ := lexemes_numericValue dialect path
  rw [tokens]
  refine .of_cast type (castFree_of_wellJoined ?_ ?_) ?_
  · refine .lead (by simp [commonLeads]) ((dialect.wellJoined_hasType path .number).append ?_)
    refine .joint (by simp [joints]) (.lead (by simp [commonLeads]) ?_)
    exact (dialect.wellJoined_fieldPath path).append (.joint (by simp [joints]) .nil)
  · have test := dialect.noCasts_hasType path .number
    have field := dialect.noCasts_fieldPath path
    simp only [List.forall_mem_cons, List.forall_mem_append]
    exact ⟨rfl, test, rfl, rfl, field, by simp [Piece.castsNumber]⟩
  · unfold CastFree
    cases dialect <;> decide +kernel

/-- Casts that stand in the projections of numbers are guarded. -/
theorem Fragment.CastsProjected.guarded {dialect : Dialect} {fragment : Fragment}
    (projected : CastsProjected dialect fragment)
    (isStock : ∀ text, .raw text ∈ fragment → text ∈ fixedTexts dialect ∨ IsAmount text) :
    CastsGuarded dialect (lexemes dialect fragment) := by
  induction projected with
  | nil => exact .of_castFree (fun token member => absurd member List.not_mem_nil)
  | @piece piece fragment noCast _ ih =>
      rw [lexemes_cons]
      refine CastsGuarded.append (.of_castFree (castFree_piece noCast ?_)) (ih ?_)
      · exact fun text isRaw => isStock text (isRaw ▸ List.mem_cons_self)
      · exact fun text member => isStock text (List.mem_cons_of_mem _ member)
  | number path _ ih =>
      rw [lexemes_append]
      exact (castsGuarded_numericValue dialect path).append
        (ih fun text member => isStock text (List.mem_append_right _ member))

end Sql

/-! ## Casts of conditions and lines -/

namespace Dialect

variable (dialect : Dialect) (path : String)

theorem castsProjected_typedValue (type : JsonType) :
    CastsProjected dialect (dialect.typedValue path type) := by
  have test := dialect.noCasts_hasType path type
  have field := dialect.noCasts_fieldPath path
  have guarded : CastsProjected dialect (dialect.guarded path type (dialect.fieldPath path)) := by
    refine .of_pieces ?_
    simp only [Dialect.guarded, List.forall_mem_cons, List.forall_mem_append]
    exact ⟨rfl, test, rfl, field, by simp [Piece.castsNumber]⟩
  cases type with
  | number => exact .of_number path
  | string => exact guarded
  | boolean => exact guarded

theorem castsProjected_comparable (operand : Value) :
    CastsProjected dialect (dialect.comparable path operand) := by
  unfold comparable
  split
  · exact dialect.castsProjected_typedValue path _
  · exact .of_pieces (dialect.noCasts_fieldPath path)

end Dialect

theorem Dialect.castsProjected_nullTest {between after : String} (path : String)
    (betweenFree : (Piece.raw between).castsNumber = false)
    (afterFree : (Piece.raw after).castsNumber = false) :
    CastsProjected .mysql
      (.raw "(" :: (jsonPath .mysql path ++ .raw between
        :: (jsonPath .mysql path ++ [.raw after]))) := by
  have json : CastsProjected .mysql (jsonPath .mysql path) :=
    .of_pieces (noCasts_jsonPath .mysql path)
  exact .piece rfl (json.append (.piece betweenFree (json.append (.piece afterFree .nil))))

theorem FieldTest.castsProjected_fragment (dialect : Dialect) (test : FieldTest) :
    CastsProjected dialect (test.fragment dialect) := by
  have field (path : String) : CastsProjected dialect (dialect.fieldPath path) :=
    .of_pieces (dialect.noCasts_fieldPath path)
  cases test with
  | absent path =>
      cases dialect with
      | postgres => exact (field path).append (.piece rfl .nil)
      | mysql => exact Dialect.castsProjected_nullTest path rfl rfl
  | present path =>
      cases dialect with
      | postgres => exact (field path).append (.piece rfl .nil)
      | mysql => exact Dialect.castsProjected_nullTest path rfl rfl
  | equals path operand =>
      exact (dialect.castsProjected_comparable path operand).append (.piece rfl (.piece rfl .nil))
  | ordered path comparison operand =>
      refine (dialect.castsProjected_comparable path operand).append (.piece ?_ (.piece rfl .nil))
      cases comparison <;> rfl
  | sameJson path operand =>
      exact (CastsProjected.of_pieces (dialect.noCasts_jsonPath path)).append
        (.piece rfl (.piece rfl .nil))
  | oneOf path type operands =>
      refine (dialect.castsProjected_typedValue path type).append
        (.piece rfl (.between rfl (.joined rfl ?_) rfl))
      exact List.forall_mem_map.mpr fun operand _ => .piece rfl .nil
  | never => exact .piece rfl .nil

theorem Condition.castsProjected_isKept (dialect : Dialect) :
    IsKept dialect (CastsProjected dialect) where
  test := FieldTest.castsProjected_fragment dialect
  enclosed inner := .between rfl inner rfl
  negated inner := .between rfl inner rfl
  joined isSeparator each := by
    simp only [List.mem_cons, List.not_mem_nil, or_false] at isSeparator
    exact .joined (by rcases isSeparator with rfl | rfl <;> rfl) each

theorem Sql.IsAmount.castsNumber_eq_false {text : String} (isAmount : IsAmount text) :
    (Piece.raw text).castsNumber = false := by
  have other : text.toList.head? ≠ some ' ' := by
    cases isAmount <;> simp [String.toList_append]
  refine Bool.eq_false_iff.mpr fun casts => other ?_
  simp only [Piece.castsNumber, List.contains_iff_mem, List.mem_cons, List.not_mem_nil,
    or_false] at casts
  rcases casts with rfl | rfl <;> rfl

theorem PipelinePlan.IsColumn.castsProjected {dialect : Dialect} {text : Fragment}
    (isColumn : IsColumn dialect text) : CastsProjected dialect text := by
  cases isColumn with
  | missing => exact .piece rfl .nil
  | field path => exact .of_pieces (dialect.noCasts_fieldPath path)
  | rows => exact .piece rfl .nil
  | constant isNumber worded =>
      exact .piece (IsAmount.sum isNumber worded).castsNumber_eq_false .nil
  | numbers function path =>
      refine .piece ?_ ((CastsProjected.of_number path).append (.piece rfl .nil))
      cases function <;> rfl

namespace Query

theorem IsFrame.castsProjected {dialect : Dialect} {line : Fragment}
    (isFrame : IsFrame dialect line) : CastsProjected dialect line := by
  cases isFrame with
  | empty => exact .nil
  | selection collection => exact .piece rfl (.piece rfl .nil)
  | counting collection => exact .piece rfl (.piece rfl .nil)
  | columns each =>
      refine .piece rfl (.joined rfl (List.forall_mem_map.mpr fun item member => ?_))
      exact (each item member).castsProjected.append (.piece rfl (.piece rfl .nil))
  | source collection => exact .piece rfl (.piece rfl .nil)
  | grouping path => exact .piece rfl (.of_pieces (dialect.noCasts_fieldPath path))
  | ordering each =>
      have direction (ascending : Bool) :
          CastsProjected dialect [.raw (if ascending then " ASC" else " DESC")] :=
        .piece (by cases ascending <;> rfl) .nil
      refine .piece rfl (.joined rfl fun text member => ?_)
      cases each text member with
      | column name ascending => exact .piece rfl (direction ascending)
      | field path ascending =>
          exact (CastsProjected.of_pieces (dialect.noCasts_jsonPath path)).append
            (direction ascending)
  | paging isAmount => exact .piece isAmount.castsNumber_eq_false .nil

theorem castsProjected_whereLine {settings : CompileSettings} {filter : Value}
    {entries log : List LogEntry} {line : Fragment}
    (returned : (whereLine settings filter).Returns entries line log) :
    CastsProjected settings.dialect line := by
  obtain ⟨_, rfl⟩ | ⟨text, written, rfl⟩ := whereLine_cases returned
  · exact .nil
  · exact .piece rfl ((Condition.castsProjected_isKept settings.dialect).fragment? _ written)

theorem IsSearch.castsProjected {dialect : Dialect} {condition : Fragment}
    {statement : Statement} (isSearch : IsSearch dialect condition statement)
    (conditionProjected : CastsProjected dialect condition) :
    CastsProjected dialect statement.body := by
  obtain ⟨before, after, frames⟩ := isSearch
  refine .joined rfl fun line member => ?_
  rcases List.mem_append.mp (List.mem_filter.mp member).1 with early | late
  · exact (frames line (List.mem_append_left _ early)).castsProjected
  · rcases List.mem_cons.mp late with rfl | late
    · exact conditionProjected
    · exact (frames line (List.mem_append_right _ late)).castsProjected

end Query

end DocStore
