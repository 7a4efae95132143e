import DocStore.Proofs.NumberText

/-!
# Fragments that fall apart into their pieces

The library writes its statements out of a stock of fixed texts, with quoted text,
placeholders and a few numbers between them.  A text of the stock begins with a
separator or with a word, and it ends where a token may begin or else with a complete
token.  In a well-joined fragment no two pieces run together, so its tokens are those
of its pieces, and a quoted piece is one token.
-/

namespace DocStore.Sql

/-! ## The stock of texts -/

/-- Texts that begin with a separator and end where a token may begin. -/
def joints : List String :=
  [ " = ", " > ", " >= ", " < ", " <= ", " IN ", ", ", " AND ", " OR ", " THEN ", " AS ", " ON ",
    "\n", "(", ")", " (", "), FALSE)", ") = ", " SET data = ", " (data) VALUES ",
    " AS NUMERIC)", " AS DECIMAL(65, 10))", " IS NULL OR JSON_TYPE(", ") = 'NULL')",
    " IS NOT NULL AND JSON_TYPE(", ") <> 'NULL')",
    ") IN ('INTEGER', 'UNSIGNED INTEGER', 'DOUBLE', 'DECIMAL')", ") IN ('STRING')",
    ") IN ('BOOLEAN')", " (id SERIAL PRIMARY KEY, data JSONB)",
    " (id INT AUTO_INCREMENT PRIMARY KEY, data JSON)", "(CAST(",
    " AS CHAR(255)) COLLATE utf8mb4_bin)" ]

/-- Texts that begin with a word and end where a token may begin. -/
def leads : Dialect → List String
  | .postgres =>
      [ "data->", "data->>", "data #> ", "data #>> ", "jsonb_typeof(", "IF NOT EXISTS ",
        "DROP INDEX IF EXISTS ", "SELECT to_regclass(",
        "SELECT tablename AS name FROM pg_tables WHERE schemaname = current_schema()",
        "SELECT indexname AS name, indexdef AS definition FROM pg_indexes "
          ++ "WHERE schemaname = current_schema() AND tablename = " ]
  | .mysql =>
      [ "JSON_EXTRACT(data, ", "JSON_UNQUOTE(", "JSON_TYPE(", "DROP INDEX ",
        "SELECT COUNT(*) > 0 AS present FROM information_schema.tables "
          ++ "WHERE table_schema = DATABASE() AND table_name = ",
        "SELECT index_name AS name, non_unique AS non_unique, "
          ++ "column_name AS column_name, expression AS expression, "
          ++ "collation AS collation FROM information_schema.statistics "
          ++ "WHERE table_schema = DATABASE() AND table_name = " ]

/-- Texts of both dialects that begin with a word and end where a token may begin. -/
def commonLeads : List String :=
  [ "CASE WHEN ", "CAST(", "NOT COALESCE((", "WHERE ", "ORDER BY ", "GROUP BY ", "SELECT ",
    "FROM ", "SELECT data FROM ", "SELECT COUNT(*) AS count FROM ", "COUNT(*)", "SUM(", "AVG(",
    "MIN(", "MAX(", "UPDATE ", "DELETE FROM ", "INSERT INTO ", "CREATE TABLE IF NOT EXISTS ",
    "DROP TABLE IF EXISTS ", "CREATE INDEX ", "CREATE UNIQUE INDEX ", "SAVEPOINT ",
    "RELEASE SAVEPOINT ", "ROLLBACK TO SAVEPOINT " ]

/-- Texts that begin with a separator and end with a complete token. -/
def tails : List String :=
  [ " END", " IS NULL", " IS NOT NULL", " ASC", " DESC", " RETURNING id",
    ") IS NOT NULL AS present", " ORDER BY index_name, seq_in_index" ]

/-- Texts that begin with a word and end with a complete token. -/
def phrases : List String :=
  [ "1 = 0", "NULL",
    "SELECT table_name AS name FROM information_schema.tables "
      ++ "WHERE table_schema = DATABASE() AND table_type = 'BASE TABLE'" ]

/-- All fixed texts of a dialect. -/
def fixedTexts (dialect : Dialect) : List String :=
  "" :: (joints ++ leads dialect ++ commonLeads ++ tails ++ phrases)

/-- A number as a statement shows it. -/
inductive IsAmount : String → Prop where
  | limit (count : Int) : IsAmount ("LIMIT " ++ toString count)
  | offset (count : Int) : IsAmount ("OFFSET " ++ toString count)
  | sum {number : Value} {shown : String} (isNumber : number.isNumber = true)
      (worded : number.wording = .ok shown) : IsAmount ("SUM(" ++ shown ++ ")")

/-! ## How texts begin and end -/

/-- The text has no percent sign.  It begins as told, and between two tokens it brings
the lexer to a border. -/
def joins (dialect : Dialect) (test : Char → Bool) (opened : Bool) (text : String) : Bool :=
  !text.toList.contains '%' && text.toList.head?.any test
    && (Lexer.run dialect .between (characters text.toList)).any fun next =>
      Lexer.isBorder dialect opened next.2

theorem percent_notMem_of_joins {dialect : Dialect} {test : Char → Bool} {opened : Bool}
    {text : String} (joined : joins dialect test opened text = true) : '%' ∉ text.toList := by
  simp only [joins, Bool.and_eq_true, Bool.not_eq_true', List.contains_eq_mem,
    decide_eq_false_iff_not] at joined
  exact joined.1.1

theorem joins_joint (dialect : Dialect) :
    ∀ text ∈ joints, joins dialect isSeparator true text = true := by
  rw [← List.all_eq_true]
  simp only [joints, List.all_cons, List.all_nil, joins, String.reduceToList]
  cases dialect <;> decide +kernel

theorem joins_commonLead (dialect : Dialect) :
    ∀ text ∈ commonLeads, joins dialect isNamePart true text = true := by
  rw [← List.all_eq_true]
  simp only [commonLeads, List.all_cons, List.all_nil, joins, String.reduceToList]
  cases dialect <;> decide +kernel

theorem joins_lead (dialect : Dialect) :
    ∀ text ∈ leads dialect ++ commonLeads, joins dialect isNamePart true text = true := by
  refine List.forall_mem_append.mpr ⟨?_, joins_commonLead dialect⟩
  rw [← List.all_eq_true]
  cases dialect <;>
    simp only [leads, List.all_cons, List.all_nil, joins, String.toList_append,
      String.reduceToList] <;>
    decide +kernel

theorem joins_tail (dialect : Dialect) :
    ∀ text ∈ tails, joins dialect isSeparator false text = true := by
  rw [← List.all_eq_true]
  simp only [tails, List.all_cons, List.all_nil, joins, String.reduceToList]
  cases dialect <;> decide +kernel

theorem joins_phrase (dialect : Dialect) :
    ∀ text ∈ phrases, joins dialect isNamePart false text = true := by
  rw [← List.all_eq_true]
  simp only [phrases, List.all_cons, List.all_nil, joins, String.toList_append,
    String.reduceToList]
  cases dialect <;> decide +kernel

/-- A numeral after an opening brings the lexer between two tokens or into a word. -/
theorem run_opened_numeral (dialect : Dialect) {opening shown : String}
    (opens : ∃ tokens, Lexer.run dialect .between (characters opening.toList) =
      some (tokens, .between))
    (numeral : IsNumeral shown.toList) :
    ∃ next, Lexer.run dialect .between (characters (opening ++ shown).toList) = some next ∧
      Lexer.isLoose next.2 = true := by
  have loose : Lexer.isLoose .between = true := rfl
  obtain ⟨tokens, opened⟩ := opens
  obtain ⟨next, ran, nextLoose⟩ := Lexer.run_numeral dialect numeral loose
  refine ⟨Lexer.prepend tokens next, ?_, nextLoose⟩
  rw [String.toList_append, characters_append, Lexer.run_append, opened, Option.bind_some, ran,
    Option.map_some]

theorem isBorder_of_isLoose (dialect : Dialect) {pending : Pending}
    (loose : Lexer.isLoose pending = true) : Lexer.isBorder dialect false pending = true := by
  cases pending <;> first | rfl | cases loose

theorem joins_append {dialect : Dialect} {test : Char → Bool} {opened : Bool}
    {opening rest : String} (begins : opening.toList.head?.any test = true)
    (openingPlain : '%' ∉ opening.toList) (restPlain : '%' ∉ rest.toList)
    {next : List Lexeme × Pending}
    (ran : Lexer.run dialect .between (characters (opening ++ rest).toList) = some next)
    (border : Lexer.isBorder dialect opened next.2 = true) :
    joins dialect test opened (opening ++ rest) = true := by
  have first : (opening ++ rest).toList.head?.any test = true := by
    rw [String.toList_append]
    cases read : opening.toList with
    | nil => simp [read] at begins
    | cons character others => simpa [read] using begins
  have plain : (opening ++ rest).toList.contains '%' = false := by
    simp [openingPlain, restPlain]
  rw [joins, first, plain, ran]
  simpa using border

theorem percent_notMem_of_isNumeral {shown : List Char} (numeral : IsNumeral shown) :
    '%' ∉ shown :=
  numeral.not_mem (by decide) (by decide)

section Opening

variable {dialect : Dialect} {opening shown : String}
  (begins : opening.toList.head?.any isNamePart = true) (plain : '%' ∉ opening.toList)
  (opens : ∃ tokens, Lexer.run dialect .between (characters opening.toList) =
    some (tokens, .between))
  (numeral : IsNumeral shown.toList)
include begins plain opens numeral

theorem joins_numeral : joins dialect isNamePart false (opening ++ shown) = true := by
  obtain ⟨next, ran, loose⟩ := run_opened_numeral dialect opens numeral
  exact joins_append begins plain (percent_notMem_of_isNumeral numeral) ran
    (isBorder_of_isLoose dialect loose)

/-- The bracket ends the numeral. -/
theorem joins_enclosed_numeral :
    joins dialect isNamePart false (opening ++ (shown ++ ")")) = true := by
  obtain ⟨next, ran, loose⟩ := run_opened_numeral dialect opens numeral
  have complete := isBorder_of_isLoose dialect loose
  obtain ⟨last, finished⟩ := Lexer.finish_of_isComplete complete
  have closed : Lexer.run dialect next.2 (characters ")".toList) =
      some (last ++ [.separator ')'], .between) := by
    refine (Lexer.run_of_begins (.inl ⟨rfl, complete⟩) []).trans ?_
    rw [finished]
    rfl
  have wholeRan : Lexer.run dialect .between (characters (opening ++ (shown ++ ")")).toList) =
      some (Lexer.prepend next.1 (last ++ [.separator ')'], .between)) := by
    rw [← String.append_assoc, String.toList_append, characters_append, Lexer.run_append, ran,
      Option.bind_some, closed, Option.map_some]
  exact joins_append begins plain (by simpa using percent_notMem_of_isNumeral numeral) wholeRan
    rfl

end Opening

/-- A number joins like the phrases. -/
theorem joins_amount (dialect : Dialect) {text : String} (isAmount : IsAmount text) :
    joins dialect isNamePart false text = true := by
  cases isAmount with
  | limit count =>
      exact joins_numeral (by decide) (by decide) (by cases dialect <;> exact ⟨_, rfl⟩)
        (isNumeral_repr count)
  | offset count =>
      exact joins_numeral (by decide) (by decide) (by cases dialect <;> exact ⟨_, rfl⟩)
        (isNumeral_repr count)
  | @sum number shown isNumber worded =>
      rw [String.append_assoc]
      exact joins_enclosed_numeral (by decide) (by decide) (by cases dialect <;> exact ⟨_, rfl⟩)
        (Value.isNumeral_wording isNumber worded)

/-! ## Well-joined fragments -/

/-- The pieces of a fragment do not run together.  It stands where a token may begin
if it is `opened`, and after a complete token otherwise. -/
inductive WellJoined (dialect : Dialect) : Bool → Fragment → Prop where
  | nil {opened : Bool} : WellJoined dialect opened []
  | joint {opened : Bool} {text : String} {fragment : Fragment} (isJoint : text ∈ joints) :
      WellJoined dialect true fragment → WellJoined dialect opened (.raw text :: fragment)
  | lead {text : String} {fragment : Fragment} (isLead : text ∈ leads dialect ++ commonLeads) :
      WellJoined dialect true fragment → WellJoined dialect true (.raw text :: fragment)
  | tail {opened : Bool} {text : String} {fragment : Fragment} (isTail : text ∈ tails) :
      WellJoined dialect false fragment → WellJoined dialect opened (.raw text :: fragment)
  | phrase {text : String} {fragment : Fragment} (isPhrase : text ∈ phrases ∨ IsAmount text) :
      WellJoined dialect false fragment → WellJoined dialect true (.raw text :: fragment)
  | empty {opened : Bool} {fragment : Fragment} :
      WellJoined dialect opened fragment → WellJoined dialect opened (.raw "" :: fragment)
  | literal {content : String} {fragment : Fragment}
      (escaped : WellEscaped dialect '\'' content.toList) :
      WellJoined dialect false fragment → WellJoined dialect true (.literal content :: fragment)
  | identifier {name : String} {fragment : Fragment} :
      WellJoined dialect false fragment → WellJoined dialect true (.identifier name :: fragment)
  | parameter {value : Value} {fragment : Fragment} :
      WellJoined dialect false fragment → WellJoined dialect true (.parameter value :: fragment)
  | document {json : String} {fragment : Fragment} :
      WellJoined dialect false fragment → WellJoined dialect true (.document json :: fragment)

namespace WellJoined

variable {dialect : Dialect} {opened : Bool} {fragment left right : Fragment}

/-- What may follow a complete token may stand anywhere. -/
theorem anywhere (joined : WellJoined dialect false fragment) :
    WellJoined dialect opened fragment := by
  generalize before : false = unopened at joined
  induction joined with
  | nil => exact .nil
  | joint isJoint rest => exact .joint isJoint rest
  | tail isTail rest => exact .tail isTail rest
  | empty rest ih => exact .empty (ih before)
  | lead => cases before
  | phrase => cases before
  | literal => cases before
  | identifier => cases before
  | parameter => cases before
  | document => cases before

theorem append (leftJoined : WellJoined dialect opened left)
    (rightJoined : WellJoined dialect false right) :
    WellJoined dialect opened (left ++ right) := by
  induction leftJoined with
  | nil => exact rightJoined.anywhere
  | joint isJoint _ ih => exact .joint isJoint ih
  | lead isLead _ ih => exact .lead isLead ih
  | tail isTail _ ih => exact .tail isTail ih
  | phrase isPhrase _ ih => exact .phrase isPhrase ih
  | empty _ ih => exact .empty ih
  | literal escaped _ ih => exact .literal escaped ih
  | identifier _ ih => exact .identifier ih
  | parameter _ ih => exact .parameter ih
  | document _ ih => exact .document ih

theorem parenthesised (inner : WellJoined dialect true fragment) :
    WellJoined dialect opened (Fragment.parenthesised fragment) :=
  .joint (by simp [joints]) (inner.append (.joint (by simp [joints]) .nil))

theorem joined {separator : String} (isJoint : separator ∈ joints) {fragments : List Fragment}
    (each : ∀ fragment ∈ fragments, WellJoined dialect true fragment) :
    WellJoined dialect true (Fragment.joined separator fragments) := by
  induction fragments with
  | nil => exact .nil
  | cons first rest ih =>
      have firstJoined := each first List.mem_cons_self
      have restJoined := ih fun fragment member => each fragment (List.mem_cons_of_mem _ member)
      cases rest with
      | nil => exact firstJoined
      | cons second rest => exact firstJoined.append (.joint isJoint restJoined)

/-- All text outside of quotes is fixed, but for numbers. -/
theorem raw (wellJoined : WellJoined dialect opened fragment) :
    ∀ text, .raw text ∈ fragment → text ∈ fixedTexts dialect ∨ IsAmount text := by
  have cons {first : String} {rest : Fragment}
      (firstFixed : first ∈ fixedTexts dialect ∨ IsAmount first)
      (restFixed : ∀ text, .raw text ∈ rest → text ∈ fixedTexts dialect ∨ IsAmount text) :
      ∀ text, .raw text ∈ Piece.raw first :: rest →
        text ∈ fixedTexts dialect ∨ IsAmount text := by
    intro text member
    rcases List.mem_cons.mp member with same | later
    · cases same
      exact firstFixed
    · exact restFixed text later
  induction wellJoined with
  | nil => simp
  | joint isJoint _ ih => exact cons (.inl (by simp [fixedTexts, isJoint])) ih
  | lead isLead _ ih =>
      rcases List.mem_append.mp isLead with own | common
      · exact cons (.inl (by simp [fixedTexts, own])) ih
      · exact cons (.inl (by simp [fixedTexts, common])) ih
  | tail isTail _ ih => exact cons (.inl (by simp [fixedTexts, isTail])) ih
  | phrase isPhrase _ ih =>
      exact cons (isPhrase.imp_left fun isPhrase => by simp [fixedTexts, isPhrase]) ih
  | empty _ ih => exact cons (.inl List.mem_cons_self) ih
  | literal _ _ ih => simpa using ih
  | identifier _ ih => simpa using ih
  | parameter _ ih => simpa using ih
  | document _ ih => simpa using ih

end WellJoined

/-! ## Tokens of well-joined fragments -/

/-- The tokens of one piece.  A quoted piece is one token; the others are cut for
themselves. -/
def Piece.lexemes (dialect : Dialect) : Piece → List Lexeme
  | .literal content => [.quoted '\'' (quotedBody '\'' content)]
  | .identifier name =>
      [.quoted dialect.identifierQuote (quotedBody dialect.identifierQuote name)]
  | piece => (lex dialect (piece.marks dialect)).getD []

theorem Piece.lexemes_raw (dialect : Dialect) (text : String) :
    Piece.lexemes dialect (.raw text) = (lex dialect (characters text.toList)).getD [] := rfl

def Fragment.lexemes (dialect : Dialect) (fragment : Fragment) : List Lexeme :=
  fragment.flatMap (Piece.lexemes dialect)

namespace Lexer

variable {dialect : Dialect}

/-- At a border, the lexer cuts the marks into the tokens and is so again. -/
def Cuts (dialect : Dialect) (pending : Pending) (marks : List Mark) (tokens : List Lexeme)
    (test : Pending → Bool) : Prop :=
  ∀ before, finish dialect pending = some before →
    ∃ next last, run dialect pending marks = some next ∧ test next.2 = true ∧
      finish dialect next.2 = some last ∧ next.1 ++ last = before ++ tokens

theorem Cuts.append {pending : Pending} {left right : List Mark}
    {leftTokens rightTokens : List Lexeme} {leftTest rightTest : Pending → Bool}
    (leftCuts : Cuts dialect pending left leftTokens leftTest)
    (rightCuts : ∀ next, leftTest next = true →
      Cuts dialect next right rightTokens rightTest) :
    Cuts dialect pending (left ++ right) (leftTokens ++ rightTokens) rightTest := by
  intro before finished
  obtain ⟨middle, middleLast, leftRan, leftEnds, middleFinished, leftEqual⟩ :=
    leftCuts before finished
  obtain ⟨next, last, rightRan, rightEnds, nextFinished, rightEqual⟩ :=
    rightCuts middle.2 leftEnds middleLast middleFinished
  refine ⟨prepend middle.1 next, last, ?_, rightEnds, nextFinished, ?_⟩
  · rw [run_append, leftRan, Option.bind_some, rightRan, Option.map_some]
  · calc (prepend middle.1 next).1 ++ last
        = middle.1 ++ (next.1 ++ last) := by simp [prepend]
      _ = before ++ (leftTokens ++ rightTokens) := by
        rw [rightEqual, ← List.append_assoc, leftEqual, List.append_assoc]

/-- Marks whose first one begins a token. -/
theorem cuts_of_begins {pending : Pending} {character : Char} {marks : List Mark}
    {test : Pending → Bool} (begins : Begins dialect pending character)
    {next : List Lexeme × Pending} {last : List Lexeme}
    (ran : run dialect .between (.character character :: marks) = some next)
    (ends : test next.2 = true) (finished : finish dialect next.2 = some last) :
    Cuts dialect pending (.character character :: marks) (next.1 ++ last) test := by
  intro before pendingFinished
  refine ⟨prepend before next, last, ?_, ends, finished, by simp [prepend]⟩
  rw [run_of_begins begins, pendingFinished, Option.bind_some, ran, Option.map_some]

/-- A text of the stock, or a number, from a border to a border. -/
theorem cuts_raw {test : Char → Bool} {text : String} {pending : Pending} {after : Bool}
    (joined : joins dialect test after text = true)
    (mayBegin : ∀ character, test character = true → Begins dialect pending character) :
    Cuts dialect pending (characters text.toList) (Piece.lexemes dialect (.raw text))
      (isBorder dialect after) := by
  simp only [joins, Bool.and_eq_true] at joined
  obtain ⟨⟨-, begins⟩, ends⟩ := joined
  rw [Piece.lexemes_raw, lex]
  cases read : text.toList with
  | nil => simp [read] at begins
  | cons character rest =>
      simp only [read, List.head?_cons, Option.any_some] at begins ends
      cases ran : run dialect .between (characters (character :: rest)) with
      | none => simp [ran] at ends
      | some next =>
          simp only [ran, Option.any_some] at ends
          obtain ⟨last, finished⟩ := finish_of_isComplete (isComplete_of_isBorder ends)
          have cuts := cuts_of_begins (mayBegin character begins) ran ends finished
          rw [Option.bind_some, finished, Option.map_some, Option.getD_some]
          exact cuts

/-- A separator may stand at every border. -/
theorem begins_separator {opened : Bool} {pending : Pending}
    (border : isBorder dialect opened pending = true) (character : Char)
    (separator : isSeparator character = true) : Begins dialect pending character :=
  .inl ⟨separator, isComplete_of_isBorder border⟩

/-- A word may stand where a token may begin. -/
theorem begins_name {pending : Pending} (border : isBorder dialect true pending = true)
    (character : Char) (isName : isNamePart character = true) :
    Begins dialect pending character :=
  .inr ⟨by simp [isSignPart, isName], border⟩

theorem cuts_quotedText {quote : Char} (isQuote : isQuote dialect quote = true)
    {content : String} (escaped : WellEscaped dialect quote content.toList) {pending : Pending}
    (border : isOpen dialect pending = true) :
    Cuts dialect pending (characters (quotedText quote content))
      [.quoted quote (quotedBody quote content)] (isBorder dialect false) := by
  have noSeparator : isSeparator quote = false := by
    cases separator : isSeparator quote with
    | false => rfl
    | true => simp [(isQuote_of_isSeparator dialect separator).1] at isQuote
  have begins : Begins dialect pending quote := .inr ⟨by simp [isSignPart, isQuote], border⟩
  exact cuts_of_begins begins (run_quotedText isQuote escaped)
    (by simp [isBorder, isComplete, noSeparator]) rfl

theorem cuts_bound (value : Value) (pending : Pending) :
    Cuts dialect pending [.bound value] [.bound value] fun next => next matches .between := by
  intro before finished
  exact ⟨(before ++ [.bound value], .between), [], by simp [run, step, finished, prepend], rfl,
    rfl, by simp⟩

theorem cuts_document (json : String) {pending : Pending}
    (border : isOpen dialect pending = true) :
    Cuts dialect pending (Piece.marks dialect (.document json))
      (Piece.lexemes dialect (.document json)) (isBorder dialect false) := by
  cases dialect with
  | postgres =>
      refine (cuts_bound (.text json) pending).append fun next between => ?_
      cases next <;> simp at between
      exact fun before finished => by
        cases finished
        exact ⟨_, _, rfl, rfl, rfl, rfl⟩
  | mysql =>
      exact cuts_of_begins (.inr ⟨rfl, border⟩) rfl rfl rfl

/-- A lexer at a border cuts a well-joined fragment into the tokens of its pieces. -/
theorem cuts_of_wellJoined {opened : Bool} {fragment : Fragment}
    (wellJoined : WellJoined dialect opened fragment) {pending : Pending}
    (border : isBorder dialect opened pending = true) :
    Cuts dialect pending (fragment.marks dialect) (fragment.lexemes dialect)
      (isBorder dialect false) := by
  have cons {piece : Piece} {rest : Fragment} {after : Bool} {pending : Pending}
      (first : Cuts dialect pending (piece.marks dialect) (piece.lexemes dialect)
        (isBorder dialect after))
      (others : ∀ {next}, isBorder dialect after next = true →
        Cuts dialect next (rest.marks dialect) (rest.lexemes dialect)
          (isBorder dialect false)) :
      Cuts dialect pending (Fragment.marks dialect (piece :: rest))
        (Fragment.lexemes dialect (piece :: rest)) (isBorder dialect false) := by
    rw [Fragment.marks_cons]
    exact first.append fun next => others
  induction wellJoined generalizing pending with
  | nil =>
      intro before finished
      refine ⟨([], pending), before, rfl, isComplete_of_isBorder border, finished, ?_⟩
      simp [Fragment.lexemes]
  | joint isJoint _ ih =>
      exact cons (cuts_raw (joins_joint dialect _ isJoint) (begins_separator border)) ih
  | lead isLead _ ih =>
      exact cons (cuts_raw (joins_lead dialect _ isLead) (begins_name border)) ih
  | tail isTail _ ih =>
      exact cons (cuts_raw (joins_tail dialect _ isTail) (begins_separator border)) ih
  | phrase isPhrase _ ih =>
      have joined := isPhrase.elim (joins_phrase dialect _) (joins_amount dialect)
      exact cons (cuts_raw joined (begins_name border)) ih
  | empty _ ih => exact ih border
  | literal escaped _ ih => exact cons (cuts_quotedText rfl escaped border) ih
  | identifier _ ih =>
      have escaped (name : String) :
          WellEscaped dialect dialect.identifierQuote name.toList :=
        .of_noEscapes (by cases dialect <;> rfl) _
      exact cons (cuts_quotedText (by cases dialect <;> rfl) (escaped _) border) ih
  | @parameter value rest _ ih =>
      rw [Fragment.marks_cons]
      refine (cuts_bound value pending).append fun next between => ih ?_
      cases next <;> first | rfl | cases between
  | document _ ih => exact cons (cuts_document _ border) ih

end Lexer

/-- The tokens of a well-joined fragment are those of its pieces, one after the other. -/
theorem WellJoined.lex_eq {dialect : Dialect} {fragment : Fragment}
    (wellJoined : WellJoined dialect true fragment) :
    lex dialect (fragment.marks dialect) = some (fragment.lexemes dialect) := by
  have between : Lexer.isBorder dialect true .between = true := rfl
  obtain ⟨next, last, ran, _, finished, equal⟩ :=
    Lexer.cuts_of_wellJoined wellJoined between [] rfl
  rw [lex, ran, Option.bind_some, finished, Option.map_some, equal]
  rfl

theorem WellJoined.percentFree {dialect : Dialect} {opened : Bool} {fragment : Fragment}
    (wellJoined : WellJoined dialect opened fragment) : fragment.PercentFree := by
  have cons {test : Char → Bool} {after : Bool} {text : String} {rest : Fragment}
      (joined : joins dialect test after text = true) (restFree : rest.PercentFree) :
      Fragment.PercentFree (.raw text :: rest) :=
    (Fragment.percentFree_raw _ _).mpr ⟨percent_notMem_of_joins joined, restFree⟩
  induction wellJoined with
  | nil => simp
  | joint isJoint _ ih => exact cons (joins_joint dialect _ isJoint) ih
  | lead isLead _ ih => exact cons (joins_lead dialect _ isLead) ih
  | tail isTail _ ih => exact cons (joins_tail dialect _ isTail) ih
  | phrase isPhrase _ ih =>
      exact cons (isPhrase.elim (joins_phrase dialect _) (joins_amount dialect)) ih
  | empty _ ih => simpa using ih
  | literal _ _ ih => simpa using ih
  | identifier _ ih => simpa using ih
  | parameter _ ih => simpa using ih
  | document _ ih => simpa using ih

end DocStore.Sql
