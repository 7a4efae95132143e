import DocStore.Proofs.Clause.Reader

/-!
# Text that stays in its quotes

Doubling the quote keeps a text in its quotes unless the dialect knows escapes
there: then a backslash takes the next character with it, which must not be one of
two quotes.  The paths of MySQL are the only texts in such quotes.  They hold a
backslash only before another one or before a double quote.
-/

namespace DocStore.Sql

/-- A backslash that escapes stands before a character that is no quote. -/
inductive WellEscaped (dialect : Dialect) (quote : Char) : List Char → Prop where
  | nil : WellEscaped dialect quote []
  | plain {character : Char} {text : List Char}
      (noEscape : character = '\\' → hasEscapes dialect quote = false) :
      WellEscaped dialect quote text → WellEscaped dialect quote (character :: text)
  | escape {character : Char} {text : List Char} (noQuote : character ≠ quote) :
      WellEscaped dialect quote text → WellEscaped dialect quote ('\\' :: character :: text)

namespace WellEscaped

variable {dialect : Dialect} {quote : Char} {text left right : List Char}

theorem append (leftEscaped : WellEscaped dialect quote left)
    (rightEscaped : WellEscaped dialect quote right) :
    WellEscaped dialect quote (left ++ right) := by
  induction leftEscaped with
  | nil => exact rightEscaped
  | plain noEscape _ ih => exact .plain noEscape ih
  | escape noQuote _ ih => exact .escape noQuote ih

theorem of_notMem (plain : '\\' ∉ text) : WellEscaped dialect quote text := by
  induction text with
  | nil => exact .nil
  | cons character text ih =>
      refine .plain (fun equal => ?_) (ih fun member => plain (List.mem_cons_of_mem _ member))
      exact absurd (by simp [equal]) plain

theorem of_noEscapes (noEscapes : hasEscapes dialect quote = false) (text : List Char) :
    WellEscaped dialect quote text := by
  induction text with
  | nil => exact .nil
  | cons character text ih => exact .plain (fun _ => noEscapes) ih

/-- The reader passes over the text in its quotes. -/
theorem quotable (escaped : WellEscaped dialect quote text) (noBackslash : quote ≠ '\\') :
    Quotable dialect quote text := by
  induction escaped with
  | nil => exact quotable_nil
  | plain noEscape _ ih => exact (quotable_character fun equal => .inr (noEscape equal)).append ih
  | @escape character text noQuote _ ih =>
      cases escapes : hasEscapes dialect quote with
      | true => exact (quotable_escape noQuote noBackslash escapes).append ih
      | false =>
          exact ((quotable_character fun _ => .inr escapes).append
            (quotable_character fun _ => .inr escapes)).append ih

end WellEscaped

/-! ## Paths -/

theorem backslash_notMem_of_isSimpleKey {segment : String} (simple : isSimpleKey segment = true) :
    '\\' ∉ segment.toList := by
  intro member
  have inBody : '\\' ∈ nameBody segment.toList := by
    unfold nameBody
    split
    · rename_i ended
      obtain ⟨front, last⟩ := List.getLast?_eq_some_iff.mp ended
      rw [last] at member ⊢
      simpa using member
    · exact member
  unfold isSimpleKey at simple
  split at simple
  · cases simple
  · rename_i first rest body
    rw [body] at inBody
    simp only [Bool.and_eq_true, List.all_eq_true] at simple
    rcases List.mem_cons.mp inBody with rfl | inRest
    · exact absurd simple.1 (by decide)
    · exact absurd (simple.2 _ inRest) (by decide)

/-- In a segment every backslash escapes a backslash or a double quote. -/
theorem wellEscaped_segmentText (dialect : Dialect) (segment : String) :
    WellEscaped dialect '\'' (segmentText segment).toList := by
  unfold segmentText
  split
  · rename_i simple
    exact .of_notMem (backslash_notMem_of_isSimpleKey simple)
  · rw [String.toList_ofList]
    have quotes : WellEscaped dialect '\'' ['"'] := .of_notMem (by decide)
    have body : WellEscaped dialect '\'' (segment.toList.flatMap escapeSegmentCharacter) := by
      induction segment.toList with
      | nil => exact .nil
      | cons character rest ih =>
          rw [List.flatMap_cons, escapeSegmentCharacter]
          split
          · rename_i special
            refine .escape ?_ ih
            rcases special with rfl | rfl <;> decide
          · rename_i plain
            exact .plain (fun equal => absurd (.inl equal) plain) ih
    exact (quotes.append body).append quotes

theorem wellEscaped_intercalate (dialect : Dialect) {separator : String}
    (plain : '\\' ∉ separator.toList) (segments : List String) :
    WellEscaped dialect '\''
      (String.intercalate separator (segments.map segmentText)).toList := by
  induction segments with
  | nil => exact .nil
  | cons segment segments ih =>
      cases segments with
      | nil => simpa using wellEscaped_segmentText dialect segment
      | cons next segments =>
          rw [List.map_cons, String.intercalate_cons_of_ne_nil (by simp)]
          simp only [String.toList_append]
          exact ((wellEscaped_segmentText dialect segment).append (.of_notMem plain)).append ih

theorem wellEscaped_dollarContent (dialect : Dialect) (segments : List String) :
    WellEscaped dialect '\'' (dollarContent segments).toList := by
  unfold dollarContent
  rw [String.toList_append]
  exact .append (.of_notMem (by decide)) (wellEscaped_intercalate dialect (by decide) segments)

end DocStore.Sql
