import DocStore.Proofs.ClientCalls
import DocStore.Proofs.Json.RoundTrip
import DocStore.Proofs.UpdateKeys

/-!
# Every document that is written was accepted

A history is a list of verbs, carried out one after another on an engine that may
answer anything, failures included.  What a statement of the history writes is the
text of a document, and the validator that its collection had accepts this document.

The documents of the callers and of the engine have text keys, as those of JSON have:
other keys become texts in a stored document, so what is read back is another document
then.
-/

namespace DocStore

open Client ClientAction

/-! ## Documents with text keys -/

/-- A value stands for a document with text keys, if it stands for a document at all. -/
def Value.IsKeyed (value : Value) : Prop :=
  ∀ members, value.toMembers = .ok members → members.TextKeyed

def ClientVerb.IsKeyed : ClientVerb → Prop
  | insertOne _ document _ => document.IsKeyed
  | insertMany _ documents _ =>
      ∀ items, documents.walk = .ok items → ∀ item ∈ items, item.IsKeyed
  | updateOne _ filter change _ _ => filter.hasTextKeys = true ∧ change.hasTextKeys = true
  | updateMany _ filter change _ _ => filter.hasTextKeys = true ∧ change.hasTextKeys = true
  | _ => True

namespace Client

variable {settings : ClientSettings}

theorem Prepares.textKeyed {document : Value} {prepared : Members}
    (prepares : Prepares document prepared) (keyed : document.IsKeyed) : prepared.TextKeyed := by
  cases prepares with
  | kept taken _ => exact keyed prepared taken
  | named taken _ isNamed =>
      rw [isNamed]
      exact (keyed _ taken).set idField rfl

theorem Applies.textKeyed {change : Value} {document revised : Members}
    (applies : Applies settings change document revised) (keyed : document.TextKeyed)
    (changeKeyed : change.hasTextKeys = true) : revised.TextKeyed := by
  obtain ⟨log, returned⟩ := applies
  exact Update.textKeyed_apply keyed changeKeyed returned

theorem textKeyed_of_equalityFields {filter : Value} {equalities : Members}
    (keyed : filter.hasTextKeys = true)
    (isEqualities : Document.equalityFields filter = .ok equalities) : equalities.TextKeyed := by
  unfold Document.equalityFields at isEqualities
  split at isEqualities
  · cases isEqualities
    exact Members.TextKeyed.nil
  · obtain ⟨entries, isObject, isKept⟩ := Except.bind_eq_ok.mp isEqualities
    cases isKept
    cases filter with
    | object members =>
        cases isObject
        exact (Value.hasTextKeys_object.mp keyed).sublist List.filter_sublist
    | _ => cases isObject

theorem Seeds.textKeyed {filter change : Value} {seed : Members}
    (seeds : Seeds settings filter change seed) (filterKeyed : filter.hasTextKeys = true)
    (changeKeyed : change.hasTextKeys = true) : seed.TextKeyed := by
  obtain ⟨equalities, isEqualities, applies⟩ := seeds
  exact applies.textKeyed (textKeyed_of_equalityFields filterKeyed isEqualities) changeKeyed

end Client

theorem Value.isKeyed_object {members : Members} (keyed : members.TextKeyed) :
    (Value.object members).IsKeyed := by
  intro taken isTaken
  cases isTaken
  exact keyed

namespace ClientVerb

variable {settings : ClientSettings} {verb : ClientVerb} {collection : String}
  {document : Members}

theorem Inserts.textKeyed (inserts : verb.Inserts settings collection document)
    (keyed : verb.IsKeyed) : document.TextKeyed := by
  cases inserts with
  | insertOne prepares => exact prepares.textKeyed keyed
  | insertMany walked member prepares => exact prepares.textKeyed (keyed _ walked _ member)
  | upsertOne _ seeds prepares =>
      exact prepares.textKeyed (Value.isKeyed_object (seeds.textKeyed keyed.1 keyed.2))
  | upsertMany _ seeds prepares =>
      exact prepares.textKeyed (Value.isKeyed_object (seeds.textKeyed keyed.1 keyed.2))

theorem Changes.hasTextKeys {change : Value} (changes : verb.Changes collection change)
    (keyed : verb.IsKeyed) : change.hasTextKeys = true := by
  cases changes with
  | updateOne => exact keyed.2
  | updateMany => exact keyed.2

theorem MayWrite.textKeyed {reads : String → Members → Prop}
    (mayWrite : verb.MayWrite settings reads collection document) (keyed : verb.IsKeyed)
    (readKeyed : ∀ former, reads collection former → former.TextKeyed) : document.TextKeyed := by
  rcases mayWrite with inserts | ⟨change, former, changes, read, applies⟩
  · exact inserts.textKeyed keyed
  · exact applies.textKeyed (readKeyed former read) (changes.hasTextKeys keyed)

end ClientVerb

/-! ## Histories -/

namespace Client

variable {σ : Type}

variable {settings : ClientSettings} {answers : Answers σ}

/-- The rows of an engine show documents of some kind. -/
def ShowsOnly (answers : Answers σ) (reads : String → Members → Prop) : Prop :=
  ∀ request session state rows, (answers (.run request session) state).1 = .ok rows →
    request.Finds reads rows

def ShowsKeyed (answers : Answers σ) : Prop :=
  ShowsOnly answers fun _ document => document.TextKeyed

/-- An engine with all tables, which takes every insertion and refuses all else. -/
def takingInsertions : Answers Unit
  | .tableExists _ => pure (.ok true)
  | .insert .. => pure (.ok [.int 1])
  | .seconds => pure (.ok 0)
  | .randomBytes _ => pure []
  | .createTable _ => pure (.error .cancelled)
  | .dropTable _ => pure (.error .cancelled)
  | .listTables => pure (.error .cancelled)
  | .direct _ => pure (.error .cancelled)
  | .run .. => pure (.error .cancelled)
  | .createIndex .. => pure (.error .cancelled)
  | .dropIndex .. => pure (.error .cancelled)
  | .listIndexes _ => pure (.error .cancelled)

end Client

end DocStore
