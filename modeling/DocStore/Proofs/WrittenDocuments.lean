import DocStore.Client.Interface
import DocStore.Proofs.Json.RoundTrip
import DocStore.Proofs.Outcome

/-!
# The documents that statements write

An insertion binds documents only, and a replacement binds its document first.  No
other statement of the client writes documents.  What is stored is what the bound texts
stand for: the documents of the command, if these have text keys.
-/

namespace DocStore

namespace Statement

variable {statement : Statement} {collection : String} {bound : Value}

theorem params_insert (dialect : Dialect) (table : String) (documents : List String) :
    (insert dialect table documents).params = documents.map .text := by
  have each : (documents.map fun json => [Value.text json]).flatten = documents.map .text := by
    induction documents with
    | nil => rfl
    | cons json documents ih => simp [ih]
  cases dialect <;>
    simpa [insert, params, Sql.Fragment.params_cons, Sql.Fragment.params_append,
      Sql.Fragment.params_joined, Sql.Piece.bound?, Function.comp_def] using each

end Statement

/-! ## What bound texts stand for -/

/-- The document that a bound text stands for. -/
def Document.ofBound (bound : Value) : Except Fault Members := do
  let document ← Document.decode bound
  document.asObject

theorem Document.ofBound_of_encode {document : Members} (keyed : document.TextKeyed)
    {text : String} (encoded : Document.encode (.object document) = .ok text) :
    Document.ofBound (.text text) = .ok document := by
  have decoded : Document.decode (.text text) = .ok (.object document) :=
    Json.decode_of_encode (Value.hasTextKeys_object.mpr keyed) encoded
  rw [ofBound, decoded]
  rfl

theorem Document.mapM_ofBound_of_encode {documents : List Members} {texts : List String}
    (keyed : ∀ document ∈ documents, document.TextKeyed)
    (encoded : (documents.map .object).mapM Document.encode = .ok texts) :
    (texts.map .text).mapM Document.ofBound = .ok documents := by
  rw [Except.mapM_eq_ok, List.forall₂_map_left_iff] at encoded ⊢
  induction encoded with
  | nil => exact .nil
  | cons first _ ih =>
      obtain ⟨firstKeyed, othersKeyed⟩ := List.forall_mem_cons.mp keyed
      exact .cons (Document.ofBound_of_encode firstKeyed first) (ih othersKeyed)

namespace Statement

/-- The documents that an insertion stores. -/
def insertedDocuments (statement : Statement) : Except Fault (List Members) :=
  statement.params.mapM Document.ofBound

/-- The document that a replacement stores. -/
def replacement (statement : Statement) : Except Fault Members :=
  match statement.params with
  | [] => .error .missingEntry
  | bound :: _ => Document.ofBound bound

end Statement

namespace Query

theorem assemble_body (dialect : Dialect) {line : Sql.Fragment} (lines : List Sql.Fragment)
    (nonempty : line ≠ []) :
    ∃ rest, (assemble dialect (line :: lines)).body = line ++ rest := by
  have kept : (line :: lines).filter (fun line => !line.isEmpty) =
      line :: lines.filter fun line => !line.isEmpty := by
    simp [nonempty]
  simp only [assemble, kept]
  cases lines.filter fun line => !line.isEmpty with
  | nil => exact ⟨[], (List.append_nil line).symm⟩
  | cons second others => exact ⟨_, rfl⟩

end Query

namespace Command

/-- The documents that a command writes into a collection. -/
def Stores : Command → String → Members → Prop
  | insert table documents, collection, document => table = collection ∧ document ∈ documents
  | update table _ replacement, collection, document =>
      table = collection ∧ document = replacement
  | _, _, _ => False

/-- The documents that a command writes have text keys. -/
def StoresKeyed (command : Command) : Prop :=
  ∀ collection document, command.Stores collection document → document.TextKeyed

variable {settings : CompileSettings} {statement : Statement} {entries log : List LogEntry}
  {table collection : String} {bound : Value}

/-- An insertion stores its documents. -/
theorem insertedDocuments_of_insert {documents : List Members}
    (keyed : ∀ document ∈ documents, document.TextKeyed)
    (returned : ((insert table documents).compile settings).Returns entries statement log) :
    statement.insertedDocuments = .ok documents := by
  obtain ⟨texts, _, encoded, rest⟩ := Logged.returns_bind.mp returned
  obtain ⟨rfl, _⟩ := Logged.returns_pure.mp rest
  obtain ⟨traversed, _⟩ := Logged.returns_ofFault.mp encoded
  rw [Statement.insertedDocuments, Statement.params_insert]
  exact Document.mapM_ofBound_of_encode keyed traversed

/-- A replacement binds the text of its document first. -/
theorem body_of_update {id : Value} {document : Members}
    (returned : ((update table id document).compile settings).Returns entries statement log) :
    ∃ text rest, Document.encode (.object document) = .ok text ∧
      statement.body = .raw "UPDATE " :: .identifier table ::
        .raw (" SET " ++ Dialect.documentColumn ++ " = ") :: .document text :: rest := by
  obtain ⟨text, _, encoded, rest⟩ := Logged.returns_bind.mp returned
  obtain ⟨encodes, _⟩ := Logged.returns_ofFault.mp encoded
  obtain ⟨condition, _, _, rest⟩ := Logged.returns_bind.mp rest
  obtain ⟨rfl, _⟩ := Logged.returns_pure.mp rest
  obtain ⟨rest, body⟩ := Query.assemble_body settings.dialect [condition]
    (List.cons_ne_nil (.raw "UPDATE ") [.identifier table,
      .raw (" SET " ++ Dialect.documentColumn ++ " = "), .document text])
  exact ⟨text, rest, encodes, body⟩

/-- A replacement stores what the text of its document stands for. -/
theorem exists_replacement_of_update {id : Value} {document : Members}
    (returned : ((update table id document).compile settings).Returns entries statement log) :
    ∃ text, Document.encode (.object document) = .ok text ∧
      statement.replacement = Document.ofBound (.text text) := by
  obtain ⟨text, rest, encodes, body⟩ := body_of_update returned
  refine ⟨text, encodes, ?_⟩
  simp [Statement.replacement, Statement.params, body, Sql.Fragment.params_cons,
    Sql.Piece.bound?]

theorem replacement_of_update {id : Value} {document : Members} (keyed : document.TextKeyed)
    (returned : ((update table id document).compile settings).Returns entries statement log) :
    statement.replacement = .ok document := by
  obtain ⟨text, encoded, replacement⟩ := exists_replacement_of_update returned
  rw [replacement, Document.ofBound_of_encode keyed encoded]

end Command

end DocStore
