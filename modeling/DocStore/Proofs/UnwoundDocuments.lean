import Mathlib.Data.List.Forall2
import DocStore.Pipeline.Plan
import DocStore.Proofs.PathReaders

/-!
# Unwound documents

Unwinding several fields yields one document for each way to choose an element at every
field.  The choices are taken field by field: the elements of a list in their order, and for a
field without a list the one choice to leave the document as it is.  The fields are distinct,
so a choice at one of them does not change what there is to choose at the next, and the
documents come in the lexicographic order of their choices.

Every stage treats the documents one by one, so the documents of two lists are the documents
of their concatenation.
-/

namespace DocStore

/-! ## Tuples -/

section Tuples

variable {α : Type}

/-- The tuples with one element of each list, in lexicographic order: the element of the first
list varies slowest. -/
def tuples : List (List α) → List (List α)
  | [] => [[]]
  | items :: lists => items.flatMap fun item => (tuples lists).map (item :: ·)

theorem mem_tuples {lists : List (List α)} {tuple : List α} :
    tuple ∈ tuples lists ↔ List.Forall₂ (· ∈ ·) tuple lists := by
  induction lists generalizing tuple with
  | nil => simp [tuples]
  | cons items lists ih => cases tuple <;> simp [tuples, ih, and_comm]

theorem length_tuples (lists : List (List α)) :
    (tuples lists).length = (lists.map List.length).prod := by
  induction lists with
  | nil => rfl
  | cons items lists ih => simp [tuples, ih]

/-- The tuples of ordered lists are in lexicographic order. -/
theorem pairwise_tuples {before : α → α → Prop} {lists : List (List α)}
    (ordered : ∀ items ∈ lists, items.Pairwise before) :
    (tuples lists).Pairwise (List.Lex before) := by
  induction lists with
  | nil => exact List.pairwise_singleton _ _
  | cons items lists ih =>
      obtain ⟨first, others⟩ := List.forall_mem_cons.mp ordered
      refine List.pairwise_flatMap.mpr ⟨fun item _ => ?_, ?_⟩
      · exact List.pairwise_map.mpr ((ih others).imp .cons)
      · refine first.imp fun {left right} isBefore front isFront back isBack => ?_
        obtain ⟨_, _, rfl⟩ := List.mem_map.mp isFront
        obtain ⟨_, _, rfl⟩ := List.mem_map.mp isBack
        exact .rel isBefore

end Tuples

namespace Members

/-! ## Choices -/

/-- What there is to choose at a field when a document is unwound: the elements of a list, or
nothing. -/
def choices (document : Members) (field : String) : List (Option Value) :=
  match document.get? field with
  | some (.list items) => items.map some
  | _ => [none]

/-- The document with a chosen value at a field; without one it stays as it is. -/
def choose (document : Members) (field : String) : Option Value → Members
  | some item => document.set field item
  | none => document

/-- The document with a chosen value at each of some fields. -/
def chooseAll (document : Members) (fields : List String) (tuple : List (Option Value)) :
    Members :=
  (fields.zip tuple).foldl (fun document choice => document.choose choice.1 choice.2) document

/-- One document for each tuple of choices at some fields. -/
def unwindings (fields : List String) (document : Members) : List Members :=
  (tuples (fields.map document.choices)).map (document.chooseAll fields)

variable {document : Members} {field other : String} {fields : List String}

theorem get?_choose (document : Members) (field other : String) (choice : Option Value) :
    (document.choose field choice).get? other =
      if other = field then choice.or (document.get? field) else document.get? other := by
  cases choice with
  | none =>
      change document.get? other = _
      split
      · rename_i same
        rw [same]
        rfl
      · rfl
  | some item => exact get?_set field other item document

theorem get?_choose_of_ne (different : other ≠ field) (choice : Option Value) :
    (document.choose field choice).get? other = document.get? other := by
  rw [get?_choose, if_neg different]

/-- A choice at one field leaves the choices at the others. -/
theorem choices_choose (different : other ≠ field) (choice : Option Value) :
    (document.choose field choice).choices other = document.choices other := by
  rw [choices, get?_choose_of_ne different, choices]

theorem map_choices_choose (isNew : field ∉ fields) (choice : Option Value) :
    fields.map (document.choose field choice).choices = fields.map document.choices :=
  List.map_congr_left fun _ member => choices_choose (ne_of_mem_of_not_mem member isNew) choice

/-- The first field is unwound before the others. -/
theorem unwindings_cons (isNew : field ∉ fields) (document : Members) :
    unwindings (field :: fields) document =
      (document.choices field).flatMap fun choice =>
        unwindings fields (document.choose field choice) := by
  simp only [unwindings, List.map_cons, tuples, List.map_flatMap, List.map_map,
    map_choices_choose isNew]
  rfl

/-! ## Documents that differ at some fields -/

/-- The documents have the same keys in the same order, and the same values at all keys but
some fields. -/
def SameBut (fields : List String) (source target : Members) : Prop :=
  List.Forall₂ (fun old new : Key × Value =>
    new.1 = old.1 ∧ (old.1 ∉ fields.map Key.text → new.2 = old.2)) source target

theorem SameBut.refl (fields : List String) (document : Members) :
    SameBut fields document document :=
  List.forall₂_same.mpr fun _ _ => ⟨rfl, fun _ => rfl⟩

theorem SameBut.trans {first second third : Members} (former : SameBut fields first second)
    (latter : SameBut fields second third) : SameBut fields first third := by
  induction former generalizing third with
  | nil => exact latter
  | cons changed _ ih =>
      cases latter with
      | cons changedAgain others =>
          refine .cons ⟨changedAgain.1.trans changed.1, fun other => ?_⟩ (ih others)
          rw [changedAgain.2 (changed.1 ▸ other), changed.2 other]

theorem SameBut.mono {wider : List String} {source target : Members}
    (same : SameBut fields source target) (within : fields ⊆ wider) :
    SameBut wider source target :=
  List.Forall₂.imp (fun _ _ changed => ⟨changed.1, fun other =>
    changed.2 fun named => other (List.map_subset _ within named)⟩) same

/-- A field that a document has is set where it stands. -/
theorem sameBut_set (item : Value) (present : document.contains field = true) :
    SameBut [field] document (document.set field item) := by
  induction document with
  | nil => cases present
  | cons member members ih =>
      obtain ⟨key, value⟩ := member
      rw [set, Key.same_text]
      split
      · rename_i isField
        have named : key = .text field := of_decide_eq_true isField
        exact .cons ⟨rfl, fun other => absurd (by simp [named]) other⟩ (SameBut.refl _ _)
      · rename_i isOther
        refine .cons ⟨rfl, fun _ => rfl⟩ (ih ?_)
        rwa [contains, get?, Key.same_text, if_neg isOther] at present

/-- Only fields with a list have a value to choose. -/
theorem sameBut_choose {choice : Option Value} (isChoice : choice ∈ document.choices field) :
    SameBut [field] document (document.choose field choice) := by
  cases choice with
  | none => exact SameBut.refl _ _
  | some item =>
      refine sameBut_set item ?_
      unfold choices at isChoice
      unfold contains
      cases found : document.get? field with
      | none => simp [found] at isChoice
      | some value => rfl

theorem get?_chooseAll_of_notMem (isOther : other ∉ fields) (document : Members)
    (tuple : List (Option Value)) :
    (document.chooseAll fields tuple).get? other = document.get? other := by
  induction fields generalizing document tuple with
  | nil => rfl
  | cons field fields ih =>
      obtain ⟨different, others⟩ := not_or.mp (List.mem_cons.not.mp isOther)
      cases tuple with
      | nil => rfl
      | cons choice tuple =>
          change ((document.choose field choice).chooseAll fields tuple).get? other = _
          rw [ih others, get?_choose_of_ne different]

/-- The document of a tuple has the chosen value at each of the fields. -/
theorem get?_chooseAll (distinct : fields.Nodup) (document : Members)
    (tuple : List (Option Value)) :
    ∀ entry ∈ fields.zip tuple,
      (document.chooseAll fields tuple).get? entry.1 = entry.2.or (document.get? entry.1) := by
  induction fields generalizing document tuple with
  | nil => simp
  | cons field fields ih =>
      obtain ⟨isNew, others⟩ := List.nodup_cons.mp distinct
      cases tuple with
      | nil => simp
      | cons choice tuple =>
          change ∀ entry ∈ (field, choice) :: fields.zip tuple,
            ((document.choose field choice).chooseAll fields tuple).get? entry.1 = _
          refine List.forall_mem_cons.mpr ⟨?_, fun entry later => ?_⟩
          · rw [get?_chooseAll_of_notMem isNew, get?_choose, if_pos rfl]
          · have different : entry.1 ≠ field :=
              ne_of_mem_of_not_mem (List.of_mem_zip later).1 isNew
            rw [ih others _ _ entry later, get?_choose_of_ne different]

/-- The document of a tuple has the values of its source at all other fields. -/
theorem sameBut_chooseAll (distinct : fields.Nodup) {tuple : List (Option Value)}
    (areChoices : List.Forall₂ (· ∈ ·) tuple (fields.map document.choices)) :
    SameBut fields document (document.chooseAll fields tuple) := by
  induction fields generalizing document tuple with
  | nil => exact SameBut.refl _ _
  | cons field fields ih =>
      obtain ⟨isNew, others⟩ := List.nodup_cons.mp distinct
      cases areChoices with
      | @cons choice _ tuple _ isChoice laterChoices =>
          have unchanged : fields.map (document.choose field choice).choices =
              fields.map document.choices := map_choices_choose isNew choice
          have first := sameBut_choose isChoice
          have later := ih others (unchanged ▸ laterChoices)
          exact (first.mono (by simp)).trans (later.mono (List.subset_cons_self _ _))

end Members

/-! ## Stages -/

namespace PipelinePlan

/-- A stage unwinds a field. -/
def Unwinds (stage : PostStage) (field : String) : Prop :=
  ∃ specification, stage = .unwind specification ∧
    Document.unwindField specification = .ok field

theorem unwindOne_eq (field : String) (document : Members) :
    Document.unwindOne field (.object document) =
      .ok (((document.choices field).map (document.choose field)).map .object) := by
  rw [Document.unwindOne_object, Members.choices]
  cases document.get? field with
  | none => rfl
  | some value =>
      cases value with
      | list items =>
          rw [List.map_map, List.map_map]
          rfl
      | _ => rfl

theorem applyStage_unwind {stage : PostStage} {field : String} (unwinds : Unwinds stage field)
    (documents : List Members) :
    applyStage (documents.map .object) stage =
      .ok ((documents.flatMap fun document =>
        (document.choices field).map (document.choose field)).map .object) := by
  obtain ⟨specification, rfl, names⟩ := unwinds
  have traversed : (documents.map Value.object).mapM (Document.unwindOne field) =
      .ok (documents.map fun document =>
        ((document.choices field).map (document.choose field)).map .object) := by
    rw [Except.mapM_eq_ok, List.forall₂_map_left_iff, List.forall₂_map_right_iff]
    exact List.forall₂_same.mpr fun document _ => unwindOne_eq field document
  rw [applyStage, Document.unwind, names]
  change (do
    let unwound ← (documents.map Value.object).mapM (Document.unwindOne field)
    pure unwound.flatten : Except Fault (List Value)) = _
  rw [traversed]
  change Except.ok (List.flatten _) = _
  rw [List.map_flatMap, List.flatMap_def]

/-- Stages that unwind distinct fields yield the documents of all choices. -/
theorem foldlM_unwind {stages : List PostStage} {fields : List String}
    (unwinds : List.Forall₂ Unwinds stages fields) (distinct : fields.Nodup)
    (documents : List Members) :
    stages.foldlM applyStage (documents.map .object) =
      .ok ((documents.flatMap (Members.unwindings fields)).map .object) := by
  induction unwinds generalizing documents with
  | nil =>
      have unchanged : documents.flatMap (Members.unwindings []) = documents :=
        List.flatMap_singleton' documents
      rw [unchanged]
      rfl
  | @cons stage field stages fields first _ ih =>
      obtain ⟨isNew, others⟩ := List.nodup_cons.mp distinct
      rw [List.foldlM_cons, applyStage_unwind first]
      refine (ih others _).trans ?_
      rw [List.flatMap_assoc]
      simp only [List.flatMap_map, ← Members.unwindings_cons isNew]

/-! ## Concatenations -/

theorem mapM_append_eq_ok {α β : Type} {step : α → Except Fault β} {former latter : List α}
    {results : List β} :
    (former ++ latter).mapM step = .ok results ↔
      ∃ front back, former.mapM step = .ok front ∧ latter.mapM step = .ok back ∧
        results = front ++ back := by
  rw [List.mapM_append]
  simp only [Except.bind_eq_ok, Except.pure_eq_ok]
  grind

/-- A stage treats the documents one by one. -/
theorem applyStage_append {stage : PostStage} {former latter results : List Value} :
    applyStage (former ++ latter) stage = .ok results ↔
      ∃ front back, applyStage former stage = .ok front ∧ applyStage latter stage = .ok back ∧
        results = front ++ back := by
  cases stage with
  | project specification => exact mapM_append_eq_ok
  | unwind specification =>
      simp only [applyStage, Document.unwind, Except.bind_eq_ok, mapM_append_eq_ok,
        Except.pure_eq_ok]
      constructor
      · rintro ⟨field, names, _, ⟨front, back, isFront, isBack, rfl⟩, rfl⟩
        exact ⟨_, _, ⟨field, names, front, isFront, rfl⟩, ⟨field, names, back, isBack, rfl⟩,
          List.flatten_append⟩
      · rintro ⟨_, _, ⟨field, names, front, isFront, rfl⟩, ⟨other, alsoNames, back, isBack, rfl⟩,
          rfl⟩
        obtain rfl : field = other := Except.ok.inj (names.symm.trans alsoNames)
        exact ⟨field, names, _, ⟨front, back, isFront, isBack, rfl⟩, List.flatten_append⟩

theorem foldlM_append {stages : List PostStage} {former latter results : List Value} :
    stages.foldlM applyStage (former ++ latter) = .ok results ↔
      ∃ front back, stages.foldlM applyStage former = .ok front ∧
        stages.foldlM applyStage latter = .ok back ∧ results = front ++ back := by
  induction stages generalizing former latter with
  | nil =>
      simp only [List.foldlM_nil, Except.pure_eq_ok]
      grind
  | cons stage stages ih =>
      simp only [List.foldlM_cons, Except.bind_eq_ok, applyStage_append]
      constructor
      · rintro ⟨_, ⟨front, back, isFront, isBack, rfl⟩, rest⟩
        obtain ⟨left, right, isLeft, isRight, rfl⟩ := ih.mp rest
        exact ⟨left, right, ⟨front, isFront, isLeft⟩, ⟨back, isBack, isRight⟩, rfl⟩
      · rintro ⟨left, right, ⟨front, isFront, isLeft⟩, ⟨back, isBack, isRight⟩, rfl⟩
        exact ⟨_, ⟨front, back, isFront, isBack, rfl⟩, ih.mpr ⟨left, right, isLeft, isRight, rfl⟩⟩

/-! ## Unwinding -/

/-- Unwinding loses and duplicates nothing.  Stages that unwind distinct fields yield, document
by document, one document for each tuple of choices at the fields, in the lexicographic order of
the tuples.  It has the chosen values at the fields, or the old one where there was no list, and
the values of its source at all others.  Whatever the stages, two lists of documents come to
results exactly if their concatenation does, and to the parts of its results. -/
theorem applyPost_unwinds {plan : PipelinePlan} {fields : List String}
    (unwinds : List.Forall₂ Unwinds plan.post fields) (distinct : fields.Nodup) :
    (∀ documents : List Members, plan.applyPost (documents.map .object) =
      .ok ((documents.flatMap (Members.unwindings fields)).map .object)) ∧
    (∀ document : Members, (document.unwindings fields).length =
      (fields.map fun field => (document.choices field).length).prod) ∧
    (∀ document : Members, ∀ tuple ∈ tuples (fields.map document.choices),
      document.SameBut fields (document.chooseAll fields tuple) ∧
      ∀ entry ∈ fields.zip tuple,
        (document.chooseAll fields tuple).get? entry.1 =
          entry.2.or (document.get? entry.1)) ∧
    ∀ (anyPlan : PipelinePlan) (former latter results : List Value),
      anyPlan.applyPost (former ++ latter) = .ok results ↔
        ∃ front back, anyPlan.applyPost former = .ok front ∧
          anyPlan.applyPost latter = .ok back ∧ results = front ++ back := by
  refine ⟨foldlM_unwind unwinds distinct, fun document => ?_, fun document tuple isTuple => ?_,
    fun _ _ _ _ => foldlM_append⟩
  · rw [Members.unwindings, List.length_map, length_tuples, List.map_map]
    rfl
  · exact ⟨Members.sameBut_chooseAll distinct (mem_tuples.mp isTuple),
      Members.get?_chooseAll distinct document tuple⟩

/-- Two lists yield the four pairs of their elements, beside a field that holds none; an empty
list yields no document. -/
theorem applyPost_unwinds_threeFields :
    let plan : PipelinePlan :=
      { statement := ⟨.postgres, []⟩, grouped := false
        post := [.unwind (.text "$a"), .unwind (.object [("path", .text "$b")]),
          .unwind (.text "c")] }
    let document (a b : Value) : Value :=
      .object [("id", .int 7), ("b", b), ("a", a), ("c", .text "x")]
    plan.applyPost
        [ document (.list [.int 1, .int 2]) (.list [.text "u", .text "v"]),
          document (.list [.int 3]) (.list []) ] =
      .ok [ document (.int 1) (.text "u"), document (.int 1) (.text "v"),
        document (.int 2) (.text "u"), document (.int 2) (.text "v") ] := by
  intro plan document
  have unwinds : List.Forall₂ Unwinds plan.post ["a", "b", "c"] :=
    .cons ⟨_, rfl, by decide +kernel⟩
      (.cons ⟨_, rfl, by decide +kernel⟩ (.cons ⟨_, rfl, by decide +kernel⟩ .nil))
  exact (applyPost_unwinds unwinds (by decide)).1
    [ [("id", .int 7), ("b", .list [.text "u", .text "v"]), ("a", .list [.int 1, .int 2]),
        ("c", .text "x")],
      [("id", .int 7), ("b", .list []), ("a", .list [.int 3]), ("c", .text "x")] ]

end PipelinePlan

end DocStore
