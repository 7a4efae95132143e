import Mathlib.Data.List.Perm.Basic
import DocStore.Client.Find
import DocStore.Proofs.PathReaders

/-!
# Projections of documents

A projection with a set flag keeps the fields that are flagged, in the order of the flags; one
without drops the fields that are named.  What is kept has the values of the document at all
flagged fields, and what is left after dropping has no named field, so projecting once more
changes nothing.  Two projections of the same fields, the one to keep them and the other to
drop them, share out the members of a document.
-/

namespace DocStore

namespace Members

variable {document flags : Members}

theorem TextKeyed.mem_iff (keyed : document.TextKeyed) {content : String} {value : Value} :
    (.text content, value) ∈ document ↔ document.get? content = some value := by
  refine ⟨keyed.get?_of_mem, fun found => ?_⟩
  induction document with
  | nil => cases found
  | cons member document ih =>
      rw [Members.get?, Key.same_text] at found
      split at found
      · rename_i isHere
        have here : member = (.text content, value) :=
          Prod.ext (of_decide_eq_true isHere) (Option.some.inj found)
        exact here ▸ List.mem_cons_self
      · exact List.mem_cons_of_mem _ (ih (keyed.sublist (List.sublist_cons_self _ _)) found)

/-! ## Kept fields -/

/-- The member of a document that an entry of a projection keeps, if it keeps one. -/
def keptMember? (document : Members) (entry : Key × Value) : Option (Key × Value) :=
  if entry.2.isTruthy then (document.get? entry.1).map (entry.1, ·) else none

/-- The members of a document that are flagged, in the order of the flags. -/
def kept (document flags : Members) : Members := flags.filterMap document.keptMember?

theorem kept_cons (document flags : Members) (entry : Key × Value) :
    document.kept (entry :: flags) =
      (document.keptMember? entry).toList ++ document.kept flags := by
  rw [kept, List.filterMap_cons]
  cases document.keptMember? entry <;> rfl

theorem keys_keptMember?_sublist (document : Members) (entry : Key × Value) :
    (keys (document.keptMember? entry).toList).Sublist [entry.1] := by
  unfold keptMember?
  split
  · cases document.get? entry.1 with
    | none => exact List.nil_sublist _
    | some value => exact List.Sublist.refl _
  · exact List.nil_sublist _

theorem keys_kept_sublist (document flags : Members) :
    (document.kept flags).keys.Sublist flags.keys := by
  induction flags with
  | nil => exact List.Sublist.refl []
  | cons entry flags ih =>
      rw [kept_cons, keys, List.map_append]
      exact (keys_keptMember?_sublist document entry).append ih

/-- If all flags are set, a member is kept if its key is named. -/
theorem mem_kept_iff (keyed : document.TextKeyed) (flagsKeyed : flags.TextKeyed)
    (set : ∀ entry ∈ flags, entry.2.isTruthy = true) {member : Key × Value} :
    member ∈ document.kept flags ↔ member ∈ document ∧ member.1 ∈ flags.keys := by
  obtain ⟨key, value⟩ := member
  simp only [kept, List.mem_filterMap, keptMember?]
  constructor
  · rintro ⟨⟨name, flag⟩, isEntry, isKept⟩
    have named : name ∈ flags.keys := List.mem_map_of_mem isEntry
    obtain ⟨content, rfl⟩ := flagsKeyed.texts name named
    rw [if_pos (set _ isEntry), Option.map_eq_some_iff] at isKept
    obtain ⟨_, found, isMember⟩ := isKept
    cases isMember
    exact ⟨keyed.mem_iff.mpr found, named⟩
  · rintro ⟨isMember, named⟩
    obtain ⟨content, rfl⟩ := flagsKeyed.texts key named
    obtain ⟨⟨_, flag⟩, isEntry, rfl⟩ := List.mem_map.mp named
    refine ⟨_, isEntry, ?_⟩
    rw [if_pos (set _ isEntry), keyed.mem_iff.mp isMember]
    rfl

end Members

namespace Document

open Members (TextKeyed)

variable {document keep drop : Members}

theorem keepFlagged_eq (document : Members) {flags : Members} (keyed : flags.TextKeyed) :
    keepFlagged (.object document) flags = .ok (document.kept flags) := by
  induction flags with
  | nil => rfl
  | cons entry flags ih =>
      obtain ⟨key, flag⟩ := entry
      obtain ⟨content, rfl⟩ := keyed.texts key List.mem_cons_self
      have later := ih (keyed.sublist (List.sublist_cons_self _ _))
      rw [keepFlagged_cons content flag later, Members.kept_cons, Members.keptMember?]
      cases flag.isTruthy with
      | false => rfl
      | true => cases document.get? content <;> rfl

/-- Flagged fields have the values of the document, so they are kept again. -/
theorem kept_kept (document : Members) {flags : Members} (keyed : flags.TextKeyed) :
    (document.kept flags).kept flags = document.kept flags := by
  obtain ⟨kept, keeps, isKept⟩ := keepFlagged_returns document keyed.texts
  obtain rfl : document.kept flags = kept :=
    Except.ok.inj ((keepFlagged_eq document keyed).symm.trans keeps)
  refine List.filterMap_congr fun ⟨key, flag⟩ isEntry => ?_
  obtain ⟨content, rfl⟩ := keyed.texts key (List.mem_map_of_mem isEntry)
  unfold Members.keptMember?
  split
  · rename_i isSet
    rw [(isKept content).1 ⟨flag, isEntry, isSet⟩]
  · rfl

/-! ## Projecting twice -/

/-- A document that is projected once is projected to itself. -/
theorem project_project (document : Members) {projection : Option Members}
    (keyed : ∀ flags ∈ projection, flags.TextKeyed) :
    ∃ projected,
      project (.object document) (.optional .object projection) = .ok projected ∧
      project (.object projected) (.optional .object projection) = .ok projected := by
  match projection with
  | none => exact ⟨document, rfl, rfl⟩
  | some [] => exact ⟨document, rfl, rfl⟩
  | some (entry :: entries) =>
      have named : entry :: entries ≠ [] := List.cons_ne_nil _ _
      have flagsKeyed := keyed _ rfl
      change ∃ projected, project (.object document) (.object _) = _ ∧
        project (.object projected) (.object _) = _
      simp only [project_object named, keepFlagged_eq _ flagsKeyed]
      split
      · exact ⟨_, rfl, congrArg Except.ok (kept_kept document flagsKeyed)⟩
      · refine ⟨_, rfl, congrArg Except.ok (List.filter_eq_self.mpr fun member isLeft => ?_)⟩
        exact (List.mem_filter.mp isLeft).2

/-! ## Opposite projections -/

/-- Projections of the same fields, at least one, of which the former keeps them and the latter
drops them. -/
structure Opposite (keep drop : Members) : Prop where
  keepKeyed : keep.TextKeyed
  dropKeyed : drop.TextKeyed
  named : keep ≠ []
  sameFields : ∀ key, key ∈ keep.keys ↔ key ∈ drop.keys
  set : ∀ entry ∈ keep, entry.2.isTruthy = true
  unset : ∀ entry ∈ drop, entry.2.isTruthy = false

namespace Opposite

variable (opposite : Opposite keep drop)

include opposite

theorem project_keep (document : Members) :
    project (.object document) (.object keep) = .ok (document.kept keep) := by
  obtain ⟨entry, isEntry⟩ := List.exists_mem_of_ne_nil keep opposite.named
  rw [project_of_flagged ⟨entry, isEntry, opposite.set entry isEntry⟩,
    keepFlagged_eq document opposite.keepKeyed]

theorem project_drop (document : Members) :
    project (.object document) (.object drop) =
      .ok (document.filter fun member => !(drop.contains member.1)) := by
  refine project_of_unflagged ?_ opposite.unset
  rintro rfl
  obtain ⟨entry, isEntry⟩ := List.exists_mem_of_ne_nil keep opposite.named
  exact List.not_mem_nil ((opposite.sameFields entry.1).mp (List.mem_map_of_mem isEntry))

theorem contains_drop_iff {key : Key} (isText : ∃ content, key = .text content) :
    drop.contains key = true ↔ key ∈ keep.keys := by
  obtain ⟨content, rfl⟩ := isText
  rw [Members.contains_text_iff, opposite.sameFields]

/-- What is kept is what is not left, in another order. -/
theorem kept_perm (keyed : document.TextKeyed) :
    (document.kept keep).Perm (document.filter fun member => drop.contains member.1) := by
  have keptDistinct : (document.kept keep).Nodup :=
    (opposite.keepKeyed.distinct.sublist (Members.keys_kept_sublist document keep)).of_map
  refine (List.perm_ext_iff_of_nodup keptDistinct (keyed.distinct.of_map.filter _)).mpr
    fun member => ?_
  rw [Members.mem_kept_iff keyed opposite.keepKeyed opposite.set, List.mem_filter]
  refine and_congr_right fun isMember => ?_
  rw [opposite.contains_drop_iff (keyed.texts member.1 (List.mem_map_of_mem isMember))]

end Opposite

/-- Projections partition documents and are idempotent.  Projecting a document once more by the
same projection, if there is one, changes nothing.  The projections that keep and that drop the
same fields, whatever their flags and the order of the fields, yield members with different
keys, which together are the members of the document, each once and with its value; those that
are left after dropping keep their order. -/
theorem projections_partition {document : Members} (keyed : document.TextKeyed) :
    (∀ projection : Option Members, (∀ flags ∈ projection, flags.TextKeyed) →
      ∃ projected,
        project (.object document) (.optional .object projection) = .ok projected ∧
        project (.object projected) (.optional .object projection) = .ok projected) ∧
    ∀ keep drop, Opposite keep drop →
      ∃ kept left,
        project (.object document) (.object keep) = .ok kept ∧
        project (.object document) (.object drop) = .ok left ∧
        (∀ key ∈ kept.keys, key ∉ left.keys) ∧
        (kept ++ left).Perm document ∧
        left.Sublist document := by
  refine ⟨fun _ => project_project document, fun keep drop opposite => ?_⟩
  refine ⟨_, _, opposite.project_keep document, opposite.project_drop document, ?_, ?_,
    List.filter_sublist⟩
  · intro key isKept isLeft
    have named := (Members.keys_kept_sublist document keep).subset isKept
    obtain ⟨member, leftMember, rfl⟩ := List.mem_map.mp isLeft
    obtain ⟨isMember, notDropped⟩ := List.mem_filter.mp leftMember
    have isText := keyed.texts member.1 (List.mem_map_of_mem isMember)
    rw [(opposite.contains_drop_iff isText).mpr named] at notDropped
    cases notDropped
  · exact ((opposite.kept_perm keyed).append_right _).trans (List.filter_append_perm _ _)

/-- Of three fields two are named, and a fourth name is no field of the document. -/
theorem projections_partition_threeFields :
    let document : Members := [("id", .int 7), ("name", .text "ada"), ("tags", .list [.null])]
    let keep : Members := [("tags", .int 1), ("age", .bool true), ("id", .int 2)]
    let drop : Members := [("age", .int 0), ("id", .bool false), ("tags", .int 0)]
    let kept : Members := [("tags", .list [.null]), ("id", .int 7)]
    let left : Members := [("name", .text "ada")]
    document.TextKeyed ∧ Opposite keep drop ∧
      project (.object document) (.object keep) = .ok kept ∧
      project (.object document) (.object drop) = .ok left ∧
      (kept ++ left).Perm document ∧ left.Sublist document := by
  intro document keep drop kept left
  have keyed : document.TextKeyed := membersHaveTextKeys_iff.mp (by decide +kernel)
  have opposite : Opposite keep drop :=
    { keepKeyed := membersHaveTextKeys_iff.mp (by decide +kernel)
      dropKeyed := membersHaveTextKeys_iff.mp (by decide +kernel)
      named := List.cons_ne_nil _ _
      sameFields := by
        simp only [keep, drop, Members.keys]
        grind
      set := by simp [keep, Value.isTruthy]
      unset := by simp [drop, Value.isTruthy] }
  have keeps : project (.object document) (.object keep) = .ok kept := rfl
  have drops : project (.object document) (.object drop) = .ok left := rfl
  obtain ⟨_, _, isKept, isLeft, _, shares, ordered⟩ :=
    (projections_partition keyed).2 keep drop opposite
  cases keeps.symm.trans isKept
  cases drops.symm.trans isLeft
  exact ⟨keyed, opposite, keeps, drops, shares, ordered⟩

end Document

end DocStore
