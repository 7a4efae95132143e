import DocStore.Proofs.Outcome
import DocStore.Proofs.FilterLeaves
import DocStore.Proofs.KeyedStatement
import DocStore.Client.Interface

/-!
# When selections compile

A selection without an offset compiles if its filter does and its limit can be
written: the fields and directions of an ordering are always accepted.
-/

namespace DocStore

namespace Query

variable {settings : CompileSettings} {filter : Value} {text : Option Sql.Fragment}
  {log : List LogEntry}

theorem paging_limit (dialect : Dialect) {limit : Nat}
    (writable : isWritableInteger limit = true) :
    dialect.paging (.natural limit) .null = .ok ["LIMIT " ++ toString (limit : Int)] := by
  have line : Dialect.pagingLine "LIMIT " (.natural limit) =
      .ok ("LIMIT " ++ toString (limit : Int)) := by
    have counted : (Value.natural limit).toInteger = .ok (limit : Int) := rfl
    refine Except.bind_eq_ok.mpr ⟨_, counted, ?_⟩
    rw [if_pos writable]
    rfl
  have kept : Dialect.effectiveLimit dialect (.natural limit) .null = .natural limit := by
    cases dialect <;> rfl
  simp only [Dialect.paging, kept, line]
  rfl

theorem orderLine_returns (dialect : Dialect) (order : SortOrder) :
    ∃ line, orderLine dialect [] order.toValue = .ok line := by
  have each (item : String × Direction) :
      ∃ line, orderItem dialect [] (.text item.1, .int item.2.sign) = .ok line := ⟨_, rfl⟩
  have all : ∃ lines, (order.map fun item => (Key.text item.1, Value.int item.2.sign)).mapM
      (orderItem dialect []) = .ok lines :=
    Except.exists_mapM (List.forall_mem_map.mpr fun item _ => each item)
  obtain ⟨lines, ordered⟩ := all
  unfold orderLine
  split
  · exact ⟨[], rfl⟩
  · refine ⟨.raw "ORDER BY " :: Sql.Fragment.joined ", " lines, ?_⟩
    exact Except.bind_eq_ok.mpr ⟨_, rfl, Except.bind_eq_ok.mpr ⟨lines, ordered, rfl⟩⟩

theorem select_returns (collection : String) (order : Option SortOrder) {limit : Nat}
    (compiles : (Filter.compile settings.dialect settings.strict filter).Returns [] text log)
    (writable : isWritableInteger limit = true) :
    ∃ statement, ((Command.select collection filter { sort := order, limit := some limit }).compile
      settings).Returns [] statement log := by
  have line : (whereLine settings filter).Returns [] _ log :=
    whereLine_returns_iff.mpr ⟨text, compiles, rfl⟩
  have ordered : ∃ ordering, orderLine settings.dialect [] (.optional SortOrder.toValue order) =
      .ok ordering := by
    cases order with
    | none => exact ⟨[], rfl⟩
    | some order => exact orderLine_returns settings.dialect order
  obtain ⟨ordering, ordered⟩ := ordered
  have paged := paging_limit settings.dialect writable
  have tail : (selectionTail settings filter (.optional SortOrder.toValue order)
      (.natural limit) .null).Returns [] _ log :=
    Logged.returns_bind.mpr ⟨_, _, line, Logged.returns_bind.mpr ⟨_, _,
      Logged.returns_ofFault.mpr ⟨ordered, rfl⟩, Logged.returns_bind.mpr ⟨_, _,
        Logged.returns_ofFault.mpr ⟨paged, rfl⟩, Logged.returns_pure.mpr ⟨rfl, rfl⟩⟩⟩⟩
  exact ⟨_, Logged.returns_bind.mpr ⟨_, _, tail, Logged.returns_pure.mpr ⟨rfl, rfl⟩⟩⟩

theorem count_returns (collection : String)
    (compiles : (Filter.compile settings.dialect settings.strict filter).Returns [] text log) :
    ∃ statement, ((Command.count collection filter).compile settings).Returns [] statement log := by
  have line : (whereLine settings filter).Returns [] _ log :=
    whereLine_returns_iff.mpr ⟨text, compiles, rfl⟩
  exact ⟨_, Logged.returns_bind.mpr ⟨_, _, line, Logged.returns_pure.mpr ⟨rfl, rfl⟩⟩⟩

end Query

end DocStore
