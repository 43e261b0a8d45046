import Inquiry.Proofs.Table
import Inquiry.Questionnaire.Record

namespace Inquiry

/-- What every result of a computation satisfies that may fail. -/
def Yields {ε α : Type} (x : Except ε α) (P : α → Prop) : Prop := ∀ a, x = .ok a → P a

namespace Yields

variable {ε α β : Type} {P : α → Prop} {Q : β → Prop}

theorem trivial (x : Except ε α) : Yields x fun _ => True := fun _ _ => True.intro

theorem pure {a : α} (h : P a) : Yields (Pure.pure a : Except ε α) P := by
  intro b same
  cases same
  exact h

theorem throw (e : ε) : Yields (.error e : Except ε α) P := by
  intro a same
  cases same

theorem bind {x : Except ε α} {f : α → Except ε β} (h : Yields x P)
    (further : ∀ a, P a → Yields (f a) Q) : Yields (x >>= f) Q := by
  intro b done
  cases result : x with
  | error e =>
    rw [result] at done
    cases done
  | ok a =>
    rw [result] at done
    exact further a (h a result) b done

theorem map {x : Except ε α} {f : α → β} (h : Yields x fun a => Q (f a)) :
    Yields (f <$> x) Q := by
  intro b done
  cases result : x with
  | error e =>
    rw [result] at done
    cases done
  | ok a =>
    rw [result] at done
    cases done
    exact h a result

theorem mapM {f : α → Except ε β} {items : List α} (h : ∀ a ∈ items, Yields (f a) Q) :
    Yields (items.mapM f) fun results => ∀ b ∈ results, Q b := by
  induction items with
  | nil => exact pure (by simp)
  | cons a rest ih =>
    rw [List.mapM_cons]
    have first := h a (List.mem_cons_self ..)
    have others := ih fun b mem => h b (List.mem_cons_of_mem _ mem)
    refine first.bind fun b here => ?_
    refine others.bind fun results there => ?_
    exact pure (List.forall_mem_cons.mpr ⟨here, there⟩)

end Yields

namespace Json

variable {α β : Type}

theorem find_optional (key name : String) (value : Option Json) :
    Table.find key (optional name value) = if key = name then value else none := by
  cases value with
  | none => simp [optional, Table.find]
  | some v => rfl

/-- A field is read as what is told of it, whether it is there or not. -/
theorem takeField_of_find {name : String} {fields : List (String × Json)} {write : α → Json}
    {read : Json → Except DecodeError β} {told : α → β} {a : Option α}
    (found : Table.find name fields = a.map write) (reads : ∀ a, read (write a) = .ok (told a)) :
    takeField name read fields = .ok (a.map told) := by
  unfold takeField
  rw [found]
  cases a with
  | none => rfl
  | some a =>
    dsimp only [Option.map_some]
    rw [reads]
    rfl

/-- A value that is not null is read as one that is there. -/
theorem toOptional_of_ne_null {read : Json → Except DecodeError α} {value : Json} {a : α}
    (written : value ≠ null) (reads : read value = .ok a) :
    toOptional read value = .ok (some a) := by
  unfold toOptional
  split
  · exact absurd rfl written
  · rw [reads]
    rfl

/-- A list is read item by item. -/
theorem mapM_map {write : α → Json} {read : Json → Except DecodeError β} {told : α → β}
    (reads : ∀ a, read (write a) = .ok (told a)) (items : List α) :
    (items.map write).mapM read = .ok (items.map told) := by
  induction items with
  | nil => rfl
  | cons a rest ih =>
    rw [List.map_cons, List.mapM_cons, reads, ih]
    rfl

/-- A list is read if each of its items is. -/
theorem toSequence_map {write : α → Json} {read : Json → Except DecodeError α}
    (reads : ∀ a, read (write a) = .ok a) (items : List α) :
    toSequence read (.array (items.map write)) = .ok items := by
  change (items.map write).mapM read = .ok items
  rw [mapM_map reads, List.map_id']

theorem toText_string (s : String) : toText (string s) = .ok s := rfl

variable {P : α → Prop} {read : Json → Except DecodeError α}

theorem toOptional_yields (reads : ∀ value, Yields (read value) P) (value : Json) :
    Yields (toOptional read value) fun a => ∀ b ∈ a, P b := by
  unfold toOptional
  split
  · exact .pure (by simp)
  · apply Yields.map
    intro a done b same
    cases same
    exact reads _ a done

/-- An optional value that is null is none. -/
theorem toOptional_toValue_yields (value : Json) :
    Yields (toOptional toValue value) fun a => a ≠ some null := by
  unfold toOptional
  split
  · exact .pure (by simp)
  · rename_i written
    exact .pure fun same => written (Option.some.inj same)

theorem toSequence_yields (reads : ∀ value, Yields (read value) P) (value : Json) :
    Yields (toSequence read value) fun items => ∀ a ∈ items, P a := by
  unfold toSequence
  split
  · exact .mapM fun item _ => reads item
  · exact .throw _

theorem takeField_yields (reads : ∀ value, Yields (read value) P) (name : String)
    (fields : List (String × Json)) :
    Yields (takeField name read fields) fun a => ∀ b ∈ a, P b := by
  unfold takeField
  split
  · apply Yields.map
    intro a done b same
    cases same
    exact reads _ a done
  · exact .pure (by simp)

/-- What every result satisfies that is read off a row. -/
def RowReader.Yields (reader : RowReader α) (P : α → Prop) : Prop :=
  ∀ row, Inquiry.Yields (StateT.run reader row) fun result => P result.1

namespace RowReader.Yields

variable {Q : β → Prop}

theorem trivial (reader : RowReader α) : Yields reader fun _ => True :=
  fun _ _ _ => True.intro

theorem pure {a : α} (h : P a) : Yields (Pure.pure a) P := fun _ => Inquiry.Yields.pure h

theorem bind {reader : RowReader α} {f : α → RowReader β} (h : Yields reader P)
    (further : ∀ a, P a → Yields (f a) Q) : Yields (reader >>= f) Q := by
  intro row
  rw [StateT.run_bind]
  exact (h row).bind fun result here => further result.1 here result.2

theorem takeItem? (reads : ∀ value, Inquiry.Yields (read value) P) :
    Yields (Json.takeItem? read) fun a => ∀ b ∈ a, P b := by
  intro row
  obtain ⟨taken, left⟩ := row
  cases left with
  | nil => exact .pure (by simp)
  | cons item left =>
    have taking : StateT.run (Json.takeItem? read) ⟨taken, item :: left⟩ =
        (fun a => (some a, Row.mk (taken + 1) left)) <$> read item := by
      cases decoded : read item <;> simp [Json.takeItem?, decoded]
    rw [taking]
    apply Inquiry.Yields.map
    intro a done b same
    cases same
    exact reads item a done

end RowReader.Yields

theorem readRow_yields {reader : RowReader α} (h : reader.Yields P) (items : List Json) :
    Yields (readRow items reader) P := by
  unfold readRow
  refine (h ⟨0, items⟩).bind fun result here => ?_
  dsimp only
  split
  · exact .pure here
  · exact .throw _

/-- What every record satisfies that is read, be it off an object or off an array. -/
theorem toRecord_yields {name : String} {size : Nat}
    {ofFields : List (String × Json) → Except DecodeError α} {reader : String → RowReader α}
    (fields : ∀ entries, Yields (ofFields entries) P) (items : ∀ wanted, (reader wanted).Yields P)
    (value : Json) : Yields (toRecord name size ofFields reader value) P := by
  unfold toRecord
  split
  · exact fields _
  · exact readRow_yields (items _) _
  · exact .throw _

end Json

end Inquiry
