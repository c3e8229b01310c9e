-- How a transform ends: with a value or with a fault, whatever the calls before it were. The
-- readers of numbers give what is read from a text with its grouping taken out.
import QueryBinding.Transform

namespace QueryBinding.Transform

open Number

theorem ofFault_eq_pure {α : Type} {e : Except Fault α} {a : α} :
    ofFault e = pure a ↔ e = .ok a := by
  constructor
  · intro h
    have hrun : (ofFault e).run.run [] = (pure a : Counted α).run.run [] := by rw [h]
    cases e with
    | ok b =>
      cases hrun
      rfl
    | error f => cases hrun
  · rintro rfl
    rfl

theorem throw_ne_pure {f : Fault} {v : Value} : (throw (.fault f) : Counted Value) ≠ pure v := by
  intro h
  have hrefused : ofFault (.error f) = pure v := h
  cases ofFault_eq_pure.1 hrefused

theorem pure_inj {v u : Value} (h : (pure v : Counted Value) = pure u) : v = u := by
  have hsame : ofFault (.ok v) = pure u := h
  cases ofFault_eq_pure.1 hsame
  rfl

theorem toInt_eq_pure {s : String} {v : Value} : toInt.apply (.text s) = pure v ↔
    ∃ n, v = .int n ∧ readInteger (compactInteger s.toList) = .ok n := by
  rw [apply, ofFault_eq_pure]
  change (parseInteger (compactInteger s.toList)).map Value.int = .ok v ↔ _
  rw [parseInteger]
  constructor
  · intro h
    split at h
    · rename_i n hn
      cases h
      exact ⟨n, rfl, hn⟩
    · cases h
    · cases h
  · rintro ⟨n, rfl, hn⟩
    rw [hn]
    rfl

theorem toDecimal_of_read? (s : String) : toDecimal.apply (.text s) =
    match Decimal.read? (compactDecimal s.toList) with
    | some x => pure (.decimal x)
    | none => throw (.fault (.malformedDecimal s)) := by
  rw [apply]
  change ofFault ((parseDecimal s.toList).map Value.decimal) = _
  rw [parseDecimal, String.ofList_toList]
  cases Decimal.read? (compactDecimal s.toList) with
  | none => rfl
  | some x => rfl

theorem toDecimal_eq_pure {s : String} {v : Value} : toDecimal.apply (.text s) = pure v ↔
    ∃ x, v = .decimal x ∧ Decimal.read? (compactDecimal s.toList) = some x := by
  rw [toDecimal_of_read?]
  cases Decimal.read? (compactDecimal s.toList) with
  | none =>
    refine iff_of_false throw_ne_pure ?_
    rintro ⟨x, -, hx⟩
    cases hx
  | some x =>
    constructor
    · intro h
      exact ⟨x, (pure_inj h).symm, rfl⟩
    · rintro ⟨y, rfl, hy⟩
      cases hy
      rfl

end QueryBinding.Transform
