/-!
# Order of texts by their UTF-8 bytes

Names and object keys are listed in this order. It is a total order on texts: two texts with the
same bytes are the same text.

Specification: section 4.0b (collections are sorted by the bytes of their names).
-/

namespace CollectionTypes.Text

/-- The UTF-8 encoding of a text, byte by byte. -/
def bytes (s : String) : List UInt8 :=
  s.toByteArray.data.toList

/-- Whether `s` stands before `t` or at the same place. -/
def atOrBefore (s t : String) : Bool :=
  decide (bytes s ≤ bytes t)

/-- No two texts have the same bytes. -/
theorem bytes_injective {s t : String} (h : bytes s = bytes t) : s = t := by
  apply String.toByteArray_inj.mp
  exact ByteArray.ext (Array.toList_inj.mp h)

theorem atOrBefore_refl (s : String) : atOrBefore s s = true := by
  simp [atOrBefore]

theorem atOrBefore_total (s t : String) : atOrBefore s t = true ∨ atOrBefore t s = true := by
  simpa [atOrBefore] using List.le_total (bytes s) (bytes t)

theorem atOrBefore_trans {s t u : String} (hst : atOrBefore s t = true)
    (htu : atOrBefore t u = true) : atOrBefore s u = true := by
  simp only [atOrBefore, decide_eq_true_eq] at *
  exact List.le_trans hst htu

/-- Two texts that stand before each other are one text. -/
theorem atOrBefore_antisymm {s t : String} (hst : atOrBefore s t = true)
    (hts : atOrBefore t s = true) : s = t := by
  simp only [atOrBefore, decide_eq_true_eq] at *
  exact bytes_injective (List.le_antisymm hst hts)

end CollectionTypes.Text
