/-!
# The order of keys

Keys are ordered by the bytes of their UTF-8 form, compared from the left.  The order is strict and total
(`before_irrefl`, `before_trans`, `before_or_before`), which is all that an ordered table asks of it.
-/
namespace FormLogic
namespace Text

def bytes (s : String) : List Nat := s.toByteArray.data.toList.map UInt8.toNat

/-- **Whether one key stands before another**, byte by byte. -/
def before (s t : String) : Bool := decide (bytes s < bytes t)

theorem bytes_injective {s t : String} (h : bytes s = bytes t) : s = t := by
  have key : Function.Injective UInt8.toNat := fun _ _ => UInt8.toNat_inj.mp
  have data : s.toByteArray.data.toList = t.toByteArray.data.toList := (List.map_inj_right key).mp h
  exact String.toByteArray_inj.mp (ByteArray.ext (Array.toList_inj.mp data))

theorem before_irrefl (s : String) : before s s = false := by
  exact decide_eq_false (List.lt_irrefl _)

theorem before_trans {s t u : String} (h : before s t = true) (h' : before t u = true) : before s u = true := by
  simp only [before, decide_eq_true_eq] at *
  exact List.lt_trans h h'

theorem before_or_before {s t : String} (h : s ≠ t) : before s t = true ∨ before t s = true := by
  simp only [before, decide_eq_true_eq]
  by_cases hlt : bytes s < bytes t
  · exact .inl hlt
  · rcases List.le_iff_lt_or_eq.mp (List.not_lt.mp hlt) with hgt | heq
    · exact .inr hgt
    · exact absurd (bytes_injective heq).symm h

end Text
end FormLogic
