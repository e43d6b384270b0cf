import AssetOracle.Bitcoin.Client
import AssetOracle.Proofs.Decimal.Nearest

/-!
# Amounts with six places

Output-based nodes give amounts as binary numbers, and every report of them has six decimal places.
A finite amount is correctly rounded to them (`amountText_nearest`).
-/

namespace AssetOracle.Bitcoin

open Decimal (Binary64 HasPlaces IsRoundedTo)

theorem toList_amountText (x : Binary64) : (amountText x).toList = x.fixed 6 :=
  String.toList_ofList

/-- The text of a finite amount has a minus sign if its sign bit is set, no superfluous zero in
    front, and six places. It stands for the multiple of a millionth that is nearest to the amount,
    and of two that are equally near for the one with an even last digit. -/
theorem amountText_nearest (x : Binary64) (h : x.exponentBits ≠ 2047) :
    HasPlaces 6 (x.signBit = 1) (amountText x).toList ∧
      IsRoundedTo 6 x.value (amountText x).toList := by
  have hsign : decide (x.signBit = 1) = x.isNegative := by
    rw [Bool.eq_iff_iff, decide_eq_true_iff, Binary64.isNegative_iff]
  rw [toList_amountText, hsign]
  exact ⟨Decimal.hasPlaces_fixed (by decide) h, Decimal.isRoundedTo_fixed (by decide) h⟩

/-- Three times the hundred and twenty-eighth part of one, less than nothing, is half-way between
    two millionths. -/
theorem amountText_nearest_tie :
    (⟨0xBF98000000000000⟩ : Binary64).exponentBits ≠ 2047 ∧
      amountText ⟨0xBF98000000000000⟩ = "-0.023438" ∧
      HasPlaces 6 true "-0.023438".toList ∧ IsRoundedTo 6 (-3 / 128) "-0.023438".toList := by
  have hfinite : (⟨0xBF98000000000000⟩ : Binary64).exponentBits ≠ 2047 := by decide
  have htext : amountText ⟨0xBF98000000000000⟩ = "-0.023438" := by decide +kernel
  have hvalue : (⟨0xBF98000000000000⟩ : Binary64).value = -3 / 128 := by
    have hsign : (⟨0xBF98000000000000⟩ : Binary64).signBit = 1 := by decide
    have hexponent : (⟨0xBF98000000000000⟩ : Binary64).exponentBits = 1017 := by decide
    have hfraction : (⟨0xBF98000000000000⟩ : Binary64).fractionBits = 2 ^ 51 := by decide
    rw [Binary64.value, hsign, hexponent, hfraction]
    norm_num
  obtain ⟨hplaces, hrounded⟩ := amountText_nearest ⟨0xBF98000000000000⟩ hfinite
  rw [htext] at hplaces hrounded
  rw [hvalue] at hrounded
  exact ⟨hfinite, htext, hplaces, hrounded⟩

end AssetOracle.Bitcoin
