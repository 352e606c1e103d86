import Convergence.Text.LowerCase
import Mathlib

/-! What is in small letters stays as it is. A shift in the table of small forms takes its
characters out of the reach of every shift, and a text in ASCII letters other than the k is the
small form of those texts alone that spell it in ASCII letters. -/
namespace Convergence.Text

variable {c d : Char} {before chars : List Char} {s w : String}

namespace Shift

/-- The least and the greatest code point that `s` moves to. -/
def low (s : Shift) : Nat := (s.first + s.delta).toNat

def high (s : Shift) : Nat := (s.last + s.delta).toNat

/-- Everything that `s` moves goes to a code point of a character. -/
def lands (s : Shift) : Bool :=
  0 ≤ s.first + s.delta && (s.high < 0xD800 || 0xDFFF < s.low && s.high < 0x110000)

/-- Nothing that `s` has moved is moved by `t`: the one range ends before the other begins, or
`t` takes every other code point and `s` moves to those in between. -/
def clears (s t : Shift) : Bool :=
  s.high.blt t.first || t.last.blt s.low ||
    t.step == 2 && (s.step == 2 || s.first == s.last) && s.low % 2 != t.first % 2

theorem holds_iff {t : Shift} {n : Nat} :
    t.holds n = true ↔ t.first ≤ n ∧ n ≤ t.last ∧ (n - t.first) % t.step = 0 := by
  simp [holds, and_assoc]

theorem isValidChar_of_lands {t : Shift} {n : Nat} (h : t.lands = true) (hn : t.holds n = true) :
    (n + t.delta).toNat.isValidChar := by
  rw [holds_iff] at hn
  simp only [lands, Bool.and_eq_true, Bool.or_eq_true, decide_eq_true_eq] at h
  unfold low high at h
  unfold Nat.isValidChar
  omega

theorem not_holds_of_clears {t u : Shift} {n : Nat} (hlands : t.lands = true)
    (h : t.clears u = true) (hn : t.holds n = true) : u.holds (n + t.delta).toNat = false := by
  have hpos : 0 ≤ t.first + t.delta := by
    simp only [lands, Bool.and_eq_true, decide_eq_true_eq] at hlands
    exact hlands.1
  rw [Bool.eq_false_iff]
  intro hu
  rw [holds_iff] at hn hu
  obtain ⟨hfirst, hlast, hstep⟩ := hn
  obtain ⟨ufirst, ulast, ustep⟩ := hu
  simp only [clears, low, high, Bool.and_eq_true, Bool.or_eq_true, Nat.blt_eq, beq_iff_eq,
    bne_iff_ne] at h
  rcases h with (hbefore | hbehind) | ⟨⟨utwo, ttwo⟩, hodd⟩
  · omega
  · omega
  · rw [utwo] at ustep
    rcases ttwo with ttwo | hsingle
    · rw [ttwo] at hstep
      omega
    · omega

end Shift

theorem smallShifts_lands : ∀ t ∈ smallShifts, t.lands = true := by decide +kernel

theorem smallShifts_clears : ∀ t ∈ smallShifts, ∀ u ∈ smallShifts, t.clears u = true := by
  have hall : (smallShifts.all fun t => smallShifts.all t.clears) = true := by decide +kernel
  simpa only [List.all_eq_true] using hall

/-- No shift moves to the dotted capital I, which becomes two characters. -/
theorem smallShifts_clears_dotted :
    ∀ t ∈ smallShifts, t.clears ⟨0x130, 0x130, 1, 0⟩ = true := by
  decide +kernel

/-! ### Characters in their small form -/

def IsSmall (c : Char) : Prop := smallOf c = [c]

theorem isSmall_of_not_holds (hdotted : c.toNat ≠ 0x130)
    (h : ∀ t ∈ smallShifts, t.holds c.toNat = false) : IsSmall c := by
  unfold IsSmall smallOf
  split
  · rename_i hascii
    have hcapital := h ⟨0x41, 0x5A, 1, 32⟩ List.mem_cons_self
    rw [Bool.eq_false_iff, ne_eq, Shift.holds_iff] at hcapital
    rw [if_neg]
    simp only [Bool.and_eq_true, decide_eq_true_eq]
    exact fun hin => hcapital ⟨hin.1, hin.2, Nat.mod_one _⟩
  · have hnone : smallShifts.find? (·.holds c.toNat) = none :=
      List.find?_eq_none.mpr fun t ht => Bool.eq_false_iff.mp (h t ht)
    rw [hnone]

/-- Where a shift takes a character, no shift takes it further. -/
theorem isSmall_shifted {t : Shift} (ht : t ∈ smallShifts) (hc : t.holds c.toNat = true) :
    IsSmall (Char.ofNat (c.toNat + t.delta).toNat) := by
  have hlands := smallShifts_lands t ht
  have hvalid := Shift.isValidChar_of_lands hlands hc
  have hnat : (Char.ofNat (c.toNat + t.delta).toNat).toNat = (c.toNat + t.delta).toNat := by
    rw [Char.toNat_ofNat, if_pos hvalid]
  apply isSmall_of_not_holds
  · have hdotted := Shift.not_holds_of_clears hlands (smallShifts_clears_dotted t ht) hc
    rw [Bool.eq_false_iff, ne_eq, Shift.holds_iff] at hdotted
    rw [hnat]
    intro heq
    exact hdotted ⟨Nat.le_of_eq heq.symm, Nat.le_of_eq heq, Nat.mod_one _⟩
  · intro u hu
    rw [hnat]
    exact Shift.not_holds_of_clears hlands (smallShifts_clears t ht u hu) hc

/-- The ways to a small form: by a shift, by the dotted capital I, or by no change. -/
theorem smallOf_cases (c : Char) :
    (∃ t ∈ smallShifts, t.holds c.toNat = true ∧
      smallOf c = [Char.ofNat (c.toNat + t.delta).toNat]) ∨
    (c.toNat = 0x130 ∧ smallOf c = ['i', Char.ofNat 0x307]) ∨ smallOf c = [c] := by
  unfold smallOf
  split
  · split
    · rename_i hcapital
      simp only [Bool.and_eq_true, decide_eq_true_eq] at hcapital
      refine .inl ⟨⟨0x41, 0x5A, 1, 32⟩, List.mem_cons_self, ?_, rfl⟩
      exact Shift.holds_iff.mpr ⟨hcapital.1, hcapital.2, Nat.mod_one _⟩
    · exact .inr (.inr rfl)
  · split
    · exact .inr (.inl ⟨by assumption, rfl⟩)
    · split
      · rename_i t hfind
        have hholds := List.find?_some hfind
        exact .inl ⟨t, List.mem_of_find?_eq_some hfind, hholds, rfl⟩
      · exact .inr (.inr rfl)

theorem isSmall_of_mem_smallOf (h : d ∈ smallOf c) : IsSmall d := by
  rcases smallOf_cases c with ⟨t, ht, hc, heq⟩ | ⟨_, heq⟩ | heq
  · rw [heq, List.mem_singleton] at h
    exact h ▸ isSmall_shifted ht hc
  · rw [heq, List.mem_cons, List.mem_singleton] at h
    rcases h with rfl | rfl
    · unfold IsSmall; decide +kernel
    · unfold IsSmall; decide +kernel
  · have hd := List.mem_singleton.mp (heq ▸ h)
    exact hd ▸ heq

theorem isSmall_smallSigma (before after : List Char) : IsSmall (smallSigma before after) := by
  unfold smallSigma IsSmall
  split <;> decide +kernel

theorem IsSmall.ne_sigma (h : IsSmall c) : c ≠ 'Σ' := by
  rintro rfl
  exact absurd h (by unfold IsSmall; decide +kernel)

/-! ### Texts in their small form -/

theorem isSmall_of_mem_smallFrom (h : d ∈ smallFrom before chars) : IsSmall d := by
  induction chars generalizing before with
  | nil => cases h
  | cons c after ih =>
    rw [smallFrom, List.mem_append] at h
    rcases h with h | h
    · split at h
      · exact List.mem_singleton.mp h ▸ isSmall_smallSigma before after
      · exact isSmall_of_mem_smallOf h
    · exact ih h

theorem smallFrom_of_isSmall (h : ∀ c ∈ chars, IsSmall c) : smallFrom before chars = chars := by
  induction chars generalizing before with
  | nil => rfl
  | cons c after ih =>
    have hc := h c List.mem_cons_self
    rw [smallFrom, if_neg hc.ne_sigma, ih fun d hd => h d (List.mem_cons_of_mem c hd), hc]
    rfl

theorem toList_lower (s : String) : (lower s).toList = smallFrom [] s.toList :=
  String.toList_ofList

/-- Once small is small for good. -/
@[simp]
theorem lower_lower (s : String) : lower (lower s) = lower s := by
  unfold lower
  rw [String.toList_ofList, smallFrom_of_isSmall fun c hc => isSmall_of_mem_smallFrom hc]

/-! ### Texts in ASCII -/

theorem smallOf_ascii (h : c.toNat < 0x80) : smallOf c = [c.toLower] := by
  have hall : ∀ n < 0x80, smallOf (Char.ofNat n) = [(Char.ofNat n).toLower] := by decide +kernel
  rw [← Char.ofNat_toNat c]
  exact hall c.toNat h

/-- Below the range of ASCII there are the capitals of ASCII and the Kelvin sign. -/
theorem smallShifts_beyond_ascii :
    ∀ t ∈ smallShifts, t.last < 0x80 ∨ 0x80 ≤ t.first + t.delta ∨
      (t.first = t.last ∧ t.first + t.delta = 'k'.toNat) := by
  decide +kernel

/-- A character beyond ASCII leaves ASCII behind in its small form, unless that is the k. -/
theorem exists_mem_smallOf (h : 0x80 ≤ c.toNat) : ∃ d ∈ smallOf c, 0x80 ≤ d.toNat ∨ d = 'k' := by
  rcases smallOf_cases c with ⟨t, ht, hc, heq⟩ | ⟨_, heq⟩ | heq
  · have hvalid := Shift.isValidChar_of_lands (smallShifts_lands t ht) hc
    refine ⟨_, heq ▸ List.mem_singleton_self _, ?_⟩
    obtain ⟨hfirst, hlast, _⟩ := Shift.holds_iff.mp hc
    rcases smallShifts_beyond_ascii t ht with hcapital | hbeyond | ⟨hsingle, hkelvin⟩
    · omega
    · left
      rw [Char.toNat_ofNat, if_pos hvalid]
      omega
    · right
      rw [show (c.toNat + t.delta).toNat = 'k'.toNat by omega, Char.ofNat_toNat]
  · exact ⟨Char.ofNat 0x307, by simp [heq], .inl (by decide)⟩
  · exact ⟨c, by simp [heq], .inl h⟩

theorem exists_mem_smallFrom (before : List Char) (hc : c ∈ chars) (h : 0x80 ≤ c.toNat) :
    ∃ d ∈ smallFrom before chars, 0x80 ≤ d.toNat ∨ d = 'k' := by
  induction chars generalizing before with
  | nil => cases hc
  | cons e after ih =>
    rw [smallFrom]
    rcases List.mem_cons.mp hc with rfl | hafter
    · split
      · refine ⟨smallSigma before after, by simp, .inl ?_⟩
        unfold smallSigma
        split <;> decide
      · obtain ⟨d, hd, hbeyond⟩ := exists_mem_smallOf h
        exact ⟨d, List.mem_append_left _ hd, hbeyond⟩
    · obtain ⟨d, hd, hbeyond⟩ := ih _ hafter
      exact ⟨d, List.mem_append_right _ hd, hbeyond⟩

theorem smallFrom_ascii (h : ∀ c ∈ chars, c.toNat < 0x80) :
    smallFrom before chars = chars.map Char.toLower := by
  induction chars generalizing before with
  | nil => rfl
  | cons c after ih =>
    have hc := h c List.mem_cons_self
    have hsigma : c ≠ 'Σ' := by
      rintro rfl
      exact absurd hc (by decide)
    rw [smallFrom, if_neg hsigma, smallOf_ascii hc,
      ih fun d hd => h d (List.mem_cons_of_mem c hd)]
    rfl

theorem toNat_lt_of_toLower (h : c.toLower.toNat < 0x80) : c.toNat < 0x80 := by
  by_cases hcapital : c.isUpper
  · simp [Char.isUpper, UInt32.le_iff_toNat_le] at hcapital
    omega
  · rwa [Char.toLower_eq_of_not_isUpper hcapital] at h

/-- A text in ASCII without a k is the small form of its spellings in ASCII and of nothing else. -/
theorem lower_eq_iff (hascii : ∀ c ∈ w.toList, c.toNat < 0x80) (hk : 'k' ∉ w.toList) :
    lower s = w ↔ s.toList.map Char.toLower = w.toList := by
  rw [← String.toList_inj, toList_lower]
  constructor
  · intro h
    rw [← h, smallFrom_ascii]
    intro c hc
    by_contra hbeyond
    obtain ⟨d, hd, hd80 | rfl⟩ := exists_mem_smallFrom [] hc (Nat.le_of_not_lt hbeyond)
    · exact absurd (hascii d (h ▸ hd)) (Nat.not_lt.mpr hd80)
    · exact hk (h ▸ hd)
  · intro h
    rw [smallFrom_ascii, h]
    intro c hc
    exact toNat_lt_of_toLower (hascii _ (h ▸ List.mem_map_of_mem hc))

end Convergence.Text
