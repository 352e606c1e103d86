import Convergence.Text.Order
import Mathlib.Data.List.Basic
import Mathlib.Data.Nat.Basic

/-! The order of names is the order of their UTF-8 bytes. A character of a greater code point
begins with a greater byte, or begins alike and has a greater byte where it first differs. So
where two names differ first, their bytes are in the order of the characters. -/
namespace Convergence.Text

variable {a b : String} {c d : Char} {bound : Nat} {write : Nat → List UInt8}

/-- The bytes of a text in UTF-8. -/
def bytes (s : String) : List UInt8 := s.toUTF8.data.toList

theorem bytes_eq (s : String) : bytes s = s.toList.flatMap String.utf8EncodeChar := by
  unfold bytes
  rw [String.toUTF8_eq_toByteArray, ← String.utf8Encode_toList]
  exact List.toList_data_toByteArray

/-- The greater of two numbers below the bound is written with the greater bytes, whatever
comes after. -/
def Ascends (bound : Nat) (write : Nat → List UInt8) : Prop :=
  ∀ ⦃m n⦄, m < n → n < bound → ∀ xs ys, write m ++ xs < write n ++ ys

theorem ofNat_lt {m n : Nat} (h : m < n) (hn : n < 256) : UInt8.ofNat m < UInt8.ofNat n := by
  rw [UInt8.lt_iff_toNat_lt, UInt8.toNat_ofNat_of_lt' (Nat.lt_trans h hn), UInt8.toNat_ofNat_of_lt' hn]
  exact h

theorem cons_lt_of_lt {m n : Nat} (h : m < n) (hn : n < 256) (xs ys : List UInt8) :
    UInt8.ofNat m :: xs < UInt8.ofNat n :: ys :=
  List.cons_lt_cons_iff.mpr (.inl (ofNat_lt h hn))

theorem ascends_lead {lead : Nat} (h : bound + lead ≤ 256) :
    Ascends bound fun n => [UInt8.ofNat (n % bound + lead)] := by
  intro m n hmn hn xs ys
  dsimp only
  rw [Nat.mod_eq_of_lt hn, Nat.mod_eq_of_lt (Nat.lt_trans hmn hn)]
  exact cons_lt_of_lt (by omega) (by omega) xs ys

/-- A byte more is for six bits more. -/
theorem Ascends.next (h : Ascends bound write) :
    Ascends (bound * 64) fun n => write (n / 64) ++ [UInt8.ofNat (n % 64 + 128)] := by
  intro m n hmn hn xs ys
  dsimp only
  rw [List.append_assoc, List.append_assoc]
  rcases Nat.lt_or_eq_of_le (Nat.div_le_div_right (c := 64) (Nat.le_of_lt hmn)) with hlt | heq
  · exact h hlt (Nat.div_lt_of_lt_mul (Nat.mul_comm _ _ ▸ hn)) _ _
  · rw [heq]
    exact List.append_left_lt (cons_lt_of_lt (by omega) (by omega) xs ys)

theorem utf8EncodeChar_lt (h : c.toNat < d.toNat) (xs ys : List UInt8) :
    String.utf8EncodeChar c ++ xs < String.utf8EncodeChar d ++ ys := by
  have hd := d.valid
  unfold UInt32.isValidChar Nat.isValidChar at hd
  change c.val.toNat < d.val.toNat at h
  unfold String.utf8EncodeChar
  generalize c.val.toNat = m at h
  generalize d.val.toNat = n at h hd
  have two := (ascends_lead (by decide : 32 + 192 ≤ 256)).next
  have three := (ascends_lead (by decide : 16 + 224 ≤ 256)).next.next
  have four := (ascends_lead (by decide : 8 + 240 ≤ 256)).next.next.next
  simp only [Nat.div_div_eq_div_mul] at three four
  dsimp only
  split_ifs
  all_goals first
    | omega
    | exact two h (by omega) xs ys
    | exact three h (by omega) xs ys
    | exact four h (by omega) xs ys
    | exact cons_lt_of_lt (by omega) (by omega) _ _

theorem bytes_lt_of_charsBefore {cs ds : List Char} (h : charsBefore cs ds = true) :
    cs.flatMap String.utf8EncodeChar < ds.flatMap String.utf8EncodeChar := by
  induction cs generalizing ds with
  | nil =>
    cases ds with
    | nil => cases h
    | cons d ds =>
      have hlength : 0 < ((d :: ds).flatMap String.utf8EncodeChar).length := by
        rw [List.flatMap_cons, List.length_append, String.length_utf8EncodeChar]
        exact Nat.add_pos_left d.utf8Size_pos _
      obtain ⟨first, rest, hbytes⟩ := List.exists_cons_of_length_pos hlength
      rw [List.flatMap_nil, hbytes]
      exact List.nil_lt_cons first rest
  | cons c cs ih =>
    cases ds with
    | nil => cases h
    | cons d ds =>
      rw [List.flatMap_cons, List.flatMap_cons]
      unfold charsBefore at h
      split at h
      · rename_i hlt
        exact utf8EncodeChar_lt hlt _ _
      · split at h
        · cases h
        · have hsame : c = d := Char.toNat_inj.mp (by omega)
          rw [hsame]
          exact List.append_left_lt (ih h)

/-- One text comes before another if and only if its bytes do. -/
theorem before_iff_bytes : before a b = true ↔ bytes a < bytes b := by
  rw [bytes_eq, bytes_eq]
  refine ⟨bytes_lt_of_charsBefore, fun h => ?_⟩
  cases hab : before a b with
  | true => rfl
  | false =>
    cases hba : before b a with
    | true => exact absurd (bytes_lt_of_charsBefore hba) (List.lt_asymm h)
    | false =>
      rw [before_total hab hba] at h
      exact absurd h (List.lt_irrefl _)

end Convergence.Text
