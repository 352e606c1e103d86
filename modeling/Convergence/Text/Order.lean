/-! The order of names: by code points from the left, which is also the order
of their UTF-8 bytes. A proper beginning comes before the longer text. -/
namespace Convergence.Text

def charsBefore : List Char → List Char → Bool
  | _, [] => false
  | [], _ :: _ => true
  | a :: as, b :: bs =>
    if a.toNat < b.toNat then true
    else if b.toNat < a.toNat then false
    else charsBefore as bs

def before (a b : String) : Bool := charsBefore a.toList b.toList

theorem charsBefore_irrefl (a : List Char) : charsBefore a a = false := by
  induction a with
  | nil => rfl
  | cons c rest ih => simp [charsBefore, ih]

theorem charsBefore_trans {a b c : List Char} (hab : charsBefore a b = true)
    (hbc : charsBefore b c = true) : charsBefore a c = true := by
  induction a generalizing b c with
  | nil =>
    cases b with
    | nil => simp [charsBefore] at hab
    | cons => cases c <;> simp_all [charsBefore]
  | cons x xs ih =>
    cases b with
    | nil => simp [charsBefore] at hab
    | cons y ys =>
      cases c with
      | nil => simp [charsBefore] at hbc
      | cons z zs =>
        simp only [charsBefore] at hab hbc ⊢
        split at hab
        · split at hbc
          · rw [if_pos (by omega)]
          · split at hbc
            · contradiction
            · rw [if_pos (by omega)]
        · split at hab
          · contradiction
          · split at hbc
            · rw [if_pos (by omega)]
            · split at hbc
              · contradiction
              · rw [if_neg (by omega), if_neg (by omega)]
                exact ih hab hbc

/-- Of two different texts one comes before the other. -/
theorem charsBefore_total {a b : List Char} (hab : charsBefore a b = false)
    (hba : charsBefore b a = false) : a = b := by
  induction a generalizing b with
  | nil =>
    cases b with
    | nil => rfl
    | cons => simp [charsBefore] at hab
  | cons x xs ih =>
    cases b with
    | nil => simp [charsBefore] at hba
    | cons y ys =>
      simp only [charsBefore] at hab hba
      by_cases hxy : x.toNat < y.toNat
      · simp [hxy] at hab
      · by_cases hyx : y.toNat < x.toNat
        · simp [hyx] at hba
        · simp only [hxy, hyx, if_false] at hab hba
          rw [Char.toNat_inj.mp (by omega : x.toNat = y.toNat), ih hab hba]

theorem before_irrefl (a : String) : before a a = false := charsBefore_irrefl _

theorem before_trans {a b c : String} (hab : before a b = true) (hbc : before b c = true) :
    before a c = true :=
  charsBefore_trans hab hbc

theorem before_total {a b : String} (hab : before a b = false) (hba : before b a = false) :
    a = b :=
  String.toList_inj.mp (charsBefore_total hab hba)

end Convergence.Text
