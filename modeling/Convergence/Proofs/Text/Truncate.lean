import Convergence.Proofs.Text.Bytes
import Convergence.Text.Truncate

/-! A long text is cut to a limit. Where the limit has room for the three points, what is kept is
the longest beginning that leaves it to them, in whole characters, and no other text is cut so.
A smaller limit is not kept: the points stand alone and go beyond it. -/
namespace Convergence.Text

variable {s p r : String} {limit : Nat}

/-- The bytes of `p` are the first of `s`. -/
def Begins (p s : String) : Prop := bytes p <+: bytes s

/-- The bytes of a text never end within a character of the text that it begins. -/
theorem begins_iff : Begins p s ↔ p.toList <+: s.toList := by
  unfold Begins
  constructor
  · rintro ⟨rest, hrest⟩
    apply List.isPrefix_of_utf8Encode_append_eq_utf8Encode rest.toByteArray
    rw [String.utf8Encode_toList, String.utf8Encode_toList]
    apply ByteArray.ext
    apply Array.toList_inj.mp
    rw [ByteArray.data_append, Array.toList_append, List.toList_data_toByteArray]
    exact hrest
  · rintro ⟨rest, hrest⟩
    rw [bytes_eq, bytes_eq, ← hrest, List.flatMap_append]
    exact List.prefix_append _ _

theorem Begins.length_le (h : Begins p s) : p.length ≤ s.length := by
  rw [← String.length_toList, ← String.length_toList]
  exact (begins_iff.mp h).length_le

theorem Begins.eq_of_length (hp : Begins p s) (hr : Begins r s) (h : p.length = r.length) :
    p = r := by
  rw [← String.length_toList, ← String.length_toList] at h
  rw [begins_iff] at hp hr
  have hbegins : p.toList <+: r.toList :=
    List.prefix_of_prefix_length_le hp hr (Nat.le_of_eq h)
  exact String.toList_inj.mp (hbegins.eq_of_length h)

/-- The first `n` characters. -/
def beginning (s : String) (n : Nat) : String := String.ofList (s.toList.take n)

theorem begins_beginning (s : String) (n : Nat) : Begins (beginning s n) s := by
  rw [begins_iff]
  unfold beginning
  rw [String.toList_ofList]
  exact List.take_prefix n _

theorem length_beginning (s : String) (n : Nat) : (beginning s n).length = min n s.length := by
  unfold beginning
  rw [String.length_ofList, List.length_take, String.length_toList]

theorem length_append_points (p : String) : (p ++ "...").length = p.length + 3 :=
  String.length_append p "..."

/-- The longest beginning of `s` that leaves room for the points within the limit. -/
structure Keeps (limit : Nat) (s kept : String) : Prop where
  begins : Begins kept s
  room : (kept ++ "...").length ≤ limit
  longest : ∀ p, Begins p s → (p ++ "...").length ≤ limit → p.length ≤ kept.length

theorem keeps_iff : Keeps limit s p ↔ 3 ≤ limit ∧ p = beginning s (limit - 3) := by
  have hlength : (beginning s (limit - 3)).length = min (limit - 3) s.length :=
    length_beginning s (limit - 3)
  constructor
  · -- The first characters compete with `p`, so `p` is as long, and then it is the same.
    rintro ⟨hbegins, hroom, hlongest⟩
    rw [length_append_points] at hroom
    have hlimit : 3 ≤ limit := by omega
    have hle : (beginning s (limit - 3)).length ≤ p.length := by
      apply hlongest _ (begins_beginning s _)
      rw [length_append_points]
      omega
    refine ⟨hlimit, hbegins.eq_of_length (begins_beginning s _) ?_⟩
    have hwithin : p.length ≤ s.length := hbegins.length_le
    omega
  · rintro ⟨hlimit, rfl⟩
    refine ⟨begins_beginning s _, ?_, ?_⟩
    · rw [length_append_points]
      omega
    · intro p hbegins hroom
      have hwithin : p.length ≤ s.length := hbegins.length_le
      rw [length_append_points] at hroom
      omega

/-! ### What cutting does -/

theorem truncate_of_fits (h : s.length ≤ limit) : truncate s limit = s := by
  unfold truncate
  rw [String.length_toList, if_pos h]

theorem truncate_of_long (h : limit < s.length) :
    truncate s limit = beginning s (limit - 3) ++ "..." := by
  unfold truncate
  rw [String.length_toList, if_neg (Nat.not_le.mpr h)]
  rfl

/-- With less room than for the points there is nothing else left. -/
theorem truncate_of_narrow (h : limit < s.length) (hlimit : limit < 3) :
    truncate s limit = "..." := by
  have hnone : limit - 3 = 0 := by omega
  rw [truncate_of_long h, hnone]
  rfl

theorem length_truncate_of_long (h : limit < s.length) :
    (truncate s limit).length = max limit 3 := by
  rw [truncate_of_long h, length_append_points, length_beginning]
  omega

theorem truncate_truncate (s : String) (limit : Nat) :
    truncate (truncate s limit) limit = truncate s limit := by
  rcases Nat.lt_or_ge limit s.length with hlong | hfits
  · -- What is cut has just the characters of the limit, unless it is the points alone.
    have hlength := length_truncate_of_long hlong
    rcases Nat.lt_or_ge limit 3 with hnarrow | hroom
    · rw [truncate_of_narrow hlong hnarrow]
      exact truncate_of_narrow hnarrow hnarrow
    · apply truncate_of_fits
      omega
  · rw [truncate_of_fits hfits]
    exact truncate_of_fits hfits

/-- What is asked of `r` as the text `s` cut to the limit. -/
structure CutTo (limit : Nat) (s r : String) : Prop where
  fits : r.length ≤ limit
  whole : r = s ↔ s.length ≤ limit
  cut : limit < s.length → ∃ kept, Keeps limit s kept ∧ r = kept ++ "..."

theorem cutTo_of_fits (h : s.length ≤ limit) : CutTo limit s r ↔ r = s := by
  constructor
  · intro hcut
    exact hcut.whole.mpr h
  · rintro rfl
    exact ⟨h, iff_of_true rfl h, fun hlong => absurd h (Nat.not_le.mpr hlong)⟩

theorem cutTo_of_long (h : limit < s.length) :
    CutTo limit s r ↔ r = truncate s limit ∧ 3 ≤ limit := by
  rw [truncate_of_long h]
  constructor
  · intro hcut
    obtain ⟨kept, hkeeps, rfl⟩ := hcut.cut h
    obtain ⟨hlimit, rfl⟩ := keeps_iff.mp hkeeps
    exact ⟨rfl, hlimit⟩
  · rintro ⟨rfl, hlimit⟩
    have hkeeps : Keeps limit s (beginning s (limit - 3)) := keeps_iff.mpr ⟨hlimit, rfl⟩
    refine ⟨hkeeps.room, iff_of_false ?_ (Nat.not_le.mpr h), fun _ => ⟨_, hkeeps, rfl⟩⟩
    intro hsame
    have hroom := hkeeps.room
    rw [hsame] at hroom
    exact absurd hroom (Nat.not_le.mpr h)

/-- A text is cut to its limit as it should be, and in no other way, if it fits or the limit has
room for the points. Else the points alone are left. To cut it again changes nothing. -/
theorem truncate_cuts_to_limit (s : String) (limit : Nat) :
    (∀ r, CutTo limit s r ↔ r = truncate s limit ∧ (s.length ≤ limit ∨ 3 ≤ limit)) ∧
      (limit < s.length → limit < 3 → truncate s limit = "...") ∧
      truncate (truncate s limit) limit = truncate s limit := by
  refine ⟨?_, truncate_of_narrow, truncate_truncate s limit⟩
  intro r
  rcases Nat.lt_or_ge limit s.length with hlong | hfits
  · rw [cutTo_of_long hlong, or_iff_right (Nat.not_le.mpr hlong)]
  · rw [cutTo_of_fits hfits, truncate_of_fits hfits, and_iff_left (.inl hfits)]

/-- The ß takes two bytes, and the room of one character. -/
theorem truncate_cuts_street :
    CutTo 9 "Straße nach Süden" "Straße..." ∧ truncate "Straße..." 9 = "Straße..." ∧
      2 < "Straße".length ∧ truncate "Straße" 2 = "..." := by
  have hshort : truncate "Straße nach Süden" 9 = "Straße..." := by decide +kernel
  have hlong : 2 < "Straße".length := by decide
  obtain ⟨hcut, -, hagain⟩ := truncate_cuts_to_limit "Straße nach Süden" 9
  obtain ⟨-, hnarrow, -⟩ := truncate_cuts_to_limit "Straße" 2
  rw [hshort] at hagain
  exact ⟨(hcut _).mpr ⟨hshort.symm, .inr (by decide)⟩, hagain, hlong, hnarrow hlong (by decide)⟩

/-- A limit of nothing leaves no room, and still there are points. -/
theorem points_exceed_limit :
    truncate "hello" 0 = "..." ∧ ¬(truncate "hello" 0).length ≤ 0 ∧
      ¬CutTo 0 "hello" (truncate "hello" 0) := by
  have hlength : ¬(truncate "hello" 0).length ≤ 0 := by decide +kernel
  exact ⟨by decide +kernel, hlength, fun hcut => hlength hcut.fits⟩

end Convergence.Text
