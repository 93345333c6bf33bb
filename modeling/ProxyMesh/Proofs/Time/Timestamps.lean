import ProxyMesh.Proofs.Text.Numerals
import ProxyMesh.Time.Civil

/-!
# Timestamps tell times apart

* `toDays_ofDays`        **a day is the day of its date**;
* `padded_inj`, `yearText_inj`   what is written of a number tells which one it is;
* `mem_timestampText`    the characters of a timestamp;
* `timestampText_inj`    **no two times have the same timestamp**.
-/

namespace ProxyMesh.Time

open Text (isDigit)

/-! ## dates -/

namespace Civil

/-- the years of an era, counted with their leap days, end where the next ones begin -/
theorem dayOfYear_bounds {d y : Int} (hd : 0 ≤ d ∧ d < 146097)
    (hy : y = (d - d / 1460 + d / 36524 - d / 146096) / 365) :
    0 ≤ d - (365 * y + y / 4 - y / 100) ∧ d - (365 * y + y / 4 - y / 100) ≤ 365 := by
  -- within one century the bounds are linear
  have hcentury : d / 36524 = 0 ∨ d / 36524 = 1 ∨ d / 36524 = 2 ∨ d / 36524 = 3 ∨ d / 36524 = 4 := by
    omega
  have hyears : y / 100 = 0 ∨ y / 100 = 1 ∨ y / 100 = 2 ∨ y / 100 = 3 := by omega
  have hlast : d / 146096 = 0 ∨ d / 146096 = 1 := by omega
  rcases hcentury with hc | hc | hc | hc | hc <;> rcases hyears with hi | hi | hi | hi <;>
    rcases hlast with hl | hl <;> rw [hc, hl] at hy <;> omega

/-- the day of a date whose months are counted from March on -/
theorem toDays_fromMarch {year month day : Int} (hmonth : 0 ≤ month ∧ month < 12) (hday : 0 ≤ day) :
    toDays (if month < 10 then ⟨year, (month + 3).toNat, day.toNat⟩
      else ⟨year + 1, (month - 9).toNat, day.toNat⟩) =
    year / 400 * 146097 + ((year - year / 400 * 400) * 365 + (year - year / 400 * 400) / 4 -
      (year - year / 400 * 400) / 100 + ((153 * month + 2) / 5 + day - 1)) - 719468 := by
  split
  · have hyear : ¬(month + 3).toNat ≤ 2 := by omega
    have hback : (((month + 3).toNat : Int) + 9) % 12 = month := by omega
    unfold toDays
    dsimp only
    rw [if_neg hyear, hback, Int.toNat_of_nonneg hday]
  · have hyear : (month - 9).toNat ≤ 2 := by omega
    have hback : (((month - 9).toNat : Int) + 9) % 12 = month := by omega
    unfold toDays
    dsimp only
    rw [if_pos hyear, hback, Int.toNat_of_nonneg hday, Int.add_sub_cancel]

theorem toDays_ofDays (days : Int) : (ofDays days).toDays = days := by
  unfold ofDays
  dsimp only
  generalize hera : (days + 719468) / 146097 = era
  generalize hd : days + 719468 - era * 146097 = d
  generalize hy : (d - d / 1460 + d / 36524 - d / 146096) / 365 = y
  obtain ⟨hfirst, hlast⟩ := dayOfYear_bounds (by omega) hy.symm
  generalize hday : d - (365 * y + y / 4 - y / 100) = day at *
  have hyear : (y + era * 400) / 400 = era := by omega
  rw [toDays_fromMarch (by omega) (by omega), hyear, Int.add_sub_cancel]
  omega

theorem year_ofDays_nonneg {days : Int} (h : 0 ≤ days) : 0 ≤ (ofDays days).year := by
  unfold ofDays
  dsimp only
  split <;> dsimp only <;> omega

end Civil

/-! ## numbers of a fixed width -/

theorem toList_padded (width n : Nat) : (padded width n).toList =
    List.replicate (width - (toString n).length) '0' ++ Nat.toDigits 10 n := by
  unfold padded
  rw [String.toList_append, String.toList_ofList, show (toString n).toList = Nat.toDigits 10 n from
    Nat.toList_repr]

theorem isDigit_of_mem_padded {width n : Nat} {c : Char} (h : c ∈ (padded width n).toList) :
    isDigit c = true := by
  rw [toList_padded] at h
  exact Text.isDigit_of_mem_zeros_append h

theorem not_mem_padded {c : Char} (hc : isDigit c = false) (width n : Nat) :
    c ∉ (padded width n).toList := by
  intro h
  rw [isDigit_of_mem_padded h] at hc
  cases hc

theorem padded_inj {width m n : Nat} (h : padded width m = padded width n) : m = n := by
  have hvalue : ∀ k, Text.digitsValue (padded width k).toList = k := by
    intro k
    rw [toList_padded, Text.digitsValue_zeros_append]
  rw [← hvalue m, h, hvalue]

/-- only years of more than four digits have a sign -/
theorem yearText_eq {year : Int} (h : 0 ≤ year) :
    yearText year = (if year ≤ 9999 then "" else "+") ++ padded 4 year.toNat := by
  unfold yearText
  by_cases hfour : year ≤ 9999
  · rw [if_pos (by simp [h, hfour]), if_pos hfour, String.empty_append]
  · rw [if_neg (by simp [hfour]), if_neg (by omega), if_neg hfour,
      show year.natAbs = year.toNat by omega]

theorem mem_yearText {year : Int} (h : 0 ≤ year) {c : Char} (hc : c ∈ (yearText year).toList) :
    isDigit c = true ∨ c = '+' := by
  rw [yearText_eq h, String.toList_append] at hc
  rcases List.mem_append.1 hc with hc | hc
  · split at hc
    · cases hc
    · exact Or.inr (List.mem_singleton.1 hc)
  · exact Or.inl (isDigit_of_mem_padded hc)

theorem yearText_inj {a b : Int} (ha : 0 ≤ a) (hb : 0 ≤ b) (h : yearText a = yearText b) : a = b := by
  have hplus : ∀ n, '+' ∉ (padded 4 n).toList := not_mem_padded (by decide) 4
  have hsame : padded 4 a.toNat = padded 4 b.toNat := by
    rw [yearText_eq ha, yearText_eq hb] at h
    split at h <;> split at h
    · exact (String.append_right_inj "").1 h
    · refine absurd ?_ (hplus a.toNat)
      rw [← String.empty_append (s := padded 4 a.toNat), h, String.toList_append]
      exact List.mem_cons_self
    · refine absurd ?_ (hplus b.toNat)
      rw [← String.empty_append (s := padded 4 b.toNat), ← h, String.toList_append]
      exact List.mem_cons_self
    · exact (String.append_right_inj "+").1 h
  have hnat := padded_inj hsame
  omega

/-! ## timestamps -/

def dateText (c : Civil) : String :=
  yearText c.year ++ ("-" ++ (padded 2 c.month ++ ("-" ++ padded 2 c.day)))

/-- the time of day, after so many of its seconds -/
def clockText (s : Nat) : String :=
  padded 2 (s / 3600) ++ (":" ++ (padded 2 (s / 60 % 60) ++ (":" ++ (padded 2 (s % 60) ++ "Z"))))

theorem timestampText_eq_some_iff {seconds : Nat} {text : String} :
    timestampText seconds = some text ↔ seconds ≤ secondsMax ∧
      dateText (Civil.ofDays (seconds / 86400 : Nat)) ++ ("T" ++ clockText (seconds % 86400)) = text := by
  unfold timestampText dateText clockText
  split
  next h => exact ⟨nofun, fun ⟨hfits, _⟩ => absurd hfits (Nat.not_le.2 h)⟩
  next h => simp only [Option.some.injEq, String.append_assoc, Nat.not_lt.1 h, true_and]

/-! ### their characters -/

theorem mem_dateText {date : Civil} (h : 0 ≤ date.year) {c : Char} (hc : c ∈ (dateText date).toList) :
    isDigit c = true ∨ c = '+' ∨ c = '-' := by
  unfold dateText at hc
  simp only [String.toList_append, List.mem_append] at hc
  rcases hc with hc | hc | hc | hc | hc
  · exact (mem_yearText h hc).imp_right Or.inl
  · exact Or.inr (Or.inr (List.mem_singleton.1 hc))
  · exact Or.inl (isDigit_of_mem_padded hc)
  · exact Or.inr (Or.inr (List.mem_singleton.1 hc))
  · exact Or.inl (isDigit_of_mem_padded hc)

theorem mem_clockText {s : Nat} {c : Char} (hc : c ∈ (clockText s).toList) :
    isDigit c = true ∨ c = ':' ∨ c = 'Z' := by
  unfold clockText at hc
  simp only [String.toList_append, List.mem_append] at hc
  rcases hc with hc | hc | hc | hc | hc | hc
  · exact Or.inl (isDigit_of_mem_padded hc)
  · exact Or.inr (Or.inl (List.mem_singleton.1 hc))
  · exact Or.inl (isDigit_of_mem_padded hc)
  · exact Or.inr (Or.inl (List.mem_singleton.1 hc))
  · exact Or.inl (isDigit_of_mem_padded hc)
  · exact Or.inr (Or.inr (List.mem_singleton.1 hc))

theorem year_ofDays_natCast (days : Nat) : 0 ≤ (Civil.ofDays days).year :=
  Civil.year_ofDays_nonneg (Int.natCast_nonneg days)

theorem mem_timestampText {seconds : Nat} {text : String} (h : timestampText seconds = some text)
    {c : Char} (hc : c ∈ text.toList) : isDigit c = true ∨ c ∈ ['+', '-', 'T', ':', 'Z'] := by
  obtain ⟨-, rfl⟩ := timestampText_eq_some_iff.1 h
  simp only [String.toList_append, List.mem_append] at hc
  rcases hc with hc | hc | hc
  · rcases mem_dateText (year_ofDays_natCast _) hc with hdigit | rfl | rfl
    · exact Or.inl hdigit
    · exact Or.inr (by decide)
    · exact Or.inr (by decide)
  · obtain rfl := List.mem_singleton.1 hc
    exact Or.inr (by decide)
  · rcases mem_clockText hc with hdigit | rfl | rfl
    · exact Or.inl hdigit
    · exact Or.inr (by decide)
    · exact Or.inr (by decide)

theorem not_mem_timestampText {seconds : Nat} {text : String} (h : timestampText seconds = some text)
    {c : Char} (hdigit : isDigit c = false) (hsign : c ∉ ['+', '-', 'T', ':', 'Z']) :
    c ∉ text.toList := by
  intro hc
  rcases mem_timestampText h hc with hmem | hmem
  · exact absurd (hdigit.symm.trans hmem) (by decide)
  · exact hsign hmem

/-! ### telling them apart -/

theorem dateText_inj {c d : Civil} (hc : 0 ≤ c.year) (hd : 0 ≤ d.year) (h : dateText c = dateText d) :
    c = d := by
  have hyear : ∀ {year : Int}, 0 ≤ year → '-' ∉ (yearText year).toList := by
    intro year hyear hmem
    rcases mem_yearText hyear hmem with h | h <;> exact absurd h (by decide)
  have hdash : ∀ n, '-' ∉ (padded 2 n).toList := not_mem_padded (by decide) 2
  obtain ⟨hy, h⟩ := Text.cut_inj rfl (hyear hc) (hyear hd) h
  obtain ⟨hm, h⟩ := Text.cut_inj rfl (hdash _) (hdash _) h
  obtain ⟨year, month, day⟩ := c
  obtain ⟨year', month', day'⟩ := d
  rw [Civil.mk.injEq]
  exact ⟨yearText_inj hc hd hy, padded_inj hm, padded_inj h⟩

theorem clockText_inj {s t : Nat} (hs : s < 86400) (ht : t < 86400) (h : clockText s = clockText t) :
    s = t := by
  have hcolon : ∀ n, ':' ∉ (padded 2 n).toList := not_mem_padded (by decide) 2
  obtain ⟨hhours, h⟩ := Text.cut_inj rfl (hcolon _) (hcolon _) h
  obtain ⟨hminutes, h⟩ := Text.cut_inj rfl (hcolon _) (hcolon _) h
  have hhours := padded_inj hhours
  have hminutes := padded_inj hminutes
  have hseconds := padded_inj ((String.append_left_inj "Z").1 h)
  omega

theorem timestampText_inj {s t : Nat} {text : String} (hs : timestampText s = some text)
    (ht : timestampText t = some text) : s = t := by
  have hmark : ∀ days : Nat, 'T' ∉ (dateText (Civil.ofDays days)).toList := by
    intro days hmem
    rcases mem_dateText (year_ofDays_natCast days) hmem with h | h | h <;> exact absurd h (by decide)
  have htexts := (timestampText_eq_some_iff.1 hs).2.trans (timestampText_eq_some_iff.1 ht).2.symm
  obtain ⟨hdate, hclock⟩ := Text.cut_inj rfl (hmark _) (hmark _) htexts
  have hdate := dateText_inj (year_ofDays_natCast _) (year_ofDays_natCast _) hdate
  have hdays : ((s / 86400 : Nat) : Int) = (t / 86400 : Nat) := by
    rw [← Civil.toDays_ofDays (s / 86400 : Nat), hdate, Civil.toDays_ofDays]
  have hseconds := clockText_inj (Nat.mod_lt s (by decide)) (Nat.mod_lt t (by decide)) hclock
  omega

end ProxyMesh.Time
