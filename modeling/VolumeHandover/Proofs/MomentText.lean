import VolumeHandover.Object.Moment

set_option autoImplicit false

/-! # Moments are read as they are written

The written form of a moment reads as that moment again (`Moment.read_text`). Each part of it is
a number that ends where something follows that is no digit, and leading zeros change nothing,
so the parts are read one after the other.
-/

namespace VolumeHandover

namespace Moment

open CivilTime

variable {places most n : Nat} {rest : List Char}

/-! ## Numbers -/

theorem isBlank_of_isDigit {c : Char} (h : c.isDigit = true) : isBlank c = false := by
  obtain ⟨least, most⟩ := Char.isDigit_iff_toNat.mp h
  have lower : 48 ≤ c.toNat := least
  have upper : c.toNat ≤ 57 := most
  simp only [isBlank, inRanges, blankRanges, List.any_cons, List.any_nil, Bool.or_false,
    Bool.or_eq_false_iff, Bool.and_eq_false_iff, decide_eq_false_iff_not]
  omega

/-- The characters of a padded number. -/
def digitsOf (places n : Nat) : List Char := (padded places n).toList

theorem digitsOf_eq (places n : Nat) : digitsOf places n =
    List.replicate (places - (Nat.toDigits 10 n).length) '0' ++ Nat.toDigits 10 n :=
  String.toList_ofList

theorem isDigit_of_mem_digitsOf {c : Char} (h : c ∈ digitsOf places n) : c.isDigit = true := by
  rw [digitsOf_eq] at h
  rcases List.mem_append.mp h with zero | digit
  · rw [List.eq_of_mem_replicate zero]
    rfl
  · exact Nat.isDigit_of_mem_toDigits (by decide) (Nat.le_refl 10) digit

theorem digitsOf_value (places n : Nat) : Nat.ofDigitChars 10 (digitsOf places n) 0 = n := by
  rw [digitsOf_eq, Nat.ofDigitChars_append, Nat.ofDigitChars_replicate_zero, Nat.mul_zero]
  exact Nat.ofDigitChars_ten_toDigits

theorem digitsOf_ne_nil : digitsOf places n ≠ [] := by
  intro h
  rw [digitsOf_eq] at h
  exact Nat.toDigits_ne_nil (List.append_eq_nil_iff.mp h).2

/-- A number that fits its places takes up just these. -/
theorem length_digitsOf (fits : (Nat.toDigits 10 n).length ≤ places) :
    (digitsOf places n).length = places := by
  rw [digitsOf_eq, List.length_append, List.length_replicate]
  omega

theorem skipBlanks_digitsOf :
    skipBlanks (digitsOf places n ++ rest) = digitsOf places n ++ rest := by
  cases h : digitsOf places n with
  | nil => exact absurd h digitsOf_ne_nil
  | cons c cs =>
      have digit : c.isDigit = true := isDigit_of_mem_digitsOf (h ▸ List.mem_cons_self)
      rw [List.cons_append, skipBlanks, List.dropWhile_cons_of_neg]
      rw [isBlank_of_isDigit digit]
      exact Bool.false_ne_true

/-- A number is read up to what follows it. -/
theorem digits_digitsOf (fits : (digitsOf places n).length ≤ most)
    (stop : rest.takeWhile Char.isDigit = []) :
    digits? most (digitsOf places n ++ rest) = some (n, rest) := by
  have run : ((digitsOf places n ++ rest).takeWhile Char.isDigit).take most =
      digitsOf places n := by
    rw [List.takeWhile_append_of_pos fun c hc => isDigit_of_mem_digitsOf hc, stop,
      List.append_nil, List.take_of_length_le fits]
  unfold digits?
  rw [run]
  split
  · rename_i nil
    exact absurd nil digitsOf_ne_nil
  · rw [digitsOf_value, List.drop_left]

/-- A number of two places is read as a part. -/
theorem part_digitsOf {c : Char} (stop : c.isDigit = false) (fits : n < 100) :
    part? (digitsOf 2 n ++ c :: rest) = some (n, c :: rest) := by
  have ends : (c :: rest).takeWhile Char.isDigit = [] :=
    List.takeWhile_cons_of_neg (by rw [stop]; exact Bool.false_ne_true)
  have short : (Nat.toDigits 10 n).length ≤ 2 :=
    (Nat.length_toDigits_le_iff (by decide) (by decide)).mpr fits
  rw [part?, skipBlanks_digitsOf]
  exact digits_digitsOf (Nat.le_of_eq (length_digitsOf short)) ends

/-! ## Years -/

theorem toList_yearText (year : Int) : (yearText year).toList =
    if year < 0 then '-' :: digitsOf 4 year.natAbs
    else if 9999 < year then '+' :: digitsOf 4 year.natAbs
    else digitsOf 4 year.natAbs := by
  unfold yearText
  by_cases before : year < 0
  · rw [if_pos before]
    simp only [if_pos before, String.toList_append]
    rfl
  · rw [if_neg before]
    simp only [if_neg before]
    by_cases late : 9999 < year
    · rw [if_pos late]
      simp only [if_pos late, String.toList_append]
      rfl
    · rw [if_neg late]
      simp only [if_neg late]
      rfl

/-- The digits of a year without a sign are read as a year. -/
theorem year_digitsOf (short : n < 10000) (stop : rest.takeWhile Char.isDigit = []) :
    year? (digitsOf 4 n ++ rest) = some (Int.ofNat n, rest) := by
  have unsigned (c : Char) (cs : List Char) (h : digitsOf 4 n ++ rest = c :: cs) :
      c.isDigit = true := by
    cases hd : digitsOf 4 n with
    | nil => exact absurd hd digitsOf_ne_nil
    | cons d ds =>
        rw [hd, List.cons_append] at h
        rw [← (List.cons.inj h).1]
        exact isDigit_of_mem_digitsOf (hd ▸ List.mem_cons_self)
  rw [year?, skipBlanks_digitsOf]
  split
  · rename_i minus
    exact absurd (unsigned _ _ minus) (by decide)
  · rename_i plus
    exact absurd (unsigned _ _ plus) (by decide)
  · have fits : (Nat.toDigits 10 n).length ≤ 4 :=
      (Nat.length_toDigits_le_iff (by decide) (by decide)).mpr short
    rw [digits_digitsOf (Nat.le_of_eq (length_digitsOf fits)) stop]
    rfl

theorem year_minus (s : List Char) : year? ('-' :: s) =
    (digits? s.length s).map fun (n, rest) => (-Int.ofNat n, rest) := rfl

theorem year_plus (s : List Char) : year? ('+' :: s) =
    (digits? s.length s).map fun (n, rest) => (Int.ofNat n, rest) := rfl

theorem year_yearText (year : Int) (stop : rest.takeWhile Char.isDigit = []) :
    year? ((yearText year).toList ++ rest) = some (year, rest) := by
  -- behind a sign, all digits that are there belong to the year
  have signed : digits? (digitsOf 4 year.natAbs ++ rest).length (digitsOf 4 year.natAbs ++ rest) =
      some (year.natAbs, rest) := by
    refine digits_digitsOf ?_ stop
    rw [List.length_append]
    omega
  rw [toList_yearText]
  by_cases before : year < 0
  · have value : -Int.ofNat year.natAbs = year := by
      rw [Int.ofNat_eq_natCast]
      omega
    rw [if_pos before, List.cons_append, year_minus, signed]
    exact congrArg (fun y => some (y, rest)) value
  · have value : Int.ofNat year.natAbs = year := by
      rw [Int.ofNat_eq_natCast]
      omega
    rw [if_neg before]
    by_cases late : 9999 < year
    · rw [if_pos late, List.cons_append, year_plus, signed]
      exact congrArg (fun y => some (y, rest)) value
    · have short : year.natAbs < 10000 := by omega
      rw [if_neg late, year_digitsOf short stop, value]

/-! ## Moments -/

theorem mark_cons {c : Char} (visible : isBlank c = false) : mark? c (c :: rest) = some rest := by
  have shown : skipBlanks (c :: rest) = c :: rest := by
    rw [skipBlanks, List.dropWhile_cons_of_neg]
    rw [visible]
    exact Bool.false_ne_true
  rw [mark?, shown]
  exact if_pos rfl

theorem zone_utc : zone? (skipBlanks ['Z']) = some (0, []) := by decide

/-- A time that is there lies no minutes before itself. -/
theorem earlier_zero {c : CivilTime} (valid : c.isValid = true) : c.earlier 0 = c := by
  have bounds : c.hour ≤ 23 ∧ c.minute ≤ 59 := by
    simp only [isValid, Bool.and_eq_true, decide_eq_true_eq] at valid
    omega
  have time : Int.ofNat (c.hour * 60 + c.minute) - 0 = ((c.hour * 60 + c.minute : Nat) : Int) :=
    Int.sub_zero _
  have day : ((c.hour * 60 + c.minute : Nat) : Int) % 1440 = (c.hour * 60 + c.minute : Nat) := by
    omega
  have hour : (c.hour * 60 + c.minute) / 60 = c.hour := by omega
  have minute : (c.hour * 60 + c.minute) % 60 = c.minute := by omega
  unfold earlier
  dsimp only
  rw [time, if_neg (by omega), if_neg (by omega), day, Int.toNat_natCast, hour, minute]

theorem ofCivil_civil (m : Moment) : ofCivil? m.civil = some m := dif_pos m.valid

/-- **The written form of a moment reads as the moment.** -/
theorem read_text (m : Moment) : read? m.text = some m := by
  have bounds : m.civil.month < 100 ∧ m.civil.day < 100 ∧ m.civil.hour < 100 ∧
      m.civil.minute < 100 ∧ m.civil.second < 100 := by
    have valid := m.valid
    simp only [isValid, Bool.and_eq_true, decide_eq_true_eq] at valid
    have days : daysInMonth m.civil.year m.civil.month ≤ 31 := by
      unfold daysInMonth
      split
      · split <;> decide
      · split <;> decide
    omega
  obtain ⟨month, day, hour, minute, second⟩ := bounds
  have text : m.text.toList = (yearText m.civil.year).toList ++
      '-' :: (digitsOf 2 m.civil.month ++ '-' :: (digitsOf 2 m.civil.day ++
        'T' :: (digitsOf 2 m.civil.hour ++ ':' :: (digitsOf 2 m.civil.minute ++
          ':' :: (digitsOf 2 m.civil.second ++ ['Z']))))) := by
    simp only [Moment.text, CivilTime.text, digitsOf, String.toList_append, String.reduceToList,
      List.append_assoc, List.cons_append, List.nil_append]
  have fraction : fraction? ['Z'] = some ['Z'] := rfl
  have there : ((skipBlanks []).isEmpty && m.civil.isValid) = true := m.valid
  unfold read?
  rw [text, year_yearText _ rfl]
  dsimp only [Option.bind_eq_bind]
  rw [Option.bind_some, mark_cons (c := '-') (by decide), Option.bind_some,
    part_digitsOf (c := '-') (by decide) month, Option.bind_some,
    mark_cons (c := '-') (by decide), Option.bind_some,
    part_digitsOf (c := 'T') (by decide) day, Option.bind_some]
  dsimp only
  -- a mark stands between the date and the time
  rw [if_pos (by decide), Option.bind_some,
    part_digitsOf (c := ':') (by decide) hour, Option.bind_some,
    mark_cons (c := ':') (by decide), Option.bind_some,
    part_digitsOf (c := ':') (by decide) minute, Option.bind_some,
    mark_cons (c := ':') (by decide), Option.bind_some,
    part_digitsOf (c := 'Z') (by decide) second, Option.bind_some,
    fraction, Option.bind_some, zone_utc, Option.bind_some]
  dsimp only
  rw [if_pos there, earlier_zero m.valid, ofCivil_civil]

end Moment

end VolumeHandover
