import PodCheck.Proofs.Digits
import PodCheck.Timestamp

/-! # Timestamps that are read back

A moment on a whole second is read back from its text (`Timestamp.read?_text`), in every year of the
calendar: years that four digits do not hold have a sign, and their digits end at the first dash. -/

namespace PodCheck

/-- There are no blanks to skip before a digit. -/
theorem Text.isBlank_of_isDigit {c : Char} (h : c.isDigit = true) : isBlank c = false := by
  have hrange : 48 ≤ c.toNat ∧ c.toNat ≤ 57 := by
    simpa [Char.isDigit, UInt32.le_iff_toNat_le] using h
  simp only [isBlank, Bool.or_eq_false_iff, Bool.and_eq_false_iff, decide_eq_false_iff_not]
  omega

/-- There are no blanks to skip before what is none. -/
theorem Text.skipBlanks_cons {c : Char} (h : isBlank c = false) (s : List Char) :
    skipBlanks (c :: s) = c :: s := by
  simp [skipBlanks, h]

/-- A day is the day of its year, month and day of the month. -/
theorem Day.of?_self (d : Day) : Day.of? d.year d.month d.day = some d := by
  rw [of?, dif_pos ⟨d.year_mem, d.month_mem, d.day_mem⟩]

namespace Timestamp

/-! ## Numbers -/

/-- A padded number that needs no more digits has the given number of them. -/
theorem length_padded {width n : Nat} (hwidth : 0 < width) (h : n < Nat.pow 10 width) :
    (padded width n).length = width := by
  have hlength := (Nat.length_toDigits_le_iff (by decide) hwidth).2 h
  simp only [padded, List.length_append, List.length_replicate]
  omega

/-- A padded number consists of digits. -/
theorem isDigit_of_mem_padded {width n : Nat} {c : Char} (h : c ∈ padded width n) :
    c.isDigit = true := Digits.isDigit_of_mem h

/-- A padded number begins with a digit. -/
theorem padded_cons (width n : Nat) :
    ∃ c r, padded width n = c :: r ∧ Text.isBlank c = false ∧ c ≠ '-' ∧ c ≠ '+' := by
  have hne : padded width n ≠ [] := by simp [padded]
  obtain ⟨c, r, hcons⟩ := List.exists_cons_of_ne_nil hne
  have hdigit : c.isDigit = true := isDigit_of_mem_padded (hcons ▸ List.mem_cons_self ..)
  refine ⟨c, r, hcons, Text.isBlank_of_isDigit hdigit, ?_, ?_⟩ <;> rintro rfl <;> simp at hdigit

/-- Digits that are found are read as the number that they were written for. -/
theorem readDigits?_of_found {most width n : Nat} {rest : List Char}
    (h : ((padded width n ++ rest).take most).takeWhile Char.isDigit = padded width n) :
    readDigits? most (padded width n ++ rest) = some (n, rest) := by
  have hvalue : digitsValue (padded width n) = n := Digits.value_toDigits _ n
  obtain ⟨c, r, hcons, -⟩ := padded_cons width n
  rw [readDigits?, h, hvalue, List.drop_left]
  simp [hcons]

/-- A number of a fixed width is read, whatever it is followed by. -/
theorem readDigits?_padded {width n : Nat} (hwidth : 0 < width) (h : n < Nat.pow 10 width)
    (rest : List Char) : readDigits? width (padded width n ++ rest) = some (n, rest) := by
  have hlength := length_padded hwidth h
  have hdigits : ∀ c ∈ padded width n, c.isDigit = true := fun c hc => isDigit_of_mem_padded hc
  apply readDigits?_of_found
  rw [List.take_append_of_le_length (by omega), List.take_of_length_le (by omega)]
  have hfound : (padded width n ++ []).takeWhile Char.isDigit = padded width n :=
    (Digits.takeWhile_append hdigits (by simp)).1
  rwa [List.append_nil] at hfound

/-- A number of any width is read up to the dash behind it. -/
theorem readDigits?_padded_dash (width n : Nat) (rest : List Char) :
    readDigits? (padded width n ++ '-' :: rest).length (padded width n ++ '-' :: rest)
      = some (n, '-' :: rest) := by
  apply readDigits?_of_found
  rw [List.take_length]
  exact (Digits.takeWhile_append (fun c hc => isDigit_of_mem_padded hc) (by simp)).1

/-- **A year is read back**, up to the dash behind it. -/
theorem readYear?_yearChars (year : Int) (rest : List Char) :
    readYear? (yearChars year ++ '-' :: rest) = some (year, '-' :: rest) := by
  unfold yearChars
  split
  · rename_i hyear
    obtain ⟨c, r, hcons, hblank, hminus, hplus⟩ := padded_cons 4 year.toNat
    have hlt : year.toNat < 10000 := by omega
    have hread := readDigits?_padded (by decide : 0 < 4) hlt ('-' :: rest)
    rw [hcons, List.cons_append] at hread ⊢
    rw [readYear?, Text.skipBlanks_cons hblank]
    split
    · rename_i heq
      exact absurd (List.cons.inj heq).1 hminus
    · rename_i heq
      exact absurd (List.cons.inj heq).1 hplus
    · simp only [hread, Option.map_some, Int.toNat_of_nonneg hyear.1]
  · -- there is a sign, and the digits go as far as the dash
    have hread := readDigits?_padded_dash 4 year.natAbs rest
    by_cases hneg : year < 0
    · rw [if_pos hneg, List.cons_append, readYear?, Text.skipBlanks_cons (by decide)]
      have habs : -(year.natAbs : Int) = year := by omega
      simp only [hread, Option.map_some, habs]
    · rw [if_neg hneg, List.cons_append, readYear?, Text.skipBlanks_cons (by decide)]
      have habs : (year.natAbs : Int) = year := by omega
      simp only [hread, Option.map_some, habs]

/-- A number of two digits is read back, whatever it is followed by. -/
theorem readPair?_padded {n : Nat} (h : n < 100) (rest : List Char) :
    readPair? (padded 2 n ++ rest) = some (n, rest) := by
  obtain ⟨c, r, hcons, hblank, -⟩ := padded_cons 2 n
  have hread := readDigits?_padded (n := n) (by decide : 0 < 2) h rest
  rw [hcons, List.cons_append] at hread ⊢
  rw [readPair?, Text.skipBlanks_cons hblank, hread]

/-- A moment in UTC is that of its own day and time. -/
theorem ofLocal?_self (t : Timestamp) :
    ofLocal? t.date t.hour t.minute t.second t.nanos 0 = some t := by
  have hhour := t.hour_lt
  have hminute := t.minute_lt
  have hshifted : ((t.hour * 60 + t.minute : Nat) - 0 : Int) = (t.hour * 60 + t.minute : Nat) := by
    omega
  have hday : (((t.hour * 60 + t.minute : Nat) : Int) % 1440).toNat = t.hour * 60 + t.minute := by
    omega
  have hhours : (t.hour * 60 + t.minute) / 60 = t.hour := by omega
  have hminutes : (t.hour * 60 + t.minute) % 60 = t.minute := by omega
  simp only [ofLocal?, hshifted, hday, hhours, hminutes]
  rw [if_neg (by omega), if_pos (by omega), Option.bind_some,
    dif_pos ⟨hhour, t.second_le, t.nanos_lt⟩]

/-- A mark that is no blank is read. -/
theorem readMark?_self {mark : Char} (h : Text.isBlank mark = false) (rest : List Char) :
    readMark? mark (mark :: rest) = some rest := by
  rw [readMark?, Text.skipBlanks_cons h]
  exact if_pos rfl

/-- Every part of a moment besides the year has two digits. -/
theorem parts_lt (t : Timestamp) :
    t.date.month < 100 ∧ t.date.day < 100 ∧ t.hour < 100 ∧ t.minute < 100 ∧ t.second < 100 := by
  have hlength : daysInMonth t.date.year t.date.month ≤ 31 := by
    unfold daysInMonth
    split <;> (try split) <;> decide
  have hmonth := t.date.month_mem
  have hday := t.date.day_mem
  have hhour := t.hour_lt
  have hminute := t.minute_lt
  have hsecond := t.second_le
  omega

/-- The text of a moment, part by part. -/
theorem toList_text (t : Timestamp) :
    t.text.toList = yearChars t.date.year ++ '-' :: (padded 2 t.date.month ++ '-' ::
      (padded 2 t.date.day ++ 'T' :: (padded 2 t.hour ++ ':' :: (padded 2 t.minute ++ ':' ::
        (padded 2 t.second ++ ['Z']))))) := by
  simp only [text, String.toList_ofList, List.append_assoc, List.cons_append]

/-- **A moment on a whole second is read back from its text.** -/
theorem read?_text {t : Timestamp} (h : t.nanos = 0) : read? t.text = some t := by
  obtain ⟨hmonth, hday, hhour, hminute, hsecond⟩ := parts_lt t
  have hlocal := ofLocal?_self t
  rw [h] at hlocal
  have hdash : ∀ rest, readMark? '-' ('-' :: rest) = some rest := readMark?_self (by decide)
  have hcolon : ∀ rest, readMark? ':' (':' :: rest) = some rest := readMark?_self (by decide)
  have hseparator : ∀ rest, readSeparator? ('T' :: rest) = some rest := fun _ => rfl
  have hnanos : readNanos? ['Z'] = some (0, ['Z']) := rfl
  have hoffset : readOffset? ['Z'] = some (0, []) := rfl
  have hinDay : ¬(24 ≤ t.hour ∨ 60 ≤ t.minute) := by
    have hhour := t.hour_lt
    have hminute := t.minute_lt
    omega
  -- every part is read up to the mark behind it
  rw [read?, toList_text]
  refine Option.bind_eq_some_iff.2 ⟨_, readYear?_yearChars .., ?_⟩
  refine Option.bind_eq_some_iff.2 ⟨_, hdash _, ?_⟩
  refine Option.bind_eq_some_iff.2 ⟨_, readPair?_padded hmonth _, ?_⟩
  refine Option.bind_eq_some_iff.2 ⟨_, hdash _, ?_⟩
  refine Option.bind_eq_some_iff.2 ⟨_, readPair?_padded hday _, ?_⟩
  refine Option.bind_eq_some_iff.2 ⟨_, hseparator _, ?_⟩
  refine Option.bind_eq_some_iff.2 ⟨_, readPair?_padded hhour _, ?_⟩
  refine Option.bind_eq_some_iff.2 ⟨_, hcolon _, ?_⟩
  refine Option.bind_eq_some_iff.2 ⟨_, readPair?_padded hminute _, ?_⟩
  refine Option.bind_eq_some_iff.2 ⟨_, hcolon _, ?_⟩
  refine Option.bind_eq_some_iff.2 ⟨_, readPair?_padded hsecond _, ?_⟩
  refine Option.bind_eq_some_iff.2 ⟨_, hnanos, ?_⟩
  refine Option.bind_eq_some_iff.2 ⟨_, hoffset, ?_⟩
  dsimp only
  rw [if_neg (by simpa using hinDay)]
  exact Option.bind_eq_some_iff.2 ⟨t.date, Day.of?_self t.date, hlocal⟩

end Timestamp

end PodCheck
