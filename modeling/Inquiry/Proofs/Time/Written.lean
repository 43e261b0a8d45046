import Inquiry.Time.Reader
import Mathlib.Algebra.Group.Nat.Defs

/-!
What is written of an instant is read as that instant.

The parts are taken one by one: `Reads` says that a reader takes exactly one written part off the
front of a text. Main statement: `Instant.read_text`.
-/
namespace Inquiry.Time

open Text (isBlank trimStart)

/-- A reader that takes `written` off a text in front of `rest`, and makes `a` of it. -/
def Reads {α : Type} (reader : Reader α) (written rest : List Char) (a : α) : Prop :=
  StateT.run reader (written ++ rest) = .ok (a, rest)

namespace Reads

variable {α β : Type} {written following rest : List Char} {a : α} {b : β}

theorem pure (a : α) (rest : List Char) : Reads (Pure.pure a : Reader α) [] rest a := rfl

theorem bind {reader : Reader α} {next : α → Reader β}
    (first : Reads reader written (following ++ rest) a)
    (second : Reads (next a) following rest b) :
    Reads (reader >>= next) (written ++ following) rest b := by
  unfold Reads at *
  rw [List.append_assoc, StateT.run_bind, first]
  exact second

/-- A first step that reads nothing. -/
theorem skip {reader : Reader α} {next : α → Reader β}
    (first : Reads reader [] (written ++ rest) a) (second : Reads (next a) written rest b) :
    Reads (reader >>= next) written rest b :=
  first.bind second

/-- A last step that reads nothing more. -/
theorem last {reader : Reader α} {next : α → Reader β} (first : Reads reader written rest a)
    (second : Reads (next a) [] rest b) : Reads (reader >>= next) written rest b := by
  have both : Reads (reader >>= next) (written ++ []) rest b := first.bind second
  rwa [List.append_nil] at both

theorem get {next : List Char → Reader α}
    (following : Reads (next (written ++ rest)) written rest a) :
    Reads (MonadState.get >>= next) written rest a := by
  unfold Reads at *
  rw [StateT.run_bind, StateT.run_get, pure_bind]
  exact following

/-- What comes in front of what is left is dropped. -/
theorem set {next : Reader α} (dropped : List Char) (following : Reads next written rest a) :
    Reads (do MonadStateOf.set (written ++ rest); next) (dropped ++ written) rest a := by
  unfold Reads at *
  rw [StateT.run_bind, StateT.run_set, pure_bind]
  exact following

theorem seqRight {reader : Reader α} {next : Reader β}
    (first : Reads reader [] (written ++ rest) a) (second : Reads next written rest b) :
    Reads (reader *> next) written rest b := by
  unfold Reads at *
  rw [List.nil_append] at first
  rw [StateT.run_seqRight, first]
  exact second

end Reads

theorem reads_mark (c : Char) (rest : List Char) : Reads (readMark c) [c] rest () := by
  unfold Reads readMark
  simp
  rfl

/-- Nothing is skipped in front of a character that is no blank. -/
theorem reads_blanks {c : Char} (h : isBlank c = false) (rest : List Char) :
    Reads readBlanks [] (c :: rest) () := by
  unfold Reads readBlanks
  simp [trimStart, h]
  rfl

theorem isBlank_of_isDigit {c : Char} (h : c.isDigit = true) : isBlank c = false := by
  have range := Char.isDigit_iff_toNat.mp h
  have low : 48 ≤ c.toNat := range.1
  have high : c.toNat ≤ 57 := range.2
  simp only [isBlank, Bool.or_eq_false_iff, Bool.and_eq_false_iff, beq_eq_false_iff_ne,
    decide_eq_false_iff_not]
  omega

/-- The digits in which a number is padded. -/
def digitsOf (width n : Nat) : List Char :=
  List.replicate (width - (Nat.toDigits 10 n).length) '0' ++ Nat.toDigits 10 n

theorem padded_toList (width n : Nat) : (Instant.padded width n).toList = digitsOf width n := by
  simp [Instant.padded, digitsOf]

theorem isDigit_of_mem_digitsOf {width n : Nat} {c : Char} (h : c ∈ digitsOf width n) :
    c.isDigit = true := by
  rcases List.mem_append.mp h with h | h
  · rw [List.eq_of_mem_replicate h]; rfl
  · exact Nat.isDigit_of_mem_toDigits (by decide) (by decide) h

theorem digitsValue_eq (digits : List Char) :
    digitsValue digits = Nat.ofDigitChars 10 digits 0 := by
  simp only [digitsValue, Nat.ofDigitChars_eq_foldl, Nat.mul_comm]

@[simp] theorem digitsValue_digitsOf (width n : Nat) : digitsValue (digitsOf width n) = n := by
  rw [digitsValue_eq, digitsOf, Nat.ofDigitChars_append, Nat.ofDigitChars_replicate_zero,
    Nat.mul_zero, Nat.ofDigitChars_ten_toDigits]

theorem length_digitsOf {width n : Nat} (pos : 0 < width) (h : n < 10 ^ width) :
    (digitsOf width n).length = width := by
  have := (Nat.length_toDigits_le_iff (n := n) (b := 10) (by decide) pos).mpr h
  simp only [digitsOf, List.length_append, List.length_replicate]
  omega

theorem one_le_length_digitsOf (width n : Nat) : 1 ≤ (digitsOf width n).length := by
  have : 0 < (Nat.toDigits 10 n).length := Nat.length_toDigits_pos
  simp only [digitsOf, List.length_append]
  omega

/-- Digits are read to the greatest number that is allowed, or up to what is no digit. -/
theorem reads_number {digits rest : List Char} {least : Nat} {most : Option Nat}
    (all : ∀ c ∈ digits, c.isDigit = true) (enough : least ≤ digits.length)
    (ends : most = some digits.length ∨
      rest.takeWhile Char.isDigit = [] ∧ ∀ n ∈ most, digits.length ≤ n)
    (bound : digitsValue digits < 2 ^ 63) :
    Reads (readNumber least most) digits rest (digitsValue digits) := by
  have run : (digits ++ rest).takeWhile Char.isDigit = digits ++ rest.takeWhile Char.isDigit :=
    List.takeWhile_append_of_pos all
  have long : ¬ (digits ++ rest).length < least := by
    simp only [List.length_append]; omega
  have short : ¬ digits.length < least := by omega
  have small : ¬ Decimal.twoTo 63 ≤ digitsValue digits := Nat.not_le.mpr bound
  unfold Reads readNumber
  rcases ends with rfl | ⟨stop, most_le⟩
  · simp only [StateT.run_bind, StateT.run_get, pure_bind, run, List.take_left', if_neg long,
      if_neg short, if_neg small, StateT.run_set, StateT.run_pure, List.drop_left']
    rfl
  · cases most with
    | none =>
      simp only [StateT.run_bind, StateT.run_get, pure_bind, run, stop, List.append_nil,
        if_neg long, if_neg short, if_neg small, StateT.run_set, StateT.run_pure,
        List.drop_left']
      rfl
    | some n =>
      have whole : digits.take n = digits := List.take_of_length_le (most_le n rfl)
      simp only [StateT.run_bind, StateT.run_get, pure_bind, run, stop, List.append_nil, whole,
        if_neg long, if_neg short, if_neg small, StateT.run_set, StateT.run_pure,
        List.drop_left']
      rfl

/-- A padded number of exactly that width. -/
theorem reads_padded {width n least : Nat} (pos : 0 < width) (le : least ≤ width)
    (lt : n < 10 ^ width) (bound : n < 2 ^ 63) (rest : List Char) :
    Reads (readNumber least (some width)) (digitsOf width n) rest n := by
  have length := length_digitsOf pos lt
  have number : Reads (readNumber least (some width)) (digitsOf width n) rest
      (digitsValue (digitsOf width n)) :=
    reads_number (fun _ => isDigit_of_mem_digitsOf) (by omega) (.inl (by rw [length]))
      (by rwa [digitsValue_digitsOf])
  rwa [digitsValue_digitsOf] at number

theorem head_digitsOf (width n : Nat) :
    ∃ c digits, digitsOf width n = c :: digits ∧ c.isDigit = true := by
  have := one_le_length_digitsOf width n
  cases h : digitsOf width n with
  | nil => simp [h] at this
  | cons c digits =>
    exact ⟨c, digits, rfl, isDigit_of_mem_digitsOf (by rw [h]; exact List.mem_cons_self)⟩

/-- Nothing is skipped in front of a number. -/
theorem reads_blanks_digitsOf (width n : Nat) (rest : List Char) :
    Reads readBlanks [] (digitsOf width n ++ rest) () := by
  obtain ⟨c, digits, eq, digit⟩ := head_digitsOf width n
  rw [eq]
  exact reads_blanks (isBlank_of_isDigit digit) _

/-- A month, day, hour, minute or second. -/
theorem reads_two {low high n : Nat} (within : low ≤ n ∧ n ≤ high) (lt : n < 100)
    (rest : List Char) :
    Reads (readWithin low high Manner.loose.number) (digitsOf 2 n) rest n := by
  have number : Reads Manner.loose.number (digitsOf 2 n) rest n :=
    (reads_blanks_digitsOf 2 n rest).seqRight
      (reads_padded (by decide) (by decide) lt (by omega) rest)
  exact number.last (by rw [if_pos within]; exact .pure n rest)

/-- A mark, in front of which nothing is skipped. -/
theorem reads_gap_mark {α : Type} {c : Char} (h : isBlank c = false) {next : Reader α}
    {written rest : List Char} {a : α} (following : Reads next written rest a) :
    Reads (do Manner.loose.gap; readMark c; next) (c :: written) rest a :=
  (reads_blanks h _).skip ((reads_mark c _).bind following)

/-- The characters in which a year is written. -/
def yearChars (year : Int) : List Char :=
  if 0 ≤ year ∧ year ≤ 9999 then digitsOf 4 year.natAbs
  else (if year < 0 then '-' else '+') :: digitsOf 4 year.natAbs

theorem yearText_toList (year : Int) : (Instant.yearText year).toList = yearChars year := by
  unfold Instant.yearText yearChars
  split
  · exact padded_toList _ _
  · split <;> simp [padded_toList]

/-- A padded number up to what is no digit. -/
theorem reads_digitsOf {width n : Nat} {most : Option Nat} {c : Char} (stop : c.isDigit = false)
    (most_le : ∀ m ∈ most, (digitsOf width n).length ≤ m) (bound : n < 2 ^ 63)
    (rest : List Char) : Reads (readNumber 1 most) (digitsOf width n) (c :: rest) n := by
  have number : Reads (readNumber 1 most) (digitsOf width n) (c :: rest)
      (digitsValue (digitsOf width n)) :=
    reads_number (fun _ => isDigit_of_mem_digitsOf) (one_le_length_digitsOf _ _)
      (.inr ⟨by simp [stop], most_le⟩) (by rwa [digitsValue_digitsOf])
  rwa [digitsValue_digitsOf] at number

theorem reads_year {year : Int} (bounds : firstYear ≤ year ∧ year ≤ lastYear) (rest : List Char) :
    Reads readYear (yearChars year) ('-' :: rest) year := by
  have small : year.natAbs < 262144 := by
    unfold firstYear lastYear at bounds; omega
  have range : -(Decimal.twoTo 31 : Int) ≤ year ∧ year < Decimal.twoTo 31 := by
    have : (Decimal.twoTo 31 : Int) = 2147483648 := by decide
    omega
  have number : Reads (readNumber 1 none) (digitsOf 4 year.natAbs) ('-' :: rest) year.natAbs :=
    reads_digitsOf rfl (by simp) (by omega) rest
  unfold yearChars
  split
  · have abs : (year.natAbs : Int) = year := by omega
    have padded : Reads (readNumber 1 (some 4)) (digitsOf 4 year.natAbs) ('-' :: rest)
        year.natAbs := reads_padded (by decide) (by decide) (by omega) (by omega) _
    obtain ⟨c, digits, eq, digit⟩ := head_digitsOf 4 year.natAbs
    have minus : c ≠ '-' := by rintro rfl; exact absurd digit (by decide)
    have plus : c ≠ '+' := by rintro rfl; exact absurd digit (by decide)
    apply Reads.get
    simp only [eq, List.cons_append] at padded ⊢
    split
    · rename_i h; simp_all
    · rename_i h; simp_all
    · refine padded.last ?_
      simp only [abs, pure_bind, if_pos range]
      exact .pure year _
  · split
    · have abs : -(year.natAbs : Int) = year := by omega
      refine Reads.get (Reads.set ['-'] (number.last ?_))
      simp only [abs, pure_bind, if_pos range]
      exact .pure year _
    · have abs : (year.natAbs : Int) = year := by omega
      refine Reads.get (Reads.set ['+'] (number.last ?_))
      simp only [abs, pure_bind, if_pos range]
      exact .pure year _

theorem yearChars_head (year : Int) :
    ∃ c chars, yearChars year = c :: chars ∧ isBlank c = false := by
  unfold yearChars
  split
  · obtain ⟨c, digits, eq, digit⟩ := head_digitsOf 4 year.natAbs
    exact ⟨c, digits, eq, isBlank_of_isDigit digit⟩
  · exact ⟨_, _, rfl, by split <;> rfl⟩

theorem reads_date (d : Date) (rest : List Char) :
    Reads Manner.loose.readDate
      (yearChars d.year ++ '-' :: (digitsOf 2 d.month ++ '-' :: digitsOf 2 d.day)) rest
      (d.year, d.month, d.day) := by
  have day_le : d.day ≤ 31 := by
    have := d.day_bounds.2
    unfold daysIn at this
    split at this <;> try split at this
    all_goals omega
  have year : Reads Manner.loose.year (yearChars d.year)
      ('-' :: (digitsOf 2 d.month ++ '-' :: digitsOf 2 d.day) ++ rest) d.year := by
    obtain ⟨c, chars, eq, blank⟩ := yearChars_head d.year
    refine Reads.seqRight (a := ()) ?_ (reads_year d.year_bounds _)
    rw [eq]
    exact reads_blanks blank _
  refine year.bind (reads_gap_mark rfl ((reads_two d.month_bounds ?_ _).bind
    (reads_gap_mark rfl ((reads_two ⟨d.day_bounds.1, day_le⟩ ?_ _).last (.pure _ _)))))
  · have := d.month_bounds.2; omega
  · omega

/-- The characters in which a fraction is written. -/
theorem reads_fraction_digits {width n : Nat} (pos : 0 < width) (le : width ≤ 9)
    (lt : n < 10 ^ width) (rest : List Char) :
    Reads readFraction ('.' :: digitsOf width n) ('Z' :: rest)
      (n * Decimal.tenTo (9 - width)) := by
  have length := length_digitsOf pos lt
  have bound : n < 2 ^ 63 := by
    have : 10 ^ width ≤ 10 ^ 9 := Nat.pow_le_pow_right (by decide) le
    omega
  have number : Reads (readNumber 1 (some 9)) (digitsOf width n) ('Z' :: rest) n :=
    reads_digitsOf rfl (by simp [length, le]) bound rest
  refine Reads.get (Reads.set ['.'] (number.last (Reads.get ?_)))
  have left : (digitsOf width n ++ 'Z' :: rest).length - ('Z' :: rest).length = width := by
    simp [length]
  change Reads (do
    set (('Z' :: rest).dropWhile Char.isDigit)
    pure (n * Decimal.tenTo (9 - ((digitsOf width n ++ 'Z' :: rest).length
      - ('Z' :: rest).length)))) [] ('Z' :: rest) _
  rw [left]
  exact Reads.set [] (.pure _ _)

/-- The characters in which a fraction of a second is written. -/
def fractionChars (nanosecond : Nat) : List Char := (Instant.fractionText nanosecond).toList

theorem reads_fraction (nanosecond : Nat) (rest : List Char) :
    Reads readFraction (fractionChars nanosecond) ('Z' :: rest) (nanosecond % 1000000000) := by
  have lt : nanosecond % 1000000000 < 1000000000 := Nat.mod_lt _ (by decide)
  unfold fractionChars Instant.fractionText
  generalize nanosecond % 1000000000 = n at lt ⊢
  dsimp only
  have shown {width m : Nat} :
      ("." ++ Instant.padded width m).toList = '.' :: digitsOf width m := by
    simp [padded_toList]
  have read {width m : Nat} (pos : 0 < width) (le : width ≤ 9) (lt : m < 10 ^ width)
      (whole : m * Decimal.tenTo (9 - width) = n) :
      Reads readFraction ("." ++ Instant.padded width m).toList ('Z' :: rest) n := by
    rw [shown, ← whole]
    exact reads_fraction_digits pos le lt rest
  split
  · subst n
    exact .get (.pure 0 _)
  · split
    · refine read (by decide) (by decide) (by omega) ?_
      have unit : Decimal.tenTo (9 - 3) = 1000000 := by decide
      rw [unit]; omega
    · split
      · refine read (by decide) (by decide) (by omega) ?_
        have unit : Decimal.tenTo (9 - 6) = 1000 := by decide
        rw [unit]; omega
      · refine read (by decide) (by decide) (by omega) ?_
        have unit : Decimal.tenTo (9 - 9) = 1 := by decide
        rw [unit]; omega

namespace Clock

/-- The second that is written, which is the sixtieth for a leap second. -/
def writtenSecond (c : Clock) : Nat := if c.isLeap then c.second + 1 else c.second

theorem writtenSecond_le (c : Clock) : c.writtenSecond ≤ 60 := by
  have := c.second_lt
  unfold writtenSecond
  split <;> omega

theorem of?_written (c : Clock) :
    of? c.hour c.minute c.writtenSecond (c.nanosecond % 1000000000) = some c := by
  obtain ⟨hour, minute, second, nanosecond, hour_lt, minute_lt, second_lt, nanosecond_lt, leap⟩ := c
  by_cases h : 1000000000 ≤ nanosecond
  · have last : second = 59 := leap h
    have whole : nanosecond % 1000000000 + 1000000000 = nanosecond := by omega
    subst last
    simp only [of?, writtenSecond, isLeap, decide_eq_true_eq, if_pos h, if_true, whole]
    exact dif_pos ⟨hour_lt, minute_lt, second_lt, nanosecond_lt, fun _ => trivial⟩
  · have whole : nanosecond % 1000000000 = nanosecond := by omega
    have regular : second ≠ 60 := by omega
    simp only [of?, writtenSecond, isLeap, decide_eq_true_eq, if_neg h, if_neg regular, whole]
    exact dif_pos ⟨hour_lt, minute_lt, second_lt, nanosecond_lt, leap⟩

theorem back_zero (c : Clock) : c.back 0 = (c, 0) := by
  obtain ⟨hour, minute, second, nanosecond, hour_lt, minute_lt, second_lt, nanosecond_lt, leap⟩ := c
  have rest : ((((hour * 60 + minute : Nat) : Int) - 0) % 1440).toNat = hour * 60 + minute := by
    omega
  have days : (((hour * 60 + minute : Nat) : Int) - 0) / 1440 = 0 := by omega
  simp only [back, rest, days, Prod.mk.injEq, mk.injEq, and_true]
  omega

end Clock

theorem reads_clock (c : Clock) (rest : List Char) :
    Reads Manner.loose.readClock (digitsOf 2 c.hour ++ ':' :: (digitsOf 2 c.minute
      ++ ':' :: (digitsOf 2 c.writtenSecond ++ fractionChars c.nanosecond))) ('Z' :: rest)
      (c.hour, c.minute, c.writtenSecond, c.nanosecond % 1000000000) := by
  have hour := c.hour_lt
  have minute := c.minute_lt
  have second := c.writtenSecond_le
  exact (reads_two (by omega) (by omega) _).bind (reads_gap_mark rfl
    ((reads_two (by omega) (by omega) _).bind (reads_gap_mark rfl
      ((reads_two (by omega) (by omega) _).bind ((reads_fraction _ _).last (.pure _ _))))))

theorem resolve_written (t : Instant) :
    resolve (t.date.year, t.date.month, t.date.day)
      (t.clock.hour, t.clock.minute, t.clock.writtenSecond, t.clock.nanosecond % 1000000000) 0
      = .ok t := by
  have date : Date.of? t.date.year t.date.month t.date.day = some t.date :=
    dif_pos ⟨t.date.year_bounds, t.date.month_bounds, t.date.day_bounds⟩
  simp [resolve, date, t.clock.of?_written, Instant.ofLocal?, Clock.back_zero]
  rfl

theorem run_of_reads {α : Type} {reader : Reader α} {text : String} {a : α}
    (h : Reads reader text.toList [] a) : Reader.run text reader = .ok a := by
  unfold Reads at h
  rw [List.append_nil] at h
  unfold Reader.run
  rw [h]
  rfl

/-- The characters in which an instant is written. -/
theorem text_toList (t : Instant) :
    t.text.toList = (yearChars t.date.year ++ '-' :: (digitsOf 2 t.date.month
      ++ '-' :: digitsOf 2 t.date.day)) ++ ('T' :: ((digitsOf 2 t.clock.hour
      ++ ':' :: (digitsOf 2 t.clock.minute ++ ':' :: (digitsOf 2 t.clock.writtenSecond
      ++ fractionChars t.clock.nanosecond))) ++ ['Z'])) := by
  simp [Instant.text, yearText_toList, padded_toList, fractionChars, Clock.writtenSecond]

/-- What is written of an instant is read as that instant. -/
theorem Instant.read_text (t : Instant) : Instant.read t.text = .ok t := by
  have ending : Reads (readEnd >>= fun _ => liftM (resolve
      (t.date.year, t.date.month, t.date.day)
      (t.clock.hour, t.clock.minute, t.clock.writtenSecond, t.clock.nanosecond % 1000000000)
      0)) [] [] t := by
    unfold Reads
    rw [resolve_written]
    rfl
  have trailing : Reads readBlanks [] [] () := rfl
  have zone : Reads readLooseOffset ['Z'] [] 0 := rfl
  have separator (rest : List Char) : Reads readSeparator ['T'] rest () := rfl
  apply run_of_reads
  rw [text_toList]
  refine (reads_date t.date _).bind ((separator _).bind ((reads_clock t.clock _).bind ?_))
  exact (reads_blanks rfl []).skip (zone.last (trailing.skip ending))

end Inquiry.Time
