import Mathlib.Data.List.Nodup
import ServerManagement.Proofs.Calendar.DayNumbers
import ServerManagement.Proofs.Decimal.DigitRows
import ServerManagement.Server.Ban

/-!
Expiry texts are read back as the moments that they were written for, to the second, with any blanks
around them. So every new ban tells when it ends. Only a leap second within a minute is shown, and
read back, as the second after it.
-/

set_option autoImplicit false

namespace ServerManagement

/-! ## Blanks -/

namespace Text

theorem isBlank_of_isDigit {c : Char} (digit : c.isDigit = true) : isBlank c = false := by
  simp only [Char.isDigit, ge_iff_le, UInt32.le_iff_toNat_le, Bool.and_eq_true,
    decide_eq_true_eq] at digit
  have low : 48 ≤ c.toNat := digit.1
  have high : c.toNat ≤ 57 := digit.2
  simp only [isBlank, Bool.or_eq_false_iff, Bool.and_eq_false_iff, beq_eq_false_iff_ne,
    decide_eq_false_iff_not]
  omega

/-- Nothing but the blanks around a text is trimmed if it starts and ends with none. -/
theorem trim_append {before row after : List Char} (blankBefore : ∀ c ∈ before, isBlank c = true)
    (blankAfter : ∀ c ∈ after, isBlank c = true) (first : ∃ c ∈ row.head?, isBlank c = false)
    (last : ∃ c ∈ row.getLast?, isBlank c = false) : trim (before ++ row ++ after) = row := by
  obtain ⟨c, head, solid⟩ := first
  obtain ⟨tail, rfl⟩ := List.head?_eq_some_iff.mp head
  have start : (before ++ c :: tail ++ after).dropWhile isBlank = c :: tail ++ after := by
    rw [List.append_assoc, List.dropWhile_append_of_pos blankBefore]
    simp [solid]
  obtain ⟨d, finish, solidToo⟩ := last
  obtain ⟨front, same⟩ := List.getLast?_eq_some_iff.mp finish
  rw [trim, start, trimEnd, List.reverse_append,
    List.dropWhile_append_of_pos (by simpa using blankAfter), same]
  simp [solidToo]

end Text

namespace Calendar

open Decimal

@[simp] theorem skipBlanks_space (text : List Char) : skipBlanks (' ' :: text) = skipBlanks text :=
  rfl

theorem skipBlanks_of_solid {text : List Char} (solid : ∀ c ∈ text.head?, Text.isBlank c = false) :
    skipBlanks text = text := by
  cases text with
  | nil => rfl
  | cons c text => simp [skipBlanks, solid c rfl]

theorem skipBlanks_digits {row : List Char} (digits : ∀ c ∈ row, c.isDigit = true)
    (filled : row ≠ []) (rest : List Char) : skipBlanks (row ++ rest) = row ++ rest := by
  obtain ⟨c, tail, rfl⟩ := List.exists_cons_of_ne_nil filled
  refine skipBlanks_of_solid ?_
  rintro d ⟨⟩
  exact Text.isBlank_of_isDigit (digits c (List.mem_cons_self ..))

/-! ## Names -/

theorem takeName?_nameAt {names : List String} {index : Nat} (within : index < names.length)
    (short : ∀ name ∈ names, name.toList.length = 3)
    (distinct : (names.map fun name => name.toList.map small).Nodup) (rest : List Char) :
    takeName? names (nameAt names index ++ rest) = some (index, rest) := by
  have name : nameAt names index = names[index].toList := by
    simp [nameAt, List.getD_eq_getElem?_getD, within]
  have length : (nameAt names index).length = 3 := name ▸ short _ (List.getElem_mem within)
  have start : (nameAt names index ++ rest).take 3 = names[index].toList := by
    rw [← length, List.take_left, name]
  have found : names.findIdx? (fun name => name.toList.map small ==
      ((nameAt names index ++ rest).take 3).map small) = some index := by
    rw [start, List.findIdx?_eq_some_iff_getElem]
    refine ⟨within, beq_self_eq_true _, fun other before same => ?_⟩
    have apart := List.pairwise_iff_getElem.mp distinct other index (by simp; omega)
      (by simpa using within) before
    exact apart (by simpa using same)
  rw [takeName?, found]
  simp only
  rw [← length, List.drop_left]

theorem weekday_lt (days : Int) : weekday days < 7 := by
  have low : 0 ≤ Int.fmod (days + 4) 7 := Int.fmod_nonneg_of_pos _ (by decide)
  have high : Int.fmod (days + 4) 7 < 7 := Int.fmod_lt_of_pos _ (by decide)
  unfold weekday
  omega

theorem takeName?_weekday (days : Int) (rest : List Char) :
    takeName? weekdayNames (nameAt weekdayNames (weekday days) ++ rest) =
      some (weekday days, rest) :=
  takeName?_nameAt (weekday_lt days) (by decide) (by decide) rest

theorem takeName?_month {index : Nat} (within : index < 12) (rest : List Char) :
    takeName? monthNames (skipBlanks (nameAt monthNames index ++ rest)) = some (index, rest) := by
  have visible : ∀ index < 12, (nameAt monthNames index).head?.any Text.isBlank = false := by
    decide
  have length : ∀ index < 12, nameAt monthNames index ≠ [] := by decide
  have solid : ∀ c ∈ (nameAt monthNames index ++ rest).head?, Text.isBlank c = false := by
    intro c head
    rw [List.head?_append_of_ne_nil _ (length index within)] at head
    have first := visible index within
    rwa [Option.mem_def.mp head] at first
  rw [skipBlanks_of_solid solid]
  exact takeName?_nameAt within (by decide) (by decide) rest

/-! ## Numbers -/

theorem takeNumber?_append {most : Nat} {row rest : List Char}
    (digits : ∀ c ∈ row, c.isDigit = true) (filled : row ≠ []) (short : row.length ≤ most)
    (ends : ∀ c ∈ rest.head?, c.isDigit = false) :
    takeNumber? most (row ++ rest) = some (ofDigits row, rest) := by
  have taken : ((row ++ rest).take most).takeWhile Char.isDigit = row := by
    rw [List.take_append, List.take_of_length_le short]
    refine takeWhile_append digits fun c head => ends c ?_
    rw [List.head?_take] at head
    split at head
    · cases head
    · exact head
  simp only [takeNumber?, taken]
  rw [if_neg filled, List.drop_left]

/-- A day is written after the blank that ends the month, and a short one after one more. -/
theorem takeShort?_dayText {day : Nat} (small : day < 100) {rest : List Char}
    (ends : ∀ c ∈ rest.head?, c.isDigit = false) :
    takeShort? (' ' :: (dayText day ++ rest)) = some (day, rest) := by
  have digits : ∀ c ∈ Decimal.digits day, c.isDigit = true := fun _ => isDigit_of_mem_digits
  have short := (length_digits_le_iff (by decide : 0 < 2)).mpr small
  have blank : ∀ c ∈ List.replicate (2 - (Decimal.digits day).length) ' ',
      Text.isBlank c = true := by
    intro c member
    exact List.eq_of_mem_replicate member ▸ rfl
  have skipped : skipBlanks (dayText day ++ rest) = Decimal.digits day ++ rest := by
    rw [dayText, List.append_assoc, skipBlanks, List.dropWhile_append_of_pos blank]
    exact skipBlanks_digits digits (digits_ne_nil day) rest
  rw [takeShort?, skipBlanks_space, skipped,
    takeNumber?_append digits (digits_ne_nil day) short ends, ofDigits_digits]

theorem takeShort?_padded {value : Nat} (small : value < 100) {rest : List Char}
    (ends : ∀ c ∈ rest.head?, c.isDigit = false) :
    takeShort? (padded 2 value ++ rest) = some (value, rest) := by
  have digits : ∀ c ∈ padded 2 value, c.isDigit = true := fun _ => isDigit_of_mem_padded
  have filled := padded_ne_nil 2 value
  have short := length_padded (by decide : 0 < 2) small
  rw [takeShort?, skipBlanks_digits digits filled,
    takeNumber?_append digits filled (Nat.le_of_eq short) ends, ofDigits_padded]

@[simp] theorem takeShort?_space (text : List Char) : takeShort? (' ' :: text) = takeShort? text :=
  rfl

theorem takeYear?_yearText (year : Int) : takeYear? (' ' :: yearText year) = some (year, []) := by
  have digits : ∀ c ∈ padded 4 year.natAbs, c.isDigit = true := fun _ => isDigit_of_mem_padded
  have filled := padded_ne_nil 4 year.natAbs
  have taken {most : Nat} (short : (padded 4 year.natAbs).length ≤ most) :
      takeNumber? most (padded 4 year.natAbs) = some (year.natAbs, []) := by
    have whole : takeNumber? most (padded 4 year.natAbs ++ []) = _ :=
      takeNumber?_append digits filled short nofun
    rwa [List.append_nil, ofDigits_padded] at whole
  unfold yearText
  split
  · rename_i negative
    have minus :
        skipBlanks (' ' :: '-' :: padded 4 year.natAbs) = '-' :: padded 4 year.natAbs := rfl
    have value : -(year.natAbs : Int) = year := by omega
    simp only [takeYear?, minus, taken (Nat.le_refl _), Option.map_some, value]
  have value : (year.natAbs : Int) = year := by omega
  split
  · have four : (padded 4 year.natAbs).length = 4 := length_padded (by decide) (by omega)
    have same := skipBlanks_digits digits filled []
    rw [List.append_nil] at same
    rw [takeYear?, skipBlanks_space, same]
    split
    · rename_i minus
      cases digits '-' (minus ▸ List.mem_cons_self ..)
    · rename_i plus
      cases digits '+' (plus ▸ List.mem_cons_self ..)
    · simp only [taken (Nat.le_of_eq four), Option.map_some, value]
  · have plus : skipBlanks (' ' :: '+' :: padded 4 year.natAbs) = '+' :: padded 4 year.natAbs := rfl
    simp only [takeYear?, plus, taken (Nat.le_refl _), Option.map_some, value]

/-! ## Whole texts -/

def Moment.parts (moment : Moment) : ExpiryParts where
  weekday := weekday moment.days
  month := moment.date.month
  day := moment.date.day
  hour := moment.secondOfDay / 3600
  minute := moment.secondOfDay / 60 % 60
  second := moment.shownSecond
  year := moment.date.year

/-- The moment to the second. A leap second is a second of its own. -/
def Moment.wholeSecond (moment : Moment) : Moment :=
  ⟨moment.seconds, if moment.nanos < nanosOfSecond then 0 else nanosOfSecond⟩

/-- The moment that an expiry text shows: the moment to the second, or the second after a leap
second that does not end a minute. -/
def Moment.shown (moment : Moment) : Moment :=
  if moment.isRegular then moment.wholeSecond else ⟨moment.seconds + 1, 0⟩

theorem Moment.secondOfDay_lt (moment : Moment) : moment.secondOfDay < 86400 := by
  have low : 0 ≤ Int.fmod moment.seconds secondsOfDay := Int.fmod_nonneg_of_pos _ (by decide)
  have high : Int.fmod moment.seconds secondsOfDay < 86400 := Int.fmod_lt_of_pos _ (by decide)
  unfold secondOfDay
  omega

theorem Moment.shownSecond_le (moment : Moment) : moment.shownSecond ≤ 60 := by
  unfold shownSecond
  split <;> omega

theorem Moment.date_bounds (moment : Moment) :
    1 ≤ moment.date.month ∧ moment.date.month ≤ 12 ∧
      1 ≤ moment.date.day ∧ moment.date.day ≤ 31 := by
  have valid : moment.date.isValid = true := Date.isValid_ofDays _
  simp only [Date.isValid, Bool.and_eq_true, decide_eq_true_eq] at valid
  obtain ⟨⟨⟨first, last⟩, start⟩, finish⟩ := valid
  refine ⟨first, last, start, Nat.le_trans finish ?_⟩
  unfold monthLength
  split <;> split <;> omega

theorem read?_expiryChars (moment : Moment) :
    ExpiryParts.read? moment.expiryChars = some moment.parts := by
  obtain ⟨month, lastMonth, day, lastDay⟩ := moment.date_bounds
  have seconds := moment.secondOfDay_lt
  have shown := moment.shownSecond_le
  have index : moment.date.month - 1 < 12 := by omega
  have back : moment.date.month - 1 + 1 = moment.date.month := by omega
  have space (text : List Char) : ∀ c ∈ (' ' :: text).head?, c.isDigit = false := by simp
  have colon (text : List Char) : ∀ c ∈ (':' :: text).head?, c.isDigit = false := by simp
  simp only [ExpiryParts.read?, Moment.expiryChars, Moment.timeText, List.append_assoc,
    List.cons_append, Option.bind_eq_bind, Option.bind_some, takeName?_weekday, skipBlanks_space,
    takeName?_month index, takeShort?_dayText (by omega : moment.date.day < 100) (space _),
    takeShort?_space, takeShort?_padded (by omega : moment.secondOfDay / 3600 < 100) (colon _),
    takeShort?_padded (by omega : moment.secondOfDay / 60 % 60 < 100) (colon _), takeColon?,
    takeShort?_padded (by omega : moment.shownSecond < 100) (space _), takeYear?_yearText, if_true,
    back, Moment.parts]

/-- The sixtieth second of a minute is shown for the leap seconds at the end of a minute only. -/
theorem Moment.shownSecond_cases (moment : Moment) :
    (moment.shownSecond = moment.secondOfDay % 60 ∧ moment.shown = ⟨moment.seconds, 0⟩) ∨
      (moment.shownSecond = 60 ∧ moment.secondOfDay % 60 = 59 ∧
        moment.shown = ⟨moment.seconds, nanosOfSecond⟩) ∨
      (moment.shownSecond = moment.secondOfDay % 60 + 1 ∧ moment.secondOfDay % 60 ≠ 59 ∧
        moment.shown = ⟨moment.seconds + 1, 0⟩) := by
  by_cases ordinary : moment.nanos < nanosOfSecond
  · exact .inl (by simp [shownSecond, shown, isRegular, wholeSecond, ordinary])
  · by_cases last : moment.secondOfDay % 60 = 59
    · exact .inr (.inl (by simp [shownSecond, shown, isRegular, wholeSecond, ordinary, last]))
    · exact .inr (.inr (by simp [shownSecond, shown, isRegular, ordinary, last]))

theorem Moment.seconds_eq (moment : Moment) :
    moment.days * secondsOfDay + moment.secondOfDay = moment.seconds := by
  have low : 0 ≤ Int.fmod moment.seconds secondsOfDay := Int.fmod_nonneg_of_pos _ (by decide)
  rw [secondOfDay, Int.toNat_of_nonneg low, days, Int.fdiv_mul_add_fmod]

theorem moment?_parts {moment : Moment} (valid : moment.isValid = true) :
    moment.parts.moment? = some moment.shown := by
  have date : (⟨moment.parts.year, moment.parts.month, moment.parts.day⟩ : Date) = moment.date :=
    rfl
  have days : moment.date.toDays = moment.days := Date.toDays_ofDays _
  have years : firstYear ≤ moment.date.year ∧ moment.date.year ≤ lastYear := by
    simp only [Moment.isValid, Bool.and_eq_true, decide_eq_true_eq] at valid
    exact valid.1
  have fits : firstYear ≤ moment.parts.year ∧ moment.parts.year ≤ lastYear ∧
      moment.date.isValid = true ∧ weekday moment.days = moment.parts.weekday ∧
      moment.parts.hour < 24 ∧ moment.parts.minute < 60 ∧ moment.parts.second ≤ 60 := by
    refine ⟨years.1, years.2, Date.isValid_ofDays _, rfl, ?_, ?_, moment.shownSecond_le⟩
    · exact Nat.div_lt_of_lt_mul moment.secondOfDay_lt
    · exact Nat.mod_lt _ (by decide)
  have hour : moment.parts.hour = moment.secondOfDay / 3600 := rfl
  have minute : moment.parts.minute = moment.secondOfDay / 60 % 60 := rfl
  have second : moment.parts.second = moment.shownSecond := rfl
  have whole := moment.seconds_eq
  simp only [ExpiryParts.moment?, date, days]
  rw [if_pos fits]
  rcases moment.shownSecond_cases with
    ⟨same, shown⟩ | ⟨sixtieth, last, shown⟩ | ⟨next, within, shown⟩
  · rw [if_neg (by omega), if_neg (by omega), shown]
    congr 2
    omega
  · rw [if_pos (second.trans sixtieth), if_pos (second.trans sixtieth), shown]
    congr 2
    omega
  · rw [if_neg (by omega), if_neg (by omega), shown]
    congr 2
    omega

/-! ## Blanks around a text -/

theorem head_expiryChars (moment : Moment) :
    ∃ c ∈ moment.expiryChars.head?, Text.isBlank c = false := by
  have names : ∀ index < 7, nameAt weekdayNames index ≠ [] ∧
      (nameAt weekdayNames index).head?.any Text.isBlank = false := by
    decide
  obtain ⟨filled, visible⟩ := names (weekday moment.days) (weekday_lt _)
  obtain ⟨c, tail, same⟩ := List.exists_cons_of_ne_nil filled
  rw [same] at visible
  exact ⟨c, by simp [Moment.expiryChars, same], visible⟩

theorem last_expiryChars (moment : Moment) :
    ∃ c ∈ moment.expiryChars.getLast?, Text.isBlank c = false := by
  have filled := padded_ne_nil 4 moment.date.year.natAbs
  have last : (padded 4 moment.date.year.natAbs).getLast? =
      some ((padded 4 moment.date.year.natAbs).getLast filled) :=
    List.getLast?_eq_some_getLast filled
  refine ⟨_, ?_, Text.isBlank_of_isDigit (isDigit_of_mem_padded (List.getLast_mem filled))⟩
  have year :
      (yearText moment.date.year).getLast? = (padded 4 moment.date.year.natAbs).getLast? := by
    unfold yearText
    split
    · simp [List.getLast?_cons, last]
    · split
      · rfl
      · simp [List.getLast?_cons, last]
  simp [Moment.expiryChars, List.getLast?_append, List.getLast?_cons, year, last]

theorem ofExpiryText?_append {moment : Moment} (valid : moment.isValid = true)
    {before after : String} (blankBefore : ∀ c ∈ before.toList, Text.isBlank c = true)
    (blankAfter : ∀ c ∈ after.toList, Text.isBlank c = true) :
    Moment.ofExpiryText? (before ++ moment.expiryText ++ after) = some moment.shown := by
  rw [Moment.ofExpiryText?, Moment.ofExpiryChars?, Moment.expiryText, String.toList_append,
    String.toList_append, String.toList_ofList,
    Text.trim_append blankBefore blankAfter (head_expiryChars moment) (last_expiryChars moment),
    read?_expiryChars, Option.bind_some, moment?_parts valid]

theorem ofExpiryText?_expiryText {moment : Moment} (valid : moment.isValid = true) :
    Moment.ofExpiryText? moment.expiryText = some moment.shown := by
  have bare : Moment.ofExpiryText? ("" ++ moment.expiryText ++ "") = some moment.shown :=
    ofExpiryText?_append valid (by simp) (by simp)
  rwa [String.empty_append, String.append_empty] at bare

end Calendar

/-! ## Bans -/

open Calendar (Moment)

theorem futureExpiry_eq_ok_iff {now moment : Moment} {text : String} :
    futureExpiry now moment = .ok text ↔
      moment.isBefore now = false ∧ moment.expiryText = text := by
  unfold futureExpiry
  split
  · rename_i passed
    simp [passed]
  · rename_i future
    simp [future]

/-- What is made with the text of an end is made with this text, whatever it is. -/
theorem eq_of_map_futureExpiry {Ban : Type} {now moment : Moment} {make : String → Ban} {ban : Ban}
    (created : (futureExpiry now moment).map make = .ok ban) :
    ban = make moment.expiryText := by
  cases future : futureExpiry now moment with
  | error failure =>
      rw [future] at created
      cases created
  | ok text =>
      rw [future] at created
      obtain ⟨_, rfl⟩ := futureExpiry_eq_ok_iff.mp future
      exact (Except.ok.inj created).symm

theorem PlayerBan.create_eq_map (now : Moment) (player : Player) (moment : Moment)
    (reason source : String) :
    create now player moment reason source =
      (futureExpiry now moment).map fun expires => ⟨reason, expires, source, player⟩ := by
  unfold create
  cases futureExpiry now moment <;> rfl

theorem AddressBan.create_eq_map (now : Moment) (address : Address) (moment : Moment)
    (reason source : String) :
    create now address moment reason source =
      (futureExpiry now moment).map fun expires => ⟨reason, expires, address.render, source⟩ := by
  unfold create
  cases futureExpiry now moment <;> rfl

theorem NewAddressBan.create_eq_map (now : Moment) (address : Address) (player : Player)
    (moment : Moment) (reason source : String) :
    create now address player moment reason source =
      (futureExpiry now moment).map fun expires =>
        ⟨reason, expires, address.render, source, player⟩ := by
  unfold create
  cases futureExpiry now moment <;> rfl

/-- An expiry text, with any blanks around it, is read back as the moment it was written for, to the
second, or as the second after a leap second that does not end a minute; and so is the text in a ban
that was made to end at the moment. Bans are made for every end that has not passed. -/
theorem expiry_reads_back {moment : Moment} (valid : moment.isValid = true) :
    (∀ before after : String, (∀ c ∈ before.toList, Text.isBlank c = true) →
      (∀ c ∈ after.toList, Text.isBlank c = true) →
      Moment.ofExpiryText? (before ++ moment.expiryText ++ after) = some moment.shown) ∧
    (∀ now player reason source ban,
      PlayerBan.create now player moment reason source = .ok ban →
        Moment.ofExpiryText? ban.expires = some moment.shown) ∧
    (∀ now address reason source ban,
      AddressBan.create now address moment reason source = .ok ban →
        Moment.ofExpiryText? ban.expires = some moment.shown) ∧
    (∀ now address player reason source ban,
      NewAddressBan.create now address player moment reason source = .ok ban →
        Moment.ofExpiryText? ban.expires = some moment.shown) ∧
    ∀ now, moment.isBefore now = false → ∀ address player reason source,
      (∃ ban, PlayerBan.create now player moment reason source = .ok ban) ∧
        (∃ ban, AddressBan.create now address moment reason source = .ok ban) ∧
        ∃ ban, NewAddressBan.create now address player moment reason source = .ok ban := by
  have bare := Calendar.ofExpiryText?_expiryText valid
  refine ⟨fun _ _ => Calendar.ofExpiryText?_append valid, ?_, ?_, ?_, ?_⟩
  · intro now player reason source ban created
    rw [PlayerBan.create_eq_map] at created
    exact eq_of_map_futureExpiry created ▸ bare
  · intro now address reason source ban created
    rw [AddressBan.create_eq_map] at created
    exact eq_of_map_futureExpiry created ▸ bare
  · intro now address player reason source ban created
    rw [NewAddressBan.create_eq_map] at created
    exact eq_of_map_futureExpiry created ▸ bare
  · intro now ahead address player reason source
    have future : futureExpiry now moment = .ok moment.expiryText :=
      futureExpiry_eq_ok_iff.mpr ⟨ahead, rfl⟩
    simp [PlayerBan.create_eq_map, AddressBan.create_eq_map, NewAddressBan.create_eq_map, future,
      Except.map]

/-- The leap second at the end of the last day, in a text with blanks of two kinds around it. -/
theorem expiry_reads_back_of_last_leap_second :
    let last : Moment := ⟨8210266876799, 1999999999⟩
    last.isValid = true ∧ last.expiryText = "Mon Dec 31 23:59:60 +262142" ∧
      Moment.ofExpiryText? ("\t" ++ last.expiryText ++ "\u00a0") =
        some ⟨8210266876799, 1000000000⟩ := by
  have valid : Moment.isValid ⟨8210266876799, 1999999999⟩ = true := by decide +kernel
  have blankBefore : "\t".toList.all Text.isBlank = true := by decide
  have blankAfter : "\u00a0".toList.all Text.isBlank = true := by decide
  refine ⟨valid, by decide +kernel, ?_⟩
  exact (expiry_reads_back valid).1 "\t" "\u00a0" (List.all_eq_true.mp blankBefore)
    (List.all_eq_true.mp blankAfter)

/-- A leap second after the thirtieth second of a minute is shown, and read back, as the
thirty-first, and neither as a leap second nor as the thirtieth. -/
theorem leap_second_within_minute_reads_back_later :
    let moment : Moment := ⟨30, 1500000000⟩
    moment.isValid = true ∧ moment.expiryText = "Thu Jan  1 00:00:31 1970" ∧
      Moment.ofExpiryText? moment.expiryText = some ⟨31, 0⟩ ∧
      Moment.ofExpiryText? moment.expiryText ≠ some moment.wholeSecond ∧
      Moment.ofExpiryText? moment.expiryText ≠ some ⟨30, 0⟩ := by
  decide +kernel

end ServerManagement
