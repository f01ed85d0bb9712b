import ServerManagement.Json.Scan

/-!
How strings may be spelled. A spelling is read as the content that it stands for, whatever follows
it; all that can be read is a spelling. Texts are printed as spellings of themselves.
-/

set_option autoImplicit false

namespace ServerManagement.Json

/-! ## The bytes of characters -/

def bytesOfChars (chars : List Char) : Bytes := chars.flatMap String.utf8EncodeChar

theorem bytesOfChars_cons (c : Char) (chars : List Char) :
    bytesOfChars (c :: chars) = String.utf8EncodeChar c ++ bytesOfChars chars := rfl

theorem bytesOfChars_append (left right : List Char) :
    bytesOfChars (left ++ right) = bytesOfChars left ++ bytesOfChars right :=
  List.flatMap_append

theorem toList_eq_data (bytes : ByteArray) : bytes.toList = bytes.data.toList := by
  have loop (index : Nat) (done : Bytes) :
      ByteArray.toList.loop bytes index done = done.reverse ++ bytes.data.toList.drop index := by
    fun_induction ByteArray.toList.loop bytes index done with
    | case1 index done more ih =>
        have inside : index < bytes.data.toList.length := more
        have byte : bytes.get! index = bytes.data.toList[index] := getElem!_pos bytes.data index more
        rw [ih, List.drop_eq_getElem_cons inside, byte, List.reverse_cons, List.append_assoc]
        rfl
    | case2 index done beyond =>
        have past : bytes.data.toList.length ≤ index := Nat.le_of_not_lt beyond
        rw [List.drop_eq_nil_of_le past, List.append_nil]
  exact loop 0 []

theorem bytesOf_ofList (chars : List Char) :
    bytesOf (String.ofList chars) = bytesOfChars chars := by
  simp only [bytesOf, String.toUTF8_eq_toByteArray, String.toByteArray_ofList, toList_eq_data]
  exact List.toList_data_toByteArray

theorem bytesOf_eq (text : String) : bytesOf text = bytesOfChars text.toList := by
  rw [← bytesOf_ofList, String.ofList_toList]

theorem fromUTF8?_bytesOf (text : String) :
    String.fromUTF8? (bytesOf text).toByteArray = some text := by
  have same : (bytesOfChars text.toList).toByteArray = text.toByteArray := String.utf8Encode_toList
  unfold String.fromUTF8?
  rw [bytesOf_eq, same, dif_pos text.isValidUTF8]
  rfl

theorem utf8EncodeChar_of_ascii {c : Char} (ascii : c.toNat < 128) :
    String.utf8EncodeChar c = [UInt8.ofNat c.toNat] := by
  have small : c.val.toNat ≤ 127 := Nat.le_of_lt_succ ascii
  unfold String.utf8EncodeChar
  rw [if_pos small]
  rfl

/-- The bytes of a character outside the first block are none of the bytes inside it. -/
theorem le_of_mem_utf8EncodeChar {c : Char} (wide : 128 ≤ c.toNat) {byte : UInt8}
    (member : byte ∈ String.utf8EncodeChar c) : 128 ≤ byte.toNat := by
  have large : ¬c.val.toNat ≤ 127 := Nat.not_le_of_lt wide
  have high (low mark : Nat) (fits : low + mark < 256) (above : 128 ≤ mark) :
      128 ≤ (UInt8.ofNat (low + mark)).toNat := by
    have exact : (UInt8.ofNat (low + mark)).toNat = low + mark := UInt8.toNat_ofNat_of_lt' fits
    omega
  unfold String.utf8EncodeChar at member
  dsimp only at member
  rw [if_neg large] at member
  split at member
  · simp only [List.mem_cons, List.not_mem_nil, or_false] at member
    rcases member with rfl | rfl <;> exact high _ _ (by omega) (by omega)
  · split at member
    · simp only [List.mem_cons, List.not_mem_nil, or_false] at member
      rcases member with rfl | rfl | rfl <;> exact high _ _ (by omega) (by omega)
    · simp only [List.mem_cons, List.not_mem_nil, or_false] at member
      rcases member with rfl | rfl | rfl | rfl <;> exact high _ _ (by omega) (by omega)

/-! ## Spellings -/

/-- The first bytes spell the content of a string, its closing quote included; the second are that
content. -/
inductive StringSpelling : Bytes → Bytes → Prop
  | close : StringSpelling [0x22] []
  | plain {byte : UInt8} {used content : Bytes} (quote : byte ≠ 0x22) (slash : byte ≠ 0x5C)
      (visible : ¬byte < 0x20) (rest : StringSpelling used content) :
      StringSpelling (byte :: used) (byte :: content)
  | short {letter byte : UInt8} {used content : Bytes} (long : letter ≠ 0x75)
      (stands : shortEscape? letter = some byte) (rest : StringSpelling used content) :
      StringSpelling (0x5C :: letter :: used) (byte :: content)
  | unit {a b c d : UInt8} {unit : Nat} {used content : Bytes}
      (hex : hexQuad? a b c d = some unit) (trailing : ¬isTrailingUnit unit = true)
      (leading : ¬isLeadingUnit unit = true) (rest : StringSpelling used content) :
      StringSpelling (0x5C :: 0x75 :: a :: b :: c :: d :: used) (codePointBytes unit ++ content)
  | pair {a b c d e f g h : UInt8} {unit next : Nat} {used content : Bytes}
      (hex : hexQuad? a b c d = some unit) (trailing : ¬isTrailingUnit unit = true)
      (leading : isLeadingUnit unit = true) (other : hexQuad? e f g h = some next)
      (joins : isTrailingUnit next = true) (rest : StringSpelling used content) :
      StringSpelling
        (0x5C :: 0x75 :: a :: b :: c :: d :: 0x5C :: 0x75 :: e :: f :: g :: h :: used)
        (codePointBytes (joinUnits unit next) ++ content)

namespace StringSpelling

variable {used content : Bytes}

theorem read (spelling : StringSpelling used content) (rest : Bytes) :
    readStringBytes (used ++ rest) = .ok (content, rest) := by
  induction spelling with
  | close =>
      rw [List.cons_append, readStringBytes.eq_def]
      rfl
  | plain quote slash visible _ ih =>
      rw [List.cons_append, readStringBytes.eq_def]
      simp [quote, slash, visible, ih, prepend]
  | short long stands _ ih =>
      rw [List.cons_append, readStringBytes.eq_def]
      simp [long, stands, ih, prepend]
  | unit hex trailing leading _ ih =>
      rw [List.cons_append, readStringBytes.eq_def]
      simp [hex, trailing, leading, ih, prepend]
  | pair hex trailing leading other joins _ ih =>
      rw [List.cons_append, readStringBytes.eq_def]
      simp [hex, trailing, leading, other, joins, ih, prepend]

end StringSpelling

theorem prepend_eq_ok_iff {bytes content rest : Bytes} {result : Except Malformed (Bytes × Bytes)} :
    prepend bytes result = .ok (content, rest) ↔
      ∃ inner, result = .ok (inner, rest) ∧ bytes ++ inner = content := by
  cases result with
  | ok read => grind [prepend]
  | error cause => simp [prepend]

theorem spelling_of_readStringBytes {input content rest : Bytes}
    (read : readStringBytes input = .ok (content, rest)) :
    ∃ used, input = used ++ rest ∧ StringSpelling used content := by
  fun_induction readStringBytes input generalizing content rest
  case case2 =>
    obtain ⟨rfl, rfl⟩ : [] = content ∧ _ = rest := by simpa using read
    exact ⟨[0x22], rfl, .close⟩
  case case10 hex trailing leading _ _ mark _ _ _ _ _ _ other joins _ ih =>
    obtain ⟨inner, found, rfl⟩ := prepend_eq_ok_iff.mp read
    obtain ⟨used, rfl, spelling⟩ := ih found
    obtain ⟨rfl, rfl⟩ := mark
    exact ⟨_, rfl, .pair hex trailing leading other joins spelling⟩
  case case14 hex trailing leading _ ih =>
    obtain ⟨inner, found, rfl⟩ := prepend_eq_ok_iff.mp read
    obtain ⟨used, rfl, spelling⟩ := ih found
    exact ⟨_, rfl, .unit hex trailing leading spelling⟩
  case case17 long _ stands _ ih =>
    obtain ⟨inner, found, rfl⟩ := prepend_eq_ok_iff.mp read
    obtain ⟨used, rfl, spelling⟩ := ih found
    exact ⟨_, rfl, .short long stands spelling⟩
  case case19 quote slash visible ih =>
    obtain ⟨inner, found, rfl⟩ := prepend_eq_ok_iff.mp read
    obtain ⟨used, rfl, spelling⟩ := ih found
    exact ⟨_, rfl, .plain quote slash visible spelling⟩
  all_goals cases read

/-! ## Printed strings -/

theorem spelling_of_high {row used content : Bytes} (high : ∀ byte ∈ row, 128 ≤ byte.toNat)
    (rest : StringSpelling used content) : StringSpelling (row ++ used) (row ++ content) := by
  induction row with
  | nil => exact rest
  | cons byte row ih =>
      have above := high byte (List.mem_cons_self ..)
      refine .plain ?_ ?_ ?_ (ih fun other member => high other (List.mem_cons_of_mem _ member))
      · rintro rfl
        exact absurd above (by decide)
      · rintro rfl
        exact absurd above (by decide)
      · rw [UInt8.lt_iff_toNat_lt]
        exact Nat.not_lt_of_le (Nat.le_trans (by decide) above)

theorem hexQuad?_of_control : ∀ unit < 32,
    hexQuad? 0x30 0x30 (UInt8.ofNat (Nat.digitChar (unit / 16)).toNat)
      (UInt8.ofNat (Nat.digitChar (unit % 16)).toNat) = some unit := by
  decide

theorem digitChar_lt_of_hex : ∀ digit < 16, (Nat.digitChar digit).toNat < 128 := by
  decide

/-- A character is printed as a spelling of itself. -/
theorem spelling_of_escapeChar (c : Char) {used content : Bytes}
    (rest : StringSpelling used content) :
    StringSpelling (bytesOfChars (escapeChar c) ++ used) (String.utf8EncodeChar c ++ content) := by
  have short {number : Nat} {letter : UInt8} (same : (c.toNat == number) = true)
      (long : letter ≠ 0x75) (stands : shortEscape? letter = some (UInt8.ofNat number))
      (ascii : number < 128) :
      StringSpelling (0x5C :: letter :: used) (String.utf8EncodeChar c ++ content) := by
    obtain rfl := eq_of_beq same
    rw [utf8EncodeChar_of_ascii ascii]
    exact .short long stands rest
  unfold escapeChar
  split
  case isTrue quote =>
    obtain rfl := eq_of_beq quote
    exact .short (by decide) rfl rest
  split
  case isTrue slash =>
    obtain rfl := eq_of_beq slash
    exact .short (by decide) rfl rest
  split
  case isTrue same => exact short same (by decide) rfl (by decide)
  split
  case isTrue same => exact short same (by decide) rfl (by decide)
  split
  case isTrue same => exact short same (by decide) rfl (by decide)
  split
  case isTrue same => exact short same (by decide) rfl (by decide)
  split
  case isTrue same => exact short same (by decide) rfl (by decide)
  split
  case isTrue control =>
    -- The four digits denote the number of the character.
    have high := digitChar_lt_of_hex (c.toNat / 16) (by omega)
    have low := digitChar_lt_of_hex (c.toNat % 16) (by omega)
    have trailing : ¬isTrailingUnit c.toNat = true := by
      simp only [isTrailingUnit, Bool.and_eq_true, decide_eq_true_eq]
      omega
    have leading : ¬isLeadingUnit c.toNat = true := by
      simp only [isLeadingUnit, Bool.and_eq_true, decide_eq_true_eq]
      omega
    have spelling := StringSpelling.unit (hexQuad?_of_control c.toNat control) trailing leading rest
    rw [codePointBytes, Char.ofNat_toNat] at spelling
    simp only [bytesOfChars, List.flatMap_cons, List.flatMap_nil, utf8EncodeChar_of_ascii high,
      utf8EncodeChar_of_ascii low]
    exact spelling
  case isFalse visible =>
    rename_i quote slash _ _ _ _ _
    have alone : bytesOfChars [c] = String.utf8EncodeChar c := List.append_nil _
    rw [alone]
    by_cases ascii : c.toNat < 128
    · have exact : (UInt8.ofNat c.toNat).toNat = c.toNat :=
        UInt8.toNat_ofNat_of_lt' (Nat.lt_trans ascii (by decide))
      have differs {other : Char} (different : ¬(c == other) = true) (small : other.toNat < 128) :
          UInt8.ofNat c.toNat ≠ UInt8.ofNat other.toNat := by
        intro same
        have numbers := congrArg UInt8.toNat same
        rw [exact, UInt8.toNat_ofNat_of_lt' (Nat.lt_trans small (by decide))] at numbers
        exact different (beq_iff_eq.mpr (Char.toNat_inj.mp numbers))
      rw [utf8EncodeChar_of_ascii ascii]
      refine .plain (differs quote (by decide)) (differs slash (by decide)) ?_ rest
      rw [UInt8.lt_iff_toNat_lt, exact]
      exact visible
    · refine spelling_of_high (fun byte member => ?_) rest
      exact le_of_mem_utf8EncodeChar (Nat.le_of_not_lt ascii) member

theorem spelling_of_chars (chars : List Char) :
    StringSpelling (bytesOfChars (chars.flatMap escapeChar) ++ [0x22]) (bytesOfChars chars) := by
  induction chars with
  | nil => exact .close
  | cons c chars ih =>
      rw [List.flatMap_cons, bytesOfChars_append, List.append_assoc]
      exact spelling_of_escapeChar c ih

/-! ## Texts -/

/-- The bytes spell a text after its opening quote. -/
def TextSpelling (used : Bytes) (text : String) : Prop :=
  ∃ content, StringSpelling used content ∧ String.fromUTF8? content.toByteArray = some text

def printedTail (text : String) : Bytes := bytesOfChars (text.toList.flatMap escapeChar) ++ [0x22]

theorem bytesOfChars_stringChars (text : String) :
    bytesOfChars (stringChars text) = 0x22 :: printedTail text := by
  rw [stringChars, bytesOfChars_append, bytesOfChars_cons, printedTail]
  rfl

theorem spelling_printedTail (text : String) : TextSpelling (printedTail text) text :=
  ⟨_, spelling_of_chars text.toList, bytesOf_eq text ▸ fromUTF8?_bytesOf text⟩

namespace TextSpelling

variable {used : Bytes} {text : String}

theorem read (spelling : TextSpelling used text) (rest : Bytes) :
    readString (used ++ rest) = .ok (text, rest) := by
  obtain ⟨content, spelled, valid⟩ := spelling
  unfold readString
  simp only [spelled.read, valid]

theorem unique {other : String} (spelling : TextSpelling used text)
    (otherSpelling : TextSpelling used other) : text = other :=
  (Prod.mk.inj (Except.ok.inj ((spelling.read []).symm.trans (otherSpelling.read [])))).1

end TextSpelling

theorem spelling_of_readString {input rest : Bytes} {text : String}
    (read : readString input = .ok (text, rest)) :
    ∃ used, input = used ++ rest ∧ TextSpelling used text := by
  unfold readString at read
  split at read
  · cases read
  · rename_i content after found
    split at read
    · cases read
    · rename_i valid
      obtain ⟨rfl, rfl⟩ : _ = text ∧ after = rest := by simpa using read
      obtain ⟨used, rfl, spelled⟩ := spelling_of_readStringBytes found
      exact ⟨used, rfl, content, spelled, valid⟩

end ServerManagement.Json
