import ServerManagement.Json.Fault

/-!
# The smallest pieces of a JSON text

Blanks, words, strings and numerals at the start of a row of bytes. Each function returns what it
read and the bytes that follow; the lemmas say that something was consumed.
-/

set_option autoImplicit false

namespace ServerManagement.Json

open ServerManagement.Decimal (Double)

abbrev Bytes := List UInt8

def bytesOf (text : String) : Bytes := text.toUTF8.toList

/-- Space, tab, line feed and carriage return may stand between tokens. -/
def isBlankByte (byte : UInt8) : Bool :=
  byte == 0x20 || byte == 0x09 || byte == 0x0A || byte == 0x0D

/-- The bytes from the first one that is no blank. -/
def skipBlanks (input : Bytes) : Bytes := input.dropWhile isBlankByte

theorem length_skipBlanks_le (input : Bytes) : (skipBlanks input).length ≤ input.length :=
  (List.dropWhile_sublist _).length_le

theorem length_lt_of_skipBlanks {input rest : Bytes} {byte : UInt8}
    (found : skipBlanks input = byte :: rest) : rest.length < input.length := by
  have bound := length_skipBlanks_le input
  rw [found, List.length_cons] at bound
  omega

def readWord : Bytes → Bytes → Except Malformed Bytes
  | [], input => .ok input
  | _ :: _, [] => .error .endInValue
  | letter :: letters, byte :: rest =>
    if letter = byte then readWord letters rest else .error .expectedWord

theorem length_readWord_le {word input rest : Bytes} (read : readWord word input = .ok rest) :
    rest.length ≤ input.length := by
  induction word generalizing input with
  | nil =>
      simp only [readWord, Except.ok.injEq] at read
      simp [read]
  | cons letter letters ih =>
      cases input with
      | nil => simp [readWord] at read
      | cons byte tail =>
          simp only [readWord] at read
          split at read
          · exact Nat.le_succ_of_le (ih read)
          · simp at read

/-! ## Strings -/

def hexValue? (byte : UInt8) : Option Nat :=
  if 0x30 ≤ byte ∧ byte ≤ 0x39 then some (byte.toNat - 0x30)
  else if 0x61 ≤ byte ∧ byte ≤ 0x66 then some (byte.toNat - 0x57)
  else if 0x41 ≤ byte ∧ byte ≤ 0x46 then some (byte.toNat - 0x37)
  else none

def hexQuad? (a b c d : UInt8) : Option Nat :=
  match hexValue? a, hexValue? b, hexValue? c, hexValue? d with
  | some a, some b, some c, some d => some (a * 4096 + b * 256 + c * 16 + d)
  | _, _, _, _ => none

def isLeadingUnit (unit : Nat) : Bool := 0xD800 ≤ unit && unit ≤ 0xDBFF

def isTrailingUnit (unit : Nat) : Bool := 0xDC00 ≤ unit && unit ≤ 0xDFFF

def joinUnits (leading trailing : Nat) : Nat :=
  0x10000 + (leading - 0xD800) * 1024 + (trailing - 0xDC00)

def codePointBytes (code : Nat) : Bytes := String.utf8EncodeChar (Char.ofNat code)

/-- The byte that a short escape stands for, by the letter after the backslash. -/
def shortEscape? (letter : UInt8) : Option UInt8 :=
  if letter = 0x22 then some 0x22
  else if letter = 0x5C then some 0x5C
  else if letter = 0x2F then some 0x2F
  else if letter = 0x62 then some 0x08
  else if letter = 0x66 then some 0x0C
  else if letter = 0x6E then some 0x0A
  else if letter = 0x72 then some 0x0D
  else if letter = 0x74 then some 0x09
  else none

def prepend (bytes : Bytes) : Except Malformed (Bytes × Bytes) → Except Malformed (Bytes × Bytes)
  | .ok (content, rest) => .ok (bytes ++ content, rest)
  | .error cause => .error cause

/-- The content of a string after its opening quote, escapes resolved, and the bytes after its
closing quote. A surrogate must come in a pair. -/
def readStringBytes : Bytes → Except Malformed (Bytes × Bytes)
  | [] => .error .endInString
  | byte :: rest =>
    if byte = 0x22 then .ok ([], rest)
    else if byte = 0x5C then
      match rest with
      | [] => .error .endInString
      | letter :: rest =>
        if letter = 0x75 then
          match rest with
          | a :: b :: c :: d :: rest =>
            match hexQuad? a b c d with
            | none => .error .invalidEscape
            | some unit =>
              if isTrailingUnit unit then .error .loneSurrogate
              else if isLeadingUnit unit then
                match rest with
                | [] => .error .endInString
                | [slash] => if slash = 0x5C then .error .endInString else .error .endOfHexEscape
                | slash :: letter :: rest =>
                  if slash = 0x5C ∧ letter = 0x75 then
                    match rest with
                    | a :: b :: c :: d :: rest =>
                      match hexQuad? a b c d with
                      | none => .error .invalidEscape
                      | some next =>
                        if isTrailingUnit next then
                          prepend (codePointBytes (joinUnits unit next)) (readStringBytes rest)
                        else .error .loneSurrogate
                    | _ => .error .endInString
                  else .error .endOfHexEscape
              else prepend (codePointBytes unit) (readStringBytes rest)
          | _ => .error .endInString
        else
          match shortEscape? letter with
          | none => .error .invalidEscape
          | some byte => prepend [byte] (readStringBytes rest)
    else if byte < 0x20 then .error .controlCharacter
    else prepend [byte] (readStringBytes rest)

/-- The content of a string after its opening quote as a text. -/
def readString (input : Bytes) : Except Malformed (String × Bytes) :=
  match readStringBytes input with
  | .error cause => .error cause
  | .ok (content, rest) =>
    match String.fromUTF8? content.toByteArray with
    | none => .error .invalidCodePoint
    | some text => .ok (text, rest)

/-- The bytes after a string whose opening quote has been read. Escapes need not denote
characters. -/
def skipString : Bytes → Except Malformed Bytes
  | [] => .error .endInString
  | byte :: rest =>
    if byte = 0x22 then .ok rest
    else if byte = 0x5C then
      match rest with
      | [] => .error .endInString
      | letter :: rest =>
        if letter = 0x75 then
          match rest with
          | a :: b :: c :: d :: rest =>
            match hexQuad? a b c d with
            | none => .error .invalidEscape
            | some _ => skipString rest
          | _ => .error .endInString
        else
          match shortEscape? letter with
          | none => .error .invalidEscape
          | some _ => skipString rest
    else if byte < 0x20 then .error .controlCharacter
    else skipString rest

theorem length_lt_of_prepend {bytes content rest input : Bytes}
    {result : Except Malformed (Bytes × Bytes)}
    (bound : ∀ {content rest}, result = .ok (content, rest) → rest.length < input.length)
    (read : prepend bytes result = .ok (content, rest)) : rest.length < input.length := by
  unfold prepend at read
  split at read
  · simp only [Except.ok.injEq, Prod.mk.injEq] at read
    obtain ⟨_, rfl⟩ := read
    exact bound rfl
  · simp at read

theorem length_readStringBytes_lt {input content rest : Bytes}
    (read : readStringBytes input = .ok (content, rest)) : rest.length < input.length := by
  fun_induction readStringBytes input generalizing content rest
  case case2 =>
    simp only [Except.ok.injEq, Prod.mk.injEq] at read
    obtain ⟨_, rfl⟩ := read
    simp
  case case10 ih | case14 ih | case17 ih | case19 ih =>
    refine length_lt_of_prepend (fun found => ?_) read
    have := ih found
    simp only [List.length_cons]
    omega
  all_goals simp at read

theorem length_readString_lt {input rest : Bytes} {text : String}
    (read : readString input = .ok (text, rest)) : rest.length < input.length := by
  unfold readString at read
  split at read
  · simp at read
  · rename_i found
    split at read
    · simp at read
    · simp only [Except.ok.injEq, Prod.mk.injEq] at read
      obtain ⟨_, rfl⟩ := read
      exact length_readStringBytes_lt found

theorem length_skipString_lt {input rest : Bytes} (read : skipString input = .ok rest) :
    rest.length < input.length := by
  fun_induction skipString input generalizing rest
  case case2 =>
    simp only [Except.ok.injEq] at read
    simp [read]
  case case5 ih | case8 ih | case10 ih =>
    have := ih read
    simp only [List.length_cons]
    omega
  all_goals simp at read

/-! ## Numerals -/

/-- The bytes of the digits from nought to nine. -/
def isDigitByte (byte : UInt8) : Bool := 0x30 ≤ byte && byte ≤ 0x39

/-- The parts of a numeral, as they are written. -/
structure Numeral where
  negative : Bool
  whole : Bytes
  fraction : Option Bytes
  exponent : Option (Bool × Bytes)
deriving DecidableEq, Repr

/-- One or more digits; `atEnd` is the trouble when the text ends before the first. -/
def readDigitRun (atEnd : Malformed) (input : Bytes) : Except Malformed (Bytes × Bytes) :=
  match input with
  | [] => .error atEnd
  | byte :: _ =>
    if isDigitByte byte then .ok (input.takeWhile isDigitByte, input.dropWhile isDigitByte)
    else .error .invalidNumber

/-- The digits before the point; a leading zero stands alone. -/
def readWhole (atEnd : Malformed) (input : Bytes) : Except Malformed (Bytes × Bytes) :=
  match readDigitRun atEnd input with
  | .error cause => .error cause
  | .ok (run, rest) => if run.length > 1 ∧ run.head? = some 0x30 then .error .invalidNumber
    else .ok (run, rest)

/-- The point and the digits after it, if there is a point. -/
def readFraction (atEnd : Malformed) : Bytes → Except Malformed (Option Bytes × Bytes)
  | [] => .ok (none, [])
  | byte :: rest =>
    if byte = 0x2E then
      match readDigitRun atEnd rest with
      | .error cause => .error cause
      | .ok (run, rest) => .ok (some run, rest)
    else .ok (none, byte :: rest)

/-- The sign of an exponent, true when it is negative. -/
def readExponentSign : Bytes → Bool × Bytes
  | [] => (false, [])
  | byte :: rest =>
    if byte = 0x2D then (true, rest)
    else if byte = 0x2B then (false, rest)
    else (false, byte :: rest)

/-- The exponent, if there is one. -/
def readExponent (atEnd : Malformed) : Bytes → Except Malformed (Option (Bool × Bytes) × Bytes)
  | [] => .ok (none, [])
  | byte :: rest =>
    if byte = 0x65 ∨ byte = 0x45 then
      match readDigitRun atEnd (readExponentSign rest).2 with
      | .error cause => .error cause
      | .ok (run, after) => .ok (some ((readExponentSign rest).1, run), after)
    else .ok (none, byte :: rest)

def readUnsigned (atEnd : Malformed) (negative : Bool) (input : Bytes) :
    Except Malformed (Numeral × Bytes) :=
  match readWhole atEnd input with
  | .error cause => .error cause
  | .ok (whole, rest) =>
    match readFraction atEnd rest with
    | .error cause => .error cause
    | .ok (fraction, rest) =>
      match readExponent atEnd rest with
      | .error cause => .error cause
      | .ok (exponent, rest) => .ok (⟨negative, whole, fraction, exponent⟩, rest)

def readNumeral (atEnd : Malformed) : Bytes → Except Malformed (Numeral × Bytes)
  | [] => .error atEnd
  | byte :: rest =>
    if byte = 0x2D then readUnsigned atEnd true rest
    else readUnsigned atEnd false (byte :: rest)

def ofDigitBytes (run : Bytes) : Nat :=
  run.foldl (fun high byte => 10 * high + (byte.toNat - 0x30)) 0

/-- Put digits after those of a number while it fits sixty-four bits; the others are left over. -/
def extendDigits (high : Nat) : Bytes → Nat × Bytes
  | [] => (high, [])
  | byte :: rest =>
    let longer := 10 * high + (byte.toNat - 0x30)
    if longer < Nat.pow 2 64 then extendDigits longer rest else (high, byte :: rest)

/-- The double that a numeral is read as, if it is finite. Of the digits only so many count as make
a number of sixty-four bits. -/
def Numeral.double? (numeral : Numeral) : Option Double :=
  let fraction := numeral.fraction.getD []
  let exponent : Int := match numeral.exponent with
    | none => 0
    | some (true, run) => -(ofDigitBytes run : Int)
    | some (false, run) => ofDigitBytes run
  let (whole, dropped) := extendDigits 0 numeral.whole
  let (significand, ignored) := extendDigits whole fraction
  Double.ofDecimal? numeral.negative significand
    (exponent + dropped.length - (fraction.length - ignored.length : Nat))

/-- The number of a numeral. Whole numerals of the sixty-four bit ranges are whole numbers, all
others doubles; so is a negative zero. None when the double is not finite. -/
def Numeral.number? (numeral : Numeral) : Option Number :=
  match numeral.fraction, numeral.exponent with
  | none, none =>
    let magnitude := ofDigitBytes numeral.whole
    if numeral.negative then
      if 0 < magnitude ∧ magnitude ≤ Nat.pow 2 63 then some (.integer (-(magnitude : Int)))
      else numeral.double?.map .double
    else if magnitude < Nat.pow 2 64 then some (.integer magnitude)
    else numeral.double?.map .double
  | _, _ => numeral.double?.map .double

def readNumber (input : Bytes) : Except Malformed (Number × Bytes) :=
  match readNumeral .endInValue input with
  | .error cause => .error cause
  | .ok (numeral, rest) =>
    match numeral.number? with
    | none => .error .numberOutOfRange
    | some number => .ok (number, rest)

theorem length_readDigitRun_lt {atEnd : Malformed} {input run rest : Bytes}
    (read : readDigitRun atEnd input = .ok (run, rest)) : rest.length < input.length := by
  unfold readDigitRun at read
  split at read
  · simp at read
  · rename_i byte tail
    split at read
    · rename_i digit
      simp only [Except.ok.injEq, Prod.mk.injEq] at read
      obtain ⟨_, rfl⟩ := read
      have bound : (tail.dropWhile isDigitByte).length ≤ tail.length :=
        (List.dropWhile_sublist _).length_le
      simp only [List.dropWhile_cons, digit, if_true, List.length_cons]
      omega
    · simp at read

theorem length_readWhole_lt {atEnd : Malformed} {input run rest : Bytes}
    (read : readWhole atEnd input = .ok (run, rest)) : rest.length < input.length := by
  unfold readWhole at read
  split at read
  · simp at read
  · rename_i found
    split at read
    · simp at read
    · simp only [Except.ok.injEq, Prod.mk.injEq] at read
      obtain ⟨_, rfl⟩ := read
      exact length_readDigitRun_lt found

theorem length_readFraction_le {atEnd : Malformed} {input rest : Bytes} {fraction : Option Bytes}
    (read : readFraction atEnd input = .ok (fraction, rest)) : rest.length ≤ input.length := by
  unfold readFraction at read
  split at read
  · simp only [Except.ok.injEq, Prod.mk.injEq] at read
    simp [← read.2]
  · split at read
    · split at read
      · simp at read
      · rename_i found
        simp only [Except.ok.injEq, Prod.mk.injEq] at read
        obtain ⟨_, rfl⟩ := read
        have := length_readDigitRun_lt found
        simp only [List.length_cons]
        omega
    · simp only [Except.ok.injEq, Prod.mk.injEq] at read
      simp [← read.2]

theorem length_readExponentSign_le (input : Bytes) :
    (readExponentSign input).2.length ≤ input.length := by
  unfold readExponentSign
  split
  · simp
  · split
    · simp
    · split <;> simp

theorem length_readExponent_le {atEnd : Malformed} {input rest : Bytes}
    {exponent : Option (Bool × Bytes)}
    (read : readExponent atEnd input = .ok (exponent, rest)) : rest.length ≤ input.length := by
  unfold readExponent at read
  split at read
  · simp only [Except.ok.injEq, Prod.mk.injEq] at read
    simp [← read.2]
  · rename_i tail
    split at read
    · split at read
      · simp at read
      · rename_i found
        simp only [Except.ok.injEq, Prod.mk.injEq] at read
        obtain ⟨_, rfl⟩ := read
        have := length_readDigitRun_lt found
        have := length_readExponentSign_le tail
        simp only [List.length_cons]
        omega
    · simp only [Except.ok.injEq, Prod.mk.injEq] at read
      simp [← read.2]

theorem length_readUnsigned_lt {atEnd : Malformed} {negative : Bool} {input rest : Bytes}
    {numeral : Numeral} (read : readUnsigned atEnd negative input = .ok (numeral, rest)) :
    rest.length < input.length := by
  unfold readUnsigned at read
  split at read
  · simp at read
  · rename_i whole
    split at read
    · simp at read
    · rename_i fraction
      split at read
      · simp at read
      · rename_i exponent
        simp only [Except.ok.injEq, Prod.mk.injEq] at read
        obtain ⟨_, rfl⟩ := read
        have := length_readWhole_lt whole
        have := length_readFraction_le fraction
        have := length_readExponent_le exponent
        omega

theorem length_readNumeral_lt {atEnd : Malformed} {input rest : Bytes} {numeral : Numeral}
    (read : readNumeral atEnd input = .ok (numeral, rest)) : rest.length < input.length := by
  unfold readNumeral at read
  split at read
  · simp at read
  · split at read
    · have := length_readUnsigned_lt read
      simp only [List.length_cons]
      omega
    · exact length_readUnsigned_lt read

theorem length_readNumber_lt {input rest : Bytes} {number : Number}
    (read : readNumber input = .ok (number, rest)) : rest.length < input.length := by
  unfold readNumber at read
  split at read
  · simp at read
  · rename_i found
    split at read
    · simp at read
    · simp only [Except.ok.injEq, Prod.mk.injEq] at read
      obtain ⟨_, rfl⟩ := read
      exact length_readNumeral_lt found

end ServerManagement.Json
