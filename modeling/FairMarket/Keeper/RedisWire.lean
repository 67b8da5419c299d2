import FairMarket.Keeper.Numerals
import FairMarket.Lib.Framing
import FairMarket.Lib.Utf8

/-! The commands and the replies of Redis as the bytes that go over a socket. -/

namespace FairMarket

namespace Keeper

/-- `left < right`. -/
def Number.lessThan : Number → Number → Bool
  | .finite left, .finite right => left < right
  | .finite _, .infinity | .negativeInfinity, .finite _ | .negativeInfinity, .infinity => true
  | _, _ => false

/-- Where an argument of `subarray` points to in a buffer of this length. -/
def adjustOffset (length : ℕ) : Number → ℕ
  | .finite value =>
    let offset := if value < 0 then ⌈value⌉ else ⌊value⌋
    if offset < 0 then (offset + length).toNat else min offset.toNat length
  | .infinity => length
  | .negativeInfinity | .nan => 0

def subarray (buffer : List UInt8) (start stop : Number) : List UInt8 :=
  (buffer.take (adjustOffset buffer.length stop)).drop (adjustOffset buffer.length start)

/-- `buffer.toString("utf8")`. -/
def toUtf8String (buffer : List UInt8) : String := String.ofList (utf8Text buffer)

def byteLength (text : String) : ℕ := (utf8 text.toList).length

def crlf : List UInt8 := ['\r'.toUInt8, '\n'.toUInt8]

def encodeRedisCommand (parts : List String) : List UInt8 :=
  let chunks := ("*" ++ toString parts.length ++ "\r\n") ::
    parts.map fun part => "$" ++ toString (byteLength part) ++ "\r\n" ++ part ++ "\r\n"
  utf8 (String.join chunks).toList

inductive RedisValue where
  | null
  | text (value : String)
  | number (value : Number)
  deriving DecidableEq

structure ParsedReply where
  complete : Bool
  value : Option RedisValue := none
  error : Option String := none
  deriving DecidableEq

/-- The bytes behind the line have to be as many as it says, and two more. -/
def parseBulkReply (buffer : List UInt8) (lineEnd : ℕ) (byteLength : Number) : ParsedReply :=
  if byteLength = .finite (-1) then { complete := true, value := some .null }
  else
    let start : Number := .finite (lineEnd + 2 : ℕ)
    let stop := start.plus byteLength
    if Number.lessThan (.finite buffer.length) (stop.plus (.finite (2 : ℕ))) then { complete := false }
    else { complete := true, value := some (.text (toUtf8String (subarray buffer start stop))) }

def parseRedisReply (buffer : List UInt8) : ParsedReply :=
  match buffer with
  | [] => { complete := false }
  | first :: _ =>
    let lead := Char.ofNat first.toNat
    match indexOf crlf buffer with
    | none => { complete := false }
    | some lineEnd =>
      let line := utf8Text (subarray buffer (.finite (1 : ℕ)) (.finite lineEnd))
      if lead = '+' then { complete := true, value := some (.text (String.ofList line)) }
      else if lead = '-' then { complete := true, error := some (String.ofList line) }
      else if lead = ':' then { complete := true, value := some (.number (.ofText line)) }
      else if lead = '$' then parseBulkReply buffer lineEnd (.ofText line)
      else { complete := true, error := some ("Unsupported Redis reply prefix: " ++ String.singleton lead) }

namespace MinimalRedisClient

/-- What `command` settles its promise with, where it does. -/
def settlement (parsed : ParsedReply) : Option (Except String RedisValue) :=
  if parsed.complete then
    some (match parsed.error with
      | some error => .error error
      | none => .ok (parsed.value.getD .null))
  else none

/-- The listener of `command` for a chunk that has come. -/
def onData (received : Receiver UInt8 (Except String RedisValue)) (chunk : List UInt8) :
    Receiver UInt8 (Except String RedisValue) :=
  received.receive (fun buffer => settlement (parseRedisReply buffer)) chunk

end MinimalRedisClient

/-- A reply, with the digits its numbers are written with. -/
inductive RedisReply where
  | simpleString (text : String)
  | error (text : String)
  | integer (sign : NumberSign) (digits : List Char)
  | bulkString (length : List Char) (payload : String)
  | nullBulkString

namespace RedisReply

/-- The first byte says what the reply is. -/
def lead : RedisReply → Char
  | .simpleString _ => '+'
  | .error _ => '-'
  | .integer _ _ => ':'
  | .bulkString _ _ | .nullBulkString => '$'

/-- The rest of the line a reply begins with. -/
def line : RedisReply → List Char
  | .simpleString text | .error text => text.toList
  | .integer sign digits => sign.chars ++ digits
  | .bulkString length _ => length
  | .nullBulkString => ['-', '1']

/-- What comes behind the line. -/
def body : RedisReply → List UInt8
  | .bulkString _ payload => utf8 payload.toList ++ crlf
  | _ => []

def bytes (reply : RedisReply) : List UInt8 :=
  reply.lead.toUInt8 :: (utf8 reply.line ++ (crlf ++ reply.body))

/-- No line is broken, numbers are decimal and below `2 ^ 53`, and the length of a bulk string
is that of its payload, which fits into a buffer with the rest. -/
def WellFormed : RedisReply → Prop
  | .simpleString text | .error text => '\r' ∉ text.toList ∧ '\n' ∉ text.toList
  | .integer _ digits => Decimal digits ∧ Nat.ofDigitChars 10 digits 0 < 2 ^ 53
  | .bulkString length payload => Decimal length ∧ Nat.ofDigitChars 10 length 0 = byteLength payload ∧
      (RedisReply.bulkString length payload).bytes.length < 2 ^ 53
  | .nullBulkString => True

/-- What the reply says. -/
def outcome : RedisReply → Except String RedisValue
  | .simpleString text => .ok (.text text)
  | .error text => .error text
  | .integer sign digits => .ok (.number (.finite (sign.factor * Nat.ofDigitChars 10 digits 0 : ℤ)))
  | .bulkString _ payload => .ok (.text payload)
  | .nullBulkString => .ok .null

end RedisReply

/-- The number a line holds, and what is behind the line. -/
def readNumber (bytes : List UInt8) : Option (ℕ × List UInt8) :=
  let decimal (byte : UInt8) : Bool := '0'.toUInt8 ≤ byte ∧ byte ≤ '9'.toUInt8
  match digits 10 (utf8Text (bytes.takeWhile decimal)), bytes.dropWhile decimal with
  | some number, 13 :: 10 :: rest => some (number, rest)
  | _, _ => none

def readBulkString : List UInt8 → Option (List UInt8 × List UInt8)
  | 36 :: bytes => do
    let (length, bytes) ← readNumber bytes
    match bytes.drop length with
    | 13 :: 10 :: rest => some (bytes.take length, rest)
    | _ => none
  | _ => none

def readBulkStrings : ℕ → List UInt8 → Option (List (List UInt8) × List UInt8)
  | 0, bytes => some ([], bytes)
  | count + 1, bytes => do
    let (payload, bytes) ← readBulkString bytes
    let (payloads, rest) ← readBulkStrings count bytes
    return (payload :: payloads, rest)

/-- A command is an array of bulk strings. -/
def readCommand : List UInt8 → Option (List (List UInt8) × List UInt8)
  | 42 :: bytes => do
    let (count, bytes) ← readNumber bytes
    readBulkStrings count bytes
  | _ => none

section Offsets

variable {buffer : List UInt8}

theorem Number.lessThan_natCast (left right : ℕ) :
    Number.lessThan (.finite left) (.finite right) = decide (left < right) := by
  simp [Number.lessThan]

theorem adjustOffset_natCast (length offset : ℕ) : adjustOffset length (.finite offset) = min offset length := by
  have truncated : ¬ (offset : ℚ) < 0 := by
    rw [not_lt]
    exact Nat.cast_nonneg offset
  simp [adjustOffset, truncated]

theorem subarray_natCast {start stop : ℕ} (ordered : start ≤ stop) (within : stop ≤ buffer.length) :
    subarray buffer (.finite start) (.finite stop) = (buffer.take stop).drop start := by
  rw [subarray, adjustOffset_natCast, adjustOffset_natCast, min_eq_left within, min_eq_left (ordered.trans within)]

/-- The bytes between two others. -/
theorem subarray_append (before middle after : List UInt8) :
    subarray (before ++ (middle ++ after)) (.finite before.length) (.finite (before.length + middle.length : ℕ)) =
      middle := by
  have within : before.length + middle.length ≤ (before ++ (middle ++ after)).length := by
    rw [List.length_append, List.length_append, ← Nat.add_assoc]
    exact Nat.le_add_right _ _
  rw [subarray_natCast (Nat.le_add_right _ _) within, ← List.append_assoc, ← List.length_append, List.take_left,
    List.drop_left]

end Offsets

section Lines

variable {lead : Char} {line : List Char}

/-- Bytes up to the end of a line are no whole reply. -/
theorem parseRedisReply_unended {buffer : List UInt8} (unended : '\n'.toUInt8 ∉ buffer) :
    parseRedisReply buffer = { complete := false } := by
  have none : indexOf crlf buffer = none := indexOf_absent (by decide : '\n'.toUInt8 ∈ crlf) unended
  unfold parseRedisReply
  split
  · rfl
  · rw [none]

/-- The end of the first line is found where it is. -/
theorem indexOf_line (ascii : lead.toNat < 128) (unbroken : '\r' ∉ lead :: line) (rest : List UInt8) :
    indexOf crlf (lead.toUInt8 :: (utf8 line ++ (crlf ++ rest))) = some ((utf8 line).length + 1) := by
  have absent : '\r'.toUInt8 ∉ lead.toUInt8 :: utf8 line := by
    rw [← utf8_cons_ascii ascii]
    exact not_mem_utf8 (by decide) unbroken
  exact indexOf_first absent rest

theorem parseRedisReply_line (ascii : lead.toNat < 128) (unbroken : '\r' ∉ lead :: line) (rest : List UInt8) :
    let buffer := lead.toUInt8 :: (utf8 line ++ (crlf ++ rest))
    parseRedisReply buffer =
      if lead = '+' then { complete := true, value := some (.text (String.ofList line)) }
      else if lead = '-' then { complete := true, error := some (String.ofList line) }
      else if lead = ':' then { complete := true, value := some (.number (.ofText line)) }
      else if lead = '$' then parseBulkReply buffer ((utf8 line).length + 1) (.ofText line)
      else { complete := true, error := some ("Unsupported Redis reply prefix: " ++ String.singleton lead) } := by
  intro buffer
  have found : indexOf crlf buffer = some ((utf8 line).length + 1) := indexOf_line ascii unbroken rest
  have between : subarray buffer (.finite (1 : ℕ)) (.finite ((utf8 line).length + 1 : ℕ)) = utf8 line := by
    rw [Nat.add_comm]
    exact subarray_append [lead.toUInt8] (utf8 line) (crlf ++ rest)
  have first : Char.ofNat lead.toUInt8.toNat = lead := by
    rw [toNat_toUInt8 ascii, Char.ofNat_toNat]
  unfold parseRedisReply
  change (match indexOf crlf buffer with
    | none => _
    | some lineEnd => _) = _
  rw [found]
  dsimp only
  rw [between, utf8Text_utf8, first]

/-- What comes before the end of a line is no whole reply. -/
theorem parseRedisReply_part_line (ascii : lead.toNat < 128) (unbroken : '\n' ∉ lead :: line)
    {first rest : List UInt8} (whole : first ++ rest = lead.toUInt8 :: (utf8 line ++ crlf)) (more : rest ≠ []) :
    parseRedisReply first = { complete := false } := by
  apply parseRedisReply_unended
  obtain ⟨start, last, rfl⟩ := List.eq_nil_or_concat rest |>.resolve_left more
  rw [List.concat_eq_append] at whole
  have split : first ++ start ++ [last] = (lead.toUInt8 :: utf8 line ++ ['\r'.toUInt8]) ++ ['\n'.toUInt8] := by
    rw [List.append_assoc, List.append_assoc]
    exact whole
  have before := (List.append_inj' split rfl).1
  intro member
  have within : '\n'.toUInt8 ∈ lead.toUInt8 :: utf8 line ++ ['\r'.toUInt8] :=
    before ▸ List.mem_append_left start member
  rw [← utf8_cons_ascii ascii] at within
  rcases List.mem_append.mp within with written | mark
  · exact not_mem_utf8 (by decide) unbroken written
  · exact absurd mark (by decide)

end Lines

/-- A bulk string is read once the bytes its length says have come, and two more. -/
theorem parseBulkReply_natCast {buffer : List UInt8} {lineEnd size : ℕ} (small : lineEnd + 2 + size + 2 < 2 ^ 53) :
    parseBulkReply buffer lineEnd (.finite size) =
      if buffer.length < lineEnd + 2 + size + 2 then { complete := false }
      else { complete := true, value := some (.text (toUtf8String
        (subarray buffer (.finite (lineEnd + 2 : ℕ)) (.finite (lineEnd + 2 + size : ℕ))))) } := by
  have present : Number.finite (size : ℚ) ≠ .finite (-1) := by
    intro same
    have negative : (size : ℚ) = -1 := Number.finite.inj same
    have positive : (0 : ℚ) ≤ size := Nat.cast_nonneg size
    linarith
  have stop : (Number.finite (lineEnd + 2 : ℕ)).plus (.finite size) = .finite (lineEnd + 2 + size : ℕ) :=
    Number.plus_natCast (by omega)
  have last : (Number.finite (lineEnd + 2 + size : ℕ)).plus (.finite (2 : ℕ)) = .finite (lineEnd + 2 + size + 2 : ℕ) :=
    Number.plus_natCast small
  unfold parseBulkReply
  rw [if_neg present]
  dsimp only
  rw [stop, last, Number.lessThan_natCast]
  simp only [decide_eq_true_eq]

/-- Digits and a sign break no line. -/
theorem Decimal.unbroken {digits : List Char} (decimal : Decimal digits) (sign : NumberSign) {char : Char}
    (control : char ∈ ['\r', '\n']) : char ∉ sign.chars ++ digits := by
  intro member
  have neither : char.isDigit = false ∧ char ∉ sign.chars := by
    rcases List.mem_pair.mp control with rfl | rfl
    · cases sign with
      | unsigned | plus | minus => decide
    · cases sign with
      | unsigned | plus | minus => decide
  rcases List.mem_append.mp member with before | after
  · exact neither.2 before
  · exact decimal.not_mem neither.1 after

namespace RedisReply

theorem lead_mem (reply : RedisReply) : reply.lead ∈ ['+', '-', ':', '$'] := by
  cases reply with
  | simpleString | error | integer | bulkString | nullBulkString => simp [lead]

theorem lead_ascii (reply : RedisReply) : reply.lead.toNat < 128 := by
  cases reply with
  | simpleString | error | integer | bulkString | nullBulkString => simp [lead]

theorem WellFormed.unbroken {reply : RedisReply} (formed : reply.WellFormed) {char : Char}
    (control : char ∈ ['\r', '\n']) : char ∉ reply.lead :: reply.line := by
  have differs : char ∉ ['+', '-', ':', '$'] := by
    rcases List.mem_pair.mp control with rfl | rfl
    · decide
    · decide
  have other : char ≠ reply.lead := fun same => differs (same ▸ reply.lead_mem)
  refine List.not_mem_cons_of_ne_of_not_mem other ?_
  cases reply with
  | simpleString | error =>
    rcases List.mem_pair.mp control with rfl | rfl
    · exact formed.1
    · exact formed.2
  | integer sign digits => exact formed.1.unbroken sign control
  | bulkString length payload => exact formed.1.unbroken .unsigned control
  | nullBulkString => exact (Decimal.singleton rfl).unbroken .minus control

/-- What `parseRedisReply` returns for what a reply says. -/
def parsed (reply : RedisReply) : ParsedReply :=
  match reply.outcome with
  | .ok value => { complete := true, value := some value }
  | .error message => { complete := true, error := some message }

section BulkString

variable {length : List Char} {payload : String}

/-- The line of a bulk string, with its end. -/
def header (length : List Char) : List UInt8 := '$'.toUInt8 :: (utf8 length ++ crlf)

theorem length_header : (header length).length = (utf8 length).length + 1 + 2 := by
  rw [header, List.length_cons, List.length_append, Nat.add_right_comm]
  rfl

theorem bytes_bulkString :
    (bulkString length payload).bytes = header length ++ (utf8 payload.toList ++ crlf) := by
  simp [bytes, lead, line, body, header]

theorem WellFormed.ofText_length (formed : (bulkString length payload).WellFormed) :
    Number.ofText length = .finite (byteLength payload : ℕ) := by
  obtain ⟨decimal, size, fits⟩ := formed
  have small : Nat.ofDigitChars 10 length 0 < 2 ^ 53 := by
    rw [bytes_bulkString, List.length_append, List.length_append] at fits
    rw [size, byteLength]
    omega
  have exact_ := decimal.ofText_exact .unsigned small
  rw [size, NumberSign.factor, one_mul, Int.cast_natCast] at exact_
  exact exact_

/-- A bulk string as far as it has come. -/
theorem parseRedisReply_bulkString (formed : (bulkString length payload).WellFormed) (received : List UInt8) :
    parseRedisReply (header length ++ received) =
      if received.length < byteLength payload + 2 then { complete := false }
      else { complete := true, value := some (.text (toUtf8String (received.take (byteLength payload)))) } := by
  have fits : (utf8 length).length + 1 + 2 + byteLength payload + 2 < 2 ^ 53 := by
    have total := formed.2.2
    rw [bytes_bulkString, List.length_append, length_header, List.length_append] at total
    exact total
  have buffer : header length ++ received = '$'.toUInt8 :: (utf8 length ++ (crlf ++ received)) := by
    simp [header]
  have line : parseRedisReply (header length ++ received) =
      parseBulkReply (header length ++ received) ((utf8 length).length + 1) (.ofText length) := by
    rw [buffer]
    exact parseRedisReply_line (lead_ascii (bulkString length payload)) (formed.unbroken (by decide)) received
  rw [line, formed.ofText_length, parseBulkReply_natCast fits, List.length_append, length_header]
  by_cases few : received.length < byteLength payload + 2
  · rw [if_pos few, if_pos (by omega)]
  · have taken : (received.take (byteLength payload)).length = byteLength payload := by
      rw [List.length_take]
      omega
    have between := subarray_append (header length) (received.take (byteLength payload))
      (received.drop (byteLength payload))
    rw [List.take_append_drop, taken, length_header] at between
    rw [if_neg few, if_neg (by omega), between]

end BulkString

theorem parseRedisReply_bytes {reply : RedisReply} (formed : reply.WellFormed) :
    parseRedisReply reply.bytes = reply.parsed := by
  have line := parseRedisReply_line reply.lead_ascii (formed.unbroken (by decide)) reply.body
  change parseRedisReply reply.bytes = _ at line
  rw [line]
  cases reply with
  | simpleString text =>
    simp [lead, RedisReply.line, parsed, outcome]
  | error text => simp [lead, RedisReply.line, parsed, outcome]
  | integer sign digits =>
    rw [RedisReply.line, formed.1.ofText_exact sign formed.2]
    simp [lead, parsed, outcome]
  | bulkString length payload =>
    have all : ¬ (utf8 payload.toList).length + crlf.length < byteLength payload + 2 := Nat.lt_irrefl _
    rw [← line, bytes_bulkString, parseRedisReply_bulkString formed, List.length_append, if_neg all, byteLength,
      List.take_left, toUtf8String, utf8Text_utf8, String.ofList_toList]
    rfl
  | nullBulkString =>
    have one : Decimal ['1'] := .singleton rfl
    have digits : Number.ofText ['-', '1'] = .finite (-1) := by
      have value : Nat.ofDigitChars 10 ['1'] 0 = 1 := rfl
      have exact_ := one.ofText_exact .minus (by decide)
      rw [value, NumberSign.factor, Nat.cast_one, mul_one, Int.cast_neg, Int.cast_one] at exact_
      exact exact_
    rw [RedisReply.line, digits]
    simp [lead, parsed, outcome, parseBulkReply]

theorem parseRedisReply_part {reply : RedisReply} (formed : reply.WellFormed) {first rest : List UInt8}
    (whole : first ++ rest = reply.bytes) (more : rest ≠ []) : parseRedisReply first = { complete := false } := by
  have ended : ∀ rest, first ++ rest = reply.lead.toUInt8 :: (utf8 reply.line ++ crlf) → rest ≠ [] →
      parseRedisReply first = { complete := false } :=
    fun rest whole more => parseRedisReply_part_line reply.lead_ascii (formed.unbroken (by decide)) whole more
  cases reply with
  | bulkString length payload =>
    rw [bytes_bulkString] at whole
    rcases List.append_eq_append_iff.mp whole with ⟨left, begun, _⟩ | ⟨received, begun, behind⟩
    · by_cases line : left = []
      · rw [line, List.append_nil] at begun
        rw [← begun, ← List.append_nil (header length), parseRedisReply_bulkString formed]
        exact if_pos (Nat.succ_pos _)
      · exact ended left begun.symm line
    · rw [begun, parseRedisReply_bulkString formed, if_pos]
      have total := congrArg List.length behind
      have some_ := List.length_pos_iff.mpr more
      rw [List.length_append, List.length_append] at total
      change received.length < (utf8 payload.toList).length + crlf.length
      omega
  | simpleString | error | integer | nullBulkString =>
    exact ended rest (whole.trans (by simp [bytes, body])) more

/-- A reply is complete when all of its bytes are there. -/
theorem delimits {reply : RedisReply} (formed : reply.WellFormed) :
    Delimits (fun buffer => MinimalRedisClient.settlement (parseRedisReply buffer)) reply.bytes reply.outcome where
  nonempty := List.cons_ne_nil _ _
  whole := by
    rw [parseRedisReply_bytes formed, parsed]
    cases reply.outcome with
    | ok value => rfl
    | error message => rfl
  part first rest whole more := by
    rw [parseRedisReply_part formed whole more]
    rfl

end RedisReply

section Commands

/-- A part of a command as it is written. -/
def encodedPart (part : String) : List UInt8 :=
  '$'.toUInt8 :: (utf8 (Nat.toDigits 10 (byteLength part)) ++ (crlf ++ (utf8 part.toList ++ crlf)))

theorem encodeRedisCommand_eq (parts : List String) :
    encodeRedisCommand parts =
      '*'.toUInt8 :: (utf8 (Nat.toDigits 10 parts.length) ++ (crlf ++ parts.flatMap encodedPart)) := by
  have chunk : ∀ part : String, utf8 ("$" ++ toString (byteLength part) ++ "\r\n" ++ part ++ "\r\n").toList =
      encodedPart part := by
    intro part
    have digits : (toString (byteLength part)).toList = Nat.toDigits 10 (byteLength part) := Nat.toList_repr
    simp only [String.toList_append, utf8_append, digits, List.append_assoc]
    rfl
  have count : utf8 ("*" ++ toString parts.length ++ "\r\n").toList =
      '*'.toUInt8 :: (utf8 (Nat.toDigits 10 parts.length) ++ crlf) := by
    have digits : (toString parts.length).toList = Nat.toDigits 10 parts.length := Nat.toList_repr
    simp only [String.toList_append, utf8_append, digits, List.append_assoc]
    rfl
  have rest : utf8 (parts.flatMap fun part =>
      ("$" ++ toString (byteLength part) ++ "\r\n" ++ part ++ "\r\n").toList) = parts.flatMap encodedPart := by
    rw [utf8, List.flatMap_assoc]
    exact List.flatMap_congr fun part _ => chunk part
  unfold encodeRedisCommand
  dsimp only
  rw [String.toList_join, List.flatMap_cons, List.flatMap_map, utf8_append, count, rest, List.cons_append,
    List.append_assoc]

theorem decimal_of_mem_utf8 {digits : List Char} (decimal : ∀ char ∈ digits, char.isDigit = true) {byte : UInt8}
    (member : byte ∈ utf8 digits) : '0'.toUInt8 ≤ byte ∧ byte ≤ '9'.toUInt8 := by
  obtain ⟨char, present, within⟩ := List.mem_flatMap.mp member
  obtain ⟨low, high⟩ := Char.isDigit_iff_toNat.mp (decimal char present)
  have zero : '0'.toUInt8.toNat = '0'.toNat := rfl
  have nine : '9'.toUInt8.toNat = '9'.toNat := rfl
  have ascii : char.toNat < 128 := Nat.lt_of_le_of_lt high (by decide)
  rw [encoded_ascii ascii, List.mem_singleton] at within
  have value : byte.toNat = char.toNat := by
    rw [within, UInt8.toNat_ofNat']
    omega
  rw [UInt8.le_iff_toNat_le, UInt8.le_iff_toNat_le, value, zero, nine]
  exact ⟨low, high⟩

theorem readNumber_toDigits (number : ℕ) (rest : List UInt8) :
    readNumber (utf8 (Nat.toDigits 10 number) ++ (crlf ++ rest)) = some (number, rest) := by
  have decimal : ∀ byte ∈ utf8 (Nat.toDigits 10 number),
      decide ('0'.toUInt8 ≤ byte ∧ byte ≤ '9'.toUInt8) = true := by
    intro byte member
    refine decide_eq_true (decimal_of_mem_utf8 ?_ member)
    exact fun char written => Nat.isDigit_of_mem_toDigits (by decide) (by decide) written
  have stops : (crlf ++ rest).takeWhile (fun byte => decide ('0'.toUInt8 ≤ byte ∧ byte ≤ '9'.toUInt8)) = [] := rfl
  have behind : (crlf ++ rest).dropWhile (fun byte => decide ('0'.toUInt8 ≤ byte ∧ byte ≤ '9'.toUInt8)) =
      13 :: 10 :: rest := rfl
  unfold readNumber
  dsimp only
  rw [List.takeWhile_append_of_pos decimal, List.dropWhile_append_of_pos decimal, stops, behind, List.append_nil,
    utf8Text_utf8, digits_toDigits]
  rfl

theorem readBulkString_encodedPart (part : String) (rest : List UInt8) :
    readBulkString (encodedPart part ++ rest) = some (utf8 part.toList, rest) := by
  have shape : encodedPart part ++ rest = '$'.toUInt8 ::
      (utf8 (Nat.toDigits 10 (byteLength part)) ++ (crlf ++ (utf8 part.toList ++ (crlf ++ rest)))) := by
    simp [encodedPart]
  have behind : (utf8 part.toList ++ (crlf ++ rest)).drop (byteLength part) = 13 :: 10 :: rest := List.drop_left
  rw [shape]
  change (readNumber _ >>= _) = _
  rw [readNumber_toDigits, Option.bind_eq_bind, Option.bind_some]
  dsimp only
  rw [behind, byteLength, List.take_left]
  rfl

theorem readBulkStrings_encodedParts (parts : List String) (rest : List UInt8) :
    readBulkStrings parts.length (parts.flatMap encodedPart ++ rest) =
      some (parts.map fun part => utf8 part.toList, rest) := by
  induction parts with
  | nil => rfl
  | cons part parts ih =>
    rw [List.flatMap_cons, List.append_assoc, List.length_cons, readBulkStrings, readBulkString_encodedPart]
    simp [ih]

/-- What was written is read, up to where it ends. -/
theorem readCommand_encodeRedisCommand (parts : List String) (rest : List UInt8) :
    readCommand (encodeRedisCommand parts ++ rest) = some (parts.map fun part => utf8 part.toList, rest) := by
  rw [encodeRedisCommand_eq, List.cons_append, List.append_assoc, List.append_assoc]
  change (readNumber _ >>= _) = _
  rw [readNumber_toDigits, Option.bind_eq_bind, Option.bind_some]
  exact readBulkStrings_encodedParts parts rest

end Commands

/-- A well-formed reply is not taken for complete before all of it has come, and then it is
taken for what it says, however `command` receives it in chunks. A command is read as the
strings it was written for, and what comes after it is no part of it. -/
theorem redis_wire_exact (reply : RedisReply) (formed : reply.WellFormed) (parts : List String) (after : List UInt8) :
    (∀ first rest, first ++ rest = reply.bytes → rest ≠ [] → parseRedisReply first = { complete := false }) ∧
    parseRedisReply reply.bytes = reply.parsed ∧
    (∀ (chunks : List (List UInt8)) rest, chunks.flatten ++ rest = reply.bytes →
      (chunks.foldl MinimalRedisClient.onData {}).settled = if rest = [] then some reply.outcome else none) ∧
    readCommand (encodeRedisCommand parts ++ after) = some (parts.map fun part => utf8 part.toList, after) ∧
    (parts.map fun part => utf8 part.toList).map toUtf8String = parts := by
  refine ⟨?_, RedisReply.parseRedisReply_bytes formed, ?_, readCommand_encodeRedisCommand parts after, ?_⟩
  · intro first rest whole more
    exact RedisReply.parseRedisReply_part formed whole more
  · intro chunks rest whole
    exact (RedisReply.delimits formed).received chunks whole
  · have read : ∀ part ∈ parts, (toUtf8String ∘ fun part => utf8 part.toList) part = part := by
      intro part _
      rw [Function.comp_apply, toUtf8String, utf8Text_utf8, String.ofList_toList]
    rw [List.map_map, List.map_congr_left read, List.map_id']

/-- A payload that looks like the end of a reply and the start of the next, cut in the middle
of a character, and an argument that looks like a command. -/
theorem redis_wire_exact_framed :
    let reply := RedisReply.bulkString ['8'] "\r\n$1\r\né"
    parseRedisReply (reply.bytes.take 11) = { complete := false } ∧
      (MinimalRedisClient.onData (MinimalRedisClient.onData {} (reply.bytes.take 11)) (reply.bytes.drop 11)).settled =
        some (.ok (.text "\r\n$1\r\né")) ∧
      (readCommand (encodeRedisCommand ["GET", "\r\n*1\r\n$4\r\nQUIT\r\n"])).map (·.1.length) = some 2 := by
  intro reply
  have formed : reply.WellFormed := ⟨.singleton rfl, by decide +kernel, by decide +kernel⟩
  obtain ⟨part, -, received, command, -⟩ := redis_wire_exact reply formed
    ["GET", "\r\n*1\r\n$4\r\nQUIT\r\n"] []
  refine ⟨part _ _ (List.take_append_drop 11 _) (by decide +kernel), ?_, ?_⟩
  · exact received [reply.bytes.take 11, reply.bytes.drop 11] [] (by simp)
  · rw [List.append_nil] at command
    rw [command]
    rfl

end Keeper

end FairMarket
