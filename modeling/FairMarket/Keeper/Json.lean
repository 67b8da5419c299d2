import FairMarket.Keeper.AuctionStateStore

/-! The values `JSON.parse` makes, and what the language makes of them where the keeper reads
its state. -/

namespace FairMarket

namespace Keeper

inductive Json where
  | null
  | boolean (value : Bool)
  | number (value : Number)
  | string (text : Text)
  | array (elements : List Json)
  | object (fields : List (String × Json))

/-- What the language throws. -/
inductive JsError where
  | typeError
  | syntaxError

/-- The conversions of the language where they take more than a case: a number, an array or an
object to a string, a string, an array or an object to a number, and a string to its characters. -/
structure Conversions where
  text : Json → Except JsError Text
  number : Json → Except JsError Number
  characters : Text → List Text

namespace Json

/-- `value.name`, which `undefined` makes of what is no object. -/
def field (name : String) : Json → Except JsError (Option Json)
  | .null => .error .typeError
  | .object fields => .ok (fields.lookup name)
  | _ => .ok none

/-- `value ?? default`. -/
def coalesce (value : Option Json) (default : Json) : Json :=
  match value with
  | none | some .null => default
  | some value => value

/-- `Boolean(value)`. -/
def truthy : Option Json → Bool
  | none | some .null => false
  | some (.boolean value) => value
  | some (.number value) => value ≠ 0 ∧ value ≠ .nan
  | some (.string text) => text ≠ .literal ""
  | some (.array _) | some (.object _) => true

/-- What a `for` loop over the value goes through. -/
def iterate (conversions : Conversions) : Json → Except JsError (List Json)
  | .array elements => .ok elements
  | .string text => .ok ((conversions.characters text).map .string)
  | _ => .error .typeError

/-- What `value.map` goes through. -/
def elements : Json → Except JsError (List Json)
  | .array elements => .ok elements
  | _ => .error .typeError

/-- `JSON.parse` of `JSON.stringify` of an object: a field that is `undefined` is dropped. -/
def ofFields (fields : List (String × Option Json)) : Json :=
  .object (fields.filterMap fun field => field.2.map (field.1, ·))

/-- `JSON.parse` of `JSON.stringify` of a number. -/
def ofNumber : Number → Json
  | .finite value => .number (.finite value)
  | _ => .null

/-- `value.toString()` of a `bigint`. -/
def ofBigInt (value : ℤ) : Json := .string (.literal (toString value))

end Json

namespace Conversions

variable (conversions : Conversions)

/-- `String(value)`. -/
def toText : Option Json → Except JsError Text
  | none => .ok (.literal "undefined")
  | some .null => .ok (.literal "null")
  | some (.boolean value) => .ok (.literal (if value then "true" else "false"))
  | some (.string text) => .ok text
  | some value => conversions.text value

/-- `Number(value)`. -/
def toNumber : Option Json → Except JsError Number
  | none => .ok .nan
  | some .null => .ok 0
  | some (.boolean value) => .ok (if value then 1 else 0)
  | some (.number value) => .ok value
  | some value => conversions.number value

/-- `BigInt(String(value))`. -/
def toBigInt (value : Option Json) : Except JsError ℤ := do
  let text ← conversions.toText value
  requireSome text.toBigInt .syntaxError

end Conversions

/-- `value === undefined ? undefined : convert(value)`. -/
def unlessUndefined {α : Type} (convert : Option Json → Except JsError α) :
    Option Json → Except JsError (Option α)
  | none => .ok none
  | some value => some <$> convert (some value)

/-- Decimal digits are no white space and are read for what they are. -/
theorem digits_loop {chars : List Char} (decimal : ∀ char ∈ chars, char.isDigit = true) (number : ℕ) :
    chars.foldlM (fun number char => do
      let value ← digit char
      if value < 10 then some (number * 10 + value) else none) number =
        some (Nat.ofDigitChars 10 chars number) := by
  induction chars generalizing number with
  | nil => rfl
  | cons char rest ih =>
    have isDigit := decimal char List.mem_cons_self
    rw [Char.isDigit_iff_toNat] at isDigit
    have value : digit char = some (char.toNat - '0'.toNat) := by
      unfold digit
      rw [if_pos]
      exact isDigit
    have small : char.toNat - '0'.toNat < 10 := by
      have zero : '0'.toNat = 48 := rfl
      have nine : '9'.toNat = 57 := rfl
      omega
    have turn : (do
        let value ← digit char
        if value < 10 then some (number * 10 + value) else none) =
          some (number * 10 + (char.toNat - '0'.toNat)) := by
      rw [value]
      exact if_pos small
    rw [List.foldlM_cons, turn, Option.bind_eq_bind, Option.bind_some, Nat.ofDigitChars_cons, Nat.mul_comm 10]
    exact ih (fun other member => decimal other (List.mem_cons_of_mem char member)) _

theorem digits_toDigits (number : ℕ) : digits 10 (Nat.toDigits 10 number) = some number := by
  have decimal : ∀ char ∈ Nat.toDigits 10 number, char.isDigit = true := fun char member =>
    Nat.isDigit_of_mem_toDigits (by decide) (by decide) member
  unfold digits
  split
  · rename_i none
    exact absurd none Nat.toDigits_ne_nil
  · rw [digits_loop decimal, Nat.ofDigitChars_ten_toDigits]

theorem trim_eq_self {chars : List Char} (solid : ∀ char ∈ chars, isWhiteSpace char = false) :
    trim chars = chars := by
  have kept : ∀ chars : List Char, (∀ char ∈ chars, isWhiteSpace char = false) →
      chars.dropWhile isWhiteSpace = chars := by
    intro chars solid
    cases chars with
    | nil => rfl
    | cons first rest => exact List.dropWhile_cons_of_neg (by simp [solid first List.mem_cons_self])
  unfold trim
  rw [kept chars solid, kept, List.reverse_reverse]
  intro char member
  exact solid char (List.mem_reverse.mp member)

theorem isWhiteSpace_of_isDigit {char : Char} (isDigit : char.isDigit = true) : isWhiteSpace char = false := by
  rw [Char.isDigit_iff_toNat] at isDigit
  have zero : '0'.toNat = 48 := rfl
  have nine : '9'.toNat = 57 := rfl
  unfold isWhiteSpace
  simp only [List.mem_cons, List.not_mem_nil, or_false]
  rw [decide_eq_false_iff_not]
  omega

/-- A `bigint` that was written as a string. -/
theorem bigInt_toString (value : ℤ) : bigInt (toString value) = some value := by
  have decimal : ∀ (number : ℕ), ∀ char ∈ Nat.toDigits 10 number, char.isDigit = true :=
    fun number char member => Nat.isDigit_of_mem_toDigits (by decide) (by decide) member
  cases value with
  | ofNat number =>
    have chars : (toString (Int.ofNat number)).toList = Nat.toDigits 10 number := Nat.toList_repr
    have solid : trim (Nat.toDigits 10 number) = Nat.toDigits 10 number :=
      trim_eq_self fun char member => isWhiteSpace_of_isDigit (decimal number char member)
    have read := digits_toDigits number
    have isDigit := decimal number
    unfold bigInt
    rw [chars, solid]
    generalize Nat.toDigits 10 number = written at read isDigit
    split
    · cases read
    · exact absurd (isDigit 'x' (by simp)) (by decide)
    · exact absurd (isDigit 'X' (by simp)) (by decide)
    · exact absurd (isDigit 'o' (by simp)) (by decide)
    · exact absurd (isDigit 'O' (by simp)) (by decide)
    · exact absurd (isDigit 'b' (by simp)) (by decide)
    · exact absurd (isDigit 'B' (by simp)) (by decide)
    · exact absurd (isDigit '-' (by simp)) (by decide)
    · exact absurd (isDigit '+' (by simp)) (by decide)
    · rw [read, Option.map_some]
  | negSucc number =>
    have chars : (toString (Int.negSucc number)).toList = '-' :: Nat.toDigits 10 (number + 1) := by
      change ("-" ++ Nat.repr (number + 1)).toList = _
      rw [String.toList_append, Nat.toList_repr]
      rfl
    have solid : trim ('-' :: Nat.toDigits 10 (number + 1)) = '-' :: Nat.toDigits 10 (number + 1) := by
      apply trim_eq_self
      intro char member
      rcases List.mem_cons.mp member with rfl | later
      · decide
      · exact isWhiteSpace_of_isDigit (decimal (number + 1) char later)
    unfold bigInt
    rw [chars, solid]
    change (digits 10 (Nat.toDigits 10 (number + 1))).map _ = _
    rw [digits_toDigits, Option.map_some]
    rfl

/-- The values of a list of fields with different names are found under their names. -/
theorem lookup_fields {fields : List (String × Option Json)} (distinct : (fields.map Prod.fst).Nodup)
    (name : String) :
    (fields.filterMap fun field => field.2.map (field.1, ·)).lookup name = (fields.lookup name).join := by
  induction fields with
  | nil => rfl
  | cons field rest ih =>
    obtain ⟨other, value⟩ := field
    obtain ⟨fresh, others⟩ := List.nodup_cons.mp distinct
    by_cases same : name = other
    · subst same
      rw [List.lookup_cons_self, Option.join_some]
      cases value with
      | some value => exact List.lookup_cons_self
      | none =>
        have absent : rest.lookup name = none := by
          rw [List.lookup_eq_none_iff]
          intro field member
          refine bne_iff_ne.mpr ?_
          intro same
          subst same
          exact fresh (List.mem_map.mpr ⟨field, member, rfl⟩)
        exact (ih others).trans (by rw [absent]; rfl)
    · have differs : (name == other) = false := beq_eq_false_iff_ne.mpr same
      rw [List.lookup_cons, differs]
      cases value with
      | none => exact ih others
      | some value =>
        change List.lookup name ((other, value) :: _) = _
        rw [List.lookup_cons, differs]
        exact ih others

theorem field_ofFields {fields : List (String × Option Json)} (distinct : (fields.map Prod.fst).Nodup)
    (name : String) : (Json.ofFields fields).field name = .ok (fields.lookup name).join :=
  congrArg Except.ok (lookup_fields distinct name)

def Number.IsFinite : Number → Prop
  | .finite _ => True
  | _ => False

namespace Conversions

variable {conversions : Conversions}

@[simp] theorem toBigInt_ofBigInt (value : ℤ) : conversions.toBigInt (some (.ofBigInt value)) = .ok value := by
  change requireSome (bigInt (toString value)) JsError.syntaxError = .ok value
  rw [bigInt_toString]
  rfl

@[simp] theorem unlessUndefined_ofBigInt (value : Option ℤ) :
    unlessUndefined conversions.toBigInt (value.map .ofBigInt) = .ok value := by
  cases value with
  | none => rfl
  | some value =>
    change some <$> conversions.toBigInt (some (.ofBigInt value)) = .ok (some value)
    rw [toBigInt_ofBigInt]
    rfl

@[simp] theorem toText_string (text : Text) : conversions.toText (some (.string text)) = .ok text := rfl

@[simp] theorem unlessUndefined_string (text : Option Text) :
    unlessUndefined conversions.toText (text.map .string) = .ok text := by
  cases text with
  | none => rfl
  | some text => rfl

theorem toNumber_ofNumber {number : Number} (finite : number.IsFinite) :
    conversions.toNumber (some (.ofNumber number)) = .ok number := by
  cases number with
  | finite value => rfl
  | _ => cases finite

theorem unlessUndefined_ofNumber {number : Option Number} (finite : ∀ value ∈ number, value.IsFinite) :
    unlessUndefined conversions.toNumber (number.map .ofNumber) = .ok number := by
  cases number with
  | none => rfl
  | some number =>
    change some <$> conversions.toNumber (some (.ofNumber number)) = .ok (some number)
    rw [toNumber_ofNumber (finite number rfl)]
    rfl

end Conversions

@[simp] theorem coalesce_string (text : Text) (default : Json) :
    Json.coalesce (some (.string text)) default = .string text := rfl

@[simp] theorem coalesce_ofBigInt (value : ℤ) (default : Json) :
    Json.coalesce (some (.ofBigInt value)) default = .ofBigInt value := rfl

theorem coalesce_ofNumber {number : Number} (finite : number.IsFinite) (default : Json) :
    Json.coalesce (some (.ofNumber number)) default = .ofNumber number := by
  cases number with
  | finite value => rfl
  | _ => cases finite

end Keeper

end FairMarket
