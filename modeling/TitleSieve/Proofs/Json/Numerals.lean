import TitleSieve.Json.Reader
import TitleSieve.Json.Writer

/-!
Numerals of JSON and how they are read. A numeral has a sign, digits in front of the point without
needless zeros, digits behind it, and a power of ten; the last two may be missing. Ahead of anything
that does not continue it, a numeral is read as a whole: as a whole number if it has neither of the
two, and as a double otherwise.
-/

namespace TitleSieve.Json

def IsDigits (t : Text) : Prop := t ≠ [] ∧ ∀ c ∈ t, c.isDigit = true

/-- The digits in front end where this text begins. -/
def StopsDigits (rest : Text) : Prop := ∀ c ∈ rest.head?, c.isDigit = false

/-- No numeral goes on with this text. -/
def EndsNumeral (rest : Text) : Prop :=
  ∀ c ∈ rest.head?, c.isDigit = false ∧ c ≠ '.' ∧ c ≠ 'e' ∧ c ≠ 'E'

theorem EndsNumeral.stopsDigits {rest : Text} (h : EndsNumeral rest) : StopsDigits rest :=
  fun c hc => (h c hc).1

theorem takeWhile_isDigit {digits rest : Text} (h : ∀ c ∈ digits, c.isDigit = true)
    (hrest : StopsDigits rest) : (digits ++ rest).takeWhile Char.isDigit = digits := by
  rw [List.takeWhile_append_of_pos h]
  cases rest with
  | nil => simp
  | cons c more =>
    have hc : c.isDigit = false := hrest c rfl
    rw [List.takeWhile_cons_of_neg (by simp [hc]), List.append_nil]

def signOf (t : Text) : Bool × Text :=
  match t with
  | '-' :: rest => (true, rest)
  | _ => (false, t)

def wholeOf (unsigned : Text) : Text :=
  match unsigned with
  | '0' :: _ => ['0']
  | _ => unsigned.takeWhile Char.isDigit

def fractionOf (afterWhole : Text) : Text :=
  match afterWhole with
  | '.' :: rest => rest.takeWhile Char.isDigit
  | _ => []

/-- The sign of the power, how many characters stand in front of its digits, and its digits. -/
def powerOf (afterFraction : Text) : Bool × Nat × Text :=
  match afterFraction with
  | e :: sign :: rest =>
    if e = 'e' || e = 'E' then
      if sign = '-' || sign = '+' then (sign == '-', 2, rest.takeWhile Char.isDigit)
      else (false, 1, (sign :: rest).takeWhile Char.isDigit)
    else (false, 0, [])
  | _ => (false, 0, [])

theorem readNumber_eq (t : Text) :
    readNumber t =
      let signed := signOf t
      let whole := wholeOf signed.2
      if whole.isEmpty then .error ⟨.expectedValue, t.length⟩
      else
        let afterWhole := signed.2.drop whole.length
        let fraction := fractionOf afterWhole
        let afterFraction :=
          if fraction.isEmpty then afterWhole else afterWhole.drop (fraction.length + 1)
        let power := powerOf afterFraction
        let rest :=
          if power.2.2.isEmpty then afterFraction
          else afterFraction.drop (power.2.1 + power.2.2.length)
        if fraction.isEmpty && power.2.2.isEmpty then
          if Number.digitLimit < whole.length then .error ⟨.tooManyDigits whole.length, t.length⟩
          else
            let n : Int := natOf whole
            .ok (.int (if signed.1 then -n else n), rest)
        else
          let exponent : Int := natOf power.2.2
          let exponent := (if power.1 then -exponent else exponent) - fraction.length
          .ok (.double (.ofDecimal signed.1 (natOf (whole ++ fraction)) exponent), rest) := rfl

structure Numeral where
  negative : Bool
  whole : Text
  fraction : Text
  power : Option (Bool × Text)

namespace Numeral

def writeSign (negative : Bool) : Text := if negative then ['-'] else []

def writeFraction (fraction : Text) : Text := if fraction.isEmpty then [] else '.' :: fraction

def writePower : Option (Bool × Text) → Text
  | none => []
  | some (negative, digits) => ['e', if negative then '-' else '+'] ++ digits

def writeUnsigned (numeral : Numeral) : Text :=
  numeral.whole ++ (writeFraction numeral.fraction ++ writePower numeral.power)

def write (numeral : Numeral) : Text := writeSign numeral.negative ++ numeral.writeUnsigned

/-- All parts are digits, and a zero in front stands alone. -/
structure Valid (numeral : Numeral) : Prop where
  whole : IsDigits numeral.whole
  no_zero : numeral.whole.head? = some '0' → numeral.whole = ['0']
  fraction : ∀ c ∈ numeral.fraction, c.isDigit = true
  power : ∀ p ∈ numeral.power, IsDigits p.2

def isWhole (numeral : Numeral) : Bool := numeral.fraction.isEmpty && numeral.power.isNone

variable {numeral : Numeral} {rest : Text}

theorem head?_writePower (power : Option (Bool × Text)) (hrest : EndsNumeral rest) :
    ∀ c ∈ (writePower power ++ rest).head?, c.isDigit = false ∧ c ≠ '.' := by
  intro c hc
  cases power with
  | none => exact ⟨(hrest c hc).1, (hrest c hc).2.1⟩
  | some p =>
    obtain rfl : 'e' = c := by simpa [writePower] using hc
    decide

theorem stopsDigits_writeFraction (fraction : Text) {after : Text} (hafter : StopsDigits after) :
    StopsDigits (writeFraction fraction ++ after) := by
  cases fraction with
  | nil => exact hafter
  | cons d more =>
    intro c hc
    obtain rfl : '.' = c := by simpa [writeFraction] using hc
    decide

theorem signOf_writeSign (negative : Bool) {after : Text} (hafter : ∀ c ∈ after.head?, c ≠ '-') :
    signOf (writeSign negative ++ after) = (negative, after) := by
  cases negative with
  | true => rfl
  | false =>
    cases after with
    | nil => rfl
    | cons c more =>
      have hc : c ≠ '-' := hafter c rfl
      simp [writeSign, signOf, hc]

theorem wholeOf_append {whole after : Text} (h : IsDigits whole)
    (hzero : whole.head? = some '0' → whole = ['0']) (hafter : StopsDigits after) :
    wholeOf (whole ++ after) = whole := by
  obtain ⟨c, more, rfl⟩ := List.exists_cons_of_ne_nil h.1
  by_cases hc : c = '0'
  · subst hc
    rw [hzero rfl]
    rfl
  · have htake := takeWhile_isDigit h.2 hafter
    rw [wholeOf]
    · exact htake
    · rintro tail htail
      exact hc (List.cons.inj htail).1

theorem fractionOf_writeFraction {fraction after : Text} (h : ∀ c ∈ fraction, c.isDigit = true)
    (hafter : StopsDigits after) (hpoint : ∀ c ∈ after.head?, c ≠ '.') :
    fractionOf (writeFraction fraction ++ after) = fraction := by
  cases fraction with
  | nil =>
    cases after with
    | nil => rfl
    | cons c more =>
      have hc : c ≠ '.' := hpoint c rfl
      simp [writeFraction, fractionOf, hc]
  | cons c more => exact takeWhile_isDigit h hafter

/-- The sign of the power, the length of the letter with the sign, and the digits. -/
def powerParts : Option (Bool × Text) → Bool × Nat × Text
  | none => (false, 0, [])
  | some (negative, digits) => (negative, 2, digits)

theorem powerOf_writePower {power : Option (Bool × Text)} (h : ∀ p ∈ power, IsDigits p.2)
    (hrest : EndsNumeral rest) :
    powerOf (writePower power ++ rest) = powerParts power := by
  cases power with
  | none =>
    cases rest with
    | nil => rfl
    | cons c more =>
      obtain ⟨-, -, he, hE⟩ := hrest c rfl
      cases more with
      | nil => rfl
      | cons d left => simp [writePower, powerOf, powerParts, he, hE]
  | some p =>
    obtain ⟨negative, digits⟩ := p
    have hdigits := takeWhile_isDigit (h _ rfl).2 hrest.stopsDigits
    cases negative <;> simp [writePower, powerOf, powerParts, hdigits]

def powerValue : Option (Bool × Text) → Int
  | none => 0
  | some (negative, digits) => if negative then -(natOf digits : Int) else natOf digits

def value (numeral : Numeral) : Value :=
  if numeral.isWhole then
    .int (if numeral.negative then -(natOf numeral.whole : Int) else natOf numeral.whole)
  else
    .double (.ofDecimal numeral.negative (natOf (numeral.whole ++ numeral.fraction))
      (powerValue numeral.power - numeral.fraction.length))

/-- A numeral is read back as its value, unless it is whole and has too many digits. -/
theorem Valid.readNumber_write (h : numeral.Valid) (hrest : EndsNumeral rest)
    (hlimit : numeral.isWhole = true → numeral.whole.length ≤ Number.digitLimit) :
    readNumber (numeral.write ++ rest) = .ok (numeral.value, rest) := by
  obtain ⟨negative, whole, fraction, power⟩ := numeral
  have hpowerHead := head?_writePower power hrest
  have hpowerStops : StopsDigits (writePower power ++ rest) := fun c hc => (hpowerHead c hc).1
  have hfractionStops := stopsDigits_writeFraction fraction hpowerStops
  have hhyphen : ∀ c ∈ (whole ++ (writeFraction fraction ++ (writePower power ++ rest))).head?,
      c ≠ '-' := by
    obtain ⟨hne, hdigits⟩ : IsDigits whole := h.whole
    obtain ⟨d, more, rfl⟩ := List.exists_cons_of_ne_nil hne
    intro c hc
    obtain rfl : d = c := by simpa using hc
    rintro rfl
    exact absurd (hdigits '-' List.mem_cons_self) (by decide)
  have hsign := signOf_writeSign negative hhyphen
  have hwhole := wholeOf_append h.whole h.no_zero hfractionStops
  have hfraction := fractionOf_writeFraction h.fraction hpowerStops fun c hc => (hpowerHead c hc).2
  have hpower := powerOf_writePower h.power hrest
  have hafter : (if fraction.isEmpty then writeFraction fraction ++ (writePower power ++ rest)
      else (writeFraction fraction ++ (writePower power ++ rest)).drop (fraction.length + 1)) =
        writePower power ++ rest := by
    cases fraction with
    | nil => rfl
    | cons c more => simp [writeFraction]
  have hnonempty : whole.isEmpty = false := by simpa using h.whole.1
  have htext : write ⟨negative, whole, fraction, power⟩ ++ rest =
      writeSign negative ++ (whole ++ (writeFraction fraction ++ (writePower power ++ rest))) := by
    simp only [write, writeUnsigned, List.append_assoc]
  rw [htext, readNumber_eq]
  simp only [hsign, hwhole, hnonempty, List.drop_left, hfraction, hafter, hpower]
  cases power with
  | none =>
    cases fraction with
    | nil =>
      have hshort : ¬ Number.digitLimit < whole.length := Nat.not_lt.mpr (hlimit rfl)
      simp [hshort, value, isWhole, writePower, powerParts]
    | cons c more => simp [value, isWhole, writePower, powerParts, powerValue, natOf]
  | some p =>
    obtain ⟨powerNegative, digits⟩ := p
    have hdigits : digits ≠ [] := (h.power _ rfl).1
    have hdrop : (writePower (some (powerNegative, digits)) ++ rest).drop (2 + digits.length) =
        rest := by
      rw [Nat.add_comm]
      exact List.drop_left
    have hnone : digits.isEmpty = false := by simpa using hdigits
    simp only [powerParts, hnone, hdrop, Bool.and_false, value, isWhole, Option.isNone_some,
      powerValue]
    rfl

end Numeral

end TitleSieve.Json
