import TitleSieve.Pattern.Reader
import TitleSieve.Proofs.Pattern.Sources

/-!
What the text of a pattern has in it that is refused. Each excess shows in the text: a bound between
braces that is too great or has too many digits, a code of eight hexadecimal digits that is too
great, or two flag settings that exclude each other. Readings see tokens, which are the text cut
into parts.
-/

namespace TitleSieve.Pattern

/-- Between two braces stand digits, or digits on both sides of a comma; these are one of them. -/
def ShowsBound (digits text : Text) : Prop :=
  ∃ bounds, '\x7b' :: (bounds ++ ['\x7d']) <:+: text ∧ digits ∈ Text.split (· == ',') bounds ∧
    ∀ c ∈ digits, c.isDigit = true

/-- Behind the opening of a group stand flags, and this is one of them. -/
def ShowsFlag (flag : Flag) (text : Text) : Prop :=
  ∃ letters, '(' :: '?' :: letters <:+: text ∧ (∀ c ∈ letters, (Flag.ofChar? c).isSome = true) ∧
    ∃ c ∈ letters, Flag.ofChar? c = some flag

/-- What the text of a pattern has in it that is refused for this excess. -/
def Excess.ShowsIn (text : Text) : Excess → Prop
  | .repetition => ∃ digits, ShowsBound digits text ∧ Reader.repeatLimit ≤ valueOf 10 digits
  | .digits count =>
    ∃ digits, ShowsBound digits text ∧ digits.length = count ∧ Number.digitLimit < count
  | .code => ∃ digits, '\\' :: 'U' :: digits <:+: text ∧ digits.length = 8 ∧
      (∀ c ∈ digits, isHexDigit c = true) ∧ lastWritableCode < valueOf 16 digits
  | .flags => ShowsFlag .ascii text ∧ ShowsFlag .unicode text

/-- An excess that shows in a part of a text shows in the text. -/
theorem Excess.ShowsIn.of_part {part text : Text} {excess : Excess}
    (h : excess.ShowsIn part) (hpart : part <:+: text) : excess.ShowsIn text := by
  have hbound : ∀ {digits}, ShowsBound digits part → ShowsBound digits text := by
    rintro digits ⟨bounds, hbounds, hdigits⟩
    exact ⟨bounds, hbounds.trans hpart, hdigits⟩
  have hflag : ∀ {flag}, ShowsFlag flag part → ShowsFlag flag text := by
    rintro flag ⟨letters, hletters, hflags⟩
    exact ⟨letters, hletters.trans hpart, hflags⟩
  cases excess with
  | repetition =>
    obtain ⟨digits, hdigits, hlimit⟩ := h
    exact ⟨digits, hbound hdigits, hlimit⟩
  | digits count =>
    obtain ⟨digits, hdigits, hcount⟩ := h
    exact ⟨digits, hbound hdigits, hcount⟩
  | code =>
    obtain ⟨digits, hdigits, hcode⟩ := h
    exact ⟨digits, hdigits.trans hpart, hcode⟩
  | flags => exact ⟨hflag h.1, hflag h.2⟩

def textOf (tokens : List Token) : Text := tokens.flatMap Token.text

theorem infix_textOf {part tokens : List Token} (h : part <:+: tokens) :
    textOf part <:+: textOf tokens := by
  obtain ⟨before, after, rfl⟩ := h
  exact ⟨textOf before, textOf after, by simp only [textOf, List.flatMap_append]⟩

theorem textOf_plain (letters : Text) : textOf (letters.map .plain) = letters := by
  induction letters with
  | nil => rfl
  | cons c rest ih => exact congrArg (c :: ·) ih

/-- Characters that are read one by one stand in the text as they are. -/
theorem infix_textOf_of_plain {letters : Text} {tokens : List Token}
    (h : letters.map .plain <:+: tokens) : letters <:+: textOf tokens := by
  have htext := infix_textOf h
  rwa [textOf_plain] at htext

theorem textOf_ofText (text : Text) : textOf (Token.ofText text) = text := by
  induction text using Token.ofText.induct with
  | case1 => rfl
  | case2 c rest ih => exact congrArg (fun t => '\\' :: c :: t) ih
  | case3 => rfl
  | case4 c rest hescape hlone ih =>
    rw [Token.ofText]
    · exact congrArg (c :: ·) ih
    · exact hescape
    · exact hlone

/-- The excesses that show in the text of these tokens. -/
abbrev ShownIn (tokens : List Token) (excess : Excess) : Prop := excess.ShowsIn (textOf tokens)

/-- The reading goes on in the same tokens. -/
abbrev GoesOn {α : Type} (src : Source) (result : α × Source) : Prop :=
  result.2.tokens <:+ src.tokens

end TitleSieve.Pattern
