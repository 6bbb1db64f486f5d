import TitleSieve.Proofs.Pattern.Shown
import TitleSieve.Proofs.Text.Cuts

/-!
Reading the bounds of a repetition and the settings of flags. The bounds are what stands between the
braces, and the flags that are turned on are among the letters behind the opening of a group; so
both show in the text. Bounds are refused here, flags only once the whole pattern has been read.
-/

namespace TitleSieve.Pattern

variable {tokens : List Token} {src : Source}

namespace Reader

theorem ensures_readBound {digits : Text} (h : ShowsBound digits (textOf tokens)) :
    Ensures (ShownIn tokens) (fun _ => True) (readBound digits) := by
  unfold readBound
  split
  · rename_i hlength
    exact ensures_refused ⟨digits, h, rfl, hlength⟩
  · split
    · rename_i hlimit
      exact ensures_refused ⟨digits, h, hlimit⟩
    · exact ensures_ok trivial

theorem ensures_boundsOf {low high : Text} {position : Nat} {rest : Source}
    (hlow : low ≠ [] → ShowsBound low (textOf tokens))
    (hhigh : high ≠ [] → ShowsBound high (textOf tokens)) :
    Ensures (ShownIn tokens) (fun bounds => bounds.2.2 = rest)
      (boundsOf low high position rest) := by
  have hleast : Ensures (ShownIn tokens) (fun _ => True)
      (if low.isEmpty then .ok 0 else readBound low) := by
    split
    · exact ensures_ok trivial
    · rename_i hne
      exact ensures_readBound (hlow (by simpa using hne))
  unfold boundsOf
  refine hleast.bind fun least _ => ?_
  split
  · exact ensures_pure rfl
  · rename_i hne
    refine (ensures_readBound (hhigh (by simpa using hne))).bind fun most _ => ?_
    split
    · exact ensures_malformed ..
    · exact ensures_pure rfl

inductive Bounds : Text → Text → Text → Prop where
  | one (low : Text) : Bounds low low low
  | two (low high : Text) : Bounds low high (low ++ ',' :: high)

theorem Bounds.mem_split {low high bounds : Text} (h : Bounds low high bounds)
    (hlow : ∀ c ∈ low, c.isDigit = true) (hhigh : ∀ c ∈ high, c.isDigit = true) :
    low ∈ Text.split (· == ',') bounds ∧ high ∈ Text.split (· == ',') bounds := by
  have hsplit : ∀ {digits : Text}, (∀ c ∈ digits, c.isDigit = true) →
      Text.split (· == ',') digits = [digits] := by
    intro digits hdigits
    refine Text.split_of_forall fun c hc => ?_
    have hdigit := hdigits c hc
    rw [beq_eq_false_iff_ne]
    rintro rfl
    exact absurd hdigit (by decide)
  cases h with
  | one => simp [hsplit hlow]
  | two =>
    rw [Text.split_append_cons (by rfl), hsplit hlow, hsplit hhigh]
    simp

theorem ensures_readSecondBound {low : Text} {limit : Nat}
    (hlow : ∀ c ∈ low, c.isDigit = true) :
    Ensures (ShownIn tokens) (fun result => (∀ c ∈ result.1, c.isDigit = true) ∧
      ∃ bounds, Bounds low result.1 bounds ∧
        low.map Token.plain ++ src.tokens = bounds.map Token.plain ++ result.2.tokens)
      (readSecondBound low limit src) := by
  unfold readSecondBound
  refine (Source.ensures_accept src ',').bind fun result hcomma => ?_
  cases hcomma with
  | stayed => exact ensures_pure ⟨hlow, low, .one low, rfl⟩
  | @moved rest htokens =>
    refine (Source.ensures_getWhile Char.isDigit limit rest).weaken fun result hhigh => ?_
    refine ⟨hhigh.2, _, .two low result.1, ?_⟩
    rw [htokens, hhigh.1]
    simp

theorem ensures_readBounds (h : .plain '\x7b' :: src.tokens <:+: tokens) :
    Ensures (ShownIn tokens)
      (fun bounds => ∀ least most rest, bounds = some (least, most, rest) →
        rest.tokens <:+ src.tokens) (readBounds src) := by
  unfold readBounds
  split
  · exact ensures_pure (by simp)
  · refine (Source.ensures_getWhile ..).bind fun result hresult => ?_
    obtain ⟨low, afterLow⟩ := result
    obtain ⟨htokens, hlow⟩ := hresult
    refine (ensures_readSecondBound hlow).bind fun result hresult => ?_
    obtain ⟨high, afterHigh⟩ := result
    obtain ⟨hhigh, bounds, hbounds, hafter⟩ := hresult
    refine (Source.ensures_accept afterHigh '\x7d').bind fun result hclosed => ?_
    cases hclosed with
    | stayed => exact ensures_pure (by simp)
    | @moved rest hclosed =>
      have hsrc : src.tokens = bounds.map .plain ++ .plain '\x7d' :: rest.tokens := by
        rw [← hclosed, ← hafter, htokens]
      have hshown : '\x7b' :: (bounds ++ ['\x7d']) <:+: textOf tokens := by
        refine infix_textOf_of_plain (List.IsInfix.trans (List.IsPrefix.isInfix ?_) h)
        refine ⟨rest.tokens, ?_⟩
        rw [hsrc]
        simp
      obtain ⟨hmem, hmem'⟩ := hbounds.mem_split hlow hhigh
      have hread : Ensures (ShownIn tokens) _ (boundsOf low high src.position rest) :=
        ensures_boundsOf (fun _ => ⟨bounds, hshown, hmem, hlow⟩)
          fun _ => ⟨bounds, hshown, hmem', hhigh⟩
      refine hread.bind fun found hfound => ensures_pure ?_
      intro least most last hlast
      obtain rfl := Option.some.inj hlast
      obtain rfl : last = rest := hfound
      rw [hsrc]
      exact (List.suffix_cons _ _).trans (List.suffix_append _ _)

theorem ensures_readGreed (src : Source) :
    Ensures (ShownIn tokens) (GoesOn src) (readGreed src) := by
  unfold readGreed
  refine (Source.ensures_accept src '?').bind fun result hlazy => ?_
  obtain ⟨lazy, rest⟩ := result
  simp only
  split
  · exact ensures_pure hlazy.suffix
  · refine (Source.ensures_accept rest '+').bind fun last hpossessive => ?_
    exact ensures_pure (hpossessive.suffix.trans hlazy.suffix)

end Reader

/-- Behind the first letter, letters that write flags have been read up to some place, and each of
the flags is written by one of all these letters. -/
def ReadsFlags (first : Char) (src : Source) (flags : List Flag) (here : Source) : Prop :=
  ∃ letters, src.tokens = letters.map .plain ++ here.tokens ∧
    (∀ c ∈ first :: letters, (Flag.ofChar? c).isSome = true) ∧
    ∀ flag ∈ flags, ∃ c ∈ first :: letters, Flag.ofChar? c = some flag

theorem ReadsFlags.suffix {first : Char} {flags : List Flag} {here : Source}
    (h : ReadsFlags first src flags here) : here.tokens <:+ src.tokens := by
  obtain ⟨letters, htokens, -⟩ := h
  rw [htokens]
  exact List.suffix_append ..

theorem ReadsFlags.next {first c : Char} {flags : List Flag} {here rest : Source} {flag : Flag}
    (h : ReadsFlags first src flags here) (hhere : here.tokens = .plain c :: rest.tokens)
    (hc : Flag.ofChar? c = some flag) : ReadsFlags first src (flag :: flags) rest := by
  obtain ⟨letters, htokens, hletters, hflags⟩ := h
  refine ⟨letters ++ [c], ?_, ?_, ?_⟩
  · rw [htokens, hhere]
    simp
  · rw [← List.cons_append, List.forall_mem_append, List.forall_mem_singleton, hc]
    exact ⟨hletters, rfl⟩
  · rw [List.forall_mem_cons]
    refine ⟨⟨c, by simp, hc⟩, fun other hother => ?_⟩
    obtain ⟨d, hd, heq⟩ := hflags other hother
    rw [← List.cons_append]
    exact ⟨d, List.mem_append_left _ hd, heq⟩

/-- Flags that have been read behind the opening of a group show in the text. -/
theorem ReadsFlags.shows {first : Char} {flags : List Flag} {here : Source}
    (h : ReadsFlags first src flags here)
    (hgroup : .plain '(' :: .plain '?' :: .plain first :: src.tokens <:+: tokens) :
    ∀ flag ∈ flags, ShowsFlag flag (textOf tokens) := by
  obtain ⟨letters, htokens, hletters, hflags⟩ := h
  intro flag hflag
  have hshown : '(' :: '?' :: first :: letters <:+: textOf tokens := by
    refine infix_textOf_of_plain (List.IsInfix.trans (List.IsPrefix.isInfix ?_) hgroup)
    refine ⟨here.tokens, ?_⟩
    rw [htokens]
    rfl
  exact ⟨first :: letters, hshown, hletters, hflags flag hflag⟩

theorem ensures_readFlagsOn {first : Char} {flag : Flag} (hfirst : Flag.ofChar? first = some flag)
    (src : Source) :
    Ensures (ShownIn tokens) (fun result => result.2.2.tokens <:+ src.tokens ∧
      ∃ here, ReadsFlags first src result.1 here) (readFlagsOn flag src) := by
  unfold readFlagsOn
  refine Source.ensures_scan (fun state here => ReadsFlags first src (state.1 :: state.2) here)
    (fun state here hhere hne => ?_) (fun state position _ => ?_) ?_
  · obtain ⟨flag, on⟩ := state
    simp only
    split
    · trivial
    · split
      · trivial
      · refine (Source.ensures_get here).bind fun result hresult => ?_
        have hrest := hresult.suffix.trans hhere.suffix
        cases hresult with
        | nothing hnil => exact absurd hnil hne
        | @token token rest htokens =>
          cases token with
          | escaped c => exact ensures_malformed ..
          | dangling => exact ensures_malformed ..
          | plain c =>
            simp only
            split
            · exact ensures_pure ⟨hrest, here, hhere⟩
            · split
              · rename_i next hnext
                exact ensures_pure ⟨by rw [htokens]; exact List.suffix_rfl,
                  hhere.next htokens hnext⟩
              · exact ensures_malformed ..
  · simp only
    split
    · exact ensures_malformed ..
    · split <;> exact ensures_malformed ..
  · exact ⟨[], rfl, by simp [hfirst], by simp [hfirst]⟩

theorem ensures_readFlagsOff (src : Source) :
    Ensures (ShownIn tokens) (GoesOn src) (readFlagsOff src) := by
  unfold readFlagsOff
  refine (Source.ensures_get src).bind fun result hresult => ?_
  obtain ⟨token, rest⟩ := result
  have hrest := hresult.suffix
  simp only
  split
  · exact ensures_malformed ..
  · split
    · split
      · exact ensures_malformed ..
      · refine Source.ensures_scan rest.Trails (fun state here hhere hne => ?_)
          (fun state position _ => ?_) List.suffix_rfl
        · split
          · trivial
          · refine (Source.ensures_get here).bind fun result hlast => ?_
            obtain ⟨token, last⟩ := result
            have hbehind := hlast.suffix.trans hhere
            simp only
            split
            · exact ensures_pure (hbehind.trans hrest)
            · split
              · exact ensures_pure ⟨hlast.suffix_tail hne, hbehind⟩
              · exact ensures_malformed ..
            · exact ensures_malformed ..
            · exact ensures_malformed ..
        · split <;> exact ensures_malformed ..
    · exact ensures_malformed ..

def FlagSetting.turnedOn : FlagSetting → List Flag
  | .whole on => on
  | .group on _ => on

theorem ensures_readFirstFlags {first : Char}
    (hgroup : .plain '(' :: .plain '?' :: .plain first :: src.tokens <:+: tokens) :
    Ensures (ShownIn tokens) (fun result => result.2.2.tokens <:+ src.tokens ∧
      ∀ flag ∈ result.1, ShowsFlag flag (textOf tokens)) (readFirstFlags first src) := by
  unfold readFirstFlags
  split
  · rename_i flag hfirst
    refine (ensures_readFlagsOn hfirst src).weaken fun result hresult => ?_
    obtain ⟨hrest, here, hflags⟩ := hresult
    exact ⟨hrest, hflags.shows hgroup⟩
  · exact ensures_ok ⟨List.suffix_rfl, by simp⟩

theorem ensures_readLastFlags (mark : Char) (src : Source) :
    Ensures (ShownIn tokens) (GoesOn src) (readLastFlags mark src) := by
  unfold readLastFlags
  split
  · exact ensures_readFlagsOff src
  · exact ensures_ok List.suffix_rfl

theorem ensures_readFlags {first : Char}
    (hgroup : .plain '(' :: .plain '?' :: .plain first :: src.tokens <:+: tokens) :
    Ensures (ShownIn tokens) (fun result => result.2.tokens <:+ src.tokens ∧
      ∀ flag ∈ result.1.turnedOn, ShowsFlag flag (textOf tokens)) (readFlags first src) := by
  unfold readFlags
  refine (ensures_readFirstFlags hgroup).bind fun result hresult => ?_
  obtain ⟨on, mark, rest⟩ := result
  obtain ⟨hrest, hon⟩ := hresult
  simp only
  split
  · exact ensures_pure ⟨hrest, hon⟩
  · split
    · exact ensures_malformed ..
    · refine (ensures_readLastFlags mark rest).bind fun result hlast => ?_
      split
      · exact ensures_malformed ..
      · split
        · exact ensures_malformed ..
        · exact ensures_pure ⟨List.IsSuffix.trans hlast hrest, hon⟩

/-- The flag for the small alphabet is in force only where it has been turned on. -/
theorem Flags.ascii_adjust {text : Text} {flags : Flags} {on off : List Flag}
    (hflags : flags.ascii = true → ShowsFlag .ascii text)
    (hon : ∀ flag ∈ on, ShowsFlag flag text) :
    (flags.adjust on off).ascii = true → ShowsFlag .ascii text := by
  intro h
  simp only [Flags.adjust, Bool.or_eq_true, Bool.and_eq_true, List.contains_iff_mem] at h
  rcases h with ⟨hascii, -⟩ | hascii
  · exact hflags hascii
  · exact hon _ hascii

end TitleSieve.Pattern
