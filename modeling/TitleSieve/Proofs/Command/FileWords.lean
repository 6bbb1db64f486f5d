import TitleSieve.Proofs.Command.RuleWords

/-!
Command lines that are written from steps. A step is written as a flag, as a flag and the name of a
file, or as the rule; where there is one rule at most, the steps are read back, in whatever order
they come. Steps that give a rule ask for a file to be filtered by it if they name one, and for the
standard input if they do not.
-/

namespace TitleSieve.Command

namespace Step

def words : Step → List Text
  | .help => ["--help".toList]
  | .read name => ["-i".toList, name]
  | .html => ["--html".toList]
  | .showHidden => ["--show-hidden".toList]
  | .noVariants => [noVariantsName]
  | .rule text => [text]

def tokens : Step → List Word
  | .help => [.flag .help false none]
  | .read name => [.flag .input true none, .plain name]
  | .html => [.flag .html false none]
  | .showHidden => [.flag .showHidden false none]
  | .noVariants => [.flag .noVariants false none]
  | .rule text => [.plain text]

/-- A text that stands in the step is not taken for a flag. -/
def HasPlainText : Step → Prop
  | .read text | .rule text => IsPlain text
  | _ => True

def isRule : Step → Bool
  | .rule _ => true
  | _ => false

def isRead : Step → Bool
  | .read _ => true
  | _ => false

theorem ne_separator_of_mem_words {step : Step} (h : step.HasPlainText) {word : Text}
    (hword : word ∈ step.words) : word ≠ ['-', '-'] := by
  cases step with
  | read name =>
    rcases List.mem_cons.mp hword with rfl | hname
    · decide
    · rw [List.mem_singleton.mp hname]
      exact IsPlain.ne_separator h
  | rule text =>
    rw [List.mem_singleton.mp hword]
    exact IsPlain.ne_separator h
  | help | html | showHidden | noVariants =>
    rw [List.mem_singleton.mp hword]
    decide

theorem readWords_words {step : Step} (h : step.HasPlainText) (rest : List Text) :
    Plan.readWords (step.words ++ rest) = (Plan.readWords rest).map (step.tokens ++ ·) := by
  have hlong : ∀ name flag, flagNames.lookup name = some flag →
      readWord name = .ok (.flag flag (isShort name) none) := by
    intro name flag hname
    simp only [readWord, hname]
  cases step with
  | read name =>
    have hflag := hlong "-i".toList .input (by decide)
    have hname : readWord name = .ok (.plain name) := readWord_of_isPlain h
    simp only [words, List.cons_append, List.nil_append, Plan.readWords, hflag, hname]
    cases Plan.readWords rest <;> rfl
  | rule text =>
    have htext : readWord text = .ok (.plain text) := readWord_of_isPlain h
    simp only [words, List.cons_append, List.nil_append, Plan.readWords, htext]
    rfl
  | help =>
    simp only [words, List.cons_append, List.nil_append, Plan.readWords,
      hlong "--help".toList .help (by decide)]
    rfl
  | html =>
    simp only [words, List.cons_append, List.nil_append, Plan.readWords,
      hlong "--html".toList .html (by decide)]
    rfl
  | showHidden =>
    simp only [words, List.cons_append, List.nil_append, Plan.readWords,
      hlong "--show-hidden".toList .showHidden (by decide)]
    rfl
  | noVariants =>
    simp only [words, List.cons_append, List.nil_append, Plan.readWords, readWord_noVariantsName]
    rfl

theorem readWords_flatMap {steps : List Step} (h : ∀ step ∈ steps, step.HasPlainText) :
    Plan.readWords (steps.flatMap words) = .ok (steps.flatMap tokens) := by
  induction steps with
  | nil => rfl
  | cons step rest ih =>
    rw [List.forall_mem_cons] at h
    rw [List.flatMap_cons, List.flatMap_cons, readWords_words h.1, ih h.2]
    rfl

/-- Without a rule, every step brings a flag. -/
theorem hasFlags_tokens {steps : List Step} (h : steps.countP isRule = 0) :
    Plan.hasFlags (steps.flatMap tokens) = !steps.isEmpty := by
  cases steps with
  | nil => rfl
  | cons step rest =>
    have hstep : step.isRule = false := by
      rw [List.countP_eq_zero] at h
      simpa using h step List.mem_cons_self
    cases step <;> first | rfl | cases hstep

/-- The steps that are read, once there has been a rule or not. -/
theorem ofWords_tokens {steps : List Step} (ruled : Bool)
    (h : ruled.toNat + steps.countP isRule ≤ 1) :
    Plan.ofWords none false ruled [] (steps.flatMap tokens) = ⟨steps, none⟩ := by
  induction steps generalizing ruled with
  | nil => cases ruled <;> rfl
  | cons step rest ih =>
    rw [List.countP_cons] at h
    rw [List.flatMap_cons]
    cases step with
    | rule text =>
      simp only [isRule, if_true] at h
      obtain rfl : ruled = false := by
        cases ruled with
        | false => rfl
        | true =>
          rw [Bool.toNat_true] at h
          omega
      have hnone : rest.countP isRule = 0 := by simpa using h
      have hflags := hasFlags_tokens hnone
      cases rest with
      | nil => rfl
      | cons next more =>
        have hrest := ih true (by simp [hnone])
        simp only [tokens, List.singleton_append, Plan.ofWords, hflags, List.isEmpty_cons, hrest]
        rfl
    | read name =>
      have hrest := ih ruled (by simpa [isRule] using h)
      simp only [tokens, List.cons_append, List.nil_append, Plan.ofWords, hrest]
      rfl
    | help | html | showHidden | noVariants =>
      have hrest := ih ruled (by simpa [isRule] using h)
      simp only [tokens, List.cons_append, List.nil_append, Plan.ofWords, hrest]
      rfl

theorem ofCommandLine_words {steps : List Step} (hplain : ∀ step ∈ steps, step.HasPlainText)
    (hrules : steps.countP isRule ≤ 1) :
    Plan.ofCommandLine (steps.flatMap words) = ⟨steps, none⟩ := by
  have hseparator : ∀ word ∈ steps.flatMap words, word ≠ ['-', '-'] := by
    intro word hword
    obtain ⟨step, hstep, hword⟩ := List.mem_flatMap.mp hword
    exact ne_separator_of_mem_words (hplain step hstep) hword
  rw [ofCommandLine_of_readWords hseparator (readWords_flatMap hplain)]
  exact ofWords_tokens false (by simpa using hrules)

end Step

/-- The steps give this rule, once, and name this file, if there is one, and no other; each of the
three flags is among them if it is said to be. The order of the steps is free, and but for the rule
they may be repeated. -/
structure FiltersInput (raw : Text) (source : Option Text) (html showHidden noVariants : Bool)
    (steps : List Step) : Prop where
  rule_once : steps.countP Step.isRule = 1
  mem_iff : ∀ step, step ∈ steps ↔ step = .rule raw ∨
    (∃ name, source = some name ∧ step = .read name) ∨ html = true ∧ step = .html ∨
    showHidden = true ∧ step = .showHidden ∨ noVariants = true ∧ step = .noVariants

/-- The steps give this rule, once, and this file; they may ask for a page and switch the variants
off, and nothing else. -/
structure FiltersFile (raw name : Text) (html noVariants : Bool) (steps : List Step) : Prop where
  rule_once : steps.countP Step.isRule = 1
  mem_iff : ∀ step, step ∈ steps ↔ step = .rule raw ∨ step = .read name ∨
    html = true ∧ step = .html ∨ noVariants = true ∧ step = .noVariants

def World.Holds (world : World) (name : Text) (bytes : List Nat) : Prop :=
  IsPlain name ∧ '\x00' ∉ name ∧ world.open? name = .ok bytes

/-- These bytes are in the file that is named, or, without one, on the standard input. -/
def World.Offers (world : World) (bytes : List Nat) : Option Text → Prop
  | some name => world.Holds name bytes
  | none => world.standardInput = bytes

variable {world : World} {raw name : Text} {source : Option Text} {bytes : List Nat}
  {html showHidden noVariants : Bool} {steps : List Step}

theorem World.Holds.take_read (h : world.Holds name bytes) (options : Options) :
    take world options (.read name) = .ok { options with input := some bytes } := by
  obtain ⟨hplain, hzero, hopen⟩ := h
  have hstandard : name ≠ standardName := by
    rintro rfl
    exact hplain rfl
  have hcontains : name.contains '\x00' = false := by simpa using hzero
  simp only [take, if_neg hstandard, hcontains, hopen]
  rfl

/-- Steps of these kinds set an option each, in any order and however often. -/
theorem takeAll_eq
    (hsteps : ∀ step ∈ steps, step = .rule raw ∨
      (∃ name, step = .read name ∧ world.Holds name bytes) ∨ step = .html ∨ step = .showHidden ∨
      step = .noVariants)
    (options : Options) :
    takeAll world steps options = .ok
      { rule := if .rule raw ∈ steps then raw else options.rule
        input := if steps.any Step.isRead then some bytes else options.input
        html := options.html || decide (.html ∈ steps)
        showHidden := options.showHidden || decide (.showHidden ∈ steps)
        noVariants := options.noVariants || decide (.noVariants ∈ steps) } := by
  induction steps generalizing options with
  | nil => simp [takeAll]
  | cons step rest ih =>
    rw [List.forall_mem_cons] at hsteps
    have hrest := ih hsteps.2
    rcases hsteps.1 with rfl | ⟨name, rfl, hholds⟩ | rfl | rfl | rfl
    · simp [takeAll, take, hrest, Step.isRead]
    · simp [takeAll, hholds.take_read, hrest, Step.isRead]
    · simp [takeAll, take, hrest, Step.isRead]
    · simp [takeAll, take, hrest, Step.isRead]
    · simp [takeAll, take, hrest, Step.isRead]

theorem FiltersInput.optionsOf_eq
    (hsteps : FiltersInput raw source html showHidden noVariants steps) (hraw : IsPlain raw)
    (hoffers : world.Offers bytes source) :
    optionsOf world (.ofCommandLine (steps.flatMap Step.words)) =
      .ok ⟨raw, source.map fun _ => bytes, html, showHidden, noVariants⟩ := by
  have hkinds : ∀ step ∈ steps, step = .rule raw ∨
      (∃ name, step = .read name ∧ world.Holds name bytes) ∨ step = .html ∨ step = .showHidden ∨
      step = .noVariants := by
    intro step hstep
    rcases (hsteps.mem_iff step).mp hstep with h | ⟨name, rfl, h⟩ | ⟨-, h⟩ | ⟨-, h⟩ | ⟨-, h⟩
    · exact .inl h
    · exact .inr (.inl ⟨name, h, hoffers⟩)
    · exact .inr (.inr (.inl h))
    · exact .inr (.inr (.inr (.inl h)))
    · exact .inr (.inr (.inr (.inr h)))
  have hplain : ∀ step ∈ steps, step.HasPlainText := by
    intro step hstep
    rcases hkinds step hstep with rfl | ⟨name, rfl, hholds⟩ | rfl | rfl | rfl
    · exact hraw
    · exact hholds.1
    · trivial
    · trivial
    · trivial
  have hread : steps.any Step.isRead = source.isSome := by
    rw [Bool.eq_iff_iff, List.any_eq_true, Option.isSome_iff_exists]
    constructor
    · rintro ⟨step, hstep, hread⟩
      rcases (hsteps.mem_iff step).mp hstep with
        rfl | ⟨name, hname, -⟩ | ⟨-, rfl⟩ | ⟨-, rfl⟩ | ⟨-, rfl⟩
      · cases hread
      · exact ⟨name, hname⟩
      · cases hread
      · cases hread
      · cases hread
    · rintro ⟨name, hname⟩
      exact ⟨.read name, (hsteps.mem_iff _).mpr (.inr (.inl ⟨name, hname, rfl⟩)), rfl⟩
  have hplan := Step.ofCommandLine_words hplain (Nat.le_of_eq hsteps.rule_once)
  rw [hplan, optionsOf, takeAll_eq hkinds, hread]
  cases source <;> simp [hsteps.mem_iff, Options.default]

theorem FiltersFile.filtersInput (h : FiltersFile raw name html noVariants steps) :
    FiltersInput raw (some name) html false noVariants steps where
  rule_once := h.rule_once
  mem_iff step := by simp [h.mem_iff]

theorem FiltersFile.optionsOf_eq (hsteps : FiltersFile raw name html noVariants steps)
    (hraw : IsPlain raw) (hholds : world.Holds name bytes) :
    optionsOf world (.ofCommandLine (steps.flatMap Step.words)) =
      .ok ⟨raw, some bytes, html, false, noVariants⟩ :=
  hsteps.filtersInput.optionsOf_eq hraw hholds

end TitleSieve.Command
