import TitleSieve.Proofs.Command.Outcomes

/-!
The command as a process. A process has settings, a log that can be opened or not, and times for its
notices. It succeeds if its run does, its level is known and its log can be opened; otherwise no
line is logged, and nothing is printed but the message of a failure.
-/

namespace TitleSieve.Command

open Listing Pass

variable {converter : Converter} {loading : Option ScriptChoice} {raw input : Text}
  {html showHidden : Bool} {world : World} {words : List Text} {rule : Warned Rule}
  {met : Text → Bool} {attempt : LogAttempt} {output : Output} {line : Text}

theorem takeAll_under (world : World) (settings : Settings) (telling : Option Telling)
    (steps : List Step) (options : Options) :
    takeAll (world.under settings telling) steps options = takeAll world steps options := by
  induction steps generalizing options with
  | nil => rfl
  | cons step rest ih =>
    have hstep : take (world.under settings telling) options step = take world options step := rfl
    simp only [takeAll, hstep, ih]

/-- Settings do not change what is asked for. -/
theorem AsksFor.under (h : AsksFor converter loading raw input html showHidden world words)
    (settings : Settings) (telling : Option Telling) :
    AsksFor converter loading raw input html showHidden (world.under settings telling) words := by
  obtain ⟨options, hoptions, hasked⟩ := h
  refine ⟨options, ?_, hasked⟩
  rw [optionsOf, takeAll_under]
  exact hoptions

/-- The ways a process can end: it fails unless the pass succeeds and can be logged, it reports a
failure, or it succeeds and has logged its line. -/
inductive Closes (converter : Converter) (raw input : Text) (html : Bool) (settings : Settings)
    (attempt : LogAttempt) : Except Failure Output × List Text → Prop where
  | failed (failure : Failure)
    (hlost : ¬ ((∃ pass, PassEnds converter raw input html (.ok pass)) ∧
      (Level.named? settings.logLevel).isSome ∧ attempt = ⟨true, true⟩)) :
    Closes converter raw input html settings attempt (.error failure, [])
  | reported {output : Output} (hexit : output.exit ≠ 0)
    (hstopped : ¬ ∃ pass, PassEnds converter raw input html (.ok pass))
    (hreports : Reports converter raw input html output) :
    Closes converter raw input html settings attempt (.ok output, [])
  | logged {output : Output} {pass : Pass Handle} (line : Text) (hexit : output.exit = 0)
    (hpass : PassEnds converter raw input html (.ok pass))
    (hlevel : (Level.named? settings.logLevel).isSome) (hattempt : attempt = ⟨true, true⟩) :
    Closes converter raw input html settings attempt (.ok output, [line])

end TitleSieve.Command
