import Mathlib.Data.List.Forall2
import TitleSieve.Pass.Logger

/-!
Calls for lines of the log when the directory or the file may fail. A call whose directory cannot be
made leaves the logger as it is, and the next one tries again. The first call that has its directory
decides the rest: if it opens the file, this line and all later ones are written; if it does not,
the logger stays registered without a file, and all later lines are lost.
-/

namespace TitleSieve

/-- A call for a line: what the line says, and what succeeds should the logger still have to be set
up. -/
structure LogCall where
  entry : LogEntry
  attempt : LogAttempt

namespace LogCall

/-- What a call returns, and the lines that it adds to the file. -/
abbrev Result := Except LogFault Unit × List Text

/-- A call that keeps its line raises, or adds the line and nothing else. -/
inductive Keeps (call : LogCall) : Result → Prop where
  | raises (fault : LogFault) : Keeps call (.error fault, [])
  | writes : Keeps call (.ok (), [call.entry.line])

/-- A call that returns as if its line were written. -/
def lost : Result := (.ok (), [])

def results : List LogCall → Logger → List Result
  | [], _ => []
  | call :: rest, logger =>
    let (outcome, next, written) := logger.log call.attempt call.entry.line
    (outcome, written) :: results rest next

def lacksDirectory (call : LogCall) : Bool := !call.attempt.makesDirectory

/-- The results of calls of which the first one has its directory. -/
def resultsOnceMade : List LogCall → List Result
  | [] => []
  | first :: later =>
    if first.attempt.opensFile then (first :: later).map fun call => (.ok (), [call.entry.line])
    else (.error .file, []) :: later.map fun _ => lost

/-- The first call that has its directory cannot open the file, and it is not the last call. -/
def LosesLines (calls : List LogCall) : Prop :=
  ∃ first later, calls.dropWhile lacksDirectory = first :: later ∧
    first.attempt.opensFile = false ∧ later ≠ []

theorem not_keeps_lost (call : LogCall) : ¬ call.Keeps lost := by
  rintro ⟨⟩

theorem results_writing (calls : List LogCall) :
    results calls .writing = calls.map fun call => (.ok (), [call.entry.line]) := by
  induction calls with
  | nil => rfl
  | cons call rest ih => exact congrArg _ ih

/-- Nothing leads out of the state without a file, whatever would succeed now. -/
theorem results_registered (calls : List LogCall) :
    results calls .registered = calls.map fun _ => lost := by
  induction calls with
  | nil => rfl
  | cons call rest ih => exact congrArg _ ih

theorem results_of_lacksDirectory {call : LogCall} (h : call.lacksDirectory = true)
    (rest : List LogCall) :
    results (call :: rest) .unset = (.error .directory, []) :: results rest .unset := by
  have hsetUp : Logger.unset.setUp call.attempt = (.error .directory, .unset) := if_pos h
  simp only [results, Logger.log, hsetUp]

theorem results_of_not_lacksDirectory {first : LogCall} (h : first.lacksDirectory = false)
    (later : List LogCall) :
    results (first :: later) .unset = resultsOnceMade (first :: later) := by
  have hmade : ¬ (!first.attempt.makesDirectory) = true := Bool.eq_false_iff.mp h
  cases hopens : first.attempt.opensFile with
  | true =>
    have hsetUp : Logger.unset.setUp first.attempt = (.ok (), .writing) := by
      simp only [Logger.setUp, if_neg hmade, hopens, Bool.not_true, Bool.false_eq_true, if_false]
    simp only [results, Logger.log, hsetUp, results_writing, resultsOnceMade, hopens, if_true,
      List.map_cons]
  | false =>
    have hsetUp : Logger.unset.setUp first.attempt = (.error .file, .registered) := by
      simp only [Logger.setUp, if_neg hmade, hopens, Bool.not_false, if_true]
    simp only [results, Logger.log, hsetUp, results_registered, resultsOnceMade, hopens,
      Bool.false_eq_true, if_false]

/-- All the results, split at the first call that has its directory. -/
theorem results_unset (calls : List LogCall) :
    results calls .unset =
      (calls.takeWhile lacksDirectory).map (fun _ => (.error .directory, [])) ++
        resultsOnceMade (calls.dropWhile lacksDirectory) := by
  -- Up to the first call with its directory every call starts from the same state as the first one.
  induction calls with
  | nil => rfl
  | cons call rest ih =>
    cases h : call.lacksDirectory with
    | true =>
      rw [results_of_lacksDirectory h, ih, List.takeWhile_cons_of_pos h,
        List.dropWhile_cons_of_pos h, List.map_cons, List.cons_append]
    | false =>
      have hneg : ¬ call.lacksDirectory = true := Bool.eq_false_iff.mp h
      rw [results_of_not_lacksDirectory h, List.takeWhile_cons_of_neg hneg,
        List.dropWhile_cons_of_neg hneg, List.map_nil, List.nil_append]

theorem forall₂_keeps_written (calls : List LogCall) :
    List.Forall₂ Keeps calls (calls.map fun call => (.ok (), [call.entry.line])) :=
  List.forall₂_map_right_iff.mpr (List.forall₂_same.mpr fun _ _ => .writes)

theorem forall₂_keeps_lost_iff {calls : List LogCall} :
    List.Forall₂ Keeps calls (calls.map fun _ => lost) ↔ calls = [] := by
  cases calls with
  | nil => exact iff_of_true .nil rfl
  | cons call rest =>
    rw [List.map_cons, List.forall₂_cons]
    exact iff_of_false (fun h => not_keeps_lost call h.1) (List.cons_ne_nil _ _)

theorem forall₂_keeps_onceMade_iff (first : LogCall) (later : List LogCall) :
    List.Forall₂ Keeps (first :: later) (resultsOnceMade (first :: later)) ↔
      ¬ (first.attempt.opensFile = false ∧ later ≠ []) := by
  cases hopens : first.attempt.opensFile with
  | true =>
    rw [resultsOnceMade, if_pos hopens]
    exact iff_of_true (forall₂_keeps_written _) (by simp)
  | false =>
    rw [resultsOnceMade, if_neg (Bool.eq_false_iff.mp hopens), List.forall₂_cons,
      forall₂_keeps_lost_iff, and_iff_right (.raises .file)]
    simp

theorem losesLines_cons {call : LogCall} (h : call.lacksDirectory = true) {rest : List LogCall} :
    LosesLines (call :: rest) ↔ LosesLines rest := by
  rw [LosesLines, List.dropWhile_cons_of_pos h, LosesLines]

theorem losesLines_cons_of_not {first : LogCall} (h : first.lacksDirectory = false)
    {later : List LogCall} :
    LosesLines (first :: later) ↔ first.attempt.opensFile = false ∧ later ≠ [] := by
  rw [LosesLines, List.dropWhile_cons_of_neg (Bool.eq_false_iff.mp h)]
  simp

theorem forall₂_keeps_iff (calls : List LogCall) :
    List.Forall₂ Keeps calls (results calls .unset) ↔ ¬ LosesLines calls := by
  induction calls with
  | nil => exact iff_of_true .nil (by rintro ⟨_, _, h, -⟩; cases h)
  | cons call rest ih =>
    cases h : call.lacksDirectory with
    | true =>
      rw [results_of_lacksDirectory h, List.forall₂_cons, ih, losesLines_cons h,
        and_iff_right (.raises .directory)]
    | false =>
      rw [results_of_not_lacksDirectory h, losesLines_cons_of_not h]
      exact forall₂_keeps_onceMade_iff call rest

/-- Calls for lines from the first one of a process on, whatever succeeds at each of them: the calls
before the directory is there raise; the first one that has it writes its line and so do all later
ones, or it raises for the file and all later ones are lost. So each call raises or adds its own
line exactly if none follows a call that has its directory first and cannot open the file. -/
theorem keeps_lines_iff (calls : List LogCall) :
    results calls .unset =
        (calls.takeWhile lacksDirectory).map (fun _ => (.error .directory, [])) ++
          resultsOnceMade (calls.dropWhile lacksDirectory) ∧
      (List.Forall₂ Keeps calls (results calls .unset) ↔ ¬ LosesLines calls) :=
  ⟨results_unset calls, forall₂_keeps_iff calls⟩

/-- Everything succeeds at the second call, and yet it adds nothing. -/
theorem not_keeps_every_line :
    ¬ ∀ calls : List LogCall, List.Forall₂ Keeps calls (results calls .unset) := by
  intro h
  let entry : LogEntry := ⟨"a".toList, 1, 0, 2, 1, ⟨"T".toList, .int 0⟩⟩
  have hlost : results [⟨entry, ⟨true, false⟩⟩, ⟨entry, ⟨true, true⟩⟩] .unset =
      [(.error .file, []), lost] := rfl
  have hkept := h [⟨entry, ⟨true, false⟩⟩, ⟨entry, ⟨true, true⟩⟩]
  rw [hlost, List.forall₂_cons, List.forall₂_cons] at hkept
  exact not_keeps_lost _ hkept.2.1

end LogCall

end TitleSieve
