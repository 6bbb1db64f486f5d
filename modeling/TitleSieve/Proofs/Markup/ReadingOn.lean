import TitleSieve.Markup.Printer
import TitleSieve.Proofs.Markup.Readings
import TitleSieve.Proofs.Scanning

/-!
Reading a page from some place on, straight into a builder. Each step of the reader uses a first
part of the text and leads on with the builder that has taken its events; how a stretch of text is
cut into events does not matter to the builder, so text may be read character by character.
-/

namespace TitleSieve

namespace Progress

variable {α σ σ' ρ ρ' : Type}

def map (f : σ → σ') (g : ρ → ρ') : Progress α σ ρ → Progress α σ' ρ'
  | .more state rest => .more (f state) rest
  | .done result => .done (g result)

end Progress

/-- A reading from another state is the image of a reading if every step is the image of a step. -/
theorem scanFrom_image {α σ ρ ε : Type} {next : σ → List α → Except ε (Progress α σ ρ)}
    {atEnd : σ → Except ε ρ} {f : σ → σ} {g : ρ → ρ}
    (hnext : ∀ state items, next (f state) items = (next state items).map (.map f g))
    (hend : ∀ state, atEnd (f state) = (atEnd state).map g) (skip : Nat) (state : σ)
    (items : List α) :
    scanFrom next atEnd skip (f state) items = (scanFrom next atEnd skip state items).map g := by
  induction items generalizing skip state with
  | nil => cases skip <;> exact hend state
  | cons head rest ih =>
    cases skip with
    | succ skip => exact ih skip state
    | zero =>
      rw [scanFrom, scanFrom, hnext]
      cases next state (head :: rest) with
      | error fault => rfl
      | ok progress =>
        cases progress with
        | done result => rfl
        | more state' left => exact ih _ state'

namespace Markup

namespace Event

/-- A reading that had come to other events before. -/
def Reading.after (earlier : List Event) (reading : Reading) : Reading :=
  { reading with events := reading.events ++ earlier }

def Stopped.after (earlier : List Event) (stopped : Stopped) : Stopped :=
  { stopped with reading := stopped.reading.after earlier }

theorem Reading.addText_after (earlier : List Event) (reading : Reading) (content : Text) :
    (reading.after earlier).addText content = (reading.addText content).after earlier := by
  cases content <;> rfl

theorem Reading.foldl_add_after (earlier events : List Event) (reading : Reading) :
    events.foldl Reading.add (reading.after earlier) =
      (events.foldl Reading.add reading).after earlier := by
  induction events generalizing reading with
  | nil => rfl
  | cons event rest ih => exact ih (reading.add event)

theorem stepVerbatim_after (earlier : List Event) (reading : Reading) (name t : Text) :
    stepVerbatim (reading.after earlier) name t =
      (stepVerbatim reading name t).map (·.after earlier) (·.after earlier) := by
  unfold stepVerbatim
  cases cutWhere? (endsVerbatim? name) t with
  | none => rfl
  | some cut =>
    obtain ⟨content, rest⟩ := cut
    simp only [Reading.addText_after]
    split <;> rfl

theorem stepConstruct_after (final : Bool) (earlier : List Event) (reading : Reading) (t : Text) :
    stepConstruct final (reading.after earlier) t =
      (stepConstruct final reading t).map (.map (·.after earlier) (·.after earlier)) := by
  unfold stepConstruct
  cases readConstruct t with
  | error fault => rfl
  | ok construct =>
    cases construct with
    | read events rest =>
      simp only [Reading.foldl_add_after]
      rfl
    | opened event name rest => rfl
    | unfinished =>
      simp only
      split <;> rfl

theorem stepReference_after (final : Bool) (earlier : List Event) (reading : Reading) (t : Text) :
    stepReference final (reading.after earlier) t =
      (stepReference final reading t).map (.map (·.after earlier) (·.after earlier)) := by
  unfold stepReference
  cases readReference final t with
  | error fault => rfl
  | ok reference =>
    cases reference <;>
    · simp only [Reading.addText_after]
      rfl

/-- What a step leads to does not depend on the events before it. -/
theorem step_after (final : Bool) (earlier : List Event) (reading : Reading) (t : Text) :
    step final (reading.after earlier) t =
      (step final reading t).map (.map (·.after earlier) (·.after earlier)) := by
  have hopened : (reading.after earlier).verbatim = reading.verbatim := rfl
  unfold step
  rw [hopened]
  split
  · rw [stepVerbatim_after]
    rfl
  · exact stepConstruct_after ..
  · exact stepReference_after ..
  · rfl

/-- Reads a text as far as one reading goes, with a builder that takes the events. -/
def readOnto (builder : Builder) (opened : Option Text) (t : Text) :
    Except Fault (Builder × Option Text × Text) :=
  (readOnce false opened t).map fun stopped =>
    (stopped.reading.built builder, stopped.reading.verbatim, stopped.left)

theorem readOnto_nil (builder : Builder) (opened : Option Text) :
    readOnto builder opened [] = .ok (builder, opened, []) := rfl

/-- A step uses a first part of the text and leads on with the builder that takes its events. -/
theorem readOnto_of_step (builder : Builder) {opened : Option Text} {reading : Reading}
    {used left : Text} (hused : used ≠ [])
    (hstep : step false ⟨opened, []⟩ (used ++ left) = .ok (.more reading left)) :
    readOnto builder opened (used ++ left) =
      readOnto (reading.built builder) reading.verbatim left := by
  have hreading : reading = Reading.after reading.events ⟨reading.verbatim, []⟩ := rfl
  have hshift : readOnce false opened (used ++ left) =
      (readOnce false reading.verbatim left).map (·.after reading.events) := by
    rw [readOnce, scan, scanFrom_of_step hused hstep, hreading]
    exact scanFrom_image (step_after false reading.events) (fun _ => rfl) ..
  rw [readOnto, readOnto, hshift]
  cases readOnce false reading.verbatim left with
  | error fault => rfl
  | ok stopped =>
    simp [Except.map, Stopped.after, Reading.after, Reading.built]

theorem readOnto_of_read (builder : Builder) {events : List Event} {used left : Text}
    (h : readConstruct (used ++ left) = .ok (.read events left)) :
    readOnto builder none ('<' :: used ++ left) =
      readOnto (events.foldl Builder.step builder) none left := by
  have hstep : step false ⟨none, []⟩ ('<' :: used ++ left) =
      .ok (.more (events.foldl Reading.add ⟨none, []⟩) left) := by
    simp only [List.cons_append, step, stepConstruct, h]
  rw [readOnto_of_step builder (List.cons_ne_nil _ _) hstep, Reading.built_foldl_add,
    Reading.verbatim_foldl_add]
  rfl

theorem readOnto_of_opened (builder : Builder) {event : Event} {name used left : Text}
    (h : readConstruct (used ++ left) = .ok (.opened event name left)) :
    readOnto builder none ('<' :: used ++ left) =
      readOnto (builder.step event) (some name) left := by
  have hstep : step false ⟨none, []⟩ ('<' :: used ++ left) =
      .ok (.more ⟨some name, [event]⟩ left) := by
    simp only [List.cons_append, step, stepConstruct, h]
  rw [readOnto_of_step builder (List.cons_ne_nil _ _) hstep, Reading.built_cons]
  rfl

end Event

namespace Builder

open Event

/-- Text taken in two pieces is text taken as a whole. -/
theorem foldl_textEvents_append (builder : Builder) (first second : Text) :
    (textEvents (first ++ second)).foldl step builder =
      (textEvents second).foldl step ((textEvents first).foldl step builder) := by
  by_cases hfirst : first = []
  · simp [hfirst, textEvents]
  · by_cases hsecond : second = []
    · simp [hsecond, textEvents]
    · simp [hfirst, hsecond, textEvents, step]

end Builder

namespace Event

theorem takeWhile_dropWhile (p : Char → Bool) (t : Text) : (t.dropWhile p).takeWhile p = [] := by
  induction t with
  | nil => rfl
  | cons c rest ih =>
    by_cases hc : p c = true
    · rw [List.dropWhile_cons_of_pos hc, ih]
    · rw [List.dropWhile_cons_of_neg hc, List.takeWhile_cons_of_neg hc]

/-- A stretch of text up to the next mark is read at once. -/
theorem readOnto_run (builder : Builder) {run rest : Text} (hrun : ∀ c ∈ run, isPlain c = true)
    (hrest : rest.takeWhile isPlain = []) :
    readOnto builder none (run ++ rest) =
      readOnto ((textEvents run).foldl Builder.step builder) none rest := by
  by_cases hempty : run = []
  · simp [hempty, textEvents]
  have htake : (run ++ rest).takeWhile isPlain = run := by
    rw [List.takeWhile_append_of_pos hrun, hrest, List.append_nil]
  have hdrop : (run ++ rest).dropWhile isPlain = rest := by
    have hsplit := List.takeWhile_append_dropWhile (p := isPlain) (l := rest)
    rw [hrest, List.nil_append] at hsplit
    rw [List.dropWhile_append_of_pos hrun, hsplit]
  have hstep : step false ⟨none, []⟩ (run ++ rest) = .ok (.more ⟨none, [.text run]⟩ rest) := by
    have hfirst : step false ⟨none, []⟩ (run ++ rest) =
        .ok (.more ⟨none, [.text ((run ++ rest).takeWhile isPlain)]⟩
          ((run ++ rest).dropWhile isPlain)) := by
      obtain ⟨c, more, rfl⟩ := List.exists_cons_of_ne_nil hempty
      have hc := hrun c List.mem_cons_self
      unfold step
      split
      · contradiction
      · next heq =>
        obtain ⟨rfl, -⟩ := List.cons.inj heq
        cases hc
      · next heq =>
        obtain ⟨rfl, -⟩ := List.cons.inj heq
        cases hc
      · rfl
    rw [hfirst, htake, hdrop]
  rw [readOnto_of_step builder hempty hstep, Reading.built_cons, textEvents, if_neg hempty]
  rfl

/-- A character that opens no mark is read by itself, whatever follows it. -/
theorem readOnto_plain (builder : Builder) {c : Char} (hc : isPlain c = true) (left : Text) :
    readOnto builder none (c :: left) =
      readOnto ((textEvents [c]).foldl Builder.step builder) none left := by
  have hrun : ∀ d ∈ left.takeWhile isPlain, isPlain d = true :=
    List.all_eq_true.mp List.all_takeWhile
  have hrest := takeWhile_dropWhile isPlain left
  have hwhole := readOnto_run builder (List.forall_mem_cons.mpr ⟨hc, hrun⟩) hrest
  have hpart := readOnto_run ((textEvents [c]).foldl Builder.step builder) hrun hrest
  rw [List.cons_append, List.takeWhile_append_dropWhile] at hwhole
  rw [List.takeWhile_append_dropWhile] at hpart
  rw [hwhole, hpart, ← Builder.foldl_textEvents_append, List.singleton_append]

theorem referenceName?_closed {name : Text} (hname : ∀ d ∈ name, isReferenceChar d = true)
    (left : Text) : referenceName? (name ++ ';' :: left) = some (name, ';' :: left) := by
  have hmark : ¬ isReferenceChar ';' = true := by decide
  have htake : (name ++ ';' :: left).takeWhile isReferenceChar = name := by
    rw [List.takeWhile_append_of_pos hname, List.takeWhile_cons_of_neg hmark, List.append_nil]
  have hdrop : (name ++ ';' :: left).dropWhile isReferenceChar = ';' :: left := by
    rw [List.dropWhile_append_of_pos hname, List.dropWhile_cons_of_neg hmark]
  rw [referenceName?, htake, hdrop]

/-- A reference that ends with a semicolon is read as what its name stands for. -/
theorem readOnto_reference (builder : Builder) {c d : Char} {name : Text}
    (hfirst : isAsciiLetter c = true) (hname : ∀ c ∈ name, isReferenceChar c = true)
    (htext : namedText (c :: name) = [d]) (left : Text) :
    readOnto builder none ('&' :: c :: name ++ ';' :: left) =
      readOnto ((textEvents [d]).foldl Builder.step builder) none left := by
  have hchar : isReferenceChar c = true := by simp [isReferenceChar, hfirst]
  have hfound := referenceName?_closed (List.forall_mem_cons.mpr ⟨hchar, hname⟩) left
  have hread : readReference false (c :: name ++ ';' :: left) = .ok (.read [d] left) := by
    unfold readReference
    split
    · contradiction
    · next heq =>
      obtain ⟨rfl, -⟩ := List.cons.inj heq
      exact absurd hfirst (by decide)
    · next heq =>
      obtain ⟨rfl, -⟩ := List.cons.inj heq
      rw [if_pos hfirst, hfound]
      dsimp only
      rw [htext]
      rfl
  have hstep : step false ⟨none, []⟩ (('&' :: c :: name ++ [';']) ++ left) =
      .ok (.more ⟨none, [.text [d]]⟩ left) := by
    rw [List.append_assoc, List.singleton_append, List.cons_append]
    simp only [step, stepReference, hread]
    rfl
  have honto := readOnto_of_step builder (by simp) hstep
  rw [List.append_assoc, List.singleton_append] at honto
  rw [honto, Reading.built_cons]
  rfl

theorem readOnto_escapeChar (builder : Builder) (c : Char) (left : Text) :
    readOnto builder none (escapeChar c ++ left) =
      readOnto ((textEvents [c]).foldl Builder.step builder) none left := by
  have hnames : namedText "amp".toList = ['&'] ∧ namedText "lt".toList = ['<'] ∧
      namedText "gt".toList = ['>'] := by decide +kernel
  have hreference {c d : Char} {name : Text} (hfirst : isAsciiLetter c = true)
      (hname : name.all isReferenceChar = true) (htext : namedText (c :: name) = [d]) :=
    readOnto_reference builder hfirst (List.all_eq_true.mp hname) htext left
  unfold escapeChar
  split
  · next hc => exact hc ▸ hreference (by decide) (by decide) hnames.1
  · split
    · next hc => exact hc ▸ hreference (by decide) (by decide) hnames.2.1
    · split
      · next hc => exact hc ▸ hreference (by decide) (by decide) hnames.2.2
      · next hand hopen _ =>
        exact readOnto_plain builder (by simp [isPlain, hand, hopen]) left

/-- Escaped text is read as the text that it stands for. -/
theorem readOnto_escape (builder : Builder) (content left : Text) :
    readOnto builder none (escape content ++ left) =
      readOnto ((textEvents content).foldl Builder.step builder) none left := by
  induction content generalizing builder with
  | nil => rfl
  | cons c rest ih =>
    rw [escape, List.flatMap_cons, List.append_assoc, readOnto_escapeChar]
    refine (ih _).trans ?_
    rw [← Builder.foldl_textEvents_append, List.singleton_append]

end Event

end Markup

end TitleSieve
