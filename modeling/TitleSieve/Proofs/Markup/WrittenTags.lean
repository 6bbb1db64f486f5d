import TitleSieve.Proofs.Markup.Endings
import TitleSieve.Proofs.Markup.Legible
import TitleSieve.Proofs.Markup.ReadingOn

/-!
Tags that have been written are read as they were meant. A value stands between quotes of a kind
that does not occur in it any more, and its references are replaced by the characters they were
written for; so every attribute is taken in two steps, its blank and all the rest.
-/

namespace TitleSieve.Markup

open Event StartTag

section

theorem unescapeFrom_eq_drop (skip : Nat) (t : Text) :
    unescapeFrom skip t = unescapeFrom 0 (t.drop skip) := by
  induction t generalizing skip with
  | nil => cases skip <;> rfl
  | cons c rest ih =>
    cases skip with
    | zero => rfl
    | succ skip => exact ih skip

theorem unescape_plain {c : Char} (hc : c ≠ '&') (rest : Text) :
    unescape (c :: rest) = (unescape rest).map (c :: ·) := by
  rw [unescape, unescapeFrom, if_neg hc, unescape]

/-- What is required of the name of a reference, so that it is read up to its semicolon. -/
structure NamesCharacter (name : Text) (c : Char) : Prop where
  begins : ∃ first rest, name = first :: rest ∧ first ≠ '#'
  chars : ∀ d ∈ name, isNameChar d = true
  short : name.length ≤ nameLimit
  value : namedValue name true = [c]

theorem replaceReference_closed {name : Text} {c : Char} (h : NamesCharacter name c) (rest : Text) :
    replaceReference (name ++ ';' :: rest) = .ok ([c], rest) := by
  have hmark : ¬ isNameChar ';' = true := by decide
  have hname : ((name ++ ';' :: rest).takeWhile isNameChar).take nameLimit = name := by
    rw [List.takeWhile_append_of_pos h.chars, List.takeWhile_cons_of_neg hmark, List.append_nil,
      List.take_of_length_le h.short]
  obtain ⟨first, more, hsplit, hfirst⟩ := h.begins
  have hnonempty : name.isEmpty = false := by rw [hsplit, List.isEmpty_cons]
  unfold replaceReference
  split
  · next heq =>
    rw [hsplit, List.cons_append, List.cons.injEq] at heq
    exact absurd heq.1 hfirst
  · dsimp only
    rw [hname, hnonempty, List.drop_left]
    simp [takeSemicolon, h.value]

/-- A reference in a value is replaced by the character that it names. -/
theorem unescape_reference {name : Text} {c : Char} (h : NamesCharacter name c) (rest : Text) :
    unescape ('&' :: name ++ ';' :: rest) = (unescape rest).map (c :: ·) := by
  have hskip : (name ++ ';' :: rest).length - rest.length = name.length + 1 := by
    rw [List.length_append, List.length_cons]
    omega
  have hdrop : (name ++ ';' :: rest).drop (name.length + 1) = rest := by
    rw [← List.drop_drop, List.drop_left, List.drop_one, List.tail_cons]
  rw [unescape, List.cons_append, unescapeFrom, if_pos rfl, replaceReference_closed h]
  dsimp only
  rw [hskip, unescapeFrom_eq_drop, hdrop, unescape]
  rfl

theorem namesCharacter_markup : NamesCharacter "amp".toList '&' ∧ NamesCharacter "lt".toList '<' ∧
    NamesCharacter "gt".toList '>' ∧ NamesCharacter "quot".toList '"' := by
  refine ⟨⟨⟨'a', _, rfl, by decide⟩, List.all_eq_true.mp ?_, by decide, by decide⟩,
    ⟨⟨'l', _, rfl, by decide⟩, List.all_eq_true.mp ?_, by decide, by decide⟩,
    ⟨⟨'g', _, rfl, by decide⟩, List.all_eq_true.mp ?_, by decide, by decide⟩,
    ⟨⟨'q', _, rfl, by decide⟩, List.all_eq_true.mp ?_, by decide, by decide⟩⟩ <;> decide

theorem unescape_escapeChar (c : Char) (rest : Text) :
    unescape (escapeChar c ++ rest) = (unescape rest).map (c :: ·) := by
  obtain ⟨hamp, hlt, hgt, -⟩ := namesCharacter_markup
  unfold escapeChar
  split
  · next hc => exact hc ▸ unescape_reference hamp rest
  · next hc =>
    split
    · next hc => exact hc ▸ unescape_reference hlt rest
    · split
      · next hc => exact hc ▸ unescape_reference hgt rest
      · exact unescape_plain hc rest

theorem unescape_flatMap {write : Char → Text}
    (hwrite : ∀ c rest, unescape (write c ++ rest) = (unescape rest).map (c :: ·)) (value : Text) :
    unescape (value.flatMap write) = .ok value := by
  induction value with
  | nil => rfl
  | cons c rest ih =>
    rw [List.flatMap_cons, hwrite, ih]
    rfl

/-- A quotation mark in a value that holds marks of both kinds is written as a reference. -/
def quoteChar (c : Char) : Text := if c = '"' then "&quot;".toList else [c]

theorem flatMap_quoteChar_escapeChar (c : Char) :
    (escapeChar c).flatMap quoteChar = if c = '"' then "&quot;".toList else escapeChar c := by
  have hnames : ("&amp;".toList).flatMap quoteChar = "&amp;".toList ∧
      ("&lt;".toList).flatMap quoteChar = "&lt;".toList ∧
        ("&gt;".toList).flatMap quoteChar = "&gt;".toList := by decide
  by_cases hquote : c = '"'
  · subst hquote
    rfl
  · rw [if_neg hquote]
    unfold escapeChar
    split
    · exact hnames.1
    · split
      · exact hnames.2.1
      · split
        · exact hnames.2.2
        · simp [quoteChar, hquote]

theorem unescape_quoted (value : Text) :
    unescape ((escape value).flatMap quoteChar) = .ok value := by
  rw [escape, List.flatMap_assoc]
  refine unescape_flatMap (fun c rest => ?_) value
  rw [flatMap_quoteChar_escapeChar]
  split
  · next hquote => exact hquote ▸ unescape_reference namesCharacter_markup.2.2.2 rest
  · exact unescape_escapeChar c rest

/-- A value is written between quotes that do not occur in what stands between them. -/
theorem exists_quoteValue (value : Text) :
    ∃ quote raw, (quote = '"' ∨ quote = '\'') ∧
      quoteValue (escape value) = quote :: raw ++ [quote] ∧ quote ∉ raw ∧
        unescape raw = .ok value := by
  have hplain : unescape (escape value) = .ok value := unescape_flatMap unescape_escapeChar value
  unfold quoteValue
  split
  · split
    · refine ⟨'"', (escape value).flatMap quoteChar, .inl rfl, rfl, ?_, unescape_quoted value⟩
      rw [List.mem_flatMap]
      rintro ⟨c, -, hc⟩
      unfold quoteChar at hc
      split at hc
      · exact absurd hc (by decide)
      · next hquote => exact hquote (List.mem_singleton.mp hc).symm
    · next hapostrophe =>
      exact ⟨'\'', escape value, .inr rfl, rfl, by simpa using hapostrophe, hplain⟩
  · next hquote => exact ⟨'"', escape value, .inl rfl, rfl, by simpa using hquote, hplain⟩

end

def writeAttribute (entry : Text × Text) : Text :=
  ' ' :: entry.1 ++ '=' :: quoteValue (escape entry.2)

def tagMark (selfClosing : Bool) : Text := if selfClosing then ['/', '>'] else ['>']

namespace StartTag

theorem scanFrom_of_done {α σ ρ ε : Type} {next : σ → List α → Except ε (Progress α σ ρ)}
    {atEnd : σ → Except ε ρ} {state : σ} {head : α} {rest : List α} {result : ρ}
    (h : next state (head :: rest) = .ok (.done result)) :
    scanFrom next atEnd 0 state (head :: rest) = .ok result := by
  rw [scanFrom, h]

def readFrom (state : State) (t : Text) : Except Fault TagReading :=
  scanFrom step (fun _ => .ok .unfinished) 0 state t

theorem readAssignment?_quoted {quote : Char} (hquote : quote = '"' ∨ quote = '\'') {raw : Text}
    (hraw : quote ∉ raw) (left : Text) :
    readAssignment? ('=' :: quote :: raw ++ quote :: left) = some (raw, quote, left) := by
  have hcut : Text.cutAt? [quote] (raw ++ quote :: left) = some (raw, left) :=
    Text.cutAt?_append hraw left
  have hequals : Text.isBlank '=' = false := by decide
  have hblank : Text.isBlank quote = false := by
    rcases hquote with rfl | rfl <;> decide
  have hsign : (quote == '=') = false := by
    rcases hquote with rfl | rfl <;> decide
  have hkind : quote = '\'' ∨ quote = '"' := hquote.symm
  simp [readAssignment?, hequals, hsign, hblank, readValue?, hkind, hcut]

theorem readAttribute_quoted (state : State) (first : Char) {rest : Text}
    (hrest : ∀ c ∈ rest, isAttributeNameChar c = true) {quote : Char}
    (hquote : quote = '"' ∨ quote = '\'') {raw : Text} (hraw : quote ∉ raw) (left : Text) :
    readAttribute state first (rest ++ '=' :: quote :: raw ++ quote :: left) =
      (⟨quote, (Text.lower (first :: rest), raw) :: state.attributes⟩, left) := by
  have hsign : ¬ isAttributeNameChar '=' = true := by decide
  have hsplit : rest ++ '=' :: quote :: raw ++ quote :: left =
      rest ++ '=' :: (quote :: raw ++ quote :: left) := by simp
  have htake : (rest ++ '=' :: (quote :: raw ++ quote :: left)).takeWhile isAttributeNameChar =
      rest := by
    rw [List.takeWhile_append_of_pos hrest, List.takeWhile_cons_of_neg hsign, List.append_nil]
  have hdrop : (rest ++ '=' :: (quote :: raw ++ quote :: left)).dropWhile isAttributeNameChar =
      '=' :: quote :: raw ++ quote :: left := by
    rw [List.dropWhile_append_of_pos hrest, List.dropWhile_cons_of_neg hsign]
    rfl
  rw [hsplit, readAttribute, htake, hdrop, readAssignment?_quoted hquote hraw]

/-- An attribute that has been written is read up to its second quote. -/
theorem readFrom_attribute (state : State) {name : Text} (hname : IsAttributeName name)
    {quote : Char} (hquote : quote = '"' ∨ quote = '\'') {raw : Text} (hraw : quote ∉ raw)
    (left : Text) :
    readFrom state (' ' :: name ++ '=' :: (quote :: raw ++ [quote]) ++ left) =
      readFrom ⟨quote, (name, raw) :: state.attributes⟩ left := by
  obtain ⟨first, rest, rfl, hgap, hbracket, hrest⟩ := hname.begins
  let spaced : State := { state with previous := ' ' }
  have hread := readAttribute_quoted spaced first hrest hquote hraw left
  rw [hname.lowered] at hread
  have hspace : step state ([' '] ++ (first :: rest ++ '=' :: (quote :: raw ++ [quote]) ++ left)) =
      .ok (.more spaced (first :: rest ++ '=' :: (quote :: raw ++ [quote]) ++ left)) := rfl
  have hwritten : first :: rest ++ '=' :: (quote :: raw ++ [quote]) ++ left =
      first :: (rest ++ '=' :: quote :: raw ++ quote :: left) := by simp
  have hattribute : step spaced (first :: rest ++ '=' :: (quote :: raw ++ [quote]) ++ left) =
      .ok (.more ⟨quote, (first :: rest, raw) :: state.attributes⟩ left) := by
    have hmay : mayPrecedeAttribute spaced.previous = true := rfl
    rw [hwritten]
    unfold step
    split
    · next heq => exact absurd (List.cons.inj heq).1 hbracket
    · next heq =>
      obtain ⟨rfl, -⟩ := List.cons.inj heq
      cases hgap
    · next heq =>
      obtain ⟨rfl, rfl⟩ := List.cons.inj heq
      rw [hgap, hmay, hread]
      rfl
    · contradiction
  calc
    readFrom state (' ' :: (first :: rest) ++ '=' :: (quote :: raw ++ [quote]) ++ left)
      = readFrom spaced (first :: rest ++ '=' :: (quote :: raw ++ [quote]) ++ left) :=
        scanFrom_of_step (List.cons_ne_nil _ _) hspace
    _ = readFrom ⟨quote, (first :: rest, raw) :: state.attributes⟩ left :=
        scanFrom_of_step (by simp) hattribute

/-- Attributes that have been written are read one after the other, with their values unread. -/
theorem exists_readFrom_attributes {attributes : Attributes} (h : attributes.Named)
    (state : State) :
    ∃ (raw : Attributes) (last : Char), unescapeAll raw = .ok attributes ∧
      ∀ left, readFrom state (attributes.flatMap writeAttribute ++ left) =
        readFrom ⟨last, raw.reverse ++ state.attributes⟩ left := by
  induction attributes generalizing state with
  | nil => exact ⟨[], state.previous, rfl, fun _ => rfl⟩
  | cons entry rest ih =>
    obtain ⟨hname, hrest⟩ := List.forall_mem_cons.mp h
    obtain ⟨quote, raw, hquote, hwritten, hraw, hunescape⟩ := exists_quoteValue entry.2
    obtain ⟨others, last, hothers, hread⟩ := ih hrest ⟨quote, (entry.1, raw) :: state.attributes⟩
    refine ⟨(entry.1, raw) :: others, last, ?_, fun left => ?_⟩
    · rw [unescapeAll, hunescape, hothers]
      rfl
    · rw [List.flatMap_cons, writeAttribute, hwritten, List.append_assoc,
        readFrom_attribute state hname hquote hraw, hread, List.reverse_cons, List.append_assoc,
        List.singleton_append]

theorem read_eq_readFrom (name t : Text) : read name t = readFrom ⟨name.getLastD '<', []⟩ t := rfl

theorem exists_read_written {attributes : Attributes} (h : attributes.Named) (name : Text)
    (selfClosing : Bool) (left : Text) :
    ∃ raw, unescapeAll raw = .ok attributes ∧
      read name (attributes.flatMap writeAttribute ++ (tagMark selfClosing ++ left)) =
        .ok (.complete raw selfClosing left) := by
  obtain ⟨raw, last, hraw, hread⟩ := exists_readFrom_attributes h ⟨name.getLastD '<', []⟩
  have hstep : step ⟨last, raw.reverse⟩ (tagMark selfClosing ++ left) =
      .ok (.done (.complete raw selfClosing left)) := by
    have hdone : step ⟨last, raw.reverse⟩ (tagMark selfClosing ++ left) =
        .ok (.done (.complete raw.reverse.reverse selfClosing left)) := by
      cases selfClosing <;> rfl
    rw [hdone, List.reverse_reverse]
  obtain ⟨head, rest, hmark⟩ : ∃ head rest, tagMark selfClosing ++ left = head :: rest := by
    cases selfClosing <;> exact ⟨_, _, rfl⟩
  refine ⟨raw, hraw, ?_⟩
  rw [read_eq_readFrom, hread, List.append_nil]
  rw [hmark] at hstep ⊢
  exact scanFrom_of_done hstep

end StartTag

end TitleSieve.Markup
