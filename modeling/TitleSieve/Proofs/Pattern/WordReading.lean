import TitleSieve.Pattern.Reader
import TitleSieve.Proofs.Pattern.Combining
import TitleSieve.Proofs.Pattern.Spelling
import TitleSieve.Proofs.Text.AsciiCase
import TitleSieve.Proofs.Text.Cuts

/-!
Reading the pattern that lists words with bars between them. The letters of words mean themselves in
a pattern, so each one is read in a step of its own and leaves its piece, and each bar ends an
alternative. What comes of it is the tree that spells the words.
-/

namespace TitleSieve.Pattern

open Text

/-- A step that uses one token leads on to the tokens behind it. -/
theorem Source.scan_of_step {σ ρ : Type} {step : σ → Source → Reading (Move σ ρ)}
    {atEnd : σ → Nat → Reading ρ} {state next : σ} {position after : Nat} {token : Token}
    {rest : List Token}
    (hstep : step state ⟨position, token :: rest⟩ = .ok (.more next ⟨after, rest⟩)) :
    (⟨position, token :: rest⟩ : Source).scan state step atEnd =
      (⟨after, rest⟩ : Source).scan next step atEnd := by
  unfold Source.scan TitleSieve.scan
  rw [scanFrom]
  simp only [hstep, Nat.sub_self]

/-- A source in which every character stands for itself. -/
def Source.plain (position : Nat) (t : Text) : Source := ⟨position, t.map .plain⟩

theorem Source.make_plain (position : Nat) (t : Text) :
    Source.make position (t.map .plain) = .ok (Source.plain position t) := by
  cases t <;> rfl

theorem Source.advance_plain (position : Nat) (c : Char) (t : Text) :
    (Source.plain position (c :: t)).advance = .ok (Source.plain (position + 1) t) :=
  Source.make_plain (position + 1) t

theorem Token.ofText_of_not_mem {t : Text} (h : '\\' ∉ t) : Token.ofText t = t.map .plain := by
  induction t with
  | nil => rfl
  | cons c rest ih =>
    rw [List.mem_cons, not_or] at h
    unfold Token.ofText
    split
    · rename_i heq
      cases heq
    · rename_i heq
      exact absurd (List.cons.inj heq).1.symm h.1
    · rename_i heq
      exact absurd (List.cons.inj heq).1.symm h.1
    · rename_i heq
      obtain ⟨rfl, rfl⟩ := List.cons.inj heq
      rw [ih h.2, List.map_cons]

namespace Reader

def top (complete : List (List Piece)) (items : List Item) : Reader :=
  { initial with frame := { initial.frame with complete := complete, items := items } }

/-- The items that a word leaves, latest first. -/
def itemsOf (word : Text) : List Item := (word.map fun c => .piece (letterPiece c)).reverse

theorem flatMap_itemsOf (word : Text) :
    (itemsOf word).reverse.flatMap Item.pieces = spelled word := by
  rw [itemsOf, List.reverse_reverse, List.flatMap_map]
  exact List.map_eq_flatMap.symm

variable {complete : List (List Piece)} {items : List Item} {position : Nat}

/-- No letter of a word means anything but itself. -/
theorem stepToken_letter {c : Char} (hc : IsWordLetter c) (src : Source) :
    (top complete items).stepToken (.plain c) src =
      .ok (top complete (.piece (letterPiece c) :: items), src) := by
  have hverbose : (top complete items).flags.verbose = false := rfl
  unfold stepToken
  simp only [hverbose, Bool.false_and, Bool.false_eq_true, if_false]
  split
  all_goals first | exact absurd hc (by decide) | rfl

theorem step_letter {c : Char} (hc : IsWordLetter c) (t : Text) :
    (top complete items).step (Source.plain position (c :: t)) =
      .ok (.more (top complete (.piece (letterPiece c) :: items))
        (Source.plain (position + 1) t)) := by
  have hadvance := Source.advance_plain position c t
  unfold step
  split
  · rename_i htokens
    cases htokens
  · rename_i htokens
    cases htokens
    exact absurd hc (by decide)
  · rename_i htokens
    cases htokens
    exact absurd hc (by decide)
  · rename_i htokens
    obtain ⟨rfl, -⟩ := List.cons.inj htokens
    rw [hadvance]
    change ((top complete items).stepToken (.plain c) (Source.plain (position + 1) t) >>= _) = _
    rw [stepToken_letter hc]
    rfl

theorem step_bar (t : Text) :
    (top complete items).step (Source.plain position ('|' :: t)) =
      .ok (.more (top (items.reverse.flatMap Item.pieces :: complete) [])
        (Source.plain (position + 1) t)) := by
  have hadvance := Source.advance_plain position '|' t
  unfold step
  split
  · rename_i htokens
    cases htokens
  · rename_i htokens
    cases htokens
  · rw [hadvance]
    rfl
  · rename_i hbar htokens
    cases htokens
    exact (hbar rfl).elim

def readFrom (reader : Reader) (src : Source) : Reading Tree := src.scan reader step atEnd

theorem readFrom_word {word : Text} (hword : ∀ c ∈ word, IsWordLetter c) (t : Text) :
    readFrom (top complete items) (Source.plain position (word ++ t)) =
      readFrom (top complete (itemsOf word ++ items))
        (Source.plain (position + word.length) t) := by
  induction word generalizing items position with
  | nil => rfl
  | cons c rest ih =>
    obtain ⟨hc, hrest⟩ := List.forall_mem_cons.mp hword
    have hstep : readFrom (top complete items) (Source.plain position (c :: (rest ++ t))) =
        readFrom (top complete (.piece (letterPiece c) :: items))
          (Source.plain (position + 1) (rest ++ t)) := Source.scan_of_step (step_letter hc _)
    have hitems : itemsOf (c :: rest) = itemsOf rest ++ [.piece (letterPiece c)] := by
      simp [itemsOf]
    have hplace : position + 1 + rest.length = position + (c :: rest).length := by
      rw [List.length_cons]
      omega
    rw [List.cons_append, hstep, ih hrest, hitems, hplace, List.append_assoc, List.singleton_append]

theorem readFrom_bar (t : Text) :
    readFrom (top complete items) (Source.plain position ('|' :: t)) =
      readFrom (top (items.reverse.flatMap Item.pieces :: complete) [])
        (Source.plain (position + 1) t) := Source.scan_of_step (step_bar t)

/-- Nothing in the finished tree of plain letters is at fault. -/
theorem lateFault?_combine {alternatives : List Text} :
    lateFault? false (sequenceOf (combine (alternatives.map spelled))) = none := by
  have hkeeps : Combines fun tree => lateFault? false tree = none := {
    empty := rfl
    seq := fun first second hfirst hsecond => by simp only [lateFault?, hfirst, hsecond]
    alt := fun first second hfirst hsecond => by simp only [lateFault?, hfirst, hsecond]
    set := fun _ _ _ _ => rfl }
  apply hkeeps.sequenceOf
  apply hkeeps.combine
  rw [List.forall_mem_map]
  intro word _ p hp
  obtain ⟨c, -, rfl⟩ := List.mem_map.mp hp
  rfl

theorem readFrom_end (before : List Text) (word : Text) :
    readFrom (top (before.map spelled).reverse (itemsOf word)) (Source.plain position []) =
      .ok (sequenceOf (combine ((before ++ [word]).map spelled))) := by
  have hsequence :
      (top (before.map spelled).reverse (itemsOf word)).frame.sequence = spelled word :=
    flatMap_itemsOf word
  have hpieces : (top (before.map spelled).reverse (itemsOf word)).frame.pieces =
      combine ((before ++ [word]).map spelled) := by
    rw [Frame.pieces, hsequence, List.reverse_cons, List.map_append]
    exact congrArg (fun read => combine (read ++ [spelled word])) (List.reverse_reverse _)
  have hflags : (top (before.map spelled).reverse (itemsOf word)).flags.ascii = false := rfl
  have hconditions : (top (before.map spelled).reverse (itemsOf word)).conditions = [] := rfl
  have htemplate : (top (before.map spelled).reverse (itemsOf word)).template = false := rfl
  change (top (before.map spelled).reverse (itemsOf word)).finish none = _
  simp only [finish, hflags, hconditions, htemplate, hpieces, lateFault?_combine, Bool.false_and,
    List.find?_nil]
  rfl

/-- Words with bars between them, behind others that have been read. -/
theorem readFrom_words {words : List Text} (before : List Text) (hne : words ≠ [])
    (hwords : ∀ word ∈ words, ∀ c ∈ word, IsWordLetter c) :
    readFrom (top (before.map spelled).reverse []) (Source.plain position (joinWith ['|'] words)) =
      .ok (sequenceOf (combine ((before ++ words).map spelled))) := by
  induction words generalizing before position with
  | nil => exact absurd rfl hne
  | cons word rest ih =>
    obtain ⟨hword, hrest⟩ := List.forall_mem_cons.mp hwords
    cases rest with
    | nil =>
      have hjoin : joinWith ['|'] [word] = word ++ [] := (List.append_nil word).symm
      rw [hjoin, readFrom_word hword, List.append_nil, readFrom_end]
    | cons next more =>
      have hjoin : joinWith ['|'] (word :: next :: more) =
          word ++ '|' :: joinWith ['|'] (next :: more) := by
        simp [joinWith]
      have hcomplete : spelled word :: (before.map spelled).reverse =
          ((before ++ [word]).map spelled).reverse := by
        simp
      rw [hjoin, readFrom_word hword, List.append_nil, readFrom_bar, flatMap_itemsOf, hcomplete,
        ih (before ++ [word]) (List.cons_ne_nil _ _) hrest, List.append_assoc,
        List.singleton_append]

end Reader

/-- A list of words is read as the tree that spells them. -/
theorem Tree.read_words {words : List Text} (hne : words ≠ [])
    (hwords : ∀ word ∈ words, ∀ c ∈ word, IsWordLetter c) :
    Tree.read (joinWith ['|'] words) = .ok (sequenceOf (combine (words.map spelled))) := by
  have hbackslash : '\\' ∉ joinWith ['|'] words := by
    intro hmem
    rcases mem_joinWith hmem with hglue | ⟨word, hword, hc⟩
    · exact absurd hglue (by decide)
    · exact absurd (hwords word hword _ hc) (by decide)
  have hsource : Source.ofText (joinWith ['|'] words) =
      .ok (Source.plain 0 (joinWith ['|'] words)) := by
    rw [Source.ofText, Token.ofText_of_not_mem hbackslash, Source.make_plain]
  rw [Tree.read, hsource]
  exact Reader.readFrom_words [] hne hwords

end TitleSieve.Pattern
