import Mathlib.Data.List.Forall2
import TitleSieve.Pattern.Matcher
import TitleSieve.Pattern.Piece

/-!
Patterns that spell words. The meaning of such a pattern is a list of words: it matches at a place
exactly by going past one of them. Sequences, alternatives and sets of single characters compose
these lists, and so a common beginning may be shared without a change of what is found.
-/

namespace TitleSieve.Pattern

open Text

/-- The word stands at the position, ignoring case. -/
def Subject.spells (subject : Subject) : Text → Nat → Bool
  | [], _ => true
  | c :: rest, position =>
    match subject.code? position with
    | some code => Fold.unicode.agree c.toNat code && subject.spells rest (position + 1)
    | none => false

theorem Subject.spells_append (subject : Subject) (first second : Text) (position : Nat) :
    subject.spells (first ++ second) position =
      (subject.spells first position && subject.spells second (position + first.length)) := by
  induction first generalizing position with
  | nil => rfl
  | cons c rest ih =>
    have hplace : position + 1 + rest.length = position + (rest.length + 1) := by omega
    rw [List.cons_append, List.length_cons, spells, spells]
    cases subject.code? position with
    | none => rfl
    | some code => simp only [ih, hplace, Bool.and_assoc]

def Place.past (place : Place) (count : Nat) : Place :=
  { place with position := place.position + count }

theorem Place.past_past (place : Place) (first second : Nat) :
    (place.past first).past second = place.past (first + second) := by
  simp [past, Nat.add_assoc]

/-- The pattern matches by going past one of the words. -/
def Tree.Spells (tree : Tree) (words : List Text) : Prop :=
  ∀ (subject : Subject) (place : Place) (rest : Rest),
    (tree.run subject place rest).isSome = true ↔
      ∃ word ∈ words, subject.spells word place.position = true ∧
        (rest (place.past word.length)).isSome = true

namespace Tree.Spells

variable {first second : Tree} {us vs : List Text}

theorem empty : Tree.empty.Spells [[]] := by
  intro subject place rest
  have hhere : place.past 0 = place := rfl
  simp [Tree.run, Subject.spells, hhere]

/-- First a word of the one pattern, then a word of the other. -/
theorem seq (hfirst : first.Spells us) (hsecond : second.Spells vs) :
    (Tree.seq first second).Spells (us.flatMap fun u => vs.map (u ++ ·)) := by
  intro subject place rest
  have hrun : ∀ u, (second.run subject (place.past u) rest).isSome = true ↔ _ :=
    fun u => hsecond subject (place.past u) rest
  simp only [Tree.run, hfirst subject place, hrun, List.mem_flatMap, List.mem_map]
  constructor
  · rintro ⟨u, hu, hspells, v, hv, hthen, hrest⟩
    refine ⟨u ++ v, ⟨u, hu, v, hv, rfl⟩, ?_, ?_⟩
    · rw [Subject.spells_append, hspells]
      exact hthen
    · rwa [List.length_append, ← Place.past_past]
  · rintro ⟨_, ⟨u, hu, v, hv, rfl⟩, hspells, hrest⟩
    rw [Subject.spells_append, Bool.and_eq_true] at hspells
    rw [List.length_append, ← Place.past_past] at hrest
    exact ⟨u, hu, hspells.1, v, hv, hspells.2, hrest⟩

theorem alt (hfirst : first.Spells us) (hsecond : second.Spells vs) :
    (Tree.alt first second).Spells (us ++ vs) := by
  intro subject place rest
  have heither : ((Tree.alt first second).run subject place rest).isSome = true ↔
      (first.run subject place rest).isSome = true ∨
        (second.run subject place rest).isSome = true := by
    rw [Tree.run]
    cases first.run subject place rest <;> simp
  simp only [heither, hfirst subject place rest, hsecond subject place rest, List.mem_append,
    or_and_right, exists_or]

/-- A test of single characters spells the words of one letter that it admits. -/
theorem one {test : CharTest} {letters : Text}
    (h : ∀ code, test.admits code = true ↔
      ∃ c ∈ letters, Fold.unicode.agree c.toNat code = true) :
    (Tree.one test).Spells (letters.map ([·])) := by
  intro subject place rest
  simp only [Tree.run, List.mem_map, exists_exists_and_eq_and, Subject.spells, Bool.and_true,
    List.length_singleton]
  cases subject.code? place.position with
  | none => simp
  | some code =>
    by_cases hadmits : test.admits code = true
    · obtain ⟨c, hc, hagree⟩ := (h code).mp hadmits
      simp only [hadmits, if_true]
      constructor
      · intro hrest
        exact ⟨c, hc, hagree, hrest⟩
      · rintro ⟨_, -, -, hrest⟩
        exact hrest
    · have hnone : ∀ c ∈ letters, Fold.unicode.agree c.toNat code = true → False :=
        fun c hc hagree => hadmits ((h code).mpr ⟨c, hc, hagree⟩)
      simp only [hadmits]
      constructor
      · intro hrest
        cases hrest
      · rintro ⟨c, hc, hagree, -⟩
        exact (hnone c hc hagree).elim

end Tree.Spells

def letterPiece (c : Char) : Piece := ⟨.single, .one (.literal false .unicode c.toNat)⟩

theorem letterPiece_inj {c d : Char} (h : letterPiece c = letterPiece d) : c = d := by
  have hcode : c.toNat = d.toNat := by simpa [letterPiece] using h
  exact Char.toNat_inj.mp hcode

def spelled (word : Text) : List Piece := word.map letterPiece

theorem spells_letter (c : Char) : (letterPiece c).tree.Spells [[c]] := by
  have hone : (letterPiece c).tree.Spells ([c].map ([·])) := by
    apply Tree.Spells.one
    intro code
    simp [CharTest.admits]
  exact hone

/-- Behind a common beginning stands a pattern for what is left of the words. -/
theorem spells_spelled_append (start : Text) {last : Piece} {left : List Text}
    (h : last.tree.Spells left) :
    (sequenceOf (spelled start ++ [last])).Spells (left.map (start ++ ·)) := by
  induction start with
  | nil =>
    have hleft : left.map ([] ++ ·) = left := by simp
    rw [hleft]
    exact h
  | cons c rest ih =>
    have hseq : sequenceOf (spelled (c :: rest) ++ [last]) =
        .seq (letterPiece c).tree (sequenceOf (spelled rest ++ [last])) := by
      cases rest <;> rfl
    have hwords : left.map ((c :: rest) ++ ·) =
        [[c]].flatMap fun u => (left.map (rest ++ ·)).map (u ++ ·) := by
      simp
    rw [hseq, hwords]
    exact (spells_letter c).seq ih

theorem spells_spelled (word : Text) : (sequenceOf (spelled word)).Spells [word] := by
  rcases List.eq_nil_or_concat word with rfl | ⟨start, c, rfl⟩
  · exact .empty
  · have hpieces : spelled (start.concat c) = spelled start ++ [letterPiece c] := by simp [spelled]
    have hword : [start.concat c] = [[c]].map (start ++ ·) := by simp
    rw [hpieces, hword]
    exact spells_spelled_append start (spells_letter c)

theorem spells_alternatives {words : List Text} (hne : words ≠ []) :
    (Tree.alternatives ((words.map spelled).map sequenceOf)).Spells words := by
  induction words with
  | nil => exact absurd rfl hne
  | cons first rest ih =>
    cases rest with
    | nil => exact spells_spelled first
    | cons second more => exact (spells_spelled first).alt (ih (List.cons_ne_nil _ _))

/-- What words share is a common beginning of theirs. -/
theorem exists_shareStart (first : Text) (others : List Text) :
    ∃ (start : Text) (left : List Text),
      shareStart (spelled first) (others.map spelled) = (spelled start, left.map spelled) ∧
        first :: others = left.map (start ++ ·) := by
  induction first generalizing others with
  | nil => exact ⟨[], [] :: others, rfl, by simp⟩
  | cons c rest ih =>
    have hpieces : spelled (c :: rest) = letterPiece c :: spelled rest := rfl
    rw [hpieces, shareStart]
    split
    · rename_i hshared
      simp only [Bool.and_eq_true, List.all_eq_true, List.mem_map, beq_iff_eq] at hshared
      have hheads : ∀ other ∈ others, c :: other.tail = other := by
        intro other hother
        have hhead := hshared.2 _ ⟨other, hother, rfl⟩
        cases other with
        | nil => cases hhead
        | cons d more =>
          obtain rfl : d = c := letterPiece_inj (Option.some.inj hhead)
          rfl
      obtain ⟨start, left, hshare, hleft⟩ := ih (others.map List.tail)
      have htails : (others.map spelled).map List.tail = (others.map List.tail).map spelled := by
        simp [spelled]
      have hothers : (others.map List.tail).map (c :: ·) = others := by
        rw [List.map_map]
        exact (List.map_congr_left hheads).trans (List.map_id _)
      refine ⟨c :: start, left, ?_, ?_⟩
      · rw [htails, hshare]
        rfl
      · have hwords := congrArg (List.map (c :: ·)) hleft
        rw [List.map_cons, hothers, List.map_map] at hwords
        exact hwords
    · exact ⟨[], (c :: rest) :: others, rfl, by simp⟩

theorem membersOf?_spelled {word : Text} {fold : Fold} {members : List Member}
    (h : membersOf? (spelled word) = some (fold, members)) :
    ∃ c, word = [c] ∧ fold = .unicode ∧ members = [.code c.toNat] := by
  match word, h with
  | [], h => cases h
  | [c], h =>
    cases h
    exact ⟨c, rfl, rfl, rfl⟩
  | c :: d :: rest, h => cases h

theorem exists_letters_of_mapM {left : List Text} {sets : List (Fold × List Member)}
    (h : (left.map spelled).mapM membersOf? = some sets) :
    ∃ letters : Text, left = letters.map ([·]) ∧
      sets = letters.map fun c => (.unicode, [.code c.toNat]) := by
  induction left generalizing sets with
  | nil =>
    obtain rfl := Option.some.inj h
    exact ⟨[], rfl, rfl⟩
  | cons word rest ih =>
    rw [List.map_cons, List.mapM_cons] at h
    obtain ⟨⟨fold, members⟩, hmembers, h⟩ := Option.bind_eq_some_iff.mp h
    obtain ⟨others, hothers, h⟩ := Option.bind_eq_some_iff.mp h
    obtain rfl := Option.some.inj h
    obtain ⟨c, rfl, rfl, rfl⟩ := membersOf?_spelled hmembers
    obtain ⟨letters, rfl, rfl⟩ := ih hothers
    exact ⟨c :: letters, rfl, rfl⟩

/-- Words become a set only if each is one letter, and then the set has their letters. -/
theorem mergeSets_spelled {left : List Text} {test : CharTest}
    (h : mergeSets (left.map spelled) = some test) :
    ∃ letters : Text, left = letters.map ([·]) ∧
      test = .set false .unicode (letters.map fun c => .code c.toNat).eraseDups := by
  unfold mergeSets at h
  obtain ⟨sets, hsets, h⟩ := Option.bind_eq_some_iff.mp h
  obtain ⟨first, hfirst, h⟩ := Option.bind_eq_some_iff.mp h
  obtain rfl := Option.some.inj h
  obtain ⟨letters, rfl, rfl⟩ := exists_letters_of_mapM hsets
  have hmembers : (letters.map fun c => (Fold.unicode, [Member.code c.toNat])).flatMap (·.2) =
      letters.map fun c => .code c.toNat := by
    rw [List.flatMap_map]
    exact List.map_eq_flatMap.symm
  refine ⟨letters, rfl, ?_⟩
  rw [hmembers]
  cases letters with
  | nil => cases hfirst
  | cons c rest =>
    obtain rfl := Option.some.inj hfirst
    rfl

theorem spells_set {letters : Text} (hsmall : ∀ c ∈ letters, c.toNat ≤ lastBasicCode) :
    (Tree.one (.set false .unicode (letters.map fun c => .code c.toNat).eraseDups)).Spells
      (letters.map ([·])) := by
  apply Tree.Spells.one
  intro code
  have hmember : ∀ c ∈ letters, (Member.code c.toNat).admits .unicode code =
      Fold.unicode.agree c.toNat code := by
    intro c hc
    rw [Member.admits, if_pos (hsmall c hc)]
  simp only [CharTest.admits, bne_iff_ne, ne_eq, Bool.not_eq_false, List.any_eq_true,
    List.mem_eraseDups, List.mem_map, exists_exists_and_eq_and]
  constructor
  · rintro ⟨c, hc, hadmits⟩
    exact ⟨c, hc, hmember c hc ▸ hadmits⟩
  · rintro ⟨c, hc, hagree⟩
    exact ⟨c, hc, (hmember c hc).symm ▸ hagree⟩

/-- Words that are put together as alternatives are spelled, whatever they share. -/
theorem spells_combine {words : List Text} (hne : words ≠ [])
    (hsmall : ∀ word ∈ words, ∀ c ∈ word, c.toNat ≤ lastBasicCode) :
    (sequenceOf (combine (words.map spelled))).Spells words := by
  match words, hne with
  | [only], _ => exact spells_spelled only
  | first :: second :: others, _ =>
    obtain ⟨start, left, hshare, hwords⟩ := exists_shareStart first (second :: others)
    have hleft : ∀ c word, word ∈ left → c ∈ word → c.toNat ≤ lastBasicCode := by
      intro c word hword hc
      have hmem : start ++ word ∈ first :: second :: others := hwords ▸ List.mem_map_of_mem hword
      exact hsmall _ hmem c (List.mem_append_right start hc)
    have hshared : shareStart (spelled first) (spelled second :: others.map spelled) =
        (spelled start, left.map spelled) := hshare
    simp only [List.map_cons, combine, hshared]
    rw [hwords]
    split
    · rename_i test htest
      obtain ⟨letters, rfl, rfl⟩ := mergeSets_spelled htest
      apply spells_spelled_append start
      apply spells_set
      intro c hc
      exact hleft c [c] (List.mem_map_of_mem hc) List.mem_cons_self
    · apply spells_spelled_append start
      apply spells_alternatives
      rintro rfl
      cases hwords

/-- A text is the word, letter by letter, ignoring case. -/
def ReadsAsWord (word part : Text) : Prop :=
  List.Forall₂ (fun c d => Fold.unicode.agree c.toNat d.toNat = true) word part

theorem spells_toArray_iff {t word : Text} {position : Nat} :
    Subject.spells t.toArray word position = true ↔
      ∃ part, part <+: t.drop position ∧ ReadsAsWord word part := by
  induction word generalizing position with
  | nil =>
    simp only [Subject.spells, true_iff]
    exact ⟨[], List.nil_prefix, .nil⟩
  | cons c rest ih =>
    have hcode : Subject.code? t.toArray position = t[position]?.map Char.toNat := by
      rw [Subject.code?, List.getElem?_toArray]
    rw [Subject.spells, hcode]
    cases hd : t[position]? with
    | none =>
      have hdrop : t.drop position = [] := List.drop_eq_nil_of_le (List.getElem?_eq_none_iff.mp hd)
      rw [hdrop]
      simp only [Option.map_none, Bool.false_eq_true, List.prefix_nil, false_iff]
      rintro ⟨_, rfl, hreads⟩
      cases hreads
    | some d =>
      obtain ⟨hlt, rfl⟩ := List.getElem?_eq_some_iff.mp hd
      have hdrop : t.drop position = t[position] :: t.drop (position + 1) :=
        List.drop_eq_getElem_cons hlt
      rw [hdrop]
      simp only [Option.map_some, Bool.and_eq_true, ih]
      constructor
      · rintro ⟨hagree, part, hpart, hreads⟩
        exact ⟨t[position] :: part, List.cons_prefix_cons.mpr ⟨rfl, hpart⟩, .cons hagree hreads⟩
      · rintro ⟨_, hpart, hreads⟩
        cases hreads with
        | cons hagree hreads =>
          obtain ⟨rfl, htail⟩ := List.cons_prefix_cons.mp hpart
          exact ⟨hagree, _, htail, hreads⟩

/-- A pattern that spells words is found in a text exactly if the text holds one of them. -/
theorem Tree.Spells.foundIn_iff {tree : Tree} {words : List Text} (h : tree.Spells words)
    (t : Text) :
    tree.foundIn t = true ↔ ∃ word ∈ words, ∃ part, part <:+: t ∧ ReadsAsWord word part := by
  have hat : ∀ position, (tree.run t.toArray (.start position) some).isSome = true ↔
      ∃ word ∈ words, ∃ part, part <+: t.drop position ∧ ReadsAsWord word part := by
    intro position
    rw [h]
    simp only [Option.isSome_some, and_true, Place.start, spells_toArray_iff]
  simp only [Tree.foundIn, List.any_eq_true, List.mem_range, hat]
  constructor
  · rintro ⟨position, -, word, hword, part, hpart, hreads⟩
    exact ⟨word, hword, part, hpart.isInfix.trans (List.drop_suffix _ _).isInfix, hreads⟩
  · rintro ⟨word, hword, part, ⟨before, after, rfl⟩, hreads⟩
    refine ⟨before.length, ?_, word, hword, part, ?_, hreads⟩
    · simp only [List.size_toArray, List.length_append]
      omega
    · rw [List.append_assoc, List.drop_left]
      exact List.prefix_append part after

end TitleSieve.Pattern
