import TitleSieve.Proofs.Listing.Restyling
import TitleSieve.Proofs.Text.AsciiCase

/-!
The declarations of a style that a decision leaves alone. A declaration of a style sheet ends at a
semicolon that stands in no string and in no parentheses, and it is about the display only if
`display` is the whole of its property. Where the pieces of a style are its declarations and those
that begin with `display` have that property, a decision takes out the declarations of the display
and keeps all others as they are and in their order.
-/

namespace TitleSieve.Listing

open Text Markup

inductive Quote where
  | single
  | double
  deriving DecidableEq, Repr

def Quote.mark : Quote → Char
  | .single => '\''
  | .double => '"'

/-- What a place of a style is inside of: so many parentheses, and in the innermost of them perhaps
a string, in which the last character may have been a backslash that takes the next one out. -/
inductive Enclosure where
  | plain (depth : Nat)
  | quoted (depth : Nat) (quote : Quote) (escaped : Bool)
  deriving DecidableEq, Repr

namespace Enclosure

def free : Enclosure := .plain 0

def next : Enclosure → Char → Enclosure
  | .plain depth, c =>
    if c = Quote.single.mark then .quoted depth .single false
    else if c = Quote.double.mark then .quoted depth .double false
    else if c = '(' then .plain (depth + 1)
    else if c = ')' then .plain (depth - 1)
    else .plain depth
  | .quoted depth quote true, _ => .quoted depth quote false
  | .quoted depth quote false, c =>
    if c = '\\' then .quoted depth quote true
    else if c = quote.mark then .plain depth
    else .quoted depth quote false

def after (enclosure : Enclosure) (t : Text) : Enclosure := t.foldl next enclosure

/-- A blank neither opens nor closes anything. -/
theorem next_eq_free_iff {c : Char} (hc : isBlank c = true) (enclosure : Enclosure) :
    enclosure.next c = free ↔ enclosure = free := by
  have hne : ∀ d, isBlank d = false → c ≠ d := by
    rintro d hd rfl
    rw [hc] at hd
    cases hd
  cases enclosure with
  | plain depth =>
    simp [next, Quote.mark, hne '\'' (by decide), hne '"' (by decide), hne '(' (by decide),
      hne ')' (by decide)]
  | quoted depth quote escaped =>
    have hmark : c ≠ quote.mark := by cases quote <;> exact hne _ (by decide)
    cases escaped <;> simp [next, free, hne '\\' (by decide), hmark]

theorem after_blanks_eq_free_iff {blanks : Text} (h : isAllBlank blanks = true)
    (enclosure : Enclosure) : enclosure.after blanks = free ↔ enclosure = free := by
  induction blanks generalizing enclosure with
  | nil => rfl
  | cons c rest ih =>
    have hall : isBlank c = true ∧ isAllBlank rest = true := by simpa [isAllBlank] using h
    exact (ih hall.2 (enclosure.next c)).trans (next_eq_free_iff hall.1 enclosure)

end Enclosure

/-- A text closes the parentheses and strings that it opens. -/
def Closes (t : Text) : Prop := Enclosure.free.after t = .free

instance (t : Text) : Decidable (Closes t) :=
  inferInstanceAs (Decidable (Enclosure.free.after t = .free))

/-- The pieces of a style between the semicolons that are in no string and in no parentheses. -/
def cutFrom : Enclosure → Text → List Text
  | _, [] => [[]]
  | enclosure, c :: rest =>
    if c = ';' ∧ enclosure = .free then [] :: cutFrom .free rest
    else (cutFrom (enclosure.next c) rest).modifyHead (c :: ·)

/-- The blanks of a style sheet: fewer than those of a text. -/
def isStyleBlank (c : Char) : Bool :=
  c == ' ' || c == '\t' || c == '\n' || c == '\x0c' || c == '\r'

def trimStyle (t : Text) : Text := (t.dropWhile isStyleBlank).rdropWhile isStyleBlank

/-- The declarations of a style as a style sheet has them. -/
def styleDeclarations (style : Text) : List Text :=
  ((cutFrom .free style).map trimStyle).filter (!·.isEmpty)

/-- What stands in front of the colon of a declaration. -/
def propertyOf (declaration : Text) : Text := trimStyle (declaration.takeWhile (· != ':'))

def isOfDisplay (declaration : Text) : Bool :=
  (propertyOf declaration).map Char.toLower == displayWord

/-- The pieces of a style are its declarations: each closes what it opens, and the blanks around it
are blanks of a style sheet. -/
def InDeclarations (style : Text) : Prop :=
  ∀ piece ∈ split (· == ';') style, Closes piece ∧ trimStyle piece = trim piece

instance (style : Text) : Decidable (InDeclarations style) :=
  inferInstanceAs (Decidable (∀ piece ∈ split (· == ';') style, _))

/-- If every piece closes what it opens, no semicolon is passed over. -/
theorem cutFrom_eq_split {enclosure : Enclosure} {style first : Text} {more : List Text}
    (hsplit : split (· == ';') style = first :: more) (hfirst : enclosure.after first = .free)
    (hmore : ∀ piece ∈ more, Closes piece) : cutFrom enclosure style = first :: more := by
  induction style generalizing enclosure first more with
  | nil =>
    obtain ⟨rfl, rfl⟩ := List.cons.inj hsplit
    rfl
  | cons c rest ih =>
    obtain ⟨next, others, hrest⟩ := List.exists_cons_of_ne_nil (split_ne_nil (· == ';') rest)
    by_cases hc : c = ';'
    · subst hc
      have hcut : [] :: next :: others = first :: more := by
        rw [← hsplit, split, if_pos (by decide), hrest]
      obtain ⟨rfl, rfl⟩ := List.cons.inj hcut
      have hnext : Closes next := hmore next List.mem_cons_self
      have hothers := ih hrest hnext fun piece hpiece => hmore piece (List.mem_cons_of_mem _ hpiece)
      rw [cutFrom, if_pos ⟨rfl, hfirst⟩, hothers]
    · have hcut : (c :: next) :: others = first :: more := by
        rw [← hsplit, split_cons (by simpa using hc), hrest, List.modifyHead_cons]
      obtain ⟨rfl, rfl⟩ := List.cons.inj hcut
      rw [cutFrom, if_neg (fun h => hc h.1), ih hrest hfirst hmore, List.modifyHead_cons]

/-- The declarations of such a style are those that the program reads. -/
theorem InDeclarations.styleDeclarations_eq {style : Text} (h : InDeclarations style) :
    styleDeclarations style = declarations style := by
  obtain ⟨first, more, hsplit⟩ := List.exists_cons_of_ne_nil (split_ne_nil (· == ';') style)
  have hcloses : ∀ piece ∈ first :: more, Closes piece := by
    rw [← hsplit]
    exact fun piece hpiece => (h piece hpiece).1
  have hcut : cutFrom .free style = split (· == ';') style := by
    rw [hsplit]
    exact cutFrom_eq_split hsplit (hcloses first List.mem_cons_self) fun piece hpiece =>
      hcloses piece (List.mem_cons_of_mem _ hpiece)
  have htrim : (split (· == ';') style).map trimStyle = (split (· == ';') style).map trim :=
    List.map_congr_left fun piece hpiece => (h piece hpiece).2
  rw [styleDeclarations, declarations, hcut, htrim]

theorem isStyleBlank_eq_false {c : Char} (hc : isBlank c = false) : isStyleBlank c = false := by
  by_contra hstyle
  have hcases : c = ' ' ∨ c = '\t' ∨ c = '\n' ∨ c = '\x0c' ∨ c = '\r' := by
    rw [Bool.not_eq_false] at hstyle
    simpa only [isStyleBlank, Bool.or_eq_true, beq_iff_eq, or_assoc] using hstyle
  rcases hcases with rfl | rfl | rfl | rfl | rfl <;> cases hc

theorem trimStyle_of_trim_eq {t : Text} (h : trim t = t) : trimStyle t = t := by
  obtain ⟨hhead, hlast⟩ := (trim_eq_self_iff t).mp h
  have hstart : t.dropWhile isStyleBlank = t := by
    cases t with
    | nil => rfl
    | cons c rest => rw [List.dropWhile_cons_of_neg (by simp [isStyleBlank_eq_false (hhead c rfl)])]
  have hend : t.rdropWhile isStyleBlank = t := by
    rw [List.rdropWhile_eq_self_iff]
    intro hne
    simp [isStyleBlank_eq_false (hlast _ (List.getLast?_eq_some_getLast hne))]
  rw [trimStyle, hstart, hend]

theorem Closes.trim {t : Text} (h : Closes t) : Closes (trim t) := by
  obtain ⟨before, after, ht, hbefore, hafter⟩ := exists_eq_append_trim_append t
  have hbegin : Enclosure.free.after before = .free :=
    (Enclosure.after_blanks_eq_free_iff hbefore .free).mpr rfl
  have hparts : ((Enclosure.free.after before).after (Text.trim t)).after after = .free := by
    simp only [Enclosure.after, ← List.foldl_append]
    rw [← ht]
    exact h
  rw [hbegin] at hparts
  exact (Enclosure.after_blanks_eq_free_iff hafter _).mp hparts

/-- What a decision keeps closes what it opens if every piece of the style does. -/
theorem closes_of_mem_kept {style declaration : Text} {visible : Bool} (h : InDeclarations style)
    (hmem : declaration ∈ keptDeclarations style visible) : Closes declaration := by
  rcases List.mem_append.mp hmem with hkept | hadded
  · obtain ⟨piece, hpiece, rfl⟩ :=
      List.mem_map.mp (List.mem_of_mem_filter (List.mem_of_mem_filter hkept))
    exact (h piece hpiece).1.trim
  · cases visible with
    | true => simp at hadded
    | false =>
      obtain rfl := List.mem_singleton.mp hadded
      decide

/-- Texts without separators that are joined by one and blanks are cut apart again, each but the
first with the blanks in front of it. -/
theorem split_joinWith {isSeparator : Char → Bool} {c : Char} (hc : isSeparator c = true)
    {blanks : Text} (hblanks : ∀ d ∈ blanks, isSeparator d = false) (first : Text)
    (more : List Text)
    (h : ∀ t ∈ first :: more, ∀ d ∈ t, isSeparator d = false) :
    split isSeparator (joinWith (c :: blanks) (first :: more)) =
      first :: more.map (blanks ++ ·) := by
  have hfirst : split isSeparator first = [first] := split_of_forall (h first List.mem_cons_self)
  induction more generalizing first with
  | nil => exact hfirst
  | cons next others ih =>
    have hjoin : joinWith (c :: blanks) (first :: next :: others) =
        first ++ c :: joinWith (c :: blanks) ((blanks ++ next) :: others) := by
      cases others <;> simp [joinWith]
    have hnext : ∀ d ∈ blanks ++ next, isSeparator d = false := by
      intro d hd
      rcases List.mem_append.mp hd with hd | hd
      · exact hblanks d hd
      · exact h next (by simp) d hd
    have hothers := ih (blanks ++ next)
      (List.forall_mem_cons.mpr ⟨hnext, fun t ht => h t (by simp [ht])⟩) (split_of_forall hnext)
    rw [hjoin, split_append_cons hc, hfirst, hothers, List.singleton_append, List.map_cons]

/-- The pieces of the style that a decision leaves are declarations again. -/
theorem InDeclarations.styleFor? {style : Text} (h : InDeclarations style) (visible : Bool) :
    InDeclarations ((styleFor? style visible).getD []) := by
  have hkept : ∀ t ∈ keptDeclarations style visible,
      Closes t ∧ trimStyle t = t ∧ Text.trim t = t := by
    intro t ht
    have htrim : Text.trim t = t := (isPiece_of_mem_kept ht).2.1
    exact ⟨closes_of_mem_kept h ht, trimStyle_of_trim_eq htrim, htrim⟩
  have hsep : ∀ t ∈ keptDeclarations style visible, ∀ d ∈ t, (d == ';') = false :=
    fun t ht => (isPiece_of_mem_kept ht).2.2
  have hspace : ∀ d ∈ [' '], (d == ';') = false := by
    intro d hd
    obtain rfl := List.mem_singleton.mp hd
    rfl
  unfold Listing.styleFor?
  cases hcases : keptDeclarations style visible with
  | nil => decide
  | cons first more =>
    rw [hcases] at hkept hsep
    intro piece hpiece
    have hsplit : split (· == ';') (joinWith [';', ' '] (first :: more)) =
        first :: more.map ([' '] ++ ·) := split_joinWith rfl hspace first more hsep
    rw [Option.getD_some, hsplit, List.mem_cons, List.mem_map] at hpiece
    rcases hpiece with rfl | ⟨t, ht, rfl⟩
    · obtain ⟨hcloses, hstyle, htrim⟩ := hkept piece List.mem_cons_self
      exact ⟨hcloses, hstyle.trans htrim.symm⟩
    · obtain ⟨hcloses, hstyle, htrim⟩ := hkept t (List.mem_cons_of_mem _ ht)
      exact ⟨hcloses, hstyle.trans (htrim.symm.trans (trim_cons_of_isBlank rfl t).symm)⟩

/-- The property of a trimmed declaration stands at its start. -/
theorem propertyOf_prefix {declaration : Text} (htrim : trim declaration = declaration) :
    propertyOf declaration <+: declaration := by
  have hstart : (declaration.takeWhile (· != ':')).dropWhile isStyleBlank =
      declaration.takeWhile (· != ':') := by
    cases declaration with
    | nil => rfl
    | cons c rest =>
      have hc : isStyleBlank c = false :=
        isStyleBlank_eq_false (((trim_eq_self_iff _).mp htrim).1 c rfl)
      by_cases hcolon : c = ':'
      · simp [hcolon]
      · simp [hcolon, hc]
  rw [propertyOf, trimStyle, hstart]
  exact (List.rdropWhile_prefix _ _).trans (List.takeWhile_prefix _)

/-- A declaration of the display begins with its name. -/
theorem isDisplay_of_isOfDisplay {declaration : Text} (htrim : trim declaration = declaration)
    (h : isOfDisplay declaration = true) : isDisplay declaration = true := by
  have hlower : (propertyOf declaration).map Char.toLower = displayWord := by
    simpa [isOfDisplay] using h
  have hplain : ∀ c ∈ propertyOf declaration, IsPlain c := by
    intro c hc
    have hword : c.toLower ∈ displayWord := hlower ▸ List.mem_map_of_mem hc
    have hall : displayWord.all (·.toNat < 128) = true := by decide
    have hsmall : c.toLower.toNat < 128 := by simpa using List.all_eq_true.mp hall _ hword
    rw [toNat_toLower, lowerAscii_lt_iff] at hsmall
    exact .inl hsmall
  obtain ⟨rest, hrest⟩ := propertyOf_prefix htrim
  rw [isDisplay, List.isPrefixOf_iff_prefix, ← hlower]
  refine ⟨lowerFrom ((propertyOf declaration).reverse ++ []) rest, ?_⟩
  rw [← lowerFrom_append_of_isPlain hplain, hrest, lower]

def rowStyle (attributes : Attributes) : Text := (attributes.get? styleName).getD []

/-- Deciding a row takes the declarations of the display out of its style, and no others. -/
theorem keeps_other_declarations (attributes : Attributes) (visible : Bool)
    (hread : InDeclarations (rowStyle attributes))
    (hdisplay : ∀ declaration ∈ styleDeclarations (rowStyle attributes),
      isDisplay declaration = true → isOfDisplay declaration = true) :
    styleDeclarations (rowStyle (setDisplay attributes visible)) =
      (styleDeclarations (rowStyle attributes)).filter (!isOfDisplay ·) ++
        (if visible then [] else [hiddenDisplay]) := by
  have hstyle : rowStyle (setDisplay attributes visible) =
      (styleFor? (rowStyle attributes) visible).getD [] := by
    rw [rowStyle, get?_setDisplay, if_pos rfl, rowStyle]
  have hsame : (declarations (rowStyle attributes)).filter (!isDisplay ·) =
      (declarations (rowStyle attributes)).filter (!isOfDisplay ·) := by
    apply List.filter_congr
    intro declaration hmem
    have htrim : trim declaration = declaration := (isPiece_of_mem_pieces hmem).2.1
    rw [← hread.styleDeclarations_eq] at hmem
    rw [Bool.eq_iff_iff.mpr ⟨hdisplay declaration hmem, isDisplay_of_isOfDisplay htrim⟩]
  calc
    styleDeclarations (rowStyle (setDisplay attributes visible))
      = declarations ((styleFor? (rowStyle attributes) visible).getD []) := by
        rw [hstyle, (hread.styleFor? visible).styleDeclarations_eq]
    _ = keptDeclarations (rowStyle attributes) visible := declarations_styleFor? _ visible
    _ = _ := by rw [keptDeclarations, hsame, ← hread.styleDeclarations_eq]

def coveredRow : Attributes :=
  [(styleName, "Background : url(\"a.png\") ; DISPLAY: block;color:red".toList)]

theorem keeps_other_declarations_coveredRow :
    InDeclarations (rowStyle coveredRow) ∧
      styleDeclarations (rowStyle (setDisplay coveredRow false)) =
        ["Background : url(\"a.png\")".toList, "color:red".toList, hiddenDisplay] := by
  have hread : InDeclarations (rowStyle coveredRow) := by decide +kernel
  have hkept := keeps_other_declarations coveredRow false hread (by decide +kernel)
  refine ⟨hread, hkept.trans ?_⟩
  decide +kernel

/-- A declaration with a semicolon in parentheses is cut in two. -/
theorem not_keeps_every_declaration :
    ¬ ∀ (attributes : Attributes) (visible : Bool),
      ((styleDeclarations (rowStyle attributes)).filter (!isOfDisplay ·)).Sublist
        (styleDeclarations (rowStyle (setDisplay attributes visible))) := by
  intro h
  have himage := h [(styleName, "background: url(data:image/png;base64,AA)".toList)] true
  revert himage
  decide +kernel

end TitleSieve.Listing
