import TitleSieve.Proofs.Markup.Rereading
import TitleSieve.Proofs.Markup.WrittenTags

/-!
Every mark of a page is read, once it has been written, as the events that it stands for. A mark is
read by itself, whatever follows it: a tag up to its angle bracket, an insertion up to the ending
written behind it, and verbatim text up to the end tag of its element.
-/

namespace TitleSieve.Markup

open Event StartTag

def endTagTells (name : Text) : Bool := (plainEndName? name).all (· == name)

section

variable {name : Text} {attributes : Attributes}

theorem IsTagName.takeWhile_eq (h : IsTagName name) {tail : Text}
    (htail : tail.takeWhile isTagNameChar = []) :
    (name ++ tail).takeWhile isTagNameChar = name := by
  rw [List.takeWhile_append_of_pos h.chars, htail, List.append_nil]

theorem IsTagName.dropWhile_eq (h : IsTagName name) {tail : Text}
    (htail : tail.takeWhile isTagNameChar = []) :
    (name ++ tail).dropWhile isTagNameChar = tail := by
  have hsplit := List.takeWhile_append_dropWhile (p := isTagNameChar) (l := tail)
  rw [htail, List.nil_append] at hsplit
  rw [List.dropWhile_append_of_pos h.chars, hsplit]

theorem takeWhile_tagTail (attributes : Attributes) (selfClosing : Bool) (left : Text) :
    (attributes.flatMap writeAttribute ++ (tagMark selfClosing ++ left)).takeWhile
      isTagNameChar = [] := by
  have hmarks : isTagNameChar ' ' = false ∧ isTagNameChar '>' = false ∧
      isTagNameChar '/' = false := by decide
  cases attributes with
  | nil => cases selfClosing <;> simp [tagMark, hmarks]
  | cons entry rest => simp [writeAttribute, hmarks]

theorem readConstruct_of_isAsciiLetter {c : Char} (hc : isAsciiLetter c = true) (t : Text) :
    readConstruct (c :: t) = readStartTag (c :: t) := by
  have hmarks : c ≠ '/' ∧ c ≠ '!' ∧ c ≠ '?' := by
    refine ⟨?_, ?_, ?_⟩ <;> rintro rfl <;> exact absurd hc (by decide)
  unfold readConstruct
  split <;> simp_all

/-- A start tag that has been written is read as its event, which may open verbatim text. -/
theorem readConstruct_startTag (hname : IsTagName name) (hattributes : attributes.Named)
    (selfClosing : Bool) (left : Text) :
    readConstruct (name ++ (attributes.flatMap writeAttribute ++ (tagMark selfClosing ++ left))) =
      .ok (if !selfClosing && verbatimNames.contains name then
        .opened (.opening name attributes selfClosing) name left
      else .read [.opening name attributes selfClosing] left) := by
  obtain ⟨raw, hraw, hread⟩ := exists_read_written hattributes name selfClosing left
  have htail := takeWhile_tagTail attributes selfClosing left
  generalize attributes.flatMap writeAttribute ++ (tagMark selfClosing ++ left) = tail at *
  have hstart : readConstruct (name ++ tail) = readStartTag (name ++ tail) := by
    obtain ⟨c, rest, rfl, hc⟩ := hname.begins
    exact readConstruct_of_isAsciiLetter hc _
  rw [hstart, readStartTag, hname.takeWhile_eq htail, hname.dropWhile_eq htail, hread,
    hname.lowered]
  simp only [hraw]
  cases !selfClosing && verbatimNames.contains name <;> rfl

theorem readOnto_startTag (builder : Builder) (hname : IsTagName name)
    (hattributes : attributes.Named) (selfClosing : Bool) (left : Text) :
    readOnto builder none
        ('<' :: name ++ (attributes.flatMap writeAttribute ++ (tagMark selfClosing ++ left))) =
      readOnto (builder.step (.opening name attributes selfClosing))
        (if !selfClosing && isVerbatim name then some name else none) left := by
  have hread := readConstruct_startTag hname hattributes selfClosing left
  have hused : name ++ (attributes.flatMap writeAttribute ++ (tagMark selfClosing ++ left)) =
      (name ++ (attributes.flatMap writeAttribute ++ tagMark selfClosing)) ++ left := by simp
  rw [List.cons_append, hused, ← List.cons_append]
  rw [hused] at hread
  unfold isVerbatim
  cases hopens : !selfClosing && verbatimNames.contains name
  · rw [hopens] at hread
    rw [readOnto_of_read builder hread]
    rfl
  · rw [hopens] at hread
    rw [readOnto_of_opened builder hread]
    rfl

theorem IsTagName.not_mem (h : IsTagName name) : '>' ∉ name := by
  intro hmem
  exact absurd (h.chars '>' hmem) (by decide)

theorem readEndTag_written (hname : IsTagName name) (htells : endTagTells name = true)
    (left : Text) : readEndTag (name ++ '>' :: left) = .read [.closing name] left := by
  obtain ⟨c, rest, hsplit, hc⟩ := hname.begins
  have hwhole := hname.takeWhile_eq (rfl : ([] : Text).takeWhile isTagNameChar = [])
  rw [List.append_nil] at hwhole
  have htold (told : Text) (h : plainEndName? name = some told) : told = name := by
    simpa [endTagTells, h] using htells
  rw [readEndTag, Text.cutAt?_append hname.not_mem]
  dsimp only
  split
  · next told heq =>
    rw [htold told heq, hname.lowered]
  · cases hsplit
  · next d more heq =>
    obtain ⟨rfl, rfl⟩ := List.cons.inj hsplit
    rw [if_pos hc, hwhole, hname.lowered]

theorem readOnto_endTag (builder : Builder) (hname : IsTagName name)
    (htells : endTagTells name = true) (left : Text) :
    readOnto builder none ('<' :: '/' :: name ++ '>' :: left) =
      readOnto (builder.step (.closing name)) none left := by
  have hread : readConstruct ('/' :: name ++ ['>'] ++ left) = .ok (.read [.closing name] left) := by
    rw [List.append_assoc, List.singleton_append, List.cons_append, readConstruct,
      readEndTag_written hname htells]
  have honto := readOnto_of_read builder hread
  rwa [List.cons_append, List.append_assoc, List.singleton_append] at honto

end

section

variable {content : Text}

theorem readConstruct_instruction (h : '>' ∉ content) (left : Text) :
    readConstruct ('?' :: content ++ ['>'] ++ left) =
      .ok (.read [.insertion .instruction content] left) := by
  rw [List.append_assoc, List.singleton_append]
  simp only [List.cons_append, readConstruct, upTo, Text.cutAt?_append h]

theorem readConstruct_comment (h : ∀ left, left <:+ content → endsComment? left = none)
    (left : Text) :
    readConstruct ('!' :: '-' :: '-' :: content ++ commentMark ++ left) =
      .ok (.read [.insertion .comment content] left) := by
  have hmark : endsComment? (commentMark ++ left) = some ([] ++ left) :=
    endsComment?_append (by decide) left
  have hcut : cutWhere? endsComment? (content ++ (commentMark ++ left)) = some (content, left) :=
    cutWhere?_append hmark rfl fun inner hinner hne => endsComment?_mark hne (h inner hinner) left
  rw [List.append_assoc]
  simp only [List.cons_append, readConstruct, readDeclaration, hcut]

def doctypeMark : Text := "DOCTYPE ".toList

theorem readConstruct_doctype (h : '>' ∉ content) (left : Text) :
    readConstruct ('!' :: (doctypeMark ++ content) ++ ['>'] ++ left) =
      .ok (.read [.insertion .doctype content] left) := by
  have hword : '>' ∉ doctypeMark ++ content := by
    rw [List.mem_append, not_or]
    exact ⟨by decide, h⟩
  have hcut := Text.cutAt?_append hword left
  have hlower : Text.lower "DOCTYPE".toList = doctypeName := by decide +kernel
  have hdeclaration : readDeclaration (doctypeMark ++ content ++ '>' :: left) =
      .ok (upTo '>' doctypeEvent (doctypeMark ++ content ++ '>' :: left)) :=
    @if_pos _ _ hlower _ _
      (.ok (upTo '>' (.insertion .comment) (doctypeMark ++ content ++ '>' :: left)))
  rw [List.append_assoc, List.singleton_append, List.cons_append]
  simp only [readConstruct, hdeclaration, upTo, hcut]
  rfl

/-- A section that is marked as one of characters ends with two brackets. -/
theorem readSection_cdata {t rest : Text}
    (hcut : cutWhere? (endsSection? 2) (cdataOpening ++ t) = some (content, rest)) :
    readSection (cdataOpening ++ t) = .ok (.read [sectionEvent content] rest) := by
  have hnames : sectionNames.contains (Text.lower "CDATA".toList) = true := by decide +kernel
  have hletter : isAsciiLetter 'C' = true := by decide
  have hsplit : cdataOpening ++ t = "CDATA".toList ++ '[' :: t := rfl
  have hletters : ∀ c ∈ "CDATA".toList, isSectionNameChar c = true :=
    List.all_eq_true.mp (by decide)
  have htake : (cdataOpening ++ t).takeWhile isSectionNameChar = "CDATA".toList := by
    rw [hsplit, List.takeWhile_append_of_pos hletters, List.takeWhile_cons_of_neg (by decide),
      List.append_nil]
  have hblank : ((cdataOpening ++ t).drop "CDATA".toList.length).takeWhile Text.isBlank = [] := by
    rw [hsplit, List.drop_left, List.takeWhile_cons_of_neg (by decide)]
  have hlength : ("CDATA".toList ++ []).length ≠ (cdataOpening ++ t).length := by
    rw [hsplit, List.append_nil, List.length_append, List.length_cons]
    omega
  unfold readSection
  split
  · next heq => cases heq
  · next c rest heq =>
    obtain rfl : 'C' = c := (List.cons.inj heq).1
    simp only [hletter, htake, hblank, hlength, hnames, Bool.not_true, Bool.false_eq_true, if_false,
      if_true, hcut]

theorem readConstruct_cdata (h : ∀ left, left <:+ content → endsSection? 2 left = none)
    (left : Text) :
    readConstruct ('!' :: '[' :: (cdataOpening ++ content) ++ sectionMark ++ left) =
      .ok (.read [.insertion .cdata content] left) := by
  have hmark : endsSection? 2 (sectionMark ++ left) = some ([] ++ left) :=
    endsSection?_append (by decide) left
  have hnone (inner : Text) (hinner : inner <:+ cdataOpening ++ content) (hne : inner ≠ []) :
      endsSection? 2 (inner ++ (sectionMark ++ left)) = none := by
    refine endsSection?_mark (by decide) hne ?_ left
    rcases suffix_append_cases hinner with hcontent | ⟨before, rfl, hbefore, hnonempty⟩
    · exact h inner hcontent
    · rw [Option.eq_none_iff_forall_ne_some]
      intro after hafter
      obtain ⟨c, rest, rfl⟩ := List.exists_cons_of_ne_nil hnonempty
      obtain ⟨more, hmore, -⟩ := endsSection?_succ.mp hafter
      have hc : c = ']' := (List.cons.inj hmore).1
      subst hc
      exact absurd (hbefore.subset List.mem_cons_self) (by decide)
  have hcut : cutWhere? (endsSection? 2) (cdataOpening ++ content ++ (sectionMark ++ left)) =
      some (cdataOpening ++ content, left) :=
    cutWhere?_append hmark rfl hnone
  have hevent : sectionEvent (cdataOpening ++ content) = .insertion .cdata content := by
    have hdrop : (cdataOpening ++ content).drop cdataOpening.length = content := List.drop_left
    have hstarts : startsCdata (cdataOpening ++ content) = true := by
      rw [startsCdata, List.take_left]
      decide
    rw [sectionEvent, if_pos hstarts, hdrop]
  rw [List.append_assoc] at hcut
  have hsection := readSection_cdata hcut
  rw [← List.append_assoc] at hsection
  rw [List.append_assoc]
  simp only [List.cons_append, readConstruct, readDeclaration, hsection, hevent]

/-- An insertion that has been written is read as the insertion that it has become, with what stands
behind it. -/
theorem readOnto_insertion (builder : Builder) {kind : Insertion} (hholds : kind.Holds content)
    (hdeclaration : kind = .declaration → '>' ∉ content) (left : Text) :
    readOnto builder none (kind.write content ++ left) =
      readOnto ((.insertion kind.kindReread (kind.contentReread content) ::
        textEvents kind.trail).foldl Builder.step builder) none left := by
  cases kind with
  | cdata =>
    have hwrite : Insertion.write content .cdata =
        '<' :: ('!' :: '[' :: (cdataOpening ++ content) ++ sectionMark) := rfl
    rw [hwrite, readOnto_of_read builder (readConstruct_cdata hholds left)]
    rfl
  | comment =>
    have hwrite : Insertion.write content .comment =
        '<' :: ('!' :: '-' :: '-' :: content ++ commentMark) := rfl
    rw [hwrite, readOnto_of_read builder (readConstruct_comment hholds left)]
    rfl
  | doctype =>
    have hwrite : Insertion.write content .doctype ++ left =
        '<' :: ('!' :: (doctypeMark ++ content) ++ ['>']) ++ '\n' :: left := by
      change "<!DOCTYPE ".toList ++ content ++ ['>', '\n'] ++ left = _
      simp only [List.cons_append, List.append_assoc, List.nil_append]
      rfl
    rw [hwrite, readOnto_of_read builder (readConstruct_doctype hholds ('\n' :: left)),
      readOnto_plain _ (by decide)]
    rfl
  | declaration =>
    have hcontent : '>' ∉ content ++ ['?'] := by
      rw [List.mem_append, not_or]
      exact ⟨hdeclaration rfl, by decide⟩
    have hwrite : Insertion.write content .declaration =
        '<' :: ('?' :: (content ++ ['?']) ++ ['>']) := by
      rw [List.cons_append, List.append_assoc]
      rfl
    rw [hwrite, readOnto_of_read builder (readConstruct_instruction hcontent left)]
    rfl
  | instruction =>
    have hwrite : Insertion.write content .instruction = '<' :: ('?' :: content ++ ['>']) := rfl
    rw [hwrite, readOnto_of_read builder (readConstruct_instruction hholds left)]
    rfl

end

section

variable {name : Text}

theorem afterName?_self (name rest : Text) : afterName? name (name ++ rest) = some rest := by
  induction name with
  | nil => rfl
  | cons c name ih =>
    have hagree : Pattern.Fold.unicode.agree c.toNat c.toNat = true := by
      simp [Pattern.Fold.agree]
    rw [List.cons_append, afterName?, if_pos hagree, ih]

theorem endsVerbatim?_endTag (hname : IsTagName name) (left : Text) :
    endsVerbatim? name ('<' :: '/' :: name ++ '>' :: left) = some left := by
  have hblank : (name ++ '>' :: left).dropWhile Text.isBlank = name ++ '>' :: left := by
    obtain ⟨c, rest, rfl, hc⟩ := hname.begins
    exact List.dropWhile_cons_of_neg (by simp [isBlank_of_isAsciiLetter hc])
  refine endsVerbatim?_eq_some_iff.mpr ⟨name ++ '>' :: left, '>' :: left, rfl, ?_, ?_⟩
  · rw [hblank, afterName?_self]
  · exact List.dropWhile_cons_of_neg (by decide)

theorem EndsNowhere.of_suffix {content inner : Text} (h : EndsNowhere name content)
    (hinner : inner <:+ content) : EndsNowhere name inner :=
  fun tag left hsuffix hends => h tag left (hsuffix.trans hinner) hends

theorem plainEndName?_of_isVerbatim (h : isVerbatim name = true) :
    (plainEndName? name).isSome = true := by
  have hall : ∀ name ∈ verbatimNames, (plainEndName? name).isSome = true := by decide
  exact hall name (by simpa [isVerbatim] using h)

/-- A stretch of verbatim text up to an end tag, which ends the text if it is plainly named. -/
theorem readOnto_of_cut (builder : Builder) {content inside after : Text}
    (hcut : cutWhere? (endsVerbatim? name) (content ++ ('<' :: inside ++ after)) =
      some (content, after)) :
    readOnto builder (some name) (content ++ ('<' :: inside ++ after)) =
      if (plainEndName? (('<' :: inside).drop 2).dropLast).isSome then
        readOnto (((textEvents content).foldl Builder.step builder).step (.closing name)) none after
      else readOnto ((textEvents (content ++ '<' :: inside)).foldl Builder.step builder)
        (some name) after := by
  have hstep : step false ⟨some name, []⟩ (content ++ ('<' :: inside ++ after)) = .ok _ :=
    congrArg Except.ok (stepVerbatim_of_cut ⟨some name, []⟩ hcut)
  have hused : content ++ '<' :: inside ≠ [] := by simp
  rw [← List.append_assoc] at hstep ⊢
  split at hstep
  · next hplain =>
    rw [readOnto_of_step builder hused hstep, Reading.built_cons, if_pos hplain]
    exact congrArg (fun taken => readOnto (taken.step (.closing name)) none after)
      (Reading.built_addText ..)
  · next hplain =>
    have hbuilt : Reading.built ((Reading.addText ⟨some name, []⟩ content).add
        (.text ('<' :: inside))) builder =
          (textEvents (content ++ '<' :: inside)).foldl Builder.step builder := by
      rw [Reading.add, Reading.built_cons, Builder.foldl_textEvents_append]
      exact congrArg (Builder.step · (.text ('<' :: inside))) (Reading.built_addText ..)
    have hopened : ((Reading.addText ⟨some name, []⟩ content).add
        (.text ('<' :: inside))).verbatim = some name := Reading.verbatim_addText ..
    rw [readOnto_of_step builder hused hstep, hbuilt, hopened, if_neg hplain]

/-- Verbatim text that has been written is read up to the end tag behind it. -/
theorem readOnto_verbatim (builder : Builder) (hname : IsTagName name)
    (hverbatim : isVerbatim name = true) {content : Text} (h : EndsNowhere name content)
    (left : Text) :
    readOnto builder (some name) (content ++ ('<' :: '/' :: name ++ '>' :: left)) =
      readOnto (((textEvents content).foldl Builder.step builder).step (.closing name)) none
        left := by
  have hbracket : AvoidsBracket name := avoidsBracket_of_isVerbatim hverbatim
  have hmark := endsVerbatim?_endTag hname left
  induction hlength : content.length using Nat.strongRecOn generalizing content builder with
  | _ n ih =>
    subst hlength
    rcases exists_cutWhere?_append hmark rfl content with
      hcut | ⟨before, inner, after, rfl, hne, hinner, hcut⟩
    · have htag : '<' :: '/' :: name ++ '>' :: left = '<' :: ('/' :: name ++ ['>']) ++ left := by
        simp
      have hplain : (('<' :: ('/' :: name ++ ['>'])).drop 2).dropLast = name :=
        List.dropLast_concat
      rw [htag] at hcut ⊢
      rw [readOnto_of_cut builder hcut, hplain, if_pos (plainEndName?_of_isVerbatim hverbatim)]
    · -- an end tag inside the content, which is part of it
      obtain ⟨rest, hends, rfl⟩ := endsVerbatim?_bracket hbracket hne hinner
      obtain ⟨inside, rfl, -⟩ := exists_tag_of_endsVerbatim? hbracket hends
      have hplain : plainEndName? (('<' :: inside).drop 2).dropLast = none :=
        h ('<' :: inside) rest (List.suffix_append _ _) hends
      have hrest : EndsNowhere name rest :=
        h.of_suffix ((List.suffix_append _ _).trans (List.suffix_append _ _))
      have hsplit : before ++ ('<' :: inside ++ rest) ++ ('<' :: '/' :: name ++ '>' :: left) =
          before ++ ('<' :: inside ++ (rest ++ ('<' :: '/' :: name ++ '>' :: left))) := by simp
      rw [hsplit] at hcut ⊢
      have hshorter : rest.length < (before ++ ('<' :: inside ++ rest)).length := by
        rw [List.length_append, List.length_append, List.length_cons]
        omega
      rw [readOnto_of_cut builder hcut, hplain, if_neg (by simp),
        ih rest.length hshorter _ hrest rfl, ← Builder.foldl_textEvents_append, List.append_assoc]

end

end TitleSieve.Markup
