import TitleSieve.Proofs.Pattern.CaseBlindness
import TitleSieve.Proofs.Pattern.Combining
import TitleSieve.Proofs.Pattern.Sources
import TitleSieve.Pattern.Reader

/-!
Patterns in which case never counts. A rule's pattern is read ignoring case, and only a group with
flags of its own can say otherwise. While no such group is entered, every comparison that the reader
builds ignores case, and putting pieces together keeps that. So the finished pattern ignores case
unless its text switches that off somewhere.
-/

namespace TitleSieve.Pattern

/-- No comparison in these pieces minds case. -/
abbrev IgnoreCase : List Piece → Prop := AllOf Tree.IgnoresCase

theorem IgnoreCase.fold_ne_exact {pieces : List Piece} (h : IgnoreCase pieces) {fold : Fold}
    {members : List Member} (hmembers : membersOf? pieces = some (fold, members)) :
    fold ≠ .exact := by
  unfold membersOf? at hmembers
  split at hmembers
  · cases hmembers
    exact h _ List.mem_cons_self
  · cases hmembers
    exact h _ List.mem_cons_self
  · cases hmembers

/-- Single characters that become one set are compared as the first of them is. -/
theorem IgnoreCase.mergeSets {left : List (List Piece)} (h : ∀ pieces ∈ left, IgnoreCase pieces)
    {test : CharTest} (htest : mergeSets left = some test) : test.IgnoresCase := by
  unfold Pattern.mergeSets at htest
  obtain ⟨sets, hsets, htest⟩ := Option.bind_eq_some_iff.mp htest
  obtain ⟨first, hfirst, htest⟩ := Option.bind_eq_some_iff.mp htest
  obtain rfl := Option.some.inj htest
  cases left with
  | nil =>
    obtain rfl := Option.some.inj hsets
    cases hfirst
  | cons pieces rest =>
    rw [List.mapM_cons] at hsets
    obtain ⟨members, hmembers, hsets⟩ := Option.bind_eq_some_iff.mp hsets
    obtain ⟨others, -, hsets⟩ := Option.bind_eq_some_iff.mp hsets
    obtain rfl := Option.some.inj hsets
    obtain rfl := Option.some.inj hfirst
    exact (h pieces List.mem_cons_self).fold_ne_exact hmembers

theorem combines_ignoresCase : Combines Tree.IgnoresCase where
  empty := trivial
  seq _ _ hfirst hsecond := ⟨hfirst, hsecond⟩
  alt _ _ hfirst hsecond := ⟨hfirst, hsecond⟩
  set _ _ hleft htest := IgnoreCase.mergeSets hleft htest

def Opening.IgnoresCase : Opening → Prop
  | .ifCaptured _ (some yes) => IgnoreCase yes
  | _ => True

/-- What has been read of a group ignores case. -/
structure Frame.IgnoresCase (frame : Frame) : Prop where
  opening : frame.opening.IgnoresCase
  complete : ∀ pieces ∈ frame.complete, IgnoreCase pieces
  items : ∀ item ∈ frame.items, IgnoreCase item.pieces

namespace Frame.IgnoresCase

variable {frame : Frame}

theorem opened {opening : Opening} (h : opening.IgnoresCase) (start : Nat) (flags : Flags) :
    (Frame.opened opening start flags).IgnoresCase :=
  ⟨h, by simp [Frame.opened], by simp [Frame.opened]⟩

theorem push (h : frame.IgnoresCase) {item : Item} (hitem : IgnoreCase item.pieces) :
    (frame.push item).IgnoresCase :=
  ⟨h.opening, h.complete, List.forall_mem_cons.mpr ⟨hitem, h.items⟩⟩

theorem sequence (h : frame.IgnoresCase) : IgnoreCase frame.sequence := by
  intro p hp
  obtain ⟨item, hitem, hp⟩ := List.mem_flatMap.mp hp
  exact h.items item (List.mem_reverse.mp hitem) p hp

theorem pieces (h : frame.IgnoresCase) : IgnoreCase frame.pieces := by
  apply combines_ignoresCase.combine
  intro alternative hmem
  rw [List.mem_reverse, List.mem_cons] at hmem
  rcases hmem with rfl | hmem
  · exact h.sequence
  · exact h.complete alternative hmem

theorem closedItem (h : frame.IgnoresCase) : IgnoreCase (Reader.closedItem frame).pieces := by
  have htree := combines_ignoresCase.sequenceOf h.pieces
  have hopening := h.opening
  unfold Reader.closedItem
  simp only
  split
  · exact h.pieces
  · exact h.pieces
  · exact .singleton htree
  · exact .singleton htree
  · exact .singleton htree
  · exact .singleton htree
  · exact .singleton htree
  · exact .singleton ⟨htree, trivial⟩
  · rename_i index yes hframe
    rw [hframe] at hopening
    exact .singleton ⟨combines_ignoresCase.sequenceOf hopening, htree⟩

end Frame.IgnoresCase

/-- What has been read so far ignores case, and so does what is read in the groups further out. -/
structure Reader.IgnoresCase (reader : Reader) : Prop where
  frame : reader.frame.IgnoresCase
  outer : ∀ frame ∈ reader.outer, frame.IgnoresCase ∧ frame.flags.ignoreCase = true

theorem Flags.fold_ne_exact {flags : Flags} (h : flags.ignoreCase = true) :
    flags.fold ≠ .exact := by
  unfold Flags.fold
  rw [if_pos h]
  split <;> exact Fold.noConfusion

theorem ignoresCase_setTest (negated : Bool) {fold : Fold} (hfold : fold ≠ .exact)
    (members : List Member) : (setTest negated fold members).IgnoresCase := by
  unfold setTest
  split <;> exact hfold

/-- Every reading ends in some way. -/
theorem ensures_any {α : Type} (reading : Reading α) :
    Ensures (fun _ => True) (fun _ => True) reading := by
  rcases reading with (⟨cause, position⟩ | excess) | value <;> trivial

theorem ensures_readSet_ignoresCase (ascii : Bool) {fold : Fold} (hfold : fold ≠ .exact)
    (src : Source) :
    Ensures (fun _ => True) (fun result => result.1.IgnoresCase) (readSet ascii fold src) := by
  unfold readSet
  refine (ensures_any _).bind fun result _ => ?_
  exact (ensures_any _).bind fun result _ => ensures_pure (ignoresCase_setTest _ hfold _)

def Move.IgnoresCase : Move Reader Tree → Prop
  | .more next _ => next.IgnoresCase
  | .done tree => tree.IgnoresCase

namespace Reader

/-- The reading leads on to a reader that ignores case in all that it has read. -/
abbrev KeepsIgnoringCase (reading : Reading (Reader × Source)) : Prop :=
  Ensures (fun _ => True) (fun result => result.1.IgnoresCase) reading

namespace IgnoresCase

variable {reader : Reader} {src : Source}

theorem initial : Reader.initial.IgnoresCase :=
  ⟨.opened (by trivial) 0 .standard, by simp [Reader.initial]⟩

theorem push (h : reader.IgnoresCase) {item : Item} (hitem : IgnoreCase item.pieces) :
    (reader.push item).IgnoresCase := ⟨h.frame.push hitem, h.outer⟩

theorem pushTree (h : reader.IgnoresCase) (shape : Shape) {tree : Tree} (htree : tree.IgnoresCase) :
    (reader.pushTree shape tree).IgnoresCase := h.push (.singleton htree)

theorem opened {next : Reader} (h : reader.IgnoresCase) (hflags : reader.flags.ignoreCase = true)
    (hframe : next.frame.IgnoresCase) (houter : next.outer = reader.frame :: reader.outer) :
    next.IgnoresCase := by
  refine ⟨hframe, ?_⟩
  rw [houter]
  exact List.forall_mem_cons.mpr ⟨⟨h.frame, hflags⟩, h.outer⟩

theorem openGroup (h : reader.IgnoresCase) (hflags : reader.flags.ignoreCase = true)
    {opening : Opening} (hopening : opening.IgnoresCase) (start : Nat) (flags : Flags) :
    (reader.openGroup opening start flags).IgnoresCase :=
  h.opened hflags (.opened hopening start flags) rfl

theorem closeInto (h : reader.IgnoresCase) {parent : Frame} {outer : List Frame}
    (houter : reader.outer = parent :: outer) : (reader.closeInto parent outer).IgnoresCase := by
  have hall := h.outer
  rw [houter, List.forall_mem_cons] at hall
  exact ⟨hall.1.1.push h.frame.closedItem, hall.2⟩

theorem endAlternative (h : reader.IgnoresCase) (position : Nat) :
    Ensures (fun _ => True) Reader.IgnoresCase (reader.endAlternative position) := by
  unfold Reader.endAlternative
  simp only
  split
  · exact ensures_ok ⟨⟨h.frame.sequence, h.frame.complete, by simp⟩, h.outer⟩
  · exact ensures_malformed ..
  · refine ensures_ok ⟨⟨h.frame.opening, ?_, by simp⟩, h.outer⟩
    exact List.forall_mem_cons.mpr ⟨h.frame.sequence, h.frame.complete⟩

theorem repeatLast (h : reader.IgnoresCase) {least : Nat} {most : Option Nat} {body : Tree}
    {rest : List Item} (hbody : body.IgnoresCase) (hrest : ∀ item ∈ rest, IgnoreCase item.pieces) :
    KeepsIgnoringCase (reader.repeatLast least most body rest src) := by
  unfold Reader.repeatLast
  refine (ensures_any _).bind fun result _ =>
    ensures_pure ⟨⟨h.frame.opening, h.frame.complete, ?_⟩, h.outer⟩
  have hloop : IgnoreCase [⟨.loop, .loop result.1 least most body⟩] := .singleton hbody
  exact List.forall_mem_cons.mpr ⟨hloop, hrest⟩

theorem stepRepeat (h : reader.IgnoresCase) {least : Nat} {most : Option Nat} {here : Nat} :
    KeepsIgnoringCase (reader.stepRepeat least most here src) := by
  unfold Reader.stepRepeat
  split
  · exact ensures_malformed ..
  · rename_i pieces rest hitems
    obtain ⟨hpieces, hrest⟩ := List.forall_mem_cons.mp (hitems ▸ h.frame.items)
    exact h.repeatLast (combines_ignoresCase.sequenceOf hpieces) hrest
  · rename_i p rest hitems
    obtain ⟨hp, hrest⟩ := List.forall_mem_cons.mp (hitems ▸ h.frame.items)
    split
    · exact ensures_malformed ..
    · exact ensures_malformed ..
    · exact h.repeatLast (hp p List.mem_cons_self) hrest

theorem finish (h : reader.IgnoresCase) (unbalancedAt : Option Nat) :
    Ensures (fun _ => True) Tree.IgnoresCase (reader.finish unbalancedAt) := by
  unfold Reader.finish
  simp only
  split
  · exact ensures_refused trivial
  · split
    · trivial
    · split
      · trivial
      · split
        · trivial
        · exact ensures_pure (combines_ignoresCase.sequenceOf h.frame.pieces)

section

variable (h : reader.IgnoresCase) (hflags : reader.flags.ignoreCase = true)

include h hflags

theorem pushCode (code : Nat) : (reader.pushCode code).IgnoresCase :=
  h.pushTree .single (Flags.fold_ne_exact hflags)

theorem pushReference (index : Nat) (width : Width) :
    (reader.pushReference index width).IgnoresCase :=
  h.pushTree .single (Flags.fold_ne_exact hflags)

theorem openCapture (start : Nat) : (reader.openCapture start).IgnoresCase :=
  h.opened hflags (.opened (by trivial) start _) rfl

theorem stepEscape (letter : Char) : KeepsIgnoringCase (reader.stepEscape letter src) := by
  unfold Reader.stepEscape
  refine (ensures_any _).bind fun result _ => ?_
  obtain ⟨escape, rest⟩ := result
  cases escape with
  | code n => exact ensures_pure (h.pushCode hflags n)
  | kind which negated => exact ensures_pure (h.pushTree .single (Flags.fold_ne_exact hflags))
  | textStart => exact ensures_pure (h.pushTree .anchor trivial)
  | textEnd => exact ensures_pure (h.pushTree .anchor trivial)
  | wordEdge negated => exact ensures_pure (h.pushTree .anchor trivial)
  | reference index digits =>
    simp only
    split
    · exact ensures_malformed ..
    · split
      · exact ensures_malformed ..
      · exact (ensures_any _).bind fun _ _ => ensures_pure (h.pushReference hflags _ _)

theorem stepNamed (start : Nat) : KeepsIgnoringCase (reader.stepNamed start src) := by
  unfold Reader.stepNamed
  refine (ensures_any _).bind fun result _ => ?_
  simp only
  split
  · refine (ensures_any _).bind fun result _ => ?_
    refine (ensures_any _).bind fun _ _ => ?_
    split
    · exact ensures_malformed ..
    · have hopened := h.openCapture hflags start
      exact ensures_pure ⟨hopened.frame, hopened.outer⟩
  · refine (ensures_any _).bind fun result _ => ?_
    split
    · refine (ensures_any _).bind fun result _ => ?_
      refine (ensures_any _).bind fun _ _ => ?_
      split
      · exact ensures_malformed ..
      · split
        · exact ensures_malformed ..
        · exact (ensures_any _).bind fun _ _ => ensures_pure (h.pushReference hflags _ _)
    · refine (ensures_any _).bind fun result _ => ?_
      split <;> exact ensures_malformed ..

theorem stepCondition (start : Nat) : KeepsIgnoringCase (reader.stepCondition start src) := by
  unfold Reader.stepCondition
  refine (ensures_any _).bind fun result _ => ?_
  simp only
  split
  · split
    · exact ensures_malformed ..
    · refine (ensures_any _).bind fun _ _ => ensures_pure ?_
      exact h.openGroup hflags (by trivial) ..
  · split
    · exact ensures_malformed ..
    · split
      · trivial
      · split
        · trivial
        · refine (ensures_any _).bind fun _ _ => ensures_pure ?_
          exact h.opened hflags (.opened (by trivial) ..) rfl

theorem stepFlags (start : Nat) (first : Char) :
    KeepsIgnoringCase (reader.stepFlags start first src) := by
  unfold Reader.stepFlags
  refine (ensures_any _).bind fun result _ => ?_
  obtain ⟨setting, rest⟩ := result
  cases setting with
  | group on off =>
    refine ensures_pure (h.openGroup hflags ?_ ..)
    split <;> trivial
  | whole on =>
    simp only
    split
    · trivial
    · exact ensures_pure ⟨⟨h.frame.opening, h.frame.complete, h.frame.items⟩, h.outer⟩

theorem openBehind (negated : Bool) (start : Nat) :
    (reader.openBehind negated start).IgnoresCase :=
  h.opened hflags (.opened (by trivial) start _) rfl

theorem stepGroup : KeepsIgnoringCase (reader.stepGroup src) := by
  unfold Reader.stepGroup
  refine (ensures_any _).bind fun result _ => ?_
  simp only
  split
  · exact ensures_pure (h.openCapture hflags _)
  · refine (ensures_any _).bind fun result _ => ?_
    split
    · exact ensures_malformed ..
    · exact h.stepNamed hflags _
    · exact ensures_pure (h.openGroup hflags (by trivial) ..)
    · exact ensures_pure (h.openGroup hflags (by trivial) ..)
    · exact ensures_pure (h.openGroup hflags (by trivial) ..)
    · exact ensures_pure (h.openGroup hflags (by trivial) ..)
    · exact h.stepCondition hflags _
    · exact (ensures_any _).bind fun _ _ => ensures_pure h
    · refine (ensures_any _).bind fun result _ => ?_
      split
      · exact ensures_malformed ..
      · exact ensures_pure (h.openBehind hflags ..)
      · exact ensures_pure (h.openBehind hflags ..)
      · exact ensures_malformed ..
    · split
      · exact h.stepFlags hflags ..
      · exact ensures_malformed ..
    · exact ensures_malformed ..

theorem stepToken (token : Token) : KeepsIgnoringCase (reader.stepToken token src) := by
  unfold Reader.stepToken
  cases token with
  | dangling => exact ensures_pure h
  | escaped letter => exact h.stepEscape hflags letter
  | plain c =>
    simp only
    split
    · exact ensures_pure h
    · split
      · exact (ensures_any _).bind fun _ _ => ensures_pure h
      · split
        · have hset :=
            ensures_readSet_ignoresCase reader.flags.ascii (Flags.fold_ne_exact hflags) src
          exact hset.bind fun _ htest => ensures_pure (h.pushTree .single htest)
        · exact h.stepRepeat
        · exact h.stepRepeat
        · exact h.stepRepeat
        · refine (ensures_any _).bind fun bounds _ => ?_
          split
          · exact h.stepRepeat
          · exact ensures_pure (h.pushCode hflags _)
        · exact ensures_pure (h.pushTree .single trivial)
        · exact h.stepGroup hflags
        · exact ensures_pure (h.pushTree .anchor trivial)
        · exact ensures_pure (h.pushTree .anchor trivial)
        · exact ensures_pure (h.pushCode hflags _)

end

/-- A step keeps what has been read so far, and what it finishes ignores case. -/
theorem step (h : reader.IgnoresCase) (hflags : reader.flags.ignoreCase = true) :
    Ensures (fun _ => True) Move.IgnoresCase (reader.step src) := by
  unfold Reader.step
  split
  · exact ensures_pure h
  · split
    · exact (h.finish _).bind fun tree htree => ensures_pure htree
    · rename_i parent outer houter
      exact (ensures_any _).bind fun rest _ => ensures_pure (h.closeInto houter)
  · refine (h.endAlternative _).bind fun next hnext => ?_
    exact (ensures_any _).bind fun rest _ => ensures_pure hnext
  · refine (ensures_any _).bind fun rest _ => ?_
    exact (h.stepToken hflags _).bind fun result hresult => ensures_pure hresult

end IgnoresCase

/-- Reads a pattern only to see whether case begins to count somewhere in it. -/
def watch (reader : Reader) (src : Source) : Reading (Move Reader Bool) :=
  if reader.flags.ignoreCase then
    match reader.step src with
    | .ok (.more next rest) => .ok (.more next rest)
    | .ok (.done _) => .ok (.done false)
    | .error e => .error e
  else .ok (.done true)

def watchEnd (reader : Reader) (_ : Nat) : Reading Bool := .ok !reader.flags.ignoreCase

end Reader

/-- Whether the text of a pattern switches off, for some group, that case is ignored. -/
def switchesCaseOn (body : Text) : Bool :=
  match (Source.ofText body).bind (·.scan Reader.initial Reader.watch Reader.watchEnd) with
  | .ok switched => switched
  | .error _ => false

/-- As long as case does not begin to count, watching goes on as reading does. -/
theorem Reader.IgnoresCase.of_scan {reader : Reader} {src : Source} {tree : Tree}
    (h : reader.IgnoresCase) (hread : src.scan reader Reader.step Reader.atEnd = .ok tree)
    (hwatch : src.scan reader Reader.watch Reader.watchEnd ≠ .ok true) : tree.IgnoresCase := by
  unfold Source.scan TitleSieve.scan at hread hwatch
  revert hread hwatch
  generalize (0 : Nat) = skip
  generalize src.position = position
  generalize src.tokens = tokens
  intro hread hwatch
  induction tokens generalizing skip reader position with
  | nil =>
    have hend : reader.atEnd position = .ok tree := by cases skip <;> exact hread
    unfold Reader.atEnd at hend
    split at hend
    · have hfinish := h.finish none
      rw [hend] at hfinish
      exact hfinish
    · cases hend
  | cons token rest ih =>
    cases skip with
    | succ skip => exact ih h skip position hread hwatch
    | zero =>
      unfold scanFrom at hread hwatch
      simp only at hread hwatch
      by_cases hflags : reader.flags.ignoreCase = true
      · have hmove : Ensures _ Move.IgnoresCase (reader.step ⟨position, token :: rest⟩) :=
          h.step hflags
        rcases hstep : reader.step ⟨position, token :: rest⟩ with e | ⟨next, left⟩ | result
        · rw [hstep] at hread
          cases hread
        · have hgoes : reader.watch ⟨position, token :: rest⟩ = .ok (.more next left) := by
            rw [Reader.watch, if_pos hflags, hstep]
          rw [hstep] at hread hmove
          rw [hgoes] at hwatch
          exact ih hmove _ _ hread hwatch
        · rw [hstep] at hread hmove
          obtain rfl := Except.ok.inj hread
          exact hmove
      · have hstops : reader.watch ⟨position, token :: rest⟩ = .ok (.done true) := by
          rw [Reader.watch, if_neg hflags]
        rw [hstops] at hwatch
        exact absurd rfl hwatch

/-- A pattern that nowhere switches it off ignores case in every comparison. -/
theorem Tree.ignoresCase_of_read {body : Text} {tree : Tree} (hread : Tree.read body = .ok tree)
    (hcase : switchesCaseOn body = false) : tree.IgnoresCase := by
  unfold Tree.read at hread
  unfold switchesCaseOn at hcase
  cases hsrc : Source.ofText body with
  | error e =>
    rw [hsrc] at hread
    cases hread
  | ok src =>
    rw [hsrc] at hread hcase
    have hwatch : src.scan Reader.initial Reader.watch Reader.watchEnd ≠ .ok true := by
      intro hswitched
      simp only [Except.bind, hswitched] at hcase
      cases hcase
    exact Reader.IgnoresCase.initial.of_scan hread hwatch

/-- A group that minds case, and a set of the characters that would begin one. -/
example : (switchesCaseOn "(?-i:A)".toList, switchesCaseOn "[(?-i:A)]".toList) = (true, false) := by
  decide +kernel

end TitleSieve.Pattern
