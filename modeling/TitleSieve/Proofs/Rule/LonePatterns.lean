import TitleSieve.Proofs.Evaluation.Meaning
import TitleSieve.Proofs.Pattern.CaseKept
import TitleSieve.Proofs.Rule.Fragments

/-!
Rules that are one pattern. Such a rule is met by the titles in one of whose forms the pattern is
found. The forms are in lower case and patterns ignore case, so with titles of ASCII the decision is
the one for the title as it was typed.
-/

namespace TitleSieve.Rule

open Text Pattern

def slashed (body : Text) : Text := '/' :: (body ++ ['/'])

def ofPattern (body : Text) (tree : Tree) : Rule := ⟨[⟨slashed body, [.pattern body (some tree)]⟩]⟩

theorem isPiece_slashed {body : Text} (hsep : ∀ c ∈ body, isSeparator c = false) :
    IsPiece isSeparator (slashed body) := by
  refine ⟨List.cons_ne_nil _ _, ?_, ?_⟩
  · rw [trim_eq_self_iff]
    have hlast : (slashed body).getLast? = some '/' := by
      rw [slashed, ← List.cons_append, List.getLast?_concat]
    rw [hlast]
    constructor
    · intro c hc
      obtain rfl := Option.some.inj hc
      decide
    · intro c hc
      obtain rfl := Option.some.inj hc
      decide
  · intro c hc
    simp only [slashed, List.mem_cons, List.mem_append, List.not_mem_nil, or_false] at hc
    rcases hc with rfl | hc | rfl
    · decide
    · exact hsep c hc
    · decide

theorem read_slashed {body : Text} {tree : Tree} (hne : body ≠ [])
    (hsep : ∀ c ∈ body, isSeparator c = false) (hread : Tree.read body = .ok tree) :
    Rule.read (slashed body) = .ok ⟨ofPattern body tree, []⟩ := by
  have hsegments : segments (slashed body) = [slashed body] := (isPiece_slashed hsep).pieces_eq
  have hbody : patternBody? (slashed body) = some body := patternBody?_eq_some_iff.mpr ⟨hne, rfl⟩
  have hterm : Term.read (slashed body) = .ok ⟨.pattern body (some tree), []⟩ := by
    rw [Term.read, hbody]
    simp only [Term.readPattern, hread]
  simp only [Rule.read, hsegments, Group.readAll, Group.read, hterm, List.append_nil, ofPattern]

theorem known_of_one {source : Text} {term : Term} (h : ∀ kind, term ≠ .unknown kind) :
    Rule.Known ⟨[⟨source, [term]⟩]⟩ := by
  intro group hgroup other hother kind
  obtain rfl := List.mem_singleton.mp hgroup
  obtain rfl := List.mem_singleton.mp hother
  exact h kind

/-- A trial for which all texts can be converted comes to what their forms say. -/
theorem accepts_of_converts {converter : Converter} {rule : Rule} (hknown : rule.Known)
    {title : Text} {forms : Forms} (hforms : Forms.of converter title = .ok forms)
    (hliterals : ∀ literal ∈ rule.allLiterals, converter.Converts literal) (ledger : Ledger)
    (hledger : ledger.Faithful converter) :
    (rule.accepts converter title ledger).1 = .ok (rule.meets converter.formsOf forms) := by
  have htitle : converter.Converts title := ⟨forms, hforms⟩
  have hall : ∀ literal ∈ rule.allLiterals,
      Forms.of converter literal = .ok (converter.formsOf literal) :=
    fun literal hmem => (hliterals literal hmem).forms_of
  rw [rule.accepts_fst_of_forms title ledger hledger hknown htitle.forms_of hall,
    converter.allows_formsOf title forms hforms]

theorem accepts_ofPattern {converter : Converter} {title : Text} {forms : Forms}
    (hforms : Forms.of converter title = .ok forms) (body : Text) (tree : Tree) (ledger : Ledger)
    (hledger : ledger.Faithful converter) :
    ((ofPattern body tree).accepts converter title ledger).1 = .ok (tree.foundInForms forms) := by
  have hknown : (ofPattern body tree).Known := known_of_one fun _ => Term.noConfusion
  have hmeets : (ofPattern body tree).meets converter.formsOf forms = tree.foundInForms forms := by
    simp [ofPattern, Rule.meets, Group.meets, Term.meets]
  have hliterals : (ofPattern body tree).allLiterals = [] := rfl
  rw [accepts_of_converts hknown hforms (by simp [hliterals]) ledger hledger, hmeets]

/-- A pattern that ignores case is found in the lowercase form of a title of ASCII exactly if it is
found in the title. -/
theorem foundInForms_identity {tree : Tree} (htree : tree.IgnoresCase) {title : Text}
    (htitle : ∀ c ∈ title, c.toNat < 128) :
    tree.foundInForms ⟨title.lower, title.lower, title.lower⟩ = tree.foundIn title := by
  have hlower : title.lower = title.map Char.toLower :=
    lower_of_isPlain fun c hc => .inl (htitle c hc)
  have hfound : tree.foundIn title = tree.foundIn title.lower := by
    apply htree.foundIn_eq htitle
    rw [hlower, List.map_map]
    exact List.map_congr_left fun c _ => toLower_toLower c
  simp [Tree.foundInForms, Forms.toList, hfound]

/-- The decision about a title of ASCII is whether the pattern is found in the title as it was
typed, and it is the same for all titles with these letters, capital or small. -/
theorem accepts_as_typed {body : Text} {tree : Tree} (hne : body ≠ [])
    (hsep : ∀ c ∈ body, isSeparator c = false) (hread : Tree.read body = .ok tree)
    (hcase : switchesCaseOn body = false) {title : Text} (htitle : ∀ c ∈ title, c.toNat < 128) :
    ∃ rule, Rule.read ('/' :: (body ++ ['/'])) = .ok ⟨rule, []⟩ ∧
      ∀ ledger : Ledger, ledger.Faithful .identity →
        (rule.accepts .identity title ledger).1 = .ok (tree.foundIn title) ∧
        ∀ other : Text, other.map Char.toLower = title.map Char.toLower →
          (rule.accepts .identity other ledger).1 = .ok (tree.foundIn title) := by
  have htree : tree.IgnoresCase := Tree.ignoresCase_of_read hread hcase
  refine ⟨ofPattern body tree, read_slashed hne hsep hread, fun ledger hledger => ⟨?_, ?_⟩⟩
  · rw [accepts_ofPattern rfl body tree ledger hledger, foundInForms_identity htree htitle]
  · intro other hother
    have hascii : ∀ c ∈ other, c.toNat < 128 := by
      intro c hc
      have hmem : c.toLower ∈ title.map Char.toLower := hother ▸ List.mem_map_of_mem hc
      obtain ⟨d, hd, hlower⟩ := List.mem_map.mp hmem
      rw [← lowerAscii_lt_iff, ← toNat_toLower, ← hlower, toNat_toLower, lowerAscii_lt_iff]
      exact htitle d hd
    rw [accepts_ofPattern rfl body tree ledger hledger, foundInForms_identity htree hascii,
      htree.foundIn_eq htitle hother]

/-- The pattern `\b(\w)\1[^A-C]`: at the edge of a word a character that is written twice, and
behind it none of the first three letters. -/
def doubled : Tree :=
  .seq (.anchor (.wordEdge false false))
    (.seq (.capture 1 (.one (.set false .unicode [.kind .word false false])))
      (.seq (.again .unicode 1 ⟨1, some 1⟩) (.one (.set true .unicode [.span 65 67]))))

theorem accepts_as_typed_doubled :
    Tree.read "\\b(\\w)\\1[^A-C]".toList = .ok doubled ∧
      switchesCaseOn "\\b(\\w)\\1[^A-C]".toList = false ∧
      ∃ rule, Rule.read "/\\b(\\w)\\1[^A-C]/".toList = .ok ⟨rule, []⟩ ∧
        (rule.alone .identity "x qQD".toList) = .ok (doubled.foundIn "x qQD".toList) ∧
        (rule.alone .identity "X QqD".toList) = .ok (doubled.foundIn "x qQD".toList) ∧
        doubled.foundIn "x qQD".toList = true := by
  have hread : Tree.read "\\b(\\w)\\1[^A-C]".toList = .ok doubled := by decide +kernel
  have hcase : switchesCaseOn "\\b(\\w)\\1[^A-C]".toList = false := by decide +kernel
  have hsep : "\\b(\\w)\\1[^A-C]".toList.all (!isSeparator ·) = true := by decide
  have htitle : "x qQD".toList.all (·.toNat < 128) = true := by decide
  obtain ⟨rule, hrule, hdecides⟩ := accepts_as_typed (by decide)
    (fun c hc => by simpa using List.all_eq_true.mp hsep c hc) hread hcase
    (fun c hc => by simpa using List.all_eq_true.mp htitle c hc)
  obtain ⟨htyped, hothers⟩ := hdecides (.fresh false) (Ledger.faithful_fresh .identity false)
  exact ⟨hread, hcase, rule, hrule, htyped, hothers "X QqD".toList (by decide), by decide +kernel⟩

end TitleSieve.Rule
