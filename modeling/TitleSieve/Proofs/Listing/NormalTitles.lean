import TitleSieve.Proofs.Listing.Places
import TitleSieve.Proofs.Text.Words

/-!
The normal form of titles. A listing has one title for each of its rows that has a title cell, in
the order of the rows, and each title consists of the words of its cell's text, one space apart. The
handle of a title is the number of its row, and rows without a title cell are counted too.
-/

namespace TitleSieve.Listing

open Markup Text

/-- The title cell of the row at this place is cut into these runs, which make up the title; its
handle is the place. -/
def TellsRow (rows : List Forest.Element) (place : Nat) (entry : Text × Text) : Prop :=
  ∃ row cell runs, rows[place]? = some row ∧ row.children.find? isTitle = some cell ∧
    CutIntoRuns cell.text runs ∧ entry = (handleOf place, joinWith [' '] runs)

theorem rowTitle?_eq_some_iff {row : Forest.Element} {title : Text} :
    rowTitle? row = some title ↔ ∃ cell runs, row.children.find? isTitle = some cell ∧
      CutIntoRuns cell.text runs ∧ title = joinWith [' '] runs := by
  rw [rowTitle?, Option.map_eq_some_iff]
  constructor
  · rintro ⟨cell, hcell, rfl⟩
    exact ⟨cell, words cell.text, hcell, words_eq_iff.mp rfl, trim_squeeze cell.text⟩
  · rintro ⟨cell, runs, hcell, hruns, rfl⟩
    exact ⟨cell, hcell, by rw [trim_squeeze, hruns.words_eq]⟩

def titlePlaces (index : Nat) (rows : List Forest.Element) : List Nat :=
  ((rows.zipIdx index).filter fun item => (rowTitle? item.1).isSome).map Prod.snd

theorem mem_titlePlaces_iff {rows : List Forest.Element} {place : Nat} :
    place ∈ titlePlaces 0 rows ↔
      ∃ row, rows[place]? = some row ∧ (rowTitle? row).isSome = true := by
  simp [titlePlaces, List.mem_zipIdx_iff_getElem?]

theorem pairwise_titlePlaces (index : Nat) (rows : List Forest.Element) :
    (titlePlaces index rows).Pairwise (· < ·) := by
  have hplaces : ((rows.zipIdx index).map Prod.snd).Pairwise (· < ·) := by
    rw [List.zipIdx_map_snd]
    exact List.pairwise_lt_range'
  exact hplaces.sublist (List.filter_sublist.map Prod.snd)

theorem titlePlaces_cons (index : Nat) (row : Forest.Element) (rest : List Forest.Element) :
    titlePlaces index (row :: rest) =
      match rowTitle? row with
      | some _ => index :: titlePlaces (index + 1) rest
      | none => titlePlaces (index + 1) rest := by
  rw [titlePlaces, List.zipIdx_cons, List.filter_cons]
  cases rowTitle? row <;> rfl

/-- The entries of a listing are, place for place, what its rows with a title tell. -/
theorem forall₂_titlesFrom (before rest : List Forest.Element) :
    List.Forall₂ (TellsRow (before ++ rest)) (titlePlaces before.length rest)
      (titlesFrom before.length rest) := by
  induction rest generalizing before with
  | nil => exact .nil
  | cons row more ih =>
    have hmore := ih (before ++ [row])
    rw [List.append_assoc, List.singleton_append, List.length_append,
      List.length_singleton] at hmore
    rw [titlePlaces_cons, titlesFrom]
    cases htitle : rowTitle? row with
    | none => exact hmore
    | some title =>
      obtain ⟨cell, runs, hcell, hruns, rfl⟩ := rowTitle?_eq_some_iff.mp htitle
      have hrow : (before ++ row :: more)[before.length]? = some row := by simp
      exact .cons ⟨row, cell, runs, hrow, hcell, hruns, rfl⟩ hmore

theorem TellsRow.isCollapsed {rows : List Forest.Element} {place : Nat} {entry : Text × Text}
    (h : TellsRow rows place entry) :
    IsCollapsed entry.2 ∧ trim (squeeze entry.2) = entry.2 := by
  obtain ⟨row, cell, runs, -, -, hruns, rfl⟩ := h
  have hwords : ∀ word ∈ runs, IsWord word := by
    rw [← hruns.words_eq]
    exact fun word hword => isWord_of_mem_words hword
  exact ⟨isCollapsed_joinWith hwords, by rw [trim_squeeze, words_joinWith hwords]⟩

/-- A listing has one title for each of its rows that has a title cell. The places of these rows
increase and lie below the number of rows, and the handle of each title is its row's place in
decimal digits. The title itself is the maximal runs of characters that are not blank in the text of
the first title cell, one space apart. It has no blank at either end, none beside another and none
that is not a space, and squeezing and trimming it again changes nothing. -/
theorem titlesOf_lists_words {page : Forest} {before : List Forest.Element}
    (hrows : rows page = .ok before) :
    ∃ places entries, titlesOf page = .ok entries ∧
      places.Pairwise (· < ·) ∧ (∀ place ∈ places, place < before.length) ∧
      (∀ place row, before[place]? = some row →
        (place ∈ places ↔ ∃ cell, row.children.find? isTitle = some cell)) ∧
      List.Forall₂ (TellsRow before) places entries ∧
      (∀ entry ∈ entries, IsCollapsed entry.2 ∧ trim (squeeze entry.2) = entry.2) ∧
      ∀ html, Forest.read html = .ok page → candidates html = .ok (entries.map candidateOf) := by
  have htells : List.Forall₂ (TellsRow before) (titlePlaces 0 before) (titlesFrom 0 before) :=
    forall₂_titlesFrom [] before
  have hnormal : ∀ entry ∈ titlesFrom 0 before,
      IsCollapsed entry.2 ∧ trim (squeeze entry.2) = entry.2 := by
    have hentries : List.Forall₂ (flip (TellsRow before)) (titlesFrom 0 before)
      (titlePlaces 0 before) := List.Forall₂.flip htells
    have hboth := hentries.imp fun _ _ h => And.intro (TellsRow.isCollapsed h) h
    exact ((List.forall₂_and_left _ _).mp hboth).1
  refine ⟨titlePlaces 0 before, titlesFrom 0 before, ?_, pairwise_titlePlaces 0 before,
    fun place hplace => ?_, fun place row hrow => ?_, htells, hnormal,
    fun html hread => candidates_eq_ok_iff.mpr ⟨page, before, hread, hrows, rfl⟩⟩
  · rw [titlesOf, hrows]
    rfl
  · obtain ⟨row, hrow, -⟩ := mem_titlePlaces_iff.mp hplace
    exact (List.getElem?_eq_some_iff.mp hrow).1
  · rw [mem_titlePlaces_iff, hrow, ← Option.isSome_iff_exists]
    simp [rowTitle?]

/-- A row whose title cell holds two texts, the second one within an element of its own. -/
def titledRow (first second : Text) (next : Forest) : Forest :=
  .element "tr".toList []
    (.element "td".toList [("class".toList, "x title".toList)]
      (.leaf (.text .page) first
        (.element "b".toList [] (.leaf (.text .page) second .nil) .nil)) .nil) next

/-- A listing of three rows, the second one without a title cell. In the others blanks of many kinds
stand around the words and between them. -/
def spacedListing : Forest :=
  .element "table".toList [("id".toList, "topic_list".toList)]
    (.element "tbody".toList []
      (titledRow ['\u2028', 'a', '\x1f'] ['\u3000', 'b', '\n']
        (.element "tr".toList [] .nil (titledRow ['\x85'] ['\xa0'] .nil))) .nil) .nil

theorem titlesOf_lists_words_spaced :
    ∃ before places, rows spacedListing = .ok before ∧ before.length = 3 ∧
      titlesOf spacedListing = .ok [(['0'], ['a', ' ', 'b']), (['2'], [])] ∧
      List.Forall₂ (TellsRow before) places [(['0'], ['a', ' ', 'b']), (['2'], [])] ∧
      IsCollapsed ['a', ' ', 'b'] := by
  obtain ⟨before, hrows⟩ : ∃ before, rows spacedListing = .ok before := ⟨_, rfl⟩
  have hlength : before.length = 3 := by
    obtain rfl := Except.ok.inj hrows
    rfl
  have htitles : titlesOf spacedListing = .ok [(['0'], ['a', ' ', 'b']), (['2'], [])] := by decide
  obtain ⟨places, entries, hentries, -, -, -, htells, hnormal, -⟩ := titlesOf_lists_words hrows
  obtain rfl := Except.ok.inj (hentries.symm.trans htitles)
  exact ⟨before, places, hrows, hlength, htitles, htells, (hnormal _ List.mem_cons_self).1⟩

end TitleSieve.Listing
